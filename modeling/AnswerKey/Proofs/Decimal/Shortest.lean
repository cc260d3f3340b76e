import AnswerKey.Decimal.Shortest
import AnswerKey.Proofs.Decimal.Rounding

namespace AnswerKey
namespace Decimal

/-!
The shortest decimal digits of a double read back as the double.

A grid of eighteen digits is finer than the distance of two doubles, so one of its points is rounded
to the number (`candidate?_isSome`); and numbers that are rounded to a double are far from the bounds
at which digits are given up as too great or too small (`ofDecimal_of_isRounded`).
-/

open Binary64

/-! ### Powers of two and of ten -/

/-- Powers of ten next to the powers of two whose exponents occur. -/
theorem powers_near : ∀ n ≤ 1200,
    10 ^ (n * 30103 / 100000) ≤ 2 ^ (n + 1) ∧ 2 ^ n ≤ 10 ^ (n * 30103 / 100000 + 1) ∧
      2 ^ n ≤ 10 ^ ((n * 30103 + 99999) / 100000) * 2 ∧
      10 ^ ((n * 30103 + 99999) / 100000) ≤ 2 ^ n * 100 := by
  decide +kernel

theorem power_bounds {n : ℤ} (low : -1200 ≤ n) (high : n ≤ 1200) :
    (10 : ℚ) ^ (n * 30103 / 100000) ≤ 2 ^ (n + 1) ∧
      (2 : ℚ) ^ n ≤ 10 ^ (n * 30103 / 100000 + 2) := by
  rcases Int.eq_nat_or_neg n with ⟨k, rfl | rfl⟩
  · obtain ⟨first, second, -, -⟩ := powers_near k (by omega)
    have quotient : (k : ℤ) * 30103 / 100000 = ((k * 30103 / 100000 : Nat) : ℤ) := by norm_cast
    rw [quotient]
    generalize k * 30103 / 100000 = m at *
    have first : (10 : ℚ) ^ m ≤ 2 ^ (k + 1) := by exact_mod_cast first
    have second : (2 : ℚ) ^ k ≤ 10 ^ (m + 1) := by exact_mod_cast second
    norm_cast at *
    exact ⟨first, second.trans (Nat.pow_le_pow_right (by norm_num) (by omega))⟩
  · obtain ⟨-, -, first, second⟩ := powers_near k (by omega)
    have quotient : (-(k : ℤ)) * 30103 / 100000 = -(((k * 30103 + 99999) / 100000 : Nat) : ℤ) := by
      push_cast
      omega
    rw [quotient]
    generalize (k * 30103 + 99999) / 100000 = m at *
    have first : (2 : ℚ) ^ k ≤ 10 ^ m * 2 := by exact_mod_cast first
    have second : (10 : ℚ) ^ m ≤ 2 ^ k * 100 := by exact_mod_cast second
    rw [zpow_add₀ (by norm_num), zpow_add₀ (by norm_num), zpow_neg, zpow_neg, zpow_natCast,
      zpow_natCast]
    constructor
    · rw [zpow_one, inv_mul_eq_div, inv_le_comm₀ (by positivity) (by positivity), inv_div]
      linarith
    · rw [inv_mul_eq_div, le_div_iff₀ (by positivity), inv_mul_le_iff₀ (by positivity)]
      norm_num
      linarith

/-! ### Digits and exponents -/

section Decimals

variable {digits : Nat} {exponent : ℤ} {x : Binary64} {v : ℚ}

/-- What digits and an exponent are rounded to where they are not given up. -/
theorem isRounded_of_decimal (filled : digits ≠ 0) :
    IsRounded (digits * 10 ^ exponent)
      (if 0 ≤ exponent then ofRatio (digits * Nat.pow 10 exponent.toNat) 1
        else ofRatio digits (Nat.pow 10 (-exponent).toNat)) := by
  have power {k : ℤ} (positive : 0 ≤ k) : ((Nat.pow 10 k.toNat : Nat) : ℚ) = (10 : ℚ) ^ k := by
    conv_rhs => rw [← Int.toNat_of_nonneg positive]
    rw [zpow_natCast, Nat.pow_eq]
    push_cast
    rfl
  split
  · next positive =>
      have rounded := isRounded_ofRatio (n := digits * Nat.pow 10 exponent.toNat) (d := 1)
        (Nat.mul_ne_zero filled (Nat.pow_pos (by norm_num)).ne') Nat.one_pos
      rwa [Nat.cast_mul, power positive, Nat.cast_one, div_one] at rounded
  · next negative =>
      have rounded := isRounded_ofRatio (n := digits) (d := Nat.pow 10 (-exponent).toNat) filled
        (Nat.pow_pos (by norm_num))
      rwa [power (by omega), zpow_neg, div_inv_eq_mul] at rounded

theorem pack_of_large {m : Nat} {q : ℤ} (large : 971 < q) : pack m q = infinity := by
  rw [pack]
  by_cases full : m = Nat.pow 2 53
  · rw [if_pos full]
    exact if_pos (by omega)
  · rw [if_neg full]
    exact if_pos large

/-- A number that is rounded to a positive finite double has about its size. -/
theorem IsRounded.bounds (rounded : IsRounded v x) (finite : x.isFinite = true)
    (filled : x.isZero = false) : (2 : ℚ) ^ (-1075 : ℤ) ≤ v ∧ v < 2 ^ (1024 : ℤ) := by
  obtain ⟨q, m, scale, nearest, rfl⟩ := rounded
  have power : (0 : ℚ) < 2 ^ q := by positivity
  have least : (2 : ℚ) ^ (-1074 : ℤ) ≤ 2 ^ q := zpow_le_zpow_right₀ (by norm_num) scale.least
  constructor
  · have some : 1 ≤ m := by
      rw [Nat.one_le_iff_ne_zero]
      rintro rfl
      have : pack 0 q = if 971 < q then infinity else ⟨0⟩ := rfl
      rw [this] at finite filled
      split at finite
      · exact absurd finite (by decide)
      · next small =>
          rw [if_neg small] at filled
          exact absurd filled (by decide)
    have some : (1 : ℚ) ≤ m := by exact_mod_cast some
    have near : 2 * |(m : ℚ) - v / 2 ^ q| ≤ 1 := by
      rcases nearest with nearest | ⟨nearest, -⟩ <;> linarith
    have half : 1 / 2 ≤ v / 2 ^ q := by linarith [le_abs_self ((m : ℚ) - v / 2 ^ q)]
    rw [le_div_iff₀ power] at half
    rw [show (-1075 : ℤ) = -1074 - 1 by norm_num, zpow_sub_one₀ (by norm_num)]
    linarith
  · have small : q ≤ 971 := by
      by_contra large
      rw [pack_of_large (by omega)] at finite
      exact absurd finite (by decide)
    have most : (2 : ℚ) ^ q ≤ 2 ^ (971 : ℤ) := zpow_le_zpow_right₀ (by norm_num) small
    refine scale.below.trans_le ?_
    rw [show (1024 : ℤ) = 53 + 971 by norm_num, zpow_add₀ (by norm_num)]
    exact mul_le_mul_of_nonneg_left most (by norm_num)

/-- The bounds at which digits are given up lie far from every double. -/
theorem top_bounds (filled : digits ≠ 0) (few : digits < 2 ^ 200)
    (low : (2 : ℚ) ^ (-1075 : ℤ) ≤ digits * 10 ^ exponent)
    (high : (digits : ℚ) * 10 ^ exponent < 2 ^ (1024 : ℤ)) :
    -330 ≤ (digits.log2 : ℤ) * 30103 / 100000 + exponent ∧
      (digits.log2 : ℤ) * 30103 / 100000 + exponent ≤ 310 := by
  have short : digits.log2 < 200 := (Nat.log2_lt filled).mpr few
  obtain ⟨first, -⟩ := power_bounds (n := digits.log2) (by omega) (by omega)
  obtain ⟨-, second⟩ := power_bounds (n := digits.log2 + 1) (by omega) (by omega)
  have atLeast : ((2 : ℚ) ^ (digits.log2 : ℤ)) ≤ digits := by
    exact_mod_cast Nat.log2_self_le filled
  have below : (digits : ℚ) < 2 ^ ((digits.log2 : ℤ) + 1) := by
    exact_mod_cast (Nat.lt_log2_self (n := digits))
  have power : (0 : ℚ) < 10 ^ exponent := by positivity
  have tens : (1 : ℚ) < 10 := by norm_num
  have more : ((digits.log2 : ℤ) + 1) * 30103 / 100000 ≤ (digits.log2 : ℤ) * 30103 / 100000 + 1 := by
    omega
  have low : (10 : ℚ) ^ (-324 : ℤ) ≤ digits * 10 ^ exponent :=
    (power_bounds (n := -1076) (by norm_num) (by norm_num)).1.trans low
  have high : (digits : ℚ) * 10 ^ exponent < 10 ^ (310 : ℤ) :=
    high.trans_le (power_bounds (n := 1024) (by norm_num) (by norm_num)).2
  generalize (digits.log2 : ℤ) * 30103 / 100000 = k at *
  generalize ((digits.log2 : ℤ) + 1) * 30103 / 100000 = k' at *
  constructor
  · have less : (10 : ℚ) ^ (-324 : ℤ) < 10 ^ (k' + 2 + exponent) := by
      calc (10 : ℚ) ^ (-324 : ℤ) ≤ digits * 10 ^ exponent := low
        _ < 10 ^ (k' + 2) * 10 ^ exponent :=
          mul_lt_mul_of_pos_right (below.trans_le second) power
        _ = 10 ^ (k' + 2 + exponent) := (zpow_add₀ (by norm_num) _ _).symm
    have := (zpow_lt_zpow_iff_right₀ tens).mp less
    omega
  · have less : (10 : ℚ) ^ (k + exponent) < 10 ^ (311 : ℤ) := by
      calc (10 : ℚ) ^ (k + exponent) = 10 ^ k * 10 ^ exponent := zpow_add₀ (by norm_num) _ _
        _ ≤ 2 ^ ((digits.log2 : ℤ) + 1) * 10 ^ exponent := by gcongr
        _ = 2 * (2 ^ (digits.log2 : ℤ) * 10 ^ exponent) := by
          rw [zpow_add_one₀ (by norm_num)]
          ring
        _ ≤ 2 * (digits * 10 ^ exponent) := by gcongr
        _ < 10 * 10 ^ (310 : ℤ) := by
          have positive : (0 : ℚ) < 10 ^ (310 : ℤ) := zpow_pos (by norm_num) _
          generalize (10 : ℚ) ^ (310 : ℤ) = most at *
          linarith
        _ = 10 ^ (311 : ℤ) := by
          rw [show (311 : ℤ) = 310 + 1 by norm_num, zpow_add_one₀ (by norm_num), mul_comm]
    have := (zpow_lt_zpow_iff_right₀ tens).mp less
    omega

/-- Digits that stand for a number near enough to a double are read as the double. -/
theorem ofDecimal_of_isRounded (filled : digits ≠ 0) (few : digits < 2 ^ 200)
    (finite : x.isFinite = true) (nonzero : x.isZero = false)
    (rounded : IsRounded (digits * 10 ^ exponent) x) : ofDecimal digits exponent = x := by
  obtain ⟨low, high⟩ := IsRounded.bounds rounded finite nonzero
  obtain ⟨notSmall, notLarge⟩ := top_bounds filled few low high
  rw [ofDecimal, if_neg filled]
  simp only []
  rw [if_neg (by omega), if_neg (by omega)]
  exact (isRounded_of_decimal filled).unique rounded

/-- What digits are read as is a number without a sign. -/
theorem isValid_ofDecimal (digits : Nat) (exponent : ℤ) :
    (ofDecimal digits exponent).isNegative = false ∧ (ofDecimal digits exponent).isNan = false := by
  rw [ofDecimal]
  split
  · decide
  · next filled =>
      simp only []
      split
      · decide
      · split
        · decide
        · exact (isRounded_of_decimal filled).isValid

/-- A positive finite double that digits are read as is what their value is rounded to. -/
theorem isRounded_of_ofDecimal (finite : x.isFinite = true) (nonzero : x.isZero = false)
    (read : ofDecimal digits exponent = x) :
    digits ≠ 0 ∧ IsRounded (digits * 10 ^ exponent) x := by
  have some : digits ≠ 0 := by
    rintro rfl
    rw [← read, ofDecimal, if_pos rfl] at nonzero
    exact absurd nonzero (by decide)
  refine ⟨some, ?_⟩
  rw [ofDecimal, if_neg some] at read
  simp only [] at read
  split at read
  · rw [← read] at finite
    exact absurd finite (by decide)
  · split at read
    · rw [← read] at nonzero
      exact absurd nonzero (by decide)
    · rw [← read]
      exact isRounded_of_decimal some

end Decimals

/-! ### The search for digits -/

section Search

variable {x : Binary64}

/-- The value of a finite double. -/
def valueOf (x : Binary64) : ℚ :=
  x.significand.1 * 2 ^ x.significand.2

theorem ratio_eq (x : Binary64) : (x.ratio.1 : ℚ) / x.ratio.2 = valueOf x := by
  rw [ratio, valueOf]
  generalize x.significand = found
  obtain ⟨m, q⟩ := found
  simp only []
  split
  · next positive =>
      simp only [Nat.cast_mul, Nat.pow_eq, zpow_two_toNat positive]
      simp
  · next negative =>
      simp only [Nat.pow_eq, zpow_two_toNat (show 0 ≤ -q by omega), zpow_neg]
      rw [div_inv_eq_mul]

theorem ratio_pos (x : Binary64) : 0 < x.ratio.2 := by
  rw [ratio]
  generalize x.significand = found
  obtain ⟨m, q⟩ := found
  simp only []
  split
  · exact Nat.one_pos
  · exact Nat.pow_pos (by norm_num)

theorem zpow_ten_toNat {k : ℤ} (positive : 0 ≤ k) : ((10 : ℚ) ^ k.toNat) = 10 ^ k := by
  conv_rhs => rw [← Int.toNat_of_nonneg positive]
  rw [zpow_natCast]

theorem decimalPoint_succ {n d : Nat} (positive : 0 < d) (fuel : Nat) (k : ℤ) :
    decimalPoint n d (fuel + 1) k =
      if (n : ℚ) / d < 10 ^ k then k else decimalPoint n d fuel (k + 1) := by
  have denominator : (0 : ℚ) < d := by exact_mod_cast positive
  rw [decimalPoint]
  simp only [Nat.pow_eq]
  split
  · next natural =>
      refine if_congr ?_ rfl rfl
      rw [div_lt_iff₀ denominator, ← zpow_ten_toNat natural, mul_comm]
      exact_mod_cast Iff.rfl
  · next negative =>
      refine if_congr ?_ rfl rfl
      rw [show k = -(-k) by omega, zpow_neg, ← zpow_ten_toNat (show 0 ≤ -k by omega),
        div_lt_iff₀ denominator, inv_mul_eq_div, lt_div_iff₀ (by positivity), neg_neg]
      exact_mod_cast Iff.rfl

/-- The point is where the search began, or the number reaches the power of ten below it. -/
theorem decimalPoint_spec {n d : Nat} (positive : 0 < d) (fuel : Nat) (k : ℤ) :
    k ≤ decimalPoint n d fuel k ∧
      (decimalPoint n d fuel k = k ∨ (10 : ℚ) ^ (decimalPoint n d fuel k - 1) ≤ n / d) := by
  induction fuel generalizing k with
  | zero => exact ⟨le_rfl, .inl rfl⟩
  | succ fuel ih =>
      rw [decimalPoint_succ positive]
      split
      · exact ⟨le_rfl, .inl rfl⟩
      · next above =>
          obtain ⟨low, reached⟩ := ih (k + 1)
          refine ⟨by omega, .inr ?_⟩
          rcases reached with same | reached
          · rw [same, add_sub_cancel_right]
            exact not_lt.mp above
          · exact reached

theorem significand_ne_zero (nonzero : x.isZero = false) : x.significand.1 ≠ 0 := by
  intro zero
  simp only [significand, isZero, beq_eq_false_iff_ne, Nat.pow_eq] at zero nonzero
  split at zero <;> simp only at zero <;> omega

theorem ratio_ne_zero (nonzero : x.isZero = false) : x.ratio.1 ≠ 0 := by
  have some := significand_ne_zero nonzero
  rw [ratio]
  simp only []
  split
  · exact Nat.mul_ne_zero some (Nat.pow_pos (by norm_num)).ne'
  · exact some

/-- A double that is not zero lies between the least and the greatest one. -/
theorem valueOf_bounds (finite : x.isFinite = true) (nonzero : x.isZero = false) :
    (2 : ℚ) ^ (-1074 : ℤ) ≤ valueOf x ∧ valueOf x < 2 ^ (1024 : ℤ) := by
  obtain ⟨most, least, top, -⟩ := significand_bounds finite
  have one : (1 : ℚ) ≤ x.significand.1 := by
    exact_mod_cast Nat.one_le_iff_ne_zero.mpr (significand_ne_zero nonzero)
  have below : (x.significand.1 : ℚ) < 2 ^ 53 := by exact_mod_cast most
  have power : (0 : ℚ) < 2 ^ x.significand.2 := by positivity
  constructor
  · calc (2 : ℚ) ^ (-1074 : ℤ) ≤ 2 ^ x.significand.2 := zpow_le_zpow_right₀ (by norm_num) least
      _ ≤ x.significand.1 * 2 ^ x.significand.2 := le_mul_of_one_le_left power.le one
  · calc (x.significand.1 : ℚ) * 2 ^ x.significand.2
        < 2 ^ 53 * 2 ^ x.significand.2 := mul_lt_mul_of_pos_right below power
      _ ≤ 2 ^ 53 * 2 ^ (971 : ℤ) :=
        mul_le_mul_of_nonneg_left (zpow_le_zpow_right₀ (by norm_num) top) (by norm_num)
      _ = 2 ^ (1024 : ℤ) := by
        rw [show (1024 : ℤ) = 53 + 971 by norm_num, zpow_add₀ (by norm_num)]
        rfl

/-- The point is chosen so that a grid of eighteen digits is fine and has few points below it. -/
theorem point_bounds (finite : x.isFinite = true) (nonzero : x.isZero = false) {point : ℤ}
    (chosen : point = decimalPoint x.ratio.1 x.ratio.2 8
      (((x.ratio.1.log2 : ℤ) - x.ratio.2.log2) * 30103 / 100000 - 1)) :
    (10 : ℚ) ^ (point - 1) ≤ 4 * valueOf x ∧ valueOf x ≤ 10 ^ (point + 4) := by
  obtain ⟨low, high⟩ := log2_bounds (ratio_ne_zero nonzero) (ratio_pos x)
  rw [ratio_eq] at low high
  have size := valueOf_bounds finite nonzero
  obtain ⟨reach, found⟩ := decimalPoint_spec (n := x.ratio.1) (ratio_pos x) 8
    (((x.ratio.1.log2 : ℤ) - x.ratio.2.log2) * 30103 / 100000 - 1)
  rw [ratio_eq] at found
  rw [← chosen] at reach found
  clear chosen
  have twos : (1 : ℚ) < 2 := by norm_num
  have above := (zpow_lt_zpow_iff_right₀ twos).mp (low.trans size.2)
  have below := (zpow_lt_zpow_iff_right₀ twos).mp (size.1.trans_lt high)
  generalize (x.ratio.1.log2 : ℤ) - x.ratio.2.log2 = n at *
  obtain ⟨first, second⟩ := power_bounds (n := n) (by omega) (by omega)
  obtain ⟨-, third⟩ := power_bounds (n := n + 1) (by omega) (by omega)
  have step : (n + 1) * 30103 / 100000 ≤ n * 30103 / 100000 + 1 := by omega
  have positive : 0 < valueOf x := lt_of_lt_of_le (zpow_pos (by norm_num) _) size.1
  generalize n * 30103 / 100000 = k at *
  generalize (n + 1) * 30103 / 100000 = k' at *
  constructor
  · rcases found with same | reached
    · calc (10 : ℚ) ^ (point - 1) ≤ 10 ^ k := zpow_le_zpow_right₀ (by norm_num) (by omega)
        _ ≤ 2 ^ (n + 1) := first
        _ = 4 * 2 ^ (n - 1) := by
          rw [show n + 1 = n - 1 + 2 by ring, zpow_add₀ (by norm_num)]
          norm_num
          ring
        _ ≤ 4 * valueOf x := by linarith
    · linarith
  · calc valueOf x ≤ 2 ^ (n + 1) := high.le
      _ ≤ 10 ^ (k' + 2) := third
      _ ≤ 10 ^ (point + 4) := zpow_le_zpow_right₀ (by norm_num) (by omega)

/-- A number as a multiple of the points of a grid. -/
theorem exists_quotient (x : Binary64) (exponent : ℤ) : ∃ n d : Nat,
    (if 0 ≤ exponent then (x.ratio.1, x.ratio.2 * Nat.pow 10 exponent.toNat)
      else (x.ratio.1 * Nat.pow 10 (-exponent).toNat, x.ratio.2)) = (n, d) ∧ 0 < d ∧
    (n : ℚ) / d = valueOf x / 10 ^ exponent := by
  rw [← ratio_eq]
  split
  · next natural =>
      refine ⟨_, _, rfl, Nat.mul_pos (ratio_pos x) (Nat.pow_pos (by norm_num)), ?_⟩
      rw [Nat.pow_eq]
      push_cast
      rw [zpow_ten_toNat natural, div_div]
  · next negative =>
      refine ⟨_, _, rfl, ratio_pos x, ?_⟩
      rw [Nat.pow_eq]
      push_cast
      rw [zpow_ten_toNat (show 0 ≤ -exponent by omega), zpow_neg]
      field_simp

/-- Of the points of a grid next to a number, the nearer one. -/
theorem near_of_quotient {n d : Nat} (positive : 0 < d) :
    let low := n / d
    let twice := 2 * (n % d)
    let nearest := if d < twice || (twice == d && low % 2 == 1) then low + 1 else low
    2 * |(nearest : ℚ) - n / d| ≤ 1 := by
  have rounded := isNearest_roundQuotient (n := n) positive
  have same : roundQuotient n d =
      if d < 2 * (n % d) || (2 * (n % d) == d && n / d % 2 == 1) then n / d + 1 else n / d := by
    rw [roundQuotient]
    simp only [Bool.or_eq_true, decide_eq_true_eq, Bool.and_eq_true, beq_iff_eq]
    split <;> split <;> first | omega | (split <;> omega)
  simp only [← same]
  rcases rounded with near | ⟨near, -⟩ <;> linarith

/-- A point of a fine grid is rounded to the number that it is next to. -/
theorem isRounded_of_close (noSign : x.isNegative = false) (finite : x.isFinite = true)
    {exponent : ℤ} {nearest : Nat} (fine : 2 * (10 : ℚ) ^ exponent < 2 ^ x.significand.2)
    (filled : nearest ≠ 0) (close : |(nearest : ℚ) - valueOf x / 10 ^ exponent| ≤ 1 / 2) :
    IsRounded (nearest * 10 ^ exponent) x := by
  have power : (0 : ℚ) < 2 ^ x.significand.2 := by positivity
  have share : (10 : ℚ) ^ exponent / 2 ^ x.significand.2 < 1 / 2 := by
    rw [div_lt_iff₀ power]
    linarith
  have sharePositive : (0 : ℚ) < 10 ^ exponent / 2 ^ x.significand.2 := by positivity
  refine isRounded_of_near noSign finite (by positivity) ?_
  have whole : (nearest : ℚ) * 10 ^ exponent / 2 ^ x.significand.2 - x.significand.1 =
      (nearest - valueOf x / 10 ^ exponent) * (10 ^ exponent / 2 ^ x.significand.2) := by
    rw [valueOf]
    field_simp
  rw [whole, abs_mul, abs_of_pos sharePositive]
  nlinarith [abs_nonneg ((nearest : ℚ) - valueOf x / 10 ^ exponent)]

/-- A grid that is fine enough has a point that reads back as the number. -/
theorem candidate?_isSome (noSign : x.isNegative = false) (finite : x.isFinite = true)
    (nonzero : x.isZero = false) {exponent : ℤ}
    (fine : 2 * (10 : ℚ) ^ exponent < 2 ^ x.significand.2)
    (few : valueOf x ≤ 10 ^ exponent * 10 ^ 30) (large : (10 : ℚ) ^ exponent ≤ valueOf x) :
    (candidate? x exponent).isSome = true := by
  have grid : (0 : ℚ) < 10 ^ exponent := by positivity
  obtain ⟨n, d, scaled, positive, value⟩ := exists_quotient x exponent
  have near := near_of_quotient (n := n) positive
  rw [candidate?]
  simp only [scaled]
  set low := n / d
  set twice := 2 * (n % d)
  generalize hnearest : (if d < twice || (twice == d && low % 2 == 1) then low + 1 else low) =
    nearest at near
  simp only [hnearest] at near
  rw [value] at near
  -- The nearer point is the one that is tried first.
  have first : (if (decide (d < twice) || (twice == d && low % 2 == 1)) = true then (low + 1, low)
      else (low, low + 1)).1 = nearest := by
    rw [← hnearest]
    split <;> rfl
  have close : |(nearest : ℚ) - valueOf x / 10 ^ exponent| ≤ 1 / 2 := by linarith
  obtain ⟨above, below⟩ := abs_le.mp close
  have atLeast : 1 ≤ valueOf x / 10 ^ exponent := (one_le_div grid).mpr large
  have filled : nearest ≠ 0 := by
    rintro zero
    rw [zero] at above
    push_cast at above
    linarith
  have short : nearest < 2 ^ 200 := by
    have most : valueOf x / 10 ^ exponent ≤ 10 ^ 30 := by
      rw [div_le_iff₀ grid]
      linarith
    have bound : (nearest : ℚ) ≤ (10 ^ 30 + 1 : Nat) := by
      push_cast
      linarith
    exact (show nearest ≤ 10 ^ 30 + 1 by exact_mod_cast bound).trans_lt (by norm_num)
  have rounded := isRounded_of_close noSign finite fine filled close
  have reads : ((ofDecimal nearest exponent).bits == x.bits) = true := by
    rw [ofDecimal_of_isRounded filled short finite nonzero rounded]
    exact beq_self_eq_true _
  rw [first, if_pos reads]
  rfl

/-- Digits that were found are read as the number, and are one of the points next to it. -/
theorem candidate?_spec {exponent : ℤ} {digits : Nat}
    (found : candidate? x exponent = some digits) :
    ofDecimal digits exponent = x ∧ (digits : ℚ) ≤ valueOf x / 10 ^ exponent + 1 := by
  have same {other : Nat} (reads : ((ofDecimal other exponent).bits == x.bits) = true) :
      ofDecimal other exponent = x := by
    have := eq_of_beq reads
    generalize ofDecimal other exponent = y at *
    obtain ⟨bits⟩ := y
    obtain ⟨bits'⟩ := x
    exact congrArg Binary64.mk this
  obtain ⟨n, d, scaled, -, value⟩ := exists_quotient x exponent
  have low : ((n / d : Nat) : ℚ) ≤ valueOf x / 10 ^ exponent := value ▸ Nat.cast_div_le
  have next {other : Nat} (one : other = n / d ∨ other = n / d + 1) :
      (other : ℚ) ≤ valueOf x / 10 ^ exponent + 1 := by
    rcases one with rfl | rfl
    · linarith
    · push_cast at low ⊢
      linarith
  rw [candidate?] at found
  simp only [scaled] at found
  generalize hpoints : (if (decide (d < 2 * (n % d)) || (2 * (n % d) == d && n / d % 2 == 1)) = true
    then (n / d + 1, n / d) else (n / d, n / d + 1)) = points at found
  have either : (points.1 = n / d ∨ points.1 = n / d + 1) ∧
      (points.2 = n / d ∨ points.2 = n / d + 1) := by
    rw [← hpoints]
    split <;> simp
  obtain ⟨first, second⟩ := points
  simp only [] at found
  split at found
  · next reads =>
      cases found
      exact ⟨same reads, next either.1⟩
  · split at found
    · next reads =>
        cases found
        exact ⟨same reads, next either.2⟩
    · cases found

/-- The search ends at the grid of a count for which it succeeds, or before. -/
theorem shortestFrom_spec {point : ℤ} {last : Nat}
    (success : (candidate? x (point - last)).isSome = true) (fuel count : Nat)
    (reach : count ≤ last) (enough : last < count + fuel) :
    ∃ digits exponent, candidate? x exponent = some digits ∧ point - last ≤ exponent ∧
      shortestFrom x point fuel count = dropZeros 20 digits exponent := by
  induction fuel generalizing count with
  | zero => omega
  | succ fuel ih =>
      rw [shortestFrom]
      cases found : candidate? x (point - count) with
      | some digits => exact ⟨digits, point - count, found, by omega, rfl⟩
      | none =>
          have more : count ≠ last := by
            rintro rfl
            rw [found] at success
            cases success
          exact ih (count + 1) (by omega) (by omega)

theorem dropZeros_spec {digits : Nat} (fuel : Nat) (exponent : ℤ) (filled : digits ≠ 0) :
    (dropZeros fuel digits exponent).1 ≠ 0 ∧ (dropZeros fuel digits exponent).1 ≤ digits ∧
      ((dropZeros fuel digits exponent).1 : ℚ) * 10 ^ (dropZeros fuel digits exponent).2 =
        digits * 10 ^ exponent := by
  induction fuel generalizing digits exponent with
  | zero => exact ⟨filled, le_rfl, rfl⟩
  | succ fuel ih =>
      rw [dropZeros]
      split
      · next found =>
          have whole : digits = 10 * (digits / 10) := by omega
          obtain ⟨some, less, same⟩ := ih (exponent + 1) (show digits / 10 ≠ 0 by omega)
          refine ⟨some, by omega, ?_⟩
          rw [same, zpow_add_one₀ (by norm_num)]
          conv_rhs => rw [whole]
          push_cast
          ring
      · exact ⟨filled, le_rfl, rfl⟩

/-- The finest grid that is tried has a point that reads back as the number. -/
theorem candidate?_finest (noSign : x.isNegative = false) (finite : x.isFinite = true)
    (nonzero : x.isZero = false) {point : ℤ} (low : (10 : ℚ) ^ (point - 1) ≤ 4 * valueOf x)
    (high : valueOf x ≤ 10 ^ (point + 4)) :
    (candidate? x (point - (18 : Nat))).isSome = true := by
  obtain ⟨most, -, -, -⟩ := significand_bounds finite
  have below : valueOf x ≤ 2 ^ 53 * 2 ^ x.significand.2 := by
    have : (x.significand.1 : ℚ) ≤ 2 ^ 53 := by exact_mod_cast most.le
    exact mul_le_mul_of_nonneg_right this (by positivity)
  have grid (above : ℕ) :
      (10 : ℚ) ^ (point - (18 : Nat) + above) = 10 ^ (point - (18 : Nat)) * 10 ^ above := by
    rw [← zpow_natCast, ← zpow_add₀ (by norm_num)]
  have positive : (0 : ℚ) < 10 ^ (point - (18 : Nat)) := by positivity
  have power : (0 : ℚ) < 2 ^ x.significand.2 := by positivity
  rw [show point - 1 = point - (18 : Nat) + (17 : Nat) by push_cast; ring, grid] at low
  rw [show point + 4 = point - (18 : Nat) + (22 : Nat) by push_cast; ring, grid] at high
  refine candidate?_isSome noSign finite nonzero ?_ ?_ ?_
  all_goals
    generalize (10 : ℚ) ^ (point - ((18 : Nat) : ℤ)) = step at *
    linarith

/-- The shortest digits of a positive finite number stand for a number that is rounded to it. -/
theorem shortest_spec (noSign : x.isNegative = false) (finite : x.isFinite = true)
    (nonzero : x.isZero = false) : (shortest x).1 ≠ 0 ∧ (shortest x).1 < 2 ^ 150 ∧
      IsRounded ((shortest x).1 * 10 ^ (shortest x).2) x := by
  rw [shortest]
  simp only []
  generalize chosen : decimalPoint x.ratio.1 x.ratio.2 8
    (((x.ratio.1.log2 : ℤ) - x.ratio.2.log2) * 30103 / 100000 - 1) = point
  obtain ⟨low, high⟩ := point_bounds finite nonzero chosen.symm
  obtain ⟨digits, exponent, found, least, result⟩ :=
    shortestFrom_spec (candidate?_finest noSign finite nonzero low high) 18 1 (by omega) (by omega)
  obtain ⟨read, next⟩ := candidate?_spec found
  obtain ⟨filled, rounded⟩ := isRounded_of_ofDecimal finite nonzero read
  obtain ⟨some, less, same⟩ := dropZeros_spec 20 exponent filled
  rw [result, same]
  refine ⟨some, less.trans_lt ?_, rounded⟩
  have most : valueOf x / 10 ^ exponent ≤ 10 ^ 22 := by
    rw [div_le_iff₀ (by positivity), mul_comm, ← zpow_natCast, ← zpow_add₀ (by norm_num)]
    exact high.trans (zpow_le_zpow_right₀ (by norm_num) (by push_cast; omega))
  have bound : (digits : ℚ) ≤ (10 ^ 22 + 1 : Nat) := by
    push_cast
    linarith
  exact (show digits ≤ 10 ^ 22 + 1 by exact_mod_cast bound).trans_lt (by norm_num)

/-- The shortest digits of a positive finite number read back as the number. -/
theorem ofDecimal_shortest (noSign : x.isNegative = false) (finite : x.isFinite = true)
    (nonzero : x.isZero = false) : ofDecimal (shortest x).1 (shortest x).2 = x := by
  obtain ⟨filled, few, rounded⟩ := shortest_spec noSign finite nonzero
  exact ofDecimal_of_isRounded filled (few.trans (by norm_num)) finite nonzero rounded

end Search

end Decimal
end AnswerKey
