import Mathlib.Algebra.Order.Field.Basic
import Mathlib.Algebra.Order.Field.Power
import Mathlib.Algebra.Order.Field.Rat
import Mathlib.Data.Nat.Cast.Order.Field
import Mathlib.Data.Nat.Log
import Mathlib.Tactic.FieldSimp
import Mathlib.Tactic.Linarith
import Mathlib.Tactic.NormNum
import Mathlib.Tactic.Positivity
import Mathlib.Tactic.Ring
import AnswerKey.Decimal.Binary64

namespace AnswerKey
namespace Decimal
namespace Binary64

/-!
Rounding of quotients to doubles.

A quotient is scaled by the power of two that leaves 53 binary digits in front of the point, or fewer
where the least exponent of a double is reached, and then rounded to the nearest natural number
(`isRounded_ofRatio`).  That determines the double (`IsRounded.unique`), whatever the quotient is
written as.
-/

/-! ### Nearest numbers -/

/-- A natural number that is nearest to a rational one, and the even one of two. -/
def IsNearest (m : Nat) (r : ℚ) : Prop :=
  2 * |(m : ℚ) - r| < 1 ∨ 2 * |(m : ℚ) - r| = 1 ∧ m % 2 = 0

section Nearest

variable {n d m m' : Nat} {r : ℚ}

theorem isNearest_roundQuotient (positive : 0 < d) :
    IsNearest (roundQuotient n d) ((n : ℚ) / d) := by
  have less : n % d < d := Nat.mod_lt n positive
  have nonzero : (0 : ℚ) < d := by exact_mod_cast positive
  have behind : (n : ℚ) / d = (n / d : Nat) + ((n % d : Nat) : ℚ) / d := by
    have split : (n : ℚ) = d * (n / d : Nat) + (n % d : Nat) := by
      exact_mod_cast (Nat.div_add_mod n d).symm
    rw [eq_comm, ← sub_eq_zero]
    field_simp
    linarith
  rw [behind, roundQuotient]
  generalize n / d = whole
  generalize n % d = left at less
  have share : (0 : ℚ) ≤ left / d := by positivity
  have doubled : 2 * ((left : ℚ) / d) * d = 2 * left := by field_simp
  split
  · next low =>
      left
      have low : (2 : ℚ) * left < d := by exact_mod_cast low
      rw [show (whole : ℚ) - (whole + left / d) = -(left / d) by ring, abs_neg, abs_of_nonneg share]
      nlinarith
  · split
    · next high =>
        left
        have high : (d : ℚ) < 2 * left := by exact_mod_cast high
        have less : (left : ℚ) < d := by exact_mod_cast less
        have part : (left : ℚ) / d ≤ 1 := (div_le_one nonzero).mpr less.le
        rw [show ((whole + 1 : Nat) : ℚ) - (whole + left / d) = 1 - left / d by push_cast; ring,
          abs_of_nonneg (by linarith)]
        nlinarith
    · next notLow notHigh =>
        have same : 2 * left = d := by omega
        have half : (left : ℚ) / d = 1 / 2 := by
          rw [← same]
          have filled : (left : ℚ) ≠ 0 := by
            intro zero
            have : left = 0 := by exact_mod_cast zero
            omega
          push_cast
          field_simp
        right
        rw [half]
        refine ⟨?_, by omega⟩
        rcases Nat.mod_two_eq_zero_or_one whole with even | odd
        · rw [even, Nat.add_zero, show (whole : ℚ) - (whole + 1 / 2) = -(1 / 2) by ring, abs_neg]
          norm_num
        · rw [odd, show ((whole + 1 : Nat) : ℚ) - (whole + 1 / 2) = 1 / 2 by push_cast; ring]
          norm_num

theorem IsNearest.unique (first : IsNearest m r) (second : IsNearest m' r) : m = m' := by
  have apart : |(m : ℚ) - m'| ≤ |(m : ℚ) - r| + |(m' : ℚ) - r| := by
    rw [abs_sub_comm (m' : ℚ) r]
    exact abs_sub_le _ _ _
  have near : |(m : ℤ) - m'| ≤ 1 := by
    have bound : |(m : ℚ) - m'| ≤ 1 := by
      rcases first with first | ⟨first, -⟩ <;> rcases second with second | ⟨second, -⟩ <;> linarith
    exact_mod_cast bound
  by_contra different
  have one : |(m : ℚ) - m'| = 1 := by
    have one : |(m : ℤ) - m'| = 1 := by
      have filled : (m : ℤ) - m' ≠ 0 := by omega
      have := Int.one_le_abs filled
      omega
    exact_mod_cast one
  rw [one] at apart
  rcases first with first | ⟨first, even⟩ <;> rcases second with second | ⟨second, even'⟩
  · linarith
  · linarith
  · linarith
  · have := abs_le.mp near
    omega

theorem IsNearest.le {bound : Nat} (nearest : IsNearest m r) (below : r < bound) : m ≤ bound := by
  by_contra more
  have more : (bound : ℚ) + 1 ≤ m := by exact_mod_cast not_le.mp more
  have far : 1 < |(m : ℚ) - r| := lt_of_lt_of_le (by linarith) (le_abs_self _)
  rcases nearest with nearest | ⟨nearest, -⟩ <;> linarith

end Nearest

/-! ### Scales -/

/-- The exponent at which a positive number is rounded. -/
structure IsScale (v : ℚ) (q : ℤ) : Prop where
  least : -1074 ≤ q
  below : v < 2 ^ 53 * (2 : ℚ) ^ q
  filled : q = -1074 ∨ 2 ^ 52 * (2 : ℚ) ^ q ≤ v

/-- The double that a positive number is rounded to. -/
def IsRounded (v : ℚ) (x : Binary64) : Prop :=
  ∃ q m, IsScale v q ∧ IsNearest m (v / 2 ^ q) ∧ x = pack m q

section Scales

variable {v : ℚ} {q q' : ℤ} {x x' : Binary64}

theorem IsScale.le (scale : IsScale v q) (other : IsScale v q') : q ≤ q' := by
  by_contra less
  rcases scale.filled with least | filled
  · have := other.least
    omega
  · have grow : (2 : ℚ) ^ (q' + 1) ≤ 2 ^ q := zpow_le_zpow_right₀ (by norm_num) (by omega)
    rw [zpow_add_one₀ (by norm_num)] at grow
    have := other.below
    nlinarith

theorem IsScale.unique (scale : IsScale v q) (other : IsScale v q') : q = q' :=
  le_antisymm (scale.le other) (other.le scale)

theorem IsRounded.unique (rounded : IsRounded v x) (other : IsRounded v x') : x = x' := by
  obtain ⟨q, m, scale, nearest, rfl⟩ := rounded
  obtain ⟨q', m', scale', nearest', rfl⟩ := other
  obtain rfl := scale.unique scale'
  rw [nearest.unique nearest']

end Scales

section Ratio

variable {n d : Nat}

theorem zpow_two_toNat {q : ℤ} (positive : 0 ≤ q) : ((2 ^ q.toNat : Nat) : ℚ) = (2 : ℚ) ^ q := by
  conv_rhs => rw [← Int.toNat_of_nonneg positive]
  push_cast
  rw [zpow_natCast]

/-- A quotient scaled by a power of two, as a quotient. -/
theorem scaled_ratio (q : ℤ) :
    let scaled := if 0 ≤ q then (n, d * Nat.pow 2 q.toNat) else (n * Nat.pow 2 (-q).toNat, d)
    (scaled.1 : ℚ) / scaled.2 = (n : ℚ) / d / 2 ^ q := by
  simp only [Nat.pow_eq]
  split
  · next positive =>
      simp only [Nat.cast_mul, zpow_two_toNat positive]
      rw [div_div]
  · next negative =>
      simp only [Nat.cast_mul, zpow_two_toNat (show 0 ≤ -q by omega), zpow_neg]
      field_simp

theorem scaled_pos (positive : 0 < d) (q : ℤ) :
    0 < (if 0 ≤ q then (n, d * Nat.pow 2 q.toNat) else (n * Nat.pow 2 (-q).toNat, d)).2 := by
  split
  · exact Nat.mul_pos positive (Nat.pow_pos (by norm_num))
  · exact positive

/-- The powers of two around a quotient. -/
theorem log2_bounds (filled : n ≠ 0) (positive : 0 < d) :
    (2 : ℚ) ^ ((n.log2 : ℤ) - d.log2 - 1) < n / d ∧ (n : ℚ) / d < 2 ^ ((n.log2 : ℤ) - d.log2 + 1) := by
  have denominator : (0 : ℚ) < d := by exact_mod_cast positive
  have low : ((2 : ℚ) ^ n.log2) ≤ n := by exact_mod_cast Nat.log2_self_le filled
  have high : (n : ℚ) < 2 ^ (n.log2 + 1) := by exact_mod_cast Nat.lt_log2_self
  have low' : ((2 : ℚ) ^ d.log2) ≤ d := by exact_mod_cast Nat.log2_self_le positive.ne'
  have high' : (d : ℚ) < 2 ^ (d.log2 + 1) := by exact_mod_cast Nat.lt_log2_self
  constructor
  · rw [show (n.log2 : ℤ) - d.log2 - 1 = (n.log2 : ℤ) - (d.log2 + 1 : Nat) by push_cast; ring,
      zpow_sub₀ (by norm_num), zpow_natCast, zpow_natCast,
      div_lt_div_iff₀ (by positivity) denominator]
    nlinarith [pow_pos (show (0 : ℚ) < 2 by norm_num) n.log2]
  · rw [show (n.log2 : ℤ) - d.log2 + 1 = (n.log2 + 1 : Nat) - (d.log2 : ℤ) by push_cast; ring,
      zpow_sub₀ (by norm_num), zpow_natCast, zpow_natCast,
      div_lt_div_iff₀ denominator (by positivity)]
    nlinarith [pow_pos (show (0 : ℚ) < 2 by norm_num) d.log2]

theorem isRounded_ofRatio (filled : n ≠ 0) (positive : 0 < d) :
    IsRounded ((n : ℚ) / d) (ofRatio n d) := by
  obtain ⟨low, high⟩ := log2_bounds filled positive
  rw [ofRatio, if_neg filled]
  simp only []
  set guess : ℤ := (n.log2 : ℤ) - d.log2 - 52 with guessed
  rw [show (n.log2 : ℤ) - d.log2 - 1 = 51 + guess by omega, zpow_add₀ (by norm_num)] at low
  rw [show (n.log2 : ℤ) - d.log2 + 1 = 53 + guess by omega, zpow_add₀ (by norm_num)] at high
  norm_cast at low high
  generalize hscaled : (if 0 ≤ guess then (n, d * Nat.pow 2 guess.toNat)
    else (n * Nat.pow 2 (-guess).toNat, d)) = scaled
  have ratio := scaled_ratio (n := n) (d := d) guess
  have scaledPositive := scaled_pos (n := n) positive guess
  rw [hscaled] at ratio scaledPositive
  generalize hleast : (if scaled.1 / scaled.2 < Nat.pow 2 52 then guess - 1 else guess) = least
  -- At the exponent that is chosen, 53 digits stand in front of the point.
  have exact : (n : ℚ) / d < 2 ^ 53 * (2 : ℚ) ^ least ∧ 2 ^ 52 * (2 : ℚ) ^ least ≤ n / d := by
    have power : (0 : ℚ) < 2 ^ guess := by positivity
    have denominator : (0 : ℚ) < scaled.2 := by exact_mod_cast scaledPositive
    rw [← hleast]
    split
    · next small =>
        have small : ((n : ℚ) / d) / 2 ^ guess < 2 ^ 52 := by
          rw [← ratio, div_lt_iff₀ denominator]
          exact_mod_cast (Nat.div_lt_iff_lt_mul scaledPositive).mp small
        rw [div_lt_iff₀ power] at small
        rw [zpow_sub_one₀ (by norm_num)]
        constructor <;> linarith
    · next large =>
        have large : (2 : ℚ) ^ 52 ≤ ((n : ℚ) / d) / 2 ^ guess := by
          rw [← ratio, le_div_iff₀ denominator]
          exact_mod_cast (Nat.le_div_iff_mul_le scaledPositive).mp (not_lt.mp large)
        rw [le_div_iff₀ power] at large
        exact ⟨high, large⟩
  clear hleast
  refine ⟨if least < -1074 then -1074 else least, _, ?_, ?_, rfl⟩
  · split
    · next small =>
        refine ⟨le_rfl, exact.1.trans_le ?_, .inl rfl⟩
        exact mul_le_mul_of_nonneg_left (zpow_le_zpow_right₀ (by norm_num) (by omega)) (by norm_num)
    · next large => exact ⟨by omega, exact.1, .inr exact.2⟩
  · have := isNearest_roundQuotient (n := (if 0 ≤ (if least < -1074 then -1074 else least) then
        (n, d * Nat.pow 2 (if least < -1074 then -1074 else least).toNat)
      else (n * Nat.pow 2 (-(if least < -1074 then -1074 else least)).toNat, d)).1)
      (scaled_pos (n := n) positive (if least < -1074 then -1074 else least))
    rwa [scaled_ratio] at this

end Ratio

/-! ### Packed numbers -/

section Packing

variable {m : Nat} {q : ℤ} {x : Binary64} {v : ℚ}

theorem toNat_bits_of_lt {bits : Nat} (small : bits < 2 ^ 63) :
    (UInt64.ofNat bits).toNat = bits := by
  rw [UInt64.toNat_ofNat']
  exact Nat.mod_eq_of_lt (by omega)

/-- A double whose bits are a magnitude. -/
theorem isValid_of_bits {bits : Nat} (small : bits ≤ 0x7ff0000000000000) :
    isNegative ⟨UInt64.ofNat bits⟩ = false ∧ isNan ⟨UInt64.ofNat bits⟩ = false := by
  have same : (UInt64.ofNat bits).toNat = bits := toNat_bits_of_lt (by omega)
  simp only [isNegative, isNan, magnitude, same, Nat.pow_eq, beq_eq_false_iff_ne,
    decide_eq_false_iff_not]
  omega

theorem isValid_pack (most : m ≤ 2 ^ 53) (least : -1074 ≤ q) :
    (pack m q).isNegative = false ∧ (pack m q).isNan = false := by
  have infinite : infinity.isNegative = false ∧ infinity.isNan = false := by decide
  rw [pack]
  simp only [Nat.pow_eq]
  split
  · next whole =>
      split
      · exact infinite
      · refine isValid_of_bits ?_
        have : (q + 1 + 1075).toNat ≤ 2046 := by omega
        omega
  · next part =>
      split
      · exact infinite
      · split
        · exact isValid_of_bits (by omega)
        · refine isValid_of_bits ?_
          have : (q + 1075).toNat ≤ 2046 := by omega
          omega

theorem IsRounded.isValid (rounded : IsRounded v x) : x.isNegative = false ∧ x.isNan = false := by
  obtain ⟨q, m, scale, nearest, rfl⟩ := rounded
  refine isValid_pack (nearest.le ?_) scale.least
  rw [div_lt_iff₀ (by positivity)]
  exact_mod_cast scale.below

/-- A positive finite number is its significand, scaled. -/
theorem pack_significand (noSign : x.isNegative = false) (finite : x.isFinite = true) :
    pack x.significand.1 x.significand.2 = x := by
  obtain ⟨bits⟩ := x
  have small : bits.toNat < 2 ^ 63 := by
    have := bits.toNat_lt
    simp only [isNegative, Nat.pow_eq, beq_eq_false_iff_ne] at noSign
    omega
  have whole : magnitude ⟨bits⟩ = bits.toNat := Nat.mod_eq_of_lt small
  have finite : bits.toNat < 0x7ff0000000000000 := by
    simpa [isFinite, whole] using finite
  have same {other : Nat} (equal : other = bits.toNat) :
      (⟨UInt64.ofNat other⟩ : Binary64) = ⟨bits⟩ := by
    rw [equal, UInt64.ofNat_toNat]
  simp only [significand, whole, Nat.pow_eq]
  split
  · next low =>
      rw [pack, if_neg (show bits.toNat % 2 ^ 52 ≠ Nat.pow 2 53 by rw [Nat.pow_eq]; omega)]
      simp only [Nat.pow_eq]
      rw [if_neg (by omega), if_pos (by omega)]
      exact same (by omega)
  · next high =>
      rw [pack, if_neg (show bits.toNat % 2 ^ 52 + 2 ^ 52 ≠ Nat.pow 2 53 by rw [Nat.pow_eq]; omega)]
      simp only [Nat.pow_eq]
      rw [if_neg (by omega), if_neg (by omega)]
      exact same (by omega)

/-- The significand of a finite number fills its 53 digits or has the least exponent. -/
theorem significand_bounds (finite : x.isFinite = true) :
    x.significand.1 < 2 ^ 53 ∧ -1074 ≤ x.significand.2 ∧ x.significand.2 ≤ 971 ∧
      (x.significand.2 = -1074 ∨ 2 ^ 52 ≤ x.significand.1) := by
  simp only [isFinite, decide_eq_true_eq] at finite
  simp only [significand, Nat.pow_eq]
  split
  · refine ⟨?_, ?_, ?_, .inl rfl⟩ <;> simp only <;> omega
  · refine ⟨?_, ?_, ?_, .inr ?_⟩ <;> simp only <;> omega

/-- A significand of 54 digits takes the next exponent. -/
theorem pack_carry (q : ℤ) : pack (2 ^ 53) (q - 1) = pack (2 ^ 52) q := by
  rw [pack, pack, if_pos (show 2 ^ 53 = Nat.pow 2 53 from rfl),
    if_neg (show ¬ 2 ^ 52 = Nat.pow 2 53 by decide), sub_add_cancel]
  rfl

/-- A number near enough to a double is rounded to it. -/
theorem isRounded_of_near (noSign : x.isNegative = false) (finite : x.isFinite = true)
    (positive : 0 < v) (near : 4 * |v / 2 ^ x.significand.2 - x.significand.1| < 1) :
    IsRounded v x := by
  obtain ⟨most, least, top, filled⟩ := significand_bounds finite
  have whole := pack_significand noSign finite
  generalize x.significand.1 = m at *
  generalize x.significand.2 = q at *
  have power : (0 : ℚ) < 2 ^ q := by positivity
  obtain ⟨low, high⟩ := abs_lt.mp (show |v / 2 ^ q - m| < 1 / 4 by linarith)
  have most : (m : ℚ) + 1 ≤ 2 ^ 53 := by exact_mod_cast most
  have below : v < 2 ^ 53 * 2 ^ q := by
    rw [← div_lt_iff₀ power]
    linarith
  by_cases full : q = -1074 ∨ 2 ^ 52 * (2 : ℚ) ^ q ≤ v
  · refine ⟨q, m, ⟨least, below, full⟩, .inl ?_, whole.symm⟩
    rw [abs_sub_comm]
    linarith
  · -- Just below a power of two the numbers are twice as dense.
    obtain ⟨more, less⟩ := not_or.mp full
    rw [not_le, ← div_lt_iff₀ power] at less
    have filled := filled.resolve_left more
    have atLeast : (2 : ℚ) ^ 52 ≤ m := by exact_mod_cast filled
    obtain rfl : m = 2 ^ 52 := by
      have : (m : ℚ) < 2 ^ 52 + 1 := by linarith
      have : m < 2 ^ 52 + 1 := by exact_mod_cast this
      omega
    have halved : v / 2 ^ (q - 1) = 2 * (v / 2 ^ q) := by
      rw [zpow_sub_one₀ (by norm_num)]
      field_simp
    have powerBelow : (0 : ℚ) < 2 ^ (q - 1) := by positivity
    push_cast at low high
    refine ⟨q - 1, 2 ^ 53, ⟨by omega, ?_, .inr ?_⟩, .inl ?_, ?_⟩
    · rw [← div_lt_iff₀ powerBelow, halved]
      linarith
    · rw [← le_div_iff₀ powerBelow, halved]
      linarith
    · rw [halved]
      push_cast
      rw [abs_of_pos (by linarith)]
      linarith
    · rw [← whole, pack_carry]

end Packing

end Binary64
end Decimal
end AnswerKey
