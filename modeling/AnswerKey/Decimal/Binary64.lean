namespace AnswerKey
namespace Decimal

/-!
Double-precision numbers as bit patterns, with exact rounding from rational numbers.  Everything is
natural-number arithmetic: a positive finite value is `m · 2^q` with `m < 2^53` and `-1074 ≤ q`.
-/

/-- A double-precision number, known by its bit pattern. -/
structure Binary64 where
  bits : UInt64
  deriving DecidableEq, Repr

namespace Binary64

def zero : Binary64 := ⟨0⟩

def infinity : Binary64 := ⟨0x7ff0000000000000⟩

def nan : Binary64 := ⟨0x7ff8000000000000⟩

/-- The sign bit. -/
def isNegative (x : Binary64) : Bool :=
  x.bits.toNat / Nat.pow 2 63 == 1

def neg (x : Binary64) : Binary64 :=
  ⟨x.bits ^^^ 0x8000000000000000⟩

/-- The bits below the sign: exponent field and fraction. -/
def magnitude (x : Binary64) : Nat :=
  x.bits.toNat % Nat.pow 2 63

def isZero (x : Binary64) : Bool :=
  x.magnitude == 0

def isInfinite (x : Binary64) : Bool :=
  x.magnitude == 0x7ff0000000000000

def isNan (x : Binary64) : Bool :=
  0x7ff0000000000000 < x.magnitude

def isFinite (x : Binary64) : Bool :=
  x.magnitude < 0x7ff0000000000000

/-- Strictly greater than zero; false of a value that is not a number. -/
def isPositive (x : Binary64) : Bool :=
  !x.isNegative && !x.isZero && !x.isNan

/-- Significand and exponent of a finite magnitude: the value is `m · 2^q`. -/
def significand (x : Binary64) : Nat × Int :=
  let field : Nat := x.magnitude / Nat.pow 2 52
  let fraction : Nat := x.magnitude % Nat.pow 2 52
  if field = 0 then (fraction, -1074) else (fraction + Nat.pow 2 52, (field : Int) - 1075)

/-- The magnitude of a finite value as a quotient of natural numbers. -/
def ratio (x : Binary64) : Nat × Nat :=
  let (m, q) := x.significand
  if 0 ≤ q then (m * Nat.pow 2 q.toNat, 1) else (m, Nat.pow 2 (-q).toNat)

/-- A quotient rounded to the nearest natural number, ties to the even one. -/
def roundQuotient (numerator denominator : Nat) : Nat :=
  let whole := numerator / denominator
  let doubled := 2 * (numerator % denominator)
  if doubled < denominator then whole
  else if denominator < doubled then whole + 1
  else whole + whole % 2

/-- The bit pattern of `m · 2^q`, where `m ≤ 2^53` and `q` is the least exponent that fits it. -/
def pack (m : Nat) (q : Int) : Binary64 :=
  let (m, q) := if m = Nat.pow 2 53 then (Nat.pow 2 52, q + 1) else (m, q)
  if 971 < q then infinity
  else if m < Nat.pow 2 52 then ⟨UInt64.ofNat m⟩
  else ⟨UInt64.ofNat ((q + 1075).toNat * Nat.pow 2 52 + (m - Nat.pow 2 52))⟩

/-- The double nearest to a quotient of positive natural numbers, ties to the even significand. -/
def ofRatio (numerator denominator : Nat) : Binary64 :=
  if numerator = 0 then zero
  else
    let guess : Int := (Nat.log2 numerator : Int) - Nat.log2 denominator - 52
    let scaled (q : Int) : Nat × Nat :=
      if 0 ≤ q then (numerator, denominator * Nat.pow 2 q.toNat)
      else (numerator * Nat.pow 2 (-q).toNat, denominator)
    let (n, d) := scaled guess
    let least := if n / d < Nat.pow 2 52 then guess - 1 else guess
    let q := if least < -1074 then -1074 else least
    let (n, d) := scaled q
    pack (roundQuotient n d) q

/-- The double nearest to `digits · 10^exponent`.  Exponents far outside the range of doubles are
settled before any power is computed. -/
def ofDecimal (digits : Nat) (exponent : Int) : Binary64 :=
  if digits = 0 then zero
  else
    let top : Int := (Nat.log2 digits : Int) * 30103 / 100000 + exponent
    if 310 < top then infinity
    else if top < -330 then zero
    else if 0 ≤ exponent then ofRatio (digits * Nat.pow 10 exponent.toNat) 1
    else ofRatio digits (Nat.pow 10 (-exponent).toNat)

/-- The double nearest to an integer. -/
def ofInt (n : Int) : Binary64 :=
  let x := ofRatio n.natAbs 1
  if n < 0 then x.neg else x

end Binary64

end Decimal
end AnswerKey
