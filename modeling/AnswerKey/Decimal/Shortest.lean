import AnswerKey.Decimal.Binary64

namespace AnswerKey
namespace Decimal

/-!
The shortest decimal text of a double: the fewest digits that read back as the same number, and of
those the nearest to it.  `shortest` chooses the digits in exact arithmetic; a `Layout` decides how
they are written.
-/

/-- Decimal digits of a natural number, most significant first. -/
def digitsOf (n : Nat) : List Char :=
  Nat.toDigits 10 n

/-- The least `k` at or above a starting point with `numerator / denominator < 10^k`, looked for in a
few steps. -/
def decimalPoint (numerator denominator : Nat) : (fuel : Nat) → Int → Int
  | 0, k => k
  | fuel + 1, k =>
      let below :=
        if 0 ≤ k then numerator < denominator * Nat.pow 10 k.toNat
        else numerator * Nat.pow 10 (-k).toNat < denominator
      if below then k else decimalPoint numerator denominator fuel (k + 1)

/-- Remove the trailing zeros of a digit count, raising the exponent instead. -/
def dropZeros : (fuel : Nat) → Nat → Int → Nat × Int
  | 0, digits, exponent => (digits, exponent)
  | fuel + 1, digits, exponent =>
      if digits ≠ 0 ∧ digits % 10 = 0 then dropZeros fuel (digits / 10) (exponent + 1)
      else (digits, exponent)

/-- The neighbours of a value on the decimal grid `10^exponent` that read back as the value, the
nearer one first chosen and the even one of a tie. -/
def candidate? (x : Binary64) (exponent : Int) : Option Nat :=
  let (numerator, denominator) := x.ratio
  let (n, d) :=
    if 0 ≤ exponent then (numerator, denominator * Nat.pow 10 exponent.toNat)
    else (numerator * Nat.pow 10 (-exponent).toNat, denominator)
  let low := n / d
  let twice := 2 * (n % d)
  let upFirst := d < twice || (twice == d && low % 2 == 1)
  let reads (digits : Nat) : Bool := (Binary64.ofDecimal digits exponent).bits == x.bits
  let (first, second) := if upFirst then (low + 1, low) else (low, low + 1)
  if reads first then some first else if reads second then some second else none

/-- Try grids of one digit, two digits and so on. -/
def shortestFrom (x : Binary64) (point : Int) : (fuel : Nat) → (count : Nat) → Nat × Int
  | 0, _ => (0, 0)
  | fuel + 1, count =>
      match candidate? x (point - count) with
      | some digits => dropZeros 20 digits (point - count)
      | none => shortestFrom x point fuel (count + 1)

/-- Digits `d`, without trailing zeros, and exponent `e` such that `d · 10^e` is the shortest decimal
that reads back as the positive finite value. -/
def shortest (x : Binary64) : Nat × Int :=
  let (numerator, denominator) := x.ratio
  let guess : Int := ((Nat.log2 numerator : Int) - Nat.log2 denominator) * 30103 / 100000 - 1
  shortestFrom x (decimalPoint numerator denominator 8 guess) 18 1

/-- How the digits of a double are written. -/
structure Layout where
  /-- The least exponent of the leading digit that is written positionally. -/
  leastPositional : Int
  /-- The first exponent of the leading digit that is not written positionally any more. -/
  firstScientific : Int
  /-- Whether a positional integer keeps a point and a zero. -/
  keepsPoint : Bool
  /-- The least number of digits of an exponent. -/
  exponentWidth : Nat
  infinity : String
  notANumber : String

/-- Positional from `1e-4` up to `1e16`; integers keep `.0`; an exponent has its sign and two
digits at least. -/
def Layout.plain : Layout where
  leastPositional := -4
  firstScientific := 16
  keepsPoint := true
  exponentWidth := 2
  infinity := "inf"
  notANumber := "nan"

/-- The part of an imaginary literal before its `j`: as `plain`, but integers carry no point. -/
def Layout.imaginary : Layout :=
  { Layout.plain with keepsPoint := false }

/-- The spelling of numbers in a data document. -/
def Layout.document : Layout :=
  { Layout.plain with infinity := "Infinity", notANumber := "NaN" }

/-- Pad with zeros on the left up to a width. -/
def padLeft (width : Nat) (digits : List Char) : List Char :=
  List.replicate (width - digits.length) '0' ++ digits

/-- Write the digits `d` of `d · 10^e`. -/
def Layout.writeDigits (layout : Layout) (d : Nat) (e : Int) : List Char :=
  let digits := digitsOf d
  let leading : Int := e + digits.length - 1
  if leading < layout.leastPositional ∨ layout.firstScientific ≤ leading then
    let mantissa :=
      match digits with
      | [] => []
      | [c] => [c]
      | c :: rest => c :: '.' :: rest
    let mark := if leading < 0 then '-' else '+'
    mantissa ++ 'e' :: mark :: padLeft layout.exponentWidth (digitsOf leading.natAbs)
  else if leading < 0 then
    '0' :: '.' :: (List.replicate (-leading - 1).toNat '0' ++ digits)
  else if 0 ≤ e then
    digits ++ List.replicate e.toNat '0' ++ (if layout.keepsPoint then ['.', '0'] else [])
  else
    let whole := (leading + 1).toNat
    digits.take whole ++ '.' :: digits.drop whole

/-- The text of a double. -/
def Layout.write (layout : Layout) (x : Binary64) : String :=
  let signed (text : List Char) : String :=
    .ofList (if x.isNegative then '-' :: text else text)
  if x.isNan then layout.notANumber
  else if x.isInfinite then signed layout.infinity.toList
  else if x.isZero then signed (if layout.keepsPoint then ['0', '.', '0'] else ['0'])
  else
    let (d, e) := shortest ⟨UInt64.ofNat x.magnitude⟩
    signed (layout.writeDigits d e)

/-- Decimal text of an integer. -/
def ofInt (n : Int) : String :=
  if n < 0 then .ofList ('-' :: digitsOf n.natAbs) else .ofList (digitsOf n.natAbs)

/-- Digits allowed in the decimal text of an integer, both when it is read and when it is written. -/
def integerDigitLimit : Nat := 4300

end Decimal
end AnswerKey
