import AnswerKey.Decimal.Binary64
import AnswerKey.Text.Line

namespace AnswerKey
namespace Decimal

/-!
Reading numbers that people write: digits of any script, underscores between digits, blanks around
the number, and the words for infinity and for what is no number.
-/

open Text

/-- A character as it counts in a number: a decimal digit of any script becomes the common one. -/
def plainDigit (c : Char) : Char :=
  match decimalValue? c with
  | some value => Char.ofNat ('0'.toNat + value)
  | none => c

/-- Whether every underscore stands between two digits; `before` is the character in front. -/
def underscoresBetweenDigits (before : Option Char) : List Char → Bool
  | [] => before ≠ some '_'
  | c :: rest =>
      (if c = '_' then before.any isAsciiDigit
        else before ≠ some '_' || isAsciiDigit c) &&
        underscoresBetweenDigits (some c) rest

/-- The value of plain decimal digits. -/
def digitsValue (digits : List Char) : Nat :=
  digits.foldl (fun value c => value * 10 + (c.toNat - '0'.toNat)) 0

/-- A sign and what follows it. -/
def takeSign (text : List Char) : Bool × List Char :=
  match text with
  | '-' :: rest => (true, rest)
  | '+' :: rest => (false, rest)
  | _ => (false, text)

/-- An exponent that reaches to the end of the text. -/
def exponentOf? (text : List Char) : Option Int :=
  match text with
  | [] => some 0
  | c :: rest =>
      if c = 'e' ∨ c = 'E' then
        let (negative, digits) := takeSign rest
        if digits.isEmpty || !digits.all isAsciiDigit then none
        else
          let value : Int := digitsValue digits
          some (if negative then -value else value)
      else none

/-- A number without a sign: digits with a point among or around them and an exponent. -/
def unsignedOf? (text : List Char) : Option Binary64 :=
  let whole := text.takeWhile isAsciiDigit
  let behind := text.dropWhile isAsciiDigit
  let (fraction, rest) :=
    match behind with
    | '.' :: more => (more.takeWhile isAsciiDigit, more.dropWhile isAsciiDigit)
    | _ => ([], behind)
  if whole.isEmpty && fraction.isEmpty then none
  else
    (exponentOf? rest).map fun exponent =>
      .ofDecimal (digitsValue (whole ++ fraction)) (exponent - fraction.length)

/-- The double that a text stands for. -/
def Binary64.ofText? (text : List Char) : Option Binary64 :=
  let plain := trim (text.map plainDigit)
  if underscoresBetweenDigits none plain then
    let (negative, rest) := takeSign (plain.filter (· ≠ '_'))
    let word : String := .ofList (rest.map lowerChar)
    let found :=
      if rest.all isAscii && (word = "inf" || word = "infinity") then some Binary64.infinity
      else if rest.all isAscii && word = "nan" then some Binary64.nan
      else unsignedOf? rest
    found.map fun x => if negative then x.neg else x
  else none

end Decimal
end AnswerKey
