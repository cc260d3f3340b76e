import AnswerKey.Decimal.Reader
import AnswerKey.Decimal.Shortest

namespace AnswerKey
namespace Decimal

/-!
Integers that people write: a sign and digits of any script, with single underscores between digits
and blanks around the whole.  A text with too many digits is refused before its form is looked at to
the end.
-/

/-- Why a text is no integer. -/
inductive IntegerFault where
  | malformed
  /-- It has more digits than are converted. -/
  | tooLong (digits : Nat)
  deriving DecidableEq, Repr

/-- The integer that a text stands for. -/
def integerOfText (text : List Char) : Except IntegerFault Int :=
  let (negative, body) := takeSign (Text.trim (text.map plainDigit))
  let run := body.takeWhile fun c => isAsciiDigitOrUnderscore c
  let digits := run.filter Text.isAsciiDigit
  if digits.isEmpty || !underscoresBetweenDigits none run then .error .malformed
  else if integerDigitLimit < digits.length then .error (.tooLong digits.length)
  else if run.length ≠ body.length then .error .malformed
  else
    let value : Int := digitsValue digits
    .ok (if negative then -value else value)
where
  isAsciiDigitOrUnderscore (c : Char) : Bool := c == '_' || Text.isAsciiDigit c

end Decimal
end AnswerKey
