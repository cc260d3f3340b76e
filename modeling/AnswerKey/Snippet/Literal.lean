import AnswerKey.Text.CharName
import AnswerKey.Text.CharClass

namespace AnswerKey
namespace Snippet

/-!
String literals: what stands between the quotes and how it is marked, and the decoding of escapes.
A backslash that starts no known escape stands for itself; an escape that is known but incomplete
makes the literal invalid.
-/

/-- A string literal as it was written. -/
structure Literal where
  isBytes : Bool
  isRaw : Bool
  /-- Whether the literal holds replacement fields. -/
  isFormatted : Bool
  /-- Whether it carries exactly the mark `u`. -/
  isMarked : Bool
  body : List Char
  deriving DecidableEq, Repr

namespace Literal

open Text

/-- The literal with a given mark and body. -/
def ofMark (mark body : List Char) : Literal where
  isBytes := mark.any fun c => c == 'b' || c == 'B'
  isRaw := mark.any fun c => c == 'r' || c == 'R'
  isFormatted := mark.any fun c => c == 'f' || c == 'F'
  isMarked := mark == ['u']
  body := body

def isOctal (c : Char) : Bool :=
  '0' ≤ c && c ≤ '7'

/-- The value of octal digits. -/
def octalValue (digits : List Char) : Nat :=
  digits.foldl (fun value c => value * 8 + (c.toNat - '0'.toNat)) 0

/-- Up to three octal digits from the head of a text. -/
def octalRun (text : List Char) : List Char :=
  (text.take 3).takeWhile isOctal

/-- A hexadecimal escape of exactly the given number of digits. -/
def hexEscape? (width : Nat) (text : List Char) : Option (Nat × List Char) :=
  let digits := text.take width
  if digits.length = width && digits.all (fun c => (hexDigitValue? c).isSome) then
    some (hexValue digits, text.drop width)
  else none

/-- The escapes of one letter that texts and bytes share. -/
def letterEscape? : Char → Option Nat
  | '\\' => some 92
  | '\'' => some 39
  | '"' => some 34
  | 'a' => some 7
  | 'b' => some 8
  | 'f' => some 12
  | 'n' => some 10
  | 'r' => some 13
  | 't' => some 9
  | 'v' => some 11
  | _ => none

/-- What an escape of a text stands for, given what follows its backslash. -/
def textEscape? (text : List Char) : Option (List Nat × List Char) :=
  match text with
  | [] => some ([92], [])
  | '\n' :: rest => some ([], rest)
  | 'x' :: rest => (hexEscape? 2 rest).map fun (code, behind) => ([code], behind)
  | 'u' :: rest => (hexEscape? 4 rest).map fun (code, behind) => ([code], behind)
  | 'U' :: rest =>
      match hexEscape? 8 rest with
      | some (code, behind) => if code ≤ 0x10ffff then some ([code], behind) else none
      | none => none
  | 'N' :: '\x7b' :: rest =>
      match rest.dropWhile (· ≠ '\x7d') with
      | _ :: behind =>
          (CharName.lookup? (rest.takeWhile (· ≠ '\x7d'))).map fun code => ([code], behind)
      | [] => none
  | 'N' :: _ => none
  | c :: rest =>
      match letterEscape? c with
      | some code => some ([code], rest)
      | none =>
          match octalRun text with
          | [] => some ([92, c.toNat], rest)
          | digits => some ([octalValue digits], text.drop digits.length)

/-- What an escape of a byte string stands for. -/
def byteEscape? (text : List Char) : Option (List Nat × List Char) :=
  match text with
  | [] => some ([92], [])
  | '\n' :: rest => some ([], rest)
  | 'x' :: rest => (hexEscape? 2 rest).map fun (code, behind) => ([code], behind)
  | c :: rest =>
      match letterEscape? c with
      | some code => some ([code], rest)
      | none =>
          match octalRun text with
          | [] => some ([92, c.toNat], rest)
          | digits => some ([octalValue digits % 256], text.drop digits.length)

/-- Decode a body with a given rule for escapes. -/
def decodeWith (escape? : List Char → Option (List Nat × List Char)) :
    (fuel : Nat) → List Char → Option (List Nat)
  | 0, _ => some []
  | _ + 1, [] => some []
  | fuel + 1, c :: rest =>
      if c = '\\' then
        match escape? rest with
        | some (codes, behind) => (decodeWith escape? fuel behind).map (codes ++ ·)
        | none => none
      else (decodeWith escape? fuel rest).map (c.toNat :: ·)

/-- The code points of a text body. -/
def decodeText? (isRaw : Bool) (body : List Char) : Option (List Nat) :=
  if isRaw then some (body.map Char.toNat)
  else decodeWith textEscape? (body.length + 1) body

/-- The values of a byte body, which must be ASCII. -/
def decodeBytes? (isRaw : Bool) (body : List Char) : Option (List Nat) :=
  if body.all isAscii then
    if isRaw then some (body.map Char.toNat)
    else decodeWith byteEscape? (body.length + 1) body
  else none

end Literal
end Snippet
end AnswerKey
