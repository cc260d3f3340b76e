import AnswerKey.Text.CharClass

namespace AnswerKey
namespace Text
namespace Quoted

/-!
Quoted texts.  A text is shown between single quotes, or between double quotes when it holds a
single quote and no double one; backslashes, the quote in use, controls and unprintable characters
are escaped.  Texts are given as code points because the value of a literal may hold surrogates.
-/

/-- Hexadecimal digits of a number, lower case, padded with zeros to a width. -/
def hexPadded (width : Nat) (n : Nat) : List Char :=
  let digits := Nat.toDigits 16 n
  List.replicate (width - digits.length) '0' ++ digits

/-- Whether a code point is shown as it is. -/
def isShown (code : Nat) : Bool :=
  code.isValidChar && isPrintable (Char.ofNat code)

/-- The shortest numeric escape of a code point. -/
def escapeCode (code : Nat) : List Char :=
  if code < 0x100 then '\\' :: 'x' :: hexPadded 2 code
  else if code < 0x10000 then '\\' :: 'u' :: hexPadded 4 code
  else '\\' :: 'U' :: hexPadded 8 code

/-- One code point inside quotes. -/
def encodeCode (quote : Char) (code : Nat) : List Char :=
  if code = quote.toNat ∨ code = '\\'.toNat then ['\\', Char.ofNat code]
  else if code = 9 then ['\\', 't']
  else if code = 10 then ['\\', 'n']
  else if code = 13 then ['\\', 'r']
  else if isShown code then [Char.ofNat code]
  else escapeCode code

/-- The quote that needs the fewest escapes, single quotes preferred. -/
def chooseQuote (codes : List Nat) : Char :=
  if codes.contains '\''.toNat && !codes.contains '"'.toNat then '"' else '\''

/-- A text between quotes. -/
def encodeCodes (codes : List Nat) : List Char :=
  let quote := chooseQuote codes
  quote :: (codes.flatMap (encodeCode quote) ++ [quote])

/-- One byte inside quotes. -/
def encodeByte (quote : Char) (byte : Nat) : List Char :=
  if byte = quote.toNat ∨ byte = '\\'.toNat then ['\\', Char.ofNat byte]
  else if byte = 9 then ['\\', 't']
  else if byte = 10 then ['\\', 'n']
  else if byte = 13 then ['\\', 'r']
  else if 32 ≤ byte ∧ byte < 127 then [Char.ofNat byte]
  else '\\' :: 'x' :: hexPadded 2 byte

/-- A byte string between quotes, marked with a `b`. -/
def encodeBytes (bytes : List Nat) : List Char :=
  let quote := chooseQuote bytes
  'b' :: quote :: (bytes.flatMap (encodeByte quote) ++ [quote])

/-- A text of characters between quotes. -/
def encode (text : String) : String :=
  .ofList (encodeCodes (text.toList.map Char.toNat))

end Quoted
end Text
end AnswerKey
