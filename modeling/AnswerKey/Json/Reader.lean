import AnswerKey.Json
import AnswerKey.Decimal.Shortest
import AnswerKey.Text.CodeRange

namespace AnswerKey
namespace Json

/-!
Reading a document.  A reader takes the characters that are left and returns a value with what is
left behind it; a fault carries the characters that were left where it arose, so that its place can
be told by counting.  `read` reads a whole document.
-/

/-- Why a document cannot be read. -/
inductive FaultKind where
  /-- The bytes of the document spell no text. -/
  | badBytes
  | byteOrderMark
  | expectedValue
  | expectedName
  | expectedColon
  | expectedComma
  | extraData
  | unterminatedText
  | controlCharacter
  | badEscape
  | badUnitEscape
  /-- An integer with more digits than are converted. -/
  | longInteger (digits : Nat)
  /-- Arrays or objects nested beyond the limit. -/
  | tooDeep (inObject : Bool)
  deriving DecidableEq, Repr

/-- A fault and the characters left where it arose. -/
structure Fault where
  kind : FaultKind
  rest : List Char

/-- What a fault is called; the place is told separately. -/
def FaultKind.text : FaultKind → String
  | badBytes => "The document is no text"
  | byteOrderMark => "Unexpected UTF-8 BOM (decode using utf-8-sig)"
  | expectedValue => "Expecting value"
  | expectedName => "Expecting property name enclosed in double quotes"
  | expectedColon => "Expecting ':' delimiter"
  | expectedComma => "Expecting ',' delimiter"
  | extraData => "Extra data"
  | unterminatedText => "Unterminated string starting at"
  | controlCharacter => "Invalid control character at"
  | badEscape => "Invalid \\escape"
  | badUnitEscape => "Invalid \\uXXXX escape"
  | longInteger digits =>
      "Exceeds the limit (" ++ toString Decimal.integerDigitLimit ++
        " digits) for integer string conversion: value has " ++ toString digits ++
        " digits; use sys.set_int_max_str_digits() to increase the limit"
  | tooDeep true =>
      "maximum recursion depth exceeded while decoding a JSON object from a unicode string"
  | tooDeep false =>
      "maximum recursion depth exceeded while decoding a JSON array from a unicode string"

/-- Whether the fault is one of form, which is reported with its place. -/
def FaultKind.hasPlace : FaultKind → Bool
  | badBytes => false
  | longInteger _ => false
  | tooDeep _ => false
  | _ => true

/-- Line and column, both from one, of the character behind a given text. -/
def placeAfter (before : List Char) : Nat × Nat :=
  (before.count '\n' + 1, (before.reverse.takeWhile (· ≠ '\n')).length + 1)

/-- The full report of a fault in a document. -/
def Fault.message (fault : Fault) (document : List Char) : String :=
  if fault.kind.hasPlace then
    let offset := document.length - fault.rest.length
    let (line, column) := placeAfter (document.take offset)
    fault.kind.text ++ ": line " ++ toString line ++ " column " ++ toString column ++
      " (char " ++ toString offset ++ ")"
  else
    fault.kind.text

def isSpace (c : Char) : Bool :=
  c == ' ' || c == '\t' || c == '\n' || c == '\r'

def skipSpace (text : List Char) : List Char :=
  text.dropWhile isSpace

def isDigitChar (c : Char) : Bool :=
  '0' ≤ c && c ≤ '9'

/-- The value of decimal digits. -/
def decimalOf (digits : List Char) : Nat :=
  digits.foldl (fun value c => value * 10 + (c.toNat - '0'.toNat)) 0

/-- Four hexadecimal digits. -/
def readUnit? : List Char → Option (Nat × List Char)
  | a :: b :: c :: d :: rest =>
      if ([a, b, c, d].all fun x => (Text.hexDigitValue? x).isSome) then
        some (Text.hexValue [a, b, c, d], rest)
      else none
  | _ => none

/-- The character of a unit that is no half of a pair, and the replacement character for one. -/
def unitChar (unit : Nat) : Char :=
  if unit.isValidChar then Char.ofNat unit else Char.ofNat 0xfffd

/-- The escape after a backslash and a `u`: one unit, or two that form a pair.  At least one more
character has to follow the digits. -/
def readUnitEscape? (text : List Char) : Option (Char × List Char) :=
  match readUnit? text with
  | none => none
  | some (_, []) => none
  | some (unit, rest) =>
      if 0xd800 ≤ unit ∧ unit < 0xdc00 then
        match rest with
        | '\\' :: 'u' :: more =>
            match readUnit? more with
            | some (low, behind) =>
                if 0xdc00 ≤ low ∧ low < 0xe000 then
                  some (Char.ofNat (0x10000 + (unit - 0xd800) * 0x400 + (low - 0xdc00)), behind)
                else some (unitChar unit, rest)
            | none => some (unitChar unit, rest)
        | _ => some (unitChar unit, rest)
      else some (unitChar unit, rest)

/-- The character named by a one-letter escape. -/
def simpleEscape? : Char → Option Char
  | '"' => some '"'
  | '\\' => some '\\'
  | '/' => some '/'
  | 'b' => some (Char.ofNat 8)
  | 'f' => some (Char.ofNat 12)
  | 'n' => some '\n'
  | 'r' => some '\r'
  | 't' => some '\t'
  | _ => none

/-- A text from behind its opening quote.  `start` is what was left at that quote, `seen` holds the
characters read so far in reverse. -/
def readText (start : List Char) :
    (fuel : Nat) → (seen text : List Char) → Except Fault (String × List Char)
  | 0, _, _ => .error ⟨.unterminatedText, start⟩
  | fuel + 1, seen, text =>
      match text with
      | [] => .error ⟨.unterminatedText, start⟩
      | '"' :: rest => .ok (.ofList seen.reverse, rest)
      | '\\' :: [] => .error ⟨.unterminatedText, start⟩
      | '\\' :: 'u' :: rest =>
          match readUnitEscape? rest with
          | some (c, behind) => readText start fuel (c :: seen) behind
          | none => .error ⟨.badUnitEscape, 'u' :: rest⟩
      | '\\' :: c :: rest =>
          match simpleEscape? c with
          | some meant => readText start fuel (meant :: seen) rest
          | none => .error ⟨.badEscape, text⟩
      | c :: rest =>
          if c.toNat < 32 then .error ⟨.controlCharacter, text⟩
          else readText start fuel (c :: seen) rest

/-- The fraction of a number, when a point and a digit follow. -/
def readFraction (text : List Char) : List Char × List Char :=
  match text with
  | '.' :: c :: rest =>
      if isDigitChar c then ((c :: rest).takeWhile isDigitChar, (c :: rest).dropWhile isDigitChar)
      else ([], text)
  | _ => ([], text)

/-- The exponent of a number, when a complete one follows. -/
def readExponent? (text : List Char) : Option (Int × List Char) :=
  match text with
  | c :: rest =>
      if c = 'e' ∨ c = 'E' then
        let (negative, digits) :=
          match rest with
          | '-' :: more => (true, more)
          | '+' :: more => (false, more)
          | _ => (false, rest)
        match digits.takeWhile isDigitChar with
        | [] => none
        | shown =>
            let size : Int := decimalOf shown
            some (if negative then -size else size, digits.dropWhile isDigitChar)
      else none
  | [] => none

/-- A number that starts with the given digits of its integer part. -/
def readNumber (negative : Bool) (digits rest : List Char) : Except Fault (Json × List Char) :=
  let (fraction, behindFraction) := readFraction rest
  match fraction, readExponent? behindFraction with
  | [], none =>
      if Decimal.integerDigitLimit < digits.length then
        .error ⟨.longInteger digits.length, rest⟩
      else
        let size : Int := decimalOf digits
        .ok (int (if negative then -size else size), rest)
  | _, exponent =>
      let (power, behind) := exponent.getD (0, behindFraction)
      let x := Decimal.Binary64.ofDecimal (decimalOf (digits ++ fraction))
        (power - fraction.length)
      .ok (float (if negative then x.neg else x), behind)

/-- A number behind its sign, or a fault at the place where the number began. -/
def readUnsigned (negative : Bool) (start text : List Char) : Except Fault (Json × List Char) :=
  match text with
  | '0' :: rest => readNumber negative ['0'] rest
  | c :: _ =>
      if isDigitChar c then
        readNumber negative (text.takeWhile isDigitChar) (text.dropWhile isDigitChar)
      else .error ⟨.expectedValue, start⟩
  | [] => .error ⟨.expectedValue, start⟩

/-- What is left behind a given word. -/
def afterWord? : (word text : List Char) → Option (List Char)
  | [], text => some text
  | w :: ws, c :: rest => if w = c then afterWord? ws rest else none
  | _ :: _, [] => none

/-- The values that are spelled as words. -/
def words : List (String × Json) :=
  [("null", null), ("true", bool true), ("false", bool false),
    ("NaN", float .nan), ("Infinity", float .infinity), ("-Infinity", float (Decimal.Binary64.neg .infinity))]

/-- A value spelled as a word, at the head of a text. -/
def readWord? (text : List Char) : List (String × Json) → Option (Json × List Char)
  | [] => none
  | (word, value) :: others =>
      match afterWord? word.toList text with
      | some rest => some (value, rest)
      | none => readWord? text others

/-- Anything but an array or an object. -/
def readAtom (text : List Char) : Except Fault (Json × List Char) :=
  match readWord? text words with
  | some found => .ok found
  | none =>
      match text with
      | '"' :: rest =>
          match readText text (rest.length + 1) [] rest with
          | .ok (s, behind) => .ok (str s, behind)
          | .error fault => .error fault
      | '-' :: rest => readUnsigned true text rest
      | _ => readUnsigned false text text

mutual

/-- A value.  `depth` counts the arrays and objects that may still be opened. -/
def readValue (fuel depth : Nat) (text : List Char) : Except Fault (Json × List Char) :=
  match fuel with
  | 0 => .error ⟨.expectedValue, text⟩
  | fuel + 1 =>
      match text with
      | '[' :: rest =>
          match depth with
          | 0 => .error ⟨.tooDeep false, text⟩
          | depth + 1 =>
              match skipSpace rest with
              | ']' :: behind => .ok (arr [], behind)
              | inner => readItems fuel depth [] inner
      | '\x7b' :: rest =>
          match depth with
          | 0 => .error ⟨.tooDeep true, text⟩
          | depth + 1 =>
              match skipSpace rest with
              | '\x7d' :: behind => .ok (obj [], behind)
              | inner => readFields fuel depth [] inner
      | _ => readAtom text

/-- The items of an array from the first character of an item on. -/
def readItems (fuel depth : Nat) (seen : List Json) (text : List Char) :
    Except Fault (Json × List Char) :=
  match fuel with
  | 0 => .error ⟨.expectedValue, text⟩
  | fuel + 1 =>
      match readValue fuel depth text with
      | .error fault => .error fault
      | .ok (item, rest) =>
          match skipSpace rest with
          | ']' :: behind => .ok (arr (item :: seen).reverse, behind)
          | ',' :: more => readItems fuel depth (item :: seen) (skipSpace more)
          | other => .error ⟨.expectedComma, other⟩

/-- The fields of an object from the first character of a name on. -/
def readFields (fuel depth : Nat) (seen : List (String × Json)) (text : List Char) :
    Except Fault (Json × List Char) :=
  match fuel with
  | 0 => .error ⟨.expectedName, text⟩
  | fuel + 1 =>
      match text with
      | '"' :: afterQuote =>
          match readText text (afterQuote.length + 1) [] afterQuote with
          | .error fault => .error fault
          | .ok (name, afterName) =>
              match skipSpace afterName with
              | ':' :: afterColon =>
                  match readValue fuel depth (skipSpace afterColon) with
                  | .error fault => .error fault
                  | .ok (value, rest) =>
                      let seen := insertField name value seen
                      match skipSpace rest with
                      | '\x7d' :: behind => .ok (obj seen, behind)
                      | ',' :: more => readFields fuel depth seen (skipSpace more)
                      | other => .error ⟨.expectedComma, other⟩
              | other => .error ⟨.expectedColon, other⟩
      | _ => .error ⟨.expectedName, text⟩

end

/-- How deep arrays and objects may nest. -/
def nestingLimit : Nat := 994

/-- Read a whole document: one value with nothing but space around it. -/
def read (document : List Char) : Except Fault Json :=
  match document with
  | c :: _ =>
      if c.toNat = 0xfeff then .error ⟨.byteOrderMark, document⟩ else readBody document
  | [] => readBody document
where
  /-- Read a document that has no byte order mark. -/
  readBody (document : List Char) : Except Fault Json :=
    match readValue (2 * document.length + 2) nestingLimit (skipSpace document) with
    | .error fault => .error fault
    | .ok (value, rest) =>
        match skipSpace rest with
        | [] => .ok value
        | other => .error ⟨.extraData, other⟩

end Json
end AnswerKey
