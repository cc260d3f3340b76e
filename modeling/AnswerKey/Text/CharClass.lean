import AnswerKey.Text.CharClass.Ranges

namespace AnswerKey
namespace Text

/-!
Character classes.  Below U+0080 every class is decided by comparison, so that statements about
ASCII text need no table; above it the Unicode tables decide.
-/

/-- The code points of blank characters.  Besides the usual ones the class holds the four information
separators, the next-line control and every Unicode space. -/
def isBlankCode (code : Nat) : Bool :=
  (9 ≤ code && code ≤ 13) || (28 ≤ code && code ≤ 32) || code == 0x85 || code == 0xa0 ||
    code == 0x1680 || (0x2000 ≤ code && code ≤ 0x200a) || code == 0x2028 || code == 0x2029 ||
    code == 0x202f || code == 0x205f || code == 0x3000

/-- Blank characters: what trimming removes and what separates words. -/
def isBlank (c : Char) : Bool :=
  isBlankCode c.toNat

def isAscii (c : Char) : Bool :=
  c.toNat < 128

def isAsciiLetter (c : Char) : Bool :=
  ('a' ≤ c && c ≤ 'z') || ('A' ≤ c && c ≤ 'Z')

def isAsciiDigit (c : Char) : Bool :=
  '0' ≤ c && c ≤ '9'

def isLetter (c : Char) : Bool :=
  if isAscii c then isAsciiLetter c else CharClass.letters.contains c.toNat

/-- Letters and everything with a numeric value. -/
def isAlphanumeric (c : Char) : Bool :=
  if isAscii c then isAsciiLetter c || isAsciiDigit c
  else CharClass.wordCharacters.contains c.toNat

/-- The characters of a word: alphanumeric ones and the underscore. -/
def isWordCharacter (c : Char) : Bool :=
  c == '_' || isAlphanumeric c

/-- Characters with a digit value, superscripts and circled digits included. -/
def isDigit (c : Char) : Bool :=
  if isAscii c then isAsciiDigit c else CharClass.digits.contains c.toNat

/-- The value of a decimal digit of any script.  A superscript is a digit but not a decimal one. -/
def decimalValue? (c : Char) : Option Nat :=
  if isAscii c then
    if isAsciiDigit c then some (c.toNat - '0'.toNat) else none
  else
    (CharClass.decimals.find? c.toNat).map fun range => (c.toNat - range.1) % 10

/-- Characters that a quoted text shows unescaped. -/
def isPrintable (c : Char) : Bool :=
  if isAscii c then 32 ≤ c.toNat && c.toNat ≤ 126 else CharClass.printable.contains c.toNat

def isIdentifierStart (c : Char) : Bool :=
  c == '_' || (if isAscii c then isAsciiLetter c else CharClass.identifierStart.contains c.toNat)

def isIdentifierContinue (c : Char) : Bool :=
  c == '_' ||
    (if isAscii c then isAsciiLetter c || isAsciiDigit c
     else CharClass.identifierContinue.contains c.toNat)

/-- An identifier: one opening character and any number of continuing ones. -/
def isIdentifier : List Char → Bool
  | [] => false
  | c :: rest => isIdentifierStart c && rest.all isIdentifierContinue

/-- The lower-case image of a single character, where that image is a single character and does not
depend on the context. -/
def lowerChar (c : Char) : Char :=
  if isAscii c then
    if 'A' ≤ c ∧ c ≤ 'Z' then Char.ofNat (c.toNat + 32) else c
  else
    (CharClass.lowerRuns.image? c.toNat).elim c Char.ofNat

/-- Whether the nearest character that the final-sigma rule does not look through is cased. -/
def nearestIsCased (text : List Char) : Bool :=
  match text.dropWhile (fun c => CharClass.caseIgnorable.contains c.toNat) with
  | [] => false
  | c :: _ => CharClass.cased.contains c.toNat

/-- Lower-case a text, given the characters before it in reverse.  A capital sigma at the end of a
word becomes the final form; the dotted capital I leaves its dot as a combining character. -/
def lowerAfter (before : List Char) : List Char → List Char
  | [] => []
  | c :: rest =>
      if c.toNat = 0x3a3 then
        let final := nearestIsCased before && !nearestIsCased rest
        Char.ofNat (if final then 0x3c2 else 0x3c3) :: lowerAfter (c :: before) rest
      else if c.toNat = 0x130 then
        'i' :: Char.ofNat 0x307 :: lowerAfter (c :: before) rest
      else
        lowerChar c :: lowerAfter (c :: before) rest

/-- The lower-case form of a text. -/
def lower (text : String) : String :=
  .ofList (lowerAfter [] text.toList)

/-- Whether all characters of a text have a property is found out by reading the text, even where the
characters are known to be finitely many. -/
instance (priority := high) decidableForallMem {p : Char → Prop} [DecidablePred p] (text : List Char) :
    Decidable (∀ c ∈ text, p c) :=
  List.decidableBAll p text

end Text
end AnswerKey
