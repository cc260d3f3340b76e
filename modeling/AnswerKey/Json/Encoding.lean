import AnswerKey.Json.Reader

namespace AnswerKey
namespace Json

/-!
The bytes of a document.  A document begins with characters of ASCII, so the zeros among its first
bytes tell how many bytes a character takes and which of them comes first.  A text without zeros is
taken as it is.
-/

/-- How the characters of a document are spelled. -/
inductive Encoding where
  /-- By one to four bytes each. -/
  | narrow
  /-- By units of two bytes, of which some characters take a pair. -/
  | paired (highFirst : Bool)
  /-- By four bytes each. -/
  | wide (highFirst : Bool)
  deriving DecidableEq, Repr

namespace Encoding

/-- The encoding that the first bytes of a document point to. -/
def ofBytes : List UInt8 → Encoding
  | a :: b :: c :: d :: _ =>
      if a = 0 then if b = 0 then wide true else paired true
      else if b = 0 then if c = 0 ∧ d = 0 then wide false else paired false
      else narrow
  | [a, b] => if a = 0 then paired true else if b = 0 then paired false else narrow
  | _ => narrow

/-- The bytes that spell a text narrowly. -/
def bytesOf (text : List Char) : List UInt8 :=
  text.flatMap String.utf8EncodeChar

/-- The encoding of a text that came as narrow bytes.  Four characters have four bytes at least, and
fewer bytes than that are all there are. -/
def ofText (text : List Char) : Encoding :=
  ofBytes (bytesOf (text.take 4))

/-- The number that some bytes stand for. -/
def unitOf (highFirst : Bool) (bytes : List UInt8) : Nat :=
  (if highFirst then bytes else bytes.reverse).foldl (fun value byte => value * 256 + byte.toNat) 0

/-- Units of two bytes; a byte must not be left over. -/
def pairsOf? (highFirst : Bool) : List UInt8 → Option (List Nat)
  | [] => some []
  | a :: b :: rest => (pairsOf? highFirst rest).map (unitOf highFirst [a, b] :: ·)
  | [_] => none

/-- Units of four bytes, each a code that exists. -/
def quartersOf? (highFirst : Bool) : List UInt8 → Option (List Nat)
  | [] => some []
  | a :: b :: c :: d :: rest =>
      let code := unitOf highFirst [a, b, c, d]
      if code < 0x110000 then (quartersOf? highFirst rest).map (code :: ·) else none
  | _ => none

/-- Join the units that form pairs. -/
def joinPairs : List Nat → List Nat
  | high :: low :: rest =>
      if 0xd800 ≤ high ∧ high < 0xdc00 ∧ 0xdc00 ≤ low ∧ low < 0xe000 then
        (0x10000 + (high - 0xd800) * 0x400 + (low - 0xdc00)) :: joinPairs rest
      else high :: joinPairs (low :: rest)
  | units => units

/-- The characters of a document that came as narrow bytes.  A mark of the byte order in front is no
part of it. -/
def decode? (text : List Char) : Option (List Char) :=
  match ofText text with
  | narrow =>
      match text with
      | c :: rest => some (if c.toNat = 0xfeff then rest else text)
      | [] => some []
  | paired highFirst =>
      (pairsOf? highFirst (bytesOf text)).map fun units => (joinPairs units).map unitChar
  | wide highFirst => (quartersOf? highFirst (bytesOf text)).map fun codes => codes.map unitChar

end Encoding

/-- Read a document that came as bytes. -/
def readBytes (text : List Char) : Except Fault Json :=
  match Encoding.decode? text with
  | some document => read document
  | none => .error ⟨.badBytes, text⟩

end Json
end AnswerKey
