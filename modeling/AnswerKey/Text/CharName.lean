import AnswerKey.Text.CharClass
import AnswerKey.Text.CodeRange
import AnswerKey.Text.CharName.Table

namespace AnswerKey
namespace Text
namespace CharName

/-!
Characters by name.  Small and capital letters count alike, except in the names of ideographs and
syllables, which are not listed but follow a rule: the code point of an ideograph is part of its
name, and a syllable is spelled by its sounds.
-/

/-! ### Listed names -/

/-- A place in a list of names: the code point and the name read so far, last character first. -/
structure Scan where
  code : Nat
  name : List Char
  /-- The distance to the next code point while it is read. -/
  gap : Option Nat
  /-- Whether the small letters of an entry are being read. -/
  atStart : Bool
  found : Option Nat

namespace Scan

/-- Note the code point if the name that ends here is the wanted one. -/
def close (wanted : List Char) (scan : Scan) : Scan :=
  if !scan.atStart && scan.name == wanted then { scan with found := some scan.code } else scan

/-- The characters that a character of an entry stands for. -/
def spelledOut (c : Char) : List Char :=
  if ('A' ≤ c ∧ c ≤ 'Z') ∨ c = ' ' ∨ c = '-' ∨ isAsciiDigit c then [c]
  else ((abbreviations.lookup c).map (·.toList)).getD [c]

/-- Read one character of a list of names; `wanted` is the name looked for, last character first. -/
def step (wanted : List Char) (scan : Scan) (c : Char) : Scan :=
  if c = '\n' then scan
  else if c = ';' then { scan.close wanted with gap := some 0, atStart := true }
  else if 'a' ≤ c ∧ c ≤ 'z' then
    let scan := scan.close wanted
    let name := scan.name.drop (c.toNat - 'a'.toNat)
    if c = 'z' then { scan with name := name, atStart := true }
    else { scan with name, code := scan.code + scan.gap.getD 1, gap := none, atStart := false }
  else
    match scan.gap with
    | some gap => { scan with gap := some (gap * 10 + (c.toNat - '0'.toNat)) }
    | none => { scan with name := (spelledOut c).reverse ++ scan.name }

end Scan

/-- The code point of a name in a list of names.  Code points are counted from one less than zero,
so that the list may start with the first character. -/
def find? (wanted : List Char) (list : String) : Option Nat :=
  let backwards := wanted.reverse
  let scan := list.toList.foldl (Scan.step backwards) ⟨0, [], none, true, none⟩
  (scan.close backwards).found.map (· - 1)

/-! ### Names by rule -/

/-- The first and last code points of the ideographs that are named by their code points. -/
def ideographs : List (Nat × Nat) :=
  [(0x3400, 0x4dbf), (0x4e00, 0x9fff), (0x20000, 0x2a6df), (0x2a700, 0x2b738),
    (0x2b740, 0x2b81d), (0x2b820, 0x2cea1), (0x2ceb0, 0x2ebe0), (0x30000, 0x3134a)]

/-- The code point at the end of the name of an ideograph: four or five digits. -/
def ideograph? (digits : List Char) : Option Nat :=
  let isDigit (c : Char) : Bool := isAsciiDigit c || ('A' ≤ c && c ≤ 'F')
  let code := hexValue digits
  if (digits.length = 4 ∨ digits.length = 5) ∧ digits.all isDigit ∧
      ideographs.any (fun range => range.1 ≤ code && code ≤ range.2) then some code
  else none

/-- The first sounds of syllables, in order; one of them is silent. -/
def leads : List String :=
  ["G", "GG", "N", "D", "DD", "R", "M", "B", "BB", "S", "SS", "", "J", "JJ", "C", "K", "T", "P", "H"]

def vowels : List String :=
  ["A", "AE", "YA", "YAE", "EO", "E", "YEO", "YE", "O", "WA", "WAE", "OE", "YO", "U", "WEO", "WE",
    "WI", "YU", "EU", "YI", "I"]

def tails : List String :=
  ["", "G", "GG", "GS", "N", "NJ", "NH", "D", "L", "LG", "LM", "LB", "LS", "LT", "LP", "LH", "M",
    "B", "BS", "S", "SS", "NG", "J", "C", "K", "T", "P", "H"]

/-- The longest sound at the head of a text: its number and what follows it. -/
def sound? (sounds : List String) (text : List Char) : Option (Nat × List Char) :=
  let fitting := sounds.zipIdx.filter fun (sound, _) => sound.toList.isPrefixOf text
  let longest := fitting.foldl (fun best (sound, index) =>
    match best with
    | some (length, _) => if length < sound.length then some (sound.length, index) else best
    | none => some (sound.length, index)) none
  longest.map fun (length, index) => (index, text.drop length)

/-- The code point of a syllable that is spelled by its sounds. -/
def syllable? (text : List Char) : Option Nat :=
  match sound? leads text with
  | none => none
  | some (lead, rest) =>
      match sound? vowels rest with
      | none => none
      | some (vowel, rest) =>
          match sound? tails rest with
          | some (tail, []) => some (0xac00 + (lead * 21 + vowel) * 28 + tail)
          | _ => none

/-! ### All names -/

/-- What follows a given beginning of a text. -/
def behind? (start : String) (text : List Char) : Option (List Char) :=
  if start.toList.isPrefixOf text then some (text.drop start.length) else none

/-- An ASCII letter as a capital. -/
def capital (c : Char) : Char :=
  if 'a' ≤ c ∧ c ≤ 'z' then Char.ofNat (c.toNat - 32) else c

/-- The code point of the character with a given name. -/
def lookup? (name : List Char) : Option Nat :=
  match behind? "HANGUL SYLLABLE " name with
  | some sounds => syllable? sounds
  | none =>
      match behind? "CJK UNIFIED IDEOGRAPH-" name with
      | some digits => ideograph? digits
      | none =>
          let wanted := name.map capital
          if wanted.isEmpty then none else find? wanted names <|> find? wanted aliases

end CharName
end Text
end AnswerKey
