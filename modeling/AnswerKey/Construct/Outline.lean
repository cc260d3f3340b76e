import AnswerKey.Text.CharClass

namespace AnswerKey
namespace Construct

/-!
The outline of a snippet: its text without comments and with every string literal replaced by a
placeholder, so that what is written inside them cannot be taken for code.  A formatted literal that
holds a replacement field has a placeholder of its own.

The outline exists for every text.  A literal in single quotes that is not closed ends at the end of
its line, one in triple quotes at the end of the text.
-/

open Text

/-- The marks that may stand in front of a string literal, in small letters. -/
def literalMarks : List String :=
  ["r", "u", "b", "f", "br", "rb", "fr", "rf"]

/-- What stands for a string literal. -/
def placeholder : List Char :=
  ['"', '"']

/-- What stands for a formatted literal with a replacement field. -/
def fieldPlaceholder : List Char :=
  ['f', '"', '\x7b', '_', '\x7d', '"']

def isQuote (c : Char) : Bool :=
  c == '\'' || c == '"'

/-- The body of a literal in single quotes and what follows the literal.  A backslash takes the
character behind it along. -/
def shortBody (quote : Char) : List Char → List Char × List Char
  | [] => ([], [])
  | '\\' :: c :: rest =>
      let (body, left) := shortBody quote rest
      ('\\' :: c :: body, left)
  | c :: rest =>
      if c = quote then ([], rest)
      else if c = '\n' then ([], c :: rest)
      else
        let (body, left) := shortBody quote rest
        (c :: body, left)

/-- The body of a literal in triple quotes and what follows the literal. -/
def longBody (quote : Char) : List Char → List Char × List Char
  | [] => ([], [])
  | '\\' :: c :: rest =>
      let (body, left) := longBody quote rest
      ('\\' :: c :: body, left)
  | c :: rest =>
      if c = quote ∧ rest.take 2 = [quote, quote] then ([], rest.drop 2)
      else
        let (body, left) := longBody quote rest
        (c :: body, left)

/-- The body of a literal behind its first quote and what follows the literal. -/
def literalBody (quote : Char) (rest : List Char) : List Char × List Char :=
  if rest.take 2 = [quote, quote] then longBody quote (rest.drop 2) else shortBody quote rest

/-- A text without doubled opening braces. -/
def dropDoubled : List Char → List Char
  | '\x7b' :: '\x7b' :: rest => dropDoubled rest
  | c :: rest => c :: dropDoubled rest
  | [] => []

/-- Whether the body of a formatted literal holds a replacement field. -/
def hasField (body : List Char) : Bool :=
  (dropDoubled body).contains '\x7b'

/-- What stands for a literal with a given mark, in small letters, and body. -/
def placeholderOf (mark : String) (body : List Char) : List Char :=
  if mark.toList.contains 'f' && hasField body then fieldPlaceholder else placeholder

def startsWord (c : Char) : Bool :=
  isLetter c || c == '_'

/-- The next stretch of an outline and what follows it in the text. -/
def nextStretch (c : Char) (rest : List Char) : List Char × List Char :=
  if c = '#' then ([], rest.dropWhile (· ≠ '\n'))
  else if startsWord c then
    let word := c :: rest.takeWhile isWordCharacter
    let behind := rest.dropWhile isWordCharacter
    match behind with
    | quote :: more =>
        let mark := lower (.ofList word)
        if isQuote quote && literalMarks.contains mark then
          let (body, left) := literalBody quote more
          (placeholderOf mark body, left)
        else (word, behind)
    | [] => (word, [])
  else if isQuote c then (placeholder, (literalBody c rest).2)
  else ([c], rest)

/-- Go through a text stretch by stretch. -/
def outlineFrom : (fuel : Nat) → List Char → List Char
  | 0, _ => []
  | _ + 1, [] => []
  | fuel + 1, c :: rest =>
      let (stretch, left) := nextStretch c rest
      stretch ++ outlineFrom fuel left

/-- The outline of a text. -/
def outline (text : List Char) : List Char :=
  outlineFrom text.length text

/-! ### Going on behind a stretch -/

theorem length_shortBody_le (quote : Char) (text : List Char) :
    (shortBody quote text).2.length ≤ text.length := by
  fun_induction shortBody quote text <;> grind

theorem length_longBody_le (quote : Char) (text : List Char) :
    (longBody quote text).2.length ≤ text.length := by
  fun_induction longBody quote text <;> grind

theorem length_literalBody_le (quote : Char) (rest : List Char) :
    (literalBody quote rest).2.length ≤ rest.length := by
  unfold literalBody
  split
  · exact Nat.le_trans (length_longBody_le quote _) (by simp)
  · exact length_shortBody_le quote rest

/-- A stretch uses up a character at least. -/
theorem length_nextStretch_le (c : Char) (rest : List Char) :
    (nextStretch c rest).2.length ≤ rest.length := by
  have shorter (p : Char -> Bool) : (rest.dropWhile p).length ≤ rest.length :=
    (List.dropWhile_sublist p).length_le
  unfold nextStretch
  split
  · exact shorter _
  · split
    · have behind := shorter isWordCharacter
      dsimp only
      split
      · next quote more equal =>
          rw [equal] at behind
          split
          · exact Nat.le_trans (length_literalBody_le quote more)
              (Nat.le_trans (Nat.le_succ _) behind)
          · rw [equal]
            exact behind
      · simp
    · split
      · exact length_literalBody_le c rest
      · exact Nat.le_refl _

/-- More steps than characters make no difference. -/
theorem outlineFrom_eq_outline {fuel : Nat} {text : List Char} (enough : text.length ≤ fuel) :
    outlineFrom fuel text = outline text := by
  unfold outline
  induction fuel using Nat.strongRecOn generalizing text with
  | _ fuel ih =>
      cases text with
      | nil => cases fuel <;> rfl
      | cons c rest =>
          cases fuel with
          | zero => simp at enough
          | succ fuel =>
              have room : rest.length ≤ fuel := Nat.le_of_succ_le_succ enough
              have left := length_nextStretch_le c rest
              simp only [outlineFrom, List.length_cons]
              rw [ih fuel (Nat.lt_succ_self fuel) (Nat.le_trans left room)]
              rcases Nat.lt_or_eq_of_le room with less | equal
              · rw [ih rest.length (Nat.lt_succ_of_lt less) left]
              · rw [equal, ih fuel (Nat.lt_succ_self fuel) (equal ▸ left)]

@[simp] theorem outline_nil : outline [] = [] := rfl

/-- The outline of a text is its next stretch and the outline of what follows. -/
theorem outline_cons (c : Char) (rest : List Char) :
    outline (c :: rest) =
      (nextStretch c rest).1 ++ outline (nextStretch c rest).2 := by
  rw [← outlineFrom_eq_outline (length_nextStretch_le c rest)]
  rfl

end Construct
end AnswerKey
