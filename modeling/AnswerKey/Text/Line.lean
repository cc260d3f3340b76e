import AnswerKey.Text.CharClass

namespace AnswerKey
namespace Text

/-!
Trimming, lines and tabs.  All functions work on lists of characters; a text without a line break
has exactly one line, and joining the lines of a text with line breaks gives the text back.
-/

/-- Remove leading characters of a class. -/
def trimLeftWhile (p : Char → Bool) (text : List Char) : List Char :=
  text.dropWhile p

/-- Remove trailing characters of a class. -/
def trimRightWhile (p : Char → Bool) (text : List Char) : List Char :=
  (text.reverse.dropWhile p).reverse

def trimRight (text : List Char) : List Char :=
  trimRightWhile isBlank text

/-- Remove blanks on both sides. -/
def trim (text : List Char) : List Char :=
  trimRight (trimLeftWhile isBlank text)

/-- Remove characters of a class on both sides. -/
def trimWhile (p : Char → Bool) (text : List Char) : List Char :=
  trimRightWhile p (trimLeftWhile p text)

/-- The lines of a text: the pieces between its line feeds. -/
def lines (text : List Char) : List (List Char) :=
  splitAt '\n' text

/-- Put a separator between texts. -/
def joinWith (separator : List Char) : List (List Char) → List Char
  | [] => []
  | [piece] => piece
  | piece :: rest => piece ++ separator ++ joinWith separator rest

def unlines (pieces : List (List Char)) : List Char :=
  joinWith ['\n'] pieces

/-- Joining the pieces between separators gives the text back. -/
theorem joinWith_splitAt (separator : Char) (text : List Char) :
    joinWith [separator] (splitAt separator text) = text := by
  induction text with
  | nil => rfl
  | cons c rest ih =>
      simp only [splitAt]
      split
      · next noPieces => exact absurd noPieces (splitAt_ne_nil separator rest)
      · next first others pieces =>
          rw [pieces] at ih
          split
          · next same => simp [joinWith, ih, same]
          · cases others with
            | nil => simpa [joinWith] using ih
            | cons second more => simpa [joinWith] using ih

/-- Joining the lines of a text gives the text back. -/
@[simp] theorem unlines_lines (text : List Char) : unlines (lines text) = text :=
  joinWith_splitAt '\n' text

theorem lines_of_not_mem {text : List Char} (absent : '\n' ∉ text) : lines text = [text] :=
  splitAt_of_not_mem absent

/-- Write every line end as a line feed: a carriage return with the line feed behind it, or alone. -/
def unifyLineEnds : List Char → List Char
  | [] => []
  | '\r' :: '\n' :: rest => '\n' :: unifyLineEnds rest
  | c :: rest => (if c = '\r' then '\n' else c) :: unifyLineEnds rest

/-- Replace tabs by blanks up to the next column that is a multiple of the width.  The second
argument is the current column. -/
def expandTabsFrom (width : Nat) : (column : Nat) → List Char → List Char
  | _, [] => []
  | column, c :: rest =>
      if c = '\t' then
        let gap := width - column % width
        List.replicate gap ' ' ++ expandTabsFrom width (column + gap) rest
      else if c = '\n' ∨ c = '\r' then c :: expandTabsFrom width 0 rest
      else c :: expandTabsFrom width (column + 1) rest

def expandTabs (width : Nat) (text : List Char) : List Char :=
  expandTabsFrom width 0 text

/-- Trim a string. -/
def trimString (text : String) : String :=
  .ofList (trim text.toList)

end Text
end AnswerKey
