import AnswerKey.Text.Compatibility
import AnswerKey.Text.Line

namespace AnswerKey
namespace Answer

/-!
Normal forms of answers.  Two answers are equal in the exact sense when their normal forms are the
same text.  Each kind of answer has its own form: a filled-in word, a printed output, written code.
-/

open Text

/-- Write typographic quotation marks as plain ones. -/
def plainQuote (c : Char) : Char :=
  if c.toNat = 0x2019 ∨ c.toNat = 0x2018 then '\''
  else if c.toNat = 0x201c ∨ c.toNat = 0x201d then '"'
  else c

/-- Compatibility normalisation followed by plain quotation marks: where every normal form starts. -/
def fold (text : List Char) : List Char :=
  (Compatibility.normalize text).map plainQuote

/-- Replace every run of characters of a class by one character. -/
def collapse (p : Char → Bool) (replacement : Char) : (inRun : Bool) → List Char → List Char
  | _, [] => []
  | inRun, c :: rest =>
      if p c then
        if inRun then collapse p replacement true rest
        else replacement :: collapse p replacement true rest
      else c :: collapse p replacement false rest

/-- Prose: trimmed, with single spaces between words. -/
def proseChars (text : List Char) : List Char :=
  collapse isBlank ' ' false (trim (fold text))

/-- Printed output: line ends unified, every line trimmed on the right, blanks at both ends of the
whole removed. -/
def outputChars (text : List Char) : List Char :=
  let trimmed := (lines (unifyLineEnds (fold text))).map trimRight
  trim (trimWhile (· == '\n') (unlines trimmed))

/-- The characters around which spacing carries no meaning in code. -/
def isPunctuation (c : Char) : Bool :=
  "()[]\x7b\x7d:,.;=+-*/%<>!&|^~@".toList.contains c

/-- Drop every run of blanks next to a punctuation character.  `pending` holds, in reverse, the
blanks read since the last other character. -/
def tighten (pending : List Char) (afterPunctuation : Bool) : List Char → List Char
  | [] => if afterPunctuation then [] else pending.reverse
  | c :: rest =>
      if isBlank c then tighten (c :: pending) afterPunctuation rest
      else if isPunctuation c then c :: tighten [] true rest
      else (if afterPunctuation then [] else pending.reverse) ++ c :: tighten [] false rest

/-- How many spaces a line starts with. -/
def indentOf (line : List Char) : Nat :=
  (line.takeWhile (· == ' ')).length

/-- Replace runs of two or more spaces by one. -/
def singleSpaces (text : List Char) : List Char :=
  collapse (· == ' ') ' ' false text

/-- A line of code: its indentation stays, spacing inside it is reduced. -/
def codeLine (line : List Char) : List Char :=
  let body := line.dropWhile (· == ' ')
  List.replicate (indentOf line) ' ' ++ tighten [] false (singleSpaces (trimRight body))

/-- The least indentation of some lines. -/
def margin : List (List Char) → Nat
  | [] => 0
  | [line] => indentOf line
  | line :: rest => min (indentOf line) (margin rest)

/-- Code: tabs expanded, one quotation mark, blank lines dropped, spacing reduced line by line and
the common indentation removed. -/
def codeChars (text : List Char) : List Char :=
  let expanded := (expandTabs 4 (unifyLineEnds (fold text))).map
    (fun c => if c = '\'' then '"' else c)
  let kept := ((lines expanded).map codeLine).filter (fun line => !(trim line).isEmpty)
  unlines (kept.map (·.drop (margin kept)))

/-- The normal form of prose. -/
def prose (text : String) : String :=
  .ofList (proseChars text.toList)

/-- The normal form of a filled-in gap. -/
def fillIn (text : String) : String :=
  prose text

/-- The normal form of printed output. -/
def output (text : String) : String :=
  .ofList (outputChars text.toList)

/-- The normal form of written code. -/
def code (text : String) : String :=
  .ofList (codeChars text.toList)

end Answer
end AnswerKey
