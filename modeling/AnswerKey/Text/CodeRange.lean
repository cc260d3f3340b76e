namespace AnswerKey
namespace Text

/-!
Tables over code points.  A table is written as one line of text, entries separated by blanks and
numbers in hexadecimal, so that a property of ten thousand characters stays a page of data.  This
file reads the notation and answers look-ups by bisection.
-/

/-- The value of a hexadecimal digit, in either case. -/
def hexDigitValue? (c : Char) : Option Nat :=
  if '0' ≤ c ∧ c ≤ '9' then some (c.toNat - '0'.toNat)
  else if 'a' ≤ c ∧ c ≤ 'f' then some (c.toNat - 'a'.toNat + 10)
  else if 'A' ≤ c ∧ c ≤ 'F' then some (c.toNat - 'A'.toNat + 10)
  else none

/-- The number written by a run of hexadecimal digits; other characters count as nothing. -/
def hexValue (text : List Char) : Nat :=
  text.foldl (fun value c => (hexDigitValue? c).elim value (value * 16 + ·)) 0

/-- The pieces of a text between occurrences of one character.  There is always at least one. -/
def splitAt (separator : Char) : List Char → List (List Char)
  | [] => [[]]
  | c :: rest =>
      match splitAt separator rest with
      | [] => [[c]]
      | piece :: pieces =>
          if c = separator then [] :: piece :: pieces else (c :: piece) :: pieces

theorem splitAt_ne_nil (separator : Char) (text : List Char) : splitAt separator text ≠ [] := by
  cases text with
  | nil => simp [splitAt]
  | cons c rest =>
      simp only [splitAt]
      split
      · simp
      · split <;> simp

/-- A text without the separator is a single piece. -/
theorem splitAt_of_not_mem {separator : Char} {text : List Char} (absent : separator ∉ text) :
    splitAt separator text = [text] := by
  induction text with
  | nil => rfl
  | cons c rest ih =>
      have different : c ≠ separator := fun equal => absent (equal ▸ List.mem_cons_self)
      have inRest : separator ∉ rest := fun member => absent (List.mem_cons_of_mem c member)
      simp [splitAt, ih inRest, different]

/-- No piece holds the separator. -/
theorem not_mem_of_mem_splitAt {separator : Char} {text piece : List Char}
    (member : piece ∈ splitAt separator text) : separator ∉ piece := by
  induction text generalizing piece with
  | nil => simp_all [splitAt]
  | cons c rest ih =>
      simp only [splitAt] at member
      split at member
      · next noPieces => exact absurd noPieces (splitAt_ne_nil separator rest)
      · next first others pieces =>
          have inRest : forall p, p ∈ first :: others -> separator ∉ p :=
            fun p here => ih (pieces ▸ here)
          split at member
          · rcases List.mem_cons.mp member with same | later
            · simp [same]
            · exact inRest piece later
          · next different =>
              rcases List.mem_cons.mp member with same | later
              · subst same
                intro here
                rcases List.mem_cons.mp here with equal | inside
                · exact different equal.symm
                · exact inRest first List.mem_cons_self inside
              · exact inRest piece (List.mem_cons_of_mem _ later)

/-- The entries of a table: what stands between blanks and line ends. -/
def entriesOf (text : String) : List (List Char) :=
  (splitAt ' ' (text.toList.map fun c => if c = '\n' then ' ' else c)).filter (!·.isEmpty)

/-- The first and last code point of an entry `first-last`, or of a single code point. -/
def readBounds (entry : List Char) : Nat × Nat :=
  match splitAt '-' entry with
  | [first, last] => (hexValue first, hexValue last)
  | _ => (hexValue entry, hexValue entry)

/-- Inclusive ranges of code points in increasing order. -/
structure RangeTable where
  ranges : Array (Nat × Nat)

namespace RangeTable

/-- Read ranges written as `first-last` or `code`, separated by blanks. -/
def ofText (text : String) : RangeTable :=
  ⟨((entriesOf text).map readBounds).toArray⟩

/-- The range that holds a code point, looked for between two positions of the table. -/
def findBetween (table : RangeTable) (code : Nat) : (fuel low high : Nat) → Option (Nat × Nat)
  | 0, _, _ => none
  | fuel + 1, low, high =>
      if low < high then
        let middle := (low + high) / 2
        match table.ranges[middle]? with
        | none => none
        | some (first, last) =>
            if code < first then findBetween table code fuel low middle
            else if last < code then findBetween table code fuel (middle + 1) high
            else some (first, last)
      else none

/-- The range of the table that holds a code point. -/
def find? (table : RangeTable) (code : Nat) : Option (Nat × Nat) :=
  table.findBetween code (table.ranges.size + 1) 0 table.ranges.size

def contains (table : RangeTable) (code : Nat) : Bool :=
  (table.find? code).isSome

end RangeTable

/-- A run of code points whose members are mapped one by one, starting at `image`. -/
structure MappedRun where
  first : Nat
  last : Nat
  stride : Nat
  image : Nat

/-- Mapped runs in increasing order. -/
structure RunTable where
  runs : Array MappedRun

namespace RunTable

/-- Read one entry: `first-last:image`, `first-last/2:image` or `code:image`. -/
def readRun (entry : List Char) : MappedRun :=
  match splitAt ':' entry with
  | [source, image] =>
      match splitAt '/' source with
      | [bounds, stride] =>
          ⟨(readBounds bounds).1, (readBounds bounds).2, hexValue stride, hexValue image⟩
      | _ => ⟨(readBounds source).1, (readBounds source).2, 1, hexValue image⟩
  | _ => ⟨0, 0, 1, 0⟩

def ofText (text : String) : RunTable :=
  ⟨((entriesOf text).map readRun).toArray⟩

/-- The run around a code point, looked for between two positions of the table. -/
def findBetween (table : RunTable) (code : Nat) : (fuel low high : Nat) → Option MappedRun
  | 0, _, _ => none
  | fuel + 1, low, high =>
      if low < high then
        let middle := (low + high) / 2
        match table.runs[middle]? with
        | none => none
        | some run =>
            if code < run.first then findBetween table code fuel low middle
            else if run.last < code then findBetween table code fuel (middle + 1) high
            else some run
      else none

/-- The image of a code point, or nothing when the table leaves it alone. -/
def image? (table : RunTable) (code : Nat) : Option Nat :=
  match table.findBetween code (table.runs.size + 1) 0 table.runs.size with
  | none => none
  | some run =>
      if (code - run.first) % run.stride = 0 then some (run.image + (code - run.first)) else none

end RunTable

end Text
end AnswerKey
