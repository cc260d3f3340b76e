import Mathlib.Data.List.DropRight
import AnswerKey.Proofs.Answer.Projection
import AnswerKey.Proofs.Answer.Spacing

namespace AnswerKey
namespace Answer

/-!
Predictions of printed output.

Of a printed output the lines count, up to the blanks at their ends and the empty lines behind the
last one that shows something (`printedLines`).  The normal form keeps a little less: it moves what
is printed up to the first line and, in that line, to the left (`outputChars_eq`).  So a prediction
is right exactly if it shows the expected lines from their first visible character on, and the place
where the output starts is all that it may miss (`isCorrect_output_iff`).
-/

open Text

/-! ### Trimming at both ends -/

section Trimming

variable {α : Type} {p q : α → Bool}

theorem rdropWhile_cons (c : α) (rest : List α) :
    (c :: rest).rdropWhile p =
      if rest.rdropWhile p = [] ∧ p c = true then [] else c :: rest.rdropWhile p := by
  rw [List.rdropWhile, List.reverse_cons, List.dropWhile_append]
  by_cases empty : rest.rdropWhile p = []
  · have none : rest.reverse.dropWhile p = [] := List.reverse_eq_nil_iff.mp empty
    rw [if_pos (by rw [none]; rfl), empty]
    by_cases gone : p c = true
    · simp [gone]
    · simp [gone]
  · have some : ¬ (rest.reverse.dropWhile p).isEmpty = true := by
      rwa [List.isEmpty_iff, ← List.reverse_eq_nil_iff]
    rw [if_neg some, if_neg (fun both => empty both.1), List.reverse_append]
    rfl

/-- Either end may be trimmed first, as long as the right one loses nothing that the left one would
keep. -/
theorem dropWhile_rdropWhile (among : ∀ c, p c = true → q c = true) (text : List α) :
    (text.rdropWhile p).dropWhile q = (text.dropWhile q).rdropWhile p := by
  induction text with
  | nil => simp
  | cons c rest ih =>
      rw [rdropWhile_cons]
      by_cases gone : q c = true
      · rw [List.dropWhile_cons_of_pos gone, ← ih]
        split
        · next both => rw [both.1]
        · rw [List.dropWhile_cons_of_pos gone]
      · have kept : ¬ (rest.rdropWhile p = [] ∧ p c = true) := fun both => gone (among c both.2)
        rw [if_neg kept, List.dropWhile_cons_of_neg gone, List.dropWhile_cons_of_neg gone,
          rdropWhile_cons, if_neg kept]

end Trimming

/-- Line feeds at the ends need not be trimmed in front of the blanks. -/
theorem trim_trimWhile {p : Char → Bool} (blankOnly : ∀ c, p c = true → isBlank c = true)
    (text : List Char) : trim (trimWhile p text) = trim text := by
  have left (text : List Char) : (text.dropWhile p).dropWhile isBlank = text.dropWhile isBlank := by
    induction text with
    | nil => rfl
    | cons c rest ih =>
        by_cases gone : p c = true
        · rw [List.dropWhile_cons_of_pos gone, List.dropWhile_cons_of_pos (blankOnly c gone), ih]
        · rw [List.dropWhile_cons_of_neg gone]
  have right (text : List Char) :
      (text.rdropWhile p).rdropWhile isBlank = text.rdropWhile isBlank := by
    rw [List.rdropWhile, List.rdropWhile, List.reverse_reverse, left, List.rdropWhile]
  change (((text.dropWhile p).rdropWhile p).dropWhile isBlank).rdropWhile isBlank =
    (text.dropWhile isBlank).rdropWhile isBlank
  rw [dropWhile_rdropWhile blankOnly, left, right]

/-! ### Lines in full -/

/-- The lines of a printed output in full: each without the blanks at its end, and none behind the
last one that shows something. -/
def printedLines (text : List Char) : List (List Char) :=
  (outputLines (fold text)).rdropWhile (·.isEmpty)

/-- Lines moved to the first line and, in that line, to the left. -/
def flush (rows : List (List Char)) : List (List Char) :=
  (rows.dropWhile (·.isEmpty)).modifyHead (·.dropWhile isBlank)

/-- Where lines start: the number of empty lines above, and the blanks in front. -/
def offset (rows : List (List Char)) : Nat × List Char :=
  ((rows.takeWhile (·.isEmpty)).length,
    ((rows.dropWhile (·.isEmpty)).head?.getD []).takeWhile isBlank)

/-- Lines are told by where they start and by what they are from there on. -/
theorem eq_of_flush_of_offset {rows other : List (List Char)} (same : flush rows = flush other)
    (place : offset rows = offset other) : rows = other := by
  have whole (rows : List (List Char)) : rows = List.replicate (offset rows).1 [] ++
      (flush rows).modifyHead ((offset rows).2 ++ ·) := by
    have above : rows.takeWhile (·.isEmpty) = List.replicate (offset rows).1 [] :=
      List.eq_replicate_iff.mpr
        ⟨rfl, fun row member => by simpa using List.mem_takeWhile_imp member⟩
    have below : (flush rows).modifyHead ((offset rows).2 ++ ·) = rows.dropWhile (·.isEmpty) := by
      rw [flush, offset]
      cases rows.dropWhile (·.isEmpty) with
      | nil => rfl
      | cons row more =>
          simp [List.modifyHead_cons, List.takeWhile_append_dropWhile]
    rw [below, ← above, List.takeWhile_append_dropWhile]
  rw [whole rows, whole other, same, place]

/-! ### Normal forms -/

/-- A line without blanks at its end. -/
def EndsVisibly (row : List Char) : Prop :=
  trimRight row = row

theorem EndsVisibly.isVisible {row : List Char} (ends : EndsVisibly row) (filled : row ≠ []) :
    IsVisible row := by
  have last := List.getLast?_eq_some_getLast filled
  have kept := @isBlank_getLast?_trimRight row
  rw [ends] at kept
  exact ⟨_, List.getLast_mem filled, kept _ last⟩

theorem endsVisibly_of_mem_outputLines {text row : List Char} (member : row ∈ outputLines text) :
    EndsVisibly row := by
  obtain ⟨whole, -, rfl⟩ := List.mem_map.mp member
  exact trimRightWhile_eq_self isBlank_getLast?_trimRight

theorem unlines_cons {row : List Char} {rest : List (List Char)} (filled : rest ≠ []) :
    unlines (row :: rest) = row ++ '\n' :: unlines rest := by
  cases rest with
  | nil => exact absurd rfl filled
  | cons second more => simp [unlines, joinWith]

theorem unlines_ne_nil {rows : List (List Char)} (shown : IsVisible (unlines rows)) :
    rows ≠ [] := by
  rintro rfl
  exact not_isVisible_nil shown

/-- Trimming lines on the right as a whole removes the empty ones at their end. -/
theorem trimRight_unlines {rows : List (List Char)} (ends : ∀ row ∈ rows, EndsVisibly row) :
    trimRight (unlines rows) = unlines (rows.rdropWhile (·.isEmpty)) := by
  induction rows with
  | nil => rfl
  | cons row rest ih =>
      rw [List.forall_mem_cons] at ends
      rw [rdropWhile_cons]
      by_cases shown : IsVisible (unlines rest)
      · have kept : IsVisible (unlines (rest.rdropWhile (·.isEmpty))) := by
          rwa [← ih ends.2, isVisible_trimRight]
        have behind : trimRight ('\n' :: unlines rest) = '\n' :: trimRight (unlines rest) :=
          @trimRight_append_of_visible ['\n'] _ shown
        rw [if_neg fun both => unlines_ne_nil kept both.1, unlines_cons (unlines_ne_nil shown),
          unlines_cons (unlines_ne_nil kept),
          trimRight_append_of_visible (isVisible_cons.mpr (.inr shown)), behind, ih ends.2]
      · have empty : rest.rdropWhile (·.isEmpty) = [] := by
          refine List.rdropWhile_eq_nil_iff.mpr fun piece member => ?_
          by_contra filled
          have visible := (ends.2 piece member).isVisible (by simpa using filled)
          exact shown (isVisible_unlines member visible)
        have alone : trimRight (unlines (row :: rest)) = row := by
          by_cases last : rest = []
          · rw [last]
            exact ends.1
          · have blank : ¬ IsVisible ('\n' :: unlines rest) := by
              rw [isVisible_cons]
              exact fun either => either.elim (by decide) shown
            rw [unlines_cons last, trimRight_append_of_blank blank, ends.1]
        rw [alone, empty]
        by_cases gone : row.isEmpty = true
        · rw [if_pos ⟨rfl, gone⟩, List.isEmpty_iff.mp gone]
          rfl
        · rw [if_neg fun both => gone both.2]
          rfl

/-- Trimming lines on the left as a whole moves them to the first line and to the left. -/
theorem dropWhile_unlines {rows : List (List Char)} (ends : ∀ row ∈ rows, EndsVisibly row) :
    (unlines rows).dropWhile isBlank = unlines (flush rows) := by
  induction rows with
  | nil => rfl
  | cons row rest ih =>
      rw [List.forall_mem_cons] at ends
      by_cases filled : row = []
      · subst filled
        by_cases last : rest = []
        · rw [last]
          rfl
        · rw [unlines_cons last]
          exact ih ends.2
      · have front : flush (row :: rest) = row.dropWhile isBlank :: rest := by
          rw [flush, List.dropWhile_cons_of_neg (by simpa using filled)]
          rfl
        have shown := (isVisible_dropWhile (fun _ => id) row).mpr (ends.1.isVisible filled)
        rw [front]
        by_cases last : rest = []
        · rw [last]
          rfl
        · rw [unlines_cons last, unlines_cons last, List.dropWhile_append,
            if_neg (by simpa using shown.ne_nil)]

theorem mem_printedLines {text row : List Char} (member : row ∈ printedLines text) :
    row ∈ outputLines (fold text) :=
  (List.rdropWhile_prefix _ _).subset member

/-- The normal form of a printed output is its lines, moved to the first line and to the left. -/
theorem outputChars_eq (text : List Char) :
    outputChars text = unlines (flush (printedLines text)) := by
  have ends : ∀ row ∈ outputLines (fold text), EndsVisibly row :=
    fun _ => endsVisibly_of_mem_outputLines
  calc outputChars text = trim (unlines (outputLines (fold text))) :=
        trim_trimWhile (isBlank_of_eq (by decide)) _
    _ = (trimRight (unlines (outputLines (fold text)))).dropWhile isBlank :=
        (dropWhile_rdropWhile (fun _ => id) _).symm
    _ = unlines (flush (printedLines text)) := by
        rw [trimRight_unlines ends, ← printedLines,
          dropWhile_unlines fun row member => ends row (mem_printedLines member)]

theorem noFeed_flush {rows : List (List Char)} (noFeed : ∀ row ∈ rows, '\n' ∉ row) :
    ∀ row ∈ flush rows, '\n' ∉ row := by
  rw [flush]
  cases whole : rows.dropWhile (·.isEmpty) with
  | nil => exact fun _ member => nomatch member
  | cons row more =>
      have kept (other : List Char) (member : other ∈ row :: more) : '\n' ∉ other :=
        noFeed other ((List.dropWhile_suffix _).subset (whole ▸ member))
      rw [List.modifyHead_cons, List.forall_mem_cons]
      exact ⟨fun inside => kept row List.mem_cons_self ((List.dropWhile_suffix _).subset inside),
        fun other member => kept other (List.mem_cons_of_mem _ member)⟩

theorem lines_outputChars {text : List Char} (shown : IsVisible (outputChars text)) :
    lines (outputChars text) = flush (printedLines text) := by
  rw [outputChars_eq] at shown ⊢
  exact lines_unlines (unlines_ne_nil shown)
    (noFeed_flush fun row member => noFeed_outputLines (mem_printedLines member))

/-- Normal forms of printed outputs are the same text when their lines are the same. -/
theorem outputChars_eq_iff {text other : List Char} (shown : IsVisible other) :
    outputChars text = outputChars other ↔
      flush (printedLines text) = flush (printedLines other) := by
  have also := isVisible_outputChars shown
  refine ⟨fun same => ?_, fun same => by rw [outputChars_eq, outputChars_eq, same]⟩
  rw [← lines_outputChars also, ← lines_outputChars (same ▸ also), same]

/-! ### Predictions -/

/-- A prediction of a visible output is right exactly if its lines are the expected ones once both
are moved to the first line and to the left.  So it is right exactly if its lines are the expected
ones in full, unless it shows the same from the first visible character on and starts elsewhere. -/
theorem isCorrect_output_iff (answer expected : String) (shown : IsVisible expected.toList) :
    let given := printedLines answer.toList
    let wanted := printedLines expected.toList
    let verdict := matchWith .output answer expected []
    (verdict.isCorrect = true ↔ flush given = flush wanted) ∧
      ((verdict.isCorrect = true ↔ given = wanted) ↔
        (flush given = flush wanted → offset given = offset wanted)) := by
  intro given wanted verdict
  have filled : output expected ≠ "" :=
    fun empty => (isVisible_outputChars shown).ne_nil (String.ofList_eq_empty_iff.mp empty)
  have accepted : verdict.isCorrect = true ↔ output answer = output expected := by
    simp only [verdict, matchWith, Form.normalize, firstMatch?, List.find?_nil]
    by_cases empty : output answer = ""
    · simpa [empty] using filled.symm
    · by_cases same : output answer = output expected
      · simp [same, filled]
      · simp [empty, same]
  have right : verdict.isCorrect = true ↔ flush given = flush wanted := by
    rw [accepted, output, output, String.ofList_inj]
    exact outputChars_eq_iff shown
  refine ⟨right, ?_⟩
  rw [right]
  constructor
  · intro whole same
    rw [whole.mp same]
  · intro place
    exact ⟨fun same => eq_of_flush_of_offset same (place same), fun same => by rw [same]⟩

theorem isCorrect_output_triangle : IsVisible " *\n***".toList ∧
    (matchWith .output " *\r\n***  \n\n" " *\n***" []).isCorrect = true :=
  ⟨by decide, (isCorrect_output_iff " *\r\n***  \n\n" " *\n***" (by decide)).1.mpr
    (by decide +kernel)⟩

/-- The top of a triangle may stand anywhere. -/
theorem isCorrect_output_shifted : IsVisible " *\n***".toList ∧
    (matchWith .output "*\n***" " *\n***" []).isCorrect = true ∧
    printedLines "*\n***".toList ≠ printedLines " *\n***".toList := by
  decide +kernel

end Answer
end AnswerKey
