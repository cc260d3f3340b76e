import Mathlib.Logic.Relation
import AnswerKey.Proofs.Answer.Projection

namespace AnswerKey
namespace Answer

/-!
Edits that do not matter in written code.

The normal form of code is the same for texts that differ in the spacing around punctuation, the
number of spaces behind the first visible character of a line, blank lines, line ends, quotation marks
and the indentation that all lines share (`Edit`).  The lines keep their indentation relative to each
other: texts without tabs that differ in it have different normal forms.
-/

open Text

/-- Changes within one line: a space next to punctuation, behind something visible; a space doubled
there; a space at the end; and one quotation mark for the other. -/
inductive LineEdit : List Char → List Char → Prop where
  | space {before behind : List Char}
      (place : (∃ c ∈ before.getLast?, isPunctuation c = true) ∨
        IsVisible before ∧ ∃ c ∈ behind.head?, isPunctuation c = true) :
      LineEdit (before ++ behind) (before ++ ' ' :: behind)
  | double {before behind : List Char} (shown : IsVisible before) :
      LineEdit (before ++ ' ' :: behind) (before ++ ' ' :: ' ' :: behind)
  | trailing (line : List Char) : LineEdit line (line ++ [' '])
  | doubleQuote (before behind : List Char) :
      LineEdit (before ++ '\'' :: behind) (before ++ '"' :: behind)
  | singleQuote (before behind : List Char) :
      LineEdit (before ++ '"' :: behind) (before ++ '\'' :: behind)

/-- Changes of a text that do not matter in written code: in one of its lines; a blank line more; the
line end of two characters for that of one; and, without tabs, more indentation for all lines that
are not blank. -/
inductive Edit : List Char → List Char → Prop where
  | line {text edited line line' : List Char} {above below : List (List Char)}
      (here : linesOf text = above ++ line :: below) (within : LineEdit line line')
      (there : linesOf edited = above ++ line' :: below) : Edit text edited
  | blank {text edited blank : List Char} {above below : List (List Char)}
      (here : linesOf text = above ++ below) (ascii : IsAsciiText blank) (empty : ¬ IsVisible blank)
      (there : linesOf edited = above ++ blank :: below) : Edit text edited
  | lineEnd (above below : List Char) : Edit (above ++ '\n' :: below) (above ++ '\r' :: '\n' :: below)
  | indent {text edited : List Char} (count : Nat) (noTab : '\t' ∉ text)
      (there : linesOf edited = (linesOf text).map fun line =>
        if IsVisible line then List.replicate count ' ' ++ line else line) : Edit text edited

/-! ### Runs of spaces -/

/-- A stretch of a line with its tabs expanded and no two spaces in a row. -/
def squeezed (inRun : Bool) (stretch : List Char) : List Char :=
  collapse (· == ' ') ' ' inRun (expandTabs 4 stretch)

section Runs

variable {p : Char → Bool} {r : Char}

/-- Whether a run goes on behind a text. -/
def runBehind (p : Char → Bool) (inRun : Bool) (text : List Char) : Bool :=
  (text.getLast?.map p).getD inRun

theorem collapse_append (inRun : Bool) (first second : List Char) :
    collapse p r inRun (first ++ second) =
      collapse p r inRun first ++ collapse p r (runBehind p inRun first) second := by
  induction first generalizing inRun with
  | nil => rfl
  | cons c first ih =>
      have onward : runBehind p (p c) first = runBehind p inRun (c :: first) := by
        cases first with
        | nil => rfl
        | cons d first =>
            rw [runBehind, runBehind, List.getLast?_cons_cons,
              List.getLast?_eq_some_getLast (List.cons_ne_nil d first)]
            rfl
      rw [List.cons_append, collapse, collapse]
      split
      · next member =>
          rw [← onward, member]
          split
          · exact ih true
          · rw [ih true, List.cons_append]
      · next other =>
          rw [← onward, eq_false_of_ne_true other, ih false, List.cons_append]

theorem collapse_spaces (inRun : Bool) {count : Nat} (some : 0 < count) (rest : List Char) :
    collapse (· == ' ') ' ' inRun (List.replicate count ' ' ++ rest) =
      (if inRun then [] else [' ']) ++ collapse (· == ' ') ' ' true rest := by
  have all (count : Nat) : collapse (· == ' ') ' ' true (List.replicate count ' ' ++ rest) =
      collapse (· == ' ') ' ' true rest := by
    induction count with
    | zero => rfl
    | succ count ih => rw [List.replicate_succ, List.cons_append, collapse]; exact ih
  cases count with
  | zero => cases some
  | succ count =>
      rw [List.replicate_succ, List.cons_append, collapse, if_pos (beq_self_eq_true ' '), all]
      split <;> rfl

/-- The column at which tabs are expanded makes no difference to what the runs become. -/
theorem collapse_expandTabsFrom (inRun : Bool) (first second : Nat) (text : List Char) :
    collapse (· == ' ') ' ' inRun (expandTabsFrom 4 first text) =
      collapse (· == ' ') ' ' inRun (expandTabsFrom 4 second text) := by
  induction text generalizing inRun first second with
  | nil => rfl
  | cons c rest ih =>
      have gap (column : Nat) : 0 < 4 - column % 4 := by omega
      rw [expandTabsFrom, expandTabsFrom]
      split
      · rw [collapse_spaces inRun (gap first), collapse_spaces inRun (gap second), ih]
      · split
        · rfl
        · have onward (inRun : Bool) := ih inRun (first + 1) (second + 1)
          rw [collapse, collapse, onward true, onward false]

theorem squeezed_nil (inRun : Bool) : squeezed inRun [] = [] := rfl

theorem squeezed_space (inRun : Bool) (stretch : List Char) :
    squeezed inRun (' ' :: stretch) = (if inRun then [] else [' ']) ++ squeezed true stretch := by
  have step : expandTabs 4 (' ' :: stretch) = List.replicate 1 ' ' ++ expandTabsFrom 4 1 stretch := by
    rw [expandTabs, expandTabsFrom, if_neg (by decide), if_neg (by decide)]
    rfl
  rw [squeezed, step, collapse_spaces inRun Nat.one_pos, collapse_expandTabsFrom true 1 0]
  rfl

/-- Outside a run a stretch is squeezed as inside one, but for a space in front. -/
theorem squeezed_false (stretch : List Char) :
    squeezed false stretch = squeezed true stretch ∨
      squeezed false stretch = ' ' :: squeezed true stretch := by
  cases stretch with
  | nil => exact .inl rfl
  | cons c rest =>
      rw [squeezed, squeezed, expandTabs, expandTabsFrom]
      split
      · rw [collapse_spaces false (by decide), collapse_spaces true (by decide)]
        exact .inr rfl
      · split
        all_goals
          rw [collapse, collapse]
          split
          · next space =>
              rw [if_neg Bool.false_ne_true, if_pos rfl]
              exact .inr rfl
          · exact .inl rfl

/-- A stretch that starts with punctuation is squeezed to one that does. -/
theorem squeezed_punctuation {c : Char} (mark : isPunctuation c = true) (inRun : Bool)
    (rest : List Char) : ∃ squeezed', squeezed inRun (c :: rest) = c :: squeezed' := by
  have shown := not_isBlank_of_isPunctuation mark
  have other (d : Char) (blank : isBlank d = true) : c ≠ d := by
    rintro rfl
    rw [shown] at blank
    cases blank
  rw [squeezed, expandTabs, expandTabsFrom, if_neg (other '\t' rfl),
    if_neg (by rintro (rfl | rfl) <;> cases shown), collapse,
    if_neg (by simpa using other ' ' rfl)]
  exact ⟨_, rfl⟩

end Runs

/-! ### Trimming behind a line -/

section Trimming

variable {first second : List Char}

theorem trimRight_append_of_visible (shown : IsVisible second) :
    trimRight (first ++ second) = first ++ trimRight second := by
  have filled : second.reverse.dropWhile isBlank ≠ [] :=
    ((isVisible_dropWhile (fun _ => id) _).mpr (isVisible_reverse.mpr shown)).ne_nil
  rw [trimRight, trimRightWhile, List.reverse_append, List.dropWhile_append,
    if_neg (by simpa using filled), List.reverse_append, List.reverse_reverse]
  rfl

theorem trimRight_append_of_blank (blank : ¬ IsVisible second) :
    trimRight (first ++ second) = trimRight first := by
  have gone : second.reverse.dropWhile isBlank = [] := by
    rw [List.dropWhile_eq_nil_iff]
    intro c member
    rw [← Bool.not_eq_false]
    exact fun shown => blank ⟨c, List.mem_reverse.mp member, shown⟩
  rw [trimRight, trimRightWhile, List.reverse_append, List.dropWhile_append, gone]
  rfl

theorem exists_append_trimRight (text : List Char) :
    ∃ behind, text = trimRight text ++ behind ∧ ¬ IsVisible behind := by
  refine ⟨(text.reverse.takeWhile isBlank).reverse, ?_, ?_⟩
  · rw [trimRight, trimRightWhile, ← List.reverse_append, List.takeWhile_append_dropWhile,
      List.reverse_reverse]
  · rintro ⟨c, member, shown⟩
    rw [List.mem_takeWhile_imp (List.mem_reverse.mp member)] at shown
    cases shown

/-- Blanks at the end are trimmed whether or not their runs have been reduced. -/
theorem singleSpaces_trimRight (text : List Char) :
    singleSpaces (trimRight text) = trimRight (singleSpaces text) := by
  obtain ⟨behind, whole, blank⟩ := exists_append_trimRight text
  have ends : (singleSpaces (trimRight text)).getLast? = (trimRight text).getLast? :=
    getLast?_collapse fun c last => by
      simpa using ne_space_of_not_isBlank (isBlank_getLast?_trimRight c last)
  conv_rhs => rw [whole, singleSpaces, collapse_append, ← singleSpaces]
  rw [trimRight_append_of_blank]
  · refine (trimRightWhile_eq_self ?_).symm
    rw [ends]
    exact isBlank_getLast?_trimRight
  · rintro ⟨c, member, shown⟩
    rcases mem_collapse member with rfl | held
    · cases shown
    · exact blank ⟨c, held, shown⟩

end Trimming

/-! ### What stands in front of an edit -/

/-- Behind some text tightening goes on from what it has seen. -/
theorem exists_tighten_append (pending first : List Char) (afterPunctuation : Bool) :
    ∃ kept pending' afterPunctuation', ∀ second,
      tighten pending afterPunctuation (first ++ second) =
        kept ++ tighten pending' afterPunctuation' second := by
  induction first generalizing pending afterPunctuation with
  | nil => exact ⟨[], pending, afterPunctuation, fun _ => rfl⟩
  | cons c rest ih =>
      cases blank : isBlank c with
      | true =>
          obtain ⟨kept, pending', afterPunctuation', onward⟩ := ih (c :: pending) afterPunctuation
          exact ⟨kept, pending', afterPunctuation', fun second =>
            (tighten_blank blank _).trans (onward second)⟩
      | false =>
          cases mark : isPunctuation c with
          | true =>
              obtain ⟨kept, pending', afterPunctuation', onward⟩ := ih [] true
              exact ⟨c :: kept, pending', afterPunctuation', fun second =>
                (tighten_punctuation mark _).trans (congrArg _ (onward second))⟩
          | false =>
              obtain ⟨kept, pending', afterPunctuation', onward⟩ := ih [] false
              refine ⟨(if afterPunctuation then [] else pending.reverse) ++ c :: kept, pending',
                afterPunctuation', fun second => ?_⟩
              rw [List.cons_append, tighten_plain blank mark, onward second]
              simp

/-- A space between punctuation and anything else is dropped. -/
theorem tighten_space {first second : List Char}
    (place : (∃ c ∈ first.getLast?, isPunctuation c = true) ∨
      ∃ c ∈ second.head?, isPunctuation c = true) (pending : List Char) (afterPunctuation : Bool) :
    tighten pending afterPunctuation (first ++ ' ' :: second) =
      tighten pending afterPunctuation (first ++ second) := by
  rcases place with ⟨c, last, mark⟩ | ⟨c, head, mark⟩
  · obtain ⟨early, rfl⟩ := List.getLast?_eq_some_iff.mp last
    obtain ⟨kept, pending', afterPunctuation', onward⟩ :=
      exists_tighten_append pending early afterPunctuation
    rw [List.append_assoc, List.append_assoc, onward, onward, List.singleton_append,
      List.singleton_append, tighten_punctuation mark, tighten_punctuation mark,
      tighten_blank (by decide), tighten_true]
  · obtain ⟨kept, pending', afterPunctuation', onward⟩ :=
      exists_tighten_append pending first afterPunctuation
    obtain ⟨rest, rfl⟩ := List.head?_eq_some_iff.mp head
    rw [onward, onward, tighten_blank (by decide), tighten_punctuation mark,
      tighten_punctuation mark]

/-- A space next to punctuation makes no difference to a reduced body, wherever its blanks at the end
begin. -/
theorem tighten_trimRight_space {first second : List Char}
    (place : (∃ c ∈ first.getLast?, isPunctuation c = true) ∨
      ∃ c ∈ second.head?, isPunctuation c = true) :
    tighten [] false (trimRight (first ++ ' ' :: second)) =
      tighten [] false (trimRight (first ++ second)) := by
  by_cases shown : IsVisible second
  · have head (c : Char) (head : c ∈ second.head?) : c ∈ (trimRight second).head? := by
      obtain ⟨behind, whole, -⟩ := exists_append_trimRight second
      cases kept : trimRight second with
      | nil => exact absurd kept (isVisible_trimRight.mpr shown).ne_nil
      | cons d rest =>
          rw [whole, kept] at head
          exact head
    rw [← List.singleton_append, ← List.append_assoc, trimRight_append_of_visible shown,
      trimRight_append_of_visible shown, List.append_assoc, List.singleton_append]
    exact tighten_space (place.imp_right fun ⟨c, first, mark⟩ => ⟨c, head c first, mark⟩) [] false
  · rw [← List.singleton_append, ← List.append_assoc, trimRight_append_of_blank shown,
      trimRight_append_of_blank shown, trimRight_append_of_blank (by decide)]

/-! ### Lines -/

/-- What a line is brought to behind a beginning that shows something. -/
theorem exists_codeLine_append {first : List Char} (shown : IsVisible first) :
    ∃ (count : Nat) (kept : List Char) (inRun : Bool),
      (∀ c ∈ first.getLast?, isPunctuation c = true → c ∈ kept.getLast?) ∧
      ∀ second, codeLine (expandTabs 4 (first ++ second)) =
        List.replicate count ' ' ++
          tighten [] false (trimRight (kept ++ squeezed inRun second)) := by
  obtain ⟨onward, whole⟩ := exists_expandTabsFrom_append 4 0 first
  have expanded : IsVisible (expandTabs 4 first) := isVisible_expandTabs 4 shown
  have spaceBlank : ∀ c, (c == ' ') = true → isBlank c = true := isBlank_of_eq (by decide)
  have filled : (expandTabs 4 first).dropWhile (· == ' ') ≠ [] :=
    ((isVisible_dropWhile spaceBlank _).mpr expanded).ne_nil
  refine ⟨indentOf (expandTabs 4 first), singleSpaces ((expandTabs 4 first).dropWhile (· == ' ')),
    runBehind (· == ' ') false ((expandTabs 4 first).dropWhile (· == ' ')), ?_, fun second => ?_⟩
  · intro c last mark
    have noBlank := not_isBlank_of_isPunctuation mark
    obtain ⟨early, rfl⟩ := List.getLast?_eq_some_iff.mp last
    obtain ⟨column, split⟩ := exists_expandTabsFrom_append 4 0 early
    have single : expandTabsFrom 4 column [c] = [c] := expandTabsFrom_of_not_mem 4 column (by
      rw [List.mem_singleton]
      rintro rfl
      cases noBlank)
    have ends : c ∈ ((expandTabs 4 (early ++ [c])).dropWhile (· == ' ')).getLast? := by
      have both := List.takeWhile_append_dropWhile (p := (· == ' ')) (l := expandTabs 4 (early ++ [c]))
      rw [← List.getLast?_append_of_ne_nil _ filled, both, expandTabs, split, single,
        List.getLast?_concat]
      exact rfl
    rw [singleSpaces, getLast?_collapse]
    · exact ends
    · intro d last
      cases Option.mem_unique ends last
      simpa using ne_space_of_not_isBlank noBlank
  · have indent : indentOf (expandTabs 4 (first ++ second)) = indentOf (expandTabs 4 first) := by
      have lengths := congrArg List.length
        (List.takeWhile_append_dropWhile (p := (· == ' ')) (l := expandTabs 4 first))
      rw [List.length_append] at lengths
      have some := List.length_pos_iff.mpr filled
      rw [indentOf, expandTabs, whole, List.takeWhile_append, if_neg (by rw [← expandTabs]; omega)]
      rfl
    have body : (expandTabs 4 (first ++ second)).dropWhile (· == ' ') =
        (expandTabs 4 first).dropWhile (· == ' ') ++ expandTabsFrom 4 onward second := by
      rw [expandTabs, whole, List.dropWhile_append, if_neg (by rw [List.isEmpty_iff]; exact filled)]
      rfl
    rw [codeLine_eq, indent, body, reduce, singleSpaces_trimRight, singleSpaces, collapse_append,
      collapse_expandTabsFrom _ onward 0]
    rfl

/-- A space more makes no difference next to punctuation. -/
theorem tighten_squeezed_space {kept stretch : List Char}
    (place : (∃ c ∈ kept.getLast?, isPunctuation c = true) ∨
      ∃ c ∈ stretch.head?, isPunctuation c = true) (inRun : Bool) :
    tighten [] false (trimRight (kept ++ squeezed inRun (' ' :: stretch))) =
      tighten [] false (trimRight (kept ++ squeezed inRun stretch)) := by
  rw [squeezed_space]
  cases inRun with
  | true => rfl
  | false =>
      rcases squeezed_false stretch with same | same
      · rw [same]
        refine tighten_trimRight_space (place.imp_right fun ⟨c, head, mark⟩ => ⟨c, ?_, mark⟩)
        obtain ⟨rest, rfl⟩ := List.head?_eq_some_iff.mp head
        obtain ⟨others, whole⟩ := squeezed_punctuation mark true rest
        rw [whole]
        rfl
      · rw [same]
        rfl

theorem oneQuote_of_isPunctuation {c : Char} (mark : isPunctuation c = true) : oneQuote c = c := by
  rw [oneQuote, if_neg]
  rintro rfl
  cases mark

theorem isBlank_oneQuote (c : Char) : isBlank (oneQuote c) = isBlank c := by
  rw [oneQuote]
  split
  · next same =>
      rw [same]
      rfl
  · rfl

theorem isVisible_map_oneQuote {text : List Char} :
    IsVisible (text.map oneQuote) ↔ IsVisible text := by
  simp [Text.IsVisible, isBlank_oneQuote]

/-- Quotation marks may be made the same before tabs are expanded. -/
theorem codeRow_eq (line : List Char) :
    codeRow line = codeLine (expandTabs 4 (line.map oneQuote)) := by
  rw [codeRow, expandTabs, map_expandTabsFrom rfl fun c => ?_]
  · rfl
  · refine ⟨?_, oneQuote_eq_feed c, ?_⟩
    all_goals
      rw [oneQuote]
      split
      · next same =>
          rw [same]
          decide
      · rfl

theorem isVisible_codeRow {line : List Char} : IsVisible (codeRow line) ↔ IsVisible line := by
  refine ⟨fun ⟨c, inside, shown⟩ => ?_, fun shown => ?_⟩
  · have held : c = ' ' ∨ c ∈ (expandTabs 4 line).map oneQuote := by
      rw [codeRow, codeLine_eq] at inside
      rcases List.mem_append.mp inside with indent | body
      · exact .inl (List.eq_of_mem_replicate indent)
      · exact (mem_reduce body).imp_right fun kept => (List.dropWhile_suffix _).subset kept
    rcases held with rfl | held
    · cases shown
    · obtain ⟨d, expanded, rfl⟩ := List.mem_map.mp held
      rw [isBlank_oneQuote] at shown
      rcases (mem_expandTabsFrom expanded).2 with rfl | among
      · cases shown
      · exact ⟨d, among, shown⟩
  · exact isVisible_codeLine (isVisible_map_oneQuote.mpr (isVisible_expandTabs 4 shown))

/-- A line that shows something is brought to the same, whatever is changed in it; one that does not
goes on showing nothing. -/
theorem codeRow_of_lineEdit {line line' : List Char} (edit : LineEdit line line') :
    codeRow line' = codeRow line ∨ ¬ IsVisible line ∧ ¬ IsVisible line' := by
  cases edit with
  | @space before behind place =>
      left
      have shown : IsVisible (before.map oneQuote) := by
        rw [isVisible_map_oneQuote]
        rcases place with ⟨c, last, mark⟩ | ⟨shown, -⟩
        · exact ⟨c, List.mem_of_getLast? last, not_isBlank_of_isPunctuation mark⟩
        · exact shown
      obtain ⟨count, kept, inRun, ends, onward⟩ := exists_codeLine_append shown
      rw [codeRow_eq, codeRow_eq, List.map_append, List.map_append, onward, onward]
      refine congrArg _ (tighten_squeezed_space (place.imp ?_ ?_) inRun)
      · rintro ⟨c, last, mark⟩
        refine ⟨c, ends c ?_ mark, mark⟩
        rw [List.getLast?_map, Option.mem_def.mp last, Option.map_some,
          oneQuote_of_isPunctuation mark]
        rfl
      · rintro ⟨-, c, head, mark⟩
        refine ⟨c, ?_, mark⟩
        rw [List.head?_map, Option.mem_def.mp head, Option.map_some, oneQuote_of_isPunctuation mark]
        rfl
  | @double before behind shown =>
      left
      obtain ⟨count, kept, inRun, -, onward⟩ :=
        exists_codeLine_append (isVisible_map_oneQuote.mpr shown)
      rw [codeRow_eq, codeRow_eq, List.map_append, List.map_append, onward, onward]
      have twice : squeezed inRun ((' ' :: ' ' :: behind).map oneQuote) =
          squeezed inRun ((' ' :: behind).map oneQuote) := by
        rw [List.map_cons, List.map_cons, show oneQuote ' ' = ' ' from rfl, squeezed_space,
          squeezed_space, squeezed_space]
        rfl
      rw [twice]
  | trailing line =>
      by_cases shown : IsVisible line
      · left
        obtain ⟨count, kept, inRun, -, onward⟩ :=
          exists_codeLine_append (isVisible_map_oneQuote.mpr shown)
        have blank : ¬ IsVisible (squeezed inRun ([' '].map oneQuote)) := by
          rw [List.map_singleton, show oneQuote ' ' = ' ' from rfl, squeezed_space, squeezed_nil]
          cases inRun <;> decide
        have whole := onward []
        rw [List.append_nil, squeezed_nil, List.append_nil] at whole
        rw [codeRow_eq, codeRow_eq, List.map_append, onward, whole, trimRight_append_of_blank blank]
      · refine .inr ⟨shown, ?_⟩
        rw [isVisible_append, not_or]
        exact ⟨shown, by decide⟩
  | doubleQuote before behind =>
      left
      rw [codeRow_eq, codeRow_eq, List.map_append, List.map_append]
      rfl
  | singleQuote before behind =>
      left
      rw [codeRow_eq, codeRow_eq, List.map_append, List.map_append]
      rfl

/-! ### Indentation -/

section Indentation

variable {line : List Char} (count : Nat)

theorem indentOf_spaces_append (line : List Char) :
    indentOf (List.replicate count ' ' ++ line) = count + indentOf line := by
  rw [indentOf, List.takeWhile_append_of_pos (by simp), List.length_append, List.length_replicate,
    indentOf]

theorem codeLine_spaces_append (line : List Char) :
    codeLine (List.replicate count ' ' ++ line) = List.replicate count ' ' ++ codeLine line := by
  rw [codeLine_eq, codeLine_eq, indentOf_spaces_append, List.dropWhile_append_of_pos (by simp),
    List.replicate_add, List.append_assoc]

theorem codeRow_of_noTab (noTab : '\t' ∉ line) : codeRow line = codeLine (line.map oneQuote) := by
  rw [codeRow, expandTabs, expandTabsFrom_of_not_mem 4 0 noTab]

theorem codeRow_spaces_append (noTab : '\t' ∉ line) :
    codeRow (List.replicate count ' ' ++ line) = List.replicate count ' ' ++ codeRow line := by
  have noTab' : '\t' ∉ List.replicate count ' ' ++ line := by
    simp [List.mem_replicate, noTab]
  rw [codeRow_of_noTab noTab, codeRow_of_noTab noTab', List.map_append, List.map_replicate,
    ← codeLine_spaces_append]
  rfl

end Indentation

/-! ### Texts -/

section Rows

variable {rows more : List (List Char)} {row : List Char}

theorem shown_append : shown (rows ++ more) = shown rows ++ shown more :=
  List.filter_append ..

theorem shown_cons_of_visible (visible : IsVisible row) : shown (row :: rows) = row :: shown rows := by
  have filled := mt trim_eq_nil_iff.mp (not_not_intro visible)
  exact List.filter_cons_of_pos (by simpa using filled)

theorem shown_cons_of_blank (blank : ¬ IsVisible row) : shown (row :: rows) = shown rows := by
  have empty := trim_eq_nil_iff.mpr blank
  exact List.filter_cons_of_neg (by simp [empty])

/-- Indentation that all lines get is not seen. -/
theorem layOut_indented (rows : List (List Char)) (count : Nat) :
    layOut (rows.map fun row => if IsVisible row then List.replicate count ' ' ++ row else row) =
      layOut rows := by
  have kept : shown (rows.map fun row =>
      if IsVisible row then List.replicate count ' ' ++ row else row) =
      (shown rows).map (List.replicate count ' ' ++ ·) := by
    induction rows with
    | nil => rfl
    | cons row rows ih =>
        rw [List.map_cons]
        split
        · next visible =>
            rw [shown_cons_of_visible (isVisible_append.mpr (.inr visible)),
              shown_cons_of_visible visible, ih, List.map_cons]
        · next blank => rw [shown_cons_of_blank blank, shown_cons_of_blank blank, ih]
  have least (rows : List (List Char)) (filled : rows ≠ []) :
      margin (rows.map (List.replicate count ' ' ++ ·)) = count + margin rows := by
    induction rows with
    | nil => exact absurd rfl filled
    | cons row rest ih =>
        cases rest with
        | nil => exact indentOf_spaces_append count row
        | cons second more =>
            have step := ih (List.cons_ne_nil _ _)
            rw [List.map_cons] at step
            rw [List.map_cons, List.map_cons, margin_cons_cons, margin_cons_cons, step,
              indentOf_spaces_append]
            omega
  rw [layOut, layOut, kept]
  by_cases filled : shown rows = []
  · rw [filled]
    rfl
  · rw [least _ filled, List.map_map]
    refine congrArg unlines (List.map_congr_left fun row _ => ?_)
    simp [← List.drop_drop]

end Rows

theorem isAsciiText_iff_linesOf {text : List Char} :
    IsAsciiText text ↔ ∀ line ∈ linesOf text, IsAsciiText line := by
  constructor
  · intro ascii line among c inside
    rcases (mem_unifyLineEnds (mem_of_mem_lines among inside)).2 with rfl | held
    · rfl
    · exact ascii c held
  · intro each c inside
    rcases mem_unifyLineEnds_of_mem inside with rfl | held
    · rfl
    · rw [← unlines_lines (unifyLineEnds text)] at held
      rcases mem_unlines held with rfl | ⟨line, among, within⟩
      · rfl
      · exact each line among c within

theorem LineEdit.isAsciiText {line line' : List Char} (edit : LineEdit line line')
    (ascii : IsAsciiText line) : IsAsciiText line' := by
  have space : isAscii ' ' = true := rfl
  have single : isAscii '\'' = true := rfl
  have double : isAscii '"' = true := rfl
  cases edit <;> simp_all [IsAsciiText, or_imp, forall_and]

theorem noTab_of_mem_linesOf {text line : List Char} (noTab : '\t' ∉ text)
    (among : line ∈ linesOf text) : '\t' ∉ line :=
  fun tab => noTab ((mem_unifyLineEnds (mem_of_mem_lines among tab)).2.resolve_left (by decide))

/-- The lines of code that a text shows, after an edit. -/
theorem layOut_of_edit {text edited : List Char} (edit : Edit text edited) :
    layOut ((linesOf edited).map codeRow) = layOut ((linesOf text).map codeRow) := by
  have same {rows rows' : List (List Char)} (kept : shown rows' = shown rows) :
      layOut rows' = layOut rows := by
    rw [layOut, layOut, kept]
  cases edit with
  | line here within there =>
      refine same ?_
      rw [here, there, List.map_append, List.map_append, List.map_cons, List.map_cons, shown_append,
        shown_append]
      rcases codeRow_of_lineEdit within with equal | ⟨blank, blank'⟩
      · rw [equal]
      · rw [shown_cons_of_blank (mt isVisible_codeRow.mp blank),
          shown_cons_of_blank (mt isVisible_codeRow.mp blank')]
  | blank here _ empty there =>
      refine same ?_
      rw [here, there, List.map_append, List.map_append, List.map_cons, shown_append, shown_append,
        shown_cons_of_blank (mt isVisible_codeRow.mp empty)]
  | lineEnd above below =>
      rw [linesOf, linesOf]
      rcases unifyLineEnds_returnFeed above below with equal | ⟨before, behind, here, there⟩
      · rw [equal]
      · refine same ?_
        rw [here, there, lines_append_feed, lines_append_feed, lines_cons_feed, List.map_append,
          List.map_append, List.map_cons, shown_append, shown_append, shown_cons_of_blank (by decide)]
  | indent count noTab there =>
      rw [there, List.map_map, ← layOut_indented ((linesOf text).map codeRow) count, List.map_map]
      refine congrArg layOut (List.map_congr_left fun line among => ?_)
      have free := noTab_of_mem_linesOf noTab among
      rw [Function.comp_apply, Function.comp_apply]
      split
      · next visible =>
          rw [if_pos (isVisible_codeRow.mpr visible), codeRow_spaces_append count free]
      · next blank => rw [if_neg (mt isVisible_codeRow.mp blank)]

theorem Edit.isAsciiText {text edited : List Char} (edit : Edit text edited)
    (ascii : IsAsciiText text) : IsAsciiText edited := by
  cases edit with
  | line here within there =>
      rw [isAsciiText_iff_linesOf, here] at ascii
      rw [isAsciiText_iff_linesOf, there]
      simp only [List.mem_append, List.mem_cons, or_imp, forall_and, forall_eq] at ascii ⊢
      exact ⟨ascii.1, within.isAsciiText ascii.2.1, ascii.2.2⟩
  | blank here blankAscii _ there =>
      rw [isAsciiText_iff_linesOf, here] at ascii
      rw [isAsciiText_iff_linesOf, there]
      simp only [List.mem_append, List.mem_cons, or_imp, forall_and, forall_eq] at ascii ⊢
      exact ⟨ascii.1, blankAscii, ascii.2⟩
  | lineEnd above below =>
      have isReturn : isAscii '\r' = true := rfl
      simp only [IsAsciiText, List.mem_append, List.mem_cons, or_imp, forall_and, forall_eq]
        at ascii ⊢
      exact ⟨ascii.1, isReturn, ascii.2⟩
  | indent count _ there =>
      rw [isAsciiText_iff_linesOf] at ascii ⊢
      rw [there]
      intro row among
      obtain ⟨line, inside, rfl⟩ := List.mem_map.mp among
      split
      · intro c member
        rcases List.mem_append.mp member with indent | held
        · rw [List.eq_of_mem_replicate indent]
          rfl
        · exact ascii line inside c held
      · exact ascii line inside

/-- Any number of edits leaves the normal form of code as it is. -/
theorem codeChars_of_edits {text edited : List Char} (edits : Relation.ReflTransGen Edit text edited)
    (ascii : IsAsciiText text) : IsAsciiText edited ∧ codeChars edited = codeChars text := by
  induction edits with
  | refl => exact ⟨ascii, rfl⟩
  | tail _ edit ih =>
      have later := edit.isAsciiText ih.1
      rw [codeChars_of_ascii later, layOut_of_edit edit, ← codeChars_of_ascii ih.1]
      exact ⟨later, ih.2⟩

/-! ### Relative indentation -/

/-- A line without its indentation. -/
def bodyOf (line : List Char) : List Char :=
  line.dropWhile (· == ' ')

/-- Texts whose lines differ in nothing but their indentation. -/
def Reindented (text moved : List Char) : Prop :=
  (linesOf moved).map bodyOf = (linesOf text).map bodyOf

section Reindenting

variable {text moved line line' : List Char}

theorem mem_of_bodyOf_eq (same : bodyOf line' = bodyOf line) {c : Char} (inside : c ∈ line') :
    c = ' ' ∨ c ∈ line := by
  rw [← indented_eq_self line'] at inside
  rcases List.mem_append.mp inside with indent | held
  · exact .inl (List.eq_of_mem_replicate indent)
  · rw [← bodyOf, same] at held
    exact .inr ((List.dropWhile_suffix _).subset held)

theorem isVisible_of_bodyOf_eq (same : bodyOf line' = bodyOf line) :
    IsVisible line' ↔ IsVisible line := by
  have spaceBlank : ∀ c, (c == ' ') = true → isBlank c = true := isBlank_of_eq (by decide)
  rw [← isVisible_dropWhile spaceBlank line', ← isVisible_dropWhile spaceBlank line, ← bodyOf, same,
    bodyOf]

theorem Reindented.exists_line (reindented : Reindented text moved) (among : line' ∈ linesOf moved) :
    ∃ line ∈ linesOf text, bodyOf line' = bodyOf line := by
  have body := List.mem_map_of_mem (f := bodyOf) among
  rw [reindented] at body
  obtain ⟨line, inside, same⟩ := List.mem_map.mp body
  exact ⟨line, inside, same.symm⟩

theorem Reindented.isAsciiText (reindented : Reindented text moved) (ascii : IsAsciiText text) :
    IsAsciiText moved := by
  rw [isAsciiText_iff_linesOf] at ascii ⊢
  intro line' among c inside
  obtain ⟨line, held, same⟩ := reindented.exists_line among
  rcases mem_of_bodyOf_eq same inside with rfl | kept
  · rfl
  · exact ascii line held c kept

theorem Reindented.noTab (reindented : Reindented text moved) (noTab : '\t' ∉ text)
    (among : line' ∈ linesOf moved) : '\t' ∉ line' := by
  intro inside
  obtain ⟨line, held, same⟩ := reindented.exists_line among
  exact noTab_of_mem_linesOf noTab held ((mem_of_bodyOf_eq same inside).resolve_left (by decide))

theorem bodyOf_eq_of_mem_zip (reindented : Reindented text moved) {pair : List Char × List Char}
    (among : pair ∈ (linesOf text).zip (linesOf moved)) : bodyOf pair.2 = bodyOf pair.1 := by
  obtain ⟨place, within, rfl⟩ := List.mem_iff_getElem.mp among
  rw [List.getElem_zip]
  have both := congrArg (·[place]?) reindented
  rw [List.length_zip, Nat.lt_min] at within
  simpa [List.getElem?_eq_getElem, within] using both

theorem shown_map_codeRow (rows : List (List Char)) :
    shown (rows.map codeRow) = (rows.filter fun line => IsVisible line).map codeRow := by
  induction rows with
  | nil => rfl
  | cons line rows ih =>
      by_cases visible : IsVisible line
      · rw [List.map_cons, shown_cons_of_visible (isVisible_codeRow.mpr visible), ih,
          List.filter_cons_of_pos (by simpa using visible), List.map_cons]
      · rw [List.map_cons, shown_cons_of_blank (mt isVisible_codeRow.mp visible), ih,
          List.filter_cons_of_neg (by simpa using visible)]

theorem indentOf_codeRow (noTab : '\t' ∉ line) : indentOf (codeRow line) = indentOf line := by
  have spaces (line : List Char) : indentOf (line.map oneQuote) = indentOf line := by
    have same : ((· == ' ') ∘ oneQuote) = (· == ' ') := by
      funext c
      rw [Function.comp_apply, oneQuote]
      split
      · next quote => rw [quote]; rfl
      · rfl
    rw [indentOf, List.takeWhile_map, List.length_map, same, indentOf]
  rw [codeRow_of_noTab noTab, codeLine_eq, indentOf_indented (isReduced_body _).starts, spaces]

/-- Texts of the same normal form have every line moved by the same number of spaces. -/
theorem indentOf_add_margin_eq (noTab : '\t' ∉ text) (ascii : IsAsciiText text)
    (reindented : Reindented text moved) (same : codeChars moved = codeChars text)
    {pair : List Char × List Char} (among : pair ∈ (linesOf text).zip (linesOf moved))
    (visible : IsVisible pair.1) :
    indentOf pair.1 + margin (shownRows moved) = indentOf pair.2 + margin (shownRows text) := by
  have sameLength := congrArg List.length reindented
  rw [List.length_map, List.length_map] at sameLength
  have alike : ((linesOf text).zip (linesOf moved)).filter (fun pair => IsVisible pair.2) =
      ((linesOf text).zip (linesOf moved)).filter fun pair => IsVisible pair.1 := by
    refine List.filter_congr fun pair among => decide_eq_decide.mpr ?_
    exact isVisible_of_bodyOf_eq (bodyOf_eq_of_mem_zip reindented among)
  have here : shownRows text =
      (((linesOf text).zip (linesOf moved)).filter fun pair => IsVisible pair.1).map
        (codeRow ·.1) := by
    rw [shownRows, shown_map_codeRow]
    conv_lhs => rw [← List.map_fst_zip sameLength.ge, List.filter_map, List.map_map]
    rfl
  have there : shownRows moved =
      (((linesOf text).zip (linesOf moved)).filter fun pair => IsVisible pair.1).map
        (codeRow ·.2) := by
    rw [shownRows, shown_map_codeRow, ← alike]
    conv_lhs => rw [← List.map_snd_zip sameLength.le, List.filter_map, List.map_map]
    rfl
  have member : pair ∈ ((linesOf text).zip (linesOf moved)).filter fun pair => IsVisible pair.1 :=
    List.mem_filter.mpr ⟨among, decide_eq_true visible⟩
  have first : codeRow pair.1 ∈ shownRows text := by
    rw [here]
    exact List.mem_map_of_mem member
  have second : codeRow pair.2 ∈ shownRows moved := by
    rw [there]
    exact List.mem_map_of_mem member
  have rows := congrArg lines same
  rw [lines_codeChars (fold_of_ascii ascii) (List.ne_nil_of_mem first),
    lines_codeChars (fold_of_ascii (reindented.isAsciiText ascii)) (List.ne_nil_of_mem second)] at rows
  have below := margin_le first
  have below' := margin_le second
  have free := noTab_of_mem_linesOf noTab (List.of_mem_zip among).1
  have free' := reindented.noTab noTab (List.of_mem_zip among).2
  generalize margin (shownRows text) = least, margin (shownRows moved) = least' at *
  rw [here, there, List.map_map, List.map_map] at rows
  have indents := congrArg indentOf (List.map_inj_left.mp rows pair member)
  rw [Function.comp_apply, Function.comp_apply, indentOf_drop below, indentOf_drop below',
    indentOf_codeRow free, indentOf_codeRow free'] at indents
  rw [indentOf_codeRow free] at below
  rw [indentOf_codeRow free'] at below'
  omega

end Reindenting

/-- The normal form of ASCII code is the same after any number of edits that do not matter.  Without
tabs, it is another one when the indentation of a line changes relative to that of another line that
shows something. -/
theorem code_of_edits :
    (∀ text edited : String, IsAsciiText text.toList →
      Relation.ReflTransGen Edit text.toList edited.toList → code edited = code text) ∧
    ∀ text moved : String, IsAsciiText text.toList → '\t' ∉ text.toList →
      Reindented text.toList moved.toList →
      ∀ first ∈ (linesOf text.toList).zip (linesOf moved.toList),
      ∀ second ∈ (linesOf text.toList).zip (linesOf moved.toList),
        IsVisible first.1 → IsVisible second.1 →
        indentOf first.1 + indentOf second.2 ≠ indentOf first.2 + indentOf second.1 →
        code moved ≠ code text := by
  refine ⟨fun text edited ascii edits => ?_, ?_⟩
  · rw [code, code, (codeChars_of_edits edits ascii).2]
  · intro text moved ascii noTab reindented first among second among' visible visible' other same
    rw [code, code, String.ofList_inj] at same
    have one := indentOf_add_margin_eq noTab ascii reindented same among visible
    have two := indentOf_add_margin_eq noTab ascii reindented same among' visible'
    omega

/-- A call with a space more and another line end, and a line that is moved into a branch. -/
theorem code_of_edits_call :
    IsAsciiText "f(a)\ng()".toList ∧
      Relation.ReflTransGen Edit "f(a)\ng()".toList "f( a)\r\ng()".toList ∧
      code "f( a)\r\ng()" = code "f(a)\ng()" ∧
      Reindented "if a:\n  f()\ng()".toList "if a:\n  f()\n  g()".toList ∧
      code "if a:\n  f()\n  g()" ≠ code "if a:\n  f()\ng()" := by
  have ascii : IsAsciiText "f(a)\ng()".toList := by decide +kernel
  have space : LineEdit "f(a)".toList "f( a)".toList :=
    @LineEdit.space "f(".toList "a)".toList (.inl ⟨'(', rfl, by decide⟩)
  have line : Edit "f(a)\ng()".toList "f( a)\ng()".toList :=
    @Edit.line _ _ _ _ [] ["g()".toList] (by decide +kernel) space (by decide +kernel)
  have lineEnd : Edit "f( a)\ng()".toList "f( a)\r\ng()".toList :=
    Edit.lineEnd "f( a)".toList "g()".toList
  have edits := (Relation.ReflTransGen.single line).tail lineEnd
  have moved : Reindented "if a:\n  f()\ng()".toList "if a:\n  f()\n  g()".toList := by
    unfold Reindented
    decide +kernel
  refine ⟨ascii, edits, code_of_edits.1 _ _ ascii edits, moved, ?_⟩
  exact code_of_edits.2 _ _ (by decide +kernel) (by decide +kernel) moved
    ("if a:".toList, "if a:".toList) (by decide +kernel) ("g()".toList, "  g()".toList)
    (by decide +kernel) (by decide +kernel) (by decide +kernel) (by decide +kernel)

end Answer
end AnswerKey
