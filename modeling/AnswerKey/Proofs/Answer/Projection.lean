import Mathlib.Data.List.TakeWhile
import AnswerKey.Answer.Match
import AnswerKey.Proofs.Answer.CodeLine
import AnswerKey.Proofs.Text.Compatibility

namespace AnswerKey
namespace Answer

/-!
Normal forms of visible texts.  Whatever an answer is compared as, its normal form drops, replaces
and moves nothing but blanks and quotation marks, so an answer that shows something has a normal form
that shows something.  In particular an answer that is not blank is never rejected for an empty normal
form.
-/

open Text

theorem isVisible_fold {text : List Char} (visible : IsVisible text) : IsVisible (fold text) := by
  refine (Compatibility.isVisible_normalize visible).map fun c shown => ?_
  rw [plainQuote]
  split
  · decide
  · split
    · decide
    · exact shown

/-! ### Prose and printed output -/

theorem isVisible_collapse {p : Char → Bool} (blankOnly : ∀ c, p c = true → isBlank c = true)
    {replacement : Char} (inRun : Bool) {text : List Char} (visible : IsVisible text) :
    IsVisible (collapse p replacement inRun text) := by
  induction text generalizing inRun with
  | nil => exact absurd visible not_isVisible_nil
  | cons c rest ih =>
      rw [collapse]
      split
      · next dropped =>
          have later : IsVisible rest := by simpa [blankOnly c dropped] using visible
          split
          · exact ih true later
          · exact isVisible_cons.mpr (.inr (ih true later))
      · rcases isVisible_cons.mp visible with here | later
        · exact isVisible_cons.mpr (.inl here)
        · exact isVisible_cons.mpr (.inr (ih false later))

theorem isVisible_proseChars {text : List Char} (visible : IsVisible text) :
    IsVisible (proseChars text) :=
  isVisible_collapse (fun _ => id) false (isVisible_trim.mpr (isVisible_fold visible))

theorem isBlank_of_eq {blank : Char} (isBlank_eq : isBlank blank = true) (c : Char)
    (same : (c == blank) = true) : isBlank c = true :=
  beq_iff_eq.mp same ▸ isBlank_eq

theorem isVisible_outputChars {text : List Char} (visible : IsVisible text) :
    IsVisible (outputChars text) := by
  rw [outputChars, isVisible_trim, isVisible_trimWhile (isBlank_of_eq (by decide))]
  rcases exists_isVisible_mem_lines (isVisible_unifyLineEnds.mpr (isVisible_fold visible)) with
    ⟨line, member, shown⟩
  exact isVisible_unlines (List.mem_map_of_mem member) (isVisible_trimRight.mpr shown)

/-! ### Code -/

theorem isVisible_tighten (pending : List Char) (afterPunctuation : Bool) {text : List Char}
    (visible : IsVisible text) : IsVisible (tighten pending afterPunctuation text) := by
  induction text generalizing pending afterPunctuation with
  | nil => exact absurd visible not_isVisible_nil
  | cons c rest ih =>
      rw [tighten]
      split
      · next blank =>
          have later : IsVisible rest := by simpa [blank] using visible
          exact ih _ _ later
      · next shown =>
          have here : isBlank c = false := by simpa using shown
          split
          · exact isVisible_cons.mpr (.inl here)
          · exact isVisible_append.mpr (.inr (isVisible_cons.mpr (.inl here)))

theorem isVisible_codeLine {line : List Char} (visible : IsVisible line) :
    IsVisible (codeLine line) := by
  have spaceBlank : ∀ c, (c == ' ') = true → isBlank c = true := isBlank_of_eq (by decide)
  have body : IsVisible (line.dropWhile (· == ' ')) :=
    (isVisible_dropWhile spaceBlank line).mpr visible
  have reduced : IsVisible (singleSpaces (trimRight (line.dropWhile (· == ' ')))) :=
    isVisible_collapse spaceBlank false (isVisible_trimRight.mpr body)
  exact isVisible_append.mpr (.inr (isVisible_tighten [] false reduced))

theorem margin_le {lines : List (List Char)} {line : List Char} (member : line ∈ lines) :
    margin lines ≤ indentOf line := by
  induction lines with
  | nil => cases member
  | cons first rest ih =>
      cases rest with
      | nil =>
          rw [List.mem_singleton.mp member]
          exact Nat.le_refl _
      | cons second more =>
          rw [margin]
          · rcases List.mem_cons.mp member with same | later
            · rw [same]
              exact Nat.min_le_left _ _
            · exact Nat.le_trans (Nat.min_le_right _ _) (ih later)
          · simp

/-- Only spaces are lost when no more than the indentation is dropped. -/
theorem isVisible_drop {count : Nat} {line : List Char} (indented : count ≤ indentOf line)
    (visible : IsVisible line) : IsVisible (line.drop count) := by
  induction line generalizing count with
  | nil => exact absurd visible not_isVisible_nil
  | cons c rest ih =>
      cases count with
      | zero => exact visible
      | succ count =>
          rw [indentOf, List.takeWhile_cons] at indented
          split at indented
          · next space =>
              have blank : isBlank c = true := isBlank_of_eq (by decide) c space
              have later : IsVisible rest := by simpa [blank] using visible
              exact ih (Nat.le_of_succ_le_succ indented) later
          · cases indented

theorem isVisible_codeChars {text : List Char} (visible : IsVisible text) :
    IsVisible (codeChars text) := by
  have unified : IsVisible (unifyLineEnds (fold text)) :=
    isVisible_unifyLineEnds.mpr (isVisible_fold visible)
  have expanded := (isVisible_expandTabs 4 unified).map
    (f := fun c => if c = '\'' then '"' else c) fun c shown => by
      split
      · decide
      · exact shown
  rcases exists_isVisible_mem_lines expanded with ⟨line, member, shown⟩
  have lineShown := isVisible_codeLine shown
  have notEmpty : (!(trim (codeLine line)).isEmpty) = true := by
    simpa using mt trim_eq_nil_iff.mp (not_not_intro lineShown)
  have kept := (List.mem_filter (p := fun line => !(trim line).isEmpty)).mpr
    ⟨List.mem_map_of_mem (f := codeLine) member, notEmpty⟩
  exact isVisible_unlines (List.mem_map_of_mem kept) (isVisible_drop (margin_le kept) lineShown)

/-! ### All forms -/

/-- Every form of an answer that shows something shows something. -/
theorem Form.isVisible_normalize (form : Form) {text : String} (visible : IsVisible text.toList) :
    IsVisible (form.normalize text).toList := by
  cases form with
  | code => simpa [Form.normalize, Answer.code] using isVisible_codeChars visible
  | fillIn => simpa [Form.normalize, Answer.fillIn, prose] using isVisible_proseChars visible
  | output => simpa [Form.normalize, Answer.output] using isVisible_outputChars visible

/-- An answer that is not blank matches itself, without an alternative, in every form. -/
theorem matchWith_self (form : Form) {answer : String} (visible : IsVisible answer.toList)
    (alternatives : List String) :
    (matchWith form answer answer alternatives).isCorrect = true ∧
      (matchWith form answer answer alternatives).alternative = none := by
  have notEmpty : form.normalize answer ≠ "" := by
    intro gone
    exact (form.isVisible_normalize visible).ne_nil (by simp [gone])
  rw [matchWith, if_neg notEmpty, if_pos rfl]
  exact ⟨rfl, rfl⟩

/-!
Normal forms of ASCII texts are fixed.

What each normaliser makes of a text is described by what can be read off it: prose and output are
trimmed, and code consists of reduced lines one of which is not indented (`IsCodeForm`).  A text of
that kind is its own normal form, so normalising twice is normalising once.
-/

open Text

/-! ### Prose and printed output -/

theorem collapse_collapse {p : Char → Bool} {r : Char} (member : p r = true) (inRun : Bool)
    (text : List Char) :
    collapse p r inRun (collapse p r inRun text) = collapse p r inRun text := by
  induction text generalizing inRun with
  | nil => rfl
  | cons c rest ih =>
      rw [collapse]
      split
      · cases inRun with
        | true => exact ih true
        | false =>
            rw [if_neg Bool.false_ne_true, collapse, if_pos member, if_neg Bool.false_ne_true, ih]
      · next other => rw [collapse, if_neg other, ih]

theorem head?_collapse {p : Char → Bool} {r : Char} {inRun : Bool} {text : List Char}
    (outside : ∀ c ∈ text.head?, p c = false) :
    (collapse p r inRun text).head? = text.head? := by
  cases text with
  | nil => rfl
  | cons c rest =>
      rw [collapse, if_neg (by simp [outside c rfl])]
      rfl

theorem isTrimmed_proseChars (text : List Char) : IsTrimmed (proseChars text) := by
  have trimmed := isTrimmed_trim (fold text)
  refine ⟨?_, ?_⟩
  · rw [proseChars, head?_collapse trimmed.starts]
    exact trimmed.starts
  · rw [proseChars, getLast?_collapse trimmed.ends]
    exact trimmed.ends

theorem isAsciiText_proseChars {text : List Char} (ascii : IsAsciiText text) :
    IsAsciiText (proseChars text) := by
  intro c inside
  rw [proseChars, fold_of_ascii ascii] at inside
  rcases mem_collapse inside with rfl | kept
  · rfl
  · exact ascii c ((isInfix_trimWhile isBlank text).subset kept)

theorem proseChars_proseChars {text : List Char} (ascii : IsAsciiText text) :
    proseChars (proseChars text) = proseChars text := by
  rw [proseChars, fold_of_ascii (isAsciiText_proseChars ascii), (isTrimmed_proseChars text).trim_eq]
  exact collapse_collapse (by decide) false _

/-- The lines of a printed output, each trimmed on the right. -/
def outputLines (text : List Char) : List (List Char) :=
  (linesOf text).map trimRight

theorem noFeed_outputLines {text line : List Char} (member : line ∈ outputLines text) :
    '\n' ∉ line := by
  obtain ⟨whole, inside, rfl⟩ := List.mem_map.mp member
  exact fun feed => not_mem_of_mem_splitAt inside ((isPrefix_trimRightWhile isBlank whole).subset feed)

theorem outputChars_of_ascii {text : List Char} (ascii : IsAsciiText text) :
    outputChars text = trim (trimWhile (· == '\n') (unlines (outputLines text))) := by
  rw [outputChars, fold_of_ascii ascii]
  rfl

theorem isInfix_outputChars {text : List Char} (ascii : IsAsciiText text) :
    outputChars text <:+: unlines (outputLines text) := by
  rw [outputChars_of_ascii ascii]
  exact (isInfix_trimWhile isBlank _).trans (isInfix_trimWhile _ _)

theorem isTrimmed_outputChars (text : List Char) : IsTrimmed (outputChars text) :=
  isTrimmed_trim _

/-- The characters of an output are those of the text, with line feeds alone as line ends. -/
theorem mem_outputChars {text : List Char} (ascii : IsAsciiText text) {c : Char}
    (inside : c ∈ outputChars text) : c ≠ '\r' ∧ (c = '\n' ∨ c ∈ text) := by
  rcases mem_unlines ((isInfix_outputChars ascii).subset inside) with rfl | ⟨line, member, held⟩
  · exact ⟨by decide, .inl rfl⟩
  · obtain ⟨whole, among, rfl⟩ := List.mem_map.mp member
    exact mem_unifyLineEnds
      (mem_of_mem_lines among ((isPrefix_trimRightWhile isBlank whole).subset held))

theorem isAsciiText_outputChars {text : List Char} (ascii : IsAsciiText text) :
    IsAsciiText (outputChars text) := by
  intro c inside
  rcases (mem_outputChars ascii inside).2 with rfl | held
  · rfl
  · exact ascii c held

theorem endsLinesTrimmed_outputChars {text : List Char} (ascii : IsAsciiText text) :
    EndsLinesTrimmed (outputChars text) := by
  have whole : EndsLinesTrimmed (unlines (outputLines text)) := by
    refine endsLinesTrimmed_unlines (fun _ => noFeed_outputLines) fun line member => ?_
    obtain ⟨whole, _, rfl⟩ := List.mem_map.mp member
    exact isBlank_getLast?_trimRight
  exact List.IsChain.infix whole (isInfix_outputChars ascii)

theorem outputChars_outputChars {text : List Char} (ascii : IsAsciiText text) :
    outputChars (outputChars text) = outputChars text := by
  have trimmed := isTrimmed_outputChars text
  have noReturn : '\r' ∉ outputChars text := fun inside => (mem_outputChars ascii inside).1 rfl
  have same : outputLines (outputChars text) = lines (outputChars text) := by
    rw [outputLines, linesOf, unifyLineEnds_of_noReturn noReturn]
    exact (List.map_congr_left (trimRight_of_mem_lines (endsLinesTrimmed_outputChars ascii)
      trimmed.ends)).trans (List.map_id _)
  have noFeed (c : Char) (shown : isBlank c = false) : (c == '\n') = false := by
    rw [beq_eq_false_iff_ne]
    rintro rfl
    cases shown
  rw [outputChars_of_ascii (isAsciiText_outputChars ascii), same, unlines_lines,
    trimWhile_eq_self (fun c head => noFeed c (trimmed.starts c head))
      (fun c last => noFeed c (trimmed.ends c last)), trimmed.trim_eq]

/-! ### Code -/

/-- A line of code in normal form: some spaces and a reduced body that shows something. -/
structure IsCodeLine (line : List Char) : Prop where
  shown : IsVisible line
  reduced : IsReduced (line.dropWhile (· == ' '))

/-- Code in normal form: nothing, or lines in normal form one of which does not start with a
space. -/
structure IsCodeForm (text : List Char) : Prop where
  noTab : '\t' ∉ text
  noQuote : '\'' ∉ text
  noReturn : '\r' ∉ text
  rows : text = [] ∨
    (∀ line ∈ lines text, IsCodeLine line) ∧ ∃ line ∈ lines text, line.head? ≠ some ' '

/-- A line is its indentation and the rest. -/
theorem indented_eq_self (line : List Char) :
    List.replicate (indentOf line) ' ' ++ line.dropWhile (· == ' ') = line := by
  have spaces : line.takeWhile (· == ' ') = List.replicate (indentOf line) ' ' :=
    List.eq_replicate_iff.mpr ⟨rfl, fun c member => by simpa using List.mem_takeWhile_imp member⟩
  rw [← spaces, List.takeWhile_append_dropWhile]

theorem IsCodeLine.codeLine_eq {line : List Char} (normal : IsCodeLine line) :
    codeLine line = line := by
  have same := codeLine_indented normal.reduced (indentOf line)
  rw [indented_eq_self line] at same
  exact same

/-- A line of code is in normal form, also without a part of its indentation, if it shows
something. -/
theorem isCodeLine_drop {line : List Char} {count : Nat} (shown : IsVisible (codeLine line))
    (indented : count ≤ indentOf (codeLine line)) : IsCodeLine ((codeLine line).drop count) := by
  have reduced := isReduced_body line
  refine ⟨isVisible_drop indented shown, ?_⟩
  rw [codeLine_eq] at indented ⊢
  rw [indentOf_indented reduced.starts] at indented
  rw [List.drop_append_of_le_length (by simpa using indented), List.drop_replicate,
    dropWhile_indented reduced.starts]
  exact reduced

theorem indentOf_drop {line : List Char} {count : Nat} (indented : count ≤ indentOf line) :
    indentOf (line.drop count) = indentOf line - count := by
  have starts := head_dropWhile_ne_space line
  rw [← indented_eq_self line] at indented ⊢
  rw [indentOf_indented starts] at indented
  rw [List.drop_append_of_le_length (by simpa using indented), List.drop_replicate,
    indentOf_indented starts, indentOf_indented starts]

theorem margin_cons_cons (first second : List Char) (rest : List (List Char)) :
    margin (first :: second :: rest) = min (indentOf first) (margin (second :: rest)) := by
  rw [margin]
  simp

/-- Some line has no more than the common indentation. -/
theorem exists_indentOf_eq_margin {rows : List (List Char)} (filled : rows ≠ []) :
    ∃ row ∈ rows, indentOf row = margin rows := by
  induction rows with
  | nil => exact absurd rfl filled
  | cons row rest ih =>
      cases rest with
      | nil => exact ⟨row, List.mem_cons_self, rfl⟩
      | cons second more =>
          obtain ⟨other, member, least⟩ := ih (List.cons_ne_nil _ _)
          rw [margin_cons_cons]
          rcases Nat.le_total (indentOf row) (margin (second :: more)) with less | more
          · exact ⟨row, List.mem_cons_self, (Nat.min_eq_left less).symm⟩
          · exact ⟨other, List.mem_cons_of_mem _ member, least.trans (Nat.min_eq_right more).symm⟩

theorem indentOf_eq_zero_iff {line : List Char} : indentOf line = 0 ↔ line.head? ≠ some ' ' := by
  cases line with
  | nil => simp [indentOf]
  | cons c rest =>
      rw [indentOf, List.takeWhile_cons]
      split
      · next space => simp [beq_iff_eq.mp space]
      · next other => simpa using other

/-- The characters of a line of code, quotation marks and tabs aside, are those of the line. -/
theorem mem_codeRow {line : List Char} {c : Char} (inside : c ∈ codeRow line) :
    c ≠ '\t' ∧ c ≠ '\'' ∧ (c = ' ' ∨ c = '"' ∨ c ∈ line) := by
  have held : c = ' ' ∨ c ∈ (expandTabs 4 line).map oneQuote := by
    rw [codeRow, codeLine_eq] at inside
    rcases List.mem_append.mp inside with indent | body
    · exact .inl (List.eq_of_mem_replicate indent)
    · exact (mem_reduce body).imp_right fun kept => (List.dropWhile_suffix _).subset kept
  rcases held with rfl | held
  · exact ⟨by decide, by decide, .inl rfl⟩
  · obtain ⟨d, expanded, rfl⟩ := List.mem_map.mp held
    obtain ⟨noTab, spaceOr⟩ := mem_expandTabsFrom expanded
    rw [oneQuote]
    split
    · exact ⟨by decide, by decide, .inr (.inl rfl)⟩
    · next other => exact ⟨noTab, other, spaceOr.imp_right .inr⟩

/-- The lines of code that show something. -/
def shownRows (text : List Char) : List (List Char) :=
  shown ((linesOf text).map codeRow)

theorem exists_of_mem_shownRows {text row : List Char} (member : row ∈ shownRows text) :
    IsVisible row ∧ ∃ line ∈ linesOf text, codeRow line = row :=
  ⟨(mem_shown.mp member).2, List.mem_map.mp (mem_shown.mp member).1⟩

theorem mem_of_mem_shownRows {text row : List Char} (member : row ∈ shownRows text) {c : Char}
    (inside : c ∈ row) :
    c ≠ '\t' ∧ c ≠ '\'' ∧ c ≠ '\r' ∧ c ≠ '\n' ∧ (c = ' ' ∨ c = '"' ∨ c ∈ text) := by
  obtain ⟨-, line, among, rfl⟩ := exists_of_mem_shownRows member
  obtain ⟨noTab, noQuote, held⟩ := mem_codeRow inside
  refine ⟨noTab, noQuote, ?_⟩
  rcases held with rfl | rfl | held
  · exact ⟨by decide, by decide, .inl rfl⟩
  · exact ⟨by decide, by decide, .inr (.inl rfl)⟩
  · have feed : c ≠ '\n' := fun same => not_mem_of_mem_splitAt among (same ▸ held)
    obtain ⟨noReturn, kept⟩ := mem_unifyLineEnds (mem_of_mem_lines among held)
    exact ⟨noReturn, feed, .inr (.inr (kept.resolve_left feed))⟩

theorem mem_codeChars {text : List Char} (folded : fold text = text) {c : Char}
    (inside : c ∈ codeChars text) :
    c ≠ '\t' ∧ c ≠ '\'' ∧ c ≠ '\r' ∧ (c = '\n' ∨ c = ' ' ∨ c = '"' ∨ c ∈ text) := by
  rw [codeChars_of_folded folded] at inside
  rcases mem_unlines inside with rfl | ⟨line, member, held⟩
  · exact ⟨by decide, by decide, by decide, .inl rfl⟩
  · obtain ⟨row, among, rfl⟩ := List.mem_map.mp member
    obtain ⟨noTab, noQuote, noReturn, -, kept⟩ :=
      mem_of_mem_shownRows among ((List.drop_suffix _ _).subset held)
    exact ⟨noTab, noQuote, noReturn, .inr kept⟩

theorem isAsciiText_codeChars {text : List Char} (ascii : IsAsciiText text) :
    IsAsciiText (codeChars text) := by
  intro c inside
  rcases (mem_codeChars (fold_of_ascii ascii) inside).2.2.2 with rfl | rfl | rfl | held
  · rfl
  · rfl
  · rfl
  · exact ascii c held

/-- The lines of the normal form of code. -/
theorem lines_codeChars {text : List Char} (folded : fold text = text) (filled : shownRows text ≠ []) :
    lines (codeChars text) = (shownRows text).map (·.drop (margin (shownRows text))) := by
  rw [codeChars_of_folded folded, layOut, ← shownRows]
  refine lines_unlines (by simpa using filled) fun line member feed => ?_
  obtain ⟨row, among, rfl⟩ := List.mem_map.mp member
  exact (mem_of_mem_shownRows among ((List.drop_suffix _ _).subset feed)).2.2.2.1 rfl

theorem isCodeForm_codeChars {text : List Char} (ascii : IsAsciiText text) :
    IsCodeForm (codeChars text) := by
  have folded := fold_of_ascii ascii
  refine ⟨fun inside => (mem_codeChars folded inside).1 rfl,
    fun inside => (mem_codeChars folded inside).2.1 rfl,
    fun inside => (mem_codeChars folded inside).2.2.1 rfl, ?_⟩
  by_cases filled : shownRows text = []
  · rw [codeChars_of_folded folded, layOut, ← shownRows, filled]
    exact .inl rfl
  · right
    rw [lines_codeChars folded filled]
    constructor
    · intro line member
      obtain ⟨row, among, rfl⟩ := List.mem_map.mp member
      obtain ⟨shown, line, -, rfl⟩ := exists_of_mem_shownRows among
      exact isCodeLine_drop shown (margin_le among)
    · obtain ⟨row, among, least⟩ := exists_indentOf_eq_margin filled
      refine ⟨_, List.mem_map_of_mem among, ?_⟩
      rw [← indentOf_eq_zero_iff, indentOf_drop least.ge, least, Nat.sub_self]

/-- The lines of code in normal form are their own normal forms. -/
theorem IsCodeForm.rows_eq {text : List Char} (normal : IsCodeForm text) (filled : text ≠ []) :
    shown ((lines text).map codeRow) = lines text := by
  obtain ⟨each, -⟩ := normal.rows.resolve_left filled
  have same : (lines text).map codeRow = lines text := by
    refine (List.map_congr_left fun line among => ?_).trans (List.map_id _)
    have noTab : '\t' ∉ line := fun tab => normal.noTab (mem_of_mem_lines among tab)
    have noQuote : line.map oneQuote = line.map id := List.map_congr_left fun c inside => by
      rw [oneQuote, if_neg, id]
      rintro rfl
      exact normal.noQuote (mem_of_mem_lines among inside)
    rw [codeRow, expandTabs, expandTabsFrom_of_not_mem 4 0 noTab, noQuote, List.map_id,
      (each line among).codeLine_eq]
    rfl
  rw [same]
  refine List.filter_eq_self.mpr fun line among => ?_
  have visible := mt trim_eq_nil_iff.mp (not_not_intro (each line among).shown)
  simpa using visible

/-- Code in normal form is left as it is. -/
theorem IsCodeForm.codeChars_eq {text : List Char} (normal : IsCodeForm text)
    (ascii : IsAsciiText text) : codeChars text = text := by
  rw [codeChars_of_ascii ascii, linesOf, unifyLineEnds_of_noReturn normal.noReturn]
  by_cases filled : text = []
  · rw [filled]
    rfl
  · obtain ⟨-, first, member, starts⟩ := normal.rows.resolve_left filled
    have least : margin (lines text) = 0 :=
      Nat.eq_zero_of_le_zero ((margin_le member).trans_eq (indentOf_eq_zero_iff.mpr starts))
    rw [layOut, normal.rows_eq filled, least]
    exact (congrArg unlines (List.map_id _)).trans (unlines_lines text)

/-! ### All forms -/

/-- The normal form of an ASCII text is its own normal form.  Prose and output neither start nor end
with a blank, and code consists of reduced lines one of which is not indented. -/
theorem normalize_normalize (text : String) (ascii : IsAsciiText text.toList) :
    prose (prose text) = prose text ∧ fillIn (fillIn text) = fillIn text ∧
      output (output text) = output text ∧ code (code text) = code text ∧
      IsTrimmed (prose text).toList ∧ IsTrimmed (output text).toList ∧
      IsCodeForm (code text).toList := by
  have twice : prose (prose text) = prose text := by
    rw [prose, prose, String.toList_ofList, proseChars_proseChars ascii]
  refine ⟨twice, twice, ?_, ?_, ?_, ?_, ?_⟩
  · rw [output, output, String.toList_ofList, outputChars_outputChars ascii]
  · rw [code, code, String.toList_ofList,
      (isCodeForm_codeChars ascii).codeChars_eq (isAsciiText_codeChars ascii)]
  · rw [prose, String.toList_ofList]
    exact isTrimmed_proseChars text.toList
  · rw [output, String.toList_ofList]
    exact isTrimmed_outputChars text.toList
  · rw [code, String.toList_ofList]
    exact isCodeForm_codeChars ascii

/-- A loop that is indented with tabs, with spacing around its punctuation and a blank line. -/
theorem normalize_normalize_loop :
    IsAsciiText "\tfor x in  f( 'a' , y ) :\n \t \n\t\tx  = x -1 \n".toList ∧
      code "\tfor x in  f( 'a' , y ) :\n \t \n\t\tx  = x -1 \n" =
        "for x in f(\"a\",y):\n    x=x-1" ∧
      code (code "\tfor x in  f( 'a' , y ) :\n \t \n\t\tx  = x -1 \n") =
        code "\tfor x in  f( 'a' , y ) :\n \t \n\t\tx  = x -1 \n" ∧
      IsCodeForm (code "\tfor x in  f( 'a' , y ) :\n \t \n\t\tx  = x -1 \n").toList := by
  have ascii : IsAsciiText "\tfor x in  f( 'a' , y ) :\n \t \n\t\tx  = x -1 \n".toList := by
    decide +kernel
  obtain ⟨-, -, -, twice, -, -, normal⟩ := normalize_normalize _ ascii
  exact ⟨ascii, by decide +kernel, twice, normal⟩

end Answer
end AnswerKey
