import AnswerKey.Answer.Normal
import AnswerKey.Proofs.Text.Lines

namespace AnswerKey
namespace Answer

/-!
Lines of code in normal form.

A line is its indentation and a body, and only the spacing inside the body is reduced.  A reduced
body neither starts with a space nor ends with a blank, and no two of its neighbours could still be
brought closer (`IsReduced`).  Reducing makes every body reduced (`isReduced_reduce`) and leaves
reduced ones as they are (`reduce_eq_self`).
-/

open Text

/-- The body of a line with its spacing reduced. -/
def reduce (body : List Char) : List Char :=
  tighten [] false (singleSpaces (trimRight body))

/-- Neighbours that are not both spaces. -/
def Spaced (c d : Char) : Prop :=
  ¬ (c = ' ' ∧ d = ' ')

/-- Neighbours neither of which is a blank next to a punctuation character, and not both spaces. -/
def Close (c d : Char) : Prop :=
  Spaced c d ∧ ¬ (isPunctuation c = true ∧ isBlank d = true) ∧
    ¬ (isBlank c = true ∧ isPunctuation d = true)

/-- A body whose spacing cannot be reduced any more. -/
structure IsReduced (body : List Char) : Prop where
  starts : ∀ c ∈ body.head?, c ≠ ' '
  ends : ∀ c ∈ body.getLast?, isBlank c = false
  close : body.IsChain Close

section Characters

variable {c d : Char}

theorem not_isBlank_of_isPunctuation (mark : isPunctuation c = true) : isBlank c = false := by
  have all : ∀ c ∈ "()[]\x7b\x7d:,.;=+-*/%<>!&|^~@".toList, isBlank c = false := by decide
  exact all c (List.contains_iff_mem.mp mark)

theorem ne_space_of_not_isBlank (shown : isBlank c = false) : c ≠ ' ' := by
  rintro rfl
  cases shown

/-- A character that is neither blank nor punctuation may stand next to any other. -/
theorem close_of_plain (shown : isBlank c = false) (plain : isPunctuation c = false) : Close c d :=
  ⟨fun both => ne_space_of_not_isBlank shown both.1, by simp [plain], by simp [shown]⟩

theorem close_to_plain (shown : isBlank d = false) (plain : isPunctuation d = false) : Close c d :=
  ⟨fun both => ne_space_of_not_isBlank shown both.2, by simp [shown], by simp [plain]⟩

theorem close_of_isPunctuation (mark : isPunctuation c = true) (shown : isBlank d = false) :
    Close c d :=
  ⟨fun both => ne_space_of_not_isBlank shown both.2, by simp [shown],
    by simp [not_isBlank_of_isPunctuation mark]⟩

theorem not_isPunctuation_of_isBlank (blank : isBlank c = true) : isPunctuation c = false := by
  rw [← Bool.not_eq_true]
  intro mark
  rw [not_isBlank_of_isPunctuation mark] at blank
  cases blank

theorem close_of_blanks (first : isBlank c = true) (second : isBlank d = true)
    (spaced : Spaced c d) : Close c d :=
  ⟨spaced, by simp [not_isPunctuation_of_isBlank first], by simp [not_isPunctuation_of_isBlank second]⟩

end Characters

/-! ### Runs of one character -/

section Runs

variable {p : Char → Bool} {r : Char} {text : List Char}

/-- Inside a run no further character of the class comes first. -/
theorem not_head_collapse (inRun : Bool) {c : Char} (within : inRun = true)
    (head : c ∈ (collapse p r inRun text).head?) : p c = false := by
  induction text with
  | nil => cases head
  | cons d rest ih =>
      subst within
      rw [collapse] at head
      split at head
      · exact ih head
      · next other =>
          cases head
          exact eq_false_of_ne_true other

theorem isChain_singleSpaces (text : List Char) : (singleSpaces text).IsChain Spaced := by
  rw [singleSpaces]
  generalize false = inRun
  induction text generalizing inRun with
  | nil => exact .nil
  | cons c rest ih =>
      rw [collapse]
      split
      · split
        · exact ih true
        · rw [List.isChain_cons]
          refine ⟨fun d head both => ?_, ih true⟩
          have other := not_head_collapse true rfl head
          rw [both.2] at other
          cases other
      · next other =>
          rw [List.isChain_cons]
          exact ⟨fun d head both => other (beq_iff_eq.mpr both.1), ih false⟩

/-- Where no two spaces meet, none is dropped. -/
theorem singleSpaces_eq_self {text : List Char} (spaced : text.IsChain Spaced) :
    singleSpaces text = text := by
  have whole (inRun : Bool) (apart : inRun = true → ∀ c ∈ text.head?, c ≠ ' ') :
      collapse (· == ' ') ' ' inRun text = text := by
    induction text generalizing inRun with
    | nil => rfl
    | cons c rest ih =>
        rw [List.isChain_cons] at spaced
        rw [collapse]
        split
        · next space =>
            obtain rfl : c = ' ' := beq_iff_eq.mp space
            cases inRun with
            | true => exact absurd rfl (apart rfl ' ' rfl)
            | false =>
                rw [if_neg (by decide), ih spaced.2 true]
                exact fun _ d head same => spaced.1 d head ⟨rfl, same⟩
        · rw [ih spaced.2 false]
          nofun
  exact whole false nofun

theorem head?_singleSpaces (text : List Char) : (singleSpaces text).head? = text.head? := by
  cases text with
  | nil => rfl
  | cons c rest =>
      rw [singleSpaces, collapse]
      split
      · next space =>
          rw [beq_iff_eq.mp space]
          rfl
      · rfl

theorem mem_collapse {c : Char} {inRun : Bool} (inside : c ∈ collapse p r inRun text) :
    c = r ∨ c ∈ text := by
  induction text generalizing inRun with
  | nil => cases inside
  | cons d rest ih =>
      rw [collapse] at inside
      split at inside
      · split at inside
        · exact (ih inside).imp_right (List.mem_cons_of_mem d)
        · rcases List.mem_cons.mp inside with same | behind
          · exact .inl same
          · exact (ih behind).imp_right (List.mem_cons_of_mem d)
      · rcases List.mem_cons.mp inside with rfl | behind
        · exact .inr List.mem_cons_self
        · exact (ih behind).imp_right (List.mem_cons_of_mem d)

/-- A last character outside the class stays the last. -/
theorem getLast?_collapse {inRun : Bool} (outside : ∀ c ∈ text.getLast?, p c = false) :
    (collapse p r inRun text).getLast? = text.getLast? := by
  induction text generalizing inRun with
  | nil => rfl
  | cons c rest ih =>
      cases rest with
      | nil =>
          rw [collapse, if_neg (by simp [outside c rfl])]
          rfl
      | cons d rest =>
          rw [List.getLast?_cons_cons] at outside ⊢
          have filled (inRun : Bool) : collapse p r inRun (d :: rest) ≠ [] := by
            intro gone
            have same : (collapse p r inRun (d :: rest)).getLast? = _ := ih outside
            rw [gone] at same
            exact absurd (List.getLast?_eq_none_iff.mp same.symm) (List.cons_ne_nil d rest)
          rw [collapse]
          split
          · split
            · exact ih outside
            · rw [List.getLast?_cons_of_ne_nil (filled true), ih outside]
          · rw [List.getLast?_cons_of_ne_nil (filled false), ih outside]

end Runs

/-! ### Blanks next to punctuation -/

section Tighten

variable {pending text : List Char} {afterPunctuation : Bool}

theorem tighten_blank {c : Char} (blank : isBlank c = true) (rest : List Char) :
    tighten pending afterPunctuation (c :: rest) = tighten (c :: pending) afterPunctuation rest := by
  rw [tighten, if_pos blank]

theorem tighten_punctuation {c : Char} (mark : isPunctuation c = true) (rest : List Char) :
    tighten pending afterPunctuation (c :: rest) = c :: tighten [] true rest := by
  rw [tighten, if_neg (by simp [not_isBlank_of_isPunctuation mark]), if_pos mark]

theorem tighten_plain {c : Char} (shown : isBlank c = false) (plain : isPunctuation c = false)
    (rest : List Char) : tighten pending afterPunctuation (c :: rest) =
      (if afterPunctuation then [] else pending.reverse) ++ c :: tighten [] false rest := by
  rw [tighten, if_neg (by simp [shown]), if_neg (by simp [plain])]

/-- Behind punctuation it makes no difference which blanks have been read. -/
theorem tighten_true (pending text : List Char) :
    tighten pending true text = tighten [] true text := by
  induction text generalizing pending with
  | nil => rfl
  | cons c rest ih =>
      cases blank : isBlank c with
      | true => rw [tighten_blank blank, tighten_blank blank, ih, ih [c]]
      | false =>
          cases mark : isPunctuation c with
          | true => rw [tighten_punctuation mark, tighten_punctuation mark]
          | false => rw [tighten_plain blank mark, tighten_plain blank mark, if_pos rfl, if_pos rfl]

/-- Behind punctuation no blank comes first. -/
theorem not_isBlank_head_tighten {c : Char} (head : c ∈ (tighten pending true text).head?) :
    isBlank c = false := by
  induction text generalizing pending with
  | nil => cases head
  | cons d rest ih =>
      cases blank : isBlank d with
      | true =>
          rw [tighten_blank blank] at head
          exact ih head
      | false =>
          cases mark : isPunctuation d with
          | true =>
              rw [tighten_punctuation mark] at head
              cases head
              exact blank
          | false =>
              rw [tighten_plain blank mark, if_pos rfl] at head
              cases head
              exact blank

/-- Blanks no two of which are neighbouring spaces are close to each other and to what follows. -/
theorem isChain_blanks_append {first rest : List Char} (blank : ∀ c ∈ first, isBlank c = true)
    (spaced : first.IsChain Spaced) (close : rest.IsChain Close)
    (free : ∀ c ∈ rest.head?, isBlank c = false ∧ isPunctuation c = false) :
    (first ++ rest).IsChain Close := by
  rw [List.isChain_append]
  refine ⟨?_, close, fun c _ d head => close_to_plain (free d head).1 (free d head).2⟩
  induction first with
  | nil => exact .nil
  | cons c first ih =>
      rw [List.forall_mem_cons] at blank
      rw [List.isChain_cons] at spaced ⊢
      exact ⟨fun d head => close_of_blanks blank.1 (blank.2 d (List.mem_of_mem_head? head))
        (spaced.1 d head), ih blank.2 spaced.2⟩

theorem isChain_tighten (blank : ∀ c ∈ pending, isBlank c = true)
    (spaced : (pending.reverse ++ text).IsChain Spaced) :
    (tighten pending afterPunctuation text).IsChain Close := by
  induction text generalizing pending afterPunctuation with
  | nil =>
      rw [tighten]
      split
      · exact .nil
      · rw [List.append_nil] at spaced
        rw [← List.append_nil pending.reverse]
        exact isChain_blanks_append (by simpa using blank) spaced .nil nofun
  | cons c rest ih =>
      have later : rest.IsChain Spaced :=
        ((List.isChain_append.mp spaced).2.1 : (c :: rest).IsChain Spaced).tail
      cases isBlank_c : isBlank c with
      | true =>
          rw [tighten_blank isBlank_c]
          refine ih (List.forall_mem_cons.mpr ⟨isBlank_c, blank⟩) ?_
          simpa using spaced
      | false =>
          cases mark : isPunctuation c with
          | true =>
              rw [tighten_punctuation mark, List.isChain_cons]
              exact ⟨fun d head => close_of_isPunctuation mark (not_isBlank_head_tighten head),
                ih (List.forall_mem_nil _) later⟩
          | false =>
              have behind : (c :: tighten [] false rest).IsChain Close := by
                rw [List.isChain_cons]
                exact ⟨fun d _ => close_of_plain isBlank_c mark, ih (List.forall_mem_nil _) later⟩
              rw [tighten_plain isBlank_c mark]
              split
              · exact behind
              · refine isChain_blanks_append (by simpa using blank)
                  (List.isChain_append.mp spaced).1 behind fun d head => ?_
                cases head
                exact ⟨isBlank_c, mark⟩

/-- What does not start with a space does not start with one when it is tightened. -/
theorem head_tighten_ne_space (starts : ∀ c ∈ (pending.reverse ++ text).head?, c ≠ ' ') :
    ∀ c ∈ (tighten pending afterPunctuation text).head?, c ≠ ' ' := by
  induction text generalizing pending afterPunctuation with
  | nil =>
      rw [tighten]
      split
      · nofun
      · simpa using starts
  | cons d rest ih =>
      cases blank : isBlank d with
      | true =>
          rw [tighten_blank blank]
          refine ih ?_
          simpa using starts
      | false =>
          intro c head
          cases mark : isPunctuation d with
          | true =>
              rw [tighten_punctuation mark] at head
              cases head
              exact ne_space_of_not_isBlank blank
          | false =>
              rw [tighten_plain blank mark] at head
              split at head
              · cases head
                exact ne_space_of_not_isBlank blank
              · refine starts c ?_
                rw [List.head?_append] at head ⊢
                exact head

/-- A last character that is not blank stays the last. -/
theorem getLast?_tighten (ends : ∀ c ∈ text.getLast?, isBlank c = false) (filled : text ≠ []) :
    (tighten pending afterPunctuation text).getLast? = text.getLast? := by
  induction text generalizing pending afterPunctuation with
  | nil => exact absurd rfl filled
  | cons c rest ih =>
      cases rest with
      | nil =>
          have shown := ends c rfl
          cases mark : isPunctuation c with
          | true =>
              rw [tighten_punctuation mark]
              rfl
          | false =>
              rw [tighten_plain shown mark, tighten, if_neg Bool.false_ne_true, List.reverse_nil,
                List.getLast?_concat]
              rfl
      | cons d rest =>
          rw [List.getLast?_cons_cons] at ends ⊢
          have behind (pending : List Char) (afterPunctuation : Bool) :
              (tighten pending afterPunctuation (d :: rest)).getLast? = (d :: rest).getLast? :=
            ih ends (List.cons_ne_nil d rest)
          have later (pending : List Char) (afterPunctuation : Bool) :
              tighten pending afterPunctuation (d :: rest) ≠ [] := by
            intro gone
            have same := behind pending afterPunctuation
            rw [gone] at same
            exact absurd (List.getLast?_eq_none_iff.mp same.symm) (List.cons_ne_nil d rest)
          cases blank : isBlank c with
          | true => rw [tighten_blank blank, behind]
          | false =>
              cases mark : isPunctuation c with
              | true =>
                  rw [tighten_punctuation mark, List.getLast?_cons_of_ne_nil (later _ _), behind]
              | false =>
                  rw [tighten_plain blank mark, List.getLast?_append_of_ne_nil _ (by simp),
                    List.getLast?_cons_of_ne_nil (later _ _), behind]

/-- Where all neighbours are close, nothing is dropped. -/
theorem tighten_eq_append (blank : ∀ c ∈ pending, isBlank c = true)
    (close : (pending.reverse ++ text).IsChain Close)
    (free : afterPunctuation = true → pending = [] ∧ ∀ c ∈ text.head?, isBlank c = false) :
    tighten pending afterPunctuation text = pending.reverse ++ text := by
  induction text generalizing pending afterPunctuation with
  | nil =>
      rw [tighten]
      split
      · next behind => rw [(free behind).1]; rfl
      · rw [List.append_nil]
  | cons c rest ih =>
      have later : (c :: rest).IsChain Close := (List.isChain_append.mp close).2.1
      cases isBlank_c : isBlank c with
      | true =>
          have notBehind : afterPunctuation = false := by
            rw [← Bool.not_eq_true]
            intro behind
            rw [(free behind).2 c rfl] at isBlank_c
            cases isBlank_c
          rw [tighten_blank isBlank_c, ih (List.forall_mem_cons.mpr ⟨isBlank_c, blank⟩)]
          · simp
          · simpa using close
          · simp [notBehind]
      | false =>
          cases mark : isPunctuation c with
          | true =>
              have none : pending = [] := by
                cases pending with
                | nil => rfl
                | cons d pending =>
                    have apart := (List.isChain_append.mp close).2.2 d (by simp) c rfl
                    exact absurd ⟨blank d List.mem_cons_self, mark⟩ apart.2.2
              rw [tighten_punctuation mark, none, ih (List.forall_mem_nil _) later.tail]
              · rfl
              · refine fun _ => ⟨rfl, fun d head => ?_⟩
                rw [← Bool.not_eq_true]
                intro isBlank_d
                exact ((List.isChain_cons.mp later).1 d head).2.1 ⟨mark, isBlank_d⟩
          | false =>
              have kept : (if afterPunctuation = true then [] else pending.reverse) =
                  pending.reverse := by
                split
                · next behind => rw [(free behind).1]; rfl
                · rfl
              rw [tighten_plain isBlank_c mark, kept, ih (List.forall_mem_nil _) later.tail
                (fun behind => absurd behind Bool.false_ne_true)]
              rfl

theorem mem_tighten {c : Char} (inside : c ∈ tighten pending afterPunctuation text) :
    c ∈ pending ∨ c ∈ text := by
  induction text generalizing pending afterPunctuation with
  | nil =>
      rw [tighten] at inside
      split at inside
      · cases inside
      · exact .inl (List.mem_reverse.mp inside)
  | cons d rest ih =>
      cases blank : isBlank d with
      | true =>
          rw [tighten_blank blank] at inside
          rcases ih inside with held | behind
          · rcases List.mem_cons.mp held with rfl | held
            · exact .inr List.mem_cons_self
            · exact .inl held
          · exact .inr (List.mem_cons_of_mem d behind)
      | false =>
          have later {afterPunctuation : Bool} (behind : c ∈ tighten [] afterPunctuation rest) :
              c ∈ rest :=
            (ih behind).resolve_left List.not_mem_nil
          cases mark : isPunctuation d with
          | true =>
              rw [tighten_punctuation mark] at inside
              rcases List.mem_cons.mp inside with rfl | behind
              · exact .inr List.mem_cons_self
              · exact .inr (List.mem_cons_of_mem d (later behind))
          | false =>
              rw [tighten_plain blank mark] at inside
              rcases List.mem_append.mp inside with held | behind
              · split at held
                · cases held
                · exact .inl (List.mem_reverse.mp held)
              · rcases List.mem_cons.mp behind with rfl | behind
                · exact .inr List.mem_cons_self
                · exact .inr (List.mem_cons_of_mem d (later behind))

end Tighten

/-! ### Bodies and lines -/

section Bodies

variable {body : List Char}

theorem mem_reduce {c : Char} (inside : c ∈ reduce body) : c = ' ' ∨ c ∈ body :=
  (mem_collapse ((mem_tighten inside).resolve_left List.not_mem_nil)).imp_right
    fun kept => (isPrefix_trimRightWhile isBlank body).subset kept

theorem isReduced_reduce (starts : ∀ c ∈ body.head?, c ≠ ' ') : IsReduced (reduce body) := by
  have trimmed : ∀ c ∈ (trimRight body).getLast?, isBlank c = false := isBlank_getLast?_trimRight
  have single : (singleSpaces (trimRight body)).getLast? = (trimRight body).getLast? :=
    getLast?_collapse fun c last => by
      simpa using ne_space_of_not_isBlank (trimmed c last)
  refine ⟨head_tighten_ne_space ?_, ?_, isChain_tighten (List.forall_mem_nil _) ?_⟩
  · intro c head
    rw [List.reverse_nil, List.nil_append, head?_singleSpaces] at head
    obtain ⟨behind, whole⟩ := isPrefix_trimRightWhile isBlank body
    rw [← trimRight] at whole
    refine starts c ?_
    rw [← whole, List.head?_append, Option.mem_def.mp head]
    rfl
  · intro c last
    by_cases filled : singleSpaces (trimRight body) = []
    · rw [reduce, filled] at last
      cases last
    · rw [reduce, getLast?_tighten (single ▸ trimmed) filled, single] at last
      exact trimmed c last
  · exact isChain_singleSpaces (trimRight body)

/-- Reducing a second time changes nothing. -/
theorem reduce_eq_self (reduced : IsReduced body) : reduce body = body := by
  rw [reduce, trimRight, trimRightWhile_eq_self reduced.ends,
    singleSpaces_eq_self (reduced.close.imp fun _ _ close => close.1),
    tighten_eq_append (List.forall_mem_nil _) reduced.close
      (fun behind => absurd behind Bool.false_ne_true)]
  rfl

theorem codeLine_eq (line : List Char) :
    codeLine line =
      List.replicate (indentOf line) ' ' ++ reduce (line.dropWhile (· == ' ')) := rfl

section Indented

variable (starts : ∀ c ∈ body.head?, c ≠ ' ') (count : Nat)

include starts

theorem dropWhile_indented :
    (List.replicate count ' ' ++ body).dropWhile (· == ' ') = body := by
  rw [List.dropWhile_append_of_pos (by simp)]
  cases body with
  | nil => rfl
  | cons c rest => exact List.dropWhile_cons_of_neg (by simpa using starts c rfl)

theorem indentOf_indented : indentOf (List.replicate count ' ' ++ body) = count := by
  rw [indentOf, List.takeWhile_append_of_pos (by simp)]
  cases body with
  | nil => simp
  | cons c rest =>
      rw [List.takeWhile_cons_of_neg (by simpa using starts c rfl)]
      simp

end Indented

/-- A line in normal form: some spaces and a reduced body. -/
theorem codeLine_indented (reduced : IsReduced body) (count : Nat) :
    codeLine (List.replicate count ' ' ++ body) = List.replicate count ' ' ++ body := by
  rw [codeLine_eq, dropWhile_indented reduced.starts, indentOf_indented reduced.starts,
    reduce_eq_self reduced]

/-- The body of a line does not start with a space. -/
theorem head_dropWhile_ne_space (line : List Char) :
    ∀ c ∈ (line.dropWhile (· == ' ')).head?, c ≠ ' ' := by
  intro c head same
  have stopped := List.head?_dropWhile_not (· == ' ') line
  rw [Option.mem_def.mp head, same] at stopped
  cases stopped

theorem isReduced_body (line : List Char) : IsReduced (reduce (line.dropWhile (· == ' '))) :=
  isReduced_reduce (head_dropWhile_ne_space line)

end Bodies

/-! ### Texts of code -/

/-- A text of ASCII characters. -/
def IsAsciiText (text : List Char) : Prop :=
  ∀ c ∈ text, isAscii c = true

instance : DecidablePred IsAsciiText :=
  fun text => inferInstanceAs (Decidable (∀ c ∈ text, isAscii c = true))

/-- ASCII characters are folded to themselves. -/
theorem fold_of_ascii {text : List Char} (ascii : IsAsciiText text) : fold text = text := by
  have below (c : Char) (inside : c ∈ text) : c.toNat < 128 := of_decide_eq_true (ascii c inside)
  have same : Compatibility.normalize text = text := by
    rw [Compatibility.normalize, if_pos]
    simpa using below
  have plain : text.map plainQuote = text.map id := List.map_congr_left fun c inside => by
    have small := below c inside
    rw [plainQuote, if_neg (by omega), if_neg (by omega)]
    rfl
  rw [fold, same, plain, List.map_id]

/-- Write every quotation mark in one way. -/
def oneQuote (c : Char) : Char :=
  if c = '\'' then '"' else c

/-- A line of a text as a line of code. -/
def codeRow (line : List Char) : List Char :=
  codeLine ((expandTabs 4 line).map oneQuote)

/-- Those of some lines that show something. -/
def shown (rows : List (List Char)) : List (List Char) :=
  rows.filter fun row => !(trim row).isEmpty

/-- Lines of code without the blank ones and without the indentation that they share. -/
def layOut (rows : List (List Char)) : List Char :=
  unlines ((shown rows).map (·.drop (margin (shown rows))))

/-- The lines of a text, whatever its line ends are. -/
def linesOf (text : List Char) : List (List Char) :=
  lines (unifyLineEnds text)

theorem mem_shown {rows : List (List Char)} {row : List Char} :
    row ∈ shown rows ↔ row ∈ rows ∧ IsVisible row := by
  rw [shown, List.mem_filter]
  refine and_congr_right fun _ => ?_
  rw [Bool.not_eq_true', ← Bool.not_eq_true, List.isEmpty_iff, trim_eq_nil_iff, not_not]

theorem oneQuote_eq_feed (c : Char) : oneQuote c = '\n' ↔ c = '\n' := by
  rw [oneQuote]
  split
  · next same =>
      rw [same]
      decide
  · rfl

/-- Code is normalised line by line. -/
theorem codeChars_of_folded {text : List Char} (folded : fold text = text) :
    codeChars text = layOut ((linesOf text).map codeRow) := by
  have rows : lines ((expandTabs 4 (unifyLineEnds text)).map oneQuote) =
      (linesOf text).map fun line => (expandTabs 4 line).map oneQuote := by
    rw [lines_map oneQuote_eq_feed, lines_expandTabs, List.map_map]
    rfl
  rw [codeChars, folded]
  change layOut ((lines ((expandTabs 4 (unifyLineEnds text)).map oneQuote)).map codeLine) =
    layOut ((linesOf text).map codeRow)
  rw [rows, List.map_map]
  rfl

theorem codeChars_of_ascii {text : List Char} (ascii : IsAsciiText text) :
    codeChars text = layOut ((linesOf text).map codeRow) :=
  codeChars_of_folded (fold_of_ascii ascii)

end Answer
end AnswerKey
