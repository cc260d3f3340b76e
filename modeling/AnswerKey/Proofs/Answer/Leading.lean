import Mathlib.Data.List.Infix
import AnswerKey.Proofs.Answer.Flow
import AnswerKey.Proofs.Snippet.Part
import AnswerKey.Proofs.Snippet.Step

namespace AnswerKey
namespace Snippet
namespace Token

/-!
Levels with tabs written as spaces.

An indentation in which all tabs stand in front of all spaces is measured in two ways, from which the
column can be told that it has with tabs to multiples of four (`Column.fourfold`).  The levels that are
open become wider in both measures, so they keep their order, and a move from one level to another
stays the same move (`moveTo?_fourfold`).
-/

namespace Column

/-- A column with tabs to multiples of four instead, written in spaces. -/
def fourfold (column : Column) : Column :=
  ⟨(3 * column.wide + 4 * column.narrow) / 7, (3 * column.wide + 4 * column.narrow) / 7⟩

theorem fourfold_tabs (tabs spaces : Nat) :
    fourfold ⟨8 * tabs + spaces, tabs + spaces⟩ = ⟨4 * tabs + spaces, 4 * tabs + spaces⟩ := by
  have column : (3 * (8 * tabs + spaces) + 4 * (tabs + spaces)) / 7 = 4 * tabs + spaces := by omega
  simp only [fourfold, column]

theorem fourfold_spaces (spaces : Nat) : fourfold ⟨spaces, spaces⟩ = ⟨spaces, spaces⟩ := by
  simpa using fourfold_tabs 0 spaces

/-- A column that lies to the left in both measures. -/
def Below (inner outer : Column) : Prop :=
  outer.wide < inner.wide ∧ outer.narrow < inner.narrow

theorem Below.fourfold {inner outer : Column} (below : Below inner outer) :
    Below inner.fourfold outer.fourfold := by
  obtain ⟨wide, narrow⟩ := below
  constructor
  all_goals
    dsimp only [Column.fourfold]
    omega

end Column

/-- Open levels, each of which lies to the right of those that it is in. -/
def Falls (levels : List Column) : Prop :=
  levels.Pairwise Column.Below

def State.fourfold (state : State) : State :=
  { state with levels := state.levels.map Column.fourfold }

section Moves

variable {column top : Column} {levels below left : List Column} {marks : List Token}

theorem closeLevels?_fourfold (falls : Falls levels)
    (closed : closeLevels? column levels = some (marks, left)) :
    closeLevels? column.fourfold (levels.map Column.fourfold) =
        some (marks, left.map Column.fourfold) ∧
      column ∈ left ∧ left <:+ levels := by
  fun_induction closeLevels? column levels generalizing marks with
  | case1 => cases closed
  | case2 top below less ih =>
      obtain ⟨⟨others, left'⟩, later, same⟩ := Option.map_eq_some_iff.mp closed
      cases same
      obtain ⟨top_below, falls⟩ := List.pairwise_cons.mp falls
      obtain ⟨reads, member, suffix⟩ := ih falls later
      have lower := (top_below column (suffix.subset member)).fourfold
      refine ⟨?_, member, suffix.trans (List.suffix_cons top below)⟩
      rw [List.map_cons, closeLevels?, if_pos lower.1, reads]
      rfl
  | case3 below =>
      cases closed
      refine ⟨?_, List.mem_cons_self, List.suffix_rfl⟩
      rw [List.map_cons, closeLevels?, if_neg (Nat.lt_irrefl _), if_pos rfl]
  | case4 => cases closed

/-- A move from one level to another stays the same with tabs to multiples of four. -/
theorem moveTo?_fourfold (falls : Falls levels)
    (moved : moveTo? column levels = some (marks, left)) :
    moveTo? column.fourfold (levels.map Column.fourfold) =
        some (marks, left.map Column.fourfold) ∧ Falls left := by
  cases levels with
  | nil => cases moved
  | cons top below =>
      have top_below := (List.pairwise_cons.mp falls).1
      rw [moveTo?] at moved
      rw [List.map_cons, moveTo?]
      split at moved
      · next wider =>
          split at moved
          · cases moved
          · next fits =>
              cases moved
              rw [Bool.or_eq_true, decide_eq_true_iff, decide_eq_true_iff, not_or, Nat.not_le] at fits
              have deeper : Column.Below column top := ⟨wider, fits.1⟩
              rw [if_pos deeper.fourfold.1, if_neg]
              · refine ⟨rfl, List.pairwise_cons.mpr ⟨fun outer member => ?_, falls⟩⟩
                rcases List.mem_cons.mp member with rfl | lower
                · exact deeper
                · have under := top_below outer lower
                  exact ⟨under.1.trans deeper.1, under.2.trans deeper.2⟩
              · rw [Bool.or_eq_true, decide_eq_true_iff, decide_eq_true_iff, not_or, Nat.not_le]
                refine ⟨deeper.fourfold.2, ?_⟩
                simpa using fits.2
      · obtain ⟨reads, member, suffix⟩ := closeLevels?_fourfold falls moved
        have noWider : ¬ top.fourfold.wide < column.fourfold.wide := by
          rcases List.mem_cons.mp (suffix.subset member) with rfl | lower
          · exact Nat.lt_irrefl _
          · exact (top_below column lower).fourfold.1.not_gt
        rw [if_neg noWider, ← List.map_cons]
        exact ⟨reads, falls.sublist suffix.sublist⟩

end Moves

end Token
end Snippet

namespace Answer

/-!
Indentation in normalised code.

The indentation of a line is measured before its first token is read, over more than one line where a
backslash carries it on.  In a text whose indentation has its tabs in front of its spaces, and whose
backslashes carry on to lines that show something (`IsTidy`), it is measured alike before and after the
pass that normalises code, but for the width of the tabs (`measure?_flow`).
-/

open Text Snippet Snippet.Token Snippet.Lexeme

/-- Whether a line that starts here shows something. -/
def Shows (text : List Char) : Prop :=
  ∃ c ∈ (skipGap text).head?, c ≠ '\n'

/-- A line indented with tabs in front of spaces, and with spaces alone if nothing but a backslash stands
on it. -/
structure IsTidyLine (text : List Char) : Prop where
  tabsFirst : '\t' ∉ (text.dropWhile (· == '\t')).takeWhile isSpace
  carried : (skipGap text).take 2 = ['\\', '\n'] → '\t' ∉ text.takeWhile isSpace

/-- A text of complete lines without unusual blanks, in which every line is tidy that shows something,
and those behind a backslash do. -/
structure IsTidy (text : List Char) : Prop where
  spaced : IsPlainlySpaced text
  ended : text = [] ∨ text.getLast? = some '\n'
  lines : ∀ line, '\n' :: line <:+ text → Shows line → IsTidyLine line
  carries : ∀ line, '\\' :: '\n' :: line <:+ text → line ≠ [] → Shows line

theorem shows_iff {text : List Char} :
    Shows text ↔ (skipGap text).head?.any (· ≠ '\n') = true := by
  rw [Shows]
  cases (skipGap text).head? <;> simp

instance : DecidablePred Shows :=
  fun _ => decidable_of_iff' _ shows_iff

instance : DecidablePred IsTidyLine := fun text =>
  decidable_of_iff
    ('\t' ∉ (text.dropWhile (· == '\t')).takeWhile isSpace ∧
      ((skipGap text).take 2 = ['\\', '\n'] → '\t' ∉ text.takeWhile isSpace))
    ⟨fun both => ⟨both.1, both.2⟩, fun tidy => ⟨tidy.tabsFirst, tidy.carried⟩⟩

/-- Whether a text is tidy is seen from its tails. -/
theorem isTidy_iff {text : List Char} :
    IsTidy text ↔
      (∀ c ∈ text, isBlank c = true → c = ' ' ∨ c = '\t' ∨ c = '\n') ∧
        (text = [] ∨ text.getLast? = some '\n') ∧
        (∀ rest ∈ text.tails, rest.head? = some '\n' → Shows rest.tail → IsTidyLine rest.tail) ∧
        ∀ rest ∈ text.tails, rest.take 2 = ['\\', '\n'] → rest.drop 2 ≠ [] → Shows (rest.drop 2) := by
  simp only [List.mem_tails]
  constructor
  · rintro ⟨spaced, ended, lines, carries⟩
    refine ⟨spaced, ended, fun rest suffix feed => ?_, fun rest suffix escape => ?_⟩
    · obtain ⟨line, rfl⟩ := List.head?_eq_some_iff.mp feed
      exact lines line suffix
    · have whole := List.take_append_drop 2 rest
      rw [escape] at whole
      rw [← whole] at suffix
      exact carries _ suffix
  · rintro ⟨spaced, ended, lines, carries⟩
    exact ⟨spaced, ended, fun line suffix => lines _ suffix rfl,
      fun line suffix => carries _ suffix rfl⟩

instance : DecidablePred IsTidy :=
  fun _ => decidable_of_iff' _ isTidy_iff

theorem IsTidy.of_suffix {text rest : List Char} (tidy : IsTidy text) (suffix : rest <:+ text) :
    IsTidy rest where
  spaced := tidy.spaced.of_suffix suffix
  ended := by
    by_cases empty : rest = []
    · exact .inl empty
    · obtain ⟨front, rfl⟩ := suffix
      have ended := tidy.ended.resolve_left (by simp [empty])
      exact .inr (by rwa [List.getLast?_append_of_ne_nil _ empty] at ended)
  lines line member := tidy.lines line (member.trans suffix)
  carries line member := tidy.carries line (member.trans suffix)

section Gaps

variable {margin : Nat} {text gap rest : List Char}

theorem isBlank_of_isSpace {c : Char} (space : isSpace c = true) : isBlank c = true ∧ c ≠ '\n' := by
  simp only [isSpace, Bool.or_eq_true, beq_iff_eq] at space
  rcases space with (rfl | rfl) | rfl <;> exact ⟨rfl, by decide⟩

theorem isSpace_of_shown {c : Char} (shown : isBlank c = false) : isSpace c = false := by
  rw [← Bool.not_eq_true]
  intro space
  rw [(isBlank_of_isSpace space).1] at shown
  cases shown

/-- The blanks in front of what stands on a line. -/
theorem gap_append (text : List Char) : text.takeWhile isSpace ++ skipGap text = text :=
  List.takeWhile_append_dropWhile

theorem skipGap_suffix (text : List Char) : skipGap text <:+ text :=
  List.dropWhile_suffix _

theorem skipGap_shown {c : Char} (shown : isBlank c = false) (rest : List Char) :
    skipGap (c :: rest) = c :: rest :=
  List.dropWhile_cons_of_neg (by simpa [isSpace] using isSpace_of_shown shown)

/-- What stands behind the blanks of a line is a line end or visible. -/
theorem head_skipGap (spaced : IsPlainlySpaced text) {c : Char} (head : c ∈ (skipGap text).head?) :
    c = '\n' ∨ isBlank c = false := by
  cases blank : isBlank c with
  | false => exact .inr rfl
  | true =>
      have stopped : isSpace c = false := by
        have stopped := List.head?_dropWhile_not isSpace text
        rwa [show text.dropWhile isSpace = skipGap text from rfl, Option.mem_def.mp head] at stopped
      have member := (skipGap_suffix text).subset (List.mem_of_mem_head? head)
      rcases spaced c member blank with rfl | rfl | rfl
      · cases stopped
      · cases stopped
      · exact .inl rfl

/-- Blanks within a line are not written by themselves. -/
theorem flow_gap (spaces : ∀ c ∈ gap, isSpace c = true) (place : Place) (rest : List Char) :
    flow margin place (gap ++ rest) = flow margin (place.behind gap) rest := by
  induction gap generalizing place with
  | nil => rfl
  | cons c gap ih =>
      rw [List.forall_mem_cons] at spaces
      obtain ⟨blank, noFeed⟩ := isBlank_of_isSpace spaces.1
      rw [List.cons_append, flow_blank blank noFeed, ih spaces.2]
      rfl

theorem behind_gap_lead (spaces : ∀ c ∈ gap, isSpace c = true) (column : Nat) :
    ∃ onward, (Place.lead column).behind gap = .lead onward := by
  induction gap generalizing column with
  | nil => exact ⟨column, rfl⟩
  | cons c gap ih =>
      rw [List.forall_mem_cons] at spaces
      obtain ⟨blank, noFeed⟩ := isBlank_of_isSpace spaces.1
      have onward : (Place.lead column).next c =
          .lead (if c = '\t' then (column / 4 + 1) * 4 else column + 1) := by
        rw [Place.next, if_neg noFeed, if_pos blank]
      obtain ⟨last, same⟩ := ih spaces.2 (if c = '\t' then (column / 4 + 1) * 4 else column + 1)
      exact ⟨last, by rw [← same, ← onward]; rfl⟩

theorem behind_gap_inside (spaces : ∀ c ∈ gap, isSpace c = true) (waiting behindPunctuation : Bool) :
    (Place.inside waiting behindPunctuation).behind gap =
      .inside (waiting || !gap.isEmpty) behindPunctuation := by
  induction gap generalizing waiting with
  | nil => simp [Place.behind]
  | cons c gap ih =>
      rw [List.forall_mem_cons] at spaces
      obtain ⟨blank, noFeed⟩ := isBlank_of_isSpace spaces.1
      have onward : (Place.inside waiting behindPunctuation).next c =
          .inside true behindPunctuation := by
        rw [Place.next, if_neg noFeed, if_pos blank]
      have last := ih spaces.2 true
      rw [Bool.true_or] at last
      rw [List.isEmpty_cons, Bool.not_false, Bool.or_true, ← last, ← onward]
      rfl

theorem mem_gap {c : Char} (member : c ∈ text.takeWhile isSpace) : isSpace c = true :=
  List.mem_takeWhile_imp member

/-- From the start of a line, what is written begins behind its blanks. -/
theorem exists_flow_lead (margin column : Nat) (text : List Char) :
    ∃ onward, flow margin (.lead column) text = flow margin (.lead onward) (skipGap text) := by
  obtain ⟨onward, place⟩ := behind_gap_lead (fun _ => @mem_gap text _) column
  refine ⟨onward, ?_⟩
  conv_lhs => rw [← gap_append text]
  rw [flow_gap fun _ => mem_gap, place]

/-- What shows something is not dropped. -/
theorem flow_ne_nil_of_shows (margin : Nat) (spaced : IsPlainlySpaced text) (shows : Shows text) :
    flow margin (.lead 0) text ≠ [] := by
  obtain ⟨c, head, noFeed⟩ := shows
  have shown := (head_skipGap spaced head).resolve_left noFeed
  obtain ⟨onward, same⟩ := exists_flow_lead margin 0 text
  obtain ⟨more, here⟩ := List.head?_eq_some_iff.mp head
  rw [same, here, flow_shown shown]
  simp

end Gaps

/-! ### Measuring -/

section Measuring

variable {column base found : Column} {carried carried' count margin : Nat} {text rest : List Char}

theorem measure?_spaces (column : Column) (carried spaces : Nat) (rest : List Char) :
    measure? column carried (List.replicate spaces ' ' ++ rest) =
      measure? ⟨column.wide + spaces, column.narrow + spaces⟩ carried rest := by
  induction spaces generalizing column with
  | zero => rfl
  | succ spaces ih =>
      rw [List.replicate_succ, List.cons_append, measure?, ih, Nat.add_right_comm, Nat.add_right_comm column.narrow]
      rfl

theorem measure?_tabs (before carried tabs : Nat) (rest : List Char) :
    measure? ⟨8 * before, before⟩ carried (List.replicate tabs '\t' ++ rest) =
      measure? ⟨8 * (before + tabs), before + tabs⟩ carried rest := by
  induction tabs generalizing before with
  | zero => rfl
  | succ tabs ih =>
      have onward : (8 * before / 8 + 1) * 8 = 8 * (before + 1) := by omega
      rw [List.replicate_succ, List.cons_append, measure?, onward, ih, Nat.add_right_comm]
      rfl

theorem measure?_shown {c : Char} (shown : isBlank c = false) (noEscape : c ≠ '\\')
    (column : Column) (carried : Nat) (rest : List Char) :
    measure? column carried (c :: rest) = some (column, carried, c :: rest) := by
  have noSpace := isSpace_of_shown shown
  unfold measure?
  split
  · next same => simp [(List.cons.inj same).1, isSpace] at noSpace
  · next same => simp [(List.cons.inj same).1, isSpace] at noSpace
  · next same => simp [(List.cons.inj same).1, isSpace] at noSpace
  · next same => exact absurd (List.cons.inj same).1 noEscape
  · next same => exact absurd (List.cons.inj same).1 noEscape
  · next same => exact absurd (List.cons.inj same).1 noEscape
  · rfl

/-- A backslash carries an indentation on to the next line. -/
theorem exists_of_measure?_escape
    (measured : measure? column carried ('\\' :: text) = some (found, count, rest)) :
    ∃ line, text = '\n' :: line ∧ line ≠ [] ∧
      measure? column (if carried = 0 then column.wide else carried) line =
        some (found, count, rest) := by
  rcases text with _ | ⟨c, line⟩
  · cases measured
  · by_cases feed : c = '\n'
    · subst feed
      rcases line with _ | ⟨d, line⟩
      · cases measured
      · exact ⟨d :: line, rfl, List.cons_ne_nil d line, measured⟩
    · simp [measure?, feed] at measured

/-- Blanks lead from one column to another. -/
theorem exists_measure?_gap {gap : List Char} (spaces : ∀ c ∈ gap, isSpace c = true)
    (column : Column) (carried : Nat) :
    ∃ onward, ∀ rest, measure? column carried (gap ++ rest) = measure? onward carried rest := by
  induction gap generalizing column with
  | nil => exact ⟨column, fun _ => rfl⟩
  | cons c gap ih =>
      rw [List.forall_mem_cons] at spaces
      have one := spaces.1
      simp only [isSpace, Bool.or_eq_true, beq_iff_eq] at one
      rcases one with (rfl | rfl) | rfl
      · exact ih spaces.2 ⟨column.wide + 1, column.narrow + 1⟩
      · exact ih spaces.2 ⟨0, 0⟩
      · exact ih spaces.2 ⟨(column.wide / 8 + 1) * 8, column.narrow + 1⟩

theorem flow_spaces (column spaces : Nat) (rest : List Char) :
    flow margin (.lead column) (List.replicate spaces ' ' ++ rest) =
      flow margin (.lead (column + spaces)) rest := by
  induction spaces generalizing column with
  | zero => rfl
  | succ spaces ih =>
      rw [List.replicate_succ, List.cons_append, flow_blank rfl (by decide), ← Nat.add_assoc,
        Nat.add_right_comm]
      exact ih (column + 1)

theorem flow_tabs (before tabs : Nat) (rest : List Char) :
    flow margin (.lead (4 * before)) (List.replicate tabs '\t' ++ rest) =
      flow margin (.lead (4 * (before + tabs))) rest := by
  induction tabs generalizing before with
  | zero => rfl
  | succ tabs ih =>
      have onward : (4 * before / 4 + 1) * 4 = 4 * (before + 1) := by omega
      have place : (Place.lead (4 * before)).next '\t' = .lead (4 * (before + 1)) :=
        congrArg Place.lead onward
      rw [List.replicate_succ, List.cons_append, flow_blank rfl (by decide), place, ih,
        Nat.add_right_comm, Nat.add_assoc]

/-- The blanks of a tidy line are some tabs and then some spaces. -/
theorem IsTidyLine.exists_replicate (tidy : IsTidyLine text) (spaced : IsPlainlySpaced text) :
    ∃ tabs spaces, text =
        List.replicate tabs '\t' ++ (List.replicate spaces ' ' ++ skipGap text) ∧
      ((skipGap text).take 2 = ['\\', '\n'] → tabs = 0) := by
  have tabs : text.takeWhile (· == '\t') =
      List.replicate (text.takeWhile (· == '\t')).length '\t' :=
    List.eq_replicate_iff.mpr ⟨rfl, fun c member => by simpa using List.mem_takeWhile_imp member⟩
  have split := List.takeWhile_append_dropWhile (p := (· == '\t')) (l := text)
  have only : (text.dropWhile (· == '\t')).takeWhile isSpace =
      List.replicate ((text.dropWhile (· == '\t')).takeWhile isSpace).length ' ' := by
    refine List.eq_replicate_iff.mpr ⟨rfl, fun c member => ?_⟩
    have space : isSpace c = true := List.mem_takeWhile_imp member
    have inside : c ∈ text := (List.dropWhile_suffix _).subset ((List.takeWhile_prefix _).subset member)
    obtain ⟨blank, noFeed⟩ := isBlank_of_isSpace space
    rcases spaced c inside blank with rfl | rfl | rfl
    · rfl
    · exact absurd member tidy.tabsFirst
    · exact absurd rfl noFeed
  have isTab (c : Char) (member : c ∈ text.takeWhile (· == '\t')) : c = '\t' := by
    simpa using List.mem_takeWhile_imp member
  have allSpaces : ∀ c ∈ text.takeWhile (· == '\t'), isSpace c = true := by
    intro c member
    rw [isTab c member]
    rfl
  have left : (text.dropWhile (· == '\t')).dropWhile isSpace = skipGap text := by
    conv_rhs => rw [← split]
    exact (List.dropWhile_append_of_pos allSpaces).symm
  refine ⟨(text.takeWhile (· == '\t')).length,
    ((text.dropWhile (· == '\t')).takeWhile isSpace).length, ?_, fun escape => ?_⟩
  · rw [← tabs, ← only, ← left, List.takeWhile_append_dropWhile, split]
  · have noTab := tidy.carried escape
    rw [← split, List.takeWhile_append_of_pos allSpaces, List.mem_append, not_or] at noTab
    refine List.length_eq_zero_iff.mpr (List.eq_nil_iff_forall_not_mem.mpr fun c member => ?_)
    exact noTab.1 (isTab c member ▸ member)

theorem suffix_of_measure? (measured : measure? column carried text = some (found, count, rest)) :
    rest <:+ text := by
  fun_induction measure? column carried text with
  | case1 column carried text ih => exact (ih measured).trans (List.suffix_cons _ _)
  | case2 column carried text ih => exact (ih measured).trans (List.suffix_cons _ _)
  | case3 column carried text ih => exact (ih measured).trans (List.suffix_cons _ _)
  | case4 => cases measured
  | case5 column carried text filled ih =>
      exact (ih measured).trans ((List.suffix_cons _ _).trans (List.suffix_cons _ _))
  | case6 => cases measured
  | case7 column carried text =>
      cases measured
      exact List.suffix_rfl

/-- The column at which a logical line starts, which may have been carried on from another line. -/
def startOf (column : Column) (carried : Nat) : Column :=
  if carried = 0 then column else ⟨carried, carried⟩

/-- Where a line shows something, it is measured alike in what is written for it, and without a margin
the columns are the same but for the width of tabs. -/
theorem measure?_flow (tidy : IsTidy text) (line : Shows text → IsTidyLine text)
    (abreast : margin = 0 → carried = carried' ∧ (carried = 0 → column = ⟨0, 0⟩ ∧ base = ⟨0, 0⟩))
    (shows : Shows text) (measured : measure? column carried text = some (found, count, rest)) :
    (∃ c ∈ rest.head?, isBlank c = false) ∧ ∃ found' count',
      measure? base carried' (flow margin (.lead 0) text) =
          some (found', count', flow margin (.lead 0) rest) ∧
        (margin = 0 → startOf found' count' = (startOf found count).fourfold) := by
  induction size : text.length using Nat.strong_induction_on
    generalizing text column base carried carried' with
  | _ size ih =>
      obtain ⟨tabs, spaces, whole, bare⟩ := (line shows).exists_replicate tidy.spaced
      obtain ⟨c, head, noFeed⟩ := shows
      have shown : isBlank c = false := (head_skipGap tidy.spaced head).resolve_left noFeed
      obtain ⟨more, here⟩ := List.head?_eq_some_iff.mp head
      obtain ⟨onward, first, begins⟩ : ∃ onward,
          measure? onward carried (c :: more) = some (found, count, rest) ∧
            (margin = 0 → carried = 0 → onward = ⟨8 * tabs + spaces, tabs + spaces⟩) := by
        by_cases fresh : margin = 0 ∧ carried = 0
        · obtain ⟨rfl, -⟩ := (abreast fresh.1).2 fresh.2
          refine ⟨_, ?_, fun _ _ => rfl⟩
          rw [whole, here] at measured
          rw [← measured, show (⟨0, 0⟩ : Column) = ⟨8 * 0, 0⟩ from rfl, measure?_tabs,
            measure?_spaces, Nat.zero_add]
        · obtain ⟨onward, measures⟩ :=
            exists_measure?_gap (fun _ => @mem_gap text _) column carried
          refine ⟨onward, ?_, fun none empty => absurd ⟨none, empty⟩ fresh⟩
          rw [← here, ← measures, gap_append, measured]
      -- What is written for the line: its column in spaces, and what it shows.
      have written : flow margin (.lead 0) text =
          List.replicate (4 * tabs + spaces - margin) ' ' ++ flow margin (.lead 0) (c :: more) := by
        conv_lhs => rw [whole, here]
        rw [show (0 : Nat) = 4 * 0 from rfl, flow_tabs, flow_spaces, flow_lead shown, Nat.zero_add]
      have visible : isBlank (oneQuote c) = false := by rw [isBlank_oneQuote, shown]
      have opens : flow margin (.lead 0) (c :: more) =
          oneQuote c :: flow margin (.inside false (isPunctuation c)) more := by
        rw [flow_shown shown]
        simp [Place.spaces]
      rw [written, measure?_spaces]
      by_cases escape : c = '\\'
      · subst escape
        obtain ⟨line, rfl, filled, goesOn⟩ := exists_of_measure?_escape first
        have suffix : '\\' :: '\n' :: line <:+ text := here ▸ skipGap_suffix text
        have shows := tidy.carries line suffix filled
        have behind : line <:+ text :=
          ((List.suffix_cons '\n' line).trans (List.suffix_cons '\\' _)).trans suffix
        have next := fun shows => tidy.lines line ((List.suffix_cons '\\' _).trans suffix) shows
        have shorter : line.length < text.length := by
          have least := suffix.length_le
          rw [List.length_cons, List.length_cons] at least
          omega
        obtain rfl := bare (by rw [here]; rfl)
        have written (base : Column) (carried' : Nat) :
            measure? base carried' (flow margin (.lead 0) ('\\' :: '\n' :: line)) =
              measure? base (if carried' = 0 then base.wide else carried')
                (flow margin (.lead 0) line) := by
          obtain ⟨d, others, whole⟩ :=
            List.exists_cons_of_ne_nil (flow_ne_nil_of_shows margin (tidy.of_suffix behind).spaced shows)
          rw [opens, flow_feed_inside, whole]
          rfl
        rw [written]
        refine ih _ (size ▸ shorter) (tidy.of_suffix behind) next (fun none => ?_) shows goesOn rfl
        obtain ⟨rfl, level⟩ := abreast none
        by_cases fresh : carried = 0
        · obtain ⟨-, rfl⟩ := level fresh
          obtain rfl := begins none fresh
          rw [if_pos fresh, if_pos fresh, none]
          refine ⟨by simp, fun empty => ?_⟩
          obtain rfl : spaces = 0 := by simpa using empty
          exact ⟨rfl, rfl⟩
        · rw [if_neg fresh, if_neg fresh]
          exact ⟨rfl, fun empty => absurd empty fresh⟩
      · rw [measure?_shown shown escape] at first
        obtain ⟨rfl, rfl, rfl⟩ : onward = found ∧ carried = count ∧ c :: more = rest := by
          simpa using first
        have plain : oneQuote c ≠ '\\' := by
          rw [oneQuote]
          split
          · decide
          · exact escape
        refine ⟨⟨c, rfl, shown⟩, ⟨base.wide + (4 * tabs + spaces - margin),
          base.narrow + (4 * tabs + spaces - margin)⟩, carried', ?_, fun none => ?_⟩
        · rw [opens, measure?_shown visible plain]
        · obtain ⟨rfl, level⟩ := abreast none
          by_cases fresh : carried = 0
          · obtain ⟨-, rfl⟩ := level fresh
            rw [startOf, startOf, if_pos fresh, if_pos fresh, begins none fresh, Column.fourfold_tabs,
              none]
            simp
          · rw [startOf, startOf, if_neg fresh, if_neg fresh, Column.fourfold_spaces]

/-- Where a line shows nothing, nothing is written for it. -/
theorem measure?_of_not_shows (bare : ¬ Shows text)
    (measured : measure? column carried text = some (found, count, rest)) :
    rest = skipGap text ∧ flow margin (.lead 0) text = flow margin (.lead 0) rest := by
  obtain ⟨onward, measures⟩ := exists_measure?_gap (fun _ => @mem_gap text _) column carried
  obtain ⟨last, written⟩ := exists_flow_lead margin 0 text
  have here := measures (skipGap text)
  rw [gap_append, measured] at here
  rw [written]
  cases left : skipGap text with
  | nil =>
      rw [left] at here
      cases here
      exact ⟨rfl, rfl⟩
  | cons c more =>
      obtain rfl : c = '\n' := by
        by_contra other
        exact bare ⟨c, by rw [left]; rfl, other⟩
      rw [left] at here
      cases here
      exact ⟨rfl, rfl⟩

/-- A logical line whose indentation has begun does not start at the outermost level. -/
theorem wide_of_measure? (spaced : IsPlainlySpaced text) (begun : 0 < column.wide)
    (measured : measure? column carried text = some (found, count, rest)) :
    0 < (startOf found count).wide := by
  fun_induction measure? column carried text with
  | case1 column carried text ih => exact ih spaced.tail (Nat.succ_pos _) measured
  | case2 column carried text ih =>
      exact ih spaced.tail (Nat.mul_pos (Nat.succ_pos _) (by decide)) measured
  | case3 column carried text ih =>
      have known := spaced '\x0c' List.mem_cons_self rfl
      exact absurd known (by decide)
  | case4 => cases measured
  | case5 column carried text filled ih => exact ih spaced.tail.tail begun measured
  | case6 => cases measured
  | case7 column carried text =>
      cases measured
      rw [startOf]
      split
      · exact begun
      · next carries => exact Nat.pos_of_ne_zero carries

end Measuring

end Answer
end AnswerKey
