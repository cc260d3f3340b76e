import Mathlib.Data.List.Chain
import AnswerKey.Proofs.Text.Visible

namespace AnswerKey
namespace Text

/-!
Texts as lines.

Lines without line feeds can be told from the text they make up (`lines_unlines`), and what is done
to a text character by character or column by column is done to each of its lines
(`lines_map`, `lines_expandTabs`).  A text is trimmed if it neither starts nor ends with a blank, and
no line of it ends with a blank if no line feed stands behind one.
-/

section Splitting

variable {separator : Char}

theorem splitAt_cons_self (rest : List Char) :
    splitAt separator (separator :: rest) = [] :: splitAt separator rest := by
  rw [splitAt]
  split
  · next noPieces => exact absurd noPieces (splitAt_ne_nil separator rest)
  · next piece pieces same => rw [if_pos rfl, same]

theorem splitAt_cons_of_ne {c : Char} (other : c ≠ separator) (rest : List Char) :
    splitAt separator (c :: rest) = (splitAt separator rest).modifyHead (c :: ·) := by
  rw [splitAt]
  split
  · next noPieces => exact absurd noPieces (splitAt_ne_nil separator rest)
  · next piece pieces same => rw [if_neg other, same, List.modifyHead_cons]

/-- The first piece goes up to the first separator. -/
theorem splitAt_append_separator {piece : List Char} (absent : separator ∉ piece)
    (rest : List Char) :
    splitAt separator (piece ++ separator :: rest) = piece :: splitAt separator rest := by
  induction piece with
  | nil => exact splitAt_cons_self rest
  | cons c piece ih =>
      rw [List.mem_cons, not_or] at absent
      rw [List.cons_append, splitAt_cons_of_ne (Ne.symm absent.1), ih absent.2, List.modifyHead_cons]

/-- Pieces without separators can be told from the text they are joined to. -/
theorem splitAt_joinWith {pieces : List (List Char)} (filled : pieces ≠ [])
    (absent : ∀ piece ∈ pieces, separator ∉ piece) :
    splitAt separator (joinWith [separator] pieces) = pieces := by
  induction pieces with
  | nil => exact absurd rfl filled
  | cons piece rest ih =>
      rw [List.forall_mem_cons] at absent
      cases rest with
      | nil => exact splitAt_of_not_mem absent.1
      | cons second more =>
          have joined : joinWith [separator] (piece :: second :: more) =
              piece ++ separator :: joinWith [separator] (second :: more) := by
            simp [joinWith]
          rw [joined, splitAt_append_separator absent.1, ih (List.cons_ne_nil _ _) absent.2]

/-- A replacement that neither makes nor removes separators replaces within the pieces. -/
theorem splitAt_map {f : Char → Char} (keeps : ∀ c, f c = separator ↔ c = separator)
    (text : List Char) :
    splitAt separator (text.map f) = (splitAt separator text).map (List.map f) := by
  induction text with
  | nil => rfl
  | cons c rest ih =>
      rw [List.map_cons]
      by_cases same : c = separator
      · subst same
        rw [(keeps c).mpr rfl, splitAt_cons_self, splitAt_cons_self, ih]
        rfl
      · rw [splitAt_cons_of_ne (mt (keeps c).mp same), splitAt_cons_of_ne same, ih]
        cases splitAt separator rest <;> rfl

theorem mem_of_mem_splitAt {text piece : List Char} {c : Char}
    (member : piece ∈ splitAt separator text) (inside : c ∈ piece) : c ∈ text := by
  induction text generalizing piece with
  | nil =>
      rw [List.mem_singleton.mp member] at inside
      cases inside
  | cons d rest ih =>
      by_cases same : d = separator
      · subst same
        rw [splitAt_cons_self, List.mem_cons] at member
        rcases member with rfl | later
        · cases inside
        · exact List.mem_cons_of_mem _ (ih later inside)
      · rw [splitAt_cons_of_ne same] at member
        cases whole : splitAt separator rest with
        | nil => exact absurd whole (splitAt_ne_nil separator rest)
        | cons first others =>
            rw [whole] at member ih
            rw [List.modifyHead_cons, List.mem_cons] at member
            rcases member with rfl | later
            · rcases List.mem_cons.mp inside with rfl | behind
              · exact List.mem_cons_self
              · exact List.mem_cons_of_mem _ (ih List.mem_cons_self behind)
            · exact List.mem_cons_of_mem _ (ih (List.mem_cons_of_mem _ later) inside)

theorem mem_or_eq_of_mem_joinWith {pieces : List (List Char)} {c : Char}
    (inside : c ∈ joinWith [separator] pieces) : c = separator ∨ ∃ piece ∈ pieces, c ∈ piece := by
  induction pieces with
  | nil => cases inside
  | cons piece rest ih =>
      cases rest with
      | nil => exact .inr ⟨piece, List.mem_cons_self, inside⟩
      | cons second more =>
          have whole : c ∈ piece ++ separator :: joinWith [separator] (second :: more) := by
            simpa [joinWith] using inside
          rcases List.mem_append.mp whole with here | behind
          · exact .inr ⟨piece, List.mem_cons_self, here⟩
          · rcases List.mem_cons.mp behind with same | later
            · exact .inl same
            · refine (ih later).imp_right ?_
              rintro ⟨other, member, held⟩
              exact ⟨other, List.mem_cons_of_mem _ member, held⟩

end Splitting

/-! ### Lines -/

@[simp] theorem lines_nil : lines [] = [[]] := rfl

theorem lines_cons_feed (rest : List Char) : lines ('\n' :: rest) = [] :: lines rest :=
  splitAt_cons_self rest

theorem lines_cons {c : Char} (other : c ≠ '\n') (rest : List Char) :
    lines (c :: rest) = (lines rest).modifyHead (c :: ·) :=
  splitAt_cons_of_ne other rest

theorem exists_lines_eq (text : List Char) : ∃ first others, lines text = first :: others :=
  List.exists_cons_of_ne_nil (splitAt_ne_nil '\n' text)

theorem lines_unlines {pieces : List (List Char)} (filled : pieces ≠ [])
    (absent : ∀ piece ∈ pieces, '\n' ∉ piece) : lines (unlines pieces) = pieces :=
  splitAt_joinWith filled absent

theorem lines_map {f : Char → Char} (keeps : ∀ c, f c = '\n' ↔ c = '\n') (text : List Char) :
    lines (text.map f) = (lines text).map (List.map f) :=
  splitAt_map keeps text

theorem mem_of_mem_lines {text line : List Char} {c : Char} (member : line ∈ lines text)
    (inside : c ∈ line) : c ∈ text :=
  mem_of_mem_splitAt member inside

theorem mem_unlines {pieces : List (List Char)} {c : Char} (inside : c ∈ unlines pieces) :
    c = '\n' ∨ ∃ piece ∈ pieces, c ∈ piece :=
  mem_or_eq_of_mem_joinWith inside

theorem lines_append_feed (first rest : List Char) :
    lines (first ++ '\n' :: rest) = lines first ++ lines rest := by
  induction first with
  | nil => exact splitAt_cons_self rest
  | cons c first ih =>
      rw [List.cons_append]
      by_cases same : c = '\n'
      · rw [same, lines_cons_feed, lines_cons_feed, ih, List.cons_append]
      · obtain ⟨line, others, whole⟩ := exists_lines_eq first
        rw [lines_cons same, lines_cons same, ih, whole]
        rfl

/-- Tabs are expanded line by line; only the first line may start behind column zero. -/
theorem lines_expandTabsFrom (width : Nat) {column : Nat} {text first : List Char}
    {others : List (List Char)} (whole : lines text = first :: others) :
    lines (expandTabsFrom width column text) =
      expandTabsFrom width column first :: others.map (expandTabs width) := by
  induction text generalizing column first others with
  | nil =>
      cases whole
      rfl
  | cons c rest ih =>
      obtain ⟨next, more, below⟩ := exists_lines_eq rest
      by_cases same : c = '\n'
      · subst same
        rw [lines_cons_feed, below] at whole
        cases whole
        have step : expandTabsFrom width column ('\n' :: rest) = '\n' :: expandTabsFrom width 0 rest := by
          rw [expandTabsFrom, if_neg (by decide), if_pos (.inl rfl)]
        rw [step, lines_cons_feed, ih below]
        rfl
      · rw [lines_cons same, below] at whole
        cases whole
        rw [expandTabsFrom, expandTabsFrom]
        split
        · have gap (count onward : Nat) : lines (List.replicate count ' ' ++
              expandTabsFrom width onward rest) =
              (List.replicate count ' ' ++ expandTabsFrom width onward next) ::
                others.map (expandTabs width) := by
            induction count with
            | zero => exact ih below
            | succ count step =>
                rw [List.replicate_succ, List.cons_append, lines_cons (by decide), step]
                rfl
          exact gap _ _
        · split
          all_goals
            rw [lines_cons same, ih below]
            rfl

theorem lines_expandTabs (width : Nat) (text : List Char) :
    lines (expandTabs width text) = (lines text).map (expandTabs width) := by
  obtain ⟨first, others, whole⟩ := exists_lines_eq text
  rw [whole, expandTabs, lines_expandTabsFrom width whole]
  rfl

theorem mem_expandTabsFrom {width column : Nat} {text : List Char} {c : Char}
    (inside : c ∈ expandTabsFrom width column text) : c ≠ '\t' ∧ (c = ' ' ∨ c ∈ text) := by
  induction text generalizing column with
  | nil => cases inside
  | cons d rest ih =>
      have later {column : Nat} (inside : c ∈ expandTabsFrom width column rest) :
          c ≠ '\t' ∧ (c = ' ' ∨ c ∈ d :: rest) :=
        ⟨(ih inside).1, (ih inside).2.imp_right (List.mem_cons_of_mem d)⟩
      rw [expandTabsFrom] at inside
      split at inside
      · rcases List.mem_append.mp inside with gap | behind
        · rw [List.eq_of_mem_replicate gap]
          exact ⟨by decide, .inl rfl⟩
        · exact later behind
      · next noTab =>
          split at inside
          all_goals
            rcases List.mem_cons.mp inside with rfl | behind
            · exact ⟨noTab, .inr List.mem_cons_self⟩
            · exact later behind

/-- A replacement that leaves spaces, tabs and line ends alone may be made before or after. -/
theorem map_expandTabsFrom {f : Char → Char} (space : f ' ' = ' ')
    (keeps : ∀ c, (f c = '\t' ↔ c = '\t') ∧ (f c = '\n' ↔ c = '\n') ∧ (f c = '\r' ↔ c = '\r'))
    (width column : Nat) (text : List Char) :
    (expandTabsFrom width column text).map f = expandTabsFrom width column (text.map f) := by
  induction text generalizing column with
  | nil => rfl
  | cons c rest ih =>
      obtain ⟨tab, feed, carriage⟩ := keeps c
      rw [List.map_cons, expandTabsFrom, expandTabsFrom]
      by_cases isTab : c = '\t'
      · rw [if_pos isTab, if_pos (tab.mpr isTab)]
        simp [space, ih]
      · rw [if_neg isTab, if_neg (mt tab.mp isTab)]
        by_cases isEnd : c = '\n' ∨ c = '\r'
        · rw [if_pos isEnd, if_pos (isEnd.imp feed.mpr carriage.mpr), List.map_cons, ih]
        · rw [if_neg isEnd, if_neg (mt (Or.imp feed.mp carriage.mp) isEnd), List.map_cons, ih]

/-- Behind a text tabs are expanded from the column that it leads to. -/
theorem exists_expandTabsFrom_append (width column : Nat) (first : List Char) :
    ∃ onward, ∀ second, expandTabsFrom width column (first ++ second) =
      expandTabsFrom width column first ++ expandTabsFrom width onward second := by
  induction first generalizing column with
  | nil => exact ⟨column, fun _ => rfl⟩
  | cons c first ih =>
      by_cases tab : c = '\t'
      · obtain ⟨onward, whole⟩ := ih (column + (width - column % width))
        refine ⟨onward, fun second => ?_⟩
        rw [List.cons_append, expandTabsFrom, if_pos tab, expandTabsFrom, if_pos tab]
        simp only [whole, List.append_assoc]
      · by_cases feed : c = '\n' ∨ c = '\r'
        · obtain ⟨onward, whole⟩ := ih 0
          refine ⟨onward, fun second => ?_⟩
          rw [List.cons_append, expandTabsFrom, if_neg tab, if_pos feed, expandTabsFrom, if_neg tab,
            if_pos feed, whole, List.cons_append]
        · obtain ⟨onward, whole⟩ := ih (column + 1)
          refine ⟨onward, fun second => ?_⟩
          rw [List.cons_append, expandTabsFrom, if_neg tab, if_neg feed, expandTabsFrom, if_neg tab,
            if_neg feed, whole, List.cons_append]

/-- Where there are no tabs, none are expanded. -/
theorem expandTabsFrom_of_not_mem (width column : Nat) {text : List Char} (noTab : '\t' ∉ text) :
    expandTabsFrom width column text = text := by
  induction text generalizing column with
  | nil => rfl
  | cons c rest ih =>
      rw [List.mem_cons, not_or] at noTab
      rw [expandTabsFrom, if_neg (Ne.symm noTab.1)]
      split
      all_goals rw [ih _ noTab.2]

/-! ### Line ends -/

theorem mem_unifyLineEnds {text : List Char} {c : Char} (inside : c ∈ unifyLineEnds text) :
    c ≠ '\r' ∧ (c = '\n' ∨ c ∈ text) := by
  induction text using unifyLineEnds.induct with
  | case1 => cases inside
  | case2 rest ih =>
      rw [unifyLineEnds, List.mem_cons] at inside
      rcases inside with rfl | behind
      · exact ⟨by decide, .inl rfl⟩
      · exact ⟨(ih behind).1, (ih behind).2.imp_right fun member => by simp [member]⟩
  | case3 d rest alone ih =>
      rw [unifyLineEnds, List.mem_cons] at inside
      · rcases inside with rfl | behind
        · split
          · exact ⟨by decide, .inl rfl⟩
          · next other => exact ⟨other, .inr List.mem_cons_self⟩
        · exact ⟨(ih behind).1, (ih behind).2.imp_right (List.mem_cons_of_mem d)⟩
      · exact alone

theorem mem_unifyLineEnds_of_mem {text : List Char} {c : Char} (inside : c ∈ text) :
    c = '\r' ∨ c ∈ unifyLineEnds text := by
  induction text using unifyLineEnds.induct with
  | case1 => cases inside
  | case2 rest ih =>
      rw [unifyLineEnds]
      rcases List.mem_cons.mp inside with rfl | later
      · exact .inl rfl
      · rcases List.mem_cons.mp later with rfl | behind
        · exact .inr List.mem_cons_self
        · exact (ih behind).imp_right (List.mem_cons_of_mem _)
  | case3 d rest alone ih =>
      rw [unifyLineEnds]
      · rcases List.mem_cons.mp inside with rfl | behind
        · by_cases same : c = '\r'
          · exact .inl same
          · rw [if_neg same]
            exact .inr List.mem_cons_self
        · exact (ih behind).imp_right (List.mem_cons_of_mem _)
      · exact alone

theorem unifyLineEnds_cons {c : Char} {rest : List Char}
    (alone : c = '\r' → rest.head? ≠ some '\n') :
    unifyLineEnds (c :: rest) = (if c = '\r' then '\n' else c) :: unifyLineEnds rest := by
  rw [unifyLineEnds]
  rintro more isReturn rfl
  exact alone isReturn rfl

/-- A line feed with a carriage return put in front of it ends the line as it did, or ends an empty
line as well. -/
theorem unifyLineEnds_returnFeed (first rest : List Char) :
    unifyLineEnds (first ++ '\r' :: '\n' :: rest) = unifyLineEnds (first ++ '\n' :: rest) ∨
      ∃ above below, unifyLineEnds (first ++ '\n' :: rest) = above ++ '\n' :: below ∧
        unifyLineEnds (first ++ '\r' :: '\n' :: rest) = above ++ '\n' :: '\n' :: below := by
  have further {c : Char} {first later : List Char}
      (known : unifyLineEnds later = unifyLineEnds first ∨
        ∃ above below, unifyLineEnds first = above ++ '\n' :: below ∧
          unifyLineEnds later = above ++ '\n' :: '\n' :: below) :
      c :: unifyLineEnds later = c :: unifyLineEnds first ∨
        ∃ above below, c :: unifyLineEnds first = above ++ '\n' :: below ∧
          c :: unifyLineEnds later = above ++ '\n' :: '\n' :: below := by
    rcases known with same | ⟨above, below, here, there⟩
    · exact .inl (by rw [same])
    · exact .inr ⟨c :: above, below, by rw [here, List.cons_append], by rw [there, List.cons_append]⟩
  have alone : unifyLineEnds ('\n' :: rest) = '\n' :: unifyLineEnds rest :=
    unifyLineEnds_cons (absurd · (by decide))
  induction first using unifyLineEnds.induct with
  | case1 => exact .inl alone.symm
  | case2 first ih => exact further ih
  | case3 c first notBoth ih =>
      rw [List.cons_append, List.cons_append]
      cases first with
      | cons d first =>
          have other (more : List Char) : c = '\r' → (d :: first ++ more).head? ≠ some '\n' :=
            fun isReturn same => notBoth first isReturn (by rw [Option.some.inj same])
          rw [unifyLineEnds_cons (other _), unifyLineEnds_cons (other _)]
          exact further ih
      | nil =>
          by_cases isReturn : c = '\r'
          · refine .inr ⟨[], unifyLineEnds rest, ?_, ?_⟩
            · rw [isReturn, List.nil_append]
              rfl
            · rw [unifyLineEnds_cons (fun _ => by simp), if_pos isReturn]
              rfl
          · left
            rw [unifyLineEnds_cons (fun same => absurd same isReturn),
              unifyLineEnds_cons (fun same => absurd same isReturn), List.nil_append, List.nil_append,
              alone]
            rfl

/-- A text behind another one that has no carriage returns. -/
theorem unifyLineEnds_append {text : List Char} (noReturn : '\r' ∉ text) (rest : List Char) :
    unifyLineEnds (text ++ rest) = text ++ unifyLineEnds rest := by
  induction text with
  | nil => rfl
  | cons c text ih =>
      rw [List.mem_cons, not_or] at noReturn
      have other : c ≠ '\r' := Ne.symm noReturn.1
      rw [List.cons_append, unifyLineEnds_cons (absurd · other), if_neg other, ih noReturn.2]
      rfl

theorem unifyLineEnds_of_noReturn {text : List Char} (noReturn : '\r' ∉ text) :
    unifyLineEnds text = text := by
  simpa [unifyLineEnds] using unifyLineEnds_append noReturn []

/-- A text in front of a character that ends no line. -/
theorem unifyLineEnds_concat {c : Char} (noFeed : c ≠ '\n') (noReturn : c ≠ '\r')
    (text : List Char) : unifyLineEnds (text ++ [c]) = unifyLineEnds text ++ [c] := by
  induction text using unifyLineEnds.induct with
  | case1 => exact unifyLineEnds_of_noReturn (by simpa using noReturn.symm)
  | case2 rest ih => simp only [List.cons_append, unifyLineEnds, ih]
  | case3 d rest notBoth ih =>
      have alone : d = '\r' → (rest ++ [c]).head? ≠ some '\n' := by
        intro isReturn head
        cases rest with
        | nil => exact noFeed (Option.some.inj head)
        | cons e rest => exact notBoth rest isReturn (by rw [Option.some.inj head])
      rw [List.cons_append, unifyLineEnds_cons alone, ih, unifyLineEnds_cons, List.cons_append]
      intro isReturn head
      obtain ⟨others, rfl⟩ := List.head?_eq_some_iff.mp head
      exact notBoth others isReturn rfl

/-! ### Trimming -/

section Trimming

variable (p : Char → Bool) {text : List Char} {c : Char}

theorem isPrefix_trimRightWhile (text : List Char) : trimRightWhile p text <+: text := by
  rw [← List.reverse_suffix, trimRightWhile, List.reverse_reverse]
  exact List.dropWhile_suffix p

theorem isInfix_trimWhile (text : List Char) : trimWhile p text <:+: text :=
  (isPrefix_trimRightWhile p _).isInfix.trans (List.dropWhile_suffix p).isInfix

theorem not_getLast?_trimRightWhile (last : c ∈ (trimRightWhile p text).getLast?) : p c = false := by
  rw [trimRightWhile, List.getLast?_reverse] at last
  have stopped := List.head?_dropWhile_not p text.reverse
  rw [Option.mem_def.mp last] at stopped
  exact stopped

theorem not_head?_trimWhile (first : c ∈ (trimWhile p text).head?) : p c = false := by
  obtain ⟨behind, whole⟩ := isPrefix_trimRightWhile p (trimLeftWhile p text)
  have head : c ∈ (text.dropWhile p).head? := by
    rw [trimWhile] at first
    rw [trimLeftWhile] at whole first
    rw [← whole, List.head?_append, Option.mem_def.mp first]
    rfl
  have stopped := List.head?_dropWhile_not p text
  rw [Option.mem_def.mp head] at stopped
  exact stopped

theorem trimRightWhile_eq_self {p : Char → Bool} (ends : ∀ c ∈ text.getLast?, p c = false) :
    trimRightWhile p text = text := by
  rw [trimRightWhile]
  rw [← List.head?_reverse] at ends
  cases whole : text.reverse with
  | nil => simpa using whole.symm
  | cons c rest =>
      rw [whole] at ends
      rw [List.dropWhile_cons_of_neg (by simp [ends c rfl]), ← whole, List.reverse_reverse]

theorem trimWhile_eq_self {p : Char → Bool} (starts : ∀ c ∈ text.head?, p c = false)
    (ends : ∀ c ∈ text.getLast?, p c = false) : trimWhile p text = text := by
  have left : trimLeftWhile p text = text := by
    cases text with
    | nil => rfl
    | cons c rest => exact List.dropWhile_cons_of_neg (by simp [starts c rfl])
  rw [trimWhile, left, trimRightWhile_eq_self ends]

end Trimming

/-- A text that neither starts nor ends with a blank. -/
structure IsTrimmed (text : List Char) : Prop where
  starts : ∀ c ∈ text.head?, isBlank c = false
  ends : ∀ c ∈ text.getLast?, isBlank c = false

theorem isTrimmed_trim (text : List Char) : IsTrimmed (trim text) :=
  ⟨fun _ => not_head?_trimWhile isBlank, fun _ => not_getLast?_trimRightWhile isBlank⟩

theorem IsTrimmed.trim_eq {text : List Char} (trimmed : IsTrimmed text) : trim text = text :=
  trimWhile_eq_self trimmed.starts trimmed.ends

theorem isBlank_getLast?_trimRight {text : List Char} :
    ∀ c ∈ (trimRight text).getLast?, isBlank c = false :=
  fun _ => not_getLast?_trimRightWhile isBlank

/-! ### Lines that end with no blank -/

/-- A text no line of which ends with a blank, the last one aside. -/
def EndsLinesTrimmed (text : List Char) : Prop :=
  text.IsChain fun c d => d = '\n' → c = '\n' ∨ isBlank c = false

theorem trimRight_of_mem_lines {text : List Char} (trimmed : EndsLinesTrimmed text)
    (ends : ∀ c ∈ text.getLast?, isBlank c = false) :
    ∀ line ∈ lines text, trimRight line = line := by
  suffices ∀ line ∈ lines text, ∀ c ∈ line.getLast?, isBlank c = false from
    fun line member => trimRightWhile_eq_self (this line member)
  induction text with
  | nil => simp
  | cons c rest ih =>
      rw [EndsLinesTrimmed, List.isChain_cons] at trimmed
      have later := ih trimmed.2 fun d last => ends d (by
        rw [List.getLast?_cons, Option.mem_def.mp last]
        rfl)
      by_cases same : c = '\n'
      · rw [same, lines_cons_feed, List.forall_mem_cons]
        exact ⟨nofun, later⟩
      · obtain ⟨first, others, whole⟩ := exists_lines_eq rest
        rw [whole, List.forall_mem_cons] at later
        rw [lines_cons same, whole, List.modifyHead_cons, List.forall_mem_cons]
        refine ⟨fun d last => ?_, later.2⟩
        cases first with
        | cons e first =>
            rw [List.getLast?_cons_cons] at last
            exact later.1 d last
        | nil =>
            cases last
            -- The line ends here: with the text, or in front of a line feed.
            cases rest with
            | nil => exact ends c rfl
            | cons e rest =>
                by_cases feed : e = '\n'
                · exact (trimmed.1 e rfl feed).resolve_left same
                · obtain ⟨_, _, inner⟩ := exists_lines_eq rest
                  rw [lines_cons feed, inner] at whole
                  cases whole

theorem endsLinesTrimmed_unlines {pieces : List (List Char)}
    (noFeed : ∀ piece ∈ pieces, '\n' ∉ piece)
    (ends : ∀ piece ∈ pieces, ∀ c ∈ piece.getLast?, isBlank c = false) :
    EndsLinesTrimmed (unlines pieces) := by
  have single {piece : List Char} (noFeed : '\n' ∉ piece) : EndsLinesTrimmed piece := by
    induction piece with
    | nil => exact .nil
    | cons c piece ih =>
        rw [List.mem_cons, not_or] at noFeed
        rw [EndsLinesTrimmed, List.isChain_cons]
        refine ⟨fun d head same => ?_, ih noFeed.2⟩
        exact absurd (same ▸ List.mem_of_mem_head? head) noFeed.2
  induction pieces with
  | nil => exact .nil
  | cons piece rest ih =>
      rw [List.forall_mem_cons] at noFeed ends
      cases rest with
      | nil => exact single noFeed.1
      | cons second more =>
          have whole : unlines (piece :: second :: more) = piece ++ '\n' :: unlines (second :: more) := by
            simp [unlines, joinWith]
          rw [whole, EndsLinesTrimmed, List.isChain_append, List.isChain_cons]
          exact ⟨single noFeed.1, ⟨fun _ _ _ => .inl rfl, ih noFeed.2 ends.2⟩,
            fun c last _ _ _ => .inr (ends.1 c last)⟩

end Text
end AnswerKey
