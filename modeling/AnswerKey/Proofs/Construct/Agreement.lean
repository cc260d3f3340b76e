import Mathlib.Data.List.Forall2
import AnswerKey.Proofs.Construct.Account

namespace AnswerKey
namespace Snippet
namespace Lexeme

/-!
Outlines and lexemes.

An outline is written without regard to lines, brackets or numbers, and yet it finds the comments
and strings that the reader of lexemes finds: a text that is read without a stray character has the
outline that its parts say (`outline_eq_shown`).  Two things are excepted.  A string that stands
right behind a number may lose its mark, and a string in single quotes may not go on after a line
end that no backslash escapes.
-/

open Text Construct

/-! ### Lines -/

/-- The lines of a text: no line is empty, each has its line end as its last character and no
other, and only the last line may lack it. -/
def AreLines : List (List Char) → Prop
  | [] => True
  | line :: rest => line ≠ [] ∧ IsSingle line ∧ (IsEnded line ∨ rest = []) ∧ AreLines rest

theorem areLines_cutLines {current : List Char} (text : List Char) (unended : '\n' ∉ current) :
    AreLines (cutLines current text) ∧
      (cutLines current text).flatten = current.reverse ++ text := by
  induction text generalizing current with
  | nil =>
      cases current with
      | nil => exact ⟨trivial, rfl⟩
      | cons c current =>
          have single : IsSingle (c :: current).reverse := fun member =>
            unended (List.mem_reverse.mp (List.dropLast_subset _ member))
          exact ⟨⟨by simp, single, .inr rfl, trivial⟩, by simp [cutLines]⟩
  | cons c text ih =>
      rw [cutLines]
      split
      · next last =>
          subst last
          rcases ih List.not_mem_nil with ⟨areLines, whole⟩
          have single : IsSingle ('\n' :: current).reverse := by
            rw [IsSingle, List.reverse_cons, List.dropLast_concat, List.mem_reverse]
            exact unended
          have ended : IsEnded ('\n' :: current).reverse := by
            rw [List.reverse_cons]
            exact .inr List.getLast?_concat
          exact ⟨⟨by simp, single, .inl ended, areLines⟩, by simp [whole]⟩
      · next other =>
          have unendedHere : '\n' ∉ c :: current := by
            rw [List.mem_cons, not_or]
            exact ⟨fun same => other same.symm, unended⟩
          rcases ih unendedHere with ⟨areLines, whole⟩
          exact ⟨areLines, by simp [whole]⟩

/-- The indentation of a line consists of blanks. -/
theorem indentation_spec (column : Nat) (line : List Char) :
    ∃ gap, line = gap ++ (indentation column line).2 ∧ ∀ c ∈ gap, isSpace c = true := by
  fun_induction indentation column line with
  | case4 column text => exact ⟨[], rfl, List.forall_mem_nil _⟩
  | _ =>
      rename_i rest ih
      rcases ih with ⟨gap, whole, spaces⟩
      refine ⟨_ :: gap, congrArg (_ :: ·) whole, ?_⟩
      rw [List.forall_mem_cons]
      exact ⟨rfl, spaces⟩

/-- A line that holds no more than a comment, behind its indentation. -/
theorem accounts_partsBlank {c : Char} {rest more : List Char} (isLine : IsLine (c :: rest) more)
    (blank : c = '#' ∨ c = '\n') : Accounts (c :: rest) more (partsBlank (c :: rest)) [] := by
  have ending {text : List Char} (single : IsSingle text) :
      ∀ d ∈ text.dropWhile (fun c => decide (c ≠ '\n')), isInert d = true := by
    intro d member
    cases left : text.dropWhile (fun c => decide (c ≠ '\n')) with
    | nil =>
        rw [left] at member
        cases member
    | cons last tail =>
        have whole := List.takeWhile_append_dropWhile (p := fun c => decide (c ≠ '\n')) (l := text)
        have stopped := List.head?_dropWhile_not (fun c => decide (c ≠ '\n')) text
        rw [left] at whole stopped member
        obtain rfl : last = '\n' := not_not.mp (of_decide_eq_false stopped)
        rw [← whole] at single
        have only := single.of_append
        cases tail with
        | nil =>
            rw [List.mem_singleton.mp member]
            decide
        | cons e tail => exact (only List.mem_cons_self).elim
  have gapAccount {text : List Char} (inert : ∀ d ∈ text, isInert d = true) :
      Accounts text more (gapPart text) [] := by
    simpa using Accounts.gap inert (.nil [] more)
  rcases blank with rfl | rfl
  · have account := Accounts.cons (steps_commentHere isLine)
      (gapAccount (ending isLine.single.tail))
    rw [Part.text, List.cons_append, List.takeWhile_append_dropWhile] at account
    exact account
  · exact gapAccount (ending isLine.single)

section Line

variable {state next : State} {line more : List Char} {parts : List Part}

theorem tells_partsTail (isLine : IsLine line more)
    (plain : ∀ part ∈ (partsTail state line).1, part.IsPlain) :
    Tells line more (partsTail state line).1 (partsTail state line).2 :=
  tells_partsRest (State.isCalm_of_statement rfl) (Nat.lt_succ_self _) isLine plain

/-- A line with which a statement may begin. -/
theorem tells_outset (mode : state.mode = .statement) (flat : state.depth = 0)
    (isLine : IsLine line more) (read : partsLine state line = .more parts next)
    (plain : ∀ part ∈ parts, part.IsPlain) : Tells line more parts next := by
  have calm := State.isCalm_of_statement mode
  rcases indentation_spec 0 line with ⟨gap, whole, spaces⟩
  have inert : ∀ c ∈ gap, isInert c = true := fun c member => isInert_of_isSpace (spaces c member)
  simp only [partsLine, mode, flat, if_true] at read
  generalize indentation 0 line = indented at read whole
  rcases indented with ⟨column, _ | ⟨c, rest⟩⟩
  · cases read
  · obtain rfl : line = gap ++ c :: rest := whole
    have isLineHere : IsLine (c :: rest) more := isLine.of_append
    simp only [consumed_append] at read
    split at read
    · next blank =>
        cases read
        have others : c = '#' ∨ c = '\n' := by
          rcases blank with comment | carriage | last
          · exact .inl comment
          · exact (isLineHere.noReturn (carriage ▸ List.mem_cons_self)).elim
          · exact .inr last
        have account := accounts_partsBlank isLineHere others
        rw [← calm.pending] at account
        exact .gap inert ⟨account, fun _ => calm.isOpened⟩
    · split at read
      · cases read
      · next marks indents moved =>
          cases read
          have tells := tells_partsTail isLineHere
            fun part member => plain part (List.mem_append_right _ member)
          rw [List.append_assoc]
          exact .gap inert (tells.marks marks)

/-- A line on which a string of several lines ends. -/
theorem tells_closing {quote : Char} {triple : Bool} {seen body rest : List Char}
    (opened : Opened quote triple seen) (closed : closing? quote triple line = some (body, rest))
    (isLine : IsLine line more)
    (plain : ∀ part ∈ .lexeme .string (seen ++ body) :: (partsTail state rest).1, part.IsPlain) :
    Tells (seen ++ line) more (.lexeme .string (seen ++ body) :: (partsTail state rest).1)
      (partsTail state rest).2 := by
  rcases opened.outline_eq closed (plain _ List.mem_cons_self).2 more with ⟨rfl, seenHere⟩
  have step : (Part.lexeme .string (seen ++ body)).Steps (rest ++ more) := by
    refine steps_string ?_
    rw [← seenHere]
    simp
  rw [← List.append_assoc]
  exact .cons step (tells_partsTail isLine.of_append fun part member =>
    plain part (List.mem_cons_of_mem _ member))

/-- A line behind what has been seen before it. -/
theorem tells_partsLine (opened : state.IsOpened) (isLine : IsLine line more)
    (read : partsLine state line = .more parts next) (plain : ∀ part ∈ parts, part.IsPlain) :
    Tells (state.pending ++ line) more parts next := by
  cases mode : state.mode with
  | inString quote triple seen =>
      have openedHere := opened quote triple seen mode
      have pending : state.pending = seen := by
        rw [State.pending, mode]
      rw [pending]
      simp only [partsLine, mode] at read
      cases closed : closing? quote triple line with
      | some closing =>
          rcases closing with ⟨body, rest⟩
          have closedHere := closed
          rw [closing?] at closedHere
          simp only [closedHere] at read
          cases read
          exact tells_closing openedHere closed isLine plain
      | none =>
          have unclosed := closed
          rw [closing?] at unclosed
          simp only [unclosed] at read
          split at read
          · cases read
            refine ⟨.nil _ more, fun ended other triple seen same => ?_⟩
            cases same
            exact openedHere.append isLine.single ended.of_append closed
          · cases read
            exact (plain _ List.mem_cons_self).1.elim
  | continued =>
      rw [(State.isCalm_of_continued mode).pending]
      simp only [partsLine, mode] at read
      cases read
      exact tells_partsTail isLine plain
  | statement =>
      rw [(State.isCalm_of_statement mode).pending]
      by_cases flat : state.depth = 0
      · exact tells_outset mode flat isLine read plain
      · simp only [partsLine, mode, flat, if_false] at read
        cases read
        exact tells_partsTail isLine plain

/-- A line at which the text ends consists of blanks. -/
theorem partsLine_stop (read : partsLine state line = .stop) :
    state.IsCalm ∧ ∀ c ∈ line, isSpace c = true := by
  rw [partsLine] at read
  cases mode : state.mode with
  | inString quote triple seen =>
      simp only [mode] at read
      split at read
      · cases read
      · split at read <;> cases read
  | continued =>
      simp only [mode] at read
      cases read
  | statement =>
      refine ⟨State.isCalm_of_statement mode, ?_⟩
      simp only [mode] at read
      split at read
      · rcases indentation_spec 0 line with ⟨gap, whole, spaces⟩
        generalize indentation 0 line = indented at read whole
        rcases indented with ⟨column, _ | ⟨c, rest⟩⟩
        · rw [whole, List.append_nil]
          exact spaces
        · simp only [] at read
          split at read
          · cases read
          · split at read <;> cases read
      · cases read

end Line

/-- The account of a text, read on from between two lines. -/
theorem accounts_partsLines {state : State} {last : List Char} {lines : List (List Char)}
    {parts : List Part} (opened : state.IsOpened) (noReturn : '\r' ∉ lines.flatten)
    (areLines : AreLines lines) (read : partsLines state last lines = some parts)
    (plain : ∀ part ∈ parts, part.IsPlain) :
    Accounts (state.pending ++ lines.flatten) [] parts [] := by
  have ending (state : State) (calm : state.IsCalm) (gap last : List Char)
      (inert : ∀ c ∈ gap, isInert c = true) :
      Accounts (state.pending ++ gap) []
        (gapPart gap ++ (finish last state.indents).map (.mark · [])) [] := by
    have account := Accounts.gap inert ((Accounts.nil [] []).marks (finish last state.indents))
    rw [calm.pending]
    simpa using account
  induction lines generalizing state last parts with
  | nil =>
      rw [partsLines] at read
      split at read
      · next ended =>
          cases read
          exact ending state (State.isCalm_of_statement ended.1) [] last
            (List.forall_mem_nil _)
      · cases read
  | cons line rest ih =>
      rcases areLines with ⟨filled, single, ended, areLines⟩
      rw [List.flatten_cons] at noReturn ⊢
      rw [partsLines] at read
      cases portion : partsLine state line with
      | stop =>
          rcases partsLine_stop portion with ⟨calm, spaces⟩
          have unended : ¬ IsEnded line := by
            rintro (none | last)
            · exact filled none
            · have space := spaces '\n' (List.mem_of_getLast? last)
              revert space
              decide
          obtain rfl : rest = [] := ended.resolve_left unended
          simp only [portion] at read
          cases read
          simpa using ending state calm line last fun c member =>
            isInert_of_isSpace (spaces c member)
      | misplaced =>
          simp only [portion] at read
          cases read
      | more first next =>
          simp only [portion, Option.map_eq_some_iff] at read
          rcases read with ⟨others, readRest, rfl⟩
          have isLine : IsLine line (rest.flatten ++ []) :=
            ⟨fun member => noReturn (List.mem_append_left _ member), single,
              ended.imp_right fun none => by rw [none]; rfl⟩
          have tells := tells_partsLine opened isLine portion
            fun part member => plain part (List.mem_append_left _ member)
          have openedNext : next.IsOpened := by
            rcases ended with ended | none
            · exact tells.opened (ended.append filled)
            · subst none
              rw [partsLines] at readRest
              split at readRest
              · next ended => exact (State.isCalm_of_statement ended.1).isOpened
              · cases readRest
          rw [← List.append_assoc]
          exact tells.account.append (ih openedNext
            (fun member => noReturn (List.mem_append_right _ member)) areLines readRest
            fun part member => plain part (List.mem_append_right _ member))

/-! ### Whole texts -/

/-- A text and its parts.  It is read without a stray part, it is ASCII outside comments and
strings, and no string stands right behind a number. -/
structure IsRegular (text : List Char) (parts : List Part) : Prop where
  read : partsOf? text = some parts
  noReturn : '\r' ∉ text
  clean : ∀ part ∈ parts, part.IsClean
  apart : Apart false parts

/-- Parts that differ at most in what a comment says, or a string that is no template. -/
inductive Part.Similar : Part → Part → Prop where
  | same (part : Part) : Similar part part
  | comment (first second : List Char) : Similar (.comment first) (.comment second)
  | string {first second : List Char} (plain : isTemplate first = false)
      (plain' : isTemplate second = false) :
      Similar (.lexeme .string first) (.lexeme .string second)

theorem Part.Similar.shown {first second : Part} (similar : first.Similar second) :
    first.shown = second.shown := by
  cases similar with
  | same => rfl
  | comment => rfl
  | string plain plain' => simp [Part.shown, outlined, plain, plain']

theorem shown_of_similar {parts others : List Part}
    (similar : List.Forall₂ Part.Similar parts others) :
    parts.flatMap Part.shown = others.flatMap Part.shown := by
  induction similar with
  | nil => rfl
  | cons head _ ih => rw [List.flatMap_cons, List.flatMap_cons, head.shown, ih]

section Regular

variable {text other : List Char} {parts others : List Part}

/-- The account of a whole text. -/
theorem IsRegular.account (regular : IsRegular text parts)
    (escaped : ∀ part ∈ parts, part.IsEscaped) : Accounts text [] parts [] := by
  rcases areLines_cutLines text List.not_mem_nil with ⟨areLines, whole⟩
  have noReturn : '\r' ∉ (physicalLines text).flatten := by
    rw [physicalLines, whole]
    exact regular.noReturn
  have calm : State.start.IsCalm := State.isCalm_of_statement rfl
  have account := accounts_partsLines calm.isOpened noReturn areLines regular.read
    fun part member => ⟨regular.clean part member, escaped part member⟩
  rwa [calm.pending, physicalLines, whole] at account

theorem IsRegular.outline_eq (regular : IsRegular text parts)
    (escaped : ∀ part ∈ parts, part.IsEscaped) : outline text = parts.flatMap Part.shown := by
  rcases (regular.account escaped).outline_eq false false id regular.apart with
    ⟨onward, -, same⟩
  rw [List.append_nil, List.append_nil, scan_nil, List.append_nil] at same
  exact same

/-- The parts of a text are the whole text, and the outline of the text is what stands for them.  So
no construct is detected or missed for what a comment says, or a string that is no template. -/
theorem outline_eq_shown (regular : IsRegular text parts)
    (escaped : ∀ part ∈ parts, part.IsEscaped) :
    ofChars? text = some (parts.filterMap Part.lexeme?) ∧
      parts.flatMap Part.text = text ∧
      outline text = parts.flatMap Part.shown ∧
      ∀ other others, IsRegular other others → (∀ part ∈ others, part.IsEscaped) →
        List.Forall₂ Part.Similar parts others →
        ∀ name, isDetected name (.ofList text) = isDetected name (.ofList other) := by
  refine ⟨?_, ?_, regular.outline_eq escaped, ?_⟩
  · rw [ofChars?_eq_parts, regular.read]
    rfl
  · have whole := (regular.account escaped).text_eq
    rw [List.append_nil] at whole
    exact whole.symm
  · intro other others regularOther escapedOther similar name
    have same : outline text = outline other := by
      rw [regular.outline_eq escaped, regularOther.outline_eq escapedOther,
        shown_of_similar similar]
    simp only [isDetected, occursIn, String.toList_ofList, same]

end Regular

/-- A template and a string joined, with a comment behind them. -/
def joined (text comment : String) : List Part :=
  [.lexeme .string "f'\x7by\x7d'".toList, .lexeme .operator ['+'], .lexeme .string text.toList,
    .comment comment.toList, .mark newlineMark ['\n']]

/-- The first string holds a comment sign, an escaped line end and a quote, and its comment another
quote. -/
theorem outline_eq_shown_joined :
    IsRegular "f'\x7by\x7d'+'#\\\n\"'# lambda it's: 0\n".toList
        (joined "'#\\\n\"'" "# lambda it's: 0") ∧
      (∀ part ∈ joined "'#\\\n\"'" "# lambda it's: 0", part.IsEscaped) ∧
      outline "f'\x7by\x7d'+'#\\\n\"'# lambda it's: 0\n".toList = "f\"\x7b_\x7d\"+\"\"\n".toList ∧
      isDetected "lambda" "f'\x7by\x7d'+'#\\\n\"'# lambda it's: 0\n" =
        isDetected "lambda" "f'\x7by\x7d'+rb\"\"\"\n'\"\"\"#'\n" := by
  have regular : IsRegular "f'\x7by\x7d'+'#\\\n\"'# lambda it's: 0\n".toList
      (joined "'#\\\n\"'" "# lambda it's: 0") :=
    ⟨by decide +kernel, by decide +kernel, by decide +kernel, by decide +kernel⟩
  have regularOther : IsRegular "f'\x7by\x7d'+rb\"\"\"\n'\"\"\"#'\n".toList
      (joined "rb\"\"\"\n'\"\"\"" "#'") :=
    ⟨by decide +kernel, by decide +kernel, by decide +kernel, by decide +kernel⟩
  have escaped : ∀ part ∈ joined "'#\\\n\"'" "# lambda it's: 0", part.IsEscaped := by decide +kernel
  have similar : List.Forall₂ Part.Similar (joined "'#\\\n\"'" "# lambda it's: 0")
      (joined "rb\"\"\"\n'\"\"\"" "#'") :=
    .cons (.same _) (.cons (.same _) (.cons (.string (by decide +kernel) (by decide +kernel))
      (.cons (.comment _ _) (.cons (.same _) .nil))))
  rcases outline_eq_shown regular escaped with ⟨-, -, shown, detected⟩
  refine ⟨regular, escaped, shown.trans (by decide +kernel), ?_⟩
  have same := detected _ _ regularOther (by decide +kernel) similar "lambda"
  rwa [String.ofList_toList, String.ofList_toList] at same

/-- A string in single quotes goes on behind a line that ends in two backslashes, when a backslash
has carried it there; its outline ends at that line. -/
theorem outline_ne_shown_carried :
    IsRegular "'a\\\nb\\\\\nc'".toList
        [.lexeme .string "'a\\\nb\\\\\nc'".toList, .mark newlineMark []] ∧
      outline "'a\\\nb\\\\\nc'".toList ≠
        [Part.lexeme .string "'a\\\nb\\\\\nc'".toList, .mark newlineMark []].flatMap Part.shown :=
  ⟨⟨by decide +kernel, by decide +kernel, by decide +kernel, by decide +kernel⟩, by decide +kernel⟩

end Lexeme
end Snippet
end AnswerKey
