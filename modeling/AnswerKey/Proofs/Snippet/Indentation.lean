import Mathlib.Order.Monotone.Basic
import AnswerKey.Proofs.Construct.Agreement

namespace AnswerKey
namespace Snippet
namespace Lexeme

/-!
Layout that leaves no trace in the lexemes.

Between two statements a line of blanks, or of a comment alone, is read over.  Of the columns at which
statements start only the order is seen: when every one of them is moved by a function that keeps the
order and the first column, the same indentations are opened and closed, and the same ones fit
nowhere.
-/

open Text

/-- Between two statements: no string goes on, no line end is escaped and no bracket is open.  Brackets
that were never opened count as well: behind them a line belongs to no statement of its own. -/
def State.IsBetween (state : State) : Prop :=
  state.mode = .statement ∧ state.depth = 0

instance (state : State) : Decidable state.IsBetween :=
  inferInstanceAs (Decidable (state.mode = .statement ∧ state.depth = 0))

/-- What some lines yield and the state behind them, when the text neither ends nor is misplaced in one
of them. -/
def readOver (state : State) : List (List Char) → Option (List Lexeme × State)
  | [] => some ([], state)
  | line :: rest =>
      match readLine state line with
      | .more lexemes next => (readOver next rest).map fun (others, final) => (lexemes ++ others, final)
      | .stop => none
      | .misplaced => none

/-- Blanks, and behind them nothing or a comment. -/
def IsEmptyLine (line : List Char) : Prop :=
  ∃ gap comment, line = gap ++ comment ∧ (∀ c ∈ gap, isSpace c = true) ∧
    (∀ c ∈ comment.head?, c = '#') ∧ '\n' ∉ comment

/-- Move the column at which a line starts a statement. -/
def reindentLine (f : Nat → Nat) (state : State) (line : List Char) : List Char :=
  if state.IsBetween then
    match indentation 0 line with
    | (_, []) => line
    | (column, c :: rest) =>
        if c = '#' ∨ c = '\r' ∨ c = '\n' then line else List.replicate (f column) ' ' ++ c :: rest
  else line

/-- Move the columns of all statements, as far as the lines are read. -/
def reindentLines (f : Nat → Nat) (state : State) : List (List Char) → List (List Char)
  | [] => []
  | line :: rest =>
      reindentLine f state line ::
        match readLine state line with
        | .more _ next => reindentLines f next rest
        | .stop => rest
        | .misplaced => rest

/-- A text with the columns of its statements moved. -/
def reindent (f : Nat → Nat) (text : List Char) : List Char :=
  (reindentLines f .start (physicalLines text)).flatten

/-! ### Lines -/

section Lines

variable {first second line rest current : List Char}

theorem cutLines_append (ended : first.getLast? = some '\n') (current second : List Char) :
    cutLines current (first ++ second) = cutLines current first ++ physicalLines second := by
  induction first generalizing current with
  | nil => cases ended
  | cons c first ih =>
      rw [List.cons_append, cutLines, cutLines]
      cases first with
      | nil =>
          rw [List.getLast?_singleton, Option.some.injEq] at ended
          rw [if_pos ended, if_pos ended]
          rfl
      | cons d first =>
          rw [List.getLast?_cons_cons] at ended
          rw [ih ended, ih ended]
          split <;> rfl

theorem physicalLines_append (ended : IsEnded first) (second : List Char) :
    physicalLines (first ++ second) = physicalLines first ++ physicalLines second := by
  rcases ended with rfl | ended
  · rfl
  · exact cutLines_append ended [] second

theorem cutLines_of_unended (unended : '\n' ∉ line) (filled : current ≠ [] ∨ line ≠ []) :
    cutLines current line = [current.reverse ++ line] := by
  induction line generalizing current with
  | nil => 
      rw [cutLines, if_neg (by simpa using filled), List.append_nil]
  | cons c line ih =>
      rw [List.mem_cons, not_or] at unended
      rw [cutLines, if_neg (Ne.symm unended.1), ih unended.2 (.inl (List.cons_ne_nil _ _))]
      simp

theorem physicalLines_feed (unended : '\n' ∉ line) : physicalLines (line ++ ['\n']) = [line ++ ['\n']] := by
  suffices ∀ current, cutLines current (line ++ ['\n']) = [current.reverse ++ line ++ ['\n']] from
    this []
  intro current
  induction line generalizing current with
  | nil => simp [cutLines]
  | cons c line ih =>
      rw [List.mem_cons, not_or] at unended
      rw [List.cons_append, cutLines, if_neg (Ne.symm unended.1), ih unended.2]
      simp

/-- Lines are found again in the text that they make up. -/
theorem physicalLines_flatten {lines : List (List Char)} (areLines : AreLines lines) :
    physicalLines lines.flatten = lines := by
  induction lines with
  | nil => rfl
  | cons line rest ih =>
      obtain ⟨filled, single, ended, later⟩ := areLines
      have alone : physicalLines line = [line] := by
        rw [IsSingle] at single
        by_cases last : line.getLast? = some '\n'
        · obtain ⟨early, rfl⟩ := List.getLast?_eq_some_iff.mp last
          rw [List.dropLast_concat] at single
          exact physicalLines_feed single
        · refine cutLines_of_unended (fun inside => ?_) (.inr filled)
          have both := List.dropLast_append_getLast filled
          rw [← both] at inside
          rcases List.mem_append.mp inside with early | atEnd
          · exact single early
          · rw [List.getLast?_eq_some_getLast filled, ← List.mem_singleton.mp atEnd] at last
            exact last rfl
      rcases ended with ended | rfl
      · rw [List.flatten_cons, physicalLines_append ended, alone, ih later]
        rfl
      · simpa using alone

theorem getLast?_of_mem_areLines {lines : List (List Char)} (areLines : AreLines lines)
    (ended : IsEnded lines.flatten) (among : line ∈ lines) : line.getLast? = some '\n' := by
  induction lines with
  | nil => cases among
  | cons first rest ih =>
      obtain ⟨filled, -, firstEnded, later⟩ := areLines
      cases rest with
      | nil =>
          rw [List.mem_singleton.mp among]
          exact (by simpa using ended : IsEnded first).resolve_left filled
      | cons second more =>
          have some : (second :: more).flatten ≠ [] := by simp [later.1]
          rcases List.mem_cons.mp among with rfl | behind
          · exact (firstEnded.resolve_right (List.cons_ne_nil _ _)).resolve_left filled
          · refine ih later (.inr ?_) behind
            have last := ended.resolve_left (by simp [filled])
            rwa [List.flatten_cons, List.getLast?_append_of_ne_nil _ some] at last

theorem areLines_physicalLines (text : List Char) :
    AreLines (physicalLines text) ∧ (physicalLines text).flatten = text :=
  areLines_cutLines text List.not_mem_nil

theorem getLast?_of_mem_physicalLines (ended : IsEnded first) (among : line ∈ physicalLines first) :
    line.getLast? = some '\n' := by
  obtain ⟨areLines, whole⟩ := areLines_physicalLines first
  exact getLast?_of_mem_areLines areLines (whole.symm ▸ ended) among

end Lines

/-! ### Lines that leave no lexeme -/

section EmptyLines

variable {state : State} {line last last' : List Char} {column : Nat}

/-- Behind its indentation a line goes on with a character that is no blank. -/
theorem not_isSpace_indentation {c : Char} (column : Nat) (line : List Char) (head : c ∈ (indentation column line).2.head?) :
    isSpace c = false := by
  fun_induction indentation column line with
  | case4 column text noSpace noTab noFeed =>
      cases text with
      | nil => cases head
      | cons d rest =>
          cases head
          have space : c ≠ ' ' := fun same => noSpace rest (by rw [same])
          have tab : c ≠ '\t' := fun same => noTab rest (by rw [same])
          have feed : c ≠ '\x0c' := fun same => noFeed rest (by rw [same])
          simp [isSpace, space, tab, feed]
  | _ =>
      rename_i ih
      exact ih head

theorem indentation_of_shown {rest : List Char} (shown : ∀ c ∈ rest.head?, isSpace c = false)
    (column : Nat) : indentation column rest = (column, rest) := by
  unfold indentation
  split
  · cases shown _ rfl
  · cases shown _ rfl
  · cases shown _ rfl
  · rfl

/-- The indentation of a line is all of the blanks at its beginning. -/
theorem indentation_append {gap rest : List Char} (blanks : ∀ c ∈ gap, isSpace c = true)
    (shown : ∀ c ∈ rest.head?, isSpace c = false) : (indentation column (gap ++ rest)).2 = rest := by
  induction gap generalizing column with
  | nil =>
      rw [List.nil_append, indentation_of_shown shown]
  | cons c gap ih =>
      rw [List.forall_mem_cons] at blanks
      have one : c = ' ' ∨ c = '\x0c' ∨ c = '\t' := by simpa [isSpace, or_assoc] using blanks.1
      rcases one with rfl | rfl | rfl <;> exact ih blanks.2

theorem readLine_ne_stop (ended : line.getLast? = some '\n') : readLine state line ≠ .stop := by
  rw [readLine]
  split
  · next quote triple seen mode =>
      dsimp only
      split
      · exact (Step.noConfusion ·)
      · split <;> exact (Step.noConfusion ·)
  · exact (Step.noConfusion ·)
  · split
    · split
      · next gone =>
          obtain ⟨gap, whole, spaces⟩ := indentation_spec 0 line
          rw [gone, List.append_nil] at whole
          rw [whole] at ended
          exact absurd (spaces '\n' (List.mem_of_getLast? ended)) (by decide)
      · split
        · exact (Step.noConfusion ·)
        · split <;> exact (Step.noConfusion ·)
    · exact (Step.noConfusion ·)

/-- Between statements an empty line is read over. -/
theorem readLine_of_isEmptyLine (between : state.IsBetween) (empty : IsEmptyLine line) :
    readLine state (line ++ ['\n']) = .more [] state := by
  obtain ⟨gap, comment, rfl, blanks, mark, -⟩ := empty
  have here : (indentation 0 (gap ++ comment ++ ['\n'])).2 = comment ++ ['\n'] := by
    rw [List.append_assoc]
    refine indentation_append blanks fun c head => ?_
    cases comment with
    | nil =>
        cases head
        rfl
    | cons d comment =>
        cases head
        rw [mark c rfl]
        rfl
  simp only [readLine, between.1, between.2, if_true]
  generalize indentation 0 (gap ++ comment ++ ['\n']) = indented at here
  obtain ⟨column, rest⟩ := indented
  obtain rfl : rest = comment ++ ['\n'] := here
  cases comment with
  | nil => rfl
  | cons d comment =>
      obtain rfl : d = '#' := mark d rfl
      rfl

theorem finish_of_isEnded (ended : IsEnded last) (indents : List Nat) :
    finish last indents = List.replicate (indents.length - 1) dedentMark := by
  rcases ended with rfl | ended
  · rfl
  · obtain ⟨early, rfl⟩ := List.getLast?_eq_some_iff.mp ended
    simp [finish]

/-- The line before is not seen, if it has its line end. -/
theorem readLines_congr (ended : IsEnded last) (ended' : IsEnded last') (state : State)
    (lines : List (List Char)) : readLines state last lines = readLines state last' lines := by
  have same (indents : List Nat) : finish last indents = finish last' indents := by
    rw [finish_of_isEnded ended, finish_of_isEnded ended']
  cases lines with
  | nil => rw [readLines, readLines, same]
  | cons line rest => rw [readLines, readLines, same]

theorem readLines_append {lines more : List (List Char)} (last : List Char)
    (ended : ∀ line ∈ lines, line.getLast? = some '\n') :
    readLines state last (lines ++ more) =
      (readOver state lines).bind fun (lexemes, final) =>
        (readLines final (lines.getLastD last) more).map (lexemes ++ ·) := by
  induction lines generalizing state last with
  | nil => simp [readOver]
  | cons line rest ih =>
      rw [List.forall_mem_cons] at ended
      rw [List.cons_append, readLines, readOver]
      split
      · next stop => exact absurd stop (readLine_ne_stop ended.1)
      · next misplaced => rw [misplaced]; rfl
      · next lexemes next step =>
          simp only [step, ih line ended.2, List.getLastD_cons]
          cases readOver next rest with
          | none => rfl
          | some found => simp [Function.comp_def]

/-- A line of blanks, or of a comment alone, makes no difference between two statements. -/
theorem ofChars?_insert {before : List Char} (ended : IsEnded before)
    (between : ∀ lexemes final, readOver .start (physicalLines before) = some (lexemes, final) →
      final.IsBetween) (empty : IsEmptyLine line) (after : List Char) :
    ofChars? (before ++ (line ++ '\n' :: after)) = ofChars? (before ++ after) := by
  have unended : '\n' ∉ line := by
    obtain ⟨gap, comment, rfl, blanks, -, noFeed⟩ := empty
    rw [List.mem_append, not_or]
    exact ⟨fun feed => absurd (blanks _ feed) (by decide), noFeed⟩
  have behind : physicalLines (line ++ '\n' :: after) = (line ++ ['\n']) :: physicalLines after := by
    rw [List.append_cons, physicalLines_append (.inr List.getLast?_concat), physicalLines_feed unended]
    rfl
  have each := fun line (among : line ∈ physicalLines before) =>
    getLast?_of_mem_physicalLines ended among
  rw [ofChars?, ofChars?, physicalLines_append ended, physicalLines_append ended, behind,
    readLines_append [] each, readLines_append [] each]
  cases passed : readOver .start (physicalLines before) with
  | none => rfl
  | some found =>
      have previous : IsEnded ((physicalLines before).getLastD []) := by
        rw [List.getLastD_eq_getLast?]
        cases last : (physicalLines before).getLast? with
        | none => exact .inl rfl
        | some line => exact .inr (each line (List.mem_of_getLast? last))
      have step : readLine found.2 (line ++ ['\n']) = .more [] found.2 :=
        readLine_of_isEmptyLine (between found.1 found.2 passed) empty
      have onward : readLines found.2 ((physicalLines before).getLastD [])
            ((line ++ ['\n']) :: physicalLines after) =
          readLines found.2 (line ++ ['\n']) (physicalLines after) := by
        simp [readLines, step]
      have lineEnded : IsEnded (line ++ ['\n']) := .inr List.getLast?_concat
      have same := readLines_congr lineEnded previous found.2 (physicalLines after)
      simp only [Option.bind_some, onward, same]

end EmptyLines

/-! ### Columns of statements -/

/-- A state with its open indentations moved. -/
def State.shift (f : Nat → Nat) (state : State) : State :=
  { state with indents := state.indents.map f }

/-- What a line yields, with the open indentations behind it moved. -/
def Step.shift (f : Nat → Nat) : Step → Step
  | .more lexemes state => .more lexemes (state.shift f)
  | .stop => .stop
  | .misplaced => .misplaced

section Columns

variable {f : Nat → Nat} {state : State} {line last last' : List Char}

theorem readRest_shift (f : Nat → Nat) (state : State) (fuel : Nat) (text : List Char) :
    readRest (state.shift f) fuel text =
      ((readRest state fuel text).1, (readRest state fuel text).2.shift f) := by
  induction fuel generalizing state text with
  | zero => rfl
  | succ fuel ih =>
      simp only [readRest]
      cases pieceHere (skipGap text) with
      | done => rfl
      | lexeme kind shown rest =>
          have onward := ih { state with depth := state.depth + depthStep kind shown } rest
          exact congrArg (fun read => (_ :: read.1, read.2)) onward
      | lineEnd rest =>
          simp only [ih]
          rfl
      | comment rest => exact ih state rest
      | backslash rest => exact ih { state with mode := .continued } rest
      | unfinished quote triple seen => rfl
      | nothing =>
          cases text with
          | nil => rfl
          | cons c rest => simp only [ih]

theorem readTail_shift (f : Nat → Nat) (state : State) (text : List Char) :
    readTail (state.shift f) text =
      ((readTail state text).1, (readTail state text).2.shift f) :=
  readRest_shift f { state with mode := .statement } _ text

theorem closeTo_map (mono : StrictMono f) (column : Nat) (indents : List Nat) :
    closeTo (f column) (indents.map f) =
      (closeTo column indents).map fun (marks, left) => (marks, left.map f) := by
  induction indents with
  | nil => rfl
  | cons top below ih =>
      have open_iff : (below.map f).contains (f column) = below.contains column := by
        rw [Bool.eq_iff_iff, List.contains_iff_mem, List.contains_iff_mem,
          List.mem_map_of_injective mono.injective]
      rw [List.map_cons, closeTo, closeTo, open_iff, ih]
      simp only [mono.lt_iff_lt]
      split
      · split
        · simp only [Option.map_map]
          rfl
        · rfl
      · rfl

theorem moveTo_map (mono : StrictMono f) (column : Nat) (indents : List Nat) :
    moveTo (f column) (indents.map f) =
      (moveTo column indents).map fun (marks, left) => (marks, left.map f) := by
  cases indents with
  | nil => rfl
  | cons top below =>
      have closing := closeTo_map mono column (top :: below)
      rw [List.map_cons] at closing
      rw [List.map_cons, moveTo, moveTo, closing]
      simp only [mono.lt_iff_lt]
      split <;> rfl

theorem indentation_spaces {rest : List Char} (shown : ∀ c ∈ rest.head?, isSpace c = false)
    (count column : Nat) :
    indentation column (List.replicate count ' ' ++ rest) = (column + count, rest) := by
  induction count generalizing column with
  | zero => exact indentation_of_shown shown column
  | succ count ih =>
      rw [List.replicate_succ, List.cons_append, indentation, ih]
      congr 1
      omega

/-- Where no statement begins a line is left as it is, and the open indentations are not looked at. -/
theorem readLine_shift_of_not_isBetween (f : Nat → Nat) (inside : ¬ state.IsBetween)
    (line : List Char) : readLine (state.shift f) line = (readLine state line).shift f := by
  obtain ⟨depth, indents, mode, needsBackslash⟩ := state
  have tail := readTail_shift f ⟨depth, indents, mode, needsBackslash⟩ line
  change readLine ⟨depth, indents.map f, mode, needsBackslash⟩ line = _
  simp only [State.shift] at tail
  cases mode with
  | continued =>
      simp only [readLine, tail]
      rfl
  | statement =>
      have nested : depth ≠ 0 := fun flat => inside ⟨rfl, flat⟩
      simp only [readLine, tail, if_neg nested]
      rfl
  | inString quote triple seen =>
      simp only [readLine]
      split
      · next body rest closed =>
          have tail := readTail_shift f ⟨depth, indents, .inString quote triple seen, false⟩ rest
          simp only [State.shift] at tail
          rw [tail]
          rfl
      · generalize (!needsBackslash || endsInBackslash line) = carried
        cases carried <;> rfl

/-- A line with its column moved, in a state with its open indentations moved. -/
theorem readLine_shift (mono : StrictMono f) (state : State) (line : List Char) :
    readLine (state.shift f) (reindentLine f state line) = (readLine state line).shift f := by
  by_cases between : state.IsBetween
  · obtain ⟨column, rest, indented⟩ : ∃ column rest, indentation 0 line = (column, rest) :=
      ⟨_, _, rfl⟩
    rw [reindentLine, if_pos between, indented]
    obtain ⟨depth, indents, mode, needsBackslash⟩ := state
    obtain ⟨rfl, rfl⟩ : mode = .statement ∧ depth = 0 := between
    simp only [readLine, State.shift, if_true]
    cases rest with
    | nil => simp only [indented, Step.shift]
    | cons c rest =>
        have shown : ∀ d ∈ (c :: rest).head?, isSpace d = false := by
          have behind (d : Char) := not_isSpace_indentation (c := d) 0 line
          rwa [indented] at behind
        by_cases empty : c = '#' ∨ c = '\r' ∨ c = '\n'
        · simp only [if_pos empty, indented]
          rfl
        · have moved := indentation_spaces shown (f column) 0
          rw [Nat.zero_add] at moved
          simp only [if_neg empty, indented, moved, moveTo_map mono]
          cases moveTo column indents with
          | none => rfl
          | some opened =>
              have tail := readTail_shift f ⟨0, opened.2, .statement, needsBackslash⟩ (c :: rest)
              simp only [State.shift] at tail
              simp only [Option.map_some, tail]
              rfl
  · rw [reindentLine, if_neg between, readLine_shift_of_not_isBetween f between]

/-- A line is left as it is, or the blanks in front of it become others. -/
theorem reindentLine_spec (f : Nat → Nat) (state : State) (line : List Char) :
    reindentLine f state line = line ∨ ∃ gap count rest, rest ≠ [] ∧ line = gap ++ rest ∧
      (∀ c ∈ gap, isSpace c = true) ∧
      reindentLine f state line = List.replicate count ' ' ++ rest := by
  rw [reindentLine]
  split
  · obtain ⟨gap, whole, blanks⟩ := indentation_spec 0 line
    split
    · exact .inl rfl
    · next column c rest indented =>
        rw [indented] at whole
        split
        · exact .inl rfl
        · exact .inr ⟨gap, f column, c :: rest, List.cons_ne_nil c rest, whole, blanks, rfl⟩
  · exact .inl rfl

theorem finish_append {gap rest : List Char} (blanks : ∀ c ∈ gap, isSpace c = true)
    (filled : rest ≠ []) (indents : List Nat) :
    finish (gap ++ rest) indents = finish rest indents := by
  have blank (c : Char) (inside : c ∈ gap) : isBlank c = true := by
    have one : c = ' ' ∨ c = '\x0c' ∨ c = '\t' := by
      simpa [isSpace, or_assoc] using blanks c inside
    rcases one with rfl | rfl | rfl <;> decide
  have trimmed : trim (gap ++ rest) = trim rest := by
    rw [trim, trimLeftWhile, List.dropWhile_append_of_pos blank]
    rfl
  obtain ⟨early, last, rfl⟩ := (List.eq_nil_or_concat' rest).resolve_left filled
  simp [finish, trimmed]

theorem finish_reindentLine (f : Nat → Nat) (state : State) (line : List Char) (indents : List Nat) :
    finish (reindentLine f state line) (indents.map f) = finish line indents := by
  have counted (line : List Char) : finish line (indents.map f) = finish line indents := by
    rw [finish, finish, List.length_map]
  rw [counted]
  rcases reindentLine_spec f state line with same | ⟨gap, count, rest, filled, whole, blanks, moved⟩
  · rw [same]
  · have spaces : ∀ c ∈ List.replicate count ' ', isSpace c = true := by simp [isSpace]
    rw [moved, whole, finish_append blanks filled, finish_append spaces filled]

theorem readLines_shift (mono : StrictMono f) (state : State)
    (same : ∀ indents, finish last' (indents.map f) = finish last indents)
    (lines : List (List Char)) :
    readLines (state.shift f) last' (reindentLines f state lines) = readLines state last lines := by
  induction lines generalizing state last last' with
  | nil =>
      rw [reindentLines, readLines, readLines, ← same]
      rfl
  | cons line rest ih =>
      rw [reindentLines, readLines, readLines, readLine_shift mono]
      cases readLine state line with
      | more lexemes next =>
          exact congrArg (Option.map (lexemes ++ ·)) (ih next (finish_reindentLine f state line))
      | stop => exact congrArg _ (same state.indents)
      | misplaced => rfl

theorem reindentLines_cons (f : Nat → Nat) (state : State) (line : List Char)
    (rest : List (List Char)) : ∃ behind, reindentLines f state (line :: rest) =
      reindentLine f state line :: behind ∧
        (behind = rest ∨ ∃ next, behind = reindentLines f next rest) := by
  rw [reindentLines]
  cases readLine state line with
  | more lexemes next => exact ⟨_, rfl, .inr ⟨next, rfl⟩⟩
  | stop => exact ⟨_, rfl, .inl rfl⟩
  | misplaced => exact ⟨_, rfl, .inl rfl⟩

theorem areLines_reindentLines (f : Nat → Nat) (state : State) {lines : List (List Char)}
    (areLines : AreLines lines) : AreLines (reindentLines f state lines) := by
  induction lines generalizing state with
  | nil => trivial
  | cons line rest ih =>
      obtain ⟨filled, single, ended, later⟩ := areLines
      obtain ⟨behind, whole, behind_eq⟩ := reindentLines_cons f state line rest
      have areBehind : AreLines behind := by
        rcases behind_eq with rfl | ⟨next, rfl⟩
        · exact later
        · exact ih next later
      have none (last : rest = []) : behind = [] := by
        rcases behind_eq with rfl | ⟨next, rfl⟩
        · exact last
        · rw [last]
          rfl
      rw [whole]
      rcases reindentLine_spec f state line with
        same | ⟨gap, count, rest', filled', parted, blanks, moved⟩
      · rw [same]
        exact ⟨filled, single, ended.imp_right none, areBehind⟩
      · rw [moved]
        refine ⟨by simp [filled'], ?_, ?_, areBehind⟩
        · rw [parted, IsSingle, List.dropLast_append_of_ne_nil filled', List.mem_append, not_or] at single
          rw [IsSingle, List.dropLast_append_of_ne_nil filled', List.mem_append, not_or]
          exact ⟨by simp [List.mem_replicate], single.2⟩
        · refine ended.imp (fun ended => ?_) none
          have last := ended.resolve_left filled
          rw [parted, List.getLast?_append_of_ne_nil _ filled'] at last
          rw [IsEnded, List.getLast?_append_of_ne_nil _ filled']
          exact .inr last

/-- Moving the columns of statements makes no difference, if it keeps their order and the first
column. -/
theorem ofChars?_reindent (mono : StrictMono f) (first : f 0 = 0) (text : List Char) :
    ofChars? (reindent f text) = ofChars? text := by
  have areLines := (areLines_physicalLines text).1
  have start : State.shift f .start = .start := by simp [State.shift, State.start, first]
  rw [ofChars?, reindent, physicalLines_flatten (areLines_reindentLines f .start areLines), ofChars?]
  have same (indents : List Nat) : finish [] (indents.map f) = finish [] indents := by
    rw [finish, finish, List.length_map]
  have shifted := readLines_shift mono .start same (physicalLines text)
  rwa [start] at shifted

end Columns

/-- The lexemes of a snippet do not tell whether an empty line stands between two of its statements,
nor at which columns statements start, beyond the order of these columns. -/
theorem lexemes_of_layout :
    (∀ before line after : String, IsEnded before.toList →
      (∀ lexemes final, readOver .start (physicalLines before.toList) = some (lexemes, final) →
        final.IsBetween) →
      IsEmptyLine line.toList →
      ofText? (before ++ line ++ "\n" ++ after) = ofText? (before ++ after)) ∧
    ∀ (f : Nat → Nat) (text : String), StrictMono f → f 0 = 0 →
      ofText? (.ofList (reindent f text.toList)) = ofText? text := by
  constructor
  · intro before line after ended between empty
    have inserted := ofChars?_insert ended between empty after.toList
    simpa [ofText?] using inserted
  · intro f text mono first
    rw [ofText?, ofText?, String.toList_ofList, ofChars?_reindent mono first]

/-- A comment above the body of a branch, and the body moved to a column of its own. -/
theorem lexemes_of_layout_branch :
    ofText? ("if a:\n" ++ "\t # then" ++ "\n" ++ " b\n") = ofText? ("if a:\n" ++ " b\n") ∧
      reindent (4 * ·) "if a:\n b\n".toList = "if a:\n    b\n".toList ∧
      ofText? (.ofList (reindent (4 * ·) "if a:\n b\n".toList)) = ofText? "if a:\n b\n" := by
  have mono : StrictMono (4 * · : Nat → Nat) := fun first second less => by
    dsimp only
    omega
  refine ⟨lexemes_of_layout.1 "if a:\n" "\t # then" " b\n" (.inr (by decide +kernel)) ?_ ?_,
    by decide +kernel, lexemes_of_layout.2 (4 * ·) "if a:\n b\n" mono rfl⟩
  · have reached : (readOver .start (physicalLines "if a:\n".toList)).map (·.2) = some .start := by
      decide +kernel
    intro lexemes final read
    rw [read] at reached
    obtain rfl : final = .start := Option.some.inj reached
    exact ⟨rfl, rfl⟩
  · have mark : ∀ c ∈ "# then".toList.head?, c = '#' := by
      rintro c ⟨⟩
      rfl
    exact ⟨['\t', ' '], "# then".toList, by decide +kernel, by decide +kernel, mark,
      by decide +kernel⟩

end Lexeme
end Snippet
end AnswerKey
