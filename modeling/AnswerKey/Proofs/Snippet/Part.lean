import AnswerKey.Snippet.Lexeme

namespace AnswerKey
namespace Snippet
namespace Lexeme

/-!
The parts of a text.

The lexemes of a text do not say where they stand, and blanks and comments leave none.  The parts
say both: they are read in the same way, each keeps its text, and what is left without the gaps and
comments are the lexemes (`ofChars?_eq_parts`).
-/

inductive Part where
  /-- Blanks, line ends and backslashes that leave no lexeme. -/
  | gap (text : List Char)
  | comment (text : List Char)
  /-- A line end or a change of indentation.  Its lexeme has no text. -/
  | mark (unit : Lexeme) (text : List Char)
  | lexeme (kind : Kind) (text : List Char)
  deriving DecidableEq

namespace Part

def text : Part → List Char
  | gap text => text
  | comment text => text
  | mark _ text => text
  | lexeme _ text => text

/-- The lexeme that a part leaves. -/
def lexeme? : Part → Option Lexeme
  | gap _ => none
  | comment _ => none
  | mark unit _ => some unit
  | lexeme kind text => some ⟨kind, .ofList text⟩

end Part

/-! ### Reading parts -/

/-- A blank that may stand between lexemes. -/
def isSpace (c : Char) : Bool :=
  c == ' ' || c == '\x0c' || c == '\t'

/-- A gap, unless there is nothing in it. -/
def gapPart : List Char → List Part
  | [] => []
  | text => [.gap text]

/-- A comment, unless there is nothing in it. -/
def commentPart : List Char → List Part
  | [] => []
  | text => [.comment text]

/-- What has been read of a text when only a rest of it is left. -/
def consumed (text rest : List Char) : List Char :=
  text.take (text.length - rest.length)

/-- The parts of the rest of a line. -/
def partsRest (state : State) : (fuel : Nat) → List Char → List Part × State
  | 0, _ => ([], state)
  | fuel + 1, text =>
      let gap := gapPart (text.takeWhile isSpace)
      let here := skipGap text
      match pieceHere here with
      | .done => (gap, state)
      | .lexeme kind shown rest =>
          let (others, final) :=
            partsRest { state with depth := state.depth + depthStep kind shown } fuel rest
          (gap ++ .lexeme kind shown :: others, final)
      | .lineEnd rest =>
          let (others, final) := partsRest state fuel rest
          let ending : Part :=
            if 0 < state.depth then .gap (consumed here rest)
            else .mark newlineMark (consumed here rest)
          (gap ++ ending :: others, final)
      | .comment rest =>
          let (others, final) := partsRest state fuel rest
          (gap ++ .comment (consumed here rest) :: others, final)
      | .backslash rest =>
          let (others, final) := partsRest { state with mode := .continued } fuel rest
          (gap ++ .gap (consumed here rest) :: others, final)
      | .unfinished quote triple seen =>
          (gap, { state with
            mode := .inString quote triple seen
            needsBackslash := state.needsBackslash || !triple })
      | .nothing =>
          match text with
          | [] => ([], state)
          | c :: rest =>
              let (others, final) := partsRest state fuel rest
              (.lexeme .stray [c] :: others, final)

/-- The parts of a line of a statement from a given place. -/
def partsTail (state : State) (text : List Char) : List Part × State :=
  partsRest { state with mode := .statement } (text.length + 1) text

/-- The parts of a line that holds no more than a comment, behind its indentation. -/
def partsBlank (text : List Char) : List Part :=
  commentPart (text.takeWhile (· ≠ '\n')) ++ gapPart (text.dropWhile (· ≠ '\n'))

/-- What one line yields. -/
inductive Portion where
  | more (parts : List Part) (state : State)
  | stop
  | misplaced

/-- The parts of one line. -/
def partsLine (state : State) (line : List Char) : Portion :=
  match state.mode with
  | .inString quote triple seen =>
      match if triple then tripleBody quote [] line else carriedBody quote [] line with
      | some (body, rest) =>
          let (others, final) := partsTail { state with needsBackslash := false } rest
          .more (.lexeme .string (seen ++ body) :: others) final
      | none =>
          if !state.needsBackslash || endsInBackslash line then
            .more [] { state with mode := .inString quote triple (seen ++ line) }
          else
            .more [.lexeme .stray (seen ++ line)] { state with mode := .statement }
  | .continued =>
      let (parts, final) := partsTail state line
      .more parts final
  | .statement =>
      if state.depth = 0 then
        match indentation 0 line with
        | (_, []) => .stop
        | (column, c :: rest) =>
            let indent := gapPart (consumed line (c :: rest))
            if c = '#' ∨ c = '\r' ∨ c = '\n' then .more (indent ++ partsBlank (c :: rest)) state
            else
              match moveTo column state.indents with
              | none => .misplaced
              | some (marks, indents) =>
                  let (others, final) := partsTail { state with indents := indents } (c :: rest)
                  .more (indent ++ marks.map (.mark · []) ++ others) final
      else
        let (parts, final) := partsTail state line
        .more parts final

/-- The parts of all lines.  `last` is the line before. -/
def partsLines (state : State) (last : List Char) : List (List Char) → Option (List Part)
  | [] =>
      if state.mode = .statement ∧ state.depth = 0 then
        some ((finish last state.indents).map (.mark · []))
      else none
  | line :: rest =>
      match partsLine state line with
      | .stop => some (gapPart line ++ (finish last state.indents).map (.mark · []))
      | .misplaced => none
      | .more parts next => (partsLines next line rest).map (parts ++ ·)

/-- The parts of a text. -/
def partsOf? (text : List Char) : Option (List Part) :=
  partsLines .start [] (physicalLines text)

/-! ### Parts and lexemes -/

@[simp] theorem lexemes_gapPart (text : List Char) :
    (gapPart text).filterMap Part.lexeme? = [] := by
  cases text <;> rfl

@[simp] theorem lexemes_commentPart (text : List Char) :
    (commentPart text).filterMap Part.lexeme? = [] := by
  cases text <;> rfl

@[simp] theorem lexeme?_mark (unit : Lexeme) (text : List Char) :
    (Part.mark unit text).lexeme? = some unit := rfl

@[simp] theorem lexeme?_comp_mark : (Part.lexeme? ∘ fun unit => Part.mark unit []) = some := rfl

/-- The parts of the rest of a line leave its lexemes, and the same state. -/
theorem readRest_eq_parts (state : State) (fuel : Nat) (text : List Char) :
    readRest state fuel text =
      ((partsRest state fuel text).1.filterMap Part.lexeme?, (partsRest state fuel text).2) := by
  induction fuel generalizing state text with
  | zero => rfl
  | succ fuel ih =>
      rw [readRest.eq_def, partsRest.eq_def]
      simp only []
      cases pieceHere (skipGap text) with
      | done => simp
      | lexeme kind shown rest => simp [ih, Part.lexeme?]
      | lineEnd rest =>
          by_cases inside : 0 < state.depth
          · simp [ih, inside, List.filterMap_cons, Part.lexeme?]
          · simp [ih, inside, Part.lexeme?]
      | comment rest => simp [ih, List.filterMap_cons, Part.lexeme?]
      | backslash rest => simp [ih, List.filterMap_cons, Part.lexeme?]
      | unfinished quote triple seen => simp
      | nothing =>
          cases text with
          | nil => rfl
          | cons c rest => simp [ih, Part.lexeme?]

theorem readTail_eq_parts (state : State) (text : List Char) :
    readTail state text =
      ((partsTail state text).1.filterMap Part.lexeme?, (partsTail state text).2) :=
  readRest_eq_parts _ _ _

/-- What the parts of a line leave. -/
def Portion.step : Portion → Step
  | more parts state => .more (parts.filterMap Part.lexeme?) state
  | stop => .stop
  | misplaced => .misplaced

theorem readLine_eq_parts (state : State) (line : List Char) :
    readLine state line = (partsLine state line).step := by
  rw [readLine, partsLine]
  cases mode : state.mode with
  | inString quote triple seen =>
      simp only []
      cases (if triple then tripleBody quote [] line else carriedBody quote [] line) with
      | none =>
          simp only []
          split <;> simp [Portion.step, Part.lexeme?]
      | some closing => simp [readTail_eq_parts, Portion.step, Part.lexeme?]
  | continued => simp [readTail_eq_parts, Portion.step]
  | statement =>
      simp only []
      split
      · rcases indentation 0 line with ⟨column, _ | ⟨c, rest⟩⟩
        · rfl
        · simp only []
          split
          · simp [Portion.step, partsBlank]
          · cases moveTo column state.indents with
            | none => rfl
            | some moved => simp [readTail_eq_parts, Portion.step]
      · simp [readTail_eq_parts, Portion.step]

theorem readLines_eq_parts (state : State) (last : List Char) (lines : List (List Char)) :
    readLines state last lines =
      (partsLines state last lines).map (·.filterMap Part.lexeme?) := by
  induction lines generalizing state last with
  | nil =>
      rw [readLines, partsLines]
      split <;> simp
  | cons line rest ih =>
      rw [readLines, partsLines, readLine_eq_parts]
      cases partsLine state line with
      | stop => simp [Portion.step]
      | misplaced => rfl
      | more parts next =>
          simp only [Portion.step, ih, Option.map_map]
          congr 1
          funext others
          simp

/-- The lexemes of a text are what its parts leave. -/
theorem ofChars?_eq_parts (text : List Char) :
    ofChars? text = (partsOf? text).map (·.filterMap Part.lexeme?) :=
  readLines_eq_parts _ _ _

end Lexeme
end Snippet
end AnswerKey
