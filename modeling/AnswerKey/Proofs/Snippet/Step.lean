import Mathlib.Data.List.DropRight
import AnswerKey.Proofs.Snippet.Spelling

namespace AnswerKey
namespace Snippet
namespace Token

/-!
Reading tokens step by step.

The reader of tokens goes through a text line by line and counts its steps.  Both are beside the
point: it takes one step after the other (`step`), each of which leaves less to do, so the number of
steps that it may take decides nothing once it is large enough (`tokens?_eq`).
-/

open Text Construct Lexeme

/-- What the reader of tokens does next: it fails, is done with the text, ends a logical line, or
finds tokens and goes on. -/
inductive Step where
  | fail
  | done
  | lineEnd (rest : List Char)
  | go (tokens : List Token) (after : State) (rest : List Char)

/-- The first step at the start of a line, behind its indentation. -/
def stepBehind (state : State) (column : Column) (carried : Nat) (here : List Char) : Step :=
  match here with
  | '\n' :: rest => .go [] state rest
  | '#' :: _ =>
      match here.dropWhile (· ≠ '\n') with
      | _ :: rest => .go [] state rest
      | [] => .go [] { state with atLineStart := false } []
  | _ =>
      if state.brackets.isEmpty then
        match moveTo? (if carried = 0 then column else ⟨carried, carried⟩) state.levels with
        | none => .fail
        | some (marks, levels) =>
            .go marks { state with levels := levels, atLineStart := false } here
      else .go [] { state with atLineStart := false } here

/-- A step inside a line, in front of what is no blank. -/
def stepAt (state : State) (here : List Char) : Step :=
  match here with
  | [] => if state.brackets.isEmpty then .done else .fail
  | '#' :: rest => .go [] state (rest.dropWhile (· ≠ '\n'))
  | '\n' :: rest =>
      if state.brackets.isEmpty then .lineEnd rest else .go [] { state with atLineStart := true } rest
  | '\\' :: '\n' :: [] => .fail
  | '\\' :: '\n' :: rest => .go [] state rest
  | _ =>
      match next? state.brackets here with
      | none => .fail
      | some (token, opened, rest) => .go [token] { state with brackets := opened } rest

def step (state : State) (text : List Char) : Step :=
  if state.atLineStart then
    match measure? ⟨0, 0⟩ 0 text with
    | none => .fail
    | some (column, carried, rest) => stepBehind state column carried rest
  else stepAt state (skipGap text)

namespace Step

/-- The logical line that a step begins, given what is read of it behind the step. -/
def line? (state : State)
    (onward : State → List Char → Option (List Token × State × Option (List Char))) :
    Step → Option (List Token × State × Option (List Char))
  | fail => none
  | done => some ([], state, none)
  | lineEnd rest => some ([.lineEnd], { state with atLineStart := true }, some rest)
  | go tokens after rest => prepend tokens (onward after rest)

/-- The tokens that begin with a step, given what is read behind it. -/
def tokens? (state : State) (onward : State → List Char → Option (List Token × Nat)) :
    Step → Option (List Token × Nat)
  | fail => none
  | done => some ([finish], state.levels.length - 1)
  | lineEnd rest => prepend [.lineEnd] (onward { state with atLineStart := true } rest)
  | go tokens after rest => prepend tokens (onward after rest)

end Step

section Prepend

variable {α : Type} (first second : List Token) (read : Option (List Token × α))

@[simp] theorem prepend_nil : prepend [] read = read := by
  cases read <;> rfl

theorem prepend_prepend : prepend first (prepend second read) = prepend (first ++ second) read := by
  cases read with
  | none => rfl
  | some found => simp [prepend]

end Prepend

section Lines

variable (state : State) (fuel : Nat) (text : List Char)

theorem line?_step : line? state (fuel + 1) text =
    (step state text).line? state fun after rest => line? after fuel rest := by
  rw [line?, step]
  by_cases starts : state.atLineStart = true
  · rw [if_pos starts, if_pos starts]
    cases measure? ⟨0, 0⟩ 0 text with
    | none => rfl
    | some found =>
        obtain ⟨column, carried, rest⟩ := found
        simp only [stepBehind]
        split
        · exact (prepend_nil _).symm
        · next tail =>
            rcases ('#' :: tail).dropWhile (· ≠ '\n') with _ | ⟨c, behind⟩
            · exact (prepend_nil _).symm
            · exact (prepend_nil _).symm
        · split
          · cases moved : moveTo? (if carried = 0 then column else ⟨carried, carried⟩) state.levels with
            | none => simp_all [Step.line?]
            | some found => simp_all [Step.line?]
          · simp_all [Step.line?]
  · rw [if_neg starts, if_neg starts, stepAt.eq_def]
    generalize skipGap text = here
    split
    · split <;> rfl
    · exact (prepend_nil _).symm
    · split
      · rfl
      · exact (prepend_nil _).symm
    · rfl
    · simp_all [Step.line?]
    · cases next? state.brackets here with
      | none => simp_all [Step.line?]
      | some found => simp_all [Step.line?]

/-- A logical line, and the logical lines behind it. -/
def linesFrom (fuel : Nat) :
    Option (List Token × State × Option (List Char)) → Option (List Token × Nat)
  | none => none
  | some (tokens, after, none) => some (tokens ++ [finish], after.levels.length - 1)
  | some (tokens, after, some rest) => prepend tokens (read? after fuel rest)

theorem read?_succ : read? state (fuel + 1) text = linesFrom fuel (line? state fuel text) := by
  rw [read?]
  rcases line? state fuel text with _ | ⟨tokens, after, _ | rest⟩ <;> rfl

theorem linesFrom_prepend (tokens : List Token)
    (read : Option (List Token × State × Option (List Char))) :
    linesFrom fuel (prepend tokens read) = prepend tokens (linesFrom fuel read) := by
  rcases read with _ | ⟨others, after, _ | rest⟩
  · rfl
  · simp [linesFrom, prepend]
  · exact (prepend_prepend _ _ _).symm

/-- How many steps a text may take at most. -/
def span : Nat :=
  2 * text.length + if state.atLineStart then 1 else 0

end Lines

theorem length_of_measure? {column found : Column} {carried count : Nat} {text rest : List Char}
    (measured : measure? column carried text = some (found, count, rest)) :
    rest.length ≤ text.length := by
  fun_induction measure? column carried text with
  | case1 column carried text ih => exact (ih measured).trans (Nat.le_succ _)
  | case2 column carried text ih => exact (ih measured).trans (Nat.le_succ _)
  | case3 column carried text ih => exact (ih measured).trans (Nat.le_succ _)
  | case4 => cases measured
  | case5 column carried text filled ih =>
      exact (ih measured).trans ((Nat.le_succ _).trans (Nat.le_succ _))
  | case6 => cases measured
  | case7 column carried text =>
      cases measured
      exact le_rfl

theorem length_of_next? {brackets opened text rest : List Char} {token : Token}
    (next : next? brackets text = some (token, opened, rest)) : rest.length < text.length := by
  obtain ⟨shown, rfl, spelling⟩ := spelling_of_next? next
  have filled := List.length_pos_iff.mpr spelling.ne_nil
  rw [List.length_append]
  omega

section Spans

variable {state after : State} {tokens : List Token} {text rest : List Char}

theorem span_of_inside (inside : state.atLineStart = false) : span state text = 2 * text.length := by
  simp [span, inside]

theorem span_le (state : State) (text : List Char) : span state text ≤ 2 * text.length + 1 := by
  unfold span
  split <;> omega

theorem length_skipGap_le (text : List Char) : (skipGap text).length ≤ text.length :=
  (List.dropWhile_suffix _).length_le

theorem length_dropWhile_le (text : List Char) :
    (text.dropWhile (· ≠ '\n')).length ≤ text.length :=
  (List.dropWhile_suffix _).length_le

/-- Every step leaves less to do. -/
theorem span_of_step (stepped : step state text = .go tokens after rest) :
    span after rest < span state text := by
  rw [step] at stepped
  split at stepped
  · next starts =>
      split at stepped
      · cases stepped
      · next column carried here measured =>
          have shorter := length_of_measure? measured
          have whole : span state text = 2 * text.length + 1 := by simp [span, starts]
          unfold stepBehind at stepped
          split at stepped
          · cases stepped
            have least := span_le state rest
            rw [List.length_cons] at shorter
            omega
          · next tail =>
              have part := length_dropWhile_le ('#' :: tail)
              split at stepped
              · next c behind left =>
                  cases stepped
                  have least := span_le state rest
                  rw [left, List.length_cons] at part
                  omega
              · cases stepped
                rw [whole]
                simp [span]
          · split at stepped
            · split at stepped
              · cases stepped
              · cases stepped
                rw [span_of_inside rfl]
                omega
            · cases stepped
              rw [span_of_inside rfl]
              omega
  · next inside =>
      rw [Bool.not_eq_true] at inside
      have shorter := length_skipGap_le text
      rw [span_of_inside inside]
      unfold stepAt at stepped
      split at stepped
      · split at stepped <;> cases stepped
      · next here same =>
          cases stepped
          have part := length_dropWhile_le here
          rw [same, List.length_cons] at shorter
          rw [span_of_inside inside]
          omega
      · next here same =>
          split at stepped
          · cases stepped
          · cases stepped
            have least := span_le { state with atLineStart := true } rest
            rw [same, List.length_cons] at shorter
            omega
      · cases stepped
      · next here _ same =>
          cases stepped
          rw [same, List.length_cons, List.length_cons] at shorter
          rw [span_of_inside inside]
          omega
      · split at stepped
        · cases stepped
        · next token opened left next =>
            cases stepped
            have less := length_of_next? next
            rw [show span { state with brackets := opened } rest = 2 * rest.length from
              span_of_inside inside]
            omega

theorem stepBehind_cases (column : Column) (carried : Nat) (here : List Char) :
    stepBehind state column carried here = .fail ∨
      ∃ tokens after rest, stepBehind state column carried here = .go tokens after rest := by
  unfold stepBehind
  split
  · exact .inr ⟨_, _, _, rfl⟩
  · split <;> exact .inr ⟨_, _, _, rfl⟩
  · split
    · split
      · exact .inl rfl
      · exact .inr ⟨_, _, _, rfl⟩
    · exact .inr ⟨_, _, _, rfl⟩

/-- A logical line ends where a line ends outside brackets. -/
theorem of_lineEnd (stepped : step state text = .lineEnd rest) :
    state.atLineStart = false ∧ state.brackets = [] ∧ skipGap text = '\n' :: rest := by
  rw [step] at stepped
  split at stepped
  · split at stepped
    · cases stepped
    · rcases stepBehind_cases _ _ _ with same | ⟨_, _, _, same⟩ <;> cases same.symm.trans stepped
  · next inside =>
      rw [Bool.not_eq_true] at inside
      refine ⟨inside, ?_⟩
      unfold stepAt at stepped
      split at stepped
      · split at stepped <;> cases stepped
      · cases stepped
      · next here same =>
          split at stepped
          · next empty =>
              cases stepped
              exact ⟨List.isEmpty_iff.mp empty, same⟩
          · cases stepped
      · cases stepped
      · cases stepped
      · split at stepped <;> cases stepped

theorem bare_of_done (stepped : step state text = .done) : state.brackets = [] := by
  rw [step] at stepped
  split at stepped
  · split at stepped
    · cases stepped
    · rcases stepBehind_cases _ _ _ with same | ⟨_, _, _, same⟩ <;> cases same.symm.trans stepped
  · unfold stepAt at stepped
    split at stepped
    · split at stepped
      · next empty => exact List.isEmpty_iff.mp empty
      · cases stepped
    · cases stepped
    · split at stepped <;> cases stepped
    · cases stepped
    · cases stepped
    · split at stepped <;> cases stepped

/-- A step finds a token, or keeps the brackets and finds marks of indentation, outside all brackets,
or nothing. -/
theorem of_go (stepped : step state text = .go tokens after rest) :
    (∃ token here, tokens = [token] ∧
        next? state.brackets here = some (token, after.brackets, rest)) ∨
      after.brackets = state.brackets ∧
        ∀ token ∈ tokens, (token = indent ∨ token = dedent) ∧ state.brackets = [] := by
  have nothing : ∀ token ∈ ([] : List Token),
      (token = indent ∨ token = dedent) ∧ state.brackets = [] := List.forall_mem_nil _
  rw [step] at stepped
  split at stepped
  · split at stepped
    · cases stepped
    · right
      unfold stepBehind at stepped
      split at stepped
      · cases stepped
        exact ⟨rfl, nothing⟩
      · split at stepped
        · cases stepped
          exact ⟨rfl, nothing⟩
        · cases stepped
          exact ⟨rfl, nothing⟩
      · split at stepped
        · next empty =>
            split at stepped
            · cases stepped
            · next moved =>
                cases stepped
                exact ⟨rfl, fun token member =>
                  ⟨Cut.layout_of_moveTo? moved token member, List.isEmpty_iff.mp empty⟩⟩
        · cases stepped
          exact ⟨rfl, nothing⟩
  · unfold stepAt at stepped
    split at stepped
    · split at stepped <;> cases stepped
    · cases stepped
      exact .inr ⟨rfl, nothing⟩
    · split at stepped
      · cases stepped
      · cases stepped
        exact .inr ⟨rfl, nothing⟩
    · cases stepped
    · cases stepped
      exact .inr ⟨rfl, nothing⟩
    · split at stepped
      · cases stepped
      · next next =>
          cases stepped
          exact .inl ⟨_, _, rfl, next⟩

theorem span_of_lineEnd (stepped : step state text = .lineEnd rest) :
    span { state with atLineStart := true } rest < span state text := by
  obtain ⟨inside, -, same⟩ := of_lineEnd stepped
  have shorter := length_skipGap_le text
  have least := span_le { state with atLineStart := true } rest
  rw [same, List.length_cons] at shorter
  rw [span_of_inside inside]
  omega

end Spans

/-! ### The tokens of a text -/

section Tokens

variable {state : State} {text : List Char}

/-- With steps enough, their number decides nothing. -/
theorem linesFrom_line? {fuel more fuel' more' : Nat} (enough : span state text < fuel)
    (enough' : span state text < more) (also : span state text < fuel')
    (also' : span state text < more') :
    linesFrom fuel (line? state more text) = linesFrom fuel' (line? state more' text) := by
  induction size : span state text using Nat.strong_induction_on
    generalizing state text fuel more fuel' more' with
  | _ size ih =>
      obtain ⟨more, rfl⟩ := Nat.exists_eq_add_one_of_ne_zero (Nat.ne_zero_of_lt enough')
      obtain ⟨more', rfl⟩ := Nat.exists_eq_add_one_of_ne_zero (Nat.ne_zero_of_lt also')
      rw [line?_step, line?_step]
      cases stepped : step state text with
      | fail => rfl
      | done => rfl
      | lineEnd rest =>
          have less := span_of_lineEnd stepped
          obtain ⟨fuel, rfl⟩ := Nat.exists_eq_add_one_of_ne_zero (Nat.ne_zero_of_lt enough)
          obtain ⟨fuel', rfl⟩ := Nat.exists_eq_add_one_of_ne_zero (Nat.ne_zero_of_lt also)
          refine congrArg (prepend [Token.lineEnd]) ?_
          rw [read?_succ, read?_succ]
          exact ih _ (size ▸ less) (by omega) (by omega) (by omega) (by omega) rfl
      | go tokens after rest =>
          have less := span_of_step stepped
          simp only [Step.line?, linesFrom_prepend]
          exact congrArg _ (ih _ (size ▸ less) (by omega) (by omega) (by omega) (by omega) rfl)

/-- The tokens of a text in a state, and how many levels are open at its end. -/
def tokens? (state : State) (text : List Char) : Option (List Token × Nat) :=
  read? state (span state text + 2) text

theorem tokens?_eq (state : State) (text : List Char) :
    tokens? state text = (step state text).tokens? state tokens? := by
  rw [tokens?, read?_succ, line?_step]
  cases stepped : step state text with
  | fail => rfl
  | done => rfl
  | lineEnd rest =>
      have less := span_of_lineEnd stepped
      refine congrArg (prepend [Token.lineEnd]) ?_
      rw [tokens?, read?_succ, read?_succ]
      exact linesFrom_line? (by omega) (by omega) (Nat.lt_succ_self _) (Nat.lt_succ_self _)
  | go tokens after rest =>
      have less := span_of_step stepped
      simp only [Step.line?, linesFrom_prepend]
      refine congrArg (prepend tokens) ?_
      rw [tokens?, read?_succ]
      exact linesFrom_line? (by omega) (by omega) (Nat.lt_succ_self _) (Nat.lt_succ_self _)

theorem ofChars?_eq (text : List Char) : ofChars? text = tokens? .start text := by
  have whole : span .start text = 2 * text.length + 1 := rfl
  rw [ofChars?, tokens?, stepsOf, read?_succ, read?_succ]
  exact linesFrom_line? (by omega) (by omega) (by omega) (by omega)

theorem tokens?_of_go {tokens : List Token} {after : State} {rest : List Char}
    (stepped : step state text = .go tokens after rest) :
    tokens? state text = prepend tokens (tokens? after rest) := by
  rw [tokens?_eq, stepped]
  rfl

/-- Steps lead from one place to the next, so what holds of a place when it holds of the next one
holds of all. -/
theorem step_induction {motive : State → List Char → Prop}
    (one : ∀ state text,
      (∀ tokens after rest, step state text = .go tokens after rest → motive after rest) →
      (∀ rest, step state text = .lineEnd rest → motive { state with atLineStart := true } rest) →
      motive state text) (state : State) (text : List Char) : motive state text := by
  induction size : span state text using Nat.strong_induction_on generalizing state text with
  | _ size ih =>
      refine one state text (fun tokens after rest stepped => ?_) fun rest stepped => ?_
      · exact ih _ (size ▸ span_of_step stepped) _ _ rfl
      · exact ih _ (size ▸ span_of_lineEnd stepped) _ _ rfl

end Tokens

/-! ### Gaps -/

section Gaps

variable {state : State} {text : List Char}

theorem tokens?_congr (inside : state.atLineStart = false) {other : List Char}
    (same : skipGap text = skipGap other) : tokens? state text = tokens? state other := by
  have inside : ¬ state.atLineStart = true := by simp [inside]
  rw [tokens?_eq, tokens?_eq state other, step, step, if_neg inside, if_neg inside, same]

theorem step_of_shown {c : Char} (inside : state.atLineStart = false)
    (shown : (c == ' ' || c == '\x0c' || c == '\t') = false) (rest : List Char) :
    step state (c :: rest) = stepAt state (c :: rest) := by
  rw [step, if_neg (by simp [inside]), skipGap, List.dropWhile_cons_of_neg (by simp [shown])]

/-- Characters that begin no token. -/
def gapMarks : List Char :=
  [' ', '\t', '\x0c', '\n', '#', '\\']

theorem next?_of_mem_gapMarks {c : Char} (gap : c ∈ gapMarks) (brackets rest : List Char) :
    next? brackets (c :: rest) = none := by
  have all : ∀ c ∈ gapMarks, IsPlainHead c ∧ isAsciiDigit c = false ∧ (c == '.') = false ∧
      Answer.isPunctuation c = false := by
    decide
  obtain ⟨⟨noWord, noQuote, noName⟩, noDigit, noPoint, noMark⟩ := all c gap
  rw [next?, opening?_of_plain noWord noQuote]
  simp only [noName, noDigit, noPoint]
  rw [if_neg Bool.false_ne_true, Bool.false_and, Bool.or_false, if_neg Bool.false_ne_true]
  cases found : symbol? (c :: rest) with
  | none => rfl
  | some found' =>
      obtain ⟨shown, behind⟩ := found'
      obtain ⟨whole, filled, -, -⟩ := symbol?_spec found
      obtain ⟨d, others, rfl⟩ := List.exists_cons_of_ne_nil filled
      obtain ⟨rfl, -⟩ := List.cons.inj whole
      rw [punctuation_of_symbol? found c List.mem_cons_self] at noMark
      cases noMark

theorem stepAt_of_ne {c : Char} (noComment : c ≠ '#') (noFeed : c ≠ '\n') (noEscape : c ≠ '\\')
    (rest : List Char) : stepAt state (c :: rest) =
      match next? state.brackets (c :: rest) with
      | none => .fail
      | some (token, opened, behind) => .go [token] { state with brackets := opened } behind := by
  rw [stepAt]
  · exact (List.cons_ne_nil _ _ ·)
  · exact fun _ same => noComment (List.cons.inj same).1
  · exact fun _ same => noFeed (List.cons.inj same).1
  · exact fun same => noEscape (List.cons.inj same).1
  · exact fun _ same => noEscape (List.cons.inj same).1

/-- Where a token stands, whatever brackets are open. -/
theorem step_of_isSome {brackets : List Char} (inside : state.atLineStart = false)
    (begins : (next? brackets text).isSome = true) : step state text =
      match next? state.brackets text with
      | none => .fail
      | some (token, opened, behind) => .go [token] { state with brackets := opened } behind := by
  cases text with
  | nil => cases begins
  | cons c text =>
      have noGap : c ∉ gapMarks := fun gap => by
        rw [next?_of_mem_gapMarks gap] at begins
        cases begins
      simp only [gapMarks, List.mem_cons, List.not_mem_nil, or_false, not_or] at noGap
      obtain ⟨noSpace, noTab, noPage, noFeed, noComment, noEscape⟩ := noGap
      rw [step_of_shown inside (by simp [noSpace, noTab, noPage]),
        stepAt_of_ne noComment noFeed noEscape]

theorem step_of_next? {opened rest : List Char} {token : Token} (inside : state.atLineStart = false)
    (read : next? state.brackets text = some (token, opened, rest)) :
    step state text = .go [token] { state with brackets := opened } rest := by
  rw [step_of_isSome inside (Option.isSome_of_eq_some read), read]

theorem tokens?_skipGap (inside : state.atLineStart = false) :
    tokens? state (skipGap text) = tokens? state text :=
  tokens?_congr inside (List.dropWhile_idempotent _ _)

/-- The indentation of a line says nothing inside a line. -/
theorem tokens?_of_measure? (inside : state.atLineStart = false) (column : Column) (carried : Nat) :
    tokens? state text =
      match measure? column carried text with
      | none => none
      | some (_, _, here) => tokens? state here := by
  have failing {text : List Char} (fails : stepAt state ('\\' :: text) = .fail) :
      tokens? state ('\\' :: text) = none := by
    rw [tokens?_eq, step_of_shown inside rfl, fails]
    rfl
  fun_induction measure? column carried text with
  | case1 column carried text ih => exact ih ▸ tokens?_congr inside rfl
  | case2 column carried text ih => exact ih ▸ tokens?_congr inside rfl
  | case3 column carried text ih => exact ih ▸ tokens?_congr inside rfl
  | case4 => exact failing rfl
  | case5 column carried text filled ih =>
      have stepped : step state ('\\' :: '\n' :: text) = .go [] state text := by
        rw [step_of_shown inside rfl, stepAt]
        exact filled
      rw [tokens?_of_go stepped, prepend_nil]
      exact ih
  | case6 column carried text other _ =>
      refine failing ?_
      rw [stepAt, next?_of_mem_gapMarks (by decide)]
      all_goals simp_all
  | case7 column carried text => rfl

/-- Inside brackets it makes no difference whether a line starts. -/
theorem tokens?_lineStart (levels : List Column) {brackets : List Char} (filled : brackets ≠ []) :
    tokens? ⟨levels, brackets, true⟩ text = tokens? ⟨levels, brackets, false⟩ text := by
  have nonempty : brackets.isEmpty = false := by simpa using filled
  have inside : (⟨levels, brackets, false⟩ : State).atLineStart = false := rfl
  have behind {c : Char} {rest : List Char} {after : State} {left : List Char}
      (shown : (c == ' ' || c == '\x0c' || c == '\t') = false)
      (stepped : stepAt ⟨levels, brackets, false⟩ (c :: rest) = .go [] after left) :
      tokens? ⟨levels, brackets, false⟩ (c :: rest) = tokens? after left := by
    rw [tokens?_of_go ((step_of_shown inside shown rest).trans stepped), prepend_nil]
  rw [tokens?_of_measure? inside ⟨0, 0⟩ 0, tokens?_eq, step, if_pos rfl]
  rcases measure? ⟨0, 0⟩ 0 text with _ | ⟨column, carried, here⟩
  · rfl
  · simp only []
    unfold stepBehind
    have lineEnd (rest : List Char) : tokens? ⟨levels, brackets, false⟩ ('\n' :: rest) =
        tokens? ⟨levels, brackets, true⟩ rest :=
      behind rfl (by simp [stepAt, nonempty])
    split
    · next rest => rw [lineEnd, Step.tokens?, prepend_nil]
    · next rest =>
        rw [behind rfl rfl, List.dropWhile_cons_of_pos (by decide)]
        split
        · next left =>
            obtain rfl := Cut.exists_of_dropWhile left
            rw [left, lineEnd, Step.tokens?, prepend_nil]
        · next left => rw [left, Step.tokens?, prepend_nil]
    · rw [nonempty, if_neg Bool.false_ne_true, Step.tokens?, prepend_nil]

end Gaps

end Token
end Snippet
end AnswerKey
