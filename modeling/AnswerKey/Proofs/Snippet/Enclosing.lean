import AnswerKey.Proofs.Snippet.Closing

namespace AnswerKey
namespace Snippet
namespace Token

/-!
Texts between brackets.

Inside brackets there is no layout.  So a text between two round brackets is read as it is outside
them, but for the marks of layout (`encloses`).  It is not when it ends in a comment, which takes the
closing bracket in, or when its own brackets nest as deep as brackets may.
-/

open Text Construct Lexeme

/-! ### Brackets around a text -/

def opens : Token → Bool
  | .symbol shown => ["(", "[", "\x7b"].contains shown
  | _ => false

def closes : Token → Bool
  | .symbol shown => [")", "]", "\x7d"].contains shown
  | _ => false

/-- How many brackets are open behind a token. -/
def openedBehind (count : Nat) (token : Token) : Nat :=
  if token.opens then count + 1 else if token.closes then count - 1 else count

/-- How many brackets are open at once at most, where some are open at first. -/
def height (count : Nat) : List Token → Nat
  | [] => count
  | token :: rest => max count (height (token.openedBehind count) rest)

theorem le_height (count : Nat) (tokens : List Token) : count ≤ height count tokens := by
  cases tokens with
  | nil => exact le_rfl
  | cons token rest => exact le_max_left _ _

section Brackets

variable {brackets opened shown text rest : List Char} {token : Token}

theorem contains_single (marks : List Char) (shown : List Char) :
    (marks.map fun c => String.ofList [c]).contains (.ofList shown) = true ↔
      ∃ c ∈ marks, shown = [c] := by
  simp only [List.contains_iff_mem, List.mem_map]
  refine exists_congr fun c => and_congr_right fun _ => ?_
  rw [String.ofList_inj]
  exact eq_comm

theorem opens_symbol (shown : List Char) :
    (Token.symbol (.ofList shown)).opens = true ↔ ∃ c ∈ ['(', '[', '\x7b'], shown = [c] :=
  contains_single ['(', '[', '\x7b'] shown

theorem closes_symbol (shown : List Char) :
    (Token.symbol (.ofList shown)).closes = true ↔ ∃ c ∈ [')', ']', '\x7d'], shown = [c] :=
  contains_single [')', ']', '\x7d'] shown

theorem openedBehind_of_plain (plain : token.opens = false ∧ token.closes = false) (count : Nat) :
    token.openedBehind count = count := by
  rw [openedBehind, plain.1, plain.2, if_neg Bool.false_ne_true, if_neg Bool.false_ne_true]

theorem openedBehind_of_opens (opening : token.opens = true) (count : Nat) :
    token.openedBehind count = count + 1 :=
  if_pos opening

theorem openedBehind_of_closes (closing : token.closes = true) (count : Nat) :
    token.openedBehind count = count - 1 := by
  refine (if_neg ?_).trans (if_pos closing)
  cases token with
  | symbol shown =>
      simp only [closes, List.contains_iff_mem, List.mem_cons, List.not_mem_nil, or_false] at closing
      rcases closing with rfl | rfl | rfl <;> decide
  | _ => cases closing

theorem isSome_closing?_iff (c : Char) :
    (closing? c).isSome = true ↔ c ∈ ['(', '[', '\x7b'] := by
  unfold closing?
  split <;> simp_all

/-- A symbol opens and closes brackets alike when there is one more below them all, as far as brackets
may nest. -/
theorem brackets?_enclosed (nested : brackets? shown brackets = some opened) :
    opened.length = openedBehind brackets.length (.symbol (.ofList shown)) ∧
      (brackets.length < bracketLimit → brackets? shown (brackets ++ ['(']) =
        if opened.length < bracketLimit then some (opened ++ ['(']) else none) := by
  rw [openedBehind]
  unfold brackets? at nested ⊢
  split at nested
  · next c =>
      have single (marks : List Char) : (∃ d ∈ marks, [c] = [d]) ↔ c ∈ marks := by simp
      rw [if_congr ((opens_symbol _).trans (single _)) rfl rfl,
        if_congr ((closes_symbol _).trans (single _)) rfl rfl]
      split at nested
      · next opens =>
          rw [if_pos opens, if_pos ((isSome_closing?_iff c).mp opens)]
          split at nested
          · cases nested
          · cases nested
            refine ⟨rfl, fun _ => ?_⟩
            rw [List.length_append, List.length_singleton, List.length_cons, ← ite_not]
            exact if_congr Nat.not_le rfl rfl
      · next noOpening =>
          rw [if_neg noOpening, if_neg (mt (isSome_closing?_iff c).mpr noOpening)]
          split at nested
          · next closes =>
              rw [if_pos closes, if_pos (by simpa using closes)]
              split at nested
              · next top below =>
                  split at nested
                  · next same =>
                      cases nested
                      refine ⟨rfl, fun low => ?_⟩
                      rw [if_pos ((Nat.lt_succ_self _).trans low)]
                      exact if_pos same
                  · cases nested
              · cases nested
          · next other =>
              cases nested
              rw [if_neg other, if_neg (by simpa using other)]
              exact ⟨rfl, fun low => (if_pos low).symm⟩
  · next long =>
      cases nested
      have never (marks : List Char) : ¬ ∃ c ∈ marks, shown = [c] := by
        rintro ⟨c, -, rfl⟩
        exact long c rfl
      rw [if_neg (mt (opens_symbol _).mp (never _)), if_neg (mt (closes_symbol _).mp (never _))]
      exact ⟨rfl, fun low => (if_pos low).symm⟩

/-- With no bracket open, nothing closes one. -/
theorem ne_nil_of_brackets? (nested : brackets? shown brackets = some opened)
    (closing : (Token.symbol (.ofList shown)).closes = true) : brackets ≠ [] := by
  rintro rfl
  obtain ⟨c, mark, rfl⟩ := (closes_symbol shown).mp closing
  simp only [List.mem_cons, List.not_mem_nil, or_false] at mark
  rcases mark with rfl | rfl | rfl <;> cases nested

theorem plain_of_word {word : List Char} (known : ofWord? word = some token) :
    token.opens = false ∧ token.closes = false := by
  unfold ofWord? at known
  split at known
  · cases known
    split <;> exact ⟨rfl, rfl⟩
  · split at known
    · cases known
      exact ⟨rfl, rfl⟩
    · cases known

/-- A token is read alike inside one bracket more, as far as brackets may nest. -/
theorem next?_enclosed (read : next? brackets text = some (token, opened, rest)) :
    opened.length = openedBehind brackets.length token ∧
      (token.closes = true → brackets ≠ []) ∧
      (brackets.length < bracketLimit → next? (brackets ++ ['(']) text =
        if opened.length < bracketLimit then some (token, opened ++ ['('], rest) else none) := by
  have noBracket (plain : token.opens = false ∧ token.closes = false) :
      brackets.length = openedBehind brackets.length token ∧
        (token.closes = true → brackets ≠ []) := by
    refine ⟨(openedBehind_of_plain plain _).symm, fun closing => ?_⟩
    rw [plain.2] at closing
    cases closing
  unfold next? at read ⊢
  split at read
  · next opens =>
      obtain ⟨⟨_, _⟩, body, same⟩ := Option.map_eq_some_iff.mp read
      cases same
      have plain : token.opens = false ∧ token.closes = false := by
        obtain ⟨_, -, same⟩ := Option.map_eq_some_iff.mp body
        cases same
        exact ⟨rfl, rfl⟩
      rw [body]
      exact ⟨(noBracket plain).1, (noBracket plain).2, fun low => (if_pos low).symm⟩
  · next noString =>
      split at read
      · cases read
      · next c tail =>
          simp only []
          split at read
          · next starts =>
              obtain ⟨found, known, same⟩ := Option.map_eq_some_iff.mp read
              cases same
              have plain := plain_of_word known
              rw [if_pos starts, known]
              exact ⟨(noBracket plain).1, (noBracket plain).2, fun low => (if_pos low).symm⟩
          · next noName =>
              rw [if_neg noName]
              split at read
              · next starts =>
                  obtain ⟨⟨_, _⟩, number, same⟩ := Option.map_eq_some_iff.mp read
                  cases same
                  rw [if_pos starts, number]
                  exact ⟨(noBracket ⟨rfl, rfl⟩).1, (noBracket ⟨rfl, rfl⟩).2, fun low => (if_pos low).symm⟩
              · next noNumber =>
                  rw [if_neg noNumber]
                  split at read
                  · cases read
                  · next shown left symbol =>
                      obtain ⟨_, nested, same⟩ := Option.map_eq_some_iff.mp read
                      cases same
                      obtain ⟨count, onward⟩ := brackets?_enclosed nested
                      refine ⟨count, ne_nil_of_brackets? nested, fun low => ?_⟩
                      rw [onward low]
                      split <;> rfl

end Brackets

/-! ### Gaps in front of a bracket -/

section Gaps

variable {text here : List Char}

theorem measure?_closed {column found : Column} {carried count : Nat}
    (measured : measure? column carried text = some (found, count, here)) (more : List Char) :
    measure? column carried (text ++ ')' :: more) = some (found, count, here ++ ')' :: more) := by
  fun_induction measure? column carried text with
  | case1 column carried text ih => exact ih measured
  | case2 column carried text ih => exact ih measured
  | case3 column carried text ih => exact ih measured
  | case4 => cases measured
  | case5 column carried text filled ih =>
      have onward := ih measured
      rw [List.cons_append, List.cons_append, measure?]
      · exact onward
      · simp
  | case6 => cases measured
  | case7 column carried text noSpace noTab noFeed noLast noJoin noEscape =>
      cases measured
      cases here with
      | nil => rfl
      | cons c here =>
          rw [List.cons_append, measure?]
          · rintro _ ⟨⟩
            exact noSpace _ rfl
          · rintro _ ⟨⟩
            exact noTab _ rfl
          · rintro _ ⟨⟩
            exact noFeed _ rfl
          · exact fun same => noEscape here (by rw [(List.cons.inj same).1])
          · exact fun _ same => noEscape here (by rw [(List.cons.inj same).1])
          · rintro _ ⟨⟩
            exact noEscape _ rfl

theorem skipGap_closed (text more : List Char) :
    skipGap (text ++ ')' :: more) = skipGap text ++ ')' :: more := by
  induction text with
  | nil => rfl
  | cons c text ih =>
      simp only [skipGap, List.cons_append, List.dropWhile_cons] at ih ⊢
      split
      · exact ih
      · rfl

theorem comment_closed {c : Char} {rest : List Char} (left : text.dropWhile (· ≠ '\n') = c :: rest)
    (more : List Char) : (text ++ more).dropWhile (· ≠ '\n') = c :: rest ++ more := by
  rw [List.dropWhile_append, left]
  rfl

theorem comment_of_unended (left : text.dropWhile (· ≠ '\n') = []) (more : List Char) :
    (text ++ more).dropWhile (· ≠ '\n') = more.dropWhile (· ≠ '\n') := by
  rw [List.dropWhile_append, left]
  rfl

end Gaps

/-! ### Texts in brackets -/

/-- Whether a token is more than a mark of layout. -/
def isShown : Token → Bool
  | .lineEnd => false
  | .indent => false
  | .dedent => false
  | .finish => false
  | _ => true

/-- Behind an opening round bracket at the level of statements, and some brackets in it. -/
def State.within (brackets : List Char) : State :=
  ⟨[⟨0, 0⟩], brackets ++ ['('], false⟩

theorem height_of_layout {tokens : List Token} (layout : ∀ token ∈ tokens, token.isShown = false)
    (count : Nat) (others : List Token) : height count (tokens ++ others) = height count others := by
  induction tokens with
  | nil => rfl
  | cons token tokens ih =>
      rw [List.forall_mem_cons] at layout
      have still : token.openedBehind count = count := by
        cases token <;> first | rfl | cases layout.1
      rw [List.cons_append, height, still, ih layout.2]
      exact max_eq_right (le_height _ _)

theorem isShown_of_next? {brackets opened text rest : List Char} {token : Token}
    (read : next? brackets text = some (token, opened, rest)) : token.isShown = true := by
  obtain ⟨shown, rfl, spelling⟩ := spelling_of_next? read
  cases spelling with
  | word _ _ known =>
      unfold ofWord? at known
      split at known
      · cases known
        split <;> rfl
      · split at known
        · cases known
          rfl
        · cases known
  | number => rfl
  | symbol => rfl
  | string => rfl

section Within

variable {brackets opened text rest : List Char} {token : Token}

theorem tokens?_within_feed :
    tokens? (.within brackets) ('\n' :: text) = tokens? (.within brackets) text := by
  have filled : brackets ++ ['('] ≠ [] := by simp
  have stepped : step (.within brackets) ('\n' :: text) =
      .go [] ⟨[⟨0, 0⟩], brackets ++ ['('], true⟩ text := by
    rw [step_of_shown rfl rfl]
    exact if_neg (by simp [State.within])
  rw [tokens?_of_go stepped, prepend_nil, tokens?_lineStart _ filled]
  rfl

theorem tokens?_within_comment : tokens? (.within brackets) ('#' :: text) =
    tokens? (.within brackets) (text.dropWhile (· ≠ '\n')) := by
  rw [tokens?_of_go (step_of_shown rfl rfl text), prepend_nil]

theorem tokens?_within_nil : tokens? (.within brackets) [] = none := by
  have stepped : step (.within brackets) [] = .fail := by
    simp [step, State.within, skipGap, stepAt]
  rw [tokens?_eq, stepped]
  rfl

/-- A bracket that stands in a comment does not close anything. -/
theorem tokens?_within_unended (left : text.dropWhile (· ≠ '\n') = []) :
    tokens? (.within brackets) ('#' :: (text ++ [')', '\n'])) = none := by
  rw [tokens?_within_comment, comment_of_unended left]
  exact tokens?_within_feed.trans tokens?_within_nil

theorem tokens?_within_next (read : next? brackets text = some (token, opened, rest))
    (low : brackets.length < bracketLimit) : tokens? (.within brackets) text =
      if opened.length < bracketLimit then prepend [token] (tokens? (.within opened) rest)
      else none := by
  have onward : next? (State.within brackets).brackets text = _ := (next?_enclosed read).2.2 low
  rw [tokens?_eq, step_of_isSome rfl (Option.isSome_of_eq_some read), onward]
  by_cases few : opened.length < bracketLimit
  · rw [if_pos few, if_pos few]
    rfl
  · rw [if_neg few, if_neg few]
    rfl

/-- The closing bracket ends the line, and with it the text. -/
theorem tokens?_within_closing : tokens? (.within []) [')', '\n'] =
    some ([.symbol ")", .lineEnd, .finish], 0) := by
  decide +kernel

end Within

/-- Whether a text in brackets is read as outside them, without its layout.  If it is not, its brackets
nest too deep there, or it hides the closing bracket, which goes unnoticed behind the text then. -/
def Enclosed (state : State) (text : List Char) (found : List Token × Nat) : Prop :=
  if height state.brackets.length found.1 < bracketLimit ∧
      tokens? state (text ++ [')']) ≠ some found then
    tokens? (.within state.brackets) (text ++ [')', '\n']) =
      some (found.1.filter isShown ++ [.symbol ")", .lineEnd, .finish], 0)
  else tokens? (.within state.brackets) (text ++ [')', '\n']) = none

/-- Any text in brackets is read so. -/
def Encloses (state : State) (text : List Char) : Prop :=
  state.brackets.length < bracketLimit →
    ∀ found, tokens? state text = some found → Enclosed state text found

namespace Encloses

variable {state after : State} {text rest : List Char} {tokens : List Token}

/-- A step in the text is taken in brackets as well, and in front of one. -/
theorem of_step (stepped : tokens? state text = prepend tokens (tokens? after rest))
    (outside : tokens? state (text ++ [')']) = prepend tokens (tokens? after (rest ++ [')'])))
    (inside : state.brackets.length < bracketLimit →
      tokens? (.within state.brackets) (text ++ [')', '\n']) =
        if after.brackets.length < bracketLimit then
          prepend (tokens.filter isShown) (tokens? (.within after.brackets) (rest ++ [')', '\n']))
        else none)
    (count : ∀ others, height state.brackets.length (tokens ++ others) =
      max state.brackets.length (height after.brackets.length others))
    (behind : Encloses after rest) : Encloses state text := by
  rintro low ⟨whole, levels⟩ read
  rw [stepped] at read
  obtain ⟨others, later, rfl⟩ := Cut.exists_of_prepend read
  have flat : height state.brackets.length (tokens ++ others) < bracketLimit ↔
      height after.brackets.length others < bracketLimit := by
    rw [count, Nat.max_lt]
    exact and_iff_right low
  have noticed : prepend tokens (tokens? after (rest ++ [')'])) = some (tokens ++ others, levels) ↔
      tokens? after (rest ++ [')']) = some (others, levels) := by
    refine ⟨fun put => ?_, fun same => by rw [same]; rfl⟩
    obtain ⟨others', found, same⟩ := Cut.exists_of_prepend put
    rw [found, List.append_cancel_left same]
  rw [Enclosed, outside, inside low, if_congr (and_congr flat (not_congr noticed)) rfl rfl]
  by_cases few : after.brackets.length < bracketLimit
  · have enclosed := behind few _ later
    rw [if_pos few]
    unfold Enclosed at enclosed
    split at enclosed
    · next fits =>
        rw [if_pos fits, enclosed, List.filter_append]
        simp [prepend]
    · next fails =>
        rw [if_neg fails, enclosed]
        rfl
  · rw [if_neg few, if_neg fun fits => few ((le_height _ _).trans_lt fits.1)]

/-- A step that finds layout at most. -/
theorem of_layout (stepped : tokens? state text = prepend tokens (tokens? after rest))
    (outside : tokens? state (text ++ [')']) = prepend tokens (tokens? after (rest ++ [')'])))
    (inside : tokens? (.within state.brackets) (text ++ [')', '\n']) =
      tokens? (.within state.brackets) (rest ++ [')', '\n']))
    (same : after.brackets = state.brackets) (layout : ∀ token ∈ tokens, token.isShown = false)
    (behind : Encloses after rest) : Encloses state text := by
  refine of_step stepped outside (fun low => ?_) (fun others => ?_) behind
  · have nothing : tokens.filter isShown = [] :=
      List.filter_eq_nil_iff.mpr fun token member => by simp [layout token member]
    rw [same, if_pos low, nothing, prepend_nil, inside]
  · rw [height_of_layout layout, same, max_eq_right (le_height _ _)]

/-- What ends in a comment hides the bracket. -/
theorem of_hidden (inside : tokens? (.within state.brackets) (text ++ [')', '\n']) = none)
    (outside : tokens? state (text ++ [')']) = tokens? state text) : Encloses state text := by
  intro _ found read
  rw [Enclosed, if_neg fun fits => fits.2 (outside.trans read)]
  exact inside

end Encloses

section Starts

variable {state : State} {text here : List Char} {column : Column} {carried : Nat}

theorem tokens?_of_starts (starts : state.atLineStart = true)
    (measured : measure? ⟨0, 0⟩ 0 text = some (column, carried, here)) :
    tokens? state text = (stepBehind state column carried here).tokens? state tokens? := by
  rw [tokens?_eq, step, if_pos starts, measured]

theorem stepBehind_of_shown (noFeed : ¬ ∃ rest, here = '\n' :: rest)
    (noComment : ¬ ∃ rest, here = '#' :: rest) : stepBehind state column carried here =
      if state.brackets.isEmpty then
        match moveTo? (if carried = 0 then column else ⟨carried, carried⟩) state.levels with
        | none => .fail
        | some (marks, levels) => .go marks { state with levels := levels, atLineStart := false } here
      else .go [] { state with atLineStart := false } here := by
  unfold stepBehind
  split
  · exact (noFeed ⟨_, rfl⟩).elim
  · exact (noComment ⟨_, rfl⟩).elim
  · rfl

/-- A text at the start of a line, if what stands behind its first step is read so in brackets. -/
theorem encloses_of_starts (starts : state.atLineStart = true)
    (behind : ∀ tokens after rest, step state text = .go tokens after rest → Encloses after rest) :
    Encloses state text := by
  rcases measured : measure? ⟨0, 0⟩ 0 text with _ | ⟨column, carried, here⟩
  · rintro - found read
    rw [tokens?_eq, step, if_pos starts, measured] at read
    cases read
  · have within (brackets : List Char) : tokens? (.within brackets) (text ++ [')', '\n']) =
        tokens? (.within brackets) (here ++ [')', '\n']) := by
      rw [tokens?_of_measure? rfl ⟨0, 0⟩ 0, measure?_closed measured]
    have stepped := tokens?_of_starts starts measured
    have outside := tokens?_of_starts starts (measure?_closed measured [])
    have bare : ∀ token ∈ ([] : List Token), token.isShown = false := List.forall_mem_nil _
    rw [step, if_pos starts, measured] at behind
    dsimp only at behind
    by_cases feed : ∃ rest, here = '\n' :: rest
    · obtain ⟨rest, rfl⟩ := feed
      exact .of_layout stepped outside ((within _).trans tokens?_within_feed) rfl bare
        (behind _ _ _ rfl)
    · by_cases comment : ∃ rest, here = '#' :: rest
      · obtain ⟨rest, rfl⟩ := comment
        have skip (text : List Char) :
            ('#' :: text).dropWhile (· ≠ '\n') = text.dropWhile (· ≠ '\n') :=
          List.dropWhile_cons_of_pos (by decide)
        simp only [List.cons_append, stepBehind, skip] at stepped outside behind
        rcases left : rest.dropWhile (· ≠ '\n') with _ | ⟨c, onward⟩
        · rw [comment_of_unended left] at outside
          rw [left] at stepped
          exact .of_hidden ((within _).trans (tokens?_within_unended left)) (outside.trans stepped.symm)
        · obtain rfl := Cut.exists_of_dropWhile left
          rw [comment_closed left] at outside
          rw [left] at stepped behind
          refine .of_layout stepped outside ?_ rfl bare (behind _ _ _ rfl)
          rw [within, List.cons_append, tokens?_within_comment, comment_closed left, List.cons_append,
            tokens?_within_feed]
      · have unlike (mark : Char) (apart : mark ≠ ')') (other : ¬ ∃ rest, here = mark :: rest) :
            ¬ ∃ rest, here ++ [')'] = mark :: rest := by
          rintro ⟨rest, same⟩
          rcases here with _ | ⟨c, here⟩
          · exact apart (List.cons.inj same).1.symm
          · exact other ⟨here, by rw [(List.cons.inj same).1]⟩
        rw [stepBehind_of_shown feed comment] at stepped behind
        rw [stepBehind_of_shown (unlike _ (by decide) feed) (unlike _ (by decide) comment)] at outside
        split at stepped
        · next empty =>
            rw [if_pos empty] at outside behind
            rcases moved : moveTo? (if carried = 0 then column else ⟨carried, carried⟩)
              state.levels with _ | ⟨marks, levels⟩
            · rw [moved] at stepped
              exact fun _ _ read => absurd (stepped.symm.trans read) (Option.some_ne_none _).symm
            · rw [moved] at stepped outside behind
              refine .of_layout stepped outside (within _) rfl ?_ (behind _ _ _ rfl)
              intro token member
              rcases Cut.layout_of_moveTo? moved token member with rfl | rfl <;> rfl
        · next filled =>
            rw [if_neg filled] at outside behind
            exact .of_layout stepped outside (within _) rfl bare (behind _ _ _ rfl)

theorem tokens?_of_inside (inside : state.atLineStart = false) :
    tokens? state text = (stepAt state (skipGap text)).tokens? state tokens? := by
  rw [tokens?_eq, step, if_neg (by simp [inside])]

/-- A text inside a line, if what stands behind its first step is read so in brackets. -/
theorem encloses_of_inside (inside : state.atLineStart = false)
    (behind : ∀ tokens after rest, step state text = .go tokens after rest → Encloses after rest)
    (behindEnd : ∀ rest, step state text = .lineEnd rest →
      Encloses { state with atLineStart := true } rest) : Encloses state text := by
  have within (brackets : List Char) : tokens? (.within brackets) (text ++ [')', '\n']) =
      tokens? (.within brackets) (skipGap text ++ [')', '\n']) := by
    rw [← tokens?_skipGap rfl, skipGap_closed]
  have stepped := @tokens?_of_inside state text inside
  have outside := @tokens?_of_inside state (text ++ [')']) inside
  rw [skipGap_closed] at outside
  rw [step, if_neg (by simp [inside])] at behind behindEnd
  have bare : ∀ token ∈ ([] : List Token), token.isShown = false := List.forall_mem_nil _
  generalize skipGap text = here at *
  have failed (fails : stepAt state here = .fail) : Encloses state text := by
    rw [fails] at stepped
    exact fun _ _ read => absurd (stepped.symm.trans read) (Option.some_ne_none _).symm
  rcases here with _ | ⟨c, rest⟩
  · by_cases empty : state.brackets = []
    · have done : stepAt state [] = .done := if_pos (List.isEmpty_iff.mpr empty)
      have noticed : stepAt state [')'] = .fail := by
        have none : next? [] [')'] = none := by decide
        rw [stepAt_of_ne (by decide) (by decide) (by decide), empty, none]
      rintro - found read
      rw [done] at stepped
      cases stepped.symm.trans read
      have flat : height 0 [finish] < bracketLimit := by decide
      rw [Enclosed, outside, List.nil_append, noticed, empty, if_pos ⟨flat, (Option.some_ne_none _).symm⟩,
        within]
      exact tokens?_within_closing
    · exact failed (if_neg (by simpa using empty))
  · rw [List.cons_append] at outside
    simp only [List.cons_append] at within
    by_cases comment : c = '#'
    · subst comment
      simp only [stepAt] at stepped outside behind
      rcases left : rest.dropWhile (· ≠ '\n') with _ | ⟨c, onward⟩
      · rw [comment_of_unended left] at outside
        rw [left] at stepped
        exact .of_hidden ((within _).trans (tokens?_within_unended left)) (outside.trans stepped.symm)
      · rw [comment_closed left] at outside
        rw [left] at stepped behind
        refine .of_layout stepped outside ?_ rfl bare (behind _ _ _ rfl)
        rw [within, tokens?_within_comment, comment_closed left]
    · by_cases feed : c = '\n'
      · subst feed
        simp only [stepAt] at stepped outside behind behindEnd
        by_cases empty : state.brackets.isEmpty = true
        · rw [if_pos empty] at stepped outside behindEnd
          refine .of_layout stepped outside ((within _).trans tokens?_within_feed) rfl ?_
            (behindEnd _ rfl)
          exact List.forall_mem_singleton.mpr rfl
        · rw [if_neg empty] at stepped outside behind
          exact .of_layout stepped outside ((within _).trans tokens?_within_feed) rfl bare
            (behind _ _ _ rfl)
      · by_cases escape : c = '\\'
        · subst escape
          have escaped (noFeed : ∀ left, rest ≠ '\n' :: left) : stepAt state ('\\' :: rest) = .fail := by
            rw [stepAt, next?_of_mem_gapMarks (by decide)]
            · exact (List.cons_ne_nil _ _ ·)
            · simp
            · simp
            · exact fun same => noFeed _ (List.cons.inj same).2
            · exact fun _ same => noFeed _ (List.cons.inj same).2
          rcases rest with _ | ⟨d, rest⟩
          · exact failed (escaped (by simp))
          · by_cases feed : d = '\n'
            · subst feed
              rcases rest with _ | ⟨e, rest⟩
              · exact failed rfl
              · refine .of_layout stepped outside ?_ rfl bare (behind _ _ _ rfl)
                rw [within, tokens?_of_go (step_of_shown rfl rfl _), prepend_nil]
                rfl
            · exact failed (escaped fun _ same => feed (List.cons.inj same).1)
        · rw [stepAt_of_ne comment feed escape] at stepped outside behind failed
          rcases read : next? state.brackets (c :: rest) with _ | ⟨token, opened, left⟩
          · exact failed (by rw [read])
          · have onward (more : List Char) : next? state.brackets (c :: (rest ++ ')' :: more)) =
                some (token, opened, left ++ ')' :: more) := next?_closed read more
            rw [read] at stepped behind
            rw [onward] at outside
            refine .of_step stepped outside (fun low => ?_) (fun others => ?_) (behind _ _ _ rfl)
            · rw [within, tokens?_within_next (onward ['\n']) low,
                List.filter_cons_of_pos (isShown_of_next? read)]
              rfl
            · rw [(next?_enclosed read).1]
              rfl

end Starts

/-- Every text in brackets is read so, as far as brackets may nest. -/
theorem encloses (state : State) (text : List Char) : Encloses state text := by
  induction state, text using step_induction with
  | _ state text behind behindEnd =>
      cases starts : state.atLineStart with
      | true => exact encloses_of_starts starts behind
      | false => exact encloses_of_inside starts behind behindEnd

/-! ### The call of a name -/

/-- A closing round bracket behind a text goes unnoticed: the text ends in a comment. -/
def HidesBracket (text : List Char) : Prop :=
  ofChars? (text ++ [')']) = ofChars? text

instance : DecidablePred HidesBracket :=
  fun text => inferInstanceAs (Decidable (ofChars? (text ++ [')']) = ofChars? text))

theorem next?_opening (text : List Char) :
    next? [] ('(' :: text) = some (.symbol "(", ['('], text) := by
  have long : ∀ symbol ∈ symbols3, symbol.toList.head? ≠ some '(' := by decide
  have short : ∀ symbol ∈ symbols2, symbol.toList.head? ≠ some '(' := by decide
  have read : symbol? ('(' :: text) = some (['('], text) := by
    unfold symbol?
    rw [if_neg fun member => long _ (List.contains_iff_mem.mp member) (by simp),
      if_neg fun member => short _ (List.contains_iff_mem.mp member) (by simp)]
    rfl
  exact next?_of_symbol (by decide) rfl read rfl

theorem next?_print (text : List Char) :
    next? [] ("print".toList ++ '(' :: text) = some (.name "print" true, [], '(' :: text) := by
  refine next?_of_word (by decide) ?_ (by decide +kernel) (by decide +kernel) ?_ rfl
  · rintro c ⟨⟩
    rfl
  · rintro c ⟨⟩
    rfl

/-- The tokens of a text between the brackets of a call. -/
theorem ofChars?_call (text : List Char) :
    ofChars? ("print(".toList ++ (text ++ [')', '\n'])) =
      prepend [.name "print" true, .symbol "("] (tokens? (.within []) (text ++ [')', '\n'])) := by
  rw [ofChars?_eq, tokens?_of_go (show step .start _ = .go [] ⟨[⟨0, 0⟩], [], false⟩ _ from rfl), prepend_nil]
  rw [tokens?_of_go (step_of_next? rfl (next?_print _)), tokens?_of_go (step_of_next? rfl (next?_opening _)),
    prepend_prepend]
  rfl

/-- The tokens of a text between the brackets of a call are those of the text, without its layout,
unless its brackets nest as deep as brackets may, or the text hides the closing bracket. -/
theorem ofChars?_call_eq {text : List Char} {tokens : List Token} {count : Nat}
    (read : ofChars? text = some (tokens, count)) :
    ofChars? ("print(".toList ++ (text ++ [')', '\n'])) =
      if height 0 tokens < bracketLimit ∧ ¬ HidesBracket text then
        some (.name "print" true :: .symbol "(" ::
          (tokens.filter isShown ++ [.symbol ")", .lineEnd, .finish]), 0)
      else none := by
  have hides : tokens? .start (text ++ [')']) = some (tokens, count) ↔ HidesBracket text := by
    rw [← read, ← ofChars?_eq]
    rfl
  rw [ofChars?_call, if_congr (and_congr_right fun _ => not_congr hides.symm) rfl rfl]
  rw [ofChars?_eq] at read
  have enclosed := encloses .start text (by decide) _ read
  unfold Enclosed at enclosed
  split at enclosed
  · next fits => exact (congrArg (prepend _) enclosed).trans (if_pos fits).symm
  · next fails => exact (congrArg (prepend _) enclosed).trans (if_neg fails).symm

end Token
end Snippet
end AnswerKey
