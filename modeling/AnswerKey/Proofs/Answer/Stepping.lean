import AnswerKey.Proofs.Answer.Following
import AnswerKey.Proofs.Grammar.Pasting

namespace AnswerKey
namespace Answer

/-!
Steps through normalised code.

A step that the reader of tokens takes in a text, it takes as well in what the pass that normalises
code writes for the text.  So the tokens of a text are found again in its normal form (`tokens?_flow`),
if each of them stays apart from what is behind it (`AreKept`).
-/

open Text Snippet Snippet.Token
open Snippet.Lexeme (isSpace skipGap isQuote IsOpening)

/-- Whether each of some tokens stays apart from those behind it. -/
def stayApart : List Token → Bool
  | [] => true
  | token :: behind => token.staysApart behind && stayApart behind

/-- Tokens that are read again when the blanks between them are dropped and their quotes replaced. -/
structure AreKept (tokens : List Token) : Prop where
  strings : ∀ literal, .string literal ∈ tokens → IsKept literal
  apart : stayApart tokens = true

theorem AreKept.of_append {first second : List Token} (kept : AreKept (first ++ second)) :
    AreKept second where
  strings literal member := kept.strings literal (List.mem_append_right first member)
  apart := by
    have apart := kept.apart
    induction first with
    | nil => exact apart
    | cons token first ih =>
        rw [List.cons_append, stayApart, Bool.and_eq_true] at apart
        refine ih ⟨fun literal member => kept.strings literal (List.mem_cons_of_mem _ member), apart.2⟩
          apart.2

/-- Whether a place may be that of a state in front of a text. -/
def Place.Fits (place : Place) (state : State) (text : List Char) : Prop :=
  if state.atLineStart then place = .lead 0 ∧ (Shows text → IsTidyLine text)
  else ∀ column, place = .lead column → (skipGap text).head? ≠ some '\n'

theorem Place.fits_lineStart {state : State} {text : List Char} (starts : state.atLineStart = true)
    (line : Shows text → IsTidyLine text) : (Place.lead 0).Fits state text := by
  rw [Fits, if_pos starts]
  exact ⟨rfl, line⟩

theorem Place.fits_inside {state : State} {text : List Char} (inside : state.atLineStart = false)
    (gap behindPunctuation : Bool) : (Place.inside gap behindPunctuation).Fits state text := by
  rw [Fits, if_neg (by simp [inside])]
  exact fun _ same => nomatch same

theorem Place.fits_lead {state : State} {text : List Char} (inside : state.atLineStart = false)
    (noFeed : (skipGap text).head? ≠ some '\n') (column : Nat) :
    (Place.lead column).Fits state text := by
  rw [Fits, if_neg (by simp [inside])]
  exact fun _ _ => noFeed

/-! ### The start of a line -/

section LineStart

variable {state : State} {text rest : List Char} {margin : Nat}

theorem stepBehind_of_head {here : List Char} (plain : ∀ c ∈ here.head?, c ≠ '\n' ∧ c ≠ '#')
    (state : State) (column : Column) (carried : Nat) :
    stepBehind state column carried here =
      if state.brackets.isEmpty then
        (moveTo? (startOf column carried) state.levels).elim .fail fun moved =>
          .go moved.1 { state with levels := moved.2, atLineStart := false } here
      else .go [] { state with atLineStart := false } here := by
  unfold stepBehind
  split
  · exact absurd rfl (plain _ rfl).1
  · exact absurd rfl (plain _ rfl).2
  · split
    · rw [startOf]
      cases moveTo? (if carried = 0 then column else ⟨carried, carried⟩) state.levels <;> rfl
    · rfl

theorem stepBehind_comment {below : List Char} (left : rest.dropWhile (· ≠ '\n') = '\n' :: below)
    (state : State) (column : Column) (carried : Nat) :
    stepBehind state column carried ('#' :: rest) = .go [] state below := by
  have whole : ('#' :: rest).dropWhile (· ≠ '\n') = '\n' :: below :=
    (List.dropWhile_cons_of_pos (by decide)).trans left
  simp only [stepBehind, whole]

theorem stepBehind_lastComment (left : rest.dropWhile (· ≠ '\n') = [])
    (state : State) (column : Column) (carried : Nat) :
    stepBehind state column carried ('#' :: rest) = .go [] { state with atLineStart := false } [] := by
  have whole : ('#' :: rest).dropWhile (· ≠ '\n') = [] :=
    (List.dropWhile_cons_of_pos (by decide)).trans left
  simp only [stepBehind, whole]

/-- A comment is written up to the end of its line. -/
theorem exists_dropWhile_flow (margin : Nat) (text : List Char) (gap behindPunctuation : Bool) :
    ∃ gap' behindPunctuation',
      (flow margin (.inside gap behindPunctuation) text).dropWhile (· ≠ '\n') =
        flow margin (.inside gap' behindPunctuation') (text.dropWhile (· ≠ '\n')) := by
  have split := List.takeWhile_append_dropWhile (p := fun c => decide (c ≠ '\n')) (l := text)
  have noFeed : '\n' ∉ text.takeWhile (· ≠ '\n') := fun member => by
    simpa using List.mem_takeWhile_imp member
  obtain ⟨gap', behindPunctuation', last⟩ := exists_behind_inside noFeed gap behindPunctuation
  refine ⟨gap', behindPunctuation', ?_⟩
  conv_lhs => rw [← split, flow_append, last]
  rw [List.dropWhile_append_of_pos]
  · cases left : text.dropWhile (· ≠ '\n') with
    | nil => rfl
    | cons c behind =>
        obtain rfl := Cut.exists_of_dropWhile left
        rfl
  · intro c member
    have other : '\n' ∉ flow margin (.inside gap behindPunctuation) (text.takeWhile (· ≠ '\n')) :=
      feed_not_mem_flow noFeed
    simpa using fun same : c = '\n' => other (same ▸ member)

/-- How the reader of tokens steps from the start of a line, in a text and in what is written for it. -/
inductive LineStart (margin : Nat) (state state' : State) (text : List Char) : Prop
  | blank (rest : List Char) (suffix : '\n' :: rest <:+ text)
      (stepped : step state text = .go [] state rest)
      (written : flow margin (.lead 0) text = flow margin (.lead 0) rest)
  | comment (rest : List Char) (suffix : '\n' :: rest <:+ text)
      (stepped : step state text = .go [] state rest)
      (stepped' : step state' (flow margin (.lead 0) text) = .go [] state' (flow margin (.lead 0) rest))
  | lastComment (stepped : step state text = .go [] { state with atLineStart := false } [])
      (stepped' : step state' (flow margin (.lead 0) text) =
        .go [] { state' with atLineStart := false } [])
  | token (column column' : Column) (carried carried' : Nat) (here : List Char)
      (measured : measure? ⟨0, 0⟩ 0 text = some (column, carried, here))
      (suffix : here <:+ text)
      (columns : margin = 0 → startOf column' carried' = (startOf column carried).fourfold)
      (plain : ∀ c ∈ here.head?, c ≠ '\n' ∧ c ≠ '#')
      (plain' : ∀ c ∈ (flow margin (.lead 0) here).head?, c ≠ '\n' ∧ c ≠ '#')
      (noFeed : (skipGap here).head? ≠ some '\n')
      (ends : here = [] → text = [])
      (stepped : step state text = stepBehind state column carried here)
      (stepped' : step state' (flow margin (.lead 0) text) =
        stepBehind state' column' carried' (flow margin (.lead 0) here))

variable {state' : State}

/-- A line that shows nothing is passed over, and the end of the text is one of what is written. -/
theorem lineStart_of_not_shows (margin : Nat) (tidy : IsTidy text) (bare : ¬ Shows text)
    (starts : state.atLineStart = true) (starts' : state'.atLineStart = true) {column : Column}
    {carried : Nat} (measured : measure? ⟨0, 0⟩ 0 text = some (column, carried, rest)) :
    LineStart margin state state' text := by
  obtain ⟨rfl, written⟩ := @measure?_of_not_shows _ _ _ _ margin _ _ bare measured
  have stepped : step state text = stepBehind state column carried (skipGap text) := by
    rw [step, if_pos starts, measured]
  cases here : skipGap text with
  | nil =>
      have empty : text = [] := by
        by_contra filled
        have feed := List.mem_of_getLast? (tidy.ended.resolve_left filled)
        rw [← gap_append text, here, List.append_nil] at feed
        cases mem_gap feed
      subst empty
      cases measured
      refine .token ⟨0, 0⟩ ⟨0, 0⟩ 0 0 [] rfl List.suffix_rfl (fun _ => rfl) (by simp) (by simp [flow])
        (by simp [skipGap]) (fun _ => rfl) stepped ?_
      rw [step, if_pos starts']
      rfl
  | cons c more =>
      obtain rfl : c = '\n' := by
        by_contra other
        exact bare ⟨c, by rw [here]; rfl, other⟩
      rw [here] at stepped written
      exact .blank more (here ▸ skipGap_suffix text) stepped written

/-- A line that shows something begins with a comment or with a token. -/
theorem lineStart_of_shows (margin : Nat) (tidy : IsTidy text) (line : IsTidyLine text)
    (shows : Shows text) (starts : state.atLineStart = true) (starts' : state'.atLineStart = true)
    {column : Column} {carried : Nat}
    (measured : measure? ⟨0, 0⟩ 0 text = some (column, carried, rest)) :
    LineStart margin state state' text := by
  obtain ⟨⟨c, head, shown⟩, column', carried', measured', columns⟩ :=
    @measure?_flow _ ⟨0, 0⟩ _ _ 0 _ margin _ _ tidy (fun _ => line)
      (fun _ => ⟨rfl, fun _ => ⟨rfl, rfl⟩⟩) shows measured
  have suffix := suffix_of_measure? measured
  obtain ⟨more, rfl⟩ := List.head?_eq_some_iff.mp head
  have stepped : step state text = stepBehind state column carried (c :: more) := by
    rw [step, if_pos starts, measured]
  have stepped' : step state' (flow margin (.lead 0) text) =
      stepBehind state' column' carried' (flow margin (.lead 0) (c :: more)) := by
    rw [step, if_pos starts', measured']
  have noFeed : c ≠ '\n' := by
    rintro rfl
    cases shown
  by_cases comment : c = '#'
  · subst comment
    obtain ⟨gap, behindPunctuation, last⟩ := exists_dropWhile_flow margin more false false
    rw [flow_lead_cons shown] at stepped'
    cases left : more.dropWhile (· ≠ '\n') with
    | nil =>
        rw [left] at last
        exact .lastComment (stepped.trans (stepBehind_lastComment left _ _ _))
          (stepped'.trans (stepBehind_lastComment last _ _ _))
    | cons d below =>
        obtain rfl := Cut.exists_of_dropWhile left
        rw [left] at last
        have part : '\n' :: below <:+ more := left ▸ List.dropWhile_suffix _
        exact .comment below (part.trans ((List.suffix_cons '#' more).trans suffix))
          (stepped.trans (stepBehind_comment left _ _ _))
          (stepped'.trans (stepBehind_comment last _ _ _))
  · refine .token column column' carried carried' (c :: more) measured suffix columns ?_ ?_ ?_
      (absurd · (List.cons_ne_nil c more)) stepped stepped'
    · rintro _ ⟨⟩
      exact ⟨noFeed, comment⟩
    · rw [flow_lead_cons shown]
      rintro _ ⟨⟩
      refine ⟨mt (oneQuote_eq_feed c).mp noFeed, ?_⟩
      exact mt (oneQuote_eq_iff (by decide) (by decide)).mp comment
    · rw [skipGap_shown shown]
      exact fun same => noFeed (Option.some.inj same)

theorem lineStart_of_tokens? (margin : Nat) {found : List Token × Nat} (tidy : IsTidy text)
    (line : Shows text → IsTidyLine text) (starts : state.atLineStart = true)
    (starts' : state'.atLineStart = true) (read : tokens? state text = some found) :
    LineStart margin state state' text := by
  cases measured : measure? ⟨0, 0⟩ 0 text with
  | none =>
      rw [tokens?_eq, step, if_pos starts, measured] at read
      cases read
  | some measure =>
      by_cases shows : Shows text
      · exact lineStart_of_shows margin tidy (line shows) shows starts starts' measured
      · exact lineStart_of_not_shows margin tidy shows starts starts' measured

end LineStart

/-! ### Inside a line -/

section Inside

variable {state : State} {text more : List Char} {place : Place} {c : Char}

theorem step_of_inside (inside : state.atLineStart = false) (text : List Char) :
    step state text = stepAt state (skipGap text) := by
  rw [step, if_neg (by simp [inside])]

theorem flow_eq_behind (margin : Nat) (place : Place) (text : List Char) :
    flow margin place text = flow margin (place.behind (text.takeWhile isSpace)) (skipGap text) := by
  conv_lhs => rw [← gap_append text]
  exact flow_gap (fun _ => mem_gap) place _

/-- The end of a text is the end of what is written for it. -/
theorem tokens?_flow_of_end (inside : state.atLineStart = false) (here : skipGap text = []) :
    tokens? state.fourfold (flow 0 place text) = tokens? state text := by
  have empty : flow 0 place text = [] := by
    rw [flow_eq_behind, here]
    rfl
  have inside' : state.fourfold.atLineStart = false := inside
  rw [empty, tokens?_eq, tokens?_eq, step_of_inside inside, step_of_inside inside', here]
  change (stepAt state.fourfold []).tokens? _ _ = _
  rw [stepAt, stepAt]
  change (if state.brackets.isEmpty = true then Step.done else .fail).tokens? _ _ = _
  split
  · simp [Step.tokens?, State.fourfold]
  · rfl

/-- A line ends where it does in what is written for it. -/
theorem flow_of_lineEnd (fits : place.Fits state text) (inside : state.atLineStart = false)
    (here : skipGap text = '\n' :: more) : flow 0 place text = '\n' :: flow 0 (.lead 0) more := by
  rw [Place.Fits, if_neg (by simp [inside])] at fits
  cases place with
  | lead column => exact absurd (by rw [here]; rfl) (fits column rfl)
  | inside waiting behindPunctuation =>
      rw [flow_eq_behind, here, behind_gap_inside fun _ => mem_gap, flow_feed_inside]

/-- The spaces in front of what is written are passed over. -/
theorem skipGap_flow (here : skipGap text = c :: more) (shown : isBlank c = false) (place : Place) :
    skipGap (flow 0 place text) = flow 0 (.lead 0) (c :: more) := by
  have spaces (place : Place) : ∀ d ∈ place.spaces 0 c, isSpace d = true := by
    intro d member
    unfold Place.spaces at member
    split at member
    · rw [List.eq_of_mem_replicate member]
      rfl
    · split at member
      · rw [List.mem_singleton.mp member]
        rfl
      · cases member
  have visible : isBlank (oneQuote c) = false := by rw [isBlank_oneQuote, shown]
  rw [flow_eq_behind, here, flow_shown shown, flow_lead_cons shown]
  exact (List.dropWhile_append_of_pos (spaces _)).trans (skipGap_shown visible _)

/-- A comment is passed over. -/
theorem exists_step_of_comment (inside : state.atLineStart = false) (here : skipGap text = '#' :: more)
    (place : Place) : ∃ gap behindPunctuation,
      step state text = .go [] state (more.dropWhile (· ≠ '\n')) ∧
        step state.fourfold (flow 0 place text) =
          .go [] state.fourfold (flow 0 (.inside gap behindPunctuation) (more.dropWhile (· ≠ '\n'))) := by
  have inside' : state.fourfold.atLineStart = false := inside
  obtain ⟨gap, behindPunctuation, last⟩ := exists_dropWhile_flow 0 more false false
  refine ⟨gap, behindPunctuation, ?_, ?_⟩
  · rw [step_of_inside inside, here]
    rfl
  · rw [step_of_inside inside', skipGap_flow here rfl, flow_lead_cons rfl, ← last]
    rfl

/-- Inside a line a backslash stands in front of a line end and another line. -/
theorem exists_of_stepAt_escape (goesOn : stepAt state ('\\' :: more) ≠ .fail) :
    ∃ line, more = '\n' :: line ∧ line ≠ [] ∧ stepAt state ('\\' :: more) = .go [] state line := by
  have none (rest : List Char) : next? state.brackets ('\\' :: rest) = Option.none :=
    next?_of_mem_gapMarks (by decide) _ rest
  rcases more with _ | ⟨c, _ | ⟨d, line⟩⟩
  · simp [stepAt, none] at goesOn
  · by_cases feed : c = '\n'
    · subst feed
      exact absurd rfl goesOn
    · simp [stepAt, none, feed] at goesOn
  · by_cases feed : c = '\n'
    · subst feed
      exact ⟨d :: line, rfl, List.cons_ne_nil d line, rfl⟩
    · simp [stepAt, none, feed] at goesOn

/-- A backslash leads on to a line that shows something. -/
theorem exists_step_of_escape {found : List Token × Nat} (inside : state.atLineStart = false)
    (tidy : IsTidy text) (here : skipGap text = '\\' :: more) (place : Place)
    (read : tokens? state text = some found) :
    ∃ line, '\n' :: line <:+ text ∧ Shows line ∧ step state text = .go [] state line ∧
      step state.fourfold (flow 0 place text) = .go [] state.fourfold (flow 0 (.lead 0) line) := by
  have inside' : state.fourfold.atLineStart = false := inside
  have stepped := step_of_inside inside text
  rw [here] at stepped
  have goesOn : stepAt state ('\\' :: more) ≠ .fail := fun fails => by
    rw [tokens?_eq, stepped, fails] at read
    cases read
  obtain ⟨line, rfl, filled, onward⟩ := exists_of_stepAt_escape goesOn
  have suffix : '\\' :: '\n' :: line <:+ text := here ▸ skipGap_suffix text
  have behind : '\n' :: line <:+ text := (List.suffix_cons '\\' _).trans suffix
  have shows := tidy.carries line suffix filled
  have spaced := (tidy.of_suffix ((List.suffix_cons '\n' line).trans behind)).spaced
  refine ⟨line, behind, shows, stepped.trans onward, ?_⟩
  obtain ⟨d, others, whole⟩ := List.exists_cons_of_ne_nil (flow_ne_nil_of_shows 0 spaced shows)
  rw [step_of_inside inside', skipGap_flow here rfl, flow_lead_cons rfl,
    show isPunctuation '\\' = false from rfl, flow_feed_inside, whole]
  rfl

/-- A token that stays apart is read again. -/
theorem exists_step_of_token {found : List Token × Nat} (inside : state.atLineStart = false)
    (spaced : IsPlainlySpaced text) (here : skipGap text = c :: more) (shown : isBlank c = false)
    (noComment : c ≠ '#') (noEscape : c ≠ '\\') (place : Place) (kept : AreKept found.1)
    (read : tokens? state text = some found) :
    ∃ token opened rest behindPunctuation, rest <:+ text ∧
      step state text = .go [token] { state with brackets := opened } rest ∧
        step state.fourfold (flow 0 place text) =
          .go [token] { state.fourfold with brackets := opened }
            (flow 0 (.inside false behindPunctuation) rest) := by
  have inside' : state.fourfold.atLineStart = false := inside
  have noFeed : c ≠ '\n' := by
    rintro rfl
    cases shown
  have stepped := step_of_inside inside text
  have suffix : c :: more <:+ text := here ▸ skipGap_suffix text
  rw [here, stepAt_of_ne noComment noFeed noEscape] at stepped
  cases next : next? state.brackets (c :: more) with
  | none =>
      rw [tokens?_eq, stepped, next] at read
      cases read
  | some reading =>
      obtain ⟨token, opened, rest⟩ := reading
      rw [next] at stepped
      obtain ⟨tokens, count⟩ := found
      rw [tokens?_of_go stepped] at read
      obtain ⟨others, later, rfl⟩ := Cut.exists_of_prepend read
      have apart := kept.apart
      rw [List.singleton_append, stayApart, Bool.and_eq_true] at apart
      obtain ⟨behindPunctuation, next'⟩ := exists_next?_flow inside
        (spaced.of_suffix suffix) next later apart.1
        fun literal same => kept.strings literal (by simp [same])
      have visible : isBlank (oneQuote c) = false := by rw [isBlank_oneQuote, shown]
      have same : skipGap (flow 0 (.lead 0) (c :: more)) = flow 0 (.lead 0) (c :: more) := by
        rw [flow_lead_cons shown, skipGap_shown visible]
      have suffixRest : rest <:+ c :: more := by
        obtain ⟨shown, whole, -⟩ := spelling_of_next? next
        exact ⟨shown, whole.symm⟩
      refine ⟨token, opened, rest, behindPunctuation, suffixRest.trans suffix, stepped, ?_⟩
      rw [step_of_inside inside', skipGap_flow here shown, ← same, ← step_of_inside inside']
      exact step_of_next? inside' next'

end Inside

/-! ### All steps -/

/-- What is read of a text from a state on is read in what is written for the text. -/
def IsReadAlike (state : State) (text : List Char) : Prop :=
  Falls state.levels → IsTidy text → ∀ place : Place, place.Fits state text →
    ∀ found : List Token × Nat, AreKept found.1 → tokens? state text = some found →
      tokens? state.fourfold (flow 0 place text) = some found

section Steps

variable {state after state' after' : State} {text rest text' rest' : List Char}
  {tokens : List Token} {found : List Token × Nat}

/-- Steps that find the same tokens lead on alike. -/
theorem tokens?_of_steps (stepped : step state text = .go tokens after rest)
    (stepped' : step state' text' = .go tokens after' rest')
    (alike : ∀ found : List Token × Nat, AreKept found.1 → tokens? after rest = some found →
      tokens? after' rest' = some found)
    (kept : AreKept found.1) (read : tokens? state text = some found) :
    tokens? state' text' = some found := by
  obtain ⟨tokens, count⟩ := found
  rw [tokens?_of_go stepped] at read
  obtain ⟨others, later, rfl⟩ := Cut.exists_of_prepend read
  rw [tokens?_of_go stepped', alike _ kept.of_append later]
  rfl

/-- In front of the first token of a line, the level changes alike. -/
theorem tokens?_of_stepBehind {column column' : Column} {carried carried' : Nat}
    {here here' : List Char} (falls : Falls state.levels)
    (plain : ∀ c ∈ here.head?, c ≠ '\n' ∧ c ≠ '#') (plain' : ∀ c ∈ here'.head?, c ≠ '\n' ∧ c ≠ '#')
    (columns : startOf column' carried' = (startOf column carried).fourfold)
    (stepped : step state text = stepBehind state column carried here)
    (stepped' : step state.fourfold text' = stepBehind state.fourfold column' carried' here')
    (alike : ∀ tokens levels, Falls levels →
      step state text = .go tokens ⟨levels, state.brackets, false⟩ here →
      ∀ found : List Token × Nat, AreKept found.1 →
        tokens? ⟨levels, state.brackets, false⟩ here = some found →
        tokens? (State.fourfold ⟨levels, state.brackets, false⟩) here' = some found)
    (kept : AreKept found.1) (read : tokens? state text = some found) :
    tokens? state.fourfold text' = some found := by
  rw [stepBehind_of_head plain] at stepped
  rw [stepBehind_of_head plain', columns] at stepped'
  change _ = if state.brackets.isEmpty = true then _ else _ at stepped'
  split at stepped
  · next bare =>
      rw [if_pos bare] at stepped'
      cases moved : moveTo? (startOf column carried) state.levels with
      | none =>
          rw [tokens?_eq, stepped, moved] at read
          cases read
      | some move =>
          obtain ⟨moved', falls'⟩ := moveTo?_fourfold falls moved
          rw [moved] at stepped
          rw [show moveTo? _ state.fourfold.levels = _ from moved'] at stepped'
          exact tokens?_of_steps stepped stepped' (alike _ _ falls' stepped) kept read
  · next filled =>
      rw [if_neg filled] at stepped'
      exact tokens?_of_steps stepped stepped' (alike _ _ falls stepped) kept read

theorem isReadAlike_of_lineStart (starts : state.atLineStart = true)
    (onward : ∀ tokens after rest, step state text = .go tokens after rest →
      IsReadAlike after rest) : IsReadAlike state text := by
  rintro falls tidy place fits found kept read
  have starts' : state.fourfold.atLineStart = true := starts
  rw [Place.Fits, if_pos starts] at fits
  obtain ⟨rfl, line⟩ := fits
  have below {rest : List Char} (suffix : '\n' :: rest <:+ text) :
      IsTidy rest ∧ (Place.lead 0).Fits state rest :=
    ⟨tidy.of_suffix ((List.suffix_cons '\n' rest).trans suffix),
      Place.fits_lineStart starts (tidy.lines rest suffix)⟩
  cases lineStart_of_tokens? 0 tidy line starts starts' read with
  | blank rest suffix stepped written =>
      rw [tokens?_of_go stepped, prepend_nil] at read
      rw [written]
      exact onward _ _ _ stepped falls (below suffix).1 _ (below suffix).2 found kept read
  | comment rest suffix stepped stepped' =>
      exact tokens?_of_steps stepped stepped'
        (onward _ _ _ stepped falls (below suffix).1 _ (below suffix).2) kept read
  | lastComment stepped stepped' =>
      exact tokens?_of_steps stepped stepped'
        (onward _ _ _ stepped falls (tidy.of_suffix List.nil_suffix) (.lead 0)
          (Place.fits_lead rfl (by simp [skipGap]) 0)) kept read
  | token column column' carried carried' here _ suffix columns plain plain' noFeed _ stepped stepped' =>
      refine tokens?_of_stepBehind falls plain plain' (columns rfl) stepped stepped'
        (fun tokens levels falls stepped => ?_) kept read
      exact onward _ _ _ stepped falls (tidy.of_suffix suffix) _ (Place.fits_lead rfl noFeed 0)

theorem isReadAlike_of_inside (inside : state.atLineStart = false)
    (onward : ∀ tokens after rest, step state text = .go tokens after rest →
      IsReadAlike after rest)
    (onwardLine : ∀ rest, step state text = .lineEnd rest →
      IsReadAlike { state with atLineStart := true } rest) : IsReadAlike state text := by
  rintro falls tidy place fits found kept read
  have inside' : state.fourfold.atLineStart = false := inside
  cases here : skipGap text with
  | nil => rw [tokens?_flow_of_end inside here, read]
  | cons c more =>
      have suffix : c :: more <:+ text := here ▸ skipGap_suffix text
      have behind : more <:+ text := (List.suffix_cons c more).trans suffix
      rcases head_skipGap tidy.spaced (by rw [here]; rfl : c ∈ (skipGap text).head?) with rfl | shown
      · have line := flow_of_lineEnd fits inside here
        have stepped := step_of_inside inside text
        have stepped' := step_of_inside inside' (flow 0 place text)
        have fitsLine (state : State) (starts : state.atLineStart = true) :
            (Place.lead 0).Fits state more := Place.fits_lineStart starts (tidy.lines more suffix)
        rw [here, stepAt] at stepped
        rw [line] at stepped' ⊢
        change _ = if state.brackets.isEmpty = true then _ else _ at stepped'
        split at stepped
        · next bare =>
            rw [if_pos bare] at stepped'
            obtain ⟨tokens, count⟩ := found
            rw [tokens?_eq, stepped] at read
            obtain ⟨others, later, rfl⟩ := Cut.exists_of_prepend read
            have onto := onwardLine more stepped falls (tidy.of_suffix behind) _ (fitsLine _ rfl) _
              kept.of_append later
            rw [tokens?_eq, stepped', Step.tokens?]
            exact congrArg (prepend [.lineEnd]) onto
        · next filled =>
            rw [if_neg filled] at stepped'
            exact tokens?_of_steps stepped stepped' (onward _ _ _ stepped falls (tidy.of_suffix behind)
              _ (fitsLine _ rfl)) kept read
      · by_cases comment : c = '#'
        · subst comment
          obtain ⟨gap, behindPunctuation, stepped, stepped'⟩ := exists_step_of_comment inside here place
          exact tokens?_of_steps stepped stepped' (onward _ _ _ stepped falls
            (tidy.of_suffix ((List.dropWhile_suffix _).trans behind)) _
            (Place.fits_inside inside gap behindPunctuation)) kept read
        · by_cases escape : c = '\\'
          · subst escape
            obtain ⟨line, part, ⟨d, head, noFeed⟩, stepped, stepped'⟩ :=
              exists_step_of_escape inside tidy here place read
            refine tokens?_of_steps stepped stepped' (onward _ _ _ stepped falls
              (tidy.of_suffix ((List.suffix_cons '\n' line).trans part)) _
              (Place.fits_lead inside ?_ 0)) kept read
            rw [Option.mem_def.mp head]
            exact fun same => noFeed (Option.some.inj same)
          · obtain ⟨token, opened, rest, behindPunctuation, part, stepped, stepped'⟩ :=
              exists_step_of_token inside tidy.spaced here shown comment escape place kept read
            exact tokens?_of_steps stepped stepped' (onward _ _ _ stepped falls (tidy.of_suffix part) _
              (Place.fits_inside inside false behindPunctuation)) kept read

theorem isReadAlike (state : State) (text : List Char) : IsReadAlike state text := by
  induction state, text using step_induction with
  | one state text onward onwardLine =>
      cases starts : state.atLineStart with
      | true => exact isReadAlike_of_lineStart starts onward
      | false => exact isReadAlike_of_inside starts onward onwardLine

/-- The tokens of a text are found again in what is written for it. -/
theorem tokens?_flow (tidy : IsTidy text) (line : Shows text → IsTidyLine text)
    (kept : AreKept found.1) (read : tokens? .start text = some found) :
    tokens? .start (flow 0 (.lead 0) text) = some found :=
  isReadAlike .start text (List.pairwise_singleton _ _) tidy _ (Place.fits_lineStart rfl line) found
    kept read

end Steps

end Answer
end AnswerKey
