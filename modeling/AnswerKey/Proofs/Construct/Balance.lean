import AnswerKey.Proofs.Construct.Laying

namespace AnswerKey
namespace Construct

/-!
Balanced tokens.

Tokens that can be tallied until all brackets are closed consist of single tokens and of groups between
partners, and at every level the colons and lambdas are counted up (`Balanced`).  A square bracket in
which colons are left over is what a tally takes for a slice (`slices_iff_of_balanced`).  In an outline
such tokens take up a properly nested text (`nested_of_balanced`).
-/

open Text Pattern Snippet
open Snippet.Token (isSpacing)

/-- The symbol that opens a bracket. -/
def openingSymbol : Bracket → String
  | .round => "("
  | .square => "["
  | .curly => "\x7b"

/-- A token that opens and closes nothing and does not count. -/
def Keeps (token : Token) : Prop :=
  ∀ tally next : Tally, tally.next? token = some next →
    next.frames = tally.frames ∧ next.slices = tally.slices

/-- Tokens whose brackets have their partners, with the surplus of colons over lambdas outside all of
them.  Nothing may be left over in round brackets, except in outer ones. -/
inductive Balanced : (outer : Bool) → List Token → Int → Prop where
  | nil (outer : Bool) : Balanced outer [] 0
  | keep {outer : Bool} {token : Token} {tokens : List Token} {surplus : Int} (keeps : Keeps token)
      (tail : Balanced outer tokens surplus) : Balanced outer (token :: tokens) surplus
  | colon {outer : Bool} {tokens : List Token} {surplus : Int}
      (tail : Balanced outer tokens surplus) :
      Balanced outer (.symbol ":" :: tokens) (surplus + 1)
  | lambda {outer : Bool} {tokens : List Token} {surplus : Int}
      (tail : Balanced outer tokens surplus) :
      Balanced outer (.keyword "lambda" :: tokens) (surplus - 1)
  | group {outer : Bool} (kind : Bracket) {inside rest : List Token} {inner surplus : Int}
      (content : Balanced false inside inner) (fits : outer = false → kind = .round → inner = 0)
      (tail : Balanced outer rest surplus) :
      Balanced outer
        (.symbol (openingSymbol kind) :: (inside ++ .symbol (closingSymbol kind) :: rest)) surplus

/-! ### Kinds of tokens -/

section Kinds

variable {tally next : Tally} {kind : Bracket}

theorem token_cases (token : Token) : Keeps token ∨ token = .symbol ":" ∨ token = .keyword "lambda" ∨
    (∃ kind, token = .symbol (openingSymbol kind)) ∨ ∃ kind, token = .symbol (closingSymbol kind) := by
  cases token with
  | symbol shown =>
      by_cases uncounted : Token.isUncounted (.symbol shown) = true
      · left
        intro tally next step
        rw [Tally.next?_of_isUncounted tally uncounted] at step
        cases step
        exact ⟨rfl, rfl⟩
      · right
        simp only [Token.isUncounted, Bool.not_eq_true', Bool.not_eq_false, List.contains_iff_mem,
          List.mem_cons, List.not_mem_nil, or_false] at uncounted
        rcases uncounted with rfl | rfl | rfl | rfl | rfl | rfl | rfl
        · exact .inr (.inr (.inl ⟨.round, rfl⟩))
        · exact .inr (.inr (.inl ⟨.square, rfl⟩))
        · exact .inr (.inr (.inl ⟨.curly, rfl⟩))
        · exact .inr (.inr (.inr ⟨.round, rfl⟩))
        · exact .inr (.inr (.inr ⟨.square, rfl⟩))
        · exact .inr (.inr (.inr ⟨.curly, rfl⟩))
        · exact .inl rfl
  | keyword word =>
      by_cases isLambda : word = "lambda"
      · exact .inr (.inr (.inl (by rw [isLambda])))
      · left
        intro tally next step
        rw [Tally.next?, if_neg isLambda] at step
        cases step
        exact ⟨rfl, rfl⟩
  | string literal =>
      left
      intro tally next step
      simp only [Tally.next?] at step
      split at step
      · cases step
      · cases step
        exact ⟨rfl, by simp [Tally.hold]⟩
  | _ =>
      left
      intro tally next step
      cases step
      exact ⟨rfl, rfl⟩

theorem next?_opening (kind : Bracket) (step : tally.next? (.symbol (openingSymbol kind)) = some next) :
    next.frames = ⟨kind, 0⟩ :: tally.frames ∧ next.slices = tally.slices := by
  cases kind <;> cases step <;> exact ⟨rfl, rfl⟩

/-- A bracket closes its partner. -/
theorem next?_closes (kind : Bracket) (step : tally.next? (.symbol (closingSymbol kind)) = some next) :
    ∃ top below, tally.frames = top :: below ∧ top.kind = kind ∧ next.frames = below ∧
      (kind = .round → below ≠ [] → top.surplus = 0) ∧
      next.slices = (tally.slices || (kind == .square && decide (0 < top.surplus))) := by
  have closed : ∃ other, tally.closed? kind = some other ∧ next = other.behind false := by
    obtain ⟨other, read, rfl⟩ := Option.map_eq_some_iff.mp step
    exact ⟨other, by cases kind <;> exact read, rfl⟩
  obtain ⟨other, read, rfl⟩ := closed
  unfold Tally.closed? at read
  split at read
  · cases read
  · next top below frames =>
      split at read
      · cases read
      · next same =>
          split at read
          · cases read
          · next fits =>
              cases read
              refine ⟨top, below, frames, not_not.mp same, rfl, fun isRound filled => ?_, rfl⟩
              by_contra left
              exact fits ⟨isRound, left, filled⟩

end Kinds

/-! ### Brackets find their partners -/

section Partners

variable {tally after : Tally} {tokens rest : List Token} {token : Token} {outer : Bool} {surplus : Int}

theorem run?_cons : tally.run? (token :: rest) = some after ↔
    ∃ next, tally.next? token = some next ∧ next.run? rest = some after :=
  Option.bind_eq_some_iff

/-- The innermost open bracket is closed before the tokens end. -/
theorem exists_balanced {top : Frame} {below : List Frame} (frames : tally.frames = top :: below)
    (run : tally.run? tokens = some after) (done : after.frames = []) :
    ∃ inside rest surplus, ∃ mid : Tally,
      tokens = inside ++ .symbol (closingSymbol top.kind) :: rest ∧
      Balanced false inside surplus ∧ mid.run? rest = some after ∧ mid.frames = below ∧
      (top.kind = .round → below ≠ [] → top.surplus + surplus = 0) := by
  induction size : tokens.length using Nat.strong_induction_on generalizing tally tokens top below with
  | h size ih =>
      cases tokens with
      | nil =>
          cases run
          rw [frames] at done
          cases done
      | cons token tokens =>
          obtain ⟨next, step, later⟩ := run?_cons.mp run
          rw [List.length_cons] at size
          rcases token_cases token with keeps | rfl | rfl | ⟨kind, rfl⟩ | ⟨kind, rfl⟩
          · obtain ⟨inside, rest, surplus, mid, rfl, content, onward, left, fits⟩ :=
              ih _ (by omega) ((keeps _ _ step).1.trans frames) later rfl
            exact ⟨token :: inside, rest, surplus, mid, rfl, .keep keeps content, onward, left, fits⟩
          · cases step
            obtain ⟨inside, rest, surplus, mid, rfl, content, onward, left, fits⟩ :=
              ih _ (by omega) (show _ = { top with surplus := top.surplus + 1 } :: below by
                simp [Tally.shift, frames]) later rfl
            refine ⟨_ :: inside, rest, surplus + 1, mid, rfl, .colon content, onward, left, ?_⟩
            intro isRound filled
            have closed := fits isRound filled
            dsimp only at closed
            omega
          · rw [Tally.next?_lambda] at step
            cases step
            obtain ⟨inside, rest, surplus, mid, rfl, content, onward, left, fits⟩ :=
              ih _ (by omega) (show _ = { top with surplus := top.surplus + -1 } :: below by
                simp [Tally.shift, frames]) later rfl
            refine ⟨_ :: inside, rest, surplus - 1, mid, rfl, .lambda content, onward, left, ?_⟩
            intro isRound filled
            have closed := fits isRound filled
            dsimp only at closed
            omega
          · -- A bracket is opened: it is closed first, and then the one around it.
            have opened := (next?_opening _ step).1
            rw [frames] at opened
            obtain ⟨group, more, inner, mid, rfl, content, onward, left, fitsGroup⟩ :=
              ih _ (by omega) opened later rfl
            rw [List.length_append, List.length_cons] at size
            obtain ⟨inside, rest, surplus, last, rfl, tail, behind, outside, fits⟩ :=
              ih _ (by omega) left onward rfl
            have joined : Balanced false _ surplus := .group kind content
              (fun _ isRound => by simpa using fitsGroup isRound (List.cons_ne_nil _ _)) tail
            exact ⟨_, rest, surplus, last, by simp, joined, behind, outside, fits⟩
          · obtain ⟨other, others, same, rfl, left, fits, -⟩ := next?_closes _ step
            obtain ⟨rfl, rfl⟩ := List.cons.inj (frames.symm.trans same)
            refine ⟨[], tokens, 0, next, rfl, .nil false, later, left, fun isRound filled => ?_⟩
            rw [fits isRound filled, Int.add_zero]

/-- Tokens that open and close all their brackets are balanced. -/
theorem exists_balanced_outside (bare : tally.frames = []) (run : tally.run? tokens = some after)
    (done : after.frames = []) : ∃ surplus, Balanced true tokens surplus := by
  induction size : tokens.length using Nat.strong_induction_on generalizing tally tokens with
  | h size ih =>
      cases tokens with
      | nil => exact ⟨0, .nil true⟩
      | cons token tokens =>
          obtain ⟨next, step, later⟩ := run?_cons.mp run
          rw [List.length_cons] at size
          rcases token_cases token with keeps | rfl | rfl | ⟨kind, rfl⟩ | ⟨kind, rfl⟩
          · obtain ⟨surplus, tail⟩ := ih _ (by omega) ((keeps _ _ step).1.trans bare) later rfl
            exact ⟨surplus, .keep keeps tail⟩
          · cases step
            obtain ⟨surplus, tail⟩ := ih _ (by omega) (by simp [Tally.shift, bare]) later rfl
            exact ⟨surplus + 1, .colon tail⟩
          · rw [Tally.next?_lambda] at step
            cases step
            obtain ⟨surplus, tail⟩ := ih _ (by omega) (by simp [Tally.shift, bare]) later rfl
            exact ⟨surplus - 1, .lambda tail⟩
          · obtain ⟨inside, rest, inner, mid, rfl, content, onward, left, -⟩ :=
              exists_balanced (next?_opening _ step).1 later done
            rw [List.length_append, List.length_cons] at size
            obtain ⟨surplus, tail⟩ := ih _ (by omega) (left.trans bare) onward rfl
            exact ⟨surplus, .group kind content (fun inner => by cases inner) tail⟩
          · obtain ⟨other, others, same, -⟩ := next?_closes _ step
            rw [bare] at same
            cases same

/-- Balanced tokens leave the open brackets as they are, but for the surplus. -/
theorem frames_of_balanced (balanced : Balanced outer tokens surplus)
    (run : tally.run? tokens = some after) : after.frames = (tally.shift surplus).frames := by
  induction balanced generalizing tally after with
  | nil =>
      cases run
      rw [Tally.shift_zero]
  | keep keeps _ ih =>
      obtain ⟨next, step, run⟩ := run?_cons.mp run
      rw [ih run, Tally.shift, Tally.shift, (keeps _ _ step).1]
  | colon _ ih =>
      obtain ⟨next, step, run⟩ := run?_cons.mp run
      cases step
      rw [ih run, Tally.shift_behind, Tally.frames_behind, Tally.shift_shift, Int.add_comm]
  | lambda _ ih =>
      obtain ⟨next, step, run⟩ := run?_cons.mp run
      rw [Tally.next?_lambda] at step
      cases step
      rw [ih run, Tally.shift_behind, Tally.frames_behind, Tally.shift_shift, Int.add_comm,
        Int.sub_eq_add_neg]
  | group kind _ _ _ ihContent ihTail =>
      obtain ⟨next, step, run⟩ := run?_cons.mp run
      rw [Tally.run?_append] at run
      obtain ⟨mid, within, run⟩ := Option.bind_eq_some_iff.mp run
      obtain ⟨last, closing, run⟩ := run?_cons.mp run
      have inner := ihContent within
      rw [Tally.shift, (next?_opening _ step).1] at inner
      obtain ⟨top, below, frames, -, left, -⟩ := next?_closes _ closing
      obtain ⟨-, rfl⟩ := List.cons.inj (inner.symm.trans frames)
      rw [ihTail run, Tally.shift, Tally.shift, left]

/-- A slice is never forgotten. -/
theorem slices_of_next? {next : Tally} (step : tally.next? token = some next)
    (held : tally.slices = true) : next.slices = true := by
  rcases token_cases token with keeps | rfl | rfl | ⟨kind, rfl⟩ | ⟨kind, rfl⟩
  · rw [(keeps _ _ step).2, held]
  · cases step
    exact held
  · cases step
    exact held
  · rw [(next?_opening _ step).2, held]
  · obtain ⟨top, below, -, -, -, -, slices⟩ := next?_closes _ step
    rw [slices, held, Bool.true_or]

theorem slices_of_run? (run : tally.run? tokens = some after) (held : tally.slices = true) :
    after.slices = true := by
  induction tokens generalizing tally with
  | nil =>
      cases run
      exact held
  | cons token tokens ih =>
      obtain ⟨next, step, run⟩ := run?_cons.mp run
      exact ih run (slices_of_next? step held)

/-- Whether some square brackets among the tokens are left with a colon. -/
def HoldsBound (tokens : List Token) : Prop :=
  ∃ first inside rest surplus,
    tokens = first ++ .symbol "[" :: (inside ++ .symbol "]" :: rest) ∧
      Balanced false inside surplus ∧ 0 < surplus

theorem HoldsBound.cons (held : HoldsBound tokens) : HoldsBound (token :: tokens) := by
  obtain ⟨first, inside, rest, surplus, rfl, content, left⟩ := held
  exact ⟨token :: first, inside, rest, surplus, rfl, content, left⟩

theorem HoldsBound.append_left (held : HoldsBound tokens) (more : List Token) :
    HoldsBound (more ++ tokens) := by
  obtain ⟨first, inside, rest, surplus, rfl, content, left⟩ := held
  exact ⟨more ++ first, inside, rest, surplus, by simp, content, left⟩

theorem HoldsBound.append_right (held : HoldsBound tokens) (more : List Token) :
    HoldsBound (tokens ++ more) := by
  obtain ⟨first, inside, rest, surplus, rfl, content, left⟩ := held
  exact ⟨first, inside, rest ++ more, surplus, by simp, content, left⟩

theorem slices_of_holdsBound (held : HoldsBound tokens) (run : tally.run? tokens = some after) :
    after.slices = true := by
  obtain ⟨first, inside, rest, surplus, rfl, content, left⟩ := held
  rw [Tally.run?_append] at run
  obtain ⟨start, -, run⟩ := Option.bind_eq_some_iff.mp run
  obtain ⟨next, step, run⟩ := run?_cons.mp run
  rw [Tally.run?_append] at run
  obtain ⟨mid, within, run⟩ := Option.bind_eq_some_iff.mp run
  obtain ⟨last, closing, run⟩ := run?_cons.mp run
  have inner := frames_of_balanced content within
  rw [Tally.shift, (next?_opening .square step).1] at inner
  obtain ⟨top, below, frames, -, -, -, slices⟩ := next?_closes .square closing
  obtain ⟨rfl, rfl⟩ := List.cons.inj (inner.symm.trans frames)
  refine slices_of_run? run ?_
  rw [slices]
  simpa using .inr left

theorem holdsBound_of_slices (balanced : Balanced outer tokens surplus)
    (run : tally.run? tokens = some after) (slices : after.slices = true) :
    tally.slices = true ∨ HoldsBound tokens := by
  induction balanced generalizing tally after with
  | nil =>
      cases run
      exact .inl slices
  | keep keeps _ ih =>
      obtain ⟨next, step, run⟩ := run?_cons.mp run
      rw [← (keeps _ _ step).2]
      exact (ih run slices).imp_right .cons
  | colon _ ih =>
      obtain ⟨next, step, run⟩ := run?_cons.mp run
      cases step
      exact (ih run slices).imp_right .cons
  | lambda _ ih =>
      obtain ⟨next, step, run⟩ := run?_cons.mp run
      cases step
      exact (ih run slices).imp_right .cons
  | @group outer kind inside rest inner surplus content _ _ ihContent ihTail =>
      obtain ⟨next, step, run⟩ := run?_cons.mp run
      rw [Tally.run?_append] at run
      obtain ⟨mid, within, run⟩ := Option.bind_eq_some_iff.mp run
      obtain ⟨last, closing, run⟩ := run?_cons.mp run
      have frames := frames_of_balanced content within
      rw [Tally.shift, (next?_opening _ step).1] at frames
      obtain ⟨top, below, same, -, -, -, closed⟩ := next?_closes _ closing
      obtain ⟨rfl, rfl⟩ := List.cons.inj (frames.symm.trans same)
      rcases ihTail run slices with before | held
      · rw [closed, Bool.or_eq_true] at before
        rcases before with before | left
        · rcases ihContent within before with before | held
          · rw [(next?_opening _ step).2] at before
            exact .inl before
          · exact .inr (held.append_right _).cons
        · simp only [Bool.and_eq_true, beq_iff_eq, decide_eq_true_eq] at left
          obtain ⟨rfl, left⟩ := left
          exact .inr ⟨[], inside, rest, inner, rfl, content, by simpa using left⟩
      · exact .inr ((held.append_left [_]).append_left inside).cons

/-- What a tally of balanced tokens takes for a slice. -/
theorem slices_iff_of_balanced (balanced : Balanced outer tokens surplus)
    (run : tally.run? tokens = some after) (fresh : tally.slices = false) :
    after.slices = true ↔ HoldsBound tokens := by
  constructor
  · intro slices
    exact (holdsBound_of_slices balanced run slices).resolve_left (by simp [fresh])
  · exact fun held => slices_of_holdsBound held run

end Partners

/-! ### Balanced tokens in an outline -/

/-- What a token shows in an outline between the character in front of it and the text behind it. -/
inductive Shown (before : Option Char) : (token : Token) → (shown rest : List Char) → Prop where
  | quiet {token : Token} {shown rest : List Char}
      (still : ∀ tally : Tally, ∃ foreign, tally.next? token = some (tally.behind foreign))
      (tame : Quiet shown) : Shown before token shown rest
  | lambda {rest : List Char} (opened : touches before = false)
      (closed : touches rest.head? = false) :
      Shown before (.keyword "lambda") "lambda".toList rest
  | string (literal : Literal) (rest : List Char) :
      Shown before (.string literal) (standIn literal) rest
  | symbol {c : Char} (rest : List Char) (counted : isBracket c = true ∨ c = ':') :
      Shown before (.symbol (.ofList [c])) [c] rest

section Places

variable {before : Option Char} {token : Token} {tokens first second : List Token} {c : Char}
variable {shown text front rest : List Char} {outer : Bool} {surplus : Int}

/-- The first token stands behind spacing. -/
theorem Lays.exists_first (laid : Lays before (token :: tokens) text) :
    ∃ gap shown rest, text = gap ++ (shown ++ rest) ∧ (∀ c ∈ gap, isSpacing c = true) ∧
      Shown (frontOf before gap) token shown rest ∧ Lays (frontOf before (gap ++ shown)) tokens rest := by
  generalize whole : token :: tokens = all at laid
  induction laid with
  | done => cases whole
  | @spacing before c all text spaced tail ih =>
      obtain ⟨gap, shown, rest, rfl, spaces, shows, onward⟩ := ih whole
      refine ⟨c :: gap, shown, rest, rfl, ?_, ?_, ?_⟩
      · rw [List.forall_mem_cons]
        exact ⟨spaced, spaces⟩
      · rwa [← List.singleton_append, ← frontOf_frontOf, frontOf_singleton]
      · rwa [List.cons_append, ← List.singleton_append, ← frontOf_frontOf, frontOf_singleton]
  | quiet still tame tail _ =>
      obtain ⟨rfl, rfl⟩ := List.cons.inj whole
      exact ⟨[], _, _, rfl, List.forall_mem_nil _, .quiet still tame, tail⟩
  | lambda opened closed tail _ =>
      obtain ⟨rfl, rfl⟩ := List.cons.inj whole
      exact ⟨[], _, _, rfl, List.forall_mem_nil _, .lambda opened closed, tail⟩
  | @string before literal text tokens apart tail _ =>
      obtain ⟨rfl, rfl⟩ := List.cons.inj whole
      refine ⟨[], _, text, rfl, List.forall_mem_nil _, .string literal text, ?_⟩
      have last : frontOf before (standIn literal) = some '"' := by
        unfold standIn
        split <;> rfl
      rwa [List.nil_append, last]
  | symbol counted tail _ =>
      obtain ⟨rfl, rfl⟩ := List.cons.inj whole
      exact ⟨[], _, _, rfl, List.forall_mem_nil _, .symbol _ counted, tail⟩

theorem keeps_of_still
    (still : ∀ tally : Tally, ∃ foreign, tally.next? token = some (tally.behind foreign)) :
    Keeps token := by
  intro tally next step
  obtain ⟨foreign, read⟩ := still tally
  obtain rfl := Option.some.inj (read.symm.trans step)
  exact ⟨rfl, rfl⟩

/-- Brackets and colons change some tally. -/
theorem not_keeps (counted : isBracket c = true ∨ c = ':') : ¬ Keeps (.symbol (.ofList [c])) := by
  intro keeps
  have member : c ∈ "()[]\x7b\x7d:".toList := by
    rcases counted with bracket | rfl
    · exact List.mem_append_left [':'] (List.contains_iff_mem.mp bracket)
    · decide
  have all : ∀ c ∈ "()[]\x7b\x7d:".toList, ∃ kind ∈ [Bracket.round, .square, .curly],
      ((Tally.next? ⟨[⟨kind, 0⟩], false, false, false⟩ (.symbol (.ofList [c]))).map (·.frames)).getD
        [⟨kind, 0⟩] ≠ [⟨kind, 0⟩] := by decide
  obtain ⟨kind, -, changed⟩ := all c member
  cases step : Tally.next? ⟨[⟨kind, 0⟩], false, false, false⟩ (.symbol (.ofList [c])) with
  | none =>
      rw [step] at changed
      exact changed rfl
  | some next =>
      rw [step] at changed
      exact changed (keeps _ _ step).1

theorem Shown.eq_of_counted (shows : Shown before (.symbol (.ofList [c])) shown rest)
    (counted : isBracket c = true ∨ c = ':') : shown = [c] := by
  generalize same : Token.symbol (.ofList [c]) = token at shows
  cases shows with
  | quiet still _ =>
      subst same
      exact absurd (keeps_of_still still) (not_keeps counted)
  | lambda => cases same
  | string => cases same
  | symbol =>
      have characters := congrArg String.toList (Token.symbol.inj same)
      simpa using characters.symm

theorem Shown.eq_lambda (shows : Shown before (.keyword "lambda") shown rest) :
    shown = "lambda".toList ∧ touches before = false ∧ touches rest.head? = false := by
  generalize same : Token.keyword "lambda" = token at shows
  cases shows with
  | quiet still _ =>
      subst same
      have same := keeps_of_still still ⟨[⟨.round, 0⟩], false, false, false⟩ _ (Tally.next?_lambda _)
      exact absurd same.1 (by decide)
  | lambda opened closed => exact ⟨rfl, opened, closed⟩
  | string => cases same
  | symbol => cases same

/-- Where no tokens are left, spacing is. -/
theorem Lays.spaces (laid : Lays before [] text) : ∀ c ∈ text, isSpacing c = true := by
  generalize none : [] = tokens at laid
  induction laid with
  | done => exact List.forall_mem_nil _
  | spacing spaced _ ih =>
      rw [List.forall_mem_cons]
      exact ⟨spaced, ih none⟩
  | _ => cases none

/-- A bracket or colon among the tokens stands in the text, with the other tokens on both sides. -/
theorem Lays.split (laid : Lays before (first ++ .symbol (.ofList [c]) :: second) text)
    (counted : isBracket c = true ∨ c = ':') :
    ∃ front rest, text = front ++ c :: rest ∧ Lays before first front ∧
      Lays (some c) second rest := by
  generalize whole : first ++ .symbol (.ofList [c]) :: second = all at laid
  induction laid generalizing first with
  | done => simp at whole
  | spacing spaced _ ih =>
      obtain ⟨front, rest, rfl, before, behind⟩ := ih whole
      exact ⟨_ :: front, rest, rfl, .spacing spaced before, behind⟩
  | @quiet before token shown text tokens still tame tail ih =>
      cases first with
      | nil =>
          obtain ⟨rfl, -⟩ := List.cons.inj whole
          exact absurd (keeps_of_still still) (not_keeps counted)
      | cons other first =>
          obtain ⟨rfl, onward⟩ := List.cons.inj whole
          obtain ⟨front, rest, rfl, before, behind⟩ := ih onward
          exact ⟨shown ++ front, rest, by simp, .quiet still tame before, behind⟩
  | lambda opened closed tail ih =>
      cases first with
      | nil => cases (List.cons.inj whole).1
      | cons other first =>
          obtain ⟨rfl, onward⟩ := List.cons.inj whole
          obtain ⟨front, rest, rfl, before, behind⟩ := ih onward
          refine ⟨"lambda".toList ++ front, rest, by simp, .lambda opened ?_ before, behind⟩
          cases front with
          | nil => rfl
          | cons d front => exact closed
  | @string before literal text tokens apart tail ih =>
      cases first with
      | nil => cases (List.cons.inj whole).1
      | cons other first =>
          obtain ⟨rfl, onward⟩ := List.cons.inj whole
          obtain ⟨front, rest, rfl, before, behind⟩ := ih onward
          exact ⟨standIn literal ++ front, rest, by simp, .string apart before, behind⟩
  | @symbol before d text tokens counted' tail ih =>
      cases first with
      | nil =>
          obtain ⟨same, rfl⟩ := List.cons.inj whole
          have characters := congrArg String.toList (Token.symbol.inj same)
          obtain rfl : c = d := by simpa using characters
          exact ⟨[], text, rfl, .done before, tail⟩
      | cons other first =>
          obtain ⟨rfl, onward⟩ := List.cons.inj whole
          obtain ⟨front, rest, rfl, before, behind⟩ := ih onward
          exact ⟨d :: front, rest, rfl, .symbol counted' before, behind⟩

/-- A square bracket in the text is one of the tokens. -/
theorem Lays.exists_square (laid : Lays before tokens (front ++ '[' :: rest)) :
    ∃ first second, tokens = first ++ .symbol "[" :: second ∧ Lays (some '[') second rest := by
  generalize whole : front ++ '[' :: rest = text at laid
  -- The bracket stands behind a piece that does not have it.
  have behind {shown text front : List Char} (whole : front ++ '[' :: rest = shown ++ text)
      (lacks : '[' ∉ shown) : ∃ front, front ++ '[' :: rest = text := by
    rcases List.append_eq_append_iff.mp whole with ⟨early, rfl, onward⟩ | ⟨early, -, onward⟩
    · cases early with
      | nil => exact ⟨[], onward⟩
      | cons d early =>
          obtain ⟨rfl, -⟩ := List.cons.inj onward
          simp at lacks
    · exact ⟨early, onward.symm⟩
  have later {token : Token} {tokens : List Token}
      (found : ∃ first second, tokens = first ++ .symbol "[" :: second ∧
        Lays (some '[') second rest) :
      ∃ first second, token :: tokens = first ++ .symbol "[" :: second ∧
        Lays (some '[') second rest := by
    obtain ⟨first, second, rfl, onward⟩ := found
    exact ⟨token :: first, second, rfl, onward⟩
  induction laid generalizing front with
  | done => simp at whole
  | @spacing _ c _ _ spaced _ ih =>
      obtain ⟨_, onward⟩ := @behind [c] _ _ whole (by
        rw [List.mem_singleton]
        rintro rfl
        cases spaced)
      exact ih onward
  | quiet _ tame _ ih =>
      obtain ⟨_, onward⟩ := behind whole (by
        rcases tame with all | rfl
        · exact fun member => absurd (all _ member) (by decide)
        · decide)
      exact later (ih onward)
  | lambda _ _ _ ih =>
      obtain ⟨_, onward⟩ := behind whole (by decide)
      exact later (ih onward)
  | string _ _ ih =>
      obtain ⟨_, onward⟩ := behind whole (by unfold standIn; split <;> decide)
      exact later (ih onward)
  | @symbol _ c text tokens _ tail ih =>
      cases front with
      | nil =>
          obtain ⟨rfl, rfl⟩ := List.cons.inj whole
          exact ⟨[], tokens, rfl, tail⟩
      | cons d front => exact later (ih (List.cons.inj whole).2)

theorem nested_standIn (literal : Literal) : Nested (standIn literal) := by
  unfold standIn
  split
  · exact .plain rfl (.plain rfl (.group .curly (.plain rfl .nil) (.plain rfl .nil)))
  · exact .of_plain (by decide)

/-- A token that opens and closes nothing shows a properly nested text, and no colon but that of a
walrus. -/
theorem Shown.spec_of_keeps (shows : Shown before token shown rest) (keeps : Keeps token) :
    Nested shown ∧ (':' ∈ shown → shown = [':', '=']) := by
  cases shows with
  | quiet _ tame =>
      rcases tame with all | rfl
      · have plain (c : Char) (member : c ∈ shown) : isBracket c = false ∧ c ≠ ':' := by
          have tame := all c member
          simp only [isTame, Bool.and_eq_true, Bool.not_eq_true', bne_iff_ne] at tame
          exact tame.1
        exact ⟨.of_plain fun c member => (plain c member).1,
          fun member => absurd rfl (plain ':' member).2⟩
      · exact ⟨.of_plain (by decide), fun _ => rfl⟩
  | lambda => exact ⟨.of_plain (by decide), fun member => absurd member (by decide)⟩
  | string literal =>
      refine ⟨nested_standIn literal, fun member => absurd member ?_⟩
      unfold standIn
      split <;> decide
  | symbol _ counted => exact absurd keeps (not_keeps counted)

theorem nested_of_isSpacing {gap : List Char} (spaces : ∀ c ∈ gap, isSpacing c = true) :
    Nested gap := by
  have all : ∀ c ∈ " \t\x0c\n\\".toList, isBracket c = false := forall_mem_of_all (by decide)
  exact .of_plain fun c member => all c (List.contains_iff_mem.mp (spaces c member))

/-- A group of tokens shows a group of the text. -/
theorem Lays.exists_group {kind : Bracket}
    (laid : Lays before
      (.symbol (openingSymbol kind) :: (first ++ .symbol (closingSymbol kind) :: second)) text) :
    ∃ gap inside rest, text = gap ++ kind.opening :: (inside ++ kind.closing :: rest) ∧
      (∀ c ∈ gap, isSpacing c = true) ∧ Lays (some kind.opening) first inside ∧
      Lays (some kind.closing) second rest := by
  have opening : openingSymbol kind = .ofList [kind.opening] := by cases kind <;> rfl
  have closing : closingSymbol kind = .ofList [kind.closing] := by cases kind <;> rfl
  rw [opening, closing] at laid
  obtain ⟨gap, shown, rest, rfl, spaces, shows, onward⟩ := laid.exists_first
  obtain rfl := shows.eq_of_counted (.inl (isBracket_opening kind))
  rw [frontOf_concat] at onward
  obtain ⟨inside, rest, rfl, content, behind⟩ := onward.split (.inl (isBracket_closing kind))
  exact ⟨gap, inside, rest, rfl, spaces, content, behind⟩

/-- Balanced tokens take up a properly nested text. -/
theorem nested_of_balanced (balanced : Balanced outer tokens surplus) (laid : Lays before tokens text) :
    Nested text := by
  induction balanced generalizing before text with
  | nil => exact nested_of_isSpacing laid.spaces
  | keep keeps _ ih =>
      obtain ⟨gap, shown, rest, rfl, spaces, shows, onward⟩ := laid.exists_first
      exact (nested_of_isSpacing spaces).append ((shows.spec_of_keeps keeps).1.append (ih onward))
  | colon _ ih =>
      obtain ⟨gap, shown, rest, rfl, spaces, shows, onward⟩ := laid.exists_first
      obtain rfl := Shown.eq_of_counted (c := ':') shows (.inr rfl)
      exact (nested_of_isSpacing spaces).append (.plain rfl (ih onward))
  | lambda _ ih =>
      obtain ⟨gap, shown, rest, rfl, spaces, shows, onward⟩ := laid.exists_first
      obtain ⟨rfl, -⟩ := shows.eq_lambda
      exact (nested_of_isSpacing spaces).append ((Nested.of_plain (by decide)).append (ih onward))
  | group kind _ _ _ ihContent ihTail =>
      obtain ⟨gap, inside, rest, rfl, spaces, content, behind⟩ := laid.exists_group
      exact (nested_of_isSpacing spaces).append (.group kind (ihContent content) (ihTail behind))

/-- Where colons are left over, there is one outside all brackets. -/
theorem Balanced.exists_colon (balanced : Balanced outer tokens surplus) (left : 0 < surplus) :
    ∃ first second early late, tokens = first ++ .symbol ":" :: second ∧ Balanced outer first early ∧
      Balanced outer second late := by
  induction balanced with
  | nil => omega
  | keep keeps _ ih =>
      obtain ⟨first, second, early, late, rfl, before, behind⟩ := ih left
      exact ⟨_ :: first, second, early, late, rfl, .keep keeps before, behind⟩
  | @colon outer tokens surplus tail _ => exact ⟨[], tokens, 0, surplus, rfl, .nil outer, tail⟩
  | lambda _ ih =>
      obtain ⟨first, second, early, late, rfl, before, behind⟩ := ih (by omega)
      exact ⟨_ :: first, second, early - 1, late, rfl, .lambda before, behind⟩
  | @group outer kind inside rest inner surplus content fits _ _ ih =>
      obtain ⟨first, second, early, late, rfl, before, behind⟩ := ih left
      exact ⟨_ :: (inside ++ _ :: first), second, early, late, by simp, .group kind content fits before,
        behind⟩

end Places

end Construct
end AnswerKey
