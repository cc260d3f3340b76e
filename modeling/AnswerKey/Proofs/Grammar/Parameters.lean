import AnswerKey.Proofs.Grammar.Expression

namespace AnswerKey
namespace Snippet
namespace Rule

/-!
What parameter lists and whole expressions read.

The items of a parameter list are sorted into stretches, and what they hold is kept.  Without type
hints a parameter list leaves no colon over, so that a lambda has exactly the one at its end; with it
every expression is even.
-/

open Snippet.Tree Tally Snippet.Parser

variable {g : Grammar}

/-! ### What parameters hold -/

/-- What an item of a parameter list holds. -/
def ParameterItem.holding : ParameterItem → Bool × Bool
  | .slash => ⊥
  | .star => ⊥
  | .plain found default? => found.holding ⊔ holdingIn default?.toList
  | .variadic found => found.holding
  | .rest found => found.holding

/-- What the items of a parameter list hold together. -/
def holdingOfItems (items : List ParameterItem) : Bool × Bool :=
  items.foldr (fun item held => item.holding ⊔ held) ⊥

/-- What plain parameters with their defaults hold. -/
def holdingOfPlain (found : List (Tree × Option Tree)) : Bool × Bool :=
  holdingIn (found.map (·.1)) ⊔ holdingIn (found.filterMap (·.2))

/-- What parameters hold. -/
def Parameters.holding (found : Parameters) : Bool × Bool :=
  holdingIn found.parameters ⊔ holdingIn found.defaults ⊔ holdingIn found.keywordDefaults

@[simp] theorem holdingOfItems_nil : holdingOfItems [] = ⊥ := rfl

@[simp] theorem holdingOfItems_cons (item : ParameterItem) (items : List ParameterItem) :
    holdingOfItems (item :: items) = item.holding ⊔ holdingOfItems items := rfl

theorem holdingOfItems_append (items more : List ParameterItem) :
    holdingOfItems (items ++ more) = holdingOfItems items ⊔ holdingOfItems more := by
  induction items with
  | nil => exact (bot_sup_eq _).symm
  | cons item items ih => exact (congrArg _ ih).trans (sup_assoc _ _ _).symm

namespace Parameters

theorem holding_takePlain (items : List ParameterItem) :
    holdingOfItems items = holdingOfPlain (takePlain items).1 ⊔ holdingOfItems (takePlain items).2 := by
  fun_induction takePlain items with
  | case1 found default? others plain left same ih =>
      rw [same] at ih
      cases default? <;> simp_all [holdingOfItems, holdingOfPlain, ParameterItem.holding] <;> ac_rfl
  | case2 => exact (bot_sup_eq _).symm

theorem holding_assemble {front back only : List (Tree × Option Tree)} {variadic rest : List Tree}
    {found : Parameters} (known : assemble front back variadic only rest = some found) :
    found.holding = holdingOfPlain front ⊔ holdingOfPlain back ⊔
      (holdingIn variadic ⊔ holdingOfPlain only ⊔ holdingIn rest) := by
  unfold assemble at known
  simp only [] at known
  split at known
  · cases known
    simp [holding, holdingOfPlain]
    ac_rfl
  · cases known

theorem holding_ofTail? {front back : List (Tree × Option Tree)} {items : List ParameterItem}
    {found : Parameters} (known : ofTail? front back items = some found) :
    found.holding = holdingOfPlain front ⊔ holdingOfPlain back ⊔ holdingOfItems items := by
  have noPlain : holdingOfPlain [] = ⊥ := rfl
  unfold ofTail? at known
  split at known
  · rw [holding_assemble known]
    simp [noPlain]
  · rw [holding_assemble known]
    simp [noPlain, ParameterItem.holding]
  · next others =>
      rw [holdingOfItems_cons, holding_takePlain others]
      split at known
      · cases known
      · next only _ taken =>
          rw [holding_assemble known, taken]
          simp [ParameterItem.holding]
      · next only last _ taken =>
          rw [holding_assemble known, taken]
          simp [ParameterItem.holding]
      · cases known
  · next variadic others =>
      rw [holdingOfItems_cons, holding_takePlain others]
      split at known
      · next only taken =>
          rw [holding_assemble known, taken]
          simp [ParameterItem.holding]
      · next only last taken =>
          rw [holding_assemble known, taken]
          simp [ParameterItem.holding, sup_assoc]
      · cases known
  · cases known

/-- The parameters of a list hold what its items hold. -/
theorem holding_of_ofItems? {items : List ParameterItem} {found : Parameters}
    (known : ofItems? items = some found) : found.holding = holdingOfItems items := by
  rw [holding_takePlain items]
  unfold ofItems? at known
  split at known
  · next front others taken =>
      rw [taken]
      split at known
      · cases known
      · rw [holding_ofTail? known]
        change _ = _ ⊔ (⊥ ⊔ holdingOfItems others)
        rw [holding_takePlain others, bot_sup_eq, sup_assoc]
  · next back left _ taken =>
      rw [taken, holding_ofTail? known]
      exact congrArg (· ⊔ _) (bot_sup_eq _)

end Parameters

/-! ### Parameter lists -/

section Rules

variable (faithful : g.IsFaithful)

/-- A type hint leaves a colon over. -/
theorem leads_hint {p : Parser Tree} (reads : Reads false true p Holds) (hinted : Bool)
    (tally : Tally) (foreign : Bool) :
    Leads (tally.behind foreign) (hint hinted p) fun found after =>
      ∃ surplus foreign, (hinted = false → surplus = 0) ∧
        after = ((tally.hold (holdingIn found)).shift surplus).behind foreign := by
  cases hinted
  · exact .pure ⟨0, foreign, fun _ => rfl, by simp⟩
  · refine .maybe (fun value after => ∃ foreign,
      after = ((tally.hold value.holding).shift 1).behind foreign) ?_ ?_ ?_
    · refine .symbol (next?_colon _) ((reads _ le_rfl).mono ?_)
      rintro value _ ⟨_, foreign, -, rfl, rfl⟩
      exact ⟨foreign, by simp⟩
    · rintro value _ ⟨foreign, rfl⟩
      exact .pure ⟨1, foreign, nofun, by simp⟩
    · exact .pure ⟨0, foreign, nofun, by simp⟩

include faithful

/-- An item of a parameter list leaves a colon over only for a type hint. -/
theorem leads_parameterItem (hinted : Bool) (tally : Tally) :
    Leads (tally.behind false) (parameterItem g hinted) fun found after =>
      ∃ surplus foreign, (hinted = false → surplus = 0) ∧
        after = ((tally.hold found.holding).shift surplus).behind foreign := by
  refine .ifSymbol (next?_of_isUncounted _ rfl) (.pure ⟨0, false, fun _ => rfl, ?_⟩) ?_
  · simp [ParameterItem.holding]
  refine .ifSymbol (next?_of_isUncounted _ rfl) ?_ (.ifSymbol (next?_of_isUncounted _ rfl) ?_ ?_)
  · refine .name fun id foreign => .bind _ (leads_hint faithful.expression hinted _ _) ?_
    rintro found _ ⟨surplus, foreign, bare, rfl⟩
    exact .pure ⟨surplus, foreign, bare, by simp [ParameterItem.holding]⟩
  · refine .maybe _ .anyName ?_ ?_
    · rintro id _ ⟨foreign, rfl⟩
      refine .bind _ (leads_hint (reads_starExpression faithful) hinted _ _) ?_
      rintro found _ ⟨surplus, foreign, bare, rfl⟩
      exact .pure ⟨surplus, foreign, bare, by simp [ParameterItem.holding]⟩
    · exact .pure ⟨0, false, fun _ => rfl, by simp [ParameterItem.holding]⟩
  · refine .name fun id foreign => .bind _ (leads_hint faithful.expression hinted _ _) ?_
    rintro found _ ⟨surplus, foreign, bare, rfl⟩
    refine ((faithful.expression.behind_symbol rfl).maybe le_rfl).bind le_top ?_
    rintro default? _ foreign - rfl
    exact .pure ⟨surplus, foreign, bare, by simp [ParameterItem.holding]⟩

/-- The parameters of a lambda, and the colon behind them. -/
theorem leads_lambdaParameters (tally : Tally) :
    Leads (tally.behind false) (parameters g false ":") fun found after =>
      after = ((tally.hold found.holding).shift 1).behind false := by
  refine .ifSymbol (next?_colon _) (.pure ?_) ?_
  · simp [Parameters.holding, Parameters.none]
  refine .bind _ (.commaList (fun seen within => within = tally.hold (holdingOfItems seen))
    (hold_bot tally).symm ?_) ?_
  · rintro seen _ rfl
    refine (leads_parameterItem faithful false _).mono ?_
    rintro item _ ⟨surplus, foreign, bare, rfl⟩
    refine ⟨_, foreign, rfl, ?_⟩
    simp [bare rfl, holdingOfItems_append]
  · rintro ⟨items, trailing⟩ _ ⟨_, foreign, rfl, rfl⟩
    refine .symbol (next?_colon _) (.lifted fun found known => ?_)
    simp [Parameters.holding_of_ofItems? known]

/-- The parameters of a definition, and the round bracket behind them.  They may leave colons over,
but only outside all other brackets. -/
theorem leads_parameters (tally : Tally) (bare : tally.frames = []) :
    Leads ((tally.opened .round).behind false) (parameters g true ")") fun found after =>
      after = (tally.hold found.holding).behind false := by
  have closing (held : Bool × Bool) (surplus : Int) (foreign : Bool) :
      ((((tally.hold held).opened .round).shift surplus).behind foreign).next? (.symbol ")") =
        some ((tally.hold held).behind false) := next?_round_closing _ _ bare
  refine .ifSymbol (by simpa using closing ⊥ 0 false) (.pure ?_) ?_
  · simp [Parameters.holding, Parameters.none]
  refine .bind _ (.commaList (fun seen within => ∃ surplus,
    within = ((tally.hold (holdingOfItems seen)).opened .round).shift surplus) ⟨0, by simp⟩ ?_) ?_
  · rintro seen _ ⟨surplus, rfl⟩
    refine (leads_parameterItem faithful true _).mono ?_
    rintro item _ ⟨more, foreign, -, rfl⟩
    exact ⟨_, foreign, ⟨surplus + more, rfl⟩, by simp [holdingOfItems_append]⟩
  · rintro ⟨items, trailing⟩ _ ⟨_, foreign, ⟨surplus, rfl⟩, rfl⟩
    refine .symbol (closing _ surplus foreign) (.lifted fun found known => ?_)
    rw [Parameters.holding_of_ofItems? known]

/-! ### Expressions -/

theorem reads_lambda : Reads true true (lambda g) Holds := by
  intro tally _
  refine .keyword (next?_lambda _) (.bind _ (leads_lambdaParameters faithful (tally.shift (-1))) ?_)
  rintro found _ rfl
  refine faithful.expression.bind le_rfl ?_
  rintro body _ foreign - rfl
  exact .pure ⟨_, foreign, le_top, rfl, by simp [Parameters.holding]⟩

theorem reads_expression : Reads false true (expression g) Holds := by
  intro tally ready
  refine .lookIf (isStill_atKeyword _) (reads_lambda faithful tally le_top) ?_
  refine (reads_disjunction faithful).bind ready ?_
  rintro value _ foreign - rfl
  refine .maybe (fun found after => ∃ foreign,
    after = ((tally.hold value.holding).hold (found.1.holding ⊔ found.2.holding)).behind foreign) ?_ ?_ ?_
  · refine .keyword (next?_of_isUncounted _ rfl) ((reads_disjunction faithful).bind le_rfl ?_)
    rintro test _ _ - rfl
    refine .keyword (next?_of_isUncounted _ rfl) (faithful.expression.bind le_rfl ?_)
    rintro alternative _ foreign - rfl
    exact .pure ⟨foreign, by simp [sup_assoc]⟩
  · rintro ⟨test, alternative⟩ _ ⟨foreign, rfl⟩
    exact .pure ⟨_, foreign, le_top, rfl, by simp [sup_left_comm]⟩
  · exact .pure ⟨_, foreign, le_top, rfl, rfl⟩

end Rules

end Rule
end Snippet
end AnswerKey
