import Mathlib.Data.List.TakeDrop
import AnswerKey.Proofs.Grammar.Parameters
import AnswerKey.Snippet.Grammar.Pattern

namespace AnswerKey
namespace Snippet
namespace Rule

/-!
What patterns read.

Patterns are even like expressions; the colons of a mapping stand inside its braces.
-/

open Snippet.Tree Tally Snippet.Parser

variable {g : Grammar}

/-! ### Literals -/

theorem reads_signedNumber : Reads true false signedNumber fun found => Holds found.2 := by
  intro tally _ tokens found rest read
  unfold signedNumber at read
  split at read
  · next value left =>
      cases read
      exact ⟨[.number value], _, rfl, rfl, ⊥, false, le_rfl, rfl, by rw [hold_bot]⟩
  · next value left =>
      cases read
      refine ⟨[.symbol "-", .number value], tally.behind false, rfl, rfl, ⊥, false, le_rfl, rfl, ?_⟩
      rw [hold_bot]
  · cases read

theorem reads_patternNumber : Reads true false patternNumber Holds := by
  intro tally ready tokens tree rest read
  obtain ⟨⟨⟨real, first⟩, left⟩, head, tail⟩ := Option.bind_eq_some_iff.mp read
  obtain ⟨used, _, rfl, run, _, foreign, settled, rfl, rfl⟩ :=
    reads_signedNumber tally ready tokens _ left head
  have alone : ∃ used' after, used ++ left = used' ++ left ∧ tally.run? used' = some after ∧
      ∃ held foreign, foreign ≤ false ∧ Holds first held ∧ after = (tally.hold held).behind foreign :=
    ⟨used, _, rfl, run, _, foreign, settled, rfl, rfl⟩
  obtain ⟨⟨token, left'⟩, looked, ends⟩ := Option.bind_eq_some_iff.mp tail
  obtain rfl := isStill_peek _ _ _ looked
  dsimp only at ends
  split at ends
  · next shown =>
      cases known : List.lookup shown [("+", BinaryOp.add), ("-", .sub)] with
      | none =>
          rw [known] at ends
          cases ends
          exact alone
      | some op =>
          rw [known] at ends
          -- The sign was only looked at, so it is met again in front of the second number.
          dsimp only at ends
          split at ends
          · next sign value left =>
              split at ends
              · cases ends
                cases looked
                refine ⟨used ++ [.symbol shown, .number value], _, by simp, ?_, _, false, le_rfl, rfl, rfl⟩
                rw [run?_append, run, Option.bind_some, run?,
                  next?_of_isUncounted _ (isUncounted_of_lookup (by decide) known)]
                simp [run?, next?]
              · cases ends
          · cases ends
  · cases ends
    exact alone

theorem reads_patternLiteral : Reads false false (patternLiteral g) fun found held =>
    Holds found.2 held ∧ (found.1.isSome = true → held = ⊥) := by
  intro tally ready tokens found rest read
  unfold patternLiteral at read
  split at read
  · next shown left =>
      obtain ⟨value, known, same⟩ := Option.map_eq_some_iff.mp read
      cases same
      refine ⟨[.keyword shown], _, rfl, ?_, ⊥, false, le_rfl, ⟨rfl, fun _ => rfl⟩, by rw [hold_bot]⟩
      rw [run?, next?_of_isUncounted _ (isUncounted_of_constant known)]
      rfl
  · obtain ⟨⟨tree, left⟩, string, same⟩ := Option.map_eq_some_iff.mp read
    cases same
    obtain ⟨used, after, whole, run, held, foreign, within, found, reached⟩ :=
      reads_strings tally ready _ tree _ string
    exact ⟨used, after, whole, run, held, foreign, within, ⟨found, (Bool.noConfusion ·)⟩, reached⟩
  · obtain ⟨⟨tree, left⟩, number, same⟩ := Option.map_eq_some_iff.mp read
    cases same
    obtain ⟨used, after, whole, run, held, foreign, within, found, reached⟩ :=
      reads_patternNumber tally (le_trans ready (Bool.false_le _)) _ tree _ number
    exact ⟨used, after, whole, run, held, foreign, within, ⟨found, (Bool.noConfusion ·)⟩, reached⟩

/-! ### Names -/

theorem isStill_nameMayEnd : IsStill nameMayEnd := by
  intro tokens value rest read
  obtain ⟨⟨token, left⟩, head, tail⟩ := Option.bind_eq_some_iff.mp read
  obtain rfl := isStill_peek _ _ _ head
  dsimp only at tail
  split at tail <;> cases tail <;> rfl

theorem isStill_atWildcard : IsStill atWildcard := by
  intro tokens value rest read
  obtain ⟨⟨token, left⟩, head, tail⟩ := Option.bind_eq_some_iff.mp read
  obtain rfl := isStill_peek _ _ _ head
  cases tail
  rfl

theorem leads_captureName (tally : Tally) :
    Leads tally captureName fun _ after => ∃ foreign, after = tally.behind foreign := by
  refine .lookIf isStill_atWildcard .failure ?_
  refine .name fun id foreign => .lookIf isStill_nameMayEnd (.pure ⟨foreign, rfl⟩) .failure

/-- Attributes add nothing to what is held. -/
theorem holding_foldl_attributes (first : Tree) (ids : List String) :
    (ids.foldl (fun value id => node (.attribute id .load) [[value]]) first).holding =
      first.holding := by
  induction ids generalizing first with
  | nil => rfl
  | cons id ids ih => simp [ih]

theorem reads_dottedName : Reads true true dottedName fun found => Holds found.1 := by
  intro tally _
  refine .name fun first foreign => ?_
  have later : Reads true true (do symbol "."; Parser.name) HoldsNothing :=
    Reads.name.behind_symbol rfl
  refine later.many.bind le_top fun others held foreign _ gathered => ?_
  obtain rfl := gathered.nothing
  exact .pure ⟨⊥, foreign, le_top, holding_foldl_attributes _ _, by simp⟩

theorem leads_starName (tally : Tally) :
    Leads tally starName fun _ after => ∃ foreign, after = tally.behind foreign := by
  refine .lookIf isStill_atWildcard (.word (.pure ⟨false, rfl⟩)) ?_
  exact .map (leads_captureName tally)

/-! ### Compound patterns -/

section Rules

variable (faithful : g.IsFaithful)

include faithful

theorem reads_sequenceItem : Reads false true (sequenceItem g) fun found => Holds found.1 := by
  intro tally ready
  refine .ifSymbol (next?_of_isUncounted _ rfl) ?_ ?_
  · refine .bind _ (leads_starName _) ?_
    rintro id _ ⟨foreign, rfl⟩
    exact .pure ⟨⊥, foreign, le_top, by simp [Holds], by simp⟩
  · refine faithful.pattern.bind ready ?_
    rintro value _ foreign - rfl
    exact .pure ⟨_, foreign, le_top, rfl, rfl⟩

omit faithful in
theorem holding_sequencePattern {items : List (Tree × Bool)} {held : Bool × Bool}
    (gathered : Gathers (fun found => Holds found.1) items held) :
    (sequencePattern items).holding = held := by
  simp [sequencePattern, gathered.holdingIn_map]

theorem closes_roundPattern : Closes .round (roundPattern g) Holds := by
  intro tally
  refine .ifSymbol (next?_closing tally false 0 (.inl rfl)) (.pure ⟨_, rfl, by simp [sequencePattern]⟩) ?_
  refine (reads_sequenceItem faithful).commaList.bind le_rfl ?_
  rintro ⟨items, trailing⟩ held foreign - gathered
  refine .symbol (next?_closing (tally.hold held) foreign 0 (.inl rfl)) ?_
  split
  · exact .pure ⟨held, by simpa [Holds] using gathered.holdingIn_map, rfl⟩
  · exact .failure
  · exact .pure ⟨held, holding_sequencePattern gathered, rfl⟩

theorem closes_squarePattern : Closes .square (squarePattern g) Holds := by
  intro tally
  refine .ifSymbol (next?_closing tally false 0 (.inl rfl)) (.pure ⟨_, rfl, by simp [sequencePattern]⟩) ?_
  refine (reads_sequenceItem faithful).commaList.bind le_rfl ?_
  rintro ⟨items, trailing⟩ held foreign - gathered
  refine .symbol (next?_closing (tally.hold held) foreign 0 (.inl rfl)) ?_
  exact .pure ⟨held, holding_sequencePattern gathered, rfl⟩

/-! ### Mappings -/

omit faithful in
/-- The trees of an entry of a mapping pattern. -/
def entryTrees : String ⊕ Tree × Tree → List Tree
  | .inl _ => []
  | .inr (key, value) => [key, value]

omit faithful in
theorem holdingIn_of_mappingOf? {items : List (String ⊕ Tree × Tree)} {keys values : List Tree}
    {rest : Option String} (known : mappingOf? items = some (keys, values, rest)) :
    holdingIn (items.flatMap entryTrees) = holdingIn keys ⊔ holdingIn values := by
  fun_induction mappingOf? items generalizing keys values rest with
  | case1 => cases known; rfl
  | case2 => cases known; rfl
  | case3 => cases known
  | case4 key value others ih =>
      obtain ⟨⟨keys', values', rest'⟩, tail, same⟩ := Option.map_eq_some_iff.mp known
      cases same
      simp [entryTrees, ih tail, sup_assoc, sup_left_comm]

/-- An entry with a key leaves a colon over. -/
theorem leads_mappingItem (tally : Tally) : Leads (tally.behind false) (mappingItem g)
    fun found after => ∃ surplus foreign,
      after = ((tally.hold (holdingIn (entryTrees found))).shift surplus).behind foreign := by
  refine .ifSymbol (next?_of_isUncounted _ rfl) ?_ ?_
  · refine .bind _ (leads_captureName _) ?_
    rintro id _ ⟨foreign, rfl⟩
    exact .pure ⟨0, foreign, by simp [entryTrees]⟩
  · refine .look isStill_peek fun token => ?_
    let keyRead (key : Tree) (after : Tally) : Prop :=
      ∃ foreign, after = (tally.hold key.holding).behind foreign
    have entered (key : Tree) (after : Tally) (reached : keyRead key after) : Leads after
        (do symbol ":"; let value ← g.pattern; Pure.pure (.inr (key, value)))
        fun found after => ∃ surplus foreign,
          after = ((tally.hold (holdingIn (entryTrees found))).shift surplus).behind foreign := by
      obtain ⟨foreign, rfl⟩ := reached
      refine .symbol (next?_colon _) (faithful.pattern.bind le_rfl ?_)
      rintro value _ foreign - rfl
      exact .pure ⟨1, foreign, by simp [entryTrees]⟩
    split
    · refine reads_dottedName.bind le_top ?_
      rintro ⟨found, dotted⟩ _ foreign - rfl
      exact .ite (entered found _ ⟨foreign, rfl⟩) .failure
    · refine reads_patternLiteral.bind le_rfl ?_
      rintro ⟨singleton?, found⟩ _ foreign - ⟨rfl, -⟩
      exact entered found _ ⟨foreign, rfl⟩

theorem closes_bracePattern : Closes .curly (bracePattern g) Holds := by
  intro tally
  refine .ifSymbol (next?_closing tally false 0 (.inl rfl)) (.pure ⟨_, rfl, by simp⟩) ?_
  refine .bind _ (.commaList (fun seen within => ∃ surplus,
    within = ((tally.hold (holdingIn (seen.flatMap entryTrees))).opened .curly).shift surplus)
    ⟨0, by simp⟩ ?_) ?_
  · rintro seen _ ⟨surplus, rfl⟩
    refine (leads_mappingItem faithful _).mono ?_
    rintro item _ ⟨more, foreign, rfl⟩
    exact ⟨_, foreign, ⟨surplus + more, rfl⟩, by simp⟩
  · rintro ⟨items, trailing⟩ _ ⟨_, foreign, ⟨surplus, rfl⟩, rfl⟩
    refine .symbol (next?_closing _ foreign surplus (.inr rfl)) (.lift ?_)
    rintro ⟨keys, values, rest⟩ known
    exact .pure ⟨_, rfl, by simp [holdingIn_of_mappingOf? known]⟩

/-! ### Classes -/

theorem reads_classItem : Reads false true (classItem g) fun found => Holds found.2 := by
  intro tally ready
  refine .lookIf (isStill_atNameThen _) ?_ ?_
  · refine .name fun id _ => .symbol (next?_of_isUncounted _ rfl) ?_
    refine faithful.pattern.bind le_rfl ?_
    rintro value _ foreign - rfl
    exact .pure ⟨_, foreign, le_top, rfl, by simp⟩
  · refine faithful.pattern.bind ready ?_
    rintro value _ foreign - rfl
    exact .pure ⟨_, foreign, le_top, rfl, rfl⟩

theorem leads_classItems (tally : Tally) (subject : Tree) :
    Leads ((tally.opened .round).behind false) (classItems g subject) fun found after =>
      ∃ held, found.holding = subject.holding ⊔ held ∧ after = (tally.hold held).behind false := by
  refine .ifSymbol (next?_closing tally false 0 (.inl rfl)) (.pure ⟨⊥, by simp, by simp⟩) ?_
  refine (reads_classItem faithful).commaList.bind le_rfl ?_
  rintro ⟨items, trailing⟩ held foreign - gathered
  refine .symbol (next?_closing (tally.hold held) foreign 0 (.inl rfl)) ?_
  dsimp only
  rw [List.span_eq_takeWhile_dropWhile]
  refine .ite (.pure ⟨held, ?_, rfl⟩) .failure
  have whole : items.takeWhile (·.1.isNone) ++ items.dropWhile (·.1.isNone) = items :=
    List.takeWhile_append_dropWhile
  have together := gathered.holdingIn_map
  rw [← whole, List.map_append, holdingIn_append] at together
  simpa using congrArg (subject.holding ⊔ ·) together

theorem reads_namePattern : Reads true true (namePattern g) Holds := by
  intro tally _
  refine .lookIf isStill_atWildcard (.word (.pure ⟨⊥, false, le_top, by simp [Holds], by simp⟩)) ?_
  refine reads_dottedName.bind le_top ?_
  rintro ⟨found, dotted⟩ _ foreign - rfl
  refine .ifSymbol (next?_round _) ?_ (.lookIf (isStill_atSymbol _) .failure ?_)
  · refine (leads_classItems faithful (tally.hold found.holding) found).mono ?_
    rintro value _ ⟨held, same, rfl⟩
    exact ⟨_, false, le_top, same, by simp⟩
  · dsimp only
    split
    · exact .pure ⟨⊥, foreign, le_top, by simp [Holds], by simp⟩
    · exact .ite (.pure ⟨_, foreign, le_top, by simp [Holds], rfl⟩) .failure

/-! ### Patterns -/

theorem reads_closedPattern : Reads false true (closedPattern g) Holds := by
  intro tally ready tokens tree rest read
  unfold closedPattern at read
  split at read
  · exact reads_namePattern faithful tally le_top _ tree rest read
  · exact (closes_roundPattern faithful).behind (next?_round tally) read
  · exact (closes_squarePattern faithful).behind (next?_square tally) read
  · exact (closes_bracePattern faithful).behind (next?_curly tally) read
  · split at read
    · next value found left literal =>
        cases read
        obtain ⟨used, _, whole, run, held, foreign, -, ⟨-, bare⟩, rfl⟩ :=
          reads_patternLiteral tally ready _ _ _ literal
        obtain rfl := bare rfl
        exact ⟨used, _, whole, run, ⊥, foreign, le_top, by simp [Holds], rfl⟩
    · next found left literal =>
        cases read
        obtain ⟨used, _, whole, run, _, foreign, -, ⟨rfl, -⟩, rfl⟩ :=
          reads_patternLiteral tally ready _ _ _ literal
        exact ⟨used, _, whole, run, _, foreign, le_top, rfl, by simp⟩
    · cases read

theorem reads_pattern : Reads false true (pattern g) Holds := by
  intro tally ready
  have closed := reads_closedPattern faithful
  refine (closed.separated (closed.behind_symbol rfl).many).bind ready ?_
  intro choices held foreign _ gathered
  have closes (found : Tree) (same : found.holding = held) : Leads ((tally.hold held).behind foreign)
      (do
        if ← takeKeyword "as" then
          let id ← captureName
          Pure.pure (.node (.matchAs (some id)) [[found]])
        else Pure.pure found)
      fun found after => ∃ held foreign, foreign ≤ true ∧ Holds found held ∧
        after = (tally.hold held).behind foreign := by
    refine .ifKeyword (next?_of_isUncounted _ rfl) ?_ (.pure ⟨held, foreign, le_top, same, rfl⟩)
    refine .bind _ (leads_captureName _) ?_
    rintro id _ ⟨foreign, rfl⟩
    exact .pure ⟨held, foreign, le_top, by simpa [Holds] using same, by simp⟩
  refine closes _ ?_
  rw [← gathered.holdingIn]
  split <;> simp

theorem reads_casePattern : Reads false true (casePattern g) Holds := by
  intro tally ready
  refine (reads_sequenceItem faithful).commaList.bind ready ?_
  rintro ⟨items, trailing⟩ held foreign - gathered
  dsimp only
  split
  · exact .pure ⟨held, foreign, le_top, by simpa [Holds] using gathered.holdingIn_map, rfl⟩
  · exact .failure
  · exact .pure ⟨held, foreign, le_top, holding_sequencePattern gathered, rfl⟩

end Rules

end Rule
end Snippet
end AnswerKey
