import AnswerKey.Proofs.Grammar.Depth

namespace AnswerKey
namespace Snippet

/-!
The levels of the grammar on tokens of little weight.

Patterns and statements agree as expressions do, and with that whole levels (`Grammar.agrees_level`).
A text is read at more levels than its tokens weigh, so any two numbers of levels that long texts may
be read at give it one tree (`Tree.whole?_eq`).
-/

namespace Rule

open Snippet.Parser

variable {n : Nat} {g h : Grammar}

/-! ### Parts of patterns -/

theorem narrows_signedNumber : Narrows signedNumber := by
  intro tokens value rest read
  unfold signedNumber at read
  split at read
  · cases read
    exact Nat.le_add_left _ _
  · cases read
    simp only [weight_cons]
    omega
  · cases read

theorem agree_patternNumber : Agree n patternNumber patternNumber := by
  refine .after narrows_signedNumber fun found => .look isStill_peek fun token => ?_
  split
  · split
    · refine .of_narrows fun tokens value rest read => ?_
      split at read
      · split at read
        · cases read
          simp only [weight_cons]
          omega
        · cases read
      · cases read
    · exact .pure _
  · exact .pure _

theorem agree_captureName : Agree n captureName captureName := by
  refine .look isStill_atWildcard fun _ => .ite .failure (.after narrows_name fun _ => ?_)
  exact .look isStill_nameMayEnd fun _ => .ite (.pure _) .failure

theorem agree_dottedName : Agree n dottedName dottedName := by
  refine .after narrows_name fun _ => ?_
  refine (Agree.many (.after (consumes_symbol _).narrows fun _ => .of_narrows narrows_name)).bind ?_
  exact fun _ => .pure _

theorem agree_starName : Agree n starName starName := by
  refine .look isStill_atWildcard fun _ => .ite ?_ agree_captureName.map
  exact .after (consumes_word _).narrows fun _ => .pure _

section Patterns

variable (agrees : g.Agrees n h)

include agrees

theorem agree_patternLiteral : Agree (n + 1) (patternLiteral g) (patternLiteral h) := by
  intro tokens light
  unfold patternLiteral
  split
  · refine ⟨rfl, fun value left read => ?_⟩
    obtain ⟨_, -, same⟩ := Option.map_eq_some_iff.mp read
    cases same
    exact Nat.le_add_left _ _
  · obtain ⟨same, narrows⟩ := agree_strings agrees _ light
    refine ⟨by rw [same], fun value left read => ?_⟩
    obtain ⟨⟨_, _⟩, found, same⟩ := Option.map_eq_some_iff.mp read
    cases same
    exact narrows _ _ found
  · obtain ⟨-, narrows⟩ := agree_patternNumber _ light
    refine ⟨rfl, fun value left read => ?_⟩
    obtain ⟨⟨_, _⟩, found, same⟩ := Option.map_eq_some_iff.mp read
    cases same
    exact narrows _ _ found

/-! ### Compound patterns -/

theorem agree_sequenceItem : Agree n (sequenceItem g) (sequenceItem h) := by
  refine .ifSymbol ?_ (agrees.pattern.bind fun _ => .pure _)
  exact agree_starName.bind fun _ => .pure _

theorem agree_roundPattern : Agree n (roundPattern g) (roundPattern h) := by
  refine .ifSymbol (.pure _) ((agree_sequenceItem agrees).commaList.bind fun found => ?_)
  refine .after (consumes_symbol _).narrows fun _ => ?_
  split
  · exact .pure _
  · exact .failure
  · exact .pure _

theorem agree_squarePattern : Agree n (squarePattern g) (squarePattern h) := by
  refine .ifSymbol (.pure _) ((agree_sequenceItem agrees).commaList.bind fun found => ?_)
  exact .after (consumes_symbol _).narrows fun _ => .pure _

theorem agree_mappingItem : Agree (n + 1) (mappingItem g) (mappingItem h) := by
  have entry (key : Tree) : Agree (n + 1)
      (do symbol ":"; let value ← g.pattern; pure (Sum.inr (α := String) (key, value)))
      (do symbol ":"; let value ← h.pattern; pure (Sum.inr (key, value))) :=
    .behind (consumes_symbol _) fun _ => agrees.pattern.bind fun _ => .pure _
  refine .ifSymbol (agree_captureName.bind fun _ => .pure _) (.look isStill_peek fun token => ?_)
  split
  · refine agree_dottedName.bind fun found => ?_
    exact .ite (.bind (.pure _) entry) (.bind .failure entry)
  · exact (agree_patternLiteral agrees).bind fun found => .bind (.pure _) entry

theorem agree_bracePattern : Agree n (bracePattern g) (bracePattern h) := by
  have item := (agree_mappingItem agrees).below
  refine .ifSymbol (.pure _) (item.commaList.bind fun found => ?_)
  refine .after (consumes_symbol _).narrows fun _ => .after (narrows_lift _) fun _ => .pure _

theorem agree_classItem : Agree n (classItem g) (classItem h) := by
  refine .look (isStill_atNameThen _) fun _ => .ite ?_ (agrees.pattern.bind fun _ => .pure _)
  refine .after narrows_name fun _ => .after (consumes_symbol _).narrows fun _ => ?_
  exact agrees.pattern.bind fun _ => .pure _

theorem agree_classItems (subject : Tree) :
    Agree n (classItems g subject) (classItems h subject) := by
  refine .ifSymbol (.pure _) ((agree_classItem agrees).commaList.bind fun found => ?_)
  exact .after (consumes_symbol _).narrows fun _ => .ite (.pure _) .failure

theorem agree_namePattern : Agree (n + 1) (namePattern g) (namePattern h) := by
  refine .look isStill_atWildcard fun _ => .ite ?_ (agree_dottedName.bind fun found => ?_)
  · exact .after (consumes_word _).narrows fun _ => .pure _
  · refine .ifSymbol (agree_classItems agrees _) (.look (isStill_atSymbol _) fun _ => .ite .failure ?_)
    split
    · exact .pure _
    · exact .ite (.pure _) .failure

theorem agree_closedPattern : Agree (n + 1) (closedPattern g) (closedPattern h) := by
  intro tokens light
  have behind {token : Token} {rest : List Token} {p p' : Parser Tree} (agree : Agree n p p')
      (one : token.weight = 1) (light : weight (token :: rest) < n + 1) :
      p rest = p' rest ∧
        ∀ value left, p rest = some (value, left) → weight left ≤ weight (token :: rest) := by
    rw [weight_cons, one] at light ⊢
    obtain ⟨same, narrows⟩ := agree rest (by omega)
    exact ⟨same, fun value left read => (narrows value left read).trans (Nat.le_add_left _ _)⟩
  unfold closedPattern
  split
  · exact agree_namePattern agrees _ light
  · exact behind (agree_roundPattern agrees) rfl light
  · exact behind (agree_squarePattern agrees) rfl light
  · exact behind (agree_bracePattern agrees) rfl light
  · obtain ⟨same, narrows⟩ := agree_patternLiteral agrees _ light
    rw [← same]
    refine ⟨rfl, fun value left read => ?_⟩
    split at read
    · next literal =>
        cases read
        exact narrows _ _ literal
    · next literal =>
        cases read
        exact narrows _ _ literal
    · cases read

/-! ### Patterns -/

theorem agree_pattern : Agree (n + 1) (pattern g) (pattern h) := by
  refine ((agree_closedPattern agrees).separated (consumes_symbol _).narrows).bind fun choices => ?_
  exact .ifKeyword (agree_captureName.bind fun _ => .pure _) (.pure _)

theorem agree_casePattern : Agree n (casePattern g) (casePattern h) := by
  refine (agree_sequenceItem agrees).commaList.bind fun found => ?_
  obtain ⟨items, trailing⟩ := found
  simp only []
  split
  · exact .pure _
  · exact .failure
  · exact .pure _

end Patterns

/-! ### Simple statements -/

theorem narrows_augmentedOp : Narrows augmentedOp := by
  intro tokens value rest read
  unfold augmentedOp at read
  split at read
  · obtain ⟨_, -, same⟩ := Option.map_eq_some_iff.mp read
    cases same
    exact Nat.le_add_left _ _
  · cases read

theorem agree_name : Agree n name name :=
  .of_narrows narrows_name

theorem agree_dottedText : Agree n dottedText dottedText :=
  (agree_name.separated (consumes_symbol _).narrows).bind fun _ => .pure _

theorem agree_boundAs : Agree n boundAs boundAs :=
  .ifKeyword agree_name.map (.pure _)

theorem agree_importStatement : Agree n importStatement importStatement := by
  have one : Agree n _ _ := agree_dottedText.bind fun id =>
    agree_boundAs.bind fun bound => .pure (⟨id, bound⟩ : Alias)
  exact (one.separated (consumes_symbol _).narrows).bind fun _ => .pure _

theorem agree_importLevel : Agree n importLevel importLevel := by
  refine Agree.bind (.many (.ifSymbol (.pure _) ?_)) fun _ => .pure _
  exact .after (consumes_symbol _).narrows fun _ => .pure _

theorem agree_importedNames : Agree n importedNames importedNames := by
  have one {m : Nat} : Agree m _ _ := agree_name.bind fun id =>
    agree_boundAs.bind fun bound => .pure (⟨id, bound⟩ : Alias)
  refine .ifSymbol (.pure _) (.ifSymbol ?_ ?_)
  · exact one.commaList.bind fun _ => .after (consumes_symbol _).narrows fun _ => .pure _
  · exact one.commaList.bind fun _ => .ite .failure (.pure _)

theorem agree_importFrom : Agree n importFrom importFrom := by
  refine agree_importLevel.bind fun _ => agree_dottedText.maybe.bind fun _ => .ite .failure ?_
  exact .after (consumes_keyword _).narrows fun _ => agree_importedNames.bind fun _ => .pure _

/-- Parsers that agree, or none at all. -/
inductive AgreeIfAny (n : Nat) : Option (Parser Tree) → Option (Parser Tree) → Prop where
  | none : AgreeIfAny n none none
  | some {p p' : Parser Tree} (agree : Agree n p p') : AgreeIfAny n (some p) (some p')

section Statements

variable (agrees : g.Agrees n h)

include agrees

theorem agree_hinted (simple : Bool) (found : Tree) :
    Agree n (hinted g simple found) (hinted h simple found) := by
  refine .after (consumes_symbol _).narrows fun _ => agrees.expression.bind fun kind => ?_
  refine .ifSymbol ?_ (.bind (.pure _) fun _ => .pure _)
  exact (agree_assignedValue agrees).map.below.bind fun _ => .pure _

theorem agree_assignment (first : Tree) : Agree n (assignment g first) (assignment h first) := by
  refine (Agree.many (.after (consumes_symbol _).narrows fun _ => agree_assignedValue agrees)).bind ?_
  intro others
  split
  · exact .pure _
  · exact .after (narrows_lift _) fun _ => .pure _

theorem agree_expressionStatement : Agree n (expressionStatement g) (expressionStatement h) := by
  refine .look (isStill_atNameThen _) fun _ => .ite ?_ ?_
  · exact .after narrows_name fun _ => agree_hinted agrees _ _
  · refine (agree_assignedValue agrees).bind fun first => .look (isStill_atSymbol _) fun _ => .ite ?_ ?_
    · exact .after (narrows_lift _) fun _ => agree_hinted agrees _ _
    · refine (Agree.of_narrows narrows_augmentedOp).maybe.bind fun op => ?_
      split
      · refine .after (narrows_lift _) fun _ => ?_
        exact (agree_assignedValue agrees).bind fun _ => .pure _
      · exact agree_assignment agrees first

theorem agree_raiseStatement : Agree n (raiseStatement g) (raiseStatement h) := by
  refine agrees.expression.maybe.bind fun value => ?_
  split
  · exact .pure _
  · refine .ifKeyword ?_ (.bind (.pure _) fun _ => .pure _)
    exact agrees.expression.map.below.bind fun _ => .pure _

theorem agree_assertStatement : Agree n (assertStatement g) (assertStatement h) := by
  refine agrees.expression.bind fun test => .ifSymbol ?_ (.bind (.pure _) fun _ => .pure _)
  exact agrees.expression.map.below.bind fun _ => .pure _

theorem agree_deleteStatement : Agree n (deleteStatement g) (deleteStatement h) := by
  refine Agree.bind (.commaList (agrees.primary.bind fun _ => ?_)) fun _ => .pure _
  exact .of_narrows (narrows_lift _)

theorem agree_keywordStatement? (shown : String) :
    AgreeIfAny n (keywordStatement? g shown) (keywordStatement? h shown) := by
  have names : Agree n _ _ := agree_name.separated (consumes_symbol ",").narrows
  unfold keywordStatement?
  split
  · exact .some ((agree_starExpressions agrees).maybe.bind fun _ => .pure _)
  · exact .some agree_importStatement
  · exact .some agree_importFrom
  · exact .some (agree_raiseStatement agrees)
  · exact .some (.pure _)
  · exact .some (agree_deleteStatement agrees)
  · exact .some (agree_assertStatement agrees)
  · exact .some (.pure _)
  · exact .some (.pure _)
  · exact .some (names.bind fun _ => .pure _)
  · exact .some (names.bind fun _ => .pure _)
  · exact .none

theorem agree_simpleStatement : Agree n (simpleStatement g) (simpleStatement h) := by
  intro tokens light
  unfold simpleStatement
  split
  · next shown rest =>
      have choice := agree_keywordStatement? agrees shown
      generalize keywordStatement? g shown = found at choice ⊢
      generalize keywordStatement? h shown = found' at choice ⊢
      cases choice with
      | none => exact agree_expressionStatement agrees _ light
      | some agree =>
          have lighter : weight rest ≤ weight (.keyword shown :: rest) := Nat.le_add_left _ _
          obtain ⟨same, narrows⟩ := agree rest (by omega)
          exact ⟨same, fun value left read => (narrows value left read).trans lighter⟩
  · exact agree_expressionStatement agrees _ light

theorem agree_simpleLine : Agree n (simpleLine g) (simpleLine h) := by
  refine ((agree_simpleStatement agrees).separated (consumes_symbol _).narrows).bind fun found => ?_
  refine .after (narrows_takeSymbol _) fun _ => .after (narrows_mark _) fun _ => .pure _

/-! ### Blocks -/

theorem agree_block : Agree n (block g) (block h) := by
  refine .behind (consumes_symbol _) fun _ => (Agree.of_narrows (narrows_mark _)).maybe.bind ?_
  intro ended
  split
  · refine .after (narrows_mark _) fun _ => agrees.statement.bind fun _ => ?_
    exact agrees.statement.many.bind fun _ => .after (narrows_mark _) fun _ => .pure _
  · exact (agree_simpleLine agrees).below

theorem agree_blockAfter (shown : String) : Agree n (blockAfter g shown) (blockAfter h shown) :=
  .ifKeyword (agree_block agrees).below (.pure _)

/-! ### Compound statements -/

theorem agree_ifStatement : Agree n (ifStatement g) (ifStatement h) := by
  have branch := (agree_namedExpression agrees).bind fun test =>
    (agree_block agrees).bind fun body => Agree.pure (test, body)
  refine (agree_namedExpression agrees).bind fun test => (agree_block agrees).bind fun body => ?_
  refine (Agree.many (.after (consumes_keyword _).narrows fun _ => branch)).bind fun others => ?_
  exact (agree_blockAfter agrees _).bind fun _ => .pure _

theorem agree_whileStatement : Agree n (whileStatement g) (whileStatement h) :=
  (agree_namedExpression agrees).bind fun _ => (agree_block agrees).bind fun _ =>
    (agree_blockAfter agrees _).bind fun _ => .pure _

theorem agree_forStatement (isAsync : Bool) :
    Agree n (forStatement g isAsync) (forStatement h isAsync) := by
  refine (agree_targets agrees).bind fun found => .after (consumes_keyword _).narrows fun _ => ?_
  refine (agree_starExpressions agrees).bind fun iterable => (agree_block agrees).bind fun body => ?_
  exact (agree_blockAfter agrees _).bind fun _ => .pure _

theorem agree_handler (isGroup : Bool) : Agree n (handler g isGroup) (handler h isGroup) := by
  refine .after (consumes_keyword _).narrows fun _ => ?_
  cases isGroup
  · refine agrees.expression.maybe.bind fun kind => .ite ?_ ?_
    · exact agree_boundAs.bind fun _ => (agree_block agrees).bind fun _ => .pure _
    · exact .bind (.pure _) fun _ => (agree_block agrees).bind fun _ => .pure _
  · refine .after (consumes_symbol _).narrows fun _ => agrees.expression.map.bind fun kind => .ite ?_ ?_
    · exact agree_boundAs.bind fun _ => (agree_block agrees).bind fun _ => .pure _
    · exact .bind (.pure _) fun _ => (agree_block agrees).bind fun _ => .pure _

theorem agree_tryStatement : Agree n (tryStatement g) (tryStatement h) := by
  refine (agree_block agrees).bind fun body => (agree_handler agrees false).many.bind fun single => ?_
  refine .ite (.bind (agree_handler agrees true).many ?groups) (.bind (.pure _) ?groups)
  case groups =>
    intro groups
    refine .ite (.bind (.pure _) ?ends) (.bind (agree_blockAfter agrees _) ?ends)
    case ends =>
      exact fun _ => (agree_blockAfter agrees _).bind fun _ => .ite .failure (.pure _)

theorem agree_withItem : Agree n (withItem g) (withItem h) := by
  refine agrees.expression.bind fun manager => .ifKeyword ?_ (.bind (.pure _) fun _ => .pure _)
  exact (agree_target agrees).map.below.bind fun _ => .pure _

theorem agree_withItems : Agree n (withItems g) (withItems h) := by
  refine .orElse ?_ ((agree_withItem agrees).separated (consumes_symbol _).narrows)
  refine .after (consumes_symbol _).narrows fun _ => (agree_withItem agrees).commaList.bind fun _ => ?_
  refine .after (consumes_symbol _).narrows fun _ => .look (isStill_atSymbol _) fun _ => ?_
  exact .ite (.pure _) .failure

theorem agree_withStatement (isAsync : Bool) :
    Agree n (withStatement g isAsync) (withStatement h isAsync) :=
  (agree_withItems agrees).bind fun _ => (agree_block agrees).bind fun _ => .pure _

theorem agree_functionDef (isAsync : Bool) (decorators : List Tree) :
    Agree n (functionDef g isAsync decorators) (functionDef h isAsync decorators) := by
  refine .after narrows_name fun id => .after (consumes_symbol _).narrows fun _ => ?_
  refine (agree_parameters agrees true ")").bind fun found => .ifSymbol ?_ ?_
  · exact agrees.expression.map.below.bind fun _ => (agree_block agrees).below.bind fun _ => .pure _
  · exact .bind (.pure _) fun _ => (agree_block agrees).bind fun _ => .pure _

theorem agree_classDef (decorators : List Tree) :
    Agree n (classDef g decorators) (classDef h decorators) := by
  refine .after narrows_name fun id => .ifSymbol ?_ ?_
  · exact (agree_arguments agrees false).below.bind fun _ =>
      (agree_block agrees).below.bind fun _ => .pure _
  · exact .bind (.pure _) fun _ => (agree_block agrees).bind fun _ => .pure _

theorem agree_decorated : Agree n (decorated g) (decorated h) := by
  refine Agree.bind (.many (.after (consumes_symbol _).narrows fun _ => ?_)) fun decorators => ?_
  · exact (agree_namedExpression agrees).bind fun _ => .after (narrows_mark _) fun _ => .pure _
  · refine .ifKeyword (agree_classDef agrees _).below (.after (narrows_takeKeyword _) fun _ => ?_)
    exact .after (consumes_keyword _).narrows fun _ => agree_functionDef agrees _ _

theorem agree_asyncStatement : Agree n (asyncStatement g) (asyncStatement h) := by
  refine .ifKeyword (agree_functionDef agrees _ _).below ?_
  refine .ifKeyword (agree_forStatement agrees _).below ?_
  exact .after (consumes_keyword _).narrows fun _ => agree_withStatement agrees _

theorem agree_caseBlock : Agree n (caseBlock g) (caseBlock h) := by
  refine .after (consumes_word _).narrows fun _ => (agree_casePattern agrees).bind fun found => ?_
  refine .ifKeyword ?_ ?_
  · exact (agree_namedExpression agrees).map.below.bind fun _ =>
      (agree_block agrees).below.bind fun _ => .pure _
  · exact .bind (.pure _) fun _ => (agree_block agrees).bind fun _ => .pure _

theorem agree_subject : Agree n (subject g) (subject h) := by
  refine (agree_element agrees).commaList.bind fun found => ?_
  obtain ⟨items, trailing⟩ := found
  simp only []
  split
  · exact .ite .failure (.pure _)
  · exact .pure _

theorem agree_matchStatement : Agree n (matchStatement g) (matchStatement h) := by
  refine .after (consumes_word _).narrows fun _ => (agree_subject agrees).bind fun value => ?_
  refine .after (consumes_symbol _).narrows fun _ => .after (narrows_mark _) fun _ => ?_
  refine .after (narrows_mark _) fun _ => (agree_caseBlock agrees).bind fun first => ?_
  exact (agree_caseBlock agrees).many.bind fun _ => .after (narrows_mark _) fun _ => .pure _

theorem agree_compoundStatement? (shown : String) :
    AgreeIfAny n (compoundStatement? g shown) (compoundStatement? h shown) := by
  unfold compoundStatement?
  split
  · exact .some (agree_ifStatement agrees)
  · exact .some (agree_whileStatement agrees)
  · exact .some (agree_forStatement agrees _)
  · exact .some (agree_tryStatement agrees)
  · exact .some (agree_withStatement agrees _)
  · exact .some (agree_functionDef agrees _ _)
  · exact .some (agree_classDef agrees _)
  · exact .some (agree_asyncStatement agrees)
  · exact .none

theorem agree_compound : Agree n (compound g) (compound h) := by
  intro tokens light
  unfold compound
  split
  · next shown rest =>
      have choice := agree_compoundStatement? agrees shown
      generalize compoundStatement? g shown = found at choice ⊢
      generalize compoundStatement? h shown = found' at choice ⊢
      cases choice with
      | none =>
          refine ⟨rfl, ?_⟩
          rintro _ _ ⟨⟩
      | some agree =>
          have lighter : weight rest ≤ weight (.keyword shown :: rest) := Nat.le_add_left _ _
          obtain ⟨same, narrows⟩ := agree rest (by omega)
          exact ⟨same, fun value left read => (narrows value left read).trans lighter⟩
  · exact agree_decorated agrees _ light
  · exact agree_matchStatement agrees _ light
  · refine ⟨rfl, ?_⟩
    rintro _ _ ⟨⟩

theorem agree_statement : Agree n (statement g) (statement h) :=
  .orElse ((agree_compound agrees).bind fun _ => .pure _) (agree_simpleLine agrees)

end Statements

end Rule

/-! ### Levels -/

namespace Grammar

theorem agrees_next {n : Nat} {g h : Grammar} (agrees : g.Agrees n h) :
    g.next.Agrees (n + 1) h.next where
  bitwiseOr := Rule.agree_bitwiseOr agrees
  disjunction := Rule.agree_disjunction agrees
  expression := Rule.agree_expression agrees
  factor := Rule.agree_factor agrees
  inversion := Rule.agree_inversion agrees
  primary := Rule.agree_primary agrees
  pattern := Rule.agree_pattern agrees
  statement := Rule.agree_statement agrees

/-- Every level reads what a higher level does from tokens that weigh less than its height. -/
theorem agrees_level (depth more : Nat) : (level depth).Agrees depth (level (depth + more)) := by
  induction depth with
  | zero =>
      have nothing {α : Type} {p p' : Parser α} : Parser.Agree 0 p p' :=
        fun tokens light => absurd light (Nat.not_lt_zero _)
      exact ⟨nothing, nothing, nothing, nothing, nothing, nothing, nothing, nothing⟩
  | succ depth ih =>
      rw [Nat.add_right_comm]
      exact agrees_next ih

end Grammar

namespace Tree

open Snippet.Parser

theorem moduleInput_eq {depth more : Nat} {tokens : List Token} (light : weight tokens + 1 < depth) :
    Rule.moduleInput (.level depth) tokens = Rule.moduleInput (.level (depth + more)) tokens := by
  have agrees : Agree (depth - 1) (Rule.moduleInput (.level depth))
      (Rule.moduleInput (.level (depth + more))) :=
    (Grammar.agrees_level depth more).statement.many.bind fun _ =>
      .after (narrows_mark _) fun _ => .pure _
  exact (agrees tokens (by omega)).1

/-- Tokens that weigh no more than either of two texts are the same module with both. -/
theorem whole?_eq {size size' : Nat} {tokens : List Token} (light : weight tokens ≤ size + 1)
    (light' : weight tokens ≤ size' + 1) :
    whole? Rule.moduleInput size tokens = whole? Rule.moduleInput size' tokens := by
  wlog order : size ≤ size' generalizing size size'
  · exact (this light' light (by omega)).symm
  · obtain ⟨more, higher⟩ := Nat.exists_eq_add_of_le
      (show min size nestingLimit + 10 ≤ min size' nestingLimit + 10 by omega)
    unfold whole?
    rw [higher]
    by_cases low : size ≤ nestingLimit
    · rw [moduleInput_eq (by omega)]
    · obtain rfl : more = 0 := by omega
      rfl

end Tree
end Snippet
end AnswerKey
