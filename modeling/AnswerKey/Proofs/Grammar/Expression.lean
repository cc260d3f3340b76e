import AnswerKey.Proofs.Grammar.Reading

namespace AnswerKey
namespace Snippet

/-!
What expressions read.

An expression has as many colons as lambdas at its own level, so it leaves the surplus of every open
bracket as it is; a subscript has bounds exactly if a colon is left over at its level.  Rule by rule,
the tokens of an expression lead to what its tree holds.
-/

open Snippet.Tree

/-- The parsers of a level of the grammar read what their trees hold.  Statements are read outside
all brackets. -/
structure Grammar.IsFaithful (g : Grammar) : Prop where
  bitwiseOr : Reads false true g.bitwiseOr Holds
  disjunction : Reads false true g.disjunction Holds
  expression : Reads false true g.expression Holds
  factor : Reads false true g.factor Holds
  inversion : Reads false true g.inversion Holds
  primary : Reads false true g.primary Holds
  pattern : Reads false true g.pattern Holds
  statement : ReadsOutside false false g.statement fun body held => holdingIn body = held

namespace Rule

open Tally Snippet.Parser

variable {g : Grammar}

theorem holding_tupleOf (context : Context) (found : List Tree × Bool) :
    (tupleOf context found).holding = holdingIn found.1 := by
  unfold tupleOf
  split <;> simp

theorem isStill_atClause : IsStill atClause := by
  rintro tokens value rest ⟨⟩
  rfl

section Expressions

variable (faithful : g.IsFaithful)

include faithful

/-! ### Targets and lists -/

theorem reads_target : Reads false true (target g) Holds := by
  intro tally ready
  refine .ifSymbol (next?_of_isUncounted _ rfl) ?_ ?_
  · refine faithful.primary.bind le_rfl ?_
    rintro value _ foreign - rfl
    refine .lift fun assigned same => .pure ⟨_, foreign, le_top, rfl, ?_⟩
    simp [holding_retarget _ _ same]
  · refine faithful.primary.bind ready ?_
    rintro value _ foreign - rfl
    exact .lifted fun assigned same => ⟨_, foreign, le_top, holding_retarget _ _ same, rfl⟩

theorem reads_targets : Reads false true (targets g) Holds := by
  intro tally ready
  refine (reads_target faithful).commaList.bind ready fun found held foreign _ gathered => ?_
  exact .pure ⟨held, foreign, le_top, (holding_tupleOf _ _).trans gathered.holdingIn, rfl⟩

theorem reads_namedExpression : Reads false true (namedExpression g) Holds := by
  intro tally ready
  refine .look (isStill_atNameThen _) fun isNamed => ?_
  cases isNamed
  · exact faithful.expression tally ready
  · refine .name fun id _ => .symbol (next?_of_isUncounted _ rfl) ?_
    refine faithful.expression.bind le_rfl ?_
    rintro value _ foreign - rfl
    exact .pure ⟨_, foreign, le_top, rfl, by simp⟩

theorem reads_element : Reads false true (element g) Holds := by
  intro tally ready
  refine .ifSymbol (next?_of_isUncounted _ rfl) ?_ ?_
  · refine faithful.bitwiseOr.bind le_rfl ?_
    rintro value _ foreign - rfl
    exact .pure ⟨_, foreign, le_top, rfl, by simp⟩
  · exact reads_namedExpression faithful tally ready

theorem closes_elements (kind : Construct.Bracket) :
    Closes kind (elements g (closingSymbol kind)) fun found held => holdingIn found = held := by
  intro tally
  refine .ifSymbol (next?_closing tally false 0 (.inl rfl)) ?_ ?_
  · exact .pure ⟨⊥, rfl, by simp⟩
  · refine (reads_element faithful).commaList.bind le_rfl fun found held foreign _ gathered => ?_
    refine .symbol (next?_closing (tally.hold held) foreign 0 (.inl rfl)) ?_
    exact .pure ⟨held, gathered.holdingIn, rfl⟩

theorem reads_starExpression : Reads false true (starExpression g) Holds := by
  intro tally ready
  refine .ifSymbol (next?_of_isUncounted _ rfl) ?_ ?_
  · refine faithful.bitwiseOr.bind le_rfl ?_
    rintro value _ foreign - rfl
    exact .pure ⟨_, foreign, le_top, rfl, by simp⟩
  · exact faithful.expression tally ready

theorem reads_starExpressions : Reads false true (starExpressions g) Holds := by
  intro tally ready
  refine (reads_starExpression faithful).commaList.bind ready fun found held foreign _ gathered => ?_
  exact .pure ⟨held, foreign, le_top, (holding_tupleOf _ _).trans gathered.holdingIn, rfl⟩

theorem reads_yieldExpression : Reads true true (yieldExpression g) Holds := by
  intro tally _
  refine .keyword (next?_of_isUncounted _ rfl) ?_
  refine .takeKeyword (next?_of_isUncounted _ rfl) ?_ ?_
  · refine faithful.expression.bind le_rfl ?_
    rintro value _ foreign - rfl
    exact .pure ⟨_, foreign, le_top, rfl, by simp⟩
  · refine ((reads_starExpressions faithful).maybe le_top).bind le_rfl ?_
    rintro value _ foreign - rfl
    exact .pure ⟨_, foreign, le_top, rfl, by simp⟩

theorem reads_assignedValue : Reads false true (assignedValue g) Holds := by
  intro tally ready
  refine .look (isStill_atKeyword _) fun isYield => ?_
  cases isYield
  · exact reads_starExpressions faithful tally ready
  · exact reads_yieldExpression faithful tally le_top

/-! ### Comprehensions -/

theorem reads_clause : Reads true true (clause g) Holds := by
  intro tally _
  refine .takeKeyword (next?_of_isUncounted _ rfl) ?_ ?_
  all_goals
    refine .keyword (next?_of_isUncounted _ rfl) ?_
    refine (reads_targets faithful).bind le_rfl ?_
    rintro found _ _ - rfl
    refine .keyword (next?_of_isUncounted _ rfl) ?_
    refine faithful.disjunction.bind le_rfl ?_
    rintro iterable _ _ - rfl
    refine (faithful.disjunction.behind_keyword rfl).many.bind le_top ?_
    intro conditions held foreign _ gathered
    exact .pure ⟨_, foreign, le_top, rfl, by simp [gathered.holdingIn, sup_assoc]⟩

/-- The clauses of a comprehension, and the symbol that closes its bracket. -/
theorem leads_clauses (kind : Construct.Bracket) (surplus : Int) (fits : surplus = 0 ∨ kind = .curly)
    (tally : Tally) (foreign : Bool) :
    Leads (((tally.opened kind).shift surplus).behind foreign) (clauses g (closingSymbol kind))
      fun found after => after = (tally.hold (holdingIn found)).behind false := by
  refine (reads_clause faithful).bind le_top ?_
  rintro first _ _ - rfl
  refine (reads_clause faithful).many.bind le_top fun others held foreign _ gathered => ?_
  refine .symbol (next?_closing ((tally.hold first.holding).hold held) foreign surplus fits) ?_
  exact .pure (by simp [gathered.holdingIn])

/-! ### Brackets -/

theorem closes_roundBracket : Closes .round (roundBracket g) Holds := by
  intro tally
  refine .ifSymbol (next?_closing tally false 0 (.inl rfl)) (.pure ⟨_, rfl, by simp⟩) ?_
  refine .lookIf (isStill_atKeyword _) ?_ ?_
  · refine (reads_yieldExpression faithful).bind le_top ?_
    rintro value _ foreign - rfl
    refine .symbol (next?_closing (tally.hold value.holding) foreign 0 (.inl rfl)) ?_
    exact .pure ⟨_, rfl, rfl⟩
  · refine (reads_element faithful).bind le_rfl ?_
    rintro first _ foreign - rfl
    refine .ifSymbol (next?_of_isUncounted _ rfl) ?_ ?_
    · refine (closes_elements faithful .round).bind (tally.hold first.holding) ?_
      rintro others _ rfl
      exact .pure ⟨_, rfl, by simp⟩
    · refine .ite .failure (.lookIf isStill_atClause ?_ ?_)
      · refine .bind _ (leads_clauses faithful .round 0 (.inl rfl) (tally.hold first.holding) foreign) ?_
        rintro found _ rfl
        exact .pure ⟨_, rfl, by simp⟩
      · refine .symbol (next?_closing (tally.hold first.holding) foreign 0 (.inl rfl)) ?_
        exact .pure ⟨_, rfl, rfl⟩

theorem closes_squareBracket : Closes .square (squareBracket g) Holds := by
  intro tally
  refine .ifSymbol (next?_closing tally false 0 (.inl rfl)) (.pure ⟨_, rfl, by simp⟩) ?_
  refine (reads_element faithful).bind le_rfl ?_
  rintro first _ foreign - rfl
  refine .ifSymbol (next?_of_isUncounted _ rfl) ?_ ?_
  · refine (closes_elements faithful .square).bind (tally.hold first.holding) ?_
    rintro others _ rfl
    exact .pure ⟨_, rfl, by simp⟩
  · refine .look isStill_atClause fun atClause => .ite ?_ ?_
    · refine .bind _ (leads_clauses faithful .square 0 (.inl rfl) (tally.hold first.holding) foreign) ?_
      rintro found _ rfl
      exact .pure ⟨_, rfl, by simp⟩
    · refine .symbol (next?_closing (tally.hold first.holding) foreign 0 (.inl rfl)) ?_
      exact .pure ⟨_, rfl, by simp⟩

/-! ### Dictionaries -/

omit faithful in
/-- What the entries of a dictionary hold. -/
def holdingOf (entries : List (Option Tree × Tree)) : Bool × Bool :=
  (dictOf entries).holding

omit faithful in
theorem holdingOf_append (entries more : List (Option Tree × Tree)) :
    holdingOf (entries ++ more) = holdingOf entries ⊔ holdingOf more := by
  simp [holdingOf, dictOf, sup_assoc, sup_left_comm]

theorem leads_entry (tally : Tally) : Leads (tally.behind false) (entry g) fun found after =>
    ∃ surplus foreign,
      after = ((tally.hold (holdingOf [found])).shift surplus).behind foreign := by
  refine .ifSymbol (next?_of_isUncounted _ rfl) ?_ ?_
  · refine faithful.bitwiseOr.bind le_rfl ?_
    rintro value _ foreign - rfl
    exact .pure ⟨0, foreign, by simp [holdingOf, dictOf]⟩
  · refine faithful.expression.bind le_rfl ?_
    rintro key _ _ - rfl
    refine .symbol (next?_colon _) (faithful.expression.bind le_rfl ?_)
    rintro value _ foreign - rfl
    exact .pure ⟨1, foreign, by simp [holdingOf, dictOf]⟩

theorem leads_dictFrom (tally : Tally) (surplus : Int) (foreign : Bool)
    (first : Option Tree × Tree) :
    Leads (((tally.opened .curly).shift surplus).behind foreign) (dictFrom g first)
      fun found after => ∃ held, found.holding = holdingOf [first] ⊔ held ∧
        after = (tally.hold held).behind false := by
  refine .bind (fun others after => ∃ surplus foreign, after =
    (((tally.hold (holdingOf others)).opened .curly).shift surplus).behind foreign) ?_ ?_
  · refine .many ⟨surplus, foreign, ?_⟩ ?_
    · simp [holdingOf, dictOf]
    · rintro seen _ ⟨surplus, foreign, rfl⟩
      refine .symbol (next?_of_isUncounted _ rfl) ((leads_entry faithful _).mono ?_)
      rintro found _ ⟨more, foreign', rfl⟩
      exact ⟨surplus + more, foreign', by simp [holdingOf_append]⟩
  · rintro others _ ⟨surplus, foreign, rfl⟩
    have ends (foreign : Bool) : Leads
        ((((tally.hold (holdingOf others)).opened .curly).shift surplus).behind foreign)
        (do symbol "\x7d"; pure (dictOf (first :: others))) fun found after =>
          ∃ held, found.holding = holdingOf [first] ⊔ held ∧
            after = (tally.hold held).behind false :=
      .symbol (next?_closing _ _ _ (.inr rfl))
        (.pure ⟨holdingOf others, holdingOf_append [first] others, rfl⟩)
    exact .takeSymbol (next?_of_isUncounted _ rfl) (ends _) (ends _)

theorem leads_setFrom (tally : Tally) (foreign : Bool) (first : Tree) :
    Leads ((tally.opened .curly).behind foreign) (setFrom g first) fun found after =>
      ∃ held, found.holding = first.holding ⊔ held ∧ after = (tally.hold held).behind false := by
  refine .ifSymbol (next?_of_isUncounted _ rfl) ?_ ?_
  · refine (closes_elements faithful .curly).bind tally ?_
    rintro others _ rfl
    exact .pure ⟨_, by simp, rfl⟩
  · refine .look isStill_atClause fun atClause => .ite ?_ ?_
    · refine .bind _ (leads_clauses faithful .curly 0 (.inl rfl) tally foreign) ?_
      rintro found _ rfl
      exact .pure ⟨_, by simp, rfl⟩
    · refine .symbol (next?_closing tally foreign 0 (.inl rfl)) ?_
      exact .pure ⟨⊥, by simp, by simp⟩

theorem closes_brace : Closes .curly (brace g) Holds := by
  intro tally
  refine .ifSymbol (next?_closing tally false 0 (.inl rfl)) (.pure ⟨_, rfl, by simp [dictOf]⟩) ?_
  refine .lookIf (isStill_atSymbol _) ?_ ?_
  · refine .bind _ (leads_entry faithful _) ?_
    rintro first _ ⟨surplus, foreign, rfl⟩
    refine (leads_dictFrom faithful (tally.hold (holdingOf [first])) surplus foreign first).mono ?_
    rintro found _ ⟨held, same, rfl⟩
    exact ⟨_, same, by simp⟩
  refine .look (isStill_atNameThen _) fun isNamed => ?_
  refine (reads_element faithful).bind le_rfl ?_
  rintro first _ foreign - rfl
  have isSet : Leads (((tally.hold first.holding).opened .curly).behind foreign) (setFrom g first)
      fun found after => ∃ held, Holds found held ∧ after = (tally.hold held).behind false := by
    refine (leads_setFrom faithful (tally.hold first.holding) foreign first).mono ?_
    rintro found _ ⟨held, same, rfl⟩
    exact ⟨_, same, by simp⟩
  refine .ite isSet (.ifSymbol (next?_colon _) ?_ isSet)
  refine faithful.expression.bind le_rfl ?_
  rintro value _ foreign' - rfl
  refine .lookIf isStill_atClause ?_ ?_
  · refine .bind _ (leads_clauses faithful .curly 1 (.inr rfl)
      ((tally.hold first.holding).hold value.holding) foreign') ?_
    rintro found _ rfl
    exact .pure ⟨_, rfl, by simp [sup_assoc]⟩
  · refine (leads_dictFrom faithful ((tally.hold first.holding).hold value.holding) 1 foreign'
      (some first, value)).mono ?_
    rintro found _ ⟨held, same, rfl⟩
    exact ⟨_, same, by simp [holdingOf, dictOf]⟩

/-! ### Atoms -/

omit faithful in
theorem takeLiterals_append (tokens : List Token) :
    (takeLiterals tokens).1.map .string ++ (takeLiterals tokens).2 = tokens := by
  fun_induction takeLiterals tokens with
  | case1 literal rest others left same ih =>
      rw [same] at ih
      exact congrArg _ ih
  | case2 => rfl

omit faithful in
theorem run?_literals (tally : Tally) (bare : tally.foreign = false) (literals : List Literal)
    (settled : ∀ literal ∈ literals, literal.isStray = false) :
    tally.run? (literals.map .string) =
      some (tally.hold (false, literals.any Literal.holdsField)) := by
  induction literals generalizing tally with
  | nil => exact congrArg some tally.hold_bot.symm
  | cons literal literals ih =>
      rw [List.forall_mem_cons] at settled
      rw [List.map_cons, run?, next?, bare, settled.1]
      exact (ih (tally.hold (false, literal.holdsField)) bare settled.2).trans (by simp)

omit faithful in
theorem reads_strings : Reads false false (strings g) Holds := by
  intro tally ready tokens tree rest read
  have bare : tally.foreign = false := Bool.eq_false_of_le_false ready
  have whole := takeLiterals_append tokens
  unfold strings at read
  split at read
  · cases read
  · next literals left _ taken =>
      obtain ⟨found, joined, same⟩ := Option.map_eq_some_iff.mp read
      cases same
      rw [taken] at whole
      obtain ⟨held, settled⟩ := Interpolation.holding_of_join? joined
      refine ⟨literals.map .string, _, whole.symm, run?_literals tally bare literals settled,
        _, false, le_rfl, held, ?_⟩
      rw [← bare]
      rfl

omit faithful in
theorem isUncounted_of_constant {shown : String} {value : Constant} (known : constant? shown = some value) :
    Token.isUncounted (.keyword shown) = true := by
  unfold constant? at known
  split at known
  · rfl
  · rfl
  · rfl
  · cases known

theorem reads_atom : Reads false true (atom g) Holds := by
  intro tally ready tokens tree rest read
  unfold atom at read
  split at read
  · cases read
    exact ⟨[_], _, rfl, rfl, ⊥, _, le_top, rfl, by rw [hold_bot]⟩
  · cases read
    exact ⟨[_], _, rfl, rfl, ⊥, _, le_top, rfl, by rw [hold_bot]⟩
  · exact (reads_strings.mono le_rfl (Bool.false_le _) fun _ _ => id) tally ready _ tree rest read
  · next shown left =>
      obtain ⟨value, known, same⟩ := Option.map_eq_some_iff.mp read
      cases same
      refine ⟨[.keyword shown], _, rfl, ?_, ⊥, false, le_top, rfl, by rw [hold_bot]⟩
      rw [run?, next?_of_isUncounted _ (isUncounted_of_constant known)]
      rfl
  · split at read
    · next same =>
        subst same
        exact (closes_roundBracket faithful).behind (next?_round tally) read
    · split at read
      · next same =>
          subst same
          exact (closes_squareBracket faithful).behind (next?_square tally) read
      · split at read
        · next same =>
            subst same
            exact (closes_brace faithful).behind (next?_curly tally) read
        · split at read
          · next same =>
              subst same
              cases read
              exact ⟨[_], _, rfl, rfl, ⊥, _, le_top, rfl, by rw [hold_bot]⟩
          · cases read
  · cases read

/-! ### Calls and subscripts -/

theorem reads_argument : Reads false true (argument g) fun found => Holds found.2 := by
  intro tally ready
  refine .ifSymbol (next?_of_isUncounted _ rfl) ?_ (.ifSymbol (next?_of_isUncounted _ rfl) ?_
    (.lookIf (isStill_atNameThen _) (.name fun id _ => .symbol (next?_of_isUncounted _ rfl) ?_) ?_))
  · refine faithful.expression.bind le_rfl ?_
    rintro value _ foreign - rfl
    exact .pure ⟨_, foreign, le_top, rfl, by simp⟩
  · refine faithful.expression.bind le_rfl ?_
    rintro value _ foreign - rfl
    exact .pure ⟨_, foreign, le_top, rfl, by simp⟩
  · refine faithful.expression.bind le_rfl ?_
    rintro value _ foreign - rfl
    exact .pure ⟨_, foreign, le_top, rfl, by simp⟩
  · refine (reads_namedExpression faithful).bind ready ?_
    rintro value _ foreign - rfl
    exact .pure ⟨_, foreign, le_top, rfl, rfl⟩

theorem closes_arguments (generators : Bool) : Closes .round (arguments g generators)
    fun found held => holdingIn found.1 ⊔ holdingIn found.2 = held := by
  intro tally
  refine .ifSymbol (next?_closing tally false 0 (.inl rfl)) (.pure ⟨_, rfl, by simp⟩) ?_
  refine (reads_argument faithful).commaList.bind le_rfl ?_
  rintro ⟨items, trailing⟩ held foreign - gathered
  have ends : (((tally.hold held).opened .round).behind foreign).next? (.symbol ")") =
      some ((tally.hold held).behind false) := next?_closing _ foreign 0 (.inl rfl)
  have together := gathered.holdingIn_map
  dsimp only
  split
  · next value =>
      refine .look isStill_atClause fun atClause => .ite ?_ ?_
      · refine .bind _ (leads_clauses faithful .round 0 (.inl rfl) (tally.hold held) foreign) ?_
        rintro found _ rfl
        refine .pure ⟨_, rfl, ?_⟩
        simp [← together]
      · refine .symbol ends (.pure ⟨_, ?_, rfl⟩)
        simpa using together
  · refine .symbol ends (.ite (.pure ⟨_, ?_, rfl⟩) .failure)
    exact (holdingIn_partition _ _ _).trans together

/-- An index leaves a colon over if it has bounds. -/
theorem leads_index (tally : Tally) : Leads (tally.behind false) (index g) fun found after =>
    ∃ surplus held foreign, 0 ≤ surplus ∧
      found.holding = held ⊔ (decide (0 < surplus), false) ∧
      after = ((tally.hold held).shift surplus).behind foreign := by
  have unbound (value : Tree) (foreign : Bool) : ∃ surplus held foreign', 0 ≤ surplus ∧
      value.holding = held ⊔ (decide (0 < surplus), false) ∧
      (tally.hold value.holding).behind foreign =
        ((tally.hold held).shift surplus).behind foreign' :=
    ⟨0, value.holding, foreign, le_rfl, (sup_bot_eq _).symm, by simp⟩
  refine .ifSymbol (next?_of_isUncounted _ rfl) ?_ (.lookIf (isStill_atNameThen _) ?_ ?_)
  · refine faithful.expression.bind le_rfl ?_
    rintro value _ foreign - rfl
    exact .pure (by simpa using unbound (.node (.starred .load) [[value]]) foreign)
  · refine (reads_namedExpression faithful _ le_rfl).mono ?_
    rintro value _ ⟨_, foreign, -, rfl, rfl⟩
    exact unbound value foreign
  · refine .look (isStill_atSymbol _) fun atColon => ?_
    let lowerRead (lower : Option Tree) (after : Tally) : Prop :=
      ∃ foreign, after = (tally.hold (holdingIn lower.toList)).behind foreign
    refine .ite (.bind lowerRead (.pure ⟨false, by simp⟩) ?bounds) (.bind lowerRead ?lower ?bounds)
    case lower =>
      refine (faithful.expression.some _ le_rfl).mono ?_
      rintro lower _ ⟨_, foreign, -, rfl, rfl⟩
      exact ⟨foreign, by simp⟩
    case bounds =>
      rintro lower _ ⟨foreign, rfl⟩
      refine .ifSymbol (next?_colon _) ?_ ?_
      · refine (faithful.expression.maybe le_top).bind le_rfl ?_
        rintro upper _ _ - rfl
        refine .ifSymbol (next?_colon _) ?_ ?_
        · refine (faithful.expression.maybe le_top).bind le_rfl ?_
          rintro step _ foreign - rfl
          exact .pure ⟨2, _, foreign, by decide, holding_slice _ _ _, by simp⟩
        · exact .pure ⟨1, _, _, by decide, holding_slice _ _ _, by simp; rfl⟩
      · refine .lifted ?_
        rintro value rfl
        simpa using unbound value foreign

theorem leads_indices (tally : Tally) : Leads (tally.behind false) (indices g) fun found after =>
    ∃ surplus held foreign, found.holding = held ⊔ (decide (0 < surplus), false) ∧
      after = ((tally.hold held).shift surplus).behind foreign := by
  refine .bind _ (.commaList (fun seen within => ∃ surplus held, 0 ≤ surplus ∧
    holdingIn seen = held ⊔ (decide (0 < surplus), false) ∧
    within = (tally.hold held).shift surplus) ⟨0, ⊥, le_rfl, rfl, by simp⟩ ?_) ?_
  · rintro seen _ ⟨surplus, held, least, found, rfl⟩
    refine (leads_index faithful _).mono ?_
    rintro value _ ⟨more, held', foreign, least', found', rfl⟩
    refine ⟨_, foreign, ⟨surplus + more, held ⊔ held', by omega, ?_, rfl⟩, by simp⟩
    have either : decide (0 < surplus + more) = (decide (0 < surplus) || decide (0 < more)) := by
      rw [Bool.eq_iff_iff, Bool.or_eq_true]
      simp only [decide_eq_true_eq]
      omega
    rw [holdingIn_append, found, holdingIn_cons, holdingIn_nil, sup_bot_eq, found', either]
    exact sup_sup_sup_comm _ _ _ _
  · rintro ⟨items, trailing⟩ _ ⟨_, foreign, ⟨surplus, held, -, found, rfl⟩, rfl⟩
    exact .pure ⟨surplus, held, foreign, (holding_tupleOf _ _).trans found, rfl⟩

omit faithful in
/-- What is made of an expression holds what the expression does, and something more. -/
def Extends (apply : Tree → Tree) (held : Bool × Bool) : Prop :=
  ∀ value, (apply value).holding = value.holding ⊔ held

theorem reads_trailer : Reads true true (trailer g) Extends := by
  intro tally _
  refine .ifSymbol (next?_of_isUncounted _ rfl) ?_ (.ifSymbol (next?_round _) ?_ ?_)
  · exact .name fun id foreign => .pure ⟨⊥, foreign, le_top, fun value => by simp, by simp⟩
  · refine (closes_arguments faithful true).bind tally ?_
    rintro ⟨byPlace, byName⟩ _ rfl
    exact .pure ⟨_, false, le_top, fun value => by simp, rfl⟩
  · refine .symbol (next?_square _) (.bind _ (leads_indices faithful (tally.opened .square)) ?_)
    rintro found _ ⟨surplus, held, foreign, whole, rfl⟩
    refine .symbol (next?_square_closing (tally.hold held) foreign surplus) ?_
    exact .pure ⟨found.holding, false, le_top, fun value => by simp, by simp [whole]⟩

omit faithful in
theorem holding_foldl_trailers {trailers : List (Tree → Tree)} {held : Bool × Bool} (first : Tree)
    (gathered : Gathers Extends trailers held) :
    (trailers.foldl (fun value apply => apply value) first).holding = first.holding ⊔ held := by
  induction trailers generalizing first held with
  | nil =>
      cases gathered
      exact (sup_bot_eq _).symm
  | cons apply trailers ih =>
      obtain ⟨more, others, head, tail, rfl⟩ := gathered
      rw [List.foldl_cons, ih (apply first) tail, head first, sup_assoc]

theorem reads_primary : Reads false true (primary g) Holds := by
  intro tally ready
  refine (reads_atom faithful).bind ready ?_
  rintro first _ _ - rfl
  refine (reads_trailer faithful).many.bind le_top fun trailers held foreign _ gathered => ?_
  exact .pure ⟨_, foreign, le_top, holding_foldl_trailers first gathered, by simp⟩

/-! ### Operators -/

omit faithful in
/-- What is made of two operands holds what they hold. -/
def Combines (combine : Tree → Tree → Tree) (held : Bool × Bool) : Prop :=
  held = ⊥ ∧ ∀ left right, (combine left right).holding = left.holding ⊔ right.holding

omit faithful in
theorem isUncounted_of_lookup {α : Type} {table : List (String × α)} {shown : String} {value : α}
    (uncounted : table.all (fun entry => Token.isUncounted (.symbol entry.1)) = true)
    (known : table.lookup shown = some value) : Token.isUncounted (.symbol shown) = true := by
  obtain ⟨front, back, rfl, -⟩ := List.lookup_eq_some_iff.mp known
  exact List.all_eq_true.mp uncounted (shown, value) (by simp)

omit faithful in
theorem reads_operator {table : List (String × BinaryOp)}
    (uncounted : table.all (fun entry => Token.isUncounted (.symbol entry.1)) = true) :
    Reads true false (operator table) Combines := by
  intro tally _ tokens combine rest read
  unfold operator at read
  split at read
  · next shown left =>
      obtain ⟨op, known, same⟩ := Option.map_eq_some_iff.mp read
      cases same
      refine ⟨[.symbol shown], tally.behind false, rfl, ?_, ⊥, false, le_rfl, ⟨rfl, ?_⟩, ?_⟩
      · rw [run?, next?_of_isUncounted _ (isUncounted_of_lookup uncounted known)]
        rfl
      · intro left right
        simp
      · rw [hold_bot]
  · cases read

omit faithful in
theorem holding_foldl_operands {others : List ((Tree → Tree → Tree) × Tree)} {held : Bool × Bool}
    (first : Tree)
    (gathered : Gathers (fun found held => Combines found.1 ⊥ ∧ Holds found.2 held) others held) :
    (others.foldl (fun left (combine, right) => combine left right) first).holding =
      first.holding ⊔ held := by
  induction others generalizing first held with
  | nil =>
      cases gathered
      exact (sup_bot_eq _).symm
  | cons found others ih =>
      obtain ⟨_, more, ⟨combines, rfl⟩, tail, rfl⟩ := gathered
      rw [List.foldl_cons, ih _ tail, combines.2, sup_assoc]

omit faithful in
theorem reads_chain {operand : Parser Tree} {operator : Parser (Tree → Tree → Tree)}
    (operands : Reads false true operand Holds) (operators : Reads true false operator Combines) :
    Reads false true (chain operand operator) Holds := by
  intro tally ready
  refine operands.bind ready ?_
  rintro first _ _ - rfl
  have later : Reads true true (do
      let combine ← operator
      let right ← operand
      Pure.pure (combine, right))
      fun found held => Combines found.1 ⊥ ∧ Holds found.2 held := by
    intro tally ready
    refine operators.bind ready ?_
    rintro combine _ foreign settled ⟨rfl, combines⟩
    refine operands.bind settled ?_
    rintro right _ foreign - rfl
    exact .pure ⟨_, foreign, le_top, ⟨⟨rfl, combines⟩, rfl⟩, by simp⟩
  refine later.many.bind le_top fun others held foreign _ gathered => ?_
  exact .pure ⟨_, foreign, le_top, holding_foldl_operands first gathered, by simp⟩

theorem reads_awaited : Reads false true (awaited g) Holds := by
  intro tally ready
  refine .ifKeyword (next?_of_isUncounted _ rfl) ?_ ?_
  · refine (reads_primary faithful).bind le_rfl ?_
    rintro value _ foreign - rfl
    exact .pure ⟨_, foreign, le_top, rfl, by simp⟩
  · exact reads_primary faithful tally ready

theorem reads_power : Reads false true (power g) Holds := by
  intro tally ready
  refine (reads_awaited faithful).bind ready ?_
  rintro base _ foreign - rfl
  refine .ifSymbol (next?_of_isUncounted _ rfl) ?_ ?_
  · refine faithful.factor.bind le_rfl ?_
    rintro exponent _ foreign - rfl
    exact .pure ⟨_, foreign, le_top, rfl, by simp⟩
  · exact .pure ⟨_, foreign, le_top, rfl, rfl⟩

theorem reads_factor : Reads false true (factor g) Holds := by
  intro tally ready tokens tree rest read
  unfold factor at read
  split at read
  · next token left =>
      split at read
      · next op known =>
          obtain ⟨⟨value, behind⟩, negated, same⟩ := Option.map_eq_some_iff.mp read
          cases same
          have plain : token.isUncounted = true := by
            unfold sign? at known
            split at known
            · rfl
            · rfl
            · rfl
            · cases known
          obtain ⟨used, _, whole, run, _, foreign, -, rfl, rfl⟩ :=
            (faithful.factor (tally.behind false) le_rfl).behind (next?_of_isUncounted _ plain)
              negated
          exact ⟨used, _, whole, run, _, foreign, le_top, rfl, by simp⟩
      · exact reads_power faithful tally ready _ tree rest read
  · cases read

theorem reads_bitwiseOr : Reads false true (bitwiseOr g) Holds := by
  have term : Reads false true (term g) Holds :=
    reads_chain (reads_factor faithful) (reads_operator (by decide))
  have sum : Reads false true (sum g) Holds := reads_chain term (reads_operator (by decide))
  have shift : Reads false true (shift g) Holds := reads_chain sum (reads_operator (by decide))
  have bitwiseAnd : Reads false true (bitwiseAnd g) Holds :=
    reads_chain shift (reads_operator (by decide))
  have bitwiseXor : Reads false true (bitwiseXor g) Holds :=
    reads_chain bitwiseAnd (reads_operator (by decide))
  exact reads_chain bitwiseXor (reads_operator (by decide))

omit faithful in
theorem reads_compareOp : Reads true false compareOp fun _ held => held = ⊥ := by
  intro tally _ tokens op rest read
  have read_of_plain (used : List Token) (whole : tokens = used ++ rest)
      (run : tally.run? used = some (tally.behind false)) : ∃ used after, tokens = used ++ rest ∧
        tally.run? used = some after ∧ ∃ held foreign, foreign ≤ false ∧ held = ⊥ ∧
          after = (tally.hold held).behind foreign :=
    ⟨used, _, whole, run, ⊥, false, le_rfl, rfl, by rw [hold_bot]⟩
  unfold compareOp at read
  split at read
  · next shown left =>
      obtain ⟨found, known, same⟩ := Option.map_eq_some_iff.mp read
      cases same
      refine read_of_plain [.symbol shown] rfl ?_
      rw [run?, next?_of_isUncounted _ (isUncounted_of_lookup (by decide) known)]
      rfl
  · cases read
    exact read_of_plain [.keyword "not", .keyword "in"] rfl rfl
  · cases read
    exact read_of_plain [.keyword "in"] rfl rfl
  · cases read
    exact read_of_plain [.keyword "is", .keyword "not"] rfl rfl
  · cases read
    exact read_of_plain [.keyword "is"] rfl rfl
  · cases read

theorem reads_comparison : Reads false true (comparison g) Holds := by
  intro tally ready
  have later : Reads true true (do
      let op ← compareOp
      let operand ← bitwiseOr g
      Pure.pure (op, operand)) fun found => Holds found.2 := by
    intro tally ready
    refine reads_compareOp.bind ready ?_
    rintro op _ foreign settled rfl
    refine (reads_bitwiseOr faithful).bind settled ?_
    rintro operand _ foreign - rfl
    exact .pure ⟨_, foreign, le_top, rfl, by simp⟩
  refine (reads_bitwiseOr faithful).bind ready ?_
  rintro first _ _ - rfl
  refine later.many.bind le_top fun others held foreign _ gathered => ?_
  split
  · cases gathered
    exact .pure ⟨_, foreign, le_top, rfl, by simp⟩
  · exact .pure ⟨_, foreign, le_top, rfl, by simp [gathered.holdingIn_map]⟩

theorem reads_inversion : Reads false true (inversion g) Holds := by
  intro tally ready
  refine .ifKeyword (next?_of_isUncounted _ rfl) ?_ ?_
  · refine faithful.inversion.bind le_rfl ?_
    rintro value _ foreign - rfl
    exact .pure ⟨_, foreign, le_top, rfl, by simp⟩
  · exact reads_comparison faithful tally ready

omit faithful in
theorem reads_joined {op : BoolOp} {shown : String} {operand : Parser Tree}
    (uncounted : Token.isUncounted (.keyword shown) = true)
    (operands : Reads false true operand Holds) :
    Reads false true (joined op shown operand) Holds := by
  intro tally ready
  refine (operands.separated (operands.behind_keyword uncounted).many).bind ready ?_
  intro found held foreign _ gathered
  split
  · exact .pure ⟨held, foreign, le_top, by simpa [Holds] using gathered.holdingIn, rfl⟩
  · exact .pure ⟨held, foreign, le_top, by simpa [Holds] using gathered.holdingIn, rfl⟩

theorem reads_disjunction : Reads false true (disjunction g) Holds :=
  reads_joined rfl (reads_joined rfl (reads_inversion faithful))

end Expressions

end Rule
end Snippet
end AnswerKey
