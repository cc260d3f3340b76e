import AnswerKey.Proofs.Grammar.Agreement
import AnswerKey.Proofs.Grammar.Statement
import AnswerKey.Proofs.Snippet.FieldText
import AnswerKey.Proofs.Snippet.Spelling

namespace AnswerKey
namespace Snippet

/-!
Grammars that are deep enough.

What a level of the grammar reads from tokens of little weight does not depend on how many levels lie
below it (`Grammar.agrees_level`).  Rules of expressions and patterns use the level below only behind
a token, so every level agrees with others on one token more than the level below; so do statements
with one token less, since only blocks nest.  The expression of a replacement field is read from text
that is shorter than its literal.
-/

/-! ### The weight of texts -/

namespace Token

theorem weight_le_of_spelling {brackets opened rest shown : List Char} {token : Token}
    (spelling : Spelling brackets opened rest token shown) : token.weight ≤ shown.length := by
  have filled := List.length_pos_iff.mpr spelling.ne_nil
  cases spelling with
  | word _ _ known =>
      have one : token.weight = 1 := by
        unfold ofWord? at known
        split at known
        · have same := Option.some.inj known
          split at same <;> cases same <;> rfl
        · split at known
          · cases known
            rfl
          · cases known
      omega
  | number => exact filled
  | symbol => exact filled
  | string _ _ written =>
      have body (mark body : List Char) : (Literal.ofMark mark body).body = body := rfl
      rcases written with rfl | rfl <;>
        simp only [weight, body, List.length_append, List.length_cons] <;> omega

/-- Tokens weigh no more than the text they are cut from. -/
theorem Cut.weight_le {fresh : Bool} {text : List Char} {tokens : List Token}
    (cut : Cut fresh text tokens) : Snippet.weight tokens ≤ text.length := by
  induction cut with
  | finish => exact Nat.zero_le _
  | mark layout _ ih => rcases layout with rfl | rfl <;> simpa [weight] using ih
  | spacing _ _ ih => exact ih.trans (Nat.le_succ _)
  | lineEnd _ ih => simpa [weight] using ih.trans (Nat.le_succ _)
  | comment _ ih => exact ih.trans ((List.dropWhile_suffix _).length_le.trans (Nat.le_succ _))
  | token next _ ih =>
      obtain ⟨shown, rfl, spelling⟩ := spelling_of_next? next
      have least := weight_le_of_spelling spelling
      rw [weight_cons, List.length_append]
      omega

end Token

/-- Grammars that read the same from tokens that weigh less than a bound, but for statements, which
may need one token less. -/
structure Grammar.Agrees (bound : Nat) (g h : Grammar) : Prop where
  bitwiseOr : Parser.Agree bound g.bitwiseOr h.bitwiseOr
  disjunction : Parser.Agree bound g.disjunction h.disjunction
  expression : Parser.Agree bound g.expression h.expression
  factor : Parser.Agree bound g.factor h.factor
  inversion : Parser.Agree bound g.inversion h.inversion
  primary : Parser.Agree bound g.primary h.primary
  pattern : Parser.Agree bound g.pattern h.pattern
  statement : Parser.Agree (bound - 1) g.statement h.statement

namespace Rule

open Snippet.Parser

variable {n : Nat} {g h : Grammar}

theorem narrows_name : Narrows name :=
  consumes_name.narrows

section Lists

variable (agrees : g.Agrees n h)

include agrees

/-! ### Targets and lists -/

theorem agree_target : Agree n (target g) (target h) := by
  refine .ifSymbol ?_ ?_
  · exact agrees.primary.below.bind fun _ => .after (narrows_lift _) fun _ => .pure _
  · exact agrees.primary.bind fun _ => .of_narrows (narrows_lift _)

theorem agree_targets : Agree n (targets g) (targets h) :=
  (agree_target agrees).commaList.bind fun _ => .pure _

theorem agree_namedExpression : Agree n (namedExpression g) (namedExpression h) := by
  refine .look (isStill_atNameThen _) fun isNamed => .ite ?_ agrees.expression
  refine .after narrows_name fun _ => .after (consumes_symbol _).narrows fun _ => ?_
  exact agrees.expression.bind fun _ => .pure _

theorem agree_element : Agree n (element g) (element h) := by
  refine .ifSymbol ?_ (agree_namedExpression agrees)
  exact agrees.bitwiseOr.below.bind fun _ => .pure _

theorem agree_elements (closing : String) : Agree n (elements g closing) (elements h closing) := by
  refine .ifSymbol (.pure _) ?_
  exact (agree_element agrees).commaList.bind fun _ =>
    .after (consumes_symbol _).narrows fun _ => .pure _

theorem agree_starExpression : Agree n (starExpression g) (starExpression h) := by
  refine .ifSymbol ?_ agrees.expression
  exact agrees.bitwiseOr.below.bind fun _ => .pure _

theorem agree_starExpressions : Agree n (starExpressions g) (starExpressions h) :=
  (agree_starExpression agrees).commaList.bind fun _ => .pure _

theorem agree_yieldExpression : Agree n (yieldExpression g) (yieldExpression h) := by
  refine .after (consumes_keyword _).narrows fun _ => .ifKeyword ?_ ?_
  · exact agrees.expression.below.bind fun _ => .pure _
  · exact (agree_starExpressions agrees).maybe.bind fun _ => .pure _

theorem agree_assignedValue : Agree n (assignedValue g) (assignedValue h) :=
  .look (isStill_atKeyword _) fun _ =>
    .ite (agree_yieldExpression agrees) (agree_starExpressions agrees)

/-! ### Comprehensions -/

theorem agree_clause : Agree n (clause g) (clause h) := by
  refine .after (narrows_takeKeyword _) fun _ => .after (consumes_keyword _).narrows fun _ => ?_
  refine (agree_targets agrees).bind fun _ => .after (consumes_keyword _).narrows fun _ => ?_
  refine agrees.disjunction.bind fun _ => ?_
  refine (Agree.many (.after (consumes_keyword _).narrows fun _ => agrees.disjunction)).bind ?_
  exact fun _ => .pure _

theorem agree_clauses (closing : String) : Agree n (clauses g closing) (clauses h closing) :=
  (agree_clause agrees).bind fun _ => (agree_clause agrees).many.bind fun _ =>
    .after (consumes_symbol _).narrows fun _ => .pure _

/-! ### Brackets -/

theorem agree_roundBracket : Agree n (roundBracket g) (roundBracket h) := by
  have closed {α : Type} (value : α) : Agree n (do symbol ")"; pure value) (do symbol ")"; pure value) :=
    .after (consumes_symbol _).narrows fun _ => .pure _
  refine .ifSymbol (.pure _) (.look (isStill_atKeyword _) fun _ => .ite ?_ ?_)
  · exact (agree_yieldExpression agrees).bind fun value => closed value
  · refine (agree_element agrees).bind fun first => .ifSymbol ?_ (.ite .failure ?_)
    · exact (agree_elements agrees _).below.bind fun _ => .pure _
    · refine .look isStill_atClause fun _ => .ite ?_ (closed first)
      exact (agree_clauses agrees _).bind fun _ => .pure _

theorem agree_squareBracket : Agree n (squareBracket g) (squareBracket h) := by
  refine .ifSymbol (.pure _) ((agree_element agrees).bind fun first => .ifSymbol ?_ ?_)
  · exact (agree_elements agrees _).below.bind fun _ => .pure _
  · refine .look isStill_atClause fun _ => .ite ?_ ?_
    · exact (agree_clauses agrees _).bind fun _ => .pure _
    · exact .after (consumes_symbol _).narrows fun _ => .pure _

theorem agree_entry : Agree n (entry g) (entry h) := by
  refine .ifSymbol ?_ ?_
  · exact agrees.bitwiseOr.below.bind fun _ => .pure _
  · exact agrees.expression.bind fun _ => .after (consumes_symbol _).narrows fun _ =>
      agrees.expression.bind fun _ => .pure _

theorem agree_dictFrom (first : Option Tree × Tree) :
    Agree n (dictFrom g first) (dictFrom h first) := by
  refine (Agree.many (.after (consumes_symbol _).narrows fun _ => agree_entry agrees)).bind ?_
  exact fun _ => .after (narrows_takeSymbol _) fun _ => .after (consumes_symbol _).narrows fun _ => .pure _

theorem agree_setFrom (first : Tree) : Agree n (setFrom g first) (setFrom h first) := by
  refine .ifSymbol ?_ (.look isStill_atClause fun _ => .ite ?_ ?_)
  · exact (agree_elements agrees _).below.bind fun _ => .pure _
  · exact (agree_clauses agrees _).bind fun _ => .pure _
  · exact .after (consumes_symbol _).narrows fun _ => .pure _

theorem agree_brace : Agree n (brace g) (brace h) := by
  refine .ifSymbol (.pure _) (.look (isStill_atSymbol _) fun _ => .ite ?_ ?_)
  · exact (agree_entry agrees).bind fun first => agree_dictFrom agrees first
  · refine .look (isStill_atNameThen _) fun isNamed => (agree_element agrees).bind fun first => ?_
    refine .ite (agree_setFrom agrees first) (.ifSymbol ?_ (agree_setFrom agrees first))
    refine agrees.expression.below.bind fun value => .look isStill_atClause fun _ => .ite ?_ ?_
    · exact (agree_clauses agrees _).below.bind fun _ => .pure _
    · exact (agree_dictFrom agrees _).below

/-! ### Atoms -/

omit agrees in
theorem weight_takeLiterals (tokens : List Token) :
    weight (takeLiterals tokens).2 ≤ weight tokens ∧
      ∀ literal ∈ (takeLiterals tokens).1, literal.body.length + 2 ≤ weight tokens := by
  induction tokens with
  | nil => exact ⟨le_rfl, by simp [takeLiterals]⟩
  | cons token tokens ih =>
      unfold takeLiterals
      split
      · next literal rest same =>
          cases same
          obtain ⟨shorter, each⟩ := ih
          refine ⟨shorter.trans (Nat.le_add_left _ _), List.forall_mem_cons.mpr ⟨?_, ?_⟩⟩
          · exact Nat.le_add_right _ _
          · exact fun literal inside => (each literal inside).trans (Nat.le_add_left _ _)
      · exact ⟨le_rfl, by simp⟩

theorem fieldExpression_eq {text : List Char} (short : text.length + 3 < n) :
    fieldExpression g text = fieldExpression h text := by
  unfold fieldExpression
  split
  · rfl
  · next tokens opened read =>
      have cut : Token.Cut true ('(' :: text ++ [')', '\n']) tokens := .of_read? read
      have light := cut.weight_le
      simp only [List.cons_append, List.length_cons, List.length_append, List.length_nil] at light
      rw [(agree_starExpressions agrees tokens (by omega)).1]

theorem agree_strings : Agree (n + 1) (strings g) (strings h) := by
  intro tokens light
  obtain ⟨shorter, each⟩ := weight_takeLiterals tokens
  unfold strings
  split
  · refine ⟨rfl, ?_⟩
    rintro _ _ ⟨⟩
  · next literals rest _ found =>
      rw [found] at shorter each
      have same : Interpolation.join? (fieldExpression g) literals =
          Interpolation.join? (fieldExpression h) literals := by
        have short (text : List Char) (short : text.length + 2 ≤ n - 2) :
            fieldExpression g text = fieldExpression h text :=
          fieldExpression_eq agrees (by omega)
        refine Interpolation.join?_congr short fun literal inside => ?_
        have least := each literal inside
        omega
      rw [same]
      refine ⟨rfl, fun value rest read => ?_⟩
      obtain ⟨_, -, same⟩ := Option.map_eq_some_iff.mp read
      cases same
      exact shorter

theorem agree_atom : Agree (n + 1) (atom g) (atom h) := by
  intro tokens light
  have single {token : Token} {rest : List Token} :
      weight rest ≤ weight (token :: rest) := Nat.le_add_left _ _
  unfold atom
  split
  · refine ⟨rfl, ?_⟩
    rintro _ _ ⟨⟩
    exact single
  · refine ⟨rfl, ?_⟩
    rintro _ _ ⟨⟩
    exact single
  · exact agree_strings agrees _ light
  · refine ⟨rfl, fun value left read => ?_⟩
    obtain ⟨_, -, same⟩ := Option.map_eq_some_iff.mp read
    cases same
    exact single
  · next shown rest =>
      -- A bracket weighs something, so what follows it is light enough for the level below.
      have inside : weight rest < n := by
        simp only [weight_cons, Token.weight] at light
        omega
      have grow {p p' : Parser Tree} (agree : Agree n p p') : p rest = p' rest ∧
          ∀ value left, p rest = some (value, left) → weight left ≤ weight (.symbol shown :: rest) :=
        ⟨(agree rest inside).1, fun value left read => ((agree rest inside).2 _ _ read).trans single⟩
      split
      · exact grow (agree_roundBracket agrees)
      · split
        · exact grow (agree_squareBracket agrees)
        · split
          · exact grow (agree_brace agrees)
          · split
            · refine ⟨rfl, ?_⟩
              rintro _ _ ⟨⟩
              exact single
            · refine ⟨rfl, ?_⟩
              rintro _ _ ⟨⟩
  · refine ⟨rfl, ?_⟩
    rintro _ _ ⟨⟩

/-! ### Calls and subscripts -/

theorem agree_argument : Agree n (argument g) (argument h) := by
  refine .ifSymbol ?_ (.ifSymbol ?_ (.look (isStill_atNameThen _) fun isNamed => .ite ?_ ?_))
  · exact agrees.expression.below.bind fun _ => .pure _
  · exact agrees.expression.below.bind fun _ => .pure _
  · refine .after narrows_name fun _ => .after (consumes_symbol _).narrows fun _ => ?_
    exact agrees.expression.bind fun _ => .pure _
  · exact (agree_namedExpression agrees).bind fun _ => .pure _

theorem agree_arguments (generators : Bool) :
    Agree n (arguments g generators) (arguments h generators) := by
  refine .ifSymbol (.pure _) ((agree_argument agrees).commaList.bind fun found => ?_)
  obtain ⟨items, trailing⟩ := found
  simp only []
  split
  · refine .look isStill_atClause fun _ => .ite ?_ ?_
    · exact (agree_clauses agrees _).bind fun _ => .pure _
    · exact .after (consumes_symbol _).narrows fun _ => .pure _
  · exact .after (consumes_symbol _).narrows fun _ => .ite (.pure _) .failure

theorem agree_index : Agree n (index g) (index h) := by
  refine .ifSymbol ?_ (.look (isStill_atNameThen _) fun isNamed =>
    .ite (agree_namedExpression agrees) (.look (isStill_atSymbol _) fun atColon => ?_))
  · exact agrees.expression.below.bind fun _ => .pure _
  · refine .ite (.bind (.pure _) ?bounds) (.bind agrees.expression.map ?bounds)
    case bounds =>
      intro lower
      refine .ifSymbol ?_ (.of_narrows (narrows_lift _))
      refine agrees.expression.below.maybe.bind fun upper => .ifSymbol ?_ ?_
      · exact agrees.expression.below.below.maybe.bind fun _ => .pure _
      · exact .bind (.pure _) fun _ => .pure _

theorem agree_indices : Agree n (indices g) (indices h) :=
  (agree_index agrees).commaList.bind fun _ => .pure _

theorem agree_trailer : Agree (n + 1) (trailer g) (trailer h) := by
  refine .ifSymbol ?_ (.ifSymbol ?_ (.behind (consumes_symbol _) fun _ => ?_))
  · exact .after narrows_name fun _ => .pure _
  · exact (agree_arguments agrees true).bind fun _ => .pure _
  · exact (agree_indices agrees).bind fun _ => .after (consumes_symbol _).narrows fun _ => .pure _

theorem agree_primary : Agree (n + 1) (primary g) (primary h) :=
  (agree_atom agrees).bind fun _ => (agree_trailer agrees).many.bind fun _ => .pure _

/-! ### Operators -/

omit agrees in
theorem narrows_operator (table : List (String × BinaryOp)) : Narrows (operator table) := by
  intro tokens value rest read
  unfold operator at read
  split at read
  · obtain ⟨_, -, same⟩ := Option.map_eq_some_iff.mp read
    cases same
    exact Nat.le_add_left _ _
  · cases read

omit agrees in
theorem narrows_compareOp : Narrows compareOp := by
  intro tokens value rest read
  unfold compareOp at read
  split at read
  · obtain ⟨_, -, same⟩ := Option.map_eq_some_iff.mp read
    cases same
    exact Nat.le_add_left _ _
  · cases read
    simp only [weight_cons]
    omega
  · cases read
    exact Nat.le_add_left _ _
  · cases read
    simp only [weight_cons]
    omega
  · cases read
    exact Nat.le_add_left _ _
  · cases read

theorem agree_awaited : Agree (n + 1) (awaited g) (awaited h) :=
  .ifKeyword ((agree_primary agrees).below.bind fun _ => .pure _) (agree_primary agrees)

theorem agree_power : Agree (n + 1) (power g) (power h) :=
  (agree_awaited agrees).bind fun _ => .ifSymbol (agrees.factor.bind fun _ => .pure _) (.pure _)

theorem agree_factor : Agree (n + 1) (factor g) (factor h) := by
  intro tokens light
  unfold factor
  split
  · next token rest =>
      split
      · next op signed =>
          have least : token.weight = 1 := by
            unfold sign? at signed
            split at signed <;> first | rfl | cases signed
          rw [weight_cons, least] at light ⊢
          obtain ⟨same, narrows⟩ := agrees.factor rest (by omega)
          refine ⟨by rw [same], fun value left read => ?_⟩
          obtain ⟨⟨_, _⟩, read, same⟩ := Option.map_eq_some_iff.mp read
          cases same
          exact (narrows _ _ read).trans (Nat.le_add_left _ _)
      · exact agree_power agrees _ light
  · refine ⟨rfl, ?_⟩
    rintro _ _ ⟨⟩

theorem agree_bitwiseOr : Agree (n + 1) (bitwiseOr g) (bitwiseOr h) :=
  let chains {p p' : Parser Tree} (table : List (String × BinaryOp)) (agree : Agree (n + 1) p p') :
      Agree (n + 1) (chain p (operator table)) (chain p' (operator table)) :=
    agree.chain (narrows_operator table)
  chains _ (chains _ (chains _ (chains _ (chains _ (chains _ (agree_factor agrees))))))

theorem agree_comparison : Agree (n + 1) (comparison g) (comparison h) := by
  have operand := agree_bitwiseOr agrees
  refine operand.bind fun first => ?_
  refine (Agree.many (.after narrows_compareOp fun _ => operand.bind fun _ => .pure _)).bind ?_
  intro others
  split
  · exact .pure _
  · exact .pure _

theorem agree_inversion : Agree (n + 1) (inversion g) (inversion h) :=
  .ifKeyword (agrees.inversion.bind fun _ => .pure _) (agree_comparison agrees)

omit agrees in
theorem agree_joined {p p' : Parser Tree} (op : BoolOp) (shown : String) (agree : Agree n p p') :
    Agree n (joined op shown p) (joined op shown p') := by
  refine (agree.separated (consumes_keyword _).narrows).bind fun operands => ?_
  split
  · exact .pure _
  · exact .pure _

theorem agree_disjunction : Agree (n + 1) (disjunction g) (disjunction h) :=
  agree_joined _ _ (agree_joined _ _ (agree_inversion agrees))

/-! ### Parameters and expressions -/

omit agrees in
theorem agree_hint {p p' : Parser Tree} (hinted : Bool) (agree : Agree n p p') :
    Agree n (hint hinted p) (hint hinted p') := by
  refine .ite ?_ (.pure _)
  exact (Agree.maybe (.after (consumes_symbol _).narrows fun _ => agree)).bind fun _ => .pure _

theorem agree_parameterItem (hinted : Bool) :
    Agree n (parameterItem g hinted) (parameterItem h hinted) := by
  have plain := agree_hint hinted agrees.expression
  refine .ifSymbol (.pure _) (.ifSymbol ?_ (.ifSymbol ?_ ?_))
  · exact .after narrows_name fun _ => plain.below.bind fun _ => .pure _
  · refine (Agree.of_narrows narrows_name).maybe.bind fun id => ?_
    split
    · exact (agree_hint hinted (agree_starExpression agrees)).below.bind fun _ => .pure _
    · exact .pure _
  · refine .after narrows_name fun _ => plain.bind fun _ => ?_
    refine (Agree.maybe (.after (consumes_symbol _).narrows fun _ => agrees.expression)).bind ?_
    exact fun _ => .pure _

theorem agree_parameters (hinted : Bool) (closing : String) :
    Agree n (parameters g hinted closing) (parameters h hinted closing) := by
  refine .ifSymbol (.pure _) ((agree_parameterItem agrees hinted).commaList.bind fun _ => ?_)
  exact .after (consumes_symbol _).narrows fun _ => .of_narrows (narrows_lift _)

theorem agree_lambda : Agree (n + 1) (lambda g) (lambda h) :=
  .behind (consumes_keyword _) fun _ => (agree_parameters agrees _ _).bind fun _ =>
    agrees.expression.bind fun _ => .pure _

theorem agree_expression : Agree (n + 1) (expression g) (expression h) := by
  refine .look (isStill_atKeyword _) fun _ => .ite (agree_lambda agrees) ?_
  refine (agree_disjunction agrees).bind fun value => ?_
  refine (Agree.maybe (.behind (consumes_keyword _) fun _ => ?_)).bind fun choice => ?_
  · refine (agree_disjunction agrees).below.bind fun test => ?_
    refine .after (consumes_keyword _).narrows fun _ => agrees.expression.bind fun _ => .pure _
  · split
    · exact .pure _
    · exact .pure _

end Lists
end Rule
end Snippet
end AnswerKey
