import AnswerKey.Proofs.Grammar.Expression
import AnswerKey.Proofs.Grammar.Settling

namespace AnswerKey
namespace Snippet

/-!
What expressions read is settled by their own tokens.

Rule by rule, what an expression reads up to a stop does not depend on what the stop is: a mark of
layout, or a bracket that the expression has not opened (`Grammar.isSettled_level`).
-/

/-- The parsers of expressions at a level of the grammar look no further than a stop. -/
structure Grammar.IsSettled (g : Grammar) : Prop where
  bitwiseOr : Parser.Settles 0 0 g.bitwiseOr
  disjunction : Parser.Settles 0 0 g.disjunction
  expression : Parser.Settles 0 0 g.expression
  factor : Parser.Settles 0 0 g.factor
  inversion : Parser.Settles 0 0 g.inversion
  primary : Parser.Settles 0 0 g.primary

namespace Rule

open Snippet.Parser

variable {g : Grammar}

section Expressions

variable {shown : String} {closed : Nat} {α : Type}

theorem settles_atClause : Settles 0 0 atClause :=
  .bind .atKeyword fun _ => .bind .atKeyword fun _ => .pure _

/-- A closing bracket behind a rule. -/
theorem settles_closed (closing : (Token.symbol shown).closes = true) (value : α) :
    Settles 0 1 (do symbol shown; pure value) :=
  Settles.free (.symbol (turns_of_closes closing) (.pure value))

variable (settled : g.IsSettled)

include settled

/-! ### Targets and lists -/

theorem settles_target : Settles 0 0 (target g) := by
  refine .ifSymbol (turns_of_isPlain rfl) ?_ ?_ (Nat.zero_le 1)
  · exact settled.primary.bind fun _ => (Settles.lift _).bind fun _ => .pure _
  · exact settled.primary.bind fun _ => .lift _

theorem settles_targets : Settles 0 0 (targets g) :=
  (settles_target settled).commaList.bind fun _ => .pure _

theorem settles_namedExpression : Settles 0 0 (namedExpression g) := by
  refine .bind (.atNameThen rfl) fun isNamed => .ite ?_ settled.expression
  refine .bind (.free .name) fun _ => .free (.symbol (turns_of_isPlain rfl) ?_)
  exact settled.expression.bind fun _ => .pure _

theorem settles_element : Settles 0 0 (element g) := by
  refine .ifSymbol (turns_of_isPlain rfl) ?_ (settles_namedExpression settled) (Nat.zero_le 1)
  exact settled.bitwiseOr.bind fun _ => .pure _

theorem settles_elements (closing : (Token.symbol shown).closes = true) :
    Settles 0 1 (elements g shown) := by
  refine .ifSymbol (turns_of_closes closing) (.pure _) ?_ (Nat.zero_le 1)
  exact (settles_element settled).commaList.bind fun _ => settles_closed closing _

theorem settles_starExpression : Settles 0 0 (starExpression g) := by
  refine .ifSymbol (turns_of_isPlain rfl) ?_ settled.expression (Nat.zero_le 1)
  exact settled.bitwiseOr.bind fun _ => .pure _

theorem settles_starExpressions : Settles 0 0 (starExpressions g) :=
  (settles_starExpression settled).commaList.bind fun _ => .pure _

theorem settles_yieldExpression : Settles 0 0 (yieldExpression g) := by
  refine .free (.keyword (.ifKeyword ?_ ?_ (Nat.zero_le 1)))
  · exact settled.expression.bind fun _ => .pure _
  · exact (settles_starExpressions settled).maybe.bind fun _ => .pure _

/-! ### Comprehensions -/

theorem settles_clause : Settles 1 0 (clause g) := by
  refine .before .takeKeyword fun _ => .keyword ?_
  refine (settles_targets settled).bind fun _ => .free (.keyword ?_)
  refine settled.disjunction.bind fun _ => ?_
  exact (Settles.many (.keyword settled.disjunction)).bind fun _ => .pure _

theorem settles_clauses (closing : (Token.symbol shown).closes = true) :
    Settles 0 1 (clauses g shown) :=
  (settles_clause settled).free.bind fun _ => (settles_clause settled).many.bind fun _ =>
    settles_closed closing _

/-! ### Brackets -/

theorem settles_roundBracket : Settles 0 1 (roundBracket g) := by
  refine .ifSymbol (turns_of_closes rfl) (.pure _) (.bind .atKeyword fun _ => .ite ?_ ?_) (Nat.zero_le 1)
  · exact (settles_yieldExpression settled).bind fun value => settles_closed rfl value
  · refine (settles_element settled).bind fun first =>
      .ifSymbol (turns_of_isPlain rfl) ?_ (.ite .failure ?_) (Nat.zero_le 1)
    · exact (settles_elements settled (by decide)).closing fun _ => .pure _
    · refine .bind settles_atClause fun _ => .ite ?_ (settles_closed rfl first)
      exact (settles_clauses settled (by decide)).closing fun _ => .pure _

theorem settles_squareBracket : Settles 0 1 (squareBracket g) := by
  refine .ifSymbol (turns_of_closes rfl) (.pure _) ?_ (Nat.zero_le 1)
  refine (settles_element settled).bind fun first => .ifSymbol (turns_of_isPlain rfl) ?_ ?_ (Nat.zero_le 1)
  · exact (settles_elements settled (by decide)).closing fun _ => .pure _
  · refine .bind settles_atClause fun _ => .ite ?_ (settles_closed (by decide) _)
    exact (settles_clauses settled (by decide)).closing fun _ => .pure _

theorem settles_entry : Settles 0 0 (entry g) := by
  refine .ifSymbol (turns_of_isPlain rfl) ?_ ?_ (Nat.zero_le 1)
  · exact settled.bitwiseOr.bind fun _ => .pure _
  · refine settled.expression.bind fun _ => .free (.symbol (turns_of_isPlain rfl) ?_)
    exact settled.expression.bind fun _ => .pure _

theorem settles_dictFrom (first : Option Tree × Tree) : Settles 0 1 (dictFrom g first) := by
  refine (Settles.many (.symbol (turns_of_isPlain rfl) (settles_entry settled))).bind fun _ => ?_
  exact (Settles.takeSymbol rfl).bind fun _ => settles_closed (by decide) _

theorem settles_setFrom (first : Tree) : Settles 0 1 (setFrom g first) := by
  refine .ifSymbol (turns_of_isPlain rfl) ?_ (.bind settles_atClause fun _ => .ite ?_ ?_) (Nat.zero_le 1)
  · exact (settles_elements settled (by decide)).closing fun _ => .pure _
  · exact (settles_clauses settled (by decide)).closing fun _ => .pure _
  · exact settles_closed (by decide) _

theorem settles_brace : Settles 0 1 (brace g) := by
  refine .ifSymbol (turns_of_closes rfl) (.pure _) (.bind (.atSymbol rfl) fun _ => .ite ?_ ?_)
    (Nat.zero_le 1)
  · exact (settles_entry settled).bind fun first => settles_dictFrom settled first
  · refine .bind (.atNameThen rfl) fun isNamed => (settles_element settled).bind fun first => ?_
    refine .ite (settles_setFrom settled first)
      (.ifSymbol (turns_of_isPlain rfl) ?_ (settles_setFrom settled first) (Nat.zero_le 1))
    refine settled.expression.bind fun value => .bind settles_atClause fun _ => .ite ?_ ?_
    · exact (settles_clauses settled (by decide)).closing fun _ => .pure _
    · exact settles_dictFrom settled _

/-! ### Atoms -/

omit settled in
theorem takeLiterals_stops (tokens : List Token) {rest : List Token} (stops : Stops rest) :
    takeLiterals (tokens ++ rest) = ((takeLiterals tokens).1, (takeLiterals tokens).2 ++ rest) := by
  induction tokens with
  | nil =>
      obtain ⟨stop, more, rfl, isStop⟩ := stops
      cases stop <;> first | rfl | cases isStop
  | cons token tokens ih =>
      cases token with
      | string literal => simp only [List.cons_append, takeLiterals, ih]
      | _ => rfl

omit settled in
theorem shuts_takeLiterals {depth : Nat} (tokens : List Token) (shuts : Shuts depth tokens) :
    Shuts depth (takeLiterals tokens).2 ∧ (takeLiterals tokens).2.length ≤ tokens.length := by
  induction tokens with
  | nil => exact ⟨shuts, le_rfl⟩
  | cons token tokens ih =>
      cases token with
      | string literal =>
          obtain ⟨onward, shorter⟩ := ih shuts.2
          exact ⟨onward, shorter.trans (Nat.le_succ _)⟩
      | _ => exact ⟨shuts, le_rfl⟩

omit settled in
theorem settles_strings : Settles 0 0 (strings g) := by
  intro depth tokens shuts
  obtain ⟨onward, shorter⟩ := shuts_takeLiterals tokens shuts
  have taken (rest : List Token) (stops : Stops rest) := takeLiterals_stops tokens stops
  rcases found : takeLiterals tokens with ⟨_ | ⟨literal, literals⟩, left⟩
  · exact .fails fun rest stops => by rw [strings, taken rest stops, found]
  · rw [found] at onward shorter
    cases joined : Interpolation.join? (fieldExpression g) (literal :: literals) with
    | none => exact .fails fun rest stops => by rw [strings, taken rest stops, found]; simp [joined]
    | some tree =>
        have reads : ∀ rest, Stops rest → strings g (tokens ++ rest) = some (tree, left ++ rest) :=
          fun rest stops => by rw [strings, taken rest stops, found]; simp [joined]
        exact .reads reads onward shorter

theorem settles_atom : Settles 0 0 (atom g) := by
  rintro depth (_ | ⟨token, left⟩) shuts
  · refine .fails ?_
    rintro _ ⟨stop, more, rfl, isStop⟩
    cases stop with
    | symbol shown =>
        obtain rfl := beq_iff_eq.mp isStop
        rfl
    | lineEnd => rfl
    | indent => rfl
    | dedent => rfl
    | finish => rfl
    | _ => cases isStop
  · cases token with
    | name id isPlain => exact .reads (fun _ _ => rfl) shuts.2 (Nat.le_succ _)
    | number value => exact .reads (fun _ _ => rfl) shuts.2 (Nat.le_succ _)
    | string literal => exact (settles_strings depth _ shuts).congr fun _ _ => rfl
    | keyword shown =>
        cases known : constant? shown with
        | none => exact .fails fun rest _ => congrArg (Option.map _) known
        | some value => exact .reads (fun rest _ => congrArg (Option.map _) known) shuts.2 (Nat.le_succ _)
    | symbol shown =>
        -- Behind an opening bracket one more bracket is left to be closed.
        have inside {p : Parser Tree} (opening : (Token.symbol shown).opens = true) (settles : Settles 0 1 p)
            (same : ∀ rest, atom g (.symbol shown :: left ++ rest) = p (left ++ rest)) :
            SettlesOn (.symbol shown :: left) depth 0 (atom g) := by
          obtain ⟨outcome, reads, goes⟩ := settles depth left (shuts.tail_of_opens opening)
          refine ⟨outcome, fun rest stops => (same rest).trans (reads rest stops), fun value end_ found => ?_⟩
          obtain ⟨shutsEnd, shorter⟩ := goes value end_ found
          exact ⟨shutsEnd, shorter.trans (Nat.le_succ _)⟩
        by_cases round : shown = "("
        · subst round
          exact inside rfl (settles_roundBracket settled) fun _ => rfl
        · by_cases square : shown = "["
          · subst square
            exact inside rfl (settles_squareBracket settled) fun _ => rfl
          · by_cases curly : shown = "\x7b"
            · subst curly
              exact inside rfl (settles_brace settled) fun _ => rfl
            · by_cases dots : shown = "..."
              · subst dots
                exact .reads (fun _ _ => rfl) (shuts.tail_of_plain ⟨rfl, rfl⟩) (Nat.le_succ _)
              · refine .fails fun rest _ => ?_
                simp only [List.cons_append, atom, if_neg round, if_neg square, if_neg curly, if_neg dots]
    | _ => exact .fails fun _ _ => rfl

/-! ### Calls and subscripts -/

theorem settles_argument : Settles 0 0 (argument g) := by
  refine .ifSymbol (turns_of_isPlain rfl) ?_ (.ifSymbol (turns_of_isPlain rfl) ?_
    (.bind (.atNameThen rfl) fun isNamed => .ite ?_ ?_) (Nat.zero_le 1)) (Nat.zero_le 1)
  · exact settled.expression.bind fun _ => .pure _
  · exact settled.expression.bind fun _ => .pure _
  · refine .bind (.free .name) fun _ => .free (.symbol (turns_of_isPlain rfl) ?_)
    exact settled.expression.bind fun _ => .pure _
  · exact (settles_namedExpression settled).bind fun _ => .pure _

theorem settles_arguments (generators : Bool) : Settles 0 1 (arguments g generators) := by
  refine .ifSymbol (turns_of_closes rfl) (.pure _) ?_ (Nat.zero_le 1)
  refine (settles_argument settled).commaList.bind fun found => ?_
  obtain ⟨items, trailing⟩ := found
  simp only []
  split
  · refine .bind settles_atClause fun _ => .ite ?_ (settles_closed (by decide) _)
    exact (settles_clauses settled (by decide)).closing fun _ => .pure _
  · exact .free (.symbol (turns_of_closes rfl) (.ite (.pure _) .failure))

theorem settles_index : Settles 0 0 (index g) := by
  refine .ifSymbol (turns_of_isPlain rfl) ?_ (.bind (.atNameThen rfl) fun isNamed =>
    .ite (settles_namedExpression settled) (.bind (.atSymbol rfl) fun atColon => ?_)) (Nat.zero_le 1)
  · exact settled.expression.bind fun _ => .pure _
  · refine .ite (.bind (.pure _) ?bounds) (.bind settled.expression.map ?bounds)
    case bounds =>
      intro lower
      refine .ifSymbol (turns_of_isPlain rfl) ?_ (.lift _) (Nat.zero_le 1)
      refine settled.expression.maybe.bind fun upper => .ifSymbol (turns_of_isPlain rfl) ?_ ?_ (Nat.zero_le 1)
      · exact settled.expression.maybe.bind fun _ => .pure _
      · exact .bind (.pure _) fun _ => .pure _

theorem settles_indices : Settles 0 0 (indices g) :=
  (settles_index settled).commaList.bind fun _ => .pure _

theorem settles_trailer : Settles 1 0 (trailer g) := by
  refine .ifSymbol (turns_of_isPlain rfl) ?_
    (.ifSymbol (turns_of_opens rfl) ?_ (.symbol (turns_of_opens rfl) ?_) le_rfl) le_rfl
  · exact .bind (.free .name) fun _ => .pure _
  · exact (settles_arguments settled true).closing fun _ => .pure _
  · exact (settles_indices settled).bind fun _ => settles_closed (by decide) _

theorem settles_primary : Settles 0 0 (primary g) :=
  (settles_atom settled).bind fun _ => (settles_trailer settled).many.bind fun _ => .pure _

/-! ### Operators -/

omit settled in
theorem isPlain_of_lookup {table : List (String × α)} {op : α}
    (plain : table.all (fun entry => (Token.symbol entry.1).isPlain) = true)
    (known : table.lookup shown = some op) : (Token.symbol shown).isPlain = true := by
  obtain ⟨before, behind, rfl, -⟩ := List.lookup_eq_some_iff.mp known
  exact List.all_eq_true.mp plain _ (List.mem_append_right _ List.mem_cons_self)

omit settled in
/-- A symbol of a table, which holds no bracket. -/
theorem settlesOn_lookup {table : List (String × α)} {β : Type} {f : α → β} {p : Parser β} {depth : Nat}
    {left : List Token} (plain : table.all (fun entry => (Token.symbol entry.1).isPlain) = true)
    (same : ∀ rest, p (.symbol shown :: rest) = (table.lookup shown).map fun op => (f op, rest))
    (shuts : Shuts depth (.symbol shown :: left)) : SettlesOn (.symbol shown :: left) depth 1 p := by
  cases known : table.lookup shown with
  | none => exact .fails fun _ _ => (same _).trans (congrArg (Option.map _) known)
  | some op =>
      have turns : Turns (.symbol shown) 0 0 := turns_of_isPlain (isPlain_of_lookup plain known)
      have onward := turns.2 depth left shuts
      exact .reads (fun _ _ => (same _).trans (congrArg (Option.map _) known)) onward le_rfl

omit settled in
theorem settles_operator {table : List (String × BinaryOp)}
    (plain : table.all (fun entry => (Token.symbol entry.1).isPlain) = true) :
    Settles 1 0 (operator table) := by
  rintro depth (_ | ⟨token, left⟩) shuts
  · refine .fails ?_
    rintro _ ⟨stop, more, rfl, isStop⟩
    cases stop with
    | symbol shown =>
        cases known : table.lookup shown with
        | none => exact congrArg (Option.map _) known
        | some op =>
            have apart := isPlain_of_lookup plain known
            rw [Token.isPlain, isStop, Bool.or_true] at apart
            cases apart
    | _ => rfl
  · cases token with
    | symbol shown => exact settlesOn_lookup plain (fun _ => rfl) shuts
    | _ => exact .fails fun _ _ => rfl

omit settled in
theorem settles_compareOp : Settles 1 0 compareOp := by
  rintro depth (_ | ⟨token, left⟩) shuts
  · refine .fails ?_
    rintro _ ⟨stop, more, rfl, isStop⟩
    cases stop with
    | symbol shown =>
        obtain rfl := beq_iff_eq.mp isStop
        rfl
    | keyword => cases isStop
    | _ => rfl
  · cases token with
    | symbol shown => exact settlesOn_lookup rfl (fun _ => rfl) shuts
    | keyword word =>
        by_cases isIn : word = "in"
        · subst isIn
          exact .reads (fun _ _ => rfl) shuts.2 le_rfl
        · -- The other operators may be two words, the second of which is no stop.
          have second (next : String) (rest : List Token) (stops : Stops rest) :
              (left ++ rest).head? = some (.keyword next) ↔ left.head? = some (.keyword next) := by
            obtain ⟨stop, others, rfl, isStop⟩ := stops
            cases left with
            | nil =>
                constructor
                · rintro ⟨⟩
                  cases isStop
                · rintro ⟨⟩
            | cons other left => rfl
          by_cases isNot : word = "not"
          · subst isNot
            by_cases twice : left.head? = some (.keyword "in")
            · obtain ⟨left, rfl⟩ := List.head?_eq_some_iff.mp twice
              exact .reads (fun _ _ => rfl) shuts.2.2 (by simp)
            · refine .fails fun rest stops => ?_
              have apart := mt (second "in" rest stops).mp twice
              rw [List.cons_append]
              generalize left ++ rest = behind at apart
              unfold compareOp
              split <;> simp_all
          · by_cases is : word = "is"
            · subst is
              by_cases twice : left.head? = some (.keyword "not")
              · obtain ⟨left, rfl⟩ := List.head?_eq_some_iff.mp twice
                exact .reads (fun _ _ => rfl) shuts.2.2 (by simp)
              · have seen : ∀ rest, Stops rest →
                    compareOp (.keyword "is" :: left ++ rest) = some (.is, left ++ rest) := by
                  intro rest stops
                  have apart := mt (second "not" rest stops).mp twice
                  rw [List.cons_append]
                  generalize left ++ rest = behind at apart
                  unfold compareOp
                  split <;> simp_all
                exact .reads seen shuts.2 le_rfl
            · refine .fails fun rest _ => ?_
              rw [List.cons_append]
              unfold compareOp
              split <;> simp_all
    | _ => exact .fails fun _ _ => rfl

theorem settles_awaited : Settles 0 0 (awaited g) :=
  .ifKeyword ((settles_primary settled).bind fun _ => .pure _) (settles_primary settled) (Nat.zero_le 1)

theorem settles_power : Settles 0 0 (power g) :=
  (settles_awaited settled).bind fun _ =>
    .ifSymbol (turns_of_isPlain rfl) (settled.factor.bind fun _ => .pure _) (.pure _) (Nat.zero_le 1)

theorem settles_factor : Settles 0 0 (factor g) := by
  intro depth tokens shuts
  have power := settles_power settled depth tokens shuts
  cases tokens with
  | nil =>
      refine power.congr ?_
      rintro _ ⟨stop, more, rfl, isStop⟩
      cases stop with
      | symbol shown =>
          obtain rfl := beq_iff_eq.mp isStop
          rfl
      | _ => rfl
  | cons token left =>
      cases signed : sign? token with
      | none => exact power.congr fun rest _ => by simp only [List.cons_append, factor, signed]
      | some op =>
          have plain : token.isPlain = true := by
            unfold sign? at signed
            split at signed <;> first | rfl | cases signed
          obtain ⟨_ | ⟨value, last⟩, reads, goes⟩ :=
            settled.factor depth left ((turns_of_isPlain plain).2 depth left shuts)
          · refine .fails fun rest stops => ?_
            simp only [List.cons_append, factor, signed, reads rest stops, Option.map_none]
          · obtain ⟨onward, shorter⟩ := goes value last rfl
            have seen : ∀ rest, Stops rest → factor g (token :: left ++ rest) =
                some (.node (.unary op) [[value]], last ++ rest) := fun rest stops => by
              simp only [List.cons_append, factor, signed, reads rest stops, Option.map_some]
            exact .reads seen onward (shorter.trans (Nat.le_succ _))

theorem settles_bitwiseOr : Settles 0 0 (bitwiseOr g) :=
  let chains {p : Parser Tree} {table : List (String × BinaryOp)}
      (plain : table.all (fun entry => (Token.symbol entry.1).isPlain) = true) (settles : Settles 0 0 p) :
      Settles 0 0 (chain p (operator table)) :=
    settles.chain (settles_operator plain)
  chains rfl (chains rfl (chains rfl (chains rfl (chains rfl (chains rfl (settles_factor settled))))))

theorem settles_comparison : Settles 0 0 (comparison g) := by
  have operand := settles_bitwiseOr settled
  refine operand.bind fun first => ?_
  refine (Settles.many (settles_compareOp.behind fun _ => operand.bind fun _ => .pure _)).bind ?_
  intro others
  split
  · exact .pure _
  · exact .pure _

theorem settles_inversion : Settles 0 0 (inversion g) :=
  .ifKeyword (settled.inversion.bind fun _ => .pure _) (settles_comparison settled) (Nat.zero_le 1)

omit settled in
theorem settles_joined {p : Parser Tree} (op : BoolOp) (shown : String) (settles : Settles 0 0 p) :
    Settles 0 0 (joined op shown p) := by
  refine (Settles.separated .keyword_only settles).bind fun operands => ?_
  split
  · exact .pure _
  · exact .pure _

theorem settles_disjunction : Settles 0 0 (disjunction g) :=
  settles_joined _ _ (settles_joined _ _ (settles_inversion settled))

/-! ### Parameters and expressions -/

omit settled in
theorem settles_hint {p : Parser Tree} (hinted : Bool) (settles : Settles 0 0 p) :
    Settles 0 0 (hint hinted p) := by
  refine .ite ?_ (.pure _)
  exact (Settles.maybe (.free (.symbol (turns_of_isPlain rfl) settles))).bind fun _ => .pure _

theorem settles_parameterItem (hinted : Bool) : Settles 0 0 (parameterItem g hinted) := by
  have plain := settles_hint hinted settled.expression
  refine .ifSymbol (turns_of_isPlain rfl) (.pure _) (.ifSymbol (turns_of_isPlain rfl) ?_
    (.ifSymbol (turns_of_isPlain rfl) ?_ ?_ (Nat.zero_le 1)) (Nat.zero_le 1)) (Nat.zero_le 1)
  · exact .bind (.free .name) fun _ => plain.bind fun _ => .pure _
  · refine (Settles.free .name).maybe.bind fun id => ?_
    split
    · exact (settles_hint hinted (settles_starExpression settled)).bind fun _ => .pure _
    · exact .pure _
  · refine .bind (.free .name) fun _ => plain.bind fun _ => ?_
    refine (Settles.maybe (.free (.symbol (turns_of_isPlain rfl) settled.expression))).bind ?_
    exact fun _ => .pure _

theorem settles_lambda : Settles 0 0 (lambda g) := by
  refine .free (.keyword (.bind ?_ fun _ => settled.expression.bind fun _ => .pure _))
  refine .ifSymbol (turns_of_isPlain rfl) (.pure _) ?_ (Nat.zero_le 1)
  refine (settles_parameterItem settled _).commaList.bind fun _ => ?_
  exact .free (.symbol (turns_of_isPlain rfl) (.lift _))

theorem settles_expression : Settles 0 0 (expression g) := by
  refine .bind .atKeyword fun _ => .ite (settles_lambda settled) ?_
  refine (settles_disjunction settled).bind fun value => ?_
  refine (Settles.maybe (.free (.keyword ?_))).bind fun choice => ?_
  · refine (settles_disjunction settled).bind fun test => ?_
    exact .free (.keyword (settled.expression.bind fun _ => .pure _))
  · split
    · exact .pure _
    · exact .pure _

end Expressions
end Rule

namespace Grammar

theorem isSettled_level (depth : Nat) : (level depth).IsSettled := by
  induction depth with
  | zero => exact ⟨.failure, .failure, .failure, .failure, .failure, .failure⟩
  | succ depth ih =>
      exact
        { bitwiseOr := Rule.settles_bitwiseOr ih
          disjunction := Rule.settles_disjunction ih
          expression := Rule.settles_expression ih
          factor := Rule.settles_factor ih
          inversion := Rule.settles_inversion ih
          primary := Rule.settles_primary ih }

end Grammar
end Snippet
end AnswerKey
