import AnswerKey.Proofs.Grammar.Stopping

namespace AnswerKey
namespace Snippet

/-!
A list of expressions as the arguments of a call.

Arguments may take forms that expressions may not, but all of these begin in ways in which no
expression begins, or goes on.  So what is a list of expressions up to a closing bracket is a list of
positional arguments there (`Rule.arguments_of_commaList`), and the call of a name with them is a
statement of its own (`Rule.moduleInput_call`).
-/

namespace Parser

/-- A chain of one operand. -/
theorem chain_single {operand : Parser Tree} {operator : Parser (Tree → Tree → Tree)}
    {tokens rest : List Token} {tree : Tree} (first : operand tokens = some (tree, rest))
    (last : operator rest = none) : chain operand operator tokens = some (tree, rest) := by
  have ended : many (do
      let combine ← operator
      let right ← operand
      pure (combine, right)) rest = some ([], rest) := by
    have stopped : (do
        let combine ← operator
        let right ← operand
        pure (combine, right) : Parser ((Tree → Tree → Tree) × Tree)) rest = none := by
      change (operator rest).bind _ = _
      rw [last]
      rfl
    rw [many, stopped]
  change (operand tokens).bind _ = _
  rw [first]
  change (many _ rest).bind _ = _
  rw [ended]
  rfl

end Parser

namespace Rule

open Snippet.Parser Snippet.Grammar

variable {depth : Nat} {tokens rest left more : List Token} {value : Tree}

/-! ### Arguments -/

/-- An expression that a comma or a closing bracket follows is an argument of its own. -/
theorem argument_of_expression
    (read : (level depth).expression tokens = some (value, rest))
    (ends : rest.head? = some (.symbol ",") ∨ rest.head? = some (.symbol ")")) :
    argument (level depth) tokens = some ((.plain, value), rest) := by
  cases depth with
  | zero => cases read
  | succ depth =>
      have noStar : tokens.head? ≠ some (.symbol "*") := by
        intro here
        obtain ⟨left, rfl⟩ := List.head?_eq_some_iff.mp here
        cases (show none = _ from read)
      have noStars : tokens.head? ≠ some (.symbol "**") := by
        intro here
        obtain ⟨left, rfl⟩ := List.head?_eq_some_iff.mp here
        cases (show none = _ from read)
      have noName (shown : String) (mark : shown = "=" ∨ shown = ":=") :
          atNameThen shown tokens = some (false, tokens) := by
        unfold atNameThen
        split
        · next id isPlain other behind =>
            have apart : other ≠ shown := by
              rintro rfl
              rcases mark with rfl | rfl
              · cases (show some (Tree.name id .load, Token.symbol "=" :: behind) = _ from read)
                rcases ends with same | same <;> simp at same
              · cases (show some (Tree.name id .load, Token.symbol ":=" :: behind) = _ from read)
                rcases ends with same | same <;> simp at same
            rw [beq_eq_false_iff_ne.mpr apart]
        · rfl
      change (takeSymbol "**" tokens).bind _ = _
      rw [takeSymbol, symbol_of_ne noStars]
      change (takeSymbol "*" tokens).bind _ = _
      rw [takeSymbol, symbol_of_ne noStar]
      change (atNameThen "=" tokens).bind _ = _
      rw [noName "=" (.inl rfl)]
      change ((atNameThen ":=" tokens).bind _).bind _ = _
      rw [noName ":=" (.inr rfl)]
      change ((level (depth + 1)).expression tokens).bind _ = _
      rw [read]
      rfl

/-- No argument stands in front of a closing bracket. -/
theorem argument_closing :
    argument (level depth) (.symbol ")" :: rest) = none := by
  cases depth <;> rfl

section Commas

variable {α : Type} {p : Parser α} {count : Nat} {values : List α}

theorem exists_of_behindComma {found : α × List Token} (read : (do symbol ","; p) tokens = some found) :
    ∃ behind, tokens = .symbol "," :: behind ∧ p behind = some found := by
  obtain ⟨⟨_, behind⟩, comma, onward⟩ := Option.bind_eq_some_iff.mp read
  exact ⟨behind, eq_of_symbol comma, onward⟩

theorem head_of_repeatUpTo (read : repeatUpTo (do symbol ","; p) count tokens = some (values, rest)) :
    tokens = rest ∨ tokens.head? = some (.symbol ",") := by
  cases count with
  | zero =>
      cases read
      exact .inl rfl
  | succ count =>
      cases head : (do symbol ","; p) tokens with
      | none =>
          simp only [repeatUpTo, head] at read
          cases read
          exact .inl rfl
      | some found =>
          obtain ⟨behind, rfl, -⟩ := exists_of_behindComma head
          exact .inr rfl

end Commas

section Arguments

variable {values : List Tree} (ends : rest = .symbol ")" :: more ∨ rest = .symbol "," :: .symbol ")" :: more)

include ends

/-- Behind a list of arguments there is no other one. -/
theorem behindComma_argument : (do symbol ","; argument (level depth)) rest = none := by
  rcases ends with rfl | rfl
  · rfl
  · exact argument_closing

theorem head_of_ends : rest.head? = some (.symbol ",") ∨ rest.head? = some (.symbol ")") := by
  rcases ends with rfl | rfl
  · exact .inr rfl
  · exact .inl rfl

/-- An argument behind a comma, with others behind it. -/
theorem behindComma_taken {count : Nat} {value : Tree}
    (head : (do symbol ","; (level depth).expression) tokens = some (value, left))
    (later : repeatUpTo (do symbol ","; (level depth).expression) count left = some (values, rest)) :
    (do symbol ","; argument (level depth)) tokens = some ((.plain, value), left) := by
  obtain ⟨behind, rfl, first⟩ := exists_of_behindComma head
  have next : left.head? = some (.symbol ",") ∨ left.head? = some (.symbol ")") := by
    rcases head_of_repeatUpTo later with rfl | comma
    · exact head_of_ends ends
    · exact .inl comma
  exact argument_of_expression first next

/-- Arguments behind the first one, as often as the parser may be repeated. -/
theorem repeatUpTo_argument {count : Nat}
    (read : repeatUpTo (do symbol ","; (level depth).expression) count tokens = some (values, rest)) :
    repeatUpTo (do symbol ","; argument (level depth)) count tokens =
      some (values.map fun value => (.plain, value), rest) := by
  induction count generalizing tokens values with
  | zero =>
      cases read
      rfl
  | succ count ih =>
      cases head : (do symbol ","; (level depth).expression) tokens with
      | none =>
          simp only [repeatUpTo, head] at read
          cases read
          simp only [repeatUpTo, behindComma_argument ends, List.map_nil]
      | some found =>
          obtain ⟨value, left⟩ := found
          simp only [repeatUpTo, head] at read
          obtain ⟨⟨others, _⟩, later, same⟩ := Option.map_eq_some_iff.mp read
          cases same
          simp only [repeatUpTo, behindComma_taken ends head later, ih later, Option.map_some,
            List.map_cons]

theorem many_argument
    (read : many (do symbol ","; (level depth).expression) tokens = some (values, rest)) :
    many (do symbol ","; argument (level depth)) tokens =
      some (values.map fun value => (.plain, value), rest) := by
  cases head : (do symbol ","; (level depth).expression) tokens with
  | none =>
      simp only [many, head] at read
      cases read
      simp only [many, behindComma_argument ends, List.map_nil]
  | some found =>
      obtain ⟨value, left⟩ := found
      simp only [many, head] at read
      obtain ⟨⟨others, _⟩, later, same⟩ := Option.map_eq_some_iff.mp read
      cases same
      simp only [many, behindComma_taken ends head later, repeatUpTo_argument ends later,
        Option.map_some, List.map_cons]

end Arguments

theorem commaList_argument {items : List Tree} {trailing : Bool}
    (read : commaList (level depth).expression tokens = some ((items, trailing), .symbol ")" :: more)) :
    commaList (argument (level depth)) tokens =
      some ((items.map fun value => (.plain, value), trailing), .symbol ")" :: more) := by
  obtain ⟨⟨first, left⟩, head, onward⟩ := Option.bind_eq_some_iff.mp read
  obtain ⟨⟨others, rest⟩, behind, last⟩ := Option.bind_eq_some_iff.mp onward
  obtain ⟨⟨_, _⟩, comma, same⟩ := Option.bind_eq_some_iff.mp last
  cases same
  have ends : rest = .symbol ")" :: more ∨ rest = .symbol "," :: .symbol ")" :: more := by
    unfold takeSymbol at comma
    split at comma
    · next here =>
        cases comma
        exact .inr (eq_of_symbol here)
    · cases comma
      exact .inl rfl
  have next : left.head? = some (.symbol ",") ∨ left.head? = some (.symbol ")") := by
    cases head : (do symbol ","; (level depth).expression) left with
    | none =>
        simp only [many, head] at behind
        cases behind
        exact head_of_ends ends
    | some found =>
        obtain ⟨_, rfl, -⟩ := exists_of_behindComma head
        exact .inl rfl
  change (argument (level depth) tokens).bind _ = _
  rw [argument_of_expression head next]
  change (many _ left).bind _ = _
  rw [many_argument ends behind]
  change (takeSymbol "," rest).bind _ = _
  rw [comma]
  rfl

theorem inOrder_plain (items : List Tree) :
    ArgumentKind.inOrder ((items.map fun value => (ArgumentKind.plain, value)).map (·.1)) = true := by
  have plain : ∀ kind ∈ (items.map fun value => (ArgumentKind.plain, value)).map (·.1), kind = .plain := by
    simp
  rw [ArgumentKind.inOrder, List.dropWhile_eq_nil_iff.mpr fun kind member => by rw [plain kind member]; rfl,
    List.dropWhile_eq_nil_iff.mpr fun kind member => by rw [plain kind member]; rfl]
  rfl

theorem partition_plain (items : List Tree) :
    (items.map fun value => (ArgumentKind.plain, value)).partition (·.1.isNamed) =
      ([], items.map fun value => (ArgumentKind.plain, value)) := by
  have none : ∀ argument ∈ items.map fun value => (ArgumentKind.plain, value), argument.1.isNamed = false := by
    simp [ArgumentKind.isNamed]
  rw [List.partition_eq_filter_filter, List.filter_eq_nil_iff.mpr, List.filter_eq_self.mpr]
  · exact fun argument member => by simp [none argument member]
  · exact fun argument member => by simp [none argument member]

/-- Expressions with commas between them up to a closing bracket are positional arguments. -/
theorem arguments_of_commaList {items : List Tree} {trailing : Bool}
    (read : commaList (level depth).expression tokens = some ((items, trailing), .symbol ")" :: more)) :
    arguments (level depth) true tokens = some ((items, []), more) := by
  have noClosing : tokens.head? ≠ some (.symbol ")") := by
    intro here
    obtain ⟨left, rfl⟩ := List.head?_eq_some_iff.mp here
    obtain ⟨_, head, -⟩ := Option.bind_eq_some_iff.mp read
    cases depth with
    | zero => cases head
    | succ depth => cases (show none = _ from head)
  have listed := commaList_argument read
  have ordered : (symbol ")" >>= fun _ =>
      if ArgumentKind.inOrder ((items.map fun value => (ArgumentKind.plain, value)).map (·.1)) then
        pure (((items.map fun value => (ArgumentKind.plain, value)).partition (·.1.isNamed)).2.map (·.2),
          ((items.map fun value => (ArgumentKind.plain, value)).partition (·.1.isNamed)).1.map (·.2))
      else failure : Parser (List Tree × List Tree)) (.symbol ")" :: more) = some ((items, []), more) := by
    rw [inOrder_plain, partition_plain, if_pos rfl]
    have values : (items.map fun value => (ArgumentKind.plain, value)).map (·.2) = items := by simp
    simp only [bind, StateT.bind]
    rw [symbol_self, values]
    rfl
  change (takeSymbol ")" tokens).bind _ = _
  rw [takeSymbol, symbol_of_ne noClosing]
  change (commaList (argument (level depth)) tokens).bind _ = _
  rw [listed]
  rcases items with _ | ⟨first, _ | ⟨second, others⟩⟩
  · exact ordered
  · cases trailing with
    | true => exact ordered
    | false => rfl
  · exact ordered

/-! ### The call as a statement -/

section Calls

variable {g : Grammar} {id : String} {isPlain : Bool}

theorem primary_call {items : List Tree}
    (read : arguments g true tokens = some ((items, []), .lineEnd :: more)) :
    primary g (.name id isPlain :: .symbol "(" :: tokens) =
      some (.node .call [[.name id .load], items, []], .lineEnd :: more) := by
  have taken : trailer g (.symbol "(" :: tokens) =
      some (fun value => .node .call [[value], items, []], .lineEnd :: more) := by
    change (arguments g true tokens).bind _ = _
    rw [read]
    rfl
  change (many (trailer g) (.symbol "(" :: tokens)).bind _ = _
  simp only [many, taken]
  rfl

/-- At the end of a line, what starts with a name and is no more than a primary expression is an
expression. -/
theorem expression_of_primary
    (read : primary g (.name id isPlain :: tokens) = some (value, .lineEnd :: more)) :
    expression g (.name id isPlain :: tokens) = some (value, .lineEnd :: more) := by
  have awaited : awaited g (.name id isPlain :: tokens) = some (value, .lineEnd :: more) := read
  have power : power g (.name id isPlain :: tokens) = some (value, .lineEnd :: more) := by
    change (Rule.awaited g _).bind _ = _
    rw [awaited]
    rfl
  have factor : factor g (.name id isPlain :: tokens) = some (value, .lineEnd :: more) := power
  have bitwiseOr : bitwiseOr g (.name id isPlain :: tokens) = some (value, .lineEnd :: more) :=
    chain_single (chain_single (chain_single (chain_single (chain_single (chain_single factor rfl) rfl)
      rfl) rfl) rfl) rfl
  have comparison : comparison g (.name id isPlain :: tokens) = some (value, .lineEnd :: more) := by
    change (Rule.bitwiseOr g _).bind _ = _
    rw [bitwiseOr]
    rfl
  have conjunction : conjunction g (.name id isPlain :: tokens) = some (value, .lineEnd :: more) := by
    change ((Rule.comparison g _).bind _).bind _ = _
    rw [comparison]
    rfl
  have disjunction : disjunction g (.name id isPlain :: tokens) = some (value, .lineEnd :: more) := by
    change ((Rule.conjunction g _).bind _).bind _ = _
    rw [conjunction]
    rfl
  change (Rule.disjunction g _).bind _ = _
  rw [disjunction]
  rfl

/-- The call of a name with a list of expressions is a statement of its own. -/
theorem moduleInput_call {items : List Tree} {trailing : Bool}
    (read : commaList (level depth).expression (tokens ++ [.symbol ")", .lineEnd, .finish]) =
      some ((items, trailing), [.symbol ")", .lineEnd, .finish])) :
    moduleInput (level (depth + 2))
        (.name "print" true :: .symbol "(" :: (tokens ++ [.symbol ")", .lineEnd, .finish])) =
      some (.module [.node .expr [[.node .call [[.name "print" .load], items, []]]]], []) := by
  have called : expression (level depth) (.name "print" true :: _) = _ :=
    expression_of_primary (primary_call (arguments_of_commaList read))
  generalize Tree.node .call [[.name "print" .load], items, []] = call at called ⊢
  generalize tokens ++ [.symbol ")", .lineEnd, .finish] = text at called ⊢
  have star : starExpression (level (depth + 1)) (.name "print" true :: .symbol "(" :: text) =
      some (call, [.lineEnd, .finish]) := called
  have listed : starExpressions (level (depth + 1)) (.name "print" true :: .symbol "(" :: text) =
      some (call, [.lineEnd, .finish]) := by
    change ((starExpression _ _).bind _).bind _ = _
    rw [star]
    rfl
  have simple : simpleStatement (level (depth + 1)) (.name "print" true :: .symbol "(" :: text) =
      some (.node .expr [[call]], [.lineEnd, .finish]) := by
    change (starExpressions _ _).bind _ = _
    rw [listed]
    rfl
  have line : simpleLine (level (depth + 1)) (.name "print" true :: .symbol "(" :: text) =
      some ([.node .expr [[call]]], [.finish]) := by
    change ((simpleStatement _ _).bind _).bind _ = _
    rw [simple]
    rfl
  have one : (level (depth + 2)).statement (.name "print" true :: .symbol "(" :: text) =
      some ([.node .expr [[call]]], [.finish]) := line
  change (many _ _).bind _ = _
  simp only [many, one]
  rfl

end Calls

end Rule
end Snippet
end AnswerKey
