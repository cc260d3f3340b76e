import Mathlib.Order.BooleanAlgebra.Basic
import AnswerKey.Snippet.Grammar.Statement

namespace AnswerKey
namespace Snippet
namespace Tree

/-!
What a tree holds.

A tree holds a slice if one stands in it outside all formatted literals, and a field if one stands in
it anywhere.  Both are looked for together (`holding`): what a tree holds is what its parts hold, so
that neither their order nor their use as targets makes a difference.
-/

mutual

/-- Whether something is found in a tree, given whether slices count and which forms decide by
themselves; in all other trees it is found in a part. -/
def finds (slices : Bool) (decided? : Form → Option Bool) : Tree → Bool
  | name _ _ => false
  | constant _ => false
  | slice lower upper step =>
      slices || findsIn slices decided? lower || findsIn slices decided? upper ||
        findsIn slices decided? step
  | parameter _ hint => findsIn slices decided? hint
  | lambda _ parameters defaults keywordDefaults body =>
      findsIn slices decided? parameters || findsIn slices decided? defaults ||
        findsIn slices decided? keywordDefaults || finds slices decided? body
  | function _ _ _ decorators parameters defaults keywordDefaults returns body =>
      findsIn slices decided? decorators || findsIn slices decided? parameters ||
        findsIn slices decided? defaults || findsIn slices decided? keywordDefaults ||
        findsIn slices decided? returns || findsIn slices decided? body
  | classDef _ decorators bases keywords body =>
      findsIn slices decided? decorators || findsIn slices decided? bases ||
        findsIn slices decided? keywords || findsIn slices decided? body
  | comprehension _ results clauses =>
      findsIn slices decided? results || findsIn slices decided? clauses
  | clause _ target iterable conditions =>
      finds slices decided? target || finds slices decided? iterable ||
        findsIn slices decided? conditions
  | loop _ target iterable body alternative =>
      finds slices decided? target || finds slices decided? iterable ||
        findsIn slices decided? body || findsIn slices decided? alternative
  | module body => findsIn slices decided? body
  | expression body => finds slices decided? body
  | node form parts => (decided? form).getD (findsAmong slices decided? parts)

/-- Whether something is found in one of some trees. -/
def findsIn (slices : Bool) (decided? : Form → Option Bool) : List Tree → Bool
  | [] => false
  | tree :: rest => finds slices decided? tree || findsIn slices decided? rest

/-- Whether something is found in a tree of some positions. -/
def findsAmong (slices : Bool) (decided? : Form → Option Bool) : List (List Tree) → Bool
  | [] => false
  | trees :: rest => findsIn slices decided? trees || findsAmong slices decided? rest

end

/-- A formatted literal is closed to the search for slices. -/
def closedLiteral? : Form → Option Bool
  | .joined => some false
  | _ => none

/-- A replacement field is found where it stands. -/
def foundField? : Form → Option Bool
  | .interpolation _ => some true
  | _ => none

/-- Whether a subscript with bounds stands in a tree, outside the fields of formatted literals. -/
def hasSlice (tree : Tree) : Bool :=
  tree.finds true closedLiteral?

/-- Whether a replacement field stands in a tree. -/
def hasField (tree : Tree) : Bool :=
  tree.finds false foundField?

/-! ### What trees hold together -/

/-- Whether a tree holds a slice, and whether it holds a field. -/
def holding (tree : Tree) : Bool × Bool :=
  (tree.hasSlice, tree.hasField)

/-- What some trees hold together. -/
def holdingIn (trees : List Tree) : Bool × Bool :=
  (findsIn true closedLiteral? trees, findsIn false foundField? trees)

/-- What the trees of some positions hold together. -/
def holdingAmong (parts : List (List Tree)) : Bool × Bool :=
  (findsAmong true closedLiteral? parts, findsAmong false foundField? parts)

section Parts

variable {form : Form} {parts : List (List Tree)} {tree : Tree} {trees more : List Tree}

@[simp] theorem holdingIn_nil : holdingIn [] = ⊥ := rfl

@[simp] theorem holdingIn_cons (tree : Tree) (rest : List Tree) :
    holdingIn (tree :: rest) = tree.holding ⊔ holdingIn rest := rfl

@[simp] theorem holdingAmong_nil : holdingAmong [] = ⊥ := rfl

@[simp] theorem holdingAmong_cons (trees : List Tree) (rest : List (List Tree)) :
    holdingAmong (trees :: rest) = holdingIn trees ⊔ holdingAmong rest := rfl

@[simp] theorem holdingIn_append :
    holdingIn (trees ++ more) = holdingIn trees ⊔ holdingIn more := by
  induction trees with
  | nil => simp
  | cons tree trees ih => simp [ih, sup_assoc]

@[simp] theorem holdingIn_reverse : holdingIn trees.reverse = holdingIn trees := by
  induction trees with
  | nil => rfl
  | cons tree trees ih => simp [ih, sup_comm]

/-- Trees hold together what those with a property and those without hold. -/
theorem holdingIn_partition {α : Type} (f : α → Tree) (p : α → Bool) (items : List α) :
    holdingIn ((items.partition p).2.map f) ⊔ holdingIn ((items.partition p).1.map f) =
      holdingIn (items.map f) := by
  rw [List.partition_eq_filter_filter]
  induction items with
  | nil => rfl
  | cons item items ih =>
      cases holds : p item <;> simp [holds, ← ih, sup_assoc, sup_left_comm]

theorem holdingIn_flatten (blocks : List (List Tree)) :
    holdingIn blocks.flatten = holdingAmong blocks := by
  induction blocks with
  | nil => rfl
  | cons trees blocks ih => simp [ih]

/-- A node holds what its parts hold, unless it has to do with formatted literals. -/
@[simp] theorem holding_node (noLiteral : form ≠ .joined)
    (noField : ∀ conversion, form ≠ .interpolation conversion) (parts : List (List Tree)) :
    (node form parts).holding = holdingAmong parts := by
  have closed : closedLiteral? form = none := by
    cases form <;> first | rfl | exact absurd rfl noLiteral
  have found : foundField? form = none := by
    cases form <;> first | rfl | exact absurd rfl (noField _)
  simp only [holding, hasSlice, hasField, finds, closed, found, Option.getD_none, holdingAmong]

@[simp] theorem holding_name (id : String) (context : Context) : (name id context).holding = ⊥ := rfl

@[simp] theorem holding_constant (value : Constant) : (constant value).holding = ⊥ := rfl

@[simp] theorem holding_parameter (id : String) (hint : List Tree) :
    (parameter id hint).holding = holdingIn hint := rfl

@[simp] theorem holding_comprehension (kind : ComprehensionKind) (results clauses : List Tree) :
    (comprehension kind results clauses).holding = holdingIn results ⊔ holdingIn clauses := rfl

@[simp] theorem holding_clause (isAsync : Bool) (target iterable : Tree) (conditions : List Tree) :
    (clause isAsync target iterable conditions).holding =
      target.holding ⊔ iterable.holding ⊔ holdingIn conditions := rfl

@[simp] theorem holding_module (body : List Tree) : (module body).holding = holdingIn body := rfl

@[simp] theorem holding_lambda (layout : ParameterLayout)
    (parameters defaults keywordDefaults : List Tree) (body : Tree) :
    (lambda layout parameters defaults keywordDefaults body).holding =
      holdingIn parameters ⊔ holdingIn defaults ⊔ holdingIn keywordDefaults ⊔ body.holding := rfl

@[simp] theorem holding_loop (isAsync : Bool) (target iterable : Tree)
    (body alternative : List Tree) :
    (loop isAsync target iterable body alternative).holding =
      target.holding ⊔ iterable.holding ⊔ holdingIn body ⊔ holdingIn alternative := rfl

@[simp] theorem holding_function (isAsync : Bool) (id : String) (layout : ParameterLayout)
    (decorators parameters defaults keywordDefaults returns body : List Tree) :
    (function isAsync id layout decorators parameters defaults keywordDefaults returns
      body).holding =
      holdingIn decorators ⊔ holdingIn parameters ⊔ holdingIn defaults ⊔
        holdingIn keywordDefaults ⊔ holdingIn returns ⊔ holdingIn body := rfl

@[simp] theorem holding_classDef (id : String) (decorators bases keywords body : List Tree) :
    (classDef id decorators bases keywords body).holding =
      holdingIn decorators ⊔ holdingIn bases ⊔ holdingIn keywords ⊔ holdingIn body := rfl

/-- A slice is found by itself; its bounds may hold fields. -/
theorem holding_slice (lower upper step : List Tree) : (slice lower upper step).holding =
    holdingIn lower ⊔ holdingIn upper ⊔ holdingIn step ⊔ (true, false) := by
  simp [holding, hasSlice, hasField, finds, holdingIn]

/-- A formatted literal holds only fields. -/
theorem holding_joined (parts : List (List Tree)) :
    (node .joined parts).holding = (false, (holdingAmong parts).2) := rfl

end Parts

/-! ### Targets -/

open Rule

section Targets

variable {context : Context}

mutual

/-- A target holds what it held as an expression. -/
theorem holding_retarget : (tree found : Tree) → retarget? context tree = some found →
    found.holding = tree.holding
  | .node form parts, found, same => by
      cases form
      case starred =>
        rw [retarget?] at same
        split at same
        · cases same
        · obtain ⟨others, targets, rfl⟩ := Option.map_eq_some_iff.mp same
          exact holdingAmong_retargetParts parts others targets
      case tuple | list =>
        obtain ⟨others, targets, rfl⟩ := Option.map_eq_some_iff.mp same
        exact holdingAmong_retargetParts parts others targets
      all_goals cases same <;> rfl
  | .name _ _, _, same => by
      cases same
      rfl
  | .constant _, _, same | .slice _ _ _, _, same | .parameter _ _, _, same
  | .lambda _ _ _ _ _, _, same | .function _ _ _ _ _ _ _ _ _, _, same
  | .classDef _ _ _ _ _, _, same | .comprehension _ _ _, _, same | .clause _ _ _ _, _, same
  | .loop _ _ _ _ _, _, same | .module _, _, same | .expression _, _, same => by cases same

theorem holdingIn_retargetAll : (trees found : List Tree) →
    retargetAll? context trees = some found → holdingIn found = holdingIn trees
  | [], _, same => by
      cases same
      rfl
  | tree :: rest, found, same => by
      rw [retargetAll?] at same
      split at same
      · next first others head tail =>
          cases same
          rw [holdingIn_cons, holdingIn_cons, holding_retarget tree first head,
            holdingIn_retargetAll rest others tail]
      · cases same

theorem holdingAmong_retargetParts : (parts found : List (List Tree)) →
    retargetParts? context parts = some found → holdingAmong found = holdingAmong parts
  | [], _, same => by
      cases same
      rfl
  | trees :: rest, found, same => by
      rw [retargetParts?] at same
      split at same
      · next first others head tail =>
          cases same
          rw [holdingAmong_cons, holdingAmong_cons, holdingIn_retargetAll trees first head,
            holdingAmong_retargetParts rest others tail]
      · cases same

end

theorem holding_retargetSingle {tree found : Tree} (same : retargetSingle? tree = some found) :
    found.holding = tree.holding := by
  unfold retargetSingle? at same
  split at same
  · exact holding_retarget _ _ same
  · exact holding_retarget _ _ same
  · exact holding_retarget _ _ same
  · cases same

end Targets

end Tree
end Snippet
end AnswerKey
