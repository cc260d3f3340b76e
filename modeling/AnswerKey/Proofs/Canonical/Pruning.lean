import AnswerKey.Proofs.Canonical.Renaming

namespace AnswerKey
namespace Snippet
namespace Canonical

/-!
The canonical form as two passes.

A visit replaces names, drops bounds of slices and leaves out documentation in one walk.  The
first has nothing to do with the other two: a visit under any options is the visit that only
replaces names, followed by `prune`, which knows no scopes (`visit_eq_prune`).  What is pruned
holds no name, so pruning changes no event of the walk (`walk_prune`), and the names that stand
in a canonical form are the same whatever else is left out (`occurrences_walk_ofTree_eq`).
-/

/-! ### Pruning -/

/-- The bounds of a slice without those that the options drop. -/
def pruneBounds (options : Options) (lower upper step : List Tree) :
    List Tree × List Tree × List Tree :=
  if options.normalizeSlices then simplifySlice lower upper step else (lower, upper, step)

mutual

/-- A tree without the bounds and the documentation that the options leave out. -/
def prune (options : Options) : Tree → Tree
  | .name id context => .name id context
  | .constant value => .constant value
  | .slice lower upper step =>
      let bounds := pruneBounds options (pruneAll options lower) (pruneAll options upper)
        (pruneAll options step)
      .slice bounds.1 bounds.2.1 bounds.2.2
  | .parameter id hint => .parameter id (pruneAll options hint)
  | .lambda layout parameters defaults keywordDefaults body =>
      .lambda layout (pruneAll options parameters) (pruneAll options defaults)
        (pruneAll options keywordDefaults) (prune options body)
  | .function isAsync id layout decorators parameters defaults keywordDefaults returns body =>
      .function isAsync id layout (pruneAll options decorators) (pruneAll options parameters)
        (pruneAll options defaults) (pruneAll options keywordDefaults) (pruneAll options returns)
        (pruneBody options options.ignoreDocstrings body)
  | .classDef id decorators bases keywords body =>
      .classDef id (pruneAll options decorators) (pruneAll options bases)
        (pruneAll options keywords) (pruneBody options options.ignoreDocstrings body)
  | .comprehension kind results clauses =>
      .comprehension kind (pruneAll options results) (pruneAll options clauses)
  | .clause isAsync target iterable conditions =>
      .clause isAsync (pruneTarget options target) (prune options iterable)
        (pruneAll options conditions)
  | .loop isAsync target iterable body alternative =>
      .loop isAsync (pruneTarget options target) (prune options iterable) (pruneAll options body)
        (pruneAll options alternative)
  | .module body =>
      .module (pruneBody options (options.ignoreDocstrings && body.length > 1) body)
  | .expression body => .expression (prune options body)
  | .node form parts => .node form (pruneParts options parts)

/-- Prune some trees. -/
def pruneAll (options : Options) : List Tree → List Tree
  | [] => []
  | tree :: rest => prune options tree :: pruneAll options rest

/-- Prune the trees of some positions. -/
def pruneParts (options : Options) : List (List Tree) → List (List Tree)
  | [] => []
  | trees :: rest => pruneAll options trees :: pruneParts options rest

/-- Prune the statements of a body, and leave out a leading documentation string if asked to. -/
def pruneBody (options : Options) (strip : Bool) : List Tree → List Tree
  | [] => []
  | first :: rest =>
      if strip && isDocstring first then pruneAll options rest
      else prune options first :: pruneAll options rest

/-- Prune a target. -/
def pruneTarget (options : Options) : Tree → Tree
  | .node (.tuple context) parts => .node (.tuple context) (pruneTargetParts options parts)
  | .node (.list context) parts => .node (.list context) (pruneTargetParts options parts)
  | .node (.starred context) parts => .node (.starred context) (pruneTargetParts options parts)
  | .node form parts => .node form (pruneParts options parts)
  | tree => tree

/-- Prune some targets. -/
def pruneTargets (options : Options) : List Tree → List Tree
  | [] => []
  | target :: rest => pruneTarget options target :: pruneTargets options rest

/-- Prune the targets of some positions. -/
def pruneTargetParts (options : Options) : List (List Tree) → List (List Tree)
  | [] => []
  | targets :: rest => pruneTargets options targets :: pruneTargetParts options rest

end

/-! ### Documentation strings -/

theorem exists_visit_slice (options : Options) (lower upper step : List Tree) (scopes : Scopes) :
    ∃ newLower newUpper newStep,
      ((visit options (.slice lower upper step)).run scopes).1 =
        .slice newLower newUpper newStep := by
  cases on : options.normalizeSlices <;>
    simp only [visit, on, Bool.false_eq_true, if_false, if_true] <;>
    exact ⟨_, _, _, rfl⟩

/-- A visit does not make a literal of anything else. -/
theorem eq_constant_of_visit {options : Options} {tree : Tree} {scopes : Scopes} {value : Constant}
    (visited : ((visit options tree).run scopes).1 = .constant value) : tree = .constant value := by
  cases tree with
  | constant other =>
      rw [visit] at visited
      exact visited
  | slice lower upper step =>
      rcases exists_visit_slice options lower upper step scopes with ⟨_, _, _, slice⟩
      cases slice.symm.trans visited
  | _ =>
      rw [visit] at visited
      cases visited

/-- One visited tree comes of one tree. -/
theorem eq_singleton_of_visitParts {options : Options} {parts : List (List Tree)}
    {scopes : Scopes} {value : Constant}
    (visited : ((visitParts options parts).run scopes).1 = [[.constant value]]) :
    parts = [[.constant value]] := by
  rcases parts with _ | ⟨_ | ⟨tree, _ | ⟨second, more⟩⟩, _ | ⟨trees, others⟩⟩ <;>
    simp only [visitParts, visitAll, run_then, run_done, List.cons.injEq, reduceCtorEq, and_true,
      and_false] at visited
  rw [eq_constant_of_visit visited]

theorem exists_eq_docstring {tree : Tree} (docstring : isDocstring tree = true) :
    ∃ codes marked, tree = .node .expr [[.constant (.str codes marked)]] := by
  unfold isDocstring at docstring
  split at docstring
  · exact ⟨_, _, rfl⟩
  · cases docstring

/-- A documentation string is visited without any effect. -/
theorem visit_docstring (options : Options) {tree : Tree} (docstring : isDocstring tree = true)
    (scopes : Scopes) : (visit options tree).run scopes = (tree, scopes) := by
  rcases exists_eq_docstring docstring with ⟨codes, marked, rfl⟩
  simp only [visit, visitParts, visitAll, pure_bind]
  rfl

/-- A visit does not make a documentation string of anything else. -/
theorem isDocstring_visit (options : Options) (tree : Tree) (scopes : Scopes) :
    isDocstring ((visit options tree).run scopes).1 = isDocstring tree := by
  cases docstring : isDocstring tree with
  | true => rw [visit_docstring options docstring scopes, docstring]
  | false =>
      apply Bool.eq_false_iff.mpr
      intro visited
      rcases exists_eq_docstring visited with ⟨codes, marked, same⟩
      cases tree with
      | node form parts =>
          simp only [visit, run_then, run_done, Tree.node.injEq] at same
          rw [same.1, eq_singleton_of_visitParts same.2] at docstring
          cases docstring
      | slice lower upper step =>
          rcases exists_visit_slice options lower upper step scopes with ⟨_, _, _, slice⟩
          cases slice.symm.trans same
      | _ =>
          rw [visit] at same
          cases same

/-! ### Renaming first, pruning afterwards -/

section Passes

variable (options : Options)

/-- Parameters are bound before or after pruning. -/
theorem bindParameters_prune (parameters : List Tree) (scopes : Scopes) :
    (bindParameters options (pruneAll options parameters)).run scopes =
      (pruneAll options
          ((bindParameters (.namesOnly options.renameLocals) parameters).run scopes).1,
        ((bindParameters (.namesOnly options.renameLocals) parameters).run scopes).2) := by
  induction parameters generalizing scopes with
  | nil => rfl
  | cons tree rest ih =>
      have bound (id : String) : Scopes.bind options id =
          Scopes.bind (.namesOnly options.renameLocals) id := rfl
      cases tree <;>
        simp only [pruneAll, prune, bindParameters, run_then, run_done, ih, bound]

theorem length_visitAll (trees : List Tree) (scopes : Scopes) :
    ((visitAll options trees).run scopes).1.length = trees.length := by
  induction trees generalizing scopes with
  | nil => rfl
  | cons tree rest ih => simp only [visitAll, run_then, run_done, List.length_cons, ih]

mutual

/-- A visit under any options is a visit that only replaces names, followed by pruning. -/
theorem visit_eq_prune (tree : Tree) (scopes : Scopes) :
    (visit options tree).run scopes =
      (prune options ((visit (.namesOnly options.renameLocals) tree).run scopes).1,
        ((visit (.namesOnly options.renameLocals) tree).run scopes).2) := by
  cases tree with
  | name id context => simp only [visit, run_then, run_done, prune]
  | constant value => simp only [visit, run_done, prune]
  | slice lower upper step =>
      cases on : options.normalizeSlices <;>
        simp only [visit, run_then, run_done, prune, pruneBounds, on, visitAll_eq_prune,
          Options.namesOnly, Bool.false_eq_true, if_false, if_true]
  | parameter id hint => simp only [visit, run_then, run_done, prune, visitAll_eq_prune]
  | lambda layout parameters defaults keywordDefaults body =>
      simp only [visit, run_then, run_done, prune, visitAll_eq_prune, visit_eq_prune body,
        bindParameters_prune]
  | function isAsync id layout decorators parameters defaults keywordDefaults returns body =>
      simp only [visit, run_then, run_done, prune, visitAll_eq_prune, bindParameters_prune,
        visitBody_eq_prune body, Options.namesOnly, visitBody_keep]
  | classDef id decorators bases keywords body =>
      simp only [visit, run_then, run_done, prune, visitAll_eq_prune, visitBody_eq_prune body,
        Options.namesOnly, visitBody_keep]
  | comprehension kind results clauses =>
      have ofClauses := visitAll_eq_prune clauses
      cases clauses with
      | nil =>
          simp only [visit, visitFirstIterable, visitClauses_none, run_then, run_done, prune,
            ofClauses, visitAll_eq_prune results]
      | cons first rest =>
          cases first with
          | clause isAsync target iterable conditions =>
              simp only [visit, visitFirstIterable, visitClauses, visitClauses_none, run_then,
                run_done, prune, pruneAll, visit_eq_prune iterable, bindTarget_eq_prune target,
                visitAll_eq_prune conditions, visitAll_eq_prune rest, visitAll_eq_prune results]
          | _ =>
              simp only [visit, visitFirstIterable, visitClauses_none, run_then, run_done, prune,
                ofClauses, visitAll_eq_prune results]
  | clause isAsync target iterable conditions =>
      simp only [visit, run_then, run_done, prune, visit_eq_prune iterable,
        bindTarget_eq_prune target, visitAll_eq_prune]
  | loop isAsync target iterable body alternative =>
      simp only [visit, run_then, run_done, prune, visit_eq_prune iterable,
        bindTarget_eq_prune target, visitAll_eq_prune]
  | module body =>
      simp only [visit, run_then, run_done, prune, visitBody_eq_prune body, Options.namesOnly,
        visitBody_keep, length_visitAll, Bool.false_and]
  | expression body => simp only [visit, run_then, run_done, prune, visit_eq_prune body]
  | node form parts => simp only [visit, run_then, run_done, prune, visitParts_eq_prune]

theorem visitAll_eq_prune (trees : List Tree) (scopes : Scopes) :
    (visitAll options trees).run scopes =
      (pruneAll options ((visitAll (.namesOnly options.renameLocals) trees).run scopes).1,
        ((visitAll (.namesOnly options.renameLocals) trees).run scopes).2) := by
  cases trees with
  | nil => simp only [visitAll, run_done, pruneAll]
  | cons tree rest =>
      simp only [visitAll, run_then, run_done, pruneAll, visit_eq_prune tree,
        visitAll_eq_prune rest]

theorem visitBody_eq_prune (body : List Tree) (strip : Bool) (scopes : Scopes) :
    (visitBody options strip body).run scopes =
      (pruneBody options strip ((visitAll (.namesOnly options.renameLocals) body).run scopes).1,
        ((visitAll (.namesOnly options.renameLocals) body).run scopes).2) := by
  cases body with
  | nil => simp only [visitBody, visitAll, run_done, pruneBody]
  | cons first rest =>
      simp only [visitBody, visitAll, run_then, run_done, pruneBody, isDocstring_visit]
      cases stripped : strip && isDocstring first with
      | true =>
          have docstring : isDocstring first = true := (Bool.and_eq_true_iff.mp stripped).2
          simp only [if_true, visit_docstring _ docstring, visitAll_eq_prune rest]
      | false =>
          simp only [Bool.false_eq_true, if_false, run_then, run_done, visit_eq_prune first,
            visitAll_eq_prune rest]

theorem visitParts_eq_prune (parts : List (List Tree)) (scopes : Scopes) :
    (visitParts options parts).run scopes =
      (pruneParts options ((visitParts (.namesOnly options.renameLocals) parts).run scopes).1,
        ((visitParts (.namesOnly options.renameLocals) parts).run scopes).2) := by
  cases parts with
  | nil => simp only [visitParts, run_done, pruneParts]
  | cons trees rest =>
      simp only [visitParts, run_then, run_done, pruneParts, visitAll_eq_prune trees,
        visitParts_eq_prune rest]

theorem bindTarget_eq_prune (target : Tree) (scopes : Scopes) :
    (bindTarget options target).run scopes =
      (pruneTarget options ((bindTarget (.namesOnly options.renameLocals) target).run scopes).1,
        ((bindTarget (.namesOnly options.renameLocals) target).run scopes).2) := by
  have bound (id : String) : Scopes.bind options id =
      Scopes.bind (.namesOnly options.renameLocals) id := rfl
  cases target with
  | name id context => simp only [bindTarget, run_then, run_done, pruneTarget, bound]
  | node form parts =>
      cases form <;>
        simp only [bindTarget, run_then, run_done, pruneTarget, bindTargetParts_eq_prune,
          visitParts_eq_prune]
  | _ => simp only [bindTarget, run_done, pruneTarget]

theorem bindTargets_eq_prune (targets : List Tree) (scopes : Scopes) :
    (bindTargets options targets).run scopes =
      (pruneTargets options ((bindTargets (.namesOnly options.renameLocals) targets).run scopes).1,
        ((bindTargets (.namesOnly options.renameLocals) targets).run scopes).2) := by
  cases targets with
  | nil => simp only [bindTargets, run_done, pruneTargets]
  | cons target rest =>
      simp only [bindTargets, run_then, run_done, pruneTargets, bindTarget_eq_prune target,
        bindTargets_eq_prune rest]

theorem bindTargetParts_eq_prune (parts : List (List Tree)) (scopes : Scopes) :
    (bindTargetParts options parts).run scopes =
      (pruneTargetParts options
          ((bindTargetParts (.namesOnly options.renameLocals) parts).run scopes).1,
        ((bindTargetParts (.namesOnly options.renameLocals) parts).run scopes).2) := by
  cases parts with
  | nil => simp only [bindTargetParts, run_done, pruneTargetParts]
  | cons targets rest =>
      simp only [bindTargetParts, run_then, run_done, pruneTargetParts,
        bindTargets_eq_prune targets, bindTargetParts_eq_prune rest]

end

/-- The canonical form under any options is the renamed tree, pruned. -/
theorem ofTree_eq_prune (tree : Tree) :
    ofTree options tree = prune options (ofTree (.namesOnly options.renameLocals) tree) :=
  congrArg Prod.fst (visit_eq_prune options tree .empty)

end Passes

/-! ### Trees whose bounds are single -/

mutual

/-- Whether every bound of every slice is at most one tree, as it is in every tree that is read. -/
def singleBounds : Tree → Bool
  | .name _ _ => true
  | .constant _ => true
  | .slice lower upper step =>
      decide (lower.length ≤ 1) && decide (upper.length ≤ 1) && decide (step.length ≤ 1) &&
        singleBoundsAll lower && singleBoundsAll upper && singleBoundsAll step
  | .parameter _ hint => singleBoundsAll hint
  | .lambda _ parameters defaults keywordDefaults body =>
      singleBoundsAll parameters && singleBoundsAll defaults && singleBoundsAll keywordDefaults &&
        singleBounds body
  | .function _ _ _ decorators parameters defaults keywordDefaults returns body =>
      singleBoundsAll decorators && singleBoundsAll parameters && singleBoundsAll defaults &&
        singleBoundsAll keywordDefaults && singleBoundsAll returns && singleBoundsAll body
  | .classDef _ decorators bases keywords body =>
      singleBoundsAll decorators && singleBoundsAll bases && singleBoundsAll keywords &&
        singleBoundsAll body
  | .comprehension _ results clauses => singleBoundsAll results && singleBoundsAll clauses
  | .clause _ target iterable conditions =>
      singleBounds target && singleBounds iterable && singleBoundsAll conditions
  | .loop _ target iterable body alternative =>
      singleBounds target && singleBounds iterable && singleBoundsAll body &&
        singleBoundsAll alternative
  | .module body => singleBoundsAll body
  | .expression body => singleBounds body
  | .node _ parts => singleBoundsParts parts

/-- The same for some trees. -/
def singleBoundsAll : List Tree → Bool
  | [] => true
  | tree :: rest => singleBounds tree && singleBoundsAll rest

/-- The same for the trees of some positions. -/
def singleBoundsParts : List (List Tree) → Bool
  | [] => true
  | trees :: rest => singleBoundsAll trees && singleBoundsParts rest

end

/-! ### What is pruned holds no name -/

section Pruned

variable (options : Options)

/-- What is taken for an absent bound is a literal. -/
def OnlyLiterals (isDefault : Tree → Bool) : Prop :=
  ∀ tree, isDefault tree = true → ∃ value, tree = .constant value

theorem onlyLiterals_isNone : OnlyLiterals isNone := by
  intro tree given
  unfold isNone at given
  split at given
  · exact ⟨_, rfl⟩
  · cases given

theorem onlyLiterals_isInt (number : Nat) :
    OnlyLiterals fun tree => isInt number tree || isNone tree := by
  intro tree given
  rcases Bool.or_eq_true_iff.mp given with int | none
  · unfold isInt at int
    split at int
    · exact ⟨_, rfl⟩
    · cases int
  · exact onlyLiterals_isNone tree none

theorem walkAll_dropBound {isDefault : Tree → Bool} (literals : OnlyLiterals isDefault)
    {bound : List Tree} (single : bound.length ≤ 1) :
    walkAll (dropBound isDefault bound) = walkAll bound := by
  rw [dropBound]
  split
  · next dropped =>
      match bound with
      | [] => rfl
      | [tree] =>
          rw [List.any_cons, List.any_nil, Bool.or_false] at dropped
          rcases literals tree dropped with ⟨value, rfl⟩
          rfl
      | _ :: _ :: _ => simp at single
  · rfl

theorem length_pruneAll (trees : List Tree) :
    (pruneAll options trees).length = trees.length := by
  induction trees with
  | nil => rfl
  | cons tree rest ih => rw [pruneAll, List.length_cons, List.length_cons, ih]

theorem walkAll_pruneBounds (lower upper step : List Tree) (single : lower.length ≤ 1 ∧
    upper.length ≤ 1 ∧ step.length ≤ 1) :
    walkAll (pruneBounds options lower upper step).1 = walkAll lower ∧
      walkAll (pruneBounds options lower upper step).2.1 = walkAll upper ∧
        walkAll (pruneBounds options lower upper step).2.2 = walkAll step := by
  rw [pruneBounds]
  split
  · exact ⟨walkAll_dropBound (onlyLiterals_isInt 0) single.1,
      walkAll_dropBound onlyLiterals_isNone single.2.1,
      walkAll_dropBound (onlyLiterals_isInt 1) single.2.2⟩
  · exact ⟨rfl, rfl, rfl⟩

theorem parameterEvents_pruneAll (parameters : List Tree) :
    (pruneAll options parameters).flatMap parameterEvent = parameters.flatMap parameterEvent := by
  induction parameters with
  | nil => rfl
  | cons tree rest ih =>
      cases tree <;> simp only [pruneAll, prune, List.flatMap_cons, parameterEvent, ih]

theorem walk_comprehension_congr (kind : ComprehensionKind)
    {results otherResults clauses otherClauses : List Tree}
    (sameFirst : walkFirstIterable clauses = walkFirstIterable otherClauses)
    (sameClauses : walkClauses clauses = walkClauses otherClauses)
    (sameResults : walkAll results = walkAll otherResults) :
    walk (.comprehension kind results clauses) =
      walk (.comprehension kind otherResults otherClauses) := by
  simp only [walk, sameFirst, sameClauses, sameResults]

mutual

/-- Pruning changes nothing about names and scopes. -/
theorem walk_prune (tree : Tree) (single : singleBounds tree = true) :
    walk (prune options tree) = walk tree := by
  cases tree with
  | name id context => rfl
  | constant value => rfl
  | slice lower upper step =>
      simp only [singleBounds, Bool.and_eq_true, decide_eq_true_eq] at single
      have bounds := walkAll_pruneBounds options (pruneAll options lower)
        (pruneAll options upper) (pruneAll options step)
        (by simpa only [length_pruneAll] using ⟨single.1.1.1.1.1, single.1.1.1.1.2, single.1.1.1.2⟩)
      simp only [prune, walk, bounds, walkAll_prune _ single.1.1.2, walkAll_prune _ single.1.2,
        walkAll_prune _ single.2]
  | parameter id hint => simp only [prune, walk, walkAll_prune hint single]
  | lambda layout parameters defaults keywordDefaults body =>
      simp only [singleBounds, Bool.and_eq_true] at single
      simp only [prune, walk, parameterEvents_pruneAll, walkAll_prune _ single.1.1.1,
        walkAll_prune _ single.1.1.2, walkAll_prune _ single.1.2, walk_prune body single.2]
  | function isAsync id layout decorators parameters defaults keywordDefaults returns body =>
      simp only [singleBounds, Bool.and_eq_true] at single
      simp only [prune, walk, parameterEvents_pruneAll, walkAll_prune _ single.1.1.1.1.1,
        walkAll_prune _ single.1.1.1.1.2, walkAll_prune _ single.1.1.1.2,
        walkAll_prune _ single.1.1.2, walkAll_prune _ single.1.2, walkBody_prune body _ single.2]
  | classDef id decorators bases keywords body =>
      simp only [singleBounds, Bool.and_eq_true] at single
      simp only [prune, walk, walkAll_prune _ single.1.1.1, walkAll_prune _ single.1.1.2,
        walkAll_prune _ single.1.2, walkBody_prune body _ single.2]
  | comprehension kind results clauses =>
      simp only [singleBounds, Bool.and_eq_true] at single
      have ofResults := walkAll_prune results single.1
      have ofClauses := walkAll_prune clauses single.2
      cases clauses with
      | nil => exact walk_comprehension_congr kind rfl ofClauses ofResults
      | cons first rest =>
          cases first with
          | clause isAsync target iterable conditions =>
              simp only [singleBoundsAll, singleBounds, Bool.and_eq_true] at single
              simp only [prune, pruneAll, walk, walkFirstIterable, walkClauses, ofResults,
                walk_prune iterable single.2.1.1.2, walkTarget_prune target single.2.1.1.1,
                walkAll_prune conditions single.2.1.2, walkAll_prune rest single.2.2]
          | _ => exact walk_comprehension_congr kind rfl ofClauses ofResults
  | clause isAsync target iterable conditions =>
      simp only [singleBounds, Bool.and_eq_true] at single
      simp only [prune, walk, walkTarget_prune target single.1.1, walk_prune iterable single.1.2,
        walkAll_prune conditions single.2]
  | loop isAsync target iterable body alternative =>
      simp only [singleBounds, Bool.and_eq_true] at single
      simp only [prune, walk, walkTarget_prune target single.1.1.1,
        walk_prune iterable single.1.1.2, walkAll_prune body single.1.2,
        walkAll_prune alternative single.2]
  | module body => simp only [prune, walk, walkBody_prune body _ single]
  | expression body => simp only [prune, walk, walk_prune body single]
  | node form parts => simp only [prune, walk, walkParts_prune parts single]

theorem walkAll_prune (trees : List Tree) (single : singleBoundsAll trees = true) :
    walkAll (pruneAll options trees) = walkAll trees := by
  cases trees with
  | nil => rfl
  | cons tree rest =>
      rw [singleBoundsAll, Bool.and_eq_true] at single
      rw [pruneAll, walkAll, walkAll, walk_prune tree single.1, walkAll_prune rest single.2]

theorem walkBody_prune (body : List Tree) (strip : Bool) (single : singleBoundsAll body = true) :
    walkAll (pruneBody options strip body) = walkAll body := by
  cases body with
  | nil => rfl
  | cons first rest =>
      rw [singleBoundsAll, Bool.and_eq_true] at single
      rw [pruneBody]
      split
      · next stripped =>
          rcases exists_eq_docstring (Bool.and_eq_true_iff.mp stripped).2 with ⟨codes, marked, rfl⟩
          rw [walkAll_prune rest single.2]
          rfl
      · rw [walkAll, walkAll, walk_prune first single.1, walkAll_prune rest single.2]

theorem walkParts_prune (parts : List (List Tree)) (single : singleBoundsParts parts = true) :
    walkParts (pruneParts options parts) = walkParts parts := by
  cases parts with
  | nil => rfl
  | cons trees rest =>
      rw [singleBoundsParts, Bool.and_eq_true] at single
      rw [pruneParts, walkParts, walkParts, walkAll_prune trees single.1,
        walkParts_prune rest single.2]

theorem walkTarget_prune (target : Tree) (single : singleBounds target = true) :
    walkTarget (pruneTarget options target) = walkTarget target := by
  cases target with
  | node form parts =>
      rw [singleBounds] at single
      cases form <;>
        simp only [pruneTarget, walkTarget, walkTargetParts_prune parts single,
          walkParts_prune parts single]
  | _ => rfl

theorem walkTargets_prune (targets : List Tree) (single : singleBoundsAll targets = true) :
    walkTargets (pruneTargets options targets) = walkTargets targets := by
  cases targets with
  | nil => rfl
  | cons target rest =>
      rw [singleBoundsAll, Bool.and_eq_true] at single
      rw [pruneTargets, walkTargets, walkTargets, walkTarget_prune target single.1,
        walkTargets_prune rest single.2]

theorem walkTargetParts_prune (parts : List (List Tree))
    (single : singleBoundsParts parts = true) :
    walkTargetParts (pruneTargetParts options parts) = walkTargetParts parts := by
  cases parts with
  | nil => rfl
  | cons targets rest =>
      rw [singleBoundsParts, Bool.and_eq_true] at single
      rw [pruneTargetParts, walkTargetParts, walkTargetParts, walkTargets_prune targets single.1,
        walkTargetParts_prune rest single.2]

end

end Pruned

/-! ### The names of a canonical form -/

theorem length_fillAll (trees : List Tree) (names : List String) :
    ((fillAll trees).run names).1.length = trees.length := by
  induction trees generalizing names with
  | nil => rfl
  | cons tree rest ih => simp only [fillAll, run_then, run_done, List.length_cons, ih]

theorem singleBoundsAll_fillParameters (trees : List Tree) (names : List String) :
    singleBoundsAll ((fillParameters trees).run names).1 = singleBoundsAll trees := by
  induction trees generalizing names with
  | nil => rfl
  | cons tree rest ih =>
      cases tree <;>
        simp only [fillParameters, run_then, run_done, singleBoundsAll, singleBounds, ih]

mutual

/-- Other names leave the bounds of slices as single as they are. -/
theorem singleBounds_fill (tree : Tree) (names : List String) :
    singleBounds ((fill tree).run names).1 = singleBounds tree := by
  cases tree with
  | name id context => rfl
  | constant value => rfl
  | slice lower upper step =>
      simp only [fill, run_then, run_done, singleBounds, length_fillAll, singleBoundsAll_fill]
  | parameter id hint => simp only [fill, run_then, run_done, singleBounds, singleBoundsAll_fill]
  | lambda layout parameters defaults keywordDefaults body =>
      simp only [fill, run_then, run_done, singleBounds, singleBoundsAll_fillParameters,
        singleBoundsAll_fill, singleBounds_fill body]
  | function isAsync id layout decorators parameters defaults keywordDefaults returns body =>
      simp only [fill, run_then, run_done, singleBounds, singleBoundsAll_fillParameters,
        singleBoundsAll_fill]
  | classDef id decorators bases keywords body =>
      simp only [fill, run_then, run_done, singleBounds, singleBoundsAll_fill]
  | comprehension kind results clauses =>
      simp only [fill, run_then, run_done, singleBounds, singleBoundsAll_fill]
  | clause isAsync target iterable conditions =>
      simp only [fill, run_then, run_done, singleBounds, singleBoundsAll_fill,
        singleBounds_fill iterable, singleBounds_fillTarget target]
  | loop isAsync target iterable body alternative =>
      simp only [fill, run_then, run_done, singleBounds, singleBoundsAll_fill,
        singleBounds_fill iterable, singleBounds_fillTarget target]
  | module body => simp only [fill, run_then, run_done, singleBounds, singleBoundsAll_fill]
  | expression body => simp only [fill, run_then, run_done, singleBounds, singleBounds_fill body]
  | node form parts => simp only [fill, run_then, run_done, singleBounds, singleBoundsParts_fill]

theorem singleBoundsAll_fill (trees : List Tree) (names : List String) :
    singleBoundsAll ((fillAll trees).run names).1 = singleBoundsAll trees := by
  cases trees with
  | nil => rfl
  | cons tree rest =>
      simp only [fillAll, run_then, run_done, singleBoundsAll, singleBounds_fill tree,
        singleBoundsAll_fill rest]

theorem singleBoundsParts_fill (parts : List (List Tree)) (names : List String) :
    singleBoundsParts ((fillParts parts).run names).1 = singleBoundsParts parts := by
  cases parts with
  | nil => rfl
  | cons trees rest =>
      simp only [fillParts, run_then, run_done, singleBoundsParts, singleBoundsAll_fill trees,
        singleBoundsParts_fill rest]

theorem singleBounds_fillTarget (target : Tree) (names : List String) :
    singleBounds ((fillTarget target).run names).1 = singleBounds target := by
  cases target with
  | node form parts =>
      cases form <;>
        simp only [fillTarget, run_then, run_done, singleBounds, singleBoundsParts_fillTarget,
          singleBoundsParts_fill]
  | _ => rfl

theorem singleBoundsAll_fillTargets (targets : List Tree) (names : List String) :
    singleBoundsAll ((fillTargets targets).run names).1 = singleBoundsAll targets := by
  cases targets with
  | nil => rfl
  | cons target rest =>
      simp only [fillTargets, run_then, run_done, singleBoundsAll, singleBounds_fillTarget target,
        singleBoundsAll_fillTargets rest]

theorem singleBoundsParts_fillTarget (parts : List (List Tree)) (names : List String) :
    singleBoundsParts ((fillTargetParts parts).run names).1 = singleBoundsParts parts := by
  cases parts with
  | nil => rfl
  | cons targets rest =>
      simp only [fillTargetParts, run_then, run_done, singleBoundsParts,
        singleBoundsAll_fillTargets targets, singleBoundsParts_fillTarget rest]

end

/-- The names that stand in a canonical form do not depend on what else is left out. -/
theorem occurrences_walk_ofTree_eq (options : Options) {tree : Tree}
    (single : singleBounds tree = true) :
    occurrences (walk (ofTree options tree)) = canonicalNames options.renameLocals tree := by
  have stillSingle : singleBounds (ofTree (.namesOnly options.renameLocals) tree) = true := by
    have filled := singleBounds_fill tree (canonicalNames options.renameLocals tree)
    rwa [fill_canonicalNames, single] at filled
  rw [ofTree_eq_prune, walk_prune options _ stillSingle, occurrences_walk_ofTree]

end Canonical
end Snippet
end AnswerKey
