import AnswerKey.Proofs.Canonical.Occurrence
import AnswerKey.Proofs.Canonical.Pruning

namespace AnswerKey
namespace Snippet
namespace Canonical

/-!
The passes of the canonical form, one after the other.

Each option switches one pass on, and the walk makes all of them at once.  They can be made one at
a time and in any order: what has been pruned is visited like the tree from which it was pruned
(`visit_prune`), and pruning twice is pruning once with the options of both (`prune_prune`).  The
only pass that sees its own work is the removal of documentation: where a body opens with two
strings, another one goes each time.
-/

/-! ### Options together -/

namespace Options

/-- What is on in one of two options. -/
def join (first second : Options) : Options :=
  ⟨first.renameLocals || second.renameLocals, first.normalizeSlices || second.normalizeSlices,
    first.ignoreDocstrings || second.ignoreDocstrings⟩

/-- Nothing is on in both. -/
def IsApart (first second : Options) : Prop :=
  (first.renameLocals && second.renameLocals) = false ∧
    (first.normalizeSlices && second.normalizeSlices) = false ∧
      (first.ignoreDocstrings && second.ignoreDocstrings) = false

theorem join_comm (first second : Options) : first.join second = second.join first := by
  simp only [join, Bool.or_comm]

theorem IsApart.symm {first second : Options} (apart : first.IsApart second) :
    second.IsApart first := by
  simpa only [IsApart, Bool.and_comm] using apart

theorem join_self (options : Options) : options.join options = options := by
  simp only [join, Bool.or_self]

end Options

/-! ### Bodies that open with two strings -/

/-- Whether a body does not open with two strings. -/
def opensOnce : List Tree → Bool
  | first :: second :: _ => !(isDocstring first && isDocstring second)
  | _ => true

mutual

/-- Whether no body of a module, a function or a class opens with two strings. -/
def undoubled : Tree → Bool
  | .name _ _ => true
  | .constant _ => true
  | .slice lower upper step => undoubledAll lower && undoubledAll upper && undoubledAll step
  | .parameter _ hint => undoubledAll hint
  | .lambda _ parameters defaults keywordDefaults body =>
      undoubledAll parameters && undoubledAll defaults && undoubledAll keywordDefaults &&
        undoubled body
  | .function _ _ _ decorators parameters defaults keywordDefaults returns body =>
      undoubledAll decorators && undoubledAll parameters && undoubledAll defaults &&
        undoubledAll keywordDefaults && undoubledAll returns && undoubledAll body && opensOnce body
  | .classDef _ decorators bases keywords body =>
      undoubledAll decorators && undoubledAll bases && undoubledAll keywords &&
        undoubledAll body && opensOnce body
  | .comprehension _ results clauses => undoubledAll results && undoubledAll clauses
  | .clause _ target iterable conditions =>
      undoubled target && undoubled iterable && undoubledAll conditions
  | .loop _ target iterable body alternative =>
      undoubled target && undoubled iterable && undoubledAll body && undoubledAll alternative
  | .module body => undoubledAll body && opensOnce body
  | .expression body => undoubled body
  | .node _ parts => undoubledParts parts

/-- The same for some trees. -/
def undoubledAll : List Tree → Bool
  | [] => true
  | tree :: rest => undoubled tree && undoubledAll rest

/-- The same for the trees of some positions. -/
def undoubledParts : List (List Tree) → Bool
  | [] => true
  | trees :: rest => undoubledAll trees && undoubledParts rest

end

/-! ### What pruning recognises -/

section Literals

variable (options : Options)

/-- Pruning does not make a literal of anything else. -/
theorem eq_constant_of_prune {tree : Tree} {value : Constant}
    (pruned : prune options tree = .constant value) : tree = .constant value := by
  cases tree with
  | constant other => rwa [prune] at pruned
  | _ =>
    rw [prune] at pruned
    cases pruned

/-- What is taken for an absent bound is the same before and after pruning. -/
theorem isDefault_prune {isDefault : Tree → Bool} (literals : OnlyLiterals isDefault)
    (tree : Tree) : isDefault (prune options tree) = isDefault tree := by
  rw [Bool.eq_iff_iff]
  constructor
  · intro given
    rcases literals _ given with ⟨value, same⟩
    rwa [same, ← eq_constant_of_prune options same] at given
  · intro given
    rcases literals _ given with ⟨value, rfl⟩
    rwa [prune]

theorem any_isDefault_pruneAll {isDefault : Tree → Bool} (literals : OnlyLiterals isDefault)
    (bound : List Tree) : (pruneAll options bound).any isDefault = bound.any isDefault := by
  induction bound with
  | nil => rfl
  | cons tree rest ih =>
      rw [pruneAll, List.any_cons, List.any_cons, isDefault_prune options literals, ih]

theorem pruneAll_dropBound {isDefault : Tree → Bool} (literals : OnlyLiterals isDefault)
    (bound : List Tree) :
    pruneAll options (dropBound isDefault bound) =
      dropBound isDefault (pruneAll options bound) := by
  rw [dropBound, dropBound, any_isDefault_pruneAll options literals]
  split
  · rfl
  · rfl

/-- Nothing is left to be dropped of a bound the second time. -/
theorem dropBound_dropBound (isDefault : Tree → Bool) (bound : List Tree) :
    dropBound isDefault (dropBound isDefault bound) = dropBound isDefault bound := by
  cases dropped : bound.any isDefault with
  | true => simp only [dropBound, dropped, if_true, List.any_nil, Bool.false_eq_true, if_false]
  | false => simp only [dropBound, dropped, Bool.false_eq_true, if_false]

/-- One pruned literal comes of one literal. -/
theorem eq_singleton_of_pruneParts {parts : List (List Tree)} {value : Constant}
    (pruned : pruneParts options parts = [[.constant value]]) : parts = [[.constant value]] := by
  rcases parts with _ | ⟨_ | ⟨tree, _ | ⟨second, more⟩⟩, _ | ⟨trees, others⟩⟩ <;>
    simp only [pruneParts, pruneAll, List.cons.injEq, reduceCtorEq, and_true, and_false] at pruned
  rw [eq_constant_of_prune options pruned]

/-- Pruning neither makes a documentation string nor does away with one by itself. -/
theorem isDocstring_prune (tree : Tree) : isDocstring (prune options tree) = isDocstring tree := by
  rw [Bool.eq_iff_iff]
  constructor
  · intro given
    rcases exists_eq_docstring given with ⟨codes, marked, same⟩
    cases tree with
    | node form parts =>
        rw [prune, Tree.node.injEq] at same
        rw [same.1, eq_singleton_of_pruneParts options same.2]
        rfl
    | _ =>
        rw [prune] at same
        cases same
  · intro given
    rcases exists_eq_docstring given with ⟨codes, marked, rfl⟩
    simp only [prune, pruneParts, pruneAll]
    rfl

/-- A body in which documentation is left alone is pruned like any other list of trees. -/
theorem pruneBody_keep (body : List Tree) :
    pruneBody options false body = pruneAll options body := by
  cases body with
  | nil => rfl
  | cons first rest => rw [pruneBody, pruneAll, Bool.false_and, if_neg Bool.false_ne_true]

/-- A body that opens with no string is pruned like any other list of trees. -/
theorem pruneBody_of_not_isDocstring (strip : Bool) {first : Tree}
    (plain : isDocstring first = false) (rest : List Tree) :
    pruneBody options strip (first :: rest) = pruneAll options (first :: rest) := by
  rw [pruneBody, pruneAll, plain, Bool.and_false, if_neg Bool.false_ne_true]

/-- A leading string is left out of a body if asked to. -/
theorem pruneBody_of_isDocstring {first : Tree} (docstring : isDocstring first = true)
    (rest : List Tree) : pruneBody options true (first :: rest) = pruneAll options rest := by
  rw [pruneBody, docstring, Bool.and_self, if_pos rfl]

end Literals

/-! ### Pruning twice -/

section Twice

variable (first second : Options)

/-- Whether a second pruning finds no documentation string that the first one has laid bare: the
first or the second one leaves documentation alone, or the tree holds nothing to be laid bare. -/
def isCalm (holds : Bool) : Bool :=
  !(first.ignoreDocstrings && second.ignoreDocstrings) || holds

theorem isCalm_and (one other : Bool) :
    isCalm first second (one && other) = (isCalm first second one && isCalm first second other) :=
  Bool.or_and_distrib_left _ _ _

theorem opens_of_isCalm {body : List Tree}
    (calm : isCalm first second (opensOnce body) = true)
    (one : first.ignoreDocstrings = true) (other : second.ignoreDocstrings = true) :
    opensOnce body = true := by
  simpa only [isCalm, one, other, Bool.and_self, Bool.not_true, Bool.false_or] using calm

/-- A slice loses the bounds that one of two prunings drops. -/
theorem prune_prune_slice {lower upper step : List Tree}
    (ofLower : pruneAll second (pruneAll first lower) = pruneAll (first.join second) lower)
    (ofUpper : pruneAll second (pruneAll first upper) = pruneAll (first.join second) upper)
    (ofStep : pruneAll second (pruneAll first step) = pruneAll (first.join second) step) :
    prune second (prune first (.slice lower upper step)) =
      prune (first.join second) (.slice lower upper step) := by
  have dropped := pruneAll_dropBound second (onlyLiterals_isInt 0)
  have droppedUpper := pruneAll_dropBound second onlyLiterals_isNone
  have droppedStep := pruneAll_dropBound second (onlyLiterals_isInt 1)
  have on : (first.join second).normalizeSlices =
      (first.normalizeSlices || second.normalizeSlices) := rfl
  cases one : first.normalizeSlices <;> cases other : second.normalizeSlices <;>
    simp only [prune, pruneBounds, on, one, other, Bool.or_self, Bool.or_true, Bool.true_or,
      Bool.false_eq_true, if_true, if_false, simplifySlice, dropped, droppedUpper, droppedStep,
      dropBound_dropBound, ofLower, ofUpper, ofStep]

/-- The statements that are left of a body after a second pruning. -/
theorem pruneBody_twice {body : List Tree} (earlier later : Bool)
    (twice : pruneAll second (pruneAll first body) = pruneAll (first.join second) body)
    (opens : earlier = true → later = true → opensOnce body = true) :
    pruneBody second later (pruneBody first earlier body) =
      pruneBody (first.join second) (earlier || later) body := by
  cases body with
  | nil => rfl
  | cons tree rest =>
      cases docstring : isDocstring tree with
      | false =>
          have still : isDocstring (prune first tree) = false := by
            rw [isDocstring_prune, docstring]
          rw [pruneBody_of_not_isDocstring first earlier docstring, pruneAll,
            pruneBody_of_not_isDocstring second later still, ← pruneAll, twice,
            pruneBody_of_not_isDocstring _ _ docstring]
      | true =>
          have still : isDocstring (prune first tree) = true := by
            rw [isDocstring_prune, docstring]
          rw [pruneAll, pruneAll, pruneAll] at twice
          have twiceRest := (List.cons.inj twice).2
          cases earlier with
          | false =>
              rw [pruneBody_keep, pruneAll, Bool.false_or]
              cases later with
              | false => rw [pruneBody_keep, pruneBody_keep, pruneAll, pruneAll, twice]
              | true =>
                  rw [pruneBody_of_isDocstring _ still, pruneBody_of_isDocstring _ docstring,
                    twiceRest]
          | true =>
              rw [pruneBody_of_isDocstring _ docstring, Bool.true_or,
                pruneBody_of_isDocstring _ docstring, ← twiceRest]
              cases later with
              | false => rw [pruneBody_keep]
              | true =>
                  cases rest with
                  | nil => rfl
                  | cons next more =>
                      have plain : isDocstring next = false := by
                        simpa only [opensOnce, docstring, Bool.true_and, Bool.not_eq_true'] using
                          opens rfl rfl
                      have stillPlain : isDocstring (prune first next) = false := by
                        rw [isDocstring_prune, plain]
                      rw [pruneAll, pruneBody_of_not_isDocstring second true stillPlain]

theorem length_pruneBody_keep (options : Options) (body : List Tree) :
    (pruneBody options false body).length = body.length := by
  rw [pruneBody_keep, length_pruneAll]

/-- A module loses its string in one of two prunings when it loses it in a pruning by both. -/
theorem strips_module (body : List Tree) :
    ((first.ignoreDocstrings && decide (body.length > 1)) ||
        (second.ignoreDocstrings && decide ((pruneBody first
          (first.ignoreDocstrings && decide (body.length > 1)) body).length > 1))) =
      ((first.join second).ignoreDocstrings && decide (body.length > 1)) := by
  cases long : decide (body.length > 1) with
  | false =>
      simp only [Bool.and_false, length_pruneBody_keep, long, Bool.or_self]
  | true =>
      simp only [Bool.and_true, Options.join]
      cases first.ignoreDocstrings with
      | false => simp only [length_pruneBody_keep, long, Bool.and_true]
      | true => simp only [Bool.true_or]

mutual

/-- Pruning twice is pruning once, with what is on in one of the two. -/
theorem prune_prune (tree : Tree) (calm : isCalm first second (undoubled tree) = true) :
    prune second (prune first tree) = prune (first.join second) tree := by
  cases tree with
  | name id context => rfl
  | constant value => rfl
  | slice lower upper step =>
      simp only [undoubled, isCalm_and, Bool.and_eq_true] at calm
      exact prune_prune_slice first second (pruneAll_pruneAll lower calm.1.1)
        (pruneAll_pruneAll upper calm.1.2) (pruneAll_pruneAll step calm.2)
  | parameter id hint => simp only [prune, pruneAll_pruneAll hint calm]
  | lambda layout parameters defaults keywordDefaults body =>
      simp only [undoubled, isCalm_and, Bool.and_eq_true] at calm
      simp only [prune, pruneAll_pruneAll _ calm.1.1.1, pruneAll_pruneAll _ calm.1.1.2,
        pruneAll_pruneAll _ calm.1.2, prune_prune body calm.2]
  | function isAsync id layout decorators parameters defaults keywordDefaults returns body =>
      simp only [undoubled, isCalm_and, Bool.and_eq_true] at calm
      have ofBody := pruneBody_twice first second first.ignoreDocstrings second.ignoreDocstrings
        (pruneAll_pruneAll body calm.1.2) (opens_of_isCalm first second calm.2)
      simp only [prune, pruneAll_pruneAll _ calm.1.1.1.1.1.1, pruneAll_pruneAll _ calm.1.1.1.1.1.2,
        pruneAll_pruneAll _ calm.1.1.1.1.2, pruneAll_pruneAll _ calm.1.1.1.2,
        pruneAll_pruneAll _ calm.1.1.2, ofBody]
      rfl
  | classDef id decorators bases keywords body =>
      simp only [undoubled, isCalm_and, Bool.and_eq_true] at calm
      have ofBody := pruneBody_twice first second first.ignoreDocstrings second.ignoreDocstrings
        (pruneAll_pruneAll body calm.1.2) (opens_of_isCalm first second calm.2)
      simp only [prune, pruneAll_pruneAll _ calm.1.1.1.1, pruneAll_pruneAll _ calm.1.1.1.2,
        pruneAll_pruneAll _ calm.1.1.2, ofBody]
      rfl
  | comprehension kind results clauses =>
      simp only [undoubled, isCalm_and, Bool.and_eq_true] at calm
      simp only [prune, pruneAll_pruneAll _ calm.1, pruneAll_pruneAll _ calm.2]
  | clause isAsync target iterable conditions =>
      simp only [undoubled, isCalm_and, Bool.and_eq_true] at calm
      simp only [prune, pruneTarget_pruneTarget target calm.1.1, prune_prune iterable calm.1.2,
        pruneAll_pruneAll _ calm.2]
  | loop isAsync target iterable body alternative =>
      simp only [undoubled, isCalm_and, Bool.and_eq_true] at calm
      simp only [prune, pruneTarget_pruneTarget target calm.1.1.1, prune_prune iterable calm.1.1.2,
        pruneAll_pruneAll _ calm.1.2, pruneAll_pruneAll _ calm.2]
  | module body =>
      simp only [undoubled, isCalm_and, Bool.and_eq_true] at calm
      have opens : (first.ignoreDocstrings && decide (body.length > 1)) = true →
          (second.ignoreDocstrings && decide ((pruneBody first
            (first.ignoreDocstrings && decide (body.length > 1)) body).length > 1)) = true →
          opensOnce body = true := fun one other =>
        opens_of_isCalm first second calm.2 (Bool.and_eq_true_iff.mp one).1
          (Bool.and_eq_true_iff.mp other).1
      rw [prune, prune, pruneBody_twice first second _ _ (pruneAll_pruneAll body calm.1) opens,
        strips_module, prune]
  | expression body => simp only [prune, prune_prune body calm]
  | node form parts => simp only [prune, pruneParts_pruneParts parts calm]

theorem pruneAll_pruneAll (trees : List Tree)
    (calm : isCalm first second (undoubledAll trees) = true) :
    pruneAll second (pruneAll first trees) = pruneAll (first.join second) trees := by
  cases trees with
  | nil => rfl
  | cons tree rest =>
      rw [undoubledAll, isCalm_and, Bool.and_eq_true] at calm
      rw [pruneAll, pruneAll, pruneAll, prune_prune tree calm.1, pruneAll_pruneAll rest calm.2]

theorem pruneParts_pruneParts (parts : List (List Tree))
    (calm : isCalm first second (undoubledParts parts) = true) :
    pruneParts second (pruneParts first parts) = pruneParts (first.join second) parts := by
  cases parts with
  | nil => rfl
  | cons trees rest =>
      rw [undoubledParts, isCalm_and, Bool.and_eq_true] at calm
      rw [pruneParts, pruneParts, pruneParts, pruneAll_pruneAll trees calm.1,
        pruneParts_pruneParts rest calm.2]

theorem pruneTarget_pruneTarget (target : Tree)
    (calm : isCalm first second (undoubled target) = true) :
    pruneTarget second (pruneTarget first target) = pruneTarget (first.join second) target := by
  cases target with
  | node form parts =>
      cases form <;>
        simp only [pruneTarget, pruneTargetParts_pruneTargetParts parts calm,
          pruneParts_pruneParts parts calm]
  | _ => rfl

theorem pruneTargets_pruneTargets (targets : List Tree)
    (calm : isCalm first second (undoubledAll targets) = true) :
    pruneTargets second (pruneTargets first targets) =
      pruneTargets (first.join second) targets := by
  cases targets with
  | nil => rfl
  | cons target rest =>
      rw [undoubledAll, isCalm_and, Bool.and_eq_true] at calm
      rw [pruneTargets, pruneTargets, pruneTargets, pruneTarget_pruneTarget target calm.1,
        pruneTargets_pruneTargets rest calm.2]

theorem pruneTargetParts_pruneTargetParts (parts : List (List Tree))
    (calm : isCalm first second (undoubledParts parts) = true) :
    pruneTargetParts second (pruneTargetParts first parts) =
      pruneTargetParts (first.join second) parts := by
  cases parts with
  | nil => rfl
  | cons targets rest =>
      rw [undoubledParts, isCalm_and, Bool.and_eq_true] at calm
      rw [pruneTargetParts, pruneTargetParts, pruneTargetParts,
        pruneTargets_pruneTargets targets calm.1, pruneTargetParts_pruneTargetParts rest calm.2]

end

end Twice

/-! ### Pruning first, renaming afterwards -/

section Order

variable (renameLocals : Bool) (options : Options)

/-- Whether pruning leaves out nothing that holds a name: bounds are left alone, or there is nothing
in a bound beside the literal that is dropped. -/
def isTidy (holds : Bool) : Bool :=
  !options.normalizeSlices || holds

theorem isTidy_and (one other : Bool) :
    isTidy options (one && other) = (isTidy options one && isTidy options other) :=
  Bool.or_and_distrib_left _ _ _

theorem normalizeSlices_namesOnly : (Options.namesOnly renameLocals).normalizeSlices = false := rfl

theorem ignoreDocstrings_namesOnly :
    (Options.namesOnly renameLocals).ignoreDocstrings = false := rfl

/-- What is taken for an absent bound is the same before and after a visit. -/
theorem isDefault_visit {isDefault : Tree → Bool} (literals : OnlyLiterals isDefault)
    (options : Options) (tree : Tree) (scopes : Scopes) :
    isDefault ((visit options tree).run scopes).1 = isDefault tree := by
  rw [Bool.eq_iff_iff]
  constructor
  · intro given
    rcases literals _ given with ⟨value, same⟩
    rwa [same, ← eq_constant_of_visit same] at given
  · intro given
    rcases literals _ given with ⟨value, rfl⟩
    rwa [visit]

/-- A bound that is dropped has no effect on a visit. -/
theorem visitAll_dropBound {isDefault : Tree → Bool} (literals : OnlyLiterals isDefault)
    {bound : List Tree} (single : bound.length ≤ 1) (options : Options) (scopes : Scopes) :
    (visitAll options (dropBound isDefault bound)).run scopes =
      (dropBound isDefault ((visitAll options bound).run scopes).1,
        ((visitAll options bound).run scopes).2) := by
  match bound with
  | [] => rfl
  | [tree] =>
      have kept := isDefault_visit literals options tree scopes
      cases default : isDefault tree with
      | true =>
          rcases literals tree default with ⟨value, rfl⟩
          simp only [dropBound, visitAll, visit, run_then, run_done, List.any_cons, List.any_nil,
            default, Bool.or_false, if_true]
      | false =>
          rw [default] at kept
          simp only [dropBound, visitAll, run_then, run_done, List.any_cons, List.any_nil, default,
            kept, Bool.or_false, Bool.false_eq_true, if_false]
  | _ :: _ :: _ => simp at single

/-- Parameters are bound before or after pruning. -/
theorem bindParameters_pruneAll (parameters : List Tree) (scopes : Scopes) :
    (bindParameters (.namesOnly renameLocals) (pruneAll options parameters)).run scopes =
      (pruneAll options
          ((bindParameters (.namesOnly renameLocals) parameters).run scopes).1,
        ((bindParameters (.namesOnly renameLocals) parameters).run scopes).2) := by
  induction parameters generalizing scopes with
  | nil => rfl
  | cons tree rest ih =>
      cases tree <;> simp only [pruneAll, prune, bindParameters, run_then, run_done, ih]

/-- Trees that are visited before or after pruning. -/
abbrev VisitedAlike (trees : List Tree) : Prop :=
  ∀ scopes, (visitAll (.namesOnly renameLocals) (pruneAll options trees)).run scopes =
    (pruneAll options ((visitAll (.namesOnly renameLocals) trees).run scopes).1,
      ((visitAll (.namesOnly renameLocals) trees).run scopes).2)

/-- The bounds of a slice are visited before or after pruning. -/
theorem visit_prune_slice {lower upper step : List Tree}
    (single : isTidy options (decide (lower.length ≤ 1) && decide (upper.length ≤ 1) &&
      decide (step.length ≤ 1)) = true)
    (ofLower : VisitedAlike renameLocals options lower)
    (ofUpper : VisitedAlike renameLocals options upper)
    (ofStep : VisitedAlike renameLocals options step) (scopes : Scopes) :
    (visit (.namesOnly renameLocals) (prune options (.slice lower upper step))).run scopes =
      (prune options
          ((visit (.namesOnly renameLocals) (.slice lower upper step)).run scopes).1,
        ((visit (.namesOnly renameLocals) (.slice lower upper step)).run scopes).2) := by
  cases on : options.normalizeSlices with
  | false =>
      simp only [prune, pruneBounds, on, visit, run_then, run_done, normalizeSlices_namesOnly,
        Bool.false_eq_true, if_false, ofLower, ofUpper, ofStep]
  | true =>
      simp only [isTidy, on, Bool.not_true, Bool.false_or, Bool.and_eq_true,
        decide_eq_true_eq] at single
      have short {bound : List Tree} (single : bound.length ≤ 1) :
          (pruneAll options bound).length ≤ 1 := by
        rwa [length_pruneAll]
      simp only [prune, pruneBounds, on, visit, run_then, run_done, normalizeSlices_namesOnly,
        Bool.false_eq_true, if_false, if_true, simplifySlice,
        visitAll_dropBound (onlyLiterals_isInt 0) (short single.1.1),
        visitAll_dropBound onlyLiterals_isNone (short single.1.2),
        visitAll_dropBound (onlyLiterals_isInt 1) (short single.2), ofLower, ofUpper, ofStep]

mutual

/-- A pruned tree is visited like the tree from which it was pruned. -/
theorem visit_prune (tree : Tree) (tidy : isTidy options (singleBounds tree) = true)
    (scopes : Scopes) :
    (visit (.namesOnly renameLocals) (prune options tree)).run scopes =
      (prune options ((visit (.namesOnly renameLocals) tree).run scopes).1,
        ((visit (.namesOnly renameLocals) tree).run scopes).2) := by
  cases tree with
  | name id context => simp only [visit, run_then, run_done, prune]
  | constant value => simp only [visit, run_done, prune]
  | slice lower upper step =>
      simp only [singleBounds, isTidy_and, Bool.and_eq_true] at tidy
      refine visit_prune_slice renameLocals options
        ?_ (visitAll_pruneAll lower tidy.1.1.2) (visitAll_pruneAll upper tidy.1.2)
        (visitAll_pruneAll step tidy.2) scopes
      simp only [isTidy_and, Bool.and_eq_true]
      exact tidy.1.1.1
  | parameter id hint => simp only [visit, run_then, run_done, prune, visitAll_pruneAll hint tidy]
  | lambda layout parameters defaults keywordDefaults body =>
      simp only [singleBounds, isTidy_and, Bool.and_eq_true] at tidy
      simp only [visit, run_then, run_done, prune, visitAll_pruneAll _ tidy.1.1.1,
        visitAll_pruneAll _ tidy.1.1.2, visitAll_pruneAll _ tidy.1.2, visit_prune body tidy.2,
        bindParameters_pruneAll]
  | function isAsync id layout decorators parameters defaults keywordDefaults returns body =>
      simp only [singleBounds, isTidy_and, Bool.and_eq_true] at tidy
      simp only [visit, run_then, run_done, prune, visitAll_pruneAll _ tidy.1.1.1.1.1,
        visitAll_pruneAll _ tidy.1.1.1.1.2, visitAll_pruneAll _ tidy.1.1.1.2,
        visitAll_pruneAll _ tidy.1.1.2, visitAll_pruneAll _ tidy.1.2, bindParameters_pruneAll,
        ignoreDocstrings_namesOnly, visitBody_keep, visitAll_pruneBody body _ tidy.2]
  | classDef id decorators bases keywords body =>
      simp only [singleBounds, isTidy_and, Bool.and_eq_true] at tidy
      simp only [visit, run_then, run_done, prune, visitAll_pruneAll _ tidy.1.1.1,
        visitAll_pruneAll _ tidy.1.1.2, visitAll_pruneAll _ tidy.1.2, ignoreDocstrings_namesOnly,
        visitBody_keep, visitAll_pruneBody body _ tidy.2]
  | comprehension kind results clauses =>
      simp only [singleBounds, isTidy_and, Bool.and_eq_true] at tidy
      have ofResults := visitAll_pruneAll results tidy.1
      have ofClauses := visitAll_pruneAll clauses tidy.2
      cases clauses with
      | nil =>
          simp only [visit, visitFirstIterable, visitClauses_none, run_then, run_done, prune,
            pruneAll, visitAll, ofResults]
      | cons first rest =>
          cases first with
          | clause isAsync target iterable conditions =>
              simp only [singleBoundsAll, singleBounds, isTidy_and, Bool.and_eq_true] at tidy
              simp only [visit, visitFirstIterable, visitClauses, visitClauses_none, run_then,
                run_done, prune, pruneAll, visit_prune iterable tidy.2.1.1.2,
                bindTarget_pruneTarget target tidy.2.1.1.1,
                visitAll_pruneAll conditions tidy.2.1.2, visitAll_pruneAll rest tidy.2.2,
                ofResults]
          | _ =>
              simp only [pruneAll, prune] at ofClauses
              simp only [visit, visitFirstIterable, visitClauses_none, run_then, run_done, prune,
                pruneAll, ofClauses, ofResults]
  | clause isAsync target iterable conditions =>
      simp only [singleBounds, isTidy_and, Bool.and_eq_true] at tidy
      simp only [visit, run_then, run_done, prune, visit_prune iterable tidy.1.2,
        bindTarget_pruneTarget target tidy.1.1, visitAll_pruneAll conditions tidy.2]
  | loop isAsync target iterable body alternative =>
      simp only [singleBounds, isTidy_and, Bool.and_eq_true] at tidy
      simp only [visit, run_then, run_done, prune, visit_prune iterable tidy.1.1.2,
        bindTarget_pruneTarget target tidy.1.1.1, visitAll_pruneAll body tidy.1.2,
        visitAll_pruneAll alternative tidy.2]
  | module body =>
      simp only [visit, run_then, run_done, prune, ignoreDocstrings_namesOnly, Bool.false_and,
        visitBody_keep, length_visitAll, visitAll_pruneBody body _ tidy]
  | expression body => simp only [visit, run_then, run_done, prune, visit_prune body tidy]
  | node form parts => simp only [visit, run_then, run_done, prune, visitParts_pruneParts _ tidy]

theorem visitAll_pruneAll (trees : List Tree)
    (tidy : isTidy options (singleBoundsAll trees) = true) (scopes : Scopes) :
    (visitAll (.namesOnly renameLocals) (pruneAll options trees)).run scopes =
      (pruneAll options ((visitAll (.namesOnly renameLocals) trees).run scopes).1,
        ((visitAll (.namesOnly renameLocals) trees).run scopes).2) := by
  cases trees with
  | nil => rfl
  | cons tree rest =>
      rw [singleBoundsAll, isTidy_and, Bool.and_eq_true] at tidy
      simp only [visitAll, run_then, run_done, pruneAll, visit_prune tree tidy.1,
        visitAll_pruneAll rest tidy.2]

theorem visitAll_pruneBody (body : List Tree) (strip : Bool)
    (tidy : isTidy options (singleBoundsAll body) = true) (scopes : Scopes) :
    (visitAll (.namesOnly renameLocals) (pruneBody options strip body)).run scopes =
      (pruneBody options strip ((visitAll (.namesOnly renameLocals) body).run scopes).1,
        ((visitAll (.namesOnly renameLocals) body).run scopes).2) := by
  cases body with
  | nil => rfl
  | cons first rest =>
      rw [singleBoundsAll, isTidy_and, Bool.and_eq_true] at tidy
      simp only [visitAll, run_then, run_done, pruneBody, isDocstring_visit]
      cases stripped : strip && isDocstring first with
      | true =>
          have docstring : isDocstring first = true := (Bool.and_eq_true_iff.mp stripped).2
          simp only [if_true, visit_docstring _ docstring, visitAll_pruneAll rest tidy.2]
      | false =>
          simp only [Bool.false_eq_true, if_false, visitAll, run_then, run_done,
            visit_prune first tidy.1, visitAll_pruneAll rest tidy.2]

theorem visitParts_pruneParts (parts : List (List Tree))
    (tidy : isTidy options (singleBoundsParts parts) = true) (scopes : Scopes) :
    (visitParts (.namesOnly renameLocals) (pruneParts options parts)).run scopes =
      (pruneParts options ((visitParts (.namesOnly renameLocals) parts).run scopes).1,
        ((visitParts (.namesOnly renameLocals) parts).run scopes).2) := by
  cases parts with
  | nil => rfl
  | cons trees rest =>
      rw [singleBoundsParts, isTidy_and, Bool.and_eq_true] at tidy
      simp only [visitParts, run_then, run_done, pruneParts, visitAll_pruneAll trees tidy.1,
        visitParts_pruneParts rest tidy.2]

theorem bindTarget_pruneTarget (target : Tree)
    (tidy : isTidy options (singleBounds target) = true) (scopes : Scopes) :
    (bindTarget (.namesOnly renameLocals) (pruneTarget options target)).run scopes =
      (pruneTarget options ((bindTarget (.namesOnly renameLocals) target).run scopes).1,
        ((bindTarget (.namesOnly renameLocals) target).run scopes).2) := by
  cases target with
  | name id context => simp only [bindTarget, run_then, run_done, pruneTarget]
  | node form parts =>
      cases form <;>
        simp only [bindTarget, run_then, run_done, pruneTarget,
          bindTargetParts_pruneTargetParts parts tidy, visitParts_pruneParts parts tidy]
  | _ => simp only [bindTarget, run_done, pruneTarget]

theorem bindTargets_pruneTargets (targets : List Tree)
    (tidy : isTidy options (singleBoundsAll targets) = true) (scopes : Scopes) :
    (bindTargets (.namesOnly renameLocals) (pruneTargets options targets)).run scopes =
      (pruneTargets options ((bindTargets (.namesOnly renameLocals) targets).run scopes).1,
        ((bindTargets (.namesOnly renameLocals) targets).run scopes).2) := by
  cases targets with
  | nil => rfl
  | cons target rest =>
      rw [singleBoundsAll, isTidy_and, Bool.and_eq_true] at tidy
      simp only [bindTargets, run_then, run_done, pruneTargets,
        bindTarget_pruneTarget target tidy.1, bindTargets_pruneTargets rest tidy.2]

theorem bindTargetParts_pruneTargetParts (parts : List (List Tree))
    (tidy : isTidy options (singleBoundsParts parts) = true) (scopes : Scopes) :
    (bindTargetParts (.namesOnly renameLocals) (pruneTargetParts options parts)).run scopes =
      (pruneTargetParts options
          ((bindTargetParts (.namesOnly renameLocals) parts).run scopes).1,
        ((bindTargetParts (.namesOnly renameLocals) parts).run scopes).2) := by
  cases parts with
  | nil => rfl
  | cons targets rest =>
      rw [singleBoundsParts, isTidy_and, Bool.and_eq_true] at tidy
      simp only [bindTargetParts, run_then, run_done, pruneTargetParts,
        bindTargets_pruneTargets targets tidy.1, bindTargetParts_pruneTargetParts rest tidy.2]

end

end Order

end Canonical
end Snippet
end AnswerKey
