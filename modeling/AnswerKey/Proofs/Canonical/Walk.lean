import AnswerKey.Snippet.Canonical

namespace AnswerKey
namespace Snippet
namespace Canonical

/-!
The walk through a tree.

What the canonical form does with names depends on a tree only through the order in which names
occur, are bound, and scopes are opened and closed.  `walk` lists these events in the order of the
visit, and `fill` puts other names in the place of those that occur.  A tree is thereby split into
the list of its events and its skeleton, in which every occurrence is empty: filling does not look
at the names that were there before (`fill_fill`), and the events of a filled tree are the old
ones with the new names (`relabel_walk`).
-/

/-- What a visit meets. -/
inductive Event where
  /-- A scope is opened. -/
  | enter
  /-- The innermost scope is closed. -/
  | leave
  /-- A name occurs that is no target and no parameter. -/
  | use (id : String)
  /-- A name occurs as a target or a parameter. -/
  | bind (id : String)
  deriving DecidableEq, Repr

namespace Event

/-- The name that occurs. -/
def id? : Event → Option String
  | use id => some id
  | bind id => some id
  | _ => none

end Event

/-- The names that occur in some events, in order. -/
def occurrences (events : List Event) : List String :=
  events.filterMap Event.id?

/-! ### Events -/

/-- The event of a parameter: its name is bound. -/
def parameterEvent : Tree → List Event
  | .parameter id _ => [.bind id]
  | _ => []

/-- The events inside of a scope. -/
def inScope (events : List Event) : List Event :=
  .enter :: (events ++ [.leave])

mutual

/-- The events of a tree. -/
def walk : Tree → List Event
  | .name id _ => [.use id]
  | .constant _ => []
  | .slice lower upper step => walkAll lower ++ walkAll upper ++ walkAll step
  | .parameter _ hint => walkAll hint
  | .lambda _ parameters defaults keywordDefaults body =>
      walkAll defaults ++ walkAll keywordDefaults ++ walkAll parameters ++
        inScope (parameters.flatMap parameterEvent ++ walk body)
  | .function _ _ _ decorators parameters defaults keywordDefaults returns body =>
      walkAll decorators ++ walkAll defaults ++ walkAll keywordDefaults ++ walkAll parameters ++
        walkAll returns ++ inScope (parameters.flatMap parameterEvent ++ walkAll body)
  | .classDef _ decorators bases keywords body =>
      walkAll decorators ++ walkAll bases ++ walkAll keywords ++ inScope (walkAll body)
  | .comprehension _ results clauses =>
      walkFirstIterable clauses ++ inScope (walkClauses clauses ++ walkAll results)
  | .clause _ target iterable conditions =>
      walk iterable ++ walkTarget target ++ walkAll conditions
  | .loop _ target iterable body alternative =>
      walk iterable ++ walkTarget target ++ walkAll body ++ walkAll alternative
  | .module body => inScope (walkAll body)
  | .expression body => inScope (walk body)
  | .node _ parts => walkParts parts

/-- The events of some trees. -/
def walkAll : List Tree → List Event
  | [] => []
  | tree :: rest => walk tree ++ walkAll rest

/-- The events of the trees of some positions. -/
def walkParts : List (List Tree) → List Event
  | [] => []
  | trees :: rest => walkAll trees ++ walkParts rest

/-- The events of the iterable of the first clause of a comprehension. -/
def walkFirstIterable : List Tree → List Event
  | .clause _ _ iterable _ :: _ => walk iterable
  | _ => []

/-- The events of the clauses of a comprehension without those of the first iterable. -/
def walkClauses : List Tree → List Event
  | [] => []
  | .clause _ target _ conditions :: rest =>
      walkTarget target ++ walkAll conditions ++ walkAll rest
  | tree :: rest => walk tree ++ walkAll rest

/-- The events of a target. -/
def walkTarget : Tree → List Event
  | .name id _ => [.bind id]
  | .node (.tuple _) parts => walkTargetParts parts
  | .node (.list _) parts => walkTargetParts parts
  | .node (.starred _) parts => walkTargetParts parts
  | .node _ parts => walkParts parts
  | _ => []

/-- The events of some targets. -/
def walkTargets : List Tree → List Event
  | [] => []
  | tree :: rest => walkTarget tree ++ walkTargets rest

/-- The events of the targets of some positions. -/
def walkTargetParts : List (List Tree) → List Event
  | [] => []
  | trees :: rest => walkTargets trees ++ walkTargetParts rest

end

/-! ### Names put into a tree -/

/-- The next of some names; when they are used up, it is the empty one. -/
def next : StateM (List String) String := fun names => (names.headD "", names.tail)

/-- Put names in the place of those of parameters. -/
def fillParameters : List Tree → StateM (List String) (List Tree)
  | [] => pure []
  | .parameter _ hint :: rest => do
      let id ← next
      let rest ← fillParameters rest
      pure (.parameter id hint :: rest)
  | tree :: rest => do
      let rest ← fillParameters rest
      pure (tree :: rest)

mutual

/-- Put names in the place of those that occur in a tree, in the order of the walk. -/
def fill : Tree → StateM (List String) Tree
  | .name _ context => do pure (.name (← next) context)
  | .constant value => pure (.constant value)
  | .slice lower upper step => do
      let lower ← fillAll lower
      let upper ← fillAll upper
      let step ← fillAll step
      pure (.slice lower upper step)
  | .parameter id hint => do pure (.parameter id (← fillAll hint))
  | .lambda layout parameters defaults keywordDefaults body => do
      let defaults ← fillAll defaults
      let keywordDefaults ← fillAll keywordDefaults
      let parameters ← fillAll parameters
      let parameters ← fillParameters parameters
      let body ← fill body
      pure (.lambda layout parameters defaults keywordDefaults body)
  | .function isAsync id layout decorators parameters defaults keywordDefaults returns body => do
      let decorators ← fillAll decorators
      let defaults ← fillAll defaults
      let keywordDefaults ← fillAll keywordDefaults
      let parameters ← fillAll parameters
      let returns ← fillAll returns
      let parameters ← fillParameters parameters
      let body ← fillAll body
      pure (.function isAsync id layout decorators parameters defaults keywordDefaults returns body)
  | .classDef id decorators bases keywords body => do
      let decorators ← fillAll decorators
      let bases ← fillAll bases
      let keywords ← fillAll keywords
      let body ← fillAll body
      pure (.classDef id decorators bases keywords body)
  | .comprehension kind results clauses => do
      let clauses ← fillAll clauses
      let results ← fillAll results
      pure (.comprehension kind results clauses)
  | .clause isAsync target iterable conditions => do
      let iterable ← fill iterable
      let target ← fillTarget target
      let conditions ← fillAll conditions
      pure (.clause isAsync target iterable conditions)
  | .loop isAsync target iterable body alternative => do
      let iterable ← fill iterable
      let target ← fillTarget target
      let body ← fillAll body
      let alternative ← fillAll alternative
      pure (.loop isAsync target iterable body alternative)
  | .module body => do pure (.module (← fillAll body))
  | .expression body => do pure (.expression (← fill body))
  | .node form parts => do pure (.node form (← fillParts parts))

/-- Put names into some trees. -/
def fillAll : List Tree → StateM (List String) (List Tree)
  | [] => pure []
  | tree :: rest => do
      let tree ← fill tree
      let rest ← fillAll rest
      pure (tree :: rest)

/-- Put names into the trees of some positions. -/
def fillParts : List (List Tree) → StateM (List String) (List (List Tree))
  | [] => pure []
  | trees :: rest => do
      let trees ← fillAll trees
      let rest ← fillParts rest
      pure (trees :: rest)

/-- Put names into a target. -/
def fillTarget : Tree → StateM (List String) Tree
  | .name _ context => do pure (.name (← next) context)
  | .node (.tuple context) parts => do pure (.node (.tuple context) (← fillTargetParts parts))
  | .node (.list context) parts => do pure (.node (.list context) (← fillTargetParts parts))
  | .node (.starred context) parts => do pure (.node (.starred context) (← fillTargetParts parts))
  | .node form parts => do pure (.node form (← fillParts parts))
  | tree => pure tree

/-- Put names into some targets. -/
def fillTargets : List Tree → StateM (List String) (List Tree)
  | [] => pure []
  | tree :: rest => do
      let tree ← fillTarget tree
      let rest ← fillTargets rest
      pure (tree :: rest)

/-- Put names into the targets of some positions. -/
def fillTargetParts : List (List Tree) → StateM (List String) (List (List Tree))
  | [] => pure []
  | trees :: rest => do
      let trees ← fillTargets trees
      let rest ← fillTargetParts rest
      pure (trees :: rest)

end

/-- A tree in which every occurrence of a name is empty. -/
def skeleton (tree : Tree) : Tree :=
  ((fill tree).run []).1

/-! ### Steps on a state -/

theorem run_then {σ α β : Type} (first : StateM σ α) (next : α → StateM σ β) (state : σ) :
    (first >>= next).run state = (next (first.run state).1).run (first.run state).2 := rfl

theorem run_done {σ α : Type} (value : α) (state : σ) :
    (pure value : StateM σ α).run state = (value, state) := rfl

/-! ### Parameters

The names of parameters are bound after all of their hints have been visited, so parameters are
filled twice: first inside of their hints, then themselves. -/

/-- Filling a tree that is no parameter does not make one of it. -/
theorem parameterEvent_fill (tree : Tree) (names : List String) :
    parameterEvent ((fill tree).run names).1 = parameterEvent tree := by
  cases tree <;> rfl

theorem parameterEvents_fillAll (trees : List Tree) (names : List String) :
    ((fillAll trees).run names).1.flatMap parameterEvent = trees.flatMap parameterEvent := by
  induction trees generalizing names with
  | nil => rfl
  | cons tree rest ih =>
      simp only [fillAll, run_then, run_done, List.flatMap_cons, parameterEvent_fill, ih]

/-- The hints of parameters are not touched when their names are put in. -/
theorem walkAll_fillParameters (trees : List Tree) (names : List String) :
    walkAll ((fillParameters trees).run names).1 = walkAll trees := by
  induction trees generalizing names with
  | nil => rfl
  | cons tree rest ih =>
      cases tree <;> simp only [fillParameters, run_then, run_done, walkAll, walk, ih]

theorem fillParameters_fillParameters (trees : List Tree) (names : List String) :
    fillParameters ((fillParameters trees).run names).1 = fillParameters trees := by
  induction trees generalizing names with
  | nil => rfl
  | cons tree rest ih =>
      cases tree <;> simp only [fillParameters, run_then, run_done, ih]

/-- Filling the hints of parameters and putting in their names do not depend on each other. -/
theorem fillAll_fillParameters (trees : List Tree) (ids : List String) :
    fillAll ((fillParameters trees).run ids).1 = (do
      let filled ← fillAll trees
      pure ((fillParameters filled).run ids).1) := by
  induction trees generalizing ids with
  | nil => rfl
  | cons tree rest ih =>
      cases tree <;>
        simp only [fillParameters, fillAll, fill, run_then, run_done, ih, bind_assoc, pure_bind]

/-! ### Filling a filled tree -/

mutual

/-- Filling a tree does not look at the names that are in it. -/
theorem fill_fill (tree : Tree) (names : List String) :
    fill ((fill tree).run names).1 = fill tree := by
  cases tree with
  | name id context => rfl
  | constant value => rfl
  | slice lower upper step =>
      simp only [fill, run_then, run_done, fillAll_fillAll]
  | parameter id hint =>
      simp only [fill, run_then, run_done, fillAll_fillAll]
  | lambda layout parameters defaults keywordDefaults body =>
      simp only [fill, run_then, run_done, fillAll_fillParameters, fillAll_fillAll,
        fillParameters_fillParameters, fill_fill body, bind_assoc, pure_bind]
  | function isAsync id layout decorators parameters defaults keywordDefaults returns body =>
      simp only [fill, run_then, run_done, fillAll_fillParameters, fillAll_fillAll,
        fillParameters_fillParameters, bind_assoc, pure_bind]
  | classDef id decorators bases keywords body =>
      simp only [fill, run_then, run_done, fillAll_fillAll]
  | comprehension kind results clauses =>
      simp only [fill, run_then, run_done, fillAll_fillAll]
  | clause isAsync target iterable conditions =>
      simp only [fill, run_then, run_done, fill_fill iterable, fillTarget_fillTarget target,
        fillAll_fillAll]
  | loop isAsync target iterable body alternative =>
      simp only [fill, run_then, run_done, fill_fill iterable, fillTarget_fillTarget target,
        fillAll_fillAll]
  | module body =>
      simp only [fill, run_then, run_done, fillAll_fillAll]
  | expression body =>
      simp only [fill, run_then, run_done, fill_fill body]
  | node form parts =>
      simp only [fill, run_then, run_done, fillParts_fillParts]

theorem fillAll_fillAll (trees : List Tree) (names : List String) :
    fillAll ((fillAll trees).run names).1 = fillAll trees := by
  cases trees with
  | nil => rfl
  | cons tree rest =>
      simp only [fillAll, run_then, run_done, fill_fill tree, fillAll_fillAll rest]

theorem fillParts_fillParts (parts : List (List Tree)) (names : List String) :
    fillParts ((fillParts parts).run names).1 = fillParts parts := by
  cases parts with
  | nil => rfl
  | cons trees rest =>
      simp only [fillParts, run_then, run_done, fillAll_fillAll trees, fillParts_fillParts rest]

theorem fillTarget_fillTarget (target : Tree) (names : List String) :
    fillTarget ((fillTarget target).run names).1 = fillTarget target := by
  cases target with
  | node form parts =>
      cases form <;>
        simp only [fillTarget, run_then, run_done, fillTargetParts_fillTargetParts,
          fillParts_fillParts]
  | _ => rfl

theorem fillTargets_fillTargets (targets : List Tree) (names : List String) :
    fillTargets ((fillTargets targets).run names).1 = fillTargets targets := by
  cases targets with
  | nil => rfl
  | cons target rest =>
      simp only [fillTargets, run_then, run_done, fillTarget_fillTarget target,
        fillTargets_fillTargets rest]

theorem fillTargetParts_fillTargetParts (parts : List (List Tree)) (names : List String) :
    fillTargetParts ((fillTargetParts parts).run names).1 = fillTargetParts parts := by
  cases parts with
  | nil => rfl
  | cons targets rest =>
      simp only [fillTargetParts, run_then, run_done, fillTargets_fillTargets targets,
        fillTargetParts_fillTargetParts rest]

end

/-! ### The events of a filled tree -/

/-- Put names in the place of those that occur in some events. -/
def relabel : List Event → StateM (List String) (List Event)
  | [] => pure []
  | .use _ :: rest => do
      let id ← next
      let rest ← relabel rest
      pure (.use id :: rest)
  | .bind _ :: rest => do
      let id ← next
      let rest ← relabel rest
      pure (.bind id :: rest)
  | event :: rest => do
      let rest ← relabel rest
      pure (event :: rest)

theorem relabel_append (before after : List Event) (names : List String) :
    (relabel (before ++ after)).run names =
      (((relabel before).run names).1 ++ ((relabel after).run ((relabel before).run names).2).1,
        ((relabel after).run ((relabel before).run names).2).2) := by
  induction before generalizing names with
  | nil => rfl
  | cons event rest ih =>
      cases event <;> simp only [List.cons_append, relabel, run_then, run_done, ih]

theorem relabel_inScope (events : List Event) (names : List String) :
    (relabel (inScope events)).run names =
      (inScope ((relabel events).run names).1, ((relabel events).run names).2) := by
  simp only [inScope, relabel, run_then, run_done, relabel_append]

/-- The parameters of a filled tree are bound under the names that were put in. -/
theorem relabel_parameterEvents (trees : List Tree) (names : List String) :
    (relabel (trees.flatMap parameterEvent)).run names =
      (((fillParameters trees).run names).1.flatMap parameterEvent,
        ((fillParameters trees).run names).2) := by
  induction trees generalizing names with
  | nil => rfl
  | cons tree rest ih =>
      cases tree <;>
        simp only [List.flatMap_cons, parameterEvent, List.cons_append, List.nil_append, relabel,
          fillParameters, run_then, run_done, ih]

/-- The same for parameters whose hints have been filled before. -/
theorem relabel_parameterEvents_filled (trees : List Tree) (before names : List String) :
    (relabel (trees.flatMap parameterEvent)).run names =
      (((fillParameters ((fillAll trees).run before).1).run names).1.flatMap parameterEvent,
        ((fillParameters ((fillAll trees).run before).1).run names).2) := by
  rw [← parameterEvents_fillAll trees before, relabel_parameterEvents]

/-- A comprehension whose first clause is none has nothing to visit outside of its scope. -/
theorem relabel_plainComprehension (kind : ComprehensionKind) (results clauses : List Tree)
    (outside : walkFirstIterable clauses = [])
    (inside : walkClauses clauses = walkAll clauses)
    (filled : ∀ names, walkFirstIterable ((fillAll clauses).run names).1 = [] ∧
      walkClauses ((fillAll clauses).run names).1 = walkAll ((fillAll clauses).run names).1)
    (ofClauses : ∀ names, (relabel (walkAll clauses)).run names =
      (walkAll ((fillAll clauses).run names).1, ((fillAll clauses).run names).2))
    (ofResults : ∀ names, (relabel (walkAll results)).run names =
      (walkAll ((fillAll results).run names).1, ((fillAll results).run names).2))
    (names : List String) :
    (relabel (walk (.comprehension kind results clauses))).run names =
      (walk ((fill (.comprehension kind results clauses)).run names).1,
        ((fill (.comprehension kind results clauses)).run names).2) := by
  simp only [walk, fill, outside, inside, filled, relabel_append, relabel_inScope, run_then,
    run_done, ofClauses, ofResults, List.nil_append]

mutual

/-- The events of a filled tree are those of the tree under the names that were put in. -/
theorem relabel_walk (tree : Tree) (names : List String) :
    (relabel (walk tree)).run names =
      (walk ((fill tree).run names).1, ((fill tree).run names).2) := by
  cases tree with
  | name id context => rfl
  | constant value => rfl
  | slice lower upper step =>
      simp only [walk, fill, relabel_append, run_then, run_done, relabel_walkAll]
  | parameter id hint =>
      simp only [walk, fill, run_then, run_done, relabel_walkAll]
  | lambda layout parameters defaults keywordDefaults body =>
      have bound := relabel_parameterEvents_filled parameters
        ((fillAll keywordDefaults).run ((fillAll defaults).run names).2).2
      simp only [walk, fill, relabel_append, relabel_inScope, run_then, run_done, relabel_walkAll,
        relabel_walk body, walkAll_fillParameters, bound]
  | function isAsync id layout decorators parameters defaults keywordDefaults returns body =>
      have bound := relabel_parameterEvents_filled parameters
        ((fillAll keywordDefaults).run
          ((fillAll defaults).run ((fillAll decorators).run names).2).2).2
      simp only [walk, fill, relabel_append, relabel_inScope, run_then, run_done, relabel_walkAll,
        walkAll_fillParameters, bound]
  | classDef id decorators bases keywords body =>
      simp only [walk, fill, relabel_append, relabel_inScope, run_then, run_done, relabel_walkAll]
  | comprehension kind results clauses =>
      have ofClauses := relabel_walkAll clauses
      have ofResults := relabel_walkAll results
      cases clauses with
      | nil =>
          exact relabel_plainComprehension kind results [] rfl rfl (fun _ => ⟨rfl, rfl⟩) ofClauses
            ofResults names
      | cons first rest =>
          cases first with
          | clause isAsync target iterable conditions =>
              simp only [walk, fill, fillAll, walkFirstIterable, walkClauses, relabel_append,
                relabel_inScope, run_then, run_done, relabel_walk iterable,
                relabel_walkTarget target, relabel_walkAll]
          | _ =>
              exact relabel_plainComprehension kind results _ rfl rfl (fun _ => ⟨rfl, rfl⟩)
                ofClauses ofResults names
  | clause isAsync target iterable conditions =>
      simp only [walk, fill, relabel_append, run_then, run_done, relabel_walk iterable,
        relabel_walkTarget target, relabel_walkAll]
  | loop isAsync target iterable body alternative =>
      simp only [walk, fill, relabel_append, run_then, run_done, relabel_walk iterable,
        relabel_walkTarget target, relabel_walkAll]
  | module body =>
      simp only [walk, fill, relabel_inScope, run_then, run_done, relabel_walkAll]
  | expression body =>
      simp only [walk, fill, relabel_inScope, run_then, run_done, relabel_walk body]
  | node form parts =>
      simp only [walk, fill, run_then, run_done, relabel_walkParts]

theorem relabel_walkAll (trees : List Tree) (names : List String) :
    (relabel (walkAll trees)).run names =
      (walkAll ((fillAll trees).run names).1, ((fillAll trees).run names).2) := by
  cases trees with
  | nil => rfl
  | cons tree rest =>
      simp only [walkAll, fillAll, relabel_append, run_then, run_done, relabel_walk tree,
        relabel_walkAll rest]

theorem relabel_walkParts (parts : List (List Tree)) (names : List String) :
    (relabel (walkParts parts)).run names =
      (walkParts ((fillParts parts).run names).1, ((fillParts parts).run names).2) := by
  cases parts with
  | nil => rfl
  | cons trees rest =>
      simp only [walkParts, fillParts, relabel_append, run_then, run_done, relabel_walkAll trees,
        relabel_walkParts rest]

theorem relabel_walkTarget (target : Tree) (names : List String) :
    (relabel (walkTarget target)).run names =
      (walkTarget ((fillTarget target).run names).1, ((fillTarget target).run names).2) := by
  cases target with
  | node form parts =>
      cases form <;>
        simp only [walkTarget, fillTarget, run_then, run_done, relabel_walkTargetParts,
          relabel_walkParts]
  | _ => rfl

theorem relabel_walkTargets (targets : List Tree) (names : List String) :
    (relabel (walkTargets targets)).run names =
      (walkTargets ((fillTargets targets).run names).1, ((fillTargets targets).run names).2) := by
  cases targets with
  | nil => rfl
  | cons target rest =>
      simp only [walkTargets, fillTargets, relabel_append, run_then, run_done,
        relabel_walkTarget target, relabel_walkTargets rest]

theorem relabel_walkTargetParts (parts : List (List Tree)) (names : List String) :
    (relabel (walkTargetParts parts)).run names =
      (walkTargetParts ((fillTargetParts parts).run names).1,
        ((fillTargetParts parts).run names).2) := by
  cases parts with
  | nil => rfl
  | cons targets rest =>
      simp only [walkTargetParts, fillTargetParts, relabel_append, run_then, run_done,
        relabel_walkTargets targets, relabel_walkTargetParts rest]

end

end Canonical
end Snippet
end AnswerKey
