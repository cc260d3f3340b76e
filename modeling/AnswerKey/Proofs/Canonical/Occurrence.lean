import AnswerKey.Proofs.Canonical.Renaming

namespace AnswerKey
namespace Snippet
namespace Canonical

/-!
Single occurrences of names.

A tree is put together again from its skeleton and the names that occur in it
(`fill_occurrences`), so a change of one occurrence is a change in the list of names.
-/

/-! ### A tree and its names -/

theorem occurrences_append (before after : List Event) :
    occurrences (before ++ after) = occurrences before ++ occurrences after :=
  List.filterMap_append

theorem occurrences_inScope (events : List Event) :
    occurrences (inScope events) = occurrences events := by
  rw [inScope, occurrences, List.filterMap_cons_none rfl]
  exact (occurrences_append events [.leave]).trans (List.append_nil _)

/-- Parameters with their own names put in are what they were. -/
theorem fillParameters_occurrences (trees : List Tree) (others : List String) :
    (fillParameters trees).run (occurrences (trees.flatMap parameterEvent) ++ others) =
      (trees, others) := by
  induction trees with
  | nil => rfl
  | cons tree rest ih =>
      cases tree with
      | parameter id hint =>
          have names : occurrences ((Tree.parameter id hint :: rest).flatMap parameterEvent) =
              id :: occurrences (rest.flatMap parameterEvent) := rfl
          rw [names, fillParameters, run_then]
          exact congrArg (fun filled => (Tree.parameter id hint :: filled.1, filled.2)) ih
      | _ => exact congrArg (fun filled => (_ :: filled.1, filled.2)) ih

/-- The first iterable of a comprehension is visited before its scope is opened, so its names come
first all the same. -/
theorem occurrences_walk_comprehension (kind : ComprehensionKind) (results clauses : List Tree) :
    occurrences (walk (.comprehension kind results clauses)) =
      occurrences (walkAll clauses) ++ occurrences (walkAll results) := by
  cases clauses with
  | nil =>
      simp only [walk, walkFirstIterable, walkClauses, walkAll, occurrences_inScope,
        List.nil_append]
      rfl
  | cons first rest =>
      cases first with
      | clause isAsync target iterable conditions =>
          simp only [walk, walkAll, walkFirstIterable, walkClauses, occurrences_append,
            occurrences_inScope, List.append_assoc]
      | _ =>
          simp only [walk, walkFirstIterable, walkClauses, walkAll, occurrences_append,
            occurrences_inScope, List.nil_append, List.append_assoc]

mutual

/-- A tree with its own names put in is what it was. -/
theorem fill_occurrences (tree : Tree) (others : List String) :
    (fill tree).run (occurrences (walk tree) ++ others) = (tree, others) := by
  cases tree with
  | name id context => rfl
  | constant value => rfl
  | slice lower upper step =>
      simp only [walk, fill, occurrences_append, List.append_assoc, run_then, run_done,
        fillAll_occurrences]
  | parameter id hint =>
      simp only [walk, fill, run_then, run_done, fillAll_occurrences]
  | lambda layout parameters defaults keywordDefaults body =>
      simp only [walk, fill, occurrences_append, occurrences_inScope, List.append_assoc, run_then,
        run_done, fillAll_occurrences, fillParameters_occurrences, fill_occurrences body]
  | function isAsync id layout decorators parameters defaults keywordDefaults returns body =>
      simp only [walk, fill, occurrences_append, occurrences_inScope, List.append_assoc, run_then,
        run_done, fillAll_occurrences, fillParameters_occurrences]
  | classDef id decorators bases keywords body =>
      simp only [walk, fill, occurrences_append, occurrences_inScope, List.append_assoc, run_then,
        run_done, fillAll_occurrences]
  | comprehension kind results clauses =>
      simp only [occurrences_walk_comprehension, fill, List.append_assoc, run_then, run_done,
        fillAll_occurrences]
  | clause isAsync target iterable conditions =>
      simp only [walk, fill, occurrences_append, List.append_assoc, run_then, run_done,
        fill_occurrences iterable, fillTarget_occurrences target, fillAll_occurrences]
  | loop isAsync target iterable body alternative =>
      simp only [walk, fill, occurrences_append, List.append_assoc, run_then, run_done,
        fill_occurrences iterable, fillTarget_occurrences target, fillAll_occurrences]
  | module body =>
      simp only [walk, fill, occurrences_inScope, run_then, run_done, fillAll_occurrences]
  | expression body =>
      simp only [walk, fill, occurrences_inScope, run_then, run_done, fill_occurrences body]
  | node form parts =>
      simp only [walk, fill, run_then, run_done, fillParts_occurrences]

theorem fillAll_occurrences (trees : List Tree) (others : List String) :
    (fillAll trees).run (occurrences (walkAll trees) ++ others) = (trees, others) := by
  cases trees with
  | nil => rfl
  | cons tree rest =>
      simp only [walkAll, fillAll, occurrences_append, List.append_assoc, run_then, run_done,
        fill_occurrences tree, fillAll_occurrences rest]

theorem fillParts_occurrences (parts : List (List Tree)) (others : List String) :
    (fillParts parts).run (occurrences (walkParts parts) ++ others) = (parts, others) := by
  cases parts with
  | nil => rfl
  | cons trees rest =>
      simp only [walkParts, fillParts, occurrences_append, List.append_assoc, run_then, run_done,
        fillAll_occurrences trees, fillParts_occurrences rest]

theorem fillTarget_occurrences (target : Tree) (others : List String) :
    (fillTarget target).run (occurrences (walkTarget target) ++ others) = (target, others) := by
  cases target with
  | node form parts =>
      cases form <;>
        simp only [walkTarget, fillTarget, run_then, run_done, fillTargetParts_occurrences,
          fillParts_occurrences]
  | _ => rfl

theorem fillTargets_occurrences (targets : List Tree) (others : List String) :
    (fillTargets targets).run (occurrences (walkTargets targets) ++ others) =
      (targets, others) := by
  cases targets with
  | nil => rfl
  | cons target rest =>
      simp only [walkTargets, fillTargets, occurrences_append, List.append_assoc, run_then,
        run_done, fillTarget_occurrences target, fillTargets_occurrences rest]

theorem fillTargetParts_occurrences (parts : List (List Tree)) (others : List String) :
    (fillTargetParts parts).run (occurrences (walkTargetParts parts) ++ others) =
      (parts, others) := by
  cases parts with
  | nil => rfl
  | cons targets rest =>
      simp only [walkTargetParts, fillTargetParts, occurrences_append, List.append_assoc, run_then,
        run_done, fillTargets_occurrences targets, fillTargetParts_occurrences rest]

end

/-! ### Events and their names -/

/-- An event without the name that occurs in it. -/
def Event.blank : Event → Event
  | use _ => use ""
  | bind _ => bind ""
  | event => event

/-- Events are told from their kinds and the names that occur in them. -/
theorem relabel_occurrences {events kinds : List Event}
    (same : kinds.map Event.blank = events.map Event.blank) (others : List String) :
    (relabel kinds).run (occurrences events ++ others) = (events, others) := by
  induction events generalizing kinds with
  | nil =>
      rw [List.map_eq_nil_iff.mp same]
      rfl
  | cons event rest ih =>
      rcases List.map_eq_cons_iff.mp same with ⟨kind, more, rfl, sameKind, sameRest⟩
      cases event <;> cases kind <;> cases sameKind <;>
        exact congrArg (fun relabelled => (_ :: relabelled.1, relabelled.2)) (ih sameRest)

/-! ### Replacing one use -/

/-- Put another name in the place of one that is used, at a place of the walk. -/
def replaceUse (tree : Tree) (place : Nat) (id : String) : Tree :=
  ((fill tree).run (occurrences ((walk tree).set place (.use id)))).1

section Replace

variable {tree : Tree} {place : Nat} {old : String}

theorem skeleton_replaceUse (tree : Tree) (place : Nat) (id : String) :
    skeleton (replaceUse tree place id) = skeleton tree := by
  simp only [skeleton, replaceUse, fill_fill]

/-- Nothing changes but the event at that place. -/
theorem walk_replaceUse (used : (walk tree)[place]? = some (.use old)) (id : String) :
    walk (replaceUse tree place id) = (walk tree).set place (.use id) := by
  rcases List.getElem?_eq_some_iff.mp used with ⟨inside, known⟩
  have same : (walk tree).map Event.blank = ((walk tree).set place (.use id)).map Event.blank := by
    have insideBlank : place < ((walk tree).map Event.blank).length := by simpa using inside
    have kept : ((walk tree).map Event.blank)[place] = .use "" := by
      rw [List.getElem_map, known]
      rfl
    rw [List.map_set, Event.blank, ← kept, List.set_getElem_self]
  have relabelled := relabel_occurrences same []
  rw [List.append_nil, relabel_walk] at relabelled
  exact congrArg Prod.fst relabelled

/-- A tree in which a name is replaced by itself is what it was. -/
theorem replaceUse_self (used : (walk tree)[place]? = some (.use old)) :
    replaceUse tree place old = tree := by
  rcases List.getElem?_eq_some_iff.mp used with ⟨inside, known⟩
  have filled := fill_occurrences tree []
  rw [List.append_nil] at filled
  rw [replaceUse, ← known, List.set_getElem_self, filled]

end Replace

end Canonical
end Snippet
end AnswerKey
