import AnswerKey.Proofs.Canonical.Walk

namespace AnswerKey
namespace Snippet
namespace Canonical

/-!
Renaming as a run over events.

With slices and documentation left alone, a visit does to a tree what it does to the list of its
events: the names it puts into the tree are those that the run over the events gives out, and it
leaves the same scopes behind (`visit_renders`).  Everything about names can therefore be shown
for lists of events.
-/

/-- The options under which names may be replaced, and nothing else. -/
def Options.namesOnly (renameLocals : Bool) : Options :=
  ⟨renameLocals, false, false⟩

/-- The names that take the place of those in some events. -/
def rename (options : Options) : List Event → StateM Scopes (List String)
  | [] => pure []
  | .enter :: rest => do
      Scopes.push
      rename options rest
  | .leave :: rest => do
      Scopes.pop
      rename options rest
  | .use id :: rest => do
      let id ← Scopes.resolve id
      let others ← rename options rest
      pure (id :: others)
  | .bind id :: rest => do
      let id ← Scopes.bind options id
      let others ← rename options rest
      pure (id :: others)

theorem rename_append (options : Options) (before after : List Event) (scopes : Scopes) :
    (rename options (before ++ after)).run scopes =
      (((rename options before).run scopes).1 ++
          ((rename options after).run ((rename options before).run scopes).2).1,
        ((rename options after).run ((rename options before).run scopes).2).2) := by
  induction before generalizing scopes with
  | nil => rfl
  | cons event rest ih =>
      cases event <;> simp only [List.cons_append, rename, run_then, run_done, ih]

/-- A run over events gives out one name for each occurrence. -/
theorem length_rename (options : Options) (events : List Event) (scopes : Scopes) :
    ((rename options events).run scopes).1.length = (occurrences events).length := by
  induction events generalizing scopes with
  | nil => rfl
  | cons event rest ih =>
      cases event <;>
        simp only [rename, occurrences, List.filterMap_cons, Event.id?, run_then, run_done,
          List.length_cons, Nat.add_right_cancel_iff] <;>
        exact ih _

/-! ### Programs that do the same to a tree and to its events -/

/-- A visitor renders some events with a filler: it leaves the scopes behind that the run over the
events leaves, and its result is what the filler makes of the names that the run gives out. -/
def Renders (renameLocals : Bool) {α : Type} (events : List Event)
    (filler : StateM (List String) α) (visitor : StateM Scopes α) : Prop :=
  forall scopes others,
    (visitor.run scopes).2 = ((rename (.namesOnly renameLocals) events).run scopes).2 ∧
      filler.run (((rename (.namesOnly renameLocals) events).run scopes).1 ++ others) =
        ((visitor.run scopes).1, others)

namespace Renders

variable {renameLocals : Bool} {α β : Type}

theorem done (value : α) : Renders renameLocals [] (pure value) (pure value) :=
  fun _ _ => ⟨rfl, rfl⟩

/-- The second part may rely on what holds of every result of the first. -/
theorem bindWhere {before after : List Event} {filler : StateM (List String) α}
    {visitor : StateM Scopes α} {nextFiller : α → StateM (List String) β}
    {nextVisitor : α → StateM Scopes β} (first : Renders renameLocals before filler visitor)
    (holds : α → Prop) (ofResult : ∀ scopes, holds (visitor.run scopes).1)
    (second : ∀ value, holds value →
      Renders renameLocals after (nextFiller value) (nextVisitor value)) :
    Renders renameLocals (before ++ after) (filler >>= nextFiller) (visitor >>= nextVisitor) := by
  intro scopes others
  rcases first scopes
      (((rename (.namesOnly renameLocals) after).run
        ((rename (.namesOnly renameLocals) before).run scopes).2).1 ++ others) with
    ⟨sameScopes, filled⟩
  rcases second (visitor.run scopes).1 (ofResult scopes)
      ((rename (.namesOnly renameLocals) before).run scopes).2 others with ⟨sameAfter, filledAfter⟩
  rw [rename_append, List.append_assoc]
  constructor
  · rw [run_then, sameScopes]
    exact sameAfter
  · rw [run_then, filled, run_then, sameScopes]
    exact filledAfter

theorem bind {before after : List Event} {filler : StateM (List String) α}
    {visitor : StateM Scopes α} {nextFiller : α → StateM (List String) β}
    {nextVisitor : α → StateM Scopes β} (first : Renders renameLocals before filler visitor)
    (second : ∀ value, Renders renameLocals after (nextFiller value) (nextVisitor value)) :
    Renders renameLocals (before ++ after) (filler >>= nextFiller) (visitor >>= nextVisitor) :=
  first.bindWhere (fun _ => True) (fun _ => trivial) fun value _ => second value

theorem andThen {events : List Event} {filler : StateM (List String) α}
    {visitor : StateM Scopes α} (rendered : Renders renameLocals events filler visitor)
    (change : α → β) :
    Renders renameLocals events (filler >>= fun value => pure (change value))
      (visitor >>= fun value => pure (change value)) := by
  have changed := rendered.bind fun value => done (change value)
  rwa [List.append_nil] at changed

theorem use (id : String) : Renders renameLocals [.use id] next (Scopes.resolve id) :=
  fun _ _ => ⟨rfl, rfl⟩

theorem binding (id : String) :
    Renders renameLocals [.bind id] next (Scopes.bind (.namesOnly renameLocals) id) :=
  fun _ _ => ⟨rfl, rfl⟩

/-- Opening a scope is nothing to the filler. -/
theorem enter {events : List Event} {filler : StateM (List String) α}
    {visitor : StateM Scopes α} (rendered : Renders renameLocals events filler visitor) :
    Renders renameLocals (.enter :: events) filler (Scopes.push >>= fun _ => visitor) :=
  fun scopes others => rendered ((Scopes.push).run scopes).2 others

/-- Closing a scope is nothing to the filler. -/
theorem leave {events : List Event} {filler : StateM (List String) α}
    {visitor : StateM Scopes α} (rendered : Renders renameLocals events filler visitor) :
    Renders renameLocals (.leave :: events) filler (Scopes.pop >>= fun _ => visitor) :=
  fun scopes others => rendered ((Scopes.pop).run scopes).2 others

theorem ofEq {events same : List Event} {filler : StateM (List String) α}
    {visitor : StateM Scopes α} (rendered : Renders renameLocals events filler visitor)
    (equal : same = events) : Renders renameLocals same filler visitor :=
  equal ▸ rendered

end Renders

/-! ### Parts of a visit -/

section Visit

variable (renameLocals : Bool)

/-- With documentation left alone, a body is visited like any other list of trees. -/
theorem visitBody_keep (options : Options) (trees : List Tree) :
    visitBody options false trees = visitAll options trees := by
  cases trees with
  | nil => simp only [visitBody, visitAll]
  | cons tree rest => simp only [visitBody, visitAll, Bool.false_and, Bool.false_eq_true, if_false]

theorem Renders.onBody {trees : List Tree}
    (rendered : Renders renameLocals (walkAll trees) (fillAll trees)
      (visitAll (.namesOnly renameLocals) trees)) :
    Renders renameLocals (walkAll trees) (fillAll trees)
      (visitBody (.namesOnly renameLocals) false trees) := by
  rw [visitBody_keep]
  exact rendered

/-- Clauses whose iterables have not been visited are visited like any other list of trees. -/
theorem visitClauses_none (options : Options) (clauses : List Tree) :
    visitClauses options none clauses = visitAll options clauses := by
  induction clauses with
  | nil => simp only [visitClauses, visitAll]
  | cons first rest ih =>
      cases first <;>
        simp only [visitClauses, visitAll, visit, ih, bind_assoc, pure_bind]

/-- A visit does not make a parameter of a tree that is none, and keeps the name of one. -/
theorem parameterEvent_visit (tree : Tree) (scopes : Scopes) :
    parameterEvent ((visit (.namesOnly renameLocals) tree).run scopes).1 = parameterEvent tree := by
  cases tree <;> simp only [visit] <;> rfl

theorem parameterEvents_visitAll (trees : List Tree) (scopes : Scopes) :
    ((visitAll (.namesOnly renameLocals) trees).run scopes).1.flatMap parameterEvent =
      trees.flatMap parameterEvent := by
  induction trees generalizing scopes with
  | nil => rfl
  | cons tree rest ih =>
      simp only [visitAll, run_then, run_done, List.flatMap_cons, parameterEvent_visit, ih]

theorem bindParameters_renders (trees : List Tree) :
    Renders renameLocals (trees.flatMap parameterEvent) (fillParameters trees)
      (bindParameters (.namesOnly renameLocals) trees) := by
  induction trees with
  | nil => exact Renders.done []
  | cons tree rest ih =>
      cases tree with
      | parameter id hint =>
          exact (Renders.binding id).bind fun id =>
            ih.andThen fun rest => Tree.parameter id hint :: rest
      | _ => exact ih.andThen _

mutual

/-- A visit puts into a tree the names that the run over its events gives out. -/
theorem visit_renders (tree : Tree) :
    Renders renameLocals (walk tree) (fill tree) (visit (.namesOnly renameLocals) tree) := by
  cases tree with
  | name id context =>
      rw [walk, fill, visit]
      exact (Renders.use id).andThen fun id => Tree.name id context
  | constant value =>
      rw [walk, fill, visit]
      exact Renders.done _
  | slice lower upper step =>
      have rendered := (visitAll_renders lower).bind fun lower =>
        (visitAll_renders upper).bind fun upper =>
          (visitAll_renders step).andThen fun step => Tree.slice lower upper step
      rw [walk, fill, visit, List.append_assoc]
      exact rendered
  | parameter id hint =>
      rw [walk, fill, visit]
      exact (visitAll_renders hint).andThen (Tree.parameter id)
  | lambda layout parameters defaults keywordDefaults body =>
      have rendered := (visitAll_renders defaults).bind fun defaults =>
        (visitAll_renders keywordDefaults).bind fun keywordDefaults =>
          (visitAll_renders parameters).bindWhere
            (fun visited => visited.flatMap parameterEvent = parameters.flatMap parameterEvent)
            (parameterEvents_visitAll renameLocals parameters) fun visited same =>
              Renders.enter <|
                ((bindParameters_renders renameLocals visited).ofEq same.symm).bind fun bound =>
                  (visit_renders body).bind fun body =>
                    Renders.leave
                      (Renders.done (Tree.lambda layout bound defaults keywordDefaults body))
      rw [fill, visit]
      exact rendered.ofEq (by simp only [walk, inScope, List.append_assoc])
  | function isAsync id layout decorators parameters defaults keywordDefaults returns body =>
      have rendered := (visitAll_renders decorators).bind fun decorators =>
        (visitAll_renders defaults).bind fun defaults =>
          (visitAll_renders keywordDefaults).bind fun keywordDefaults =>
            (visitAll_renders parameters).bindWhere
              (fun visited => visited.flatMap parameterEvent = parameters.flatMap parameterEvent)
              (parameterEvents_visitAll renameLocals parameters) fun visited same =>
                (visitAll_renders returns).bind fun returns => Renders.enter <|
                  ((bindParameters_renders renameLocals visited).ofEq same.symm).bind fun bound =>
                    ((visitAll_renders body).onBody).bind fun body => Renders.leave (Renders.done
                      (Tree.function isAsync id layout decorators bound defaults keywordDefaults
                        returns body))
      rw [fill, visit]
      exact rendered.ofEq (by simp only [walk, inScope, List.append_assoc])
  | classDef id decorators bases keywords body =>
      have rendered := (visitAll_renders decorators).bind fun decorators =>
        (visitAll_renders bases).bind fun bases =>
          (visitAll_renders keywords).bind fun keywords => Renders.enter <|
            ((visitAll_renders body).onBody).bind fun body =>
              Renders.leave (Renders.done (Tree.classDef id decorators bases keywords body))
      rw [fill, visit]
      exact rendered.ofEq (by simp only [walk, inScope, List.append_assoc])
  | comprehension kind results clauses =>
      have inside := (visitAll_renders clauses).bind fun clauses =>
        (visitAll_renders results).bind fun results =>
          Renders.leave (Renders.done (Tree.comprehension kind results clauses))
      cases clauses with
      | nil =>
          rw [fill, visit, visitFirstIterable, pure_bind, visitClauses_none]
          · exact inside.enter.ofEq (by
              simp only [walk, walkFirstIterable, walkClauses, walkAll, inScope, List.nil_append])
          · exact fun _ _ _ _ _ => nofun
      | cons first rest =>
          cases first with
          | clause isAsync target iterable conditions =>
              have rendered := (visit_renders iterable).bind fun iterable => Renders.enter <|
                (bindTarget_renders target).bind fun target =>
                  (visitAll_renders conditions).bind fun conditions =>
                    (visitAll_renders rest).bind fun rest =>
                      (visitAll_renders results).bind fun results =>
                        Renders.leave (Renders.done (Tree.comprehension kind results
                          (Tree.clause isAsync target iterable conditions :: rest)))
              simp only [fill, fillAll, visit, visitFirstIterable, visitClauses, visitClauses_none,
                bind_assoc, pure_bind]
              exact rendered.ofEq (by
                simp only [walk, walkFirstIterable, walkClauses, inScope, List.append_assoc])
          | _ =>
              rw [fill, visit, visitFirstIterable, pure_bind, visitClauses_none]
              · exact inside.enter.ofEq (by
                  simp only [walk, walkFirstIterable, walkClauses, walkAll, inScope,
                    List.append_assoc, List.nil_append])
              · exact fun _ _ _ _ _ => nofun
  | clause isAsync target iterable conditions =>
      have rendered := (visit_renders iterable).bind fun iterable =>
        (bindTarget_renders target).bind fun target =>
          (visitAll_renders conditions).andThen (Tree.clause isAsync target iterable)
      rw [walk, fill, visit, List.append_assoc]
      exact rendered
  | loop isAsync target iterable body alternative =>
      have rendered := (visit_renders iterable).bind fun iterable =>
        (bindTarget_renders target).bind fun target =>
          (visitAll_renders body).bind fun body =>
            (visitAll_renders alternative).andThen (Tree.loop isAsync target iterable body)
      rw [walk, fill, visit, List.append_assoc, List.append_assoc]
      exact rendered
  | module body =>
      rw [walk, fill, visit]
      exact Renders.enter <| ((visitAll_renders body).onBody).bind fun body =>
        Renders.leave (Renders.done (Tree.module body))
  | expression body =>
      rw [walk, fill, visit]
      exact Renders.enter <| (visit_renders body).bind fun body =>
        Renders.leave (Renders.done (Tree.expression body))
  | node form parts =>
      rw [walk, fill, visit]
      exact (visitParts_renders parts).andThen (Tree.node form)

theorem visitAll_renders (trees : List Tree) :
    Renders renameLocals (walkAll trees) (fillAll trees)
      (visitAll (.namesOnly renameLocals) trees) := by
  cases trees with
  | nil => exact Renders.done []
  | cons tree rest =>
      rw [walkAll, fillAll, visitAll]
      exact (visit_renders tree).bind fun tree =>
        (visitAll_renders rest).andThen fun rest => tree :: rest

theorem visitParts_renders (parts : List (List Tree)) :
    Renders renameLocals (walkParts parts) (fillParts parts)
      (visitParts (.namesOnly renameLocals) parts) := by
  cases parts with
  | nil => exact Renders.done []
  | cons trees rest =>
      rw [walkParts, fillParts, visitParts]
      exact (visitAll_renders trees).bind fun trees =>
        (visitParts_renders rest).andThen fun rest => trees :: rest

theorem bindTarget_renders (target : Tree) :
    Renders renameLocals (walkTarget target) (fillTarget target)
      (bindTarget (.namesOnly renameLocals) target) := by
  cases target with
  | name id context =>
      rw [walkTarget, fillTarget, bindTarget]
      exact (Renders.binding id).andThen fun id => Tree.name id context
  | node form parts =>
      have asTargets := bindTargetParts_renders parts
      have asTrees := visitParts_renders parts
      cases form <;> simp only [walkTarget, fillTarget, bindTarget] <;>
        first
          | exact asTargets.andThen _
          | exact asTrees.andThen _
  | _ => exact Renders.done _

theorem bindTargets_renders (targets : List Tree) :
    Renders renameLocals (walkTargets targets) (fillTargets targets)
      (bindTargets (.namesOnly renameLocals) targets) := by
  cases targets with
  | nil => exact Renders.done []
  | cons target rest =>
      rw [walkTargets, fillTargets, bindTargets]
      exact (bindTarget_renders target).bind fun target =>
        (bindTargets_renders rest).andThen fun rest => target :: rest

theorem bindTargetParts_renders (parts : List (List Tree)) :
    Renders renameLocals (walkTargetParts parts) (fillTargetParts parts)
      (bindTargetParts (.namesOnly renameLocals) parts) := by
  cases parts with
  | nil => exact Renders.done []
  | cons targets rest =>
      rw [walkTargetParts, fillTargetParts, bindTargetParts]
      exact (bindTargets_renders targets).bind fun targets =>
        (bindTargetParts_renders rest).andThen fun rest => targets :: rest

end

end Visit

/-! ### The canonical form of a whole tree -/

section Whole

variable (renameLocals : Bool)

/-- The names that stand in the canonical form of a tree, in the order of the walk. -/
def canonicalNames (tree : Tree) : List String :=
  ((rename (.namesOnly renameLocals) (walk tree)).run .empty).1

/-- The canonical form is the tree with its canonical names put in. -/
theorem fill_canonicalNames (tree : Tree) :
    (fill tree).run (canonicalNames renameLocals tree) =
      (ofTree (.namesOnly renameLocals) tree, []) := by
  have rendered := (visit_renders renameLocals tree .empty []).2
  rwa [List.append_nil] at rendered

theorem skeleton_ofTree (tree : Tree) :
    skeleton (ofTree (.namesOnly renameLocals) tree) = skeleton tree := by
  have filled := fill_fill tree (canonicalNames renameLocals tree)
  rw [fill_canonicalNames] at filled
  simp only [skeleton, filled]

/-- Names that are put in, one for each occurrence, are those that occur afterwards. -/
theorem occurrences_relabel (events : List Event) (names : List String)
    (enough : names.length = (occurrences events).length) :
    occurrences ((relabel events).run names).1 = names := by
  induction events generalizing names with
  | nil =>
      have isNil : names = [] := List.length_eq_zero_iff.mp enough
      rw [isNil]
      rfl
  | cons event rest ih =>
      cases event with
      | enter => exact ih names enough
      | leave => exact ih names enough
      | use id =>
          cases names with
          | nil => cases enough
          | cons name others =>
              exact congrArg (name :: ·) (ih others (Nat.succ.inj enough))
      | bind id =>
          cases names with
          | nil => cases enough
          | cons name others =>
              exact congrArg (name :: ·) (ih others (Nat.succ.inj enough))

theorem occurrences_walk_ofTree (tree : Tree) :
    occurrences (walk (ofTree (.namesOnly renameLocals) tree)) =
      canonicalNames renameLocals tree := by
  have relabelled := relabel_walk tree (canonicalNames renameLocals tree)
  rw [fill_canonicalNames] at relabelled
  have enough : (canonicalNames renameLocals tree).length = (occurrences (walk tree)).length :=
    length_rename _ _ _
  rw [← occurrences_relabel (walk tree) (canonicalNames renameLocals tree) enough, relabelled]

/-- Two canonical forms are the same when the skeletons of the trees are and the same names are put
into them. -/
theorem ofTree_eq_iff_names (first second : Tree) :
    ofTree (.namesOnly renameLocals) first = ofTree (.namesOnly renameLocals) second ↔
      skeleton first = skeleton second ∧
        canonicalNames renameLocals first = canonicalNames renameLocals second := by
  constructor
  · intro same
    constructor
    · rw [← skeleton_ofTree renameLocals first, same, skeleton_ofTree]
    · rw [← occurrences_walk_ofTree, same, occurrences_walk_ofTree]
  · rintro ⟨sameSkeleton, sameNames⟩
    have filler (tree : Tree) : fill (skeleton tree) = fill tree := fill_fill tree []
    have filledFirst := fill_canonicalNames renameLocals first
    have filledSecond := fill_canonicalNames renameLocals second
    rw [← filler first, sameSkeleton, filler, sameNames, filledSecond] at filledFirst
    exact (congrArg Prod.fst filledFirst).symm

end Whole

end Canonical
end Snippet
end AnswerKey
