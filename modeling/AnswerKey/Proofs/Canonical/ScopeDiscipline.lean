import AnswerKey.Proofs.Canonical.Composition

namespace AnswerKey
namespace Snippet
namespace Canonical

/-!
The discipline of scopes.

A visit meets the scopes of a tree in pairs: whatever it opens it closes again, so that below the
innermost scope nothing changes, and in the innermost scope itself nothing but new bindings come
in (`Scopes.Grows`).  New placeholders are taken from the counter, so they are apart from all that
are on the stack (`Scopes.Sound`).  Both are shown for the run over events that come in pairs
(`Paired`), once for each way to build such events, and the events of every tree are of that kind
(`paired_walk`); those of an expression bind nothing outside of the scopes that the expression
opens by itself.
-/

namespace Scopes

/-! ### States of a visit -/

/-- The placeholders that are given out by the open scopes. -/
def placeholders (scopes : Scopes) : List String :=
  scopes.stack.flatten.map fun entry => placeholder entry.2

/-- The open scopes map names to placeholders that are pairwise distinct and numbered below the
counter. -/
structure Sound (scopes : Scopes) : Prop where
  /-- No scope binds a name twice. -/
  names : ∀ scope ∈ scopes.stack, (scope.map Prod.fst).Nodup
  distinct : scopes.placeholders.Nodup
  below : ∀ entry ∈ scopes.stack.flatten, entry.2 < scopes.next

/-- The second scope holds what the first one holds, in the same places, and perhaps more. -/
structure Gains (before after : List (String × Nat)) : Prop where
  entries : ∃ gained, after = gained ++ before
  kept : ∀ id index, before.lookup id = some index → after.lookup id = some index

/-- What may have happened to the scopes when a visit is over. -/
structure Grows (before after : Scopes) : Prop where
  depth : after.stack.length = before.stack.length
  outer : after.stack.tail = before.stack.tail
  innermost : ∀ scope ∈ before.stack.head?, ∃ grown ∈ after.stack.head?, Gains scope grown
  next : before.next ≤ after.next

theorem Gains.refl (scope : List (String × Nat)) : Gains scope scope :=
  ⟨⟨[], rfl⟩, fun _ _ found => found⟩

theorem Gains.trans {first second third : List (String × Nat)} (early : Gains first second)
    (late : Gains second third) : Gains first third := by
  obtain ⟨gained, rfl⟩ := early.entries
  obtain ⟨more, rfl⟩ := late.entries
  exact ⟨⟨more ++ gained, (List.append_assoc more gained first).symm⟩,
    fun id index found => late.kept id index (early.kept id index found)⟩

/-- A new name takes nothing away from those that were bound before. -/
theorem Gains.cons {scope : List (String × Nat)} {id : String} (unbound : scope.lookup id = none)
    (index : Nat) : Gains scope ((id, index) :: scope) := by
  refine ⟨⟨[(id, index)], rfl⟩, fun other found known => ?_⟩
  rw [List.lookup_cons]
  split
  · rename_i same
    rw [eq_of_beq same, unbound] at known
    cases known
  · exact known

namespace Grows

variable {first second third : Scopes}

theorem refl (scopes : Scopes) : scopes.Grows scopes :=
  ⟨rfl, rfl, fun scope member => ⟨scope, member, .refl scope⟩, Nat.le_refl _⟩

theorem trans (early : first.Grows second) (late : second.Grows third) : first.Grows third where
  depth := late.depth.trans early.depth
  outer := late.outer.trans early.outer
  innermost scope member := by
    obtain ⟨between, there, gained⟩ := early.innermost scope member
    obtain ⟨grown, last, more⟩ := late.innermost between there
    exact ⟨grown, last, gained.trans more⟩
  next := Nat.le_trans early.next late.next

/-- The counter may have gone on. -/
theorem advanced (scopes : Scopes) {later : Nat} (further : scopes.next ≤ later) :
    scopes.Grows ⟨scopes.stack, later⟩ :=
  ⟨rfl, rfl, fun scope member => ⟨scope, member, .refl scope⟩, further⟩

end Grows

/-- What a run inside of a new scope leaves when the scope is closed: the stack from before. -/
theorem drop_stack_of_grows {scopes after : Scopes}
    (grows : Grows ⟨[] :: scopes.stack, scopes.next⟩ after) : after.stack.drop 1 = scopes.stack := by
  rw [List.drop_one]
  exact grows.outer

theorem Sound.entered {scopes : Scopes} (sound : scopes.Sound) :
    Sound ⟨[] :: scopes.stack, scopes.next⟩ where
  names := List.forall_mem_cons.mpr ⟨List.nodup_nil, sound.names⟩
  distinct := sound.distinct
  below := sound.below

/-- The stack from before is sound under a counter that has gone on. -/
theorem Sound.advanced {scopes : Scopes} (sound : scopes.Sound) {later : Nat}
    (further : scopes.next ≤ later) : Sound ⟨scopes.stack, later⟩ where
  names := sound.names
  distinct := sound.distinct
  below entry member := Nat.lt_of_lt_of_le (sound.below entry member) further

theorem sound_empty : empty.Sound where
  names := nofun
  distinct := List.nodup_nil
  below := nofun

/-! ### One binding -/

section Bind

variable (options : Options) (id : String) {scopes : Scopes}

/-- A binding leaves the scopes as they are, or the innermost one gains a name under the number of
the counter. -/
theorem bind_cases (scopes : Scopes) :
    ((bind options id).run scopes).2 = scopes ∨
      options.renameLocals = true ∧ ∃ scope outer, scopes.stack = scope :: outer ∧
        scope.lookup id = none ∧
          ((bind options id).run scopes).2 =
            ⟨((id, scopes.next) :: scope) :: outer, scopes.next + 1⟩ := by
  obtain ⟨_ | ⟨scope, outer⟩, next⟩ := scopes
  · exact .inl rfl
  · cases renames : options.renameLocals with
    | false =>
        left
        simp only [StateT.run, bind, renames, Bool.false_eq_true, if_false]
    | true =>
        cases known : scope.lookup id with
        | some index =>
            left
            simp only [StateT.run, bind, renames, if_true, known]
        | none =>
            refine .inr ⟨rfl, scope, outer, rfl, known, ?_⟩
            simp only [StateT.run, bind, renames, if_true, known]

theorem bind_of_keep (keeps : options.renameLocals = false) (scopes : Scopes) :
    (bind options id).run scopes = (id, scopes) := by
  simp only [StateT.run, bind, keeps, Bool.false_eq_true, if_false]
  split <;> rfl

theorem grows_bind (scopes : Scopes) : scopes.Grows ((bind options id).run scopes).2 := by
  obtain same | ⟨-, scope, outer, stack, unbound, bound⟩ := bind_cases options id scopes
  · rw [same]
    exact .refl scopes
  · rw [bound]
    refine ⟨?_, ?_, fun old member => ?_, Nat.le_succ _⟩
    · rw [stack]
      rfl
    · rw [stack]
      rfl
    · rw [stack, List.head?_cons, Option.mem_some_iff] at member
      subst member
      exact ⟨_, rfl, .cons unbound _⟩

theorem mem_of_lookup_eq_none {scope : List (String × Nat)} (unbound : scope.lookup id = none) :
    id ∉ scope.map Prod.fst := by
  intro member
  obtain ⟨entry, inside, rfl⟩ := List.mem_map.mp member
  exact absurd (beq_self_eq_true entry.1)
    (Bool.eq_false_iff.mp (by simpa using List.lookup_eq_none_iff.mp unbound entry inside))

/-- The placeholder of a new name is on no scope, because its number is the counter. -/
theorem sound_bind (sound : scopes.Sound) : Sound ((bind options id).run scopes).2 := by
  obtain same | ⟨-, scope, outer, stack, unbound, bound⟩ := bind_cases options id scopes
  · rw [same]
    exact sound
  · rw [bound]
    have names := sound.names
    have distinct := sound.distinct
    have below := sound.below
    rw [placeholders, stack, List.flatten_cons] at distinct
    rw [stack] at names
    rw [stack, List.flatten_cons] at below
    obtain ⟨innermost, others⟩ := List.forall_mem_cons.mp names
    constructor
    · exact List.forall_mem_cons.mpr
        ⟨List.nodup_cons.mpr ⟨mem_of_lookup_eq_none id unbound, innermost⟩, others⟩
    · rw [placeholders, List.flatten_cons, List.cons_append, List.map_cons]
      refine List.nodup_cons.mpr ⟨fun taken => ?_, distinct⟩
      obtain ⟨entry, inside, same⟩ := List.mem_map.mp taken
      exact Nat.ne_of_lt (below entry inside) (placeholder_injective same)
    · rw [List.flatten_cons, List.cons_append]
      exact List.forall_mem_cons.mpr ⟨Nat.lt_succ_self _,
        fun entry inside => Nat.lt_succ_of_lt (below entry inside)⟩

end Bind

theorem resolve_keeps (id : String) (scopes : Scopes) : ((resolve id).run scopes).2 = scopes := by
  simp only [StateT.run, resolve]
  split <;> rfl

end Scopes

/-! ### Events in pairs -/

/-- Events that close every scope which they open.  The flag tells whether a name may be bound
outside of the scopes that are opened. -/
inductive Paired : (binding : Bool) → List Event → Prop where
  | nil {binding : Bool} : Paired binding []
  | use (id : String) {binding : Bool} {rest : List Event} :
      Paired binding rest → Paired binding (.use id :: rest)
  | bind (id : String) {rest : List Event} : Paired true rest → Paired true (.bind id :: rest)
  | scope {binding : Bool} {inside rest : List Event} :
      Paired true inside → Paired binding rest → Paired binding (inScope inside ++ rest)

namespace Paired

variable {binding : Bool} {events others : List Event}

theorem lax (paired : Paired binding events) : Paired true events := by
  induction paired with
  | nil => exact .nil
  | use id _ ih => exact .use id ih
  | bind id _ ih => exact .bind id ih
  | scope inside _ _ ih => exact .scope inside ih

theorem append (paired : Paired binding events) (more : Paired binding others) :
    Paired binding (events ++ others) := by
  induction paired with
  | nil => exact more
  | use id _ ih => exact .use id (ih more)
  | bind id _ ih => exact .bind id (ih more)
  | scope inside _ _ ih =>
      rw [List.append_assoc]
      exact .scope inside (ih more)

theorem inScope (paired : Paired true events) : Paired binding (inScope events) := by
  have closed : Paired binding (Canonical.inScope events ++ []) := scope paired .nil
  rwa [List.append_nil] at closed

end Paired

/-! ### Runs over events in pairs -/

section Run

variable (options : Options) {binding : Bool} {events : List Event}

/-- A run through a scope: inside of it on top of an empty scope, and behind it without that. -/
theorem run_scope (inside rest : List Event) (scopes : Scopes) :
    ((rename options (inScope inside ++ rest)).run scopes).2 =
      ((rename options rest).run
        ⟨((rename options inside).run ⟨[] :: scopes.stack, scopes.next⟩).2.stack.drop 1,
          ((rename options inside).run ⟨[] :: scopes.stack, scopes.next⟩).2.next⟩).2 := by
  rw [rename_append, inScope, rename, run_then, rename_append]
  rfl

/-- Scopes grow over events in pairs. -/
theorem grows_rename (paired : Paired binding events) (scopes : Scopes) :
    scopes.Grows ((rename options events).run scopes).2 := by
  induction paired generalizing scopes with
  | nil => exact .refl scopes
  | use id _ ih =>
      simp only [rename, run_then, run_done, Scopes.resolve_keeps]
      exact ih scopes
  | bind id _ ih =>
      simp only [rename, run_then, run_done]
      exact (Scopes.grows_bind options id scopes).trans (ih _)
  | scope _ _ ihInside ihRest =>
      have grows := ihInside ⟨[] :: scopes.stack, scopes.next⟩
      rw [run_scope, Scopes.drop_stack_of_grows grows]
      exact (Scopes.Grows.advanced scopes grows.next).trans (ihRest _)

/-- Sound scopes stay sound over events in pairs. -/
theorem sound_rename (paired : Paired binding events) {scopes : Scopes} (sound : scopes.Sound) :
    Scopes.Sound ((rename options events).run scopes).2 := by
  induction paired generalizing scopes with
  | nil => exact sound
  | use id _ ih =>
      simp only [rename, run_then, run_done, Scopes.resolve_keeps]
      exact ih sound
  | bind id _ ih =>
      simp only [rename, run_then, run_done]
      exact ih (Scopes.sound_bind options id sound)
  | scope inside _ _ ihRest =>
      have grows := grows_rename options inside ⟨[] :: scopes.stack, scopes.next⟩
      rw [run_scope, Scopes.drop_stack_of_grows grows]
      exact ihRest (sound.advanced grows.next)

/-- Where nothing is bound outside of the scopes that are opened, no open scope changes. -/
theorem stack_rename (paired : Paired binding events) (quiet : binding = false) (scopes : Scopes) :
    ((rename options events).run scopes).2.stack = scopes.stack := by
  induction paired generalizing scopes with
  | nil => rfl
  | use id _ ih =>
      simp only [rename, run_then, run_done, Scopes.resolve_keeps]
      exact ih quiet scopes
  | bind id _ _ => cases quiet
  | scope inside _ _ ihRest =>
      have grows := grows_rename options inside ⟨[] :: scopes.stack, scopes.next⟩
      rw [run_scope, Scopes.drop_stack_of_grows grows]
      exact ihRest quiet _

/-- With renaming off, a run leaves the scopes behind that it began with. -/
theorem run_of_keep (keeps : options.renameLocals = false) (paired : Paired binding events)
    (scopes : Scopes) : ((rename options events).run scopes).2 = scopes := by
  induction paired generalizing scopes with
  | nil => rfl
  | use id _ ih =>
      simp only [rename, run_then, run_done, Scopes.resolve_keeps]
      exact ih scopes
  | bind id _ ih =>
      simp only [rename, run_then, run_done, Scopes.bind_of_keep options id keeps]
      exact ih scopes
  | scope _ _ ihInside ihRest =>
      rw [run_scope, ihInside]
      exact ihRest scopes

/-- With renaming off, a name that no open scope binds stays what it is. -/
theorem names_of_keep (keeps : options.renameLocals = false) (paired : Paired binding events)
    (scopes : Scopes)
    (unbound : ∀ id, .use id ∈ events → Scopes.find? id scopes.stack = none) :
    ((rename options events).run scopes).1 = occurrences events := by
  induction paired generalizing scopes with
  | nil => rfl
  | use id _ ih =>
      have resolved : (Scopes.resolve id).run scopes = (id, scopes) := by
        rw [StateT.run, Scopes.resolve, unbound id List.mem_cons_self]
      simp only [rename, run_then, run_done, resolved]
      rw [ih scopes fun other member => unbound other (List.mem_cons_of_mem _ member)]
      rfl
  | bind id _ ih =>
      simp only [rename, run_then, run_done, Scopes.bind_of_keep options id keeps]
      rw [ih scopes fun other member => unbound other (List.mem_cons_of_mem _ member)]
      rfl
  | @scope _ inside rest insidePaired _ ihInside ihRest =>
      have names := ihInside ⟨[] :: scopes.stack, scopes.next⟩ fun id member =>
        unbound id (List.mem_append_left _
          (List.mem_cons_of_mem _ (List.mem_append_left _ member)))
      have entered : ((rename options (inScope inside)).run scopes).1 =
          ((rename options inside).run ⟨[] :: scopes.stack, scopes.next⟩).1 := by
        rw [inScope, rename, run_then, rename_append]
        exact List.append_nil _
      have inScopePaired : Paired true (inScope inside) := insidePaired.inScope
      have kept := run_of_keep options keeps inScopePaired scopes
      rw [rename_append, occurrences_append, occurrences_inScope, entered, names, kept,
        ihRest scopes fun id member => unbound id (List.mem_append_right _ member)]

end Run

end Canonical

/-! ### Expressions -/

/-- Whether a form is that of an expression, or of an argument by name in one. -/
def Form.isExpression : Form → Bool
  | .boolean _ | .named | .binary _ | .unary _ | .conditional | .dict _ | .set | .await | .yield
  | .yieldFrom | .compare _ | .call | .keyword _ | .interpolation _ | .joined | .attribute _ _
  | .subscript _ | .starred _ | .list _ | .tuple _ => true
  | _ => false

namespace Tree

mutual

/-- Whether a tree is an expression, so that all its parts are expressions, or parameters of a
lambda, or clauses of a comprehension. -/
def isExpression : Tree → Bool
  | name _ _ => true
  | constant _ => true
  | slice lower upper step =>
      isExpressionAll lower && isExpressionAll upper && isExpressionAll step
  | lambda _ parameters defaults keywordDefaults body =>
      isExpressionAll defaults && isExpressionAll keywordDefaults && areParameters parameters &&
        isExpression body
  | comprehension _ results clauses => areClauses clauses && isExpressionAll results
  | node form parts => form.isExpression && isExpressionParts parts
  | _ => false

/-- The same for some trees. -/
def isExpressionAll : List Tree → Bool
  | [] => true
  | tree :: rest => isExpression tree && isExpressionAll rest

/-- The same for the trees of some positions. -/
def isExpressionParts : List (List Tree) → Bool
  | [] => true
  | trees :: rest => isExpressionAll trees && isExpressionParts rest

/-- Whether some trees are parameters. -/
def areParameters : List Tree → Bool
  | [] => true
  | parameter _ hint :: rest => isExpressionAll hint && areParameters rest
  | _ => false

/-- Whether some trees are clauses of a comprehension. -/
def areClauses : List Tree → Bool
  | [] => true
  | clause _ target iterable conditions :: rest =>
      isExpression iterable && isExpression target && isExpressionAll conditions && areClauses rest
  | _ => false

end

end Tree

namespace Canonical

/-! ### The events of a tree come in pairs -/

namespace Paired

variable {first second : Bool} {events others : List Event}

/-- What binds nothing under one condition binds nothing under a stronger one. -/
theorem when (implies : second = true → first = true) (paired : Paired (!first) events) :
    Paired (!second) events := by
  cases second with
  | true =>
      rw [implies rfl] at paired
      exact paired
  | false => exact paired.lax

theorem both (left : Paired (!first) events) (right : Paired (!second) others) :
    Paired (!(first && second)) (events ++ others) :=
  (left.when fun holds => (Bool.and_eq_true_iff.mp holds).1).append
    (right.when fun holds => (Bool.and_eq_true_iff.mp holds).2)

end Paired

theorem paired_parameterEvents (parameters : List Tree) :
    Paired true (parameters.flatMap parameterEvent) := by
  induction parameters with
  | nil => exact .nil
  | cons tree rest ih =>
      rw [List.flatMap_cons]
      cases tree with
      | parameter id hint => exact .bind id ih
      | _ => exact ih

mutual

/-- A tree closes every scope that it opens, and an expression binds nothing outside of them. -/
theorem paired_walk (tree : Tree) : Paired (!tree.isExpression) (walk tree) := by
  cases tree with
  | name id context => exact .use id .nil
  | constant value => exact .nil
  | slice lower upper step =>
      rw [walk, Tree.isExpression]
      exact ((paired_walkAll lower).both (paired_walkAll upper)).both (paired_walkAll step)
  | parameter id hint =>
      rw [walk]
      exact (paired_walkAll hint).lax
  | lambda layout parameters defaults keywordDefaults body =>
      have inside := (paired_parameterEvents parameters).append (paired_walk body).lax
      rw [walk, Tree.isExpression]
      exact (((paired_walkAll defaults).both (paired_walkAll keywordDefaults)).both
        (paired_walkParameters parameters)).both inside.inScope
  | function isAsync id layout decorators parameters defaults keywordDefaults returns body =>
      have inside := (paired_parameterEvents parameters).append (paired_walkAll body).lax
      rw [walk]
      exact (((((paired_walkAll decorators).lax.append (paired_walkAll defaults).lax).append
        (paired_walkAll keywordDefaults).lax).append (paired_walkAll parameters).lax).append
          (paired_walkAll returns).lax).append inside.inScope
  | classDef id decorators bases keywords body =>
      rw [walk]
      exact (((paired_walkAll decorators).lax.append (paired_walkAll bases).lax).append
        (paired_walkAll keywords).lax).append (paired_walkAll body).lax.inScope
  | comprehension kind results clauses =>
      have inside := (paired_walkClauses clauses).append (paired_walkAll results).lax
      rw [walk, Tree.isExpression]
      exact (paired_walkFirstIterable clauses).both inside.inScope
  | clause isAsync target iterable conditions =>
      rw [walk]
      exact ((paired_walk iterable).lax.append (paired_walkTarget target)).append
        (paired_walkAll conditions).lax
  | loop isAsync target iterable body alternative =>
      rw [walk]
      exact (((paired_walk iterable).lax.append (paired_walkTarget target)).append
        (paired_walkAll body).lax).append (paired_walkAll alternative).lax
  | module body =>
      rw [walk]
      exact (paired_walkAll body).lax.inScope
  | expression body =>
      rw [walk]
      exact (paired_walk body).lax.inScope
  | node form parts =>
      rw [walk, Tree.isExpression]
      exact (paired_walkParts parts).when fun holds => (Bool.and_eq_true_iff.mp holds).2

theorem paired_walkAll (trees : List Tree) : Paired (!Tree.isExpressionAll trees) (walkAll trees) := by
  cases trees with
  | nil => exact .nil
  | cons tree rest =>
      rw [walkAll, Tree.isExpressionAll]
      exact (paired_walk tree).both (paired_walkAll rest)

theorem paired_walkParts (parts : List (List Tree)) :
    Paired (!Tree.isExpressionParts parts) (walkParts parts) := by
  cases parts with
  | nil => exact .nil
  | cons trees rest =>
      rw [walkParts, Tree.isExpressionParts]
      exact (paired_walkAll trees).both (paired_walkParts rest)

/-- The type hints of parameters bind nothing. -/
theorem paired_walkParameters (parameters : List Tree) :
    Paired (!Tree.areParameters parameters) (walkAll parameters) := by
  cases parameters with
  | nil => exact .nil
  | cons tree rest =>
      cases tree with
      | parameter id hint =>
          rw [walkAll, walk, Tree.areParameters]
          exact (paired_walkAll hint).both (paired_walkParameters rest)
      | _ =>
          rw [walkAll]
          exact (paired_walk _).lax.append (paired_walkAll rest).lax

theorem paired_walkFirstIterable (clauses : List Tree) :
    Paired (!Tree.areClauses clauses) (walkFirstIterable clauses) := by
  cases clauses with
  | nil => exact .nil
  | cons tree rest =>
      cases tree with
      | clause isAsync target iterable conditions =>
          rw [walkFirstIterable]
          refine (paired_walk iterable).when fun holds => ?_
          rw [Tree.areClauses] at holds
          simp only [Bool.and_eq_true] at holds
          exact holds.1.1.1
      | _ => exact .nil

theorem paired_walkClauses (clauses : List Tree) : Paired true (walkClauses clauses) := by
  cases clauses with
  | nil => exact .nil
  | cons tree rest =>
      cases tree with
      | clause isAsync target iterable conditions =>
          rw [walkClauses]
          exact ((paired_walkTarget target).append (paired_walkAll conditions).lax).append
            (paired_walkAll rest).lax
      | _ =>
          rw [walkClauses]
          · exact (paired_walk _).lax.append (paired_walkAll rest).lax
          · exact nofun

theorem paired_walkTarget (target : Tree) : Paired true (walkTarget target) := by
  cases target with
  | name id context => exact .bind id .nil
  | node form parts =>
      cases form with
      | tuple context =>
          rw [walkTarget]
          exact paired_walkTargetParts parts
      | list context =>
          rw [walkTarget]
          exact paired_walkTargetParts parts
      | starred context =>
          rw [walkTarget]
          exact paired_walkTargetParts parts
      | _ =>
          rw [walkTarget]
          · exact (paired_walkParts parts).lax
          all_goals exact nofun
  | _ => exact .nil

theorem paired_walkTargets (targets : List Tree) : Paired true (walkTargets targets) := by
  cases targets with
  | nil => exact .nil
  | cons target rest =>
      rw [walkTargets]
      exact (paired_walkTarget target).append (paired_walkTargets rest)

theorem paired_walkTargetParts (parts : List (List Tree)) : Paired true (walkTargetParts parts) := by
  cases parts with
  | nil => exact .nil
  | cons targets rest =>
      rw [walkTargetParts]
      exact (paired_walkTargets targets).append (paired_walkTargetParts rest)

end

/-! ### Visits -/

section Visit

variable (options : Options)

/-- What becomes of a tree and of the scopes in a visit: the scopes grow and stay sound, and with
renaming off they stay as they are.  Then the stack binds no name that it did not bind before, and
where it binds none of those that are used, nothing but what is left out makes a difference to the
tree: no name in it has changed. -/
structure Keeps (options : Options) (events : List Event) (pruned : Tree) (before : Scopes)
    (visited : Tree × Scopes) : Prop where
  grows : before.Grows visited.2
  sound : visited.2.Sound
  scopes : options.renameLocals = false → visited.2 = before
  names : options.renameLocals = false →
    (∀ id, .use id ∈ events → Scopes.find? id before.stack = none) → visited.1 = pruned

/-- A visitor that renders events in pairs, apart from what it leaves out, keeps the discipline. -/
theorem Renders.keeps {tree : Tree} {binding : Bool} {events : List Event}
    {filler : StateM (List String) Tree} {visitor : StateM Scopes Tree} {change : Tree → Tree}
    {scopes : Scopes} {visited : Tree × Scopes}
    (rendered : Renders options.renameLocals events filler visitor)
    (own : filler.run (occurrences events ++ []) = (tree, []))
    (same : visited = (change (visitor.run scopes).1, (visitor.run scopes).2))
    (paired : Paired binding events) (sound : scopes.Sound) :
    Keeps options events (change tree) scopes visited := by
  obtain ⟨left, filled⟩ := rendered scopes []
  subst same
  refine ⟨?_, ?_, fun keeps => ?_, fun keeps unbound => ?_⟩
  · rw [left]
    exact grows_rename _ paired scopes
  · rw [left]
    exact sound_rename _ paired sound
  · exact left.trans (run_of_keep (.namesOnly options.renameLocals) keeps paired scopes)
  · rw [names_of_keep (.namesOnly options.renameLocals) keeps paired scopes unbound, own] at filled
    exact congrArg change (congrArg Prod.fst filled).symm

end Visit

/-- `lambda n: n + a` where a loop has bound `a`. -/
def adder : Tree :=
  .lambda ⟨0, 1, false, [], false⟩ [.parameter "n" []] [] []
    (.node (.binary .add) [[.name "n" .load], [.name "a" .load]])

end Canonical
end Snippet
end AnswerKey
