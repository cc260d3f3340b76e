import AnswerKey.Proofs.Canonical.Passes
import AnswerKey.Proofs.Canonical.Reference

namespace AnswerKey
namespace Snippet
namespace Canonical

/-!
The canonical form of a canonical form.

The names of a canonical form may look like placeholders, because they are placeholders or because
they stood in the tree before.  A second renaming deals out the same numbers at the same places, so
each placeholder is replaced by itself, and a name that is not bound finds either nothing or a
placeholder spelled like itself (`ofTree_ofTree_namesOnly`).  Together with what holds of pruning,
two canonical forms in succession are one, with what is on in one of the two (`ofTree_ofTree`).
-/

/-! ### Renaming nothing -/

/-- Where no name has been bound, a run that binds none gives out the names that occur. -/
theorem rename_keep (events : List Event) {scopes : Scopes}
    (blank : ∀ scope ∈ scopes.stack, scope = []) :
    ((rename (.namesOnly false) events).run scopes).1 = occurrences events := by
  induction events generalizing scopes with
  | nil => rfl
  | cons event rest ih =>
      cases event with
      | enter => exact ih (List.forall_mem_cons.mpr ⟨rfl, blank⟩)
      | leave => exact ih fun scope member => blank scope (List.mem_of_mem_drop member)
      | use id =>
          have unbound : Scopes.find? id scopes.stack = none := by
            cases found : Scopes.find? id scopes.stack with
            | none => rfl
            | some index =>
                rcases mem_of_find? found with ⟨scope, member, inside⟩
                rw [blank scope member] at inside
                cases inside
          have resolved : (Scopes.resolve id).run scopes = (id, scopes) := by
            rw [StateT.run, Scopes.resolve, unbound]
          rw [rename, run_then, resolved, run_then, ih blank]
          rfl
      | bind id =>
          have bound : (Scopes.bind (.namesOnly false) id).run scopes = (id, scopes) := by
            rw [StateT.run, Scopes.bind]
            cases scopes.stack <;> rfl
          rw [rename, run_then, bound, run_then, ih blank]
          rfl

/-- With every option off, a tree is its own canonical form. -/
theorem ofTree_namesOnly_false (tree : Tree) : ofTree (.namesOnly false) tree = tree := by
  have names : canonicalNames false tree = occurrences (walk tree) := rename_keep _ nofun
  have filled := fill_canonicalNames false tree
  have own := fill_occurrences tree []
  rw [List.append_nil, ← names, filled] at own
  exact congrArg Prod.fst own

/-! ### Renaming twice -/

/-- The bindings of a scope under the placeholders that they have got. -/
def echo (scope : List (String × Nat)) : List (String × Nat) :=
  scope.map fun entry => (placeholder entry.2, entry.2)

/-- In the scopes of a second run only placeholders are bound, each under its own number. -/
theorem eq_placeholder_of_echo {scope : List (String × Nat)} {id : String} {index : Nat}
    (known : (echo scope).lookup id = some index) :
    id = placeholder index ∧ ∃ entry ∈ scope, entry.2 = index := by
  rcases List.mem_map.mp (mem_of_lookup known) with ⟨entry, inside, same⟩
  cases same
  exact ⟨rfl, entry, inside, rfl⟩

/-- A placeholder that has been given out is found again. -/
theorem lookup_echo {scope : List (String × Nat)} {id : String} {index : Nat}
    (inside : (id, index) ∈ scope) : (echo scope).lookup (placeholder index) = some index := by
  cases known : (echo scope).lookup (placeholder index) with
  | none =>
      have member : (placeholder index, index) ∈ echo scope := List.mem_map.mpr ⟨_, inside, rfl⟩
      have apart := List.lookup_eq_none_iff.mp known _ member
      exact absurd rfl (bne_iff_ne.mp apart)
  | some other => rw [placeholder_injective (eq_placeholder_of_echo known).1]

/-- The scopes of a second run over what a first one has given out. -/
structure Echoes (scopes again : Scopes) : Prop where
  stack : again.stack = scopes.stack.map echo
  next : again.next = scopes.next
  /-- Placeholders that are still to come have not been given out. -/
  below : ∀ scope ∈ scopes.stack, ∀ entry ∈ scope, entry.2 < scopes.next

namespace Echoes

variable {scopes again : Scopes}

theorem enter (echoes : Echoes scopes again) :
    Echoes ((Scopes.push).run scopes).2 ((Scopes.push).run again).2 where
  stack := congrArg ([] :: ·) echoes.stack
  next := echoes.next
  below := List.forall_mem_cons.mpr ⟨nofun, echoes.below⟩

theorem leave (echoes : Echoes scopes again) :
    Echoes ((Scopes.pop).run scopes).2 ((Scopes.pop).run again).2 where
  stack := by
    have dropped := congrArg (List.drop 1) echoes.stack
    rwa [← List.map_drop] at dropped
  next := echoes.next
  below scope member := echoes.below scope (List.mem_of_mem_drop member)

/-- The second run changes no name that is used. -/
theorem resolve (echoes : Echoes scopes again) (id : String) :
    (Scopes.resolve id).run again = (id, again) := by
  rw [StateT.run, Scopes.resolve]
  cases found : Scopes.find? id again.stack with
  | none => rfl
  | some index =>
      rw [find?_eq_findSome?] at found
      rcases List.exists_of_findSome?_eq_some found with ⟨scope, member, known⟩
      rw [echoes.stack] at member
      rcases List.mem_map.mp member with ⟨former, -, rfl⟩
      rw [(eq_placeholder_of_echo known).1]

/-- The second run binds each placeholder where the first one has given it out. -/
theorem bind (echoes : Echoes scopes again) (id : String) :
    ∃ name after afterwards,
      (Scopes.bind (.namesOnly true) id).run scopes = (name, after) ∧
        (Scopes.bind (.namesOnly true) name).run again = (name, afterwards) ∧
          Echoes after afterwards := by
  have echoed := echoes.stack
  cases stack : scopes.stack with
  | nil =>
      rw [stack] at echoed
      refine ⟨id, scopes, again, ?_, ?_, echoes⟩
      · simp only [StateT.run, Scopes.bind, stack]
      · simp only [StateT.run, Scopes.bind, echoed, List.map_nil]
  | cons scope outer =>
      have below := echoes.below
      rw [stack, List.map_cons] at echoed
      rw [stack] at below
      cases known : scope.lookup id with
      | some index =>
          have knownAgain := lookup_echo (mem_of_lookup known)
          refine ⟨placeholder index, scopes, again, ?_, ?_, echoes⟩
          · simp only [StateT.run, Scopes.bind, stack, known, Options.namesOnly, if_true]
          · simp only [StateT.run, Scopes.bind, echoed, knownAgain, Options.namesOnly, if_true]
      | none =>
          have newAgain : (echo scope).lookup (placeholder scopes.next) = none := by
            cases given : (echo scope).lookup (placeholder scopes.next) with
            | none => rfl
            | some index =>
                rcases eq_placeholder_of_echo given with ⟨same, entry, inside, rfl⟩
                have old := below scope List.mem_cons_self entry inside
                rw [placeholder_injective same] at old
                exact absurd old (Nat.lt_irrefl _)
          refine ⟨placeholder scopes.next, ⟨((id, scopes.next) :: scope) :: outer, scopes.next + 1⟩,
            ⟨((placeholder scopes.next, scopes.next) :: echo scope) :: outer.map echo,
              scopes.next + 1⟩, ?_, ?_, rfl, rfl, ?_⟩
          · simp only [StateT.run, Scopes.bind, stack, known, Options.namesOnly, if_true]
          · simp only [StateT.run, Scopes.bind, echoed, echoes.next, newAgain, Options.namesOnly,
              if_true]
          · have later (others : List (String × Nat)) (member : others ∈ scope :: outer) :
                ∀ entry ∈ others, entry.2 < scopes.next + 1 := fun entry inside =>
              Nat.lt_succ_of_lt (below others member entry inside)
            refine List.forall_mem_cons.mpr ⟨List.forall_mem_cons.mpr ⟨Nat.lt_succ_self _, ?_⟩, ?_⟩
            · exact later scope List.mem_cons_self
            · exact fun others member => later others (List.mem_cons_of_mem _ member)

end Echoes

/-- A second run gives out the names that the first one has given out. -/
theorem rename_relabel (events : List Event) {scopes again : Scopes}
    (echoes : Echoes scopes again) :
    ((rename (.namesOnly true)
        ((relabel events).run ((rename (.namesOnly true) events).run scopes).1).1).run again).1 =
      ((rename (.namesOnly true) events).run scopes).1 := by
  induction events generalizing scopes again with
  | nil => rfl
  | cons event rest ih =>
      cases event with
      | enter => exact ih echoes.enter
      | leave => exact ih echoes.leave
      | use id =>
          have kept : ((Scopes.resolve id).run scopes).2 = scopes := by
            rw [StateT.run, Scopes.resolve]
            split <;> rfl
          simp only [rename, run_then, run_done, kept]
          rw [relabel, run_then, run_then, run_done]
          change ((rename (.namesOnly true) (.use _ :: _)).run again).1 = _
          rw [rename, run_then, echoes.resolve, run_then, run_done]
          exact congrArg (_ :: ·) (ih echoes)
      | bind id =>
          rcases echoes.bind id with ⟨name, after, afterwards, bound, boundAgain, echoesAfter⟩
          simp only [rename, run_then, run_done, bound]
          rw [relabel, run_then, run_then, run_done]
          change ((rename (.namesOnly true) (.bind name :: _)).run again).1 = _
          rw [rename, run_then, boundAgain, run_then, run_done]
          exact congrArg (name :: ·) (ih echoesAfter)

theorem echoes_empty : Echoes .empty .empty where
  stack := rfl
  next := rfl
  below := nofun

/-- The names of a canonical form are dealt out again as they stand. -/
theorem canonicalNames_ofTree (tree : Tree) :
    canonicalNames true (ofTree (.namesOnly true) tree) = canonicalNames true tree := by
  have relabelled := relabel_walk tree (canonicalNames true tree)
  rw [fill_canonicalNames] at relabelled
  have again := rename_relabel (walk tree) echoes_empty
  rw [canonicalNames] at relabelled
  rwa [relabelled] at again

/-- Names are replaced once, in one of two runs. -/
theorem ofTree_ofTree_namesOnly (earlier later : Bool) (tree : Tree) :
    ofTree (.namesOnly later) (ofTree (.namesOnly earlier) tree) =
      ofTree (.namesOnly (earlier || later)) tree := by
  cases earlier with
  | false => rw [ofTree_namesOnly_false, Bool.false_or]
  | true =>
      cases later with
      | false => exact ofTree_namesOnly_false _
      | true =>
          rw [Bool.or_self, ofTree_eq_iff_names]
          exact ⟨skeleton_ofTree true tree, canonicalNames_ofTree tree⟩

/-! ### Bodies under other names -/

/-- Names that are put in neither make a documentation string nor do away with one. -/
theorem isDocstring_fill (tree : Tree) (names : List String) :
    isDocstring ((fill tree).run names).1 = isDocstring tree := by
  have filled {string : Tree} (docstring : isDocstring string = true) (names : List String) :
      (fill string).run names = (string, names) := by
    rcases exists_eq_docstring docstring with ⟨codes, marked, rfl⟩
    simp only [fill, fillParts, fillAll, pure_bind]
    rfl
  cases docstring : isDocstring tree with
  | true => rw [filled docstring, docstring]
  | false =>
      apply Bool.eq_false_iff.mpr
      intro given
      -- Filling does not look at the names inside, so the tree is filled as the string is.
      have own := fill_occurrences tree []
      rw [← fill_fill tree names, filled given] at own
      rw [congrArg Prod.fst own, docstring] at given
      cases given

theorem opensOnce_fillAll (body : List Tree) (names : List String) :
    opensOnce ((fillAll body).run names).1 = opensOnce body := by
  match body with
  | [] => rfl
  | [_] => rfl
  | first :: second :: rest =>
      simp only [fillAll, run_then, run_done, opensOnce, isDocstring_fill]

theorem undoubledAll_fillParameters (trees : List Tree) (names : List String) :
    undoubledAll ((fillParameters trees).run names).1 = undoubledAll trees := by
  induction trees generalizing names with
  | nil => rfl
  | cons tree rest ih =>
      cases tree <;> simp only [fillParameters, run_then, run_done, undoubledAll, undoubled, ih]

mutual

/-- Other names leave the strings at the head of the bodies as they are. -/
theorem undoubled_fill (tree : Tree) (names : List String) :
    undoubled ((fill tree).run names).1 = undoubled tree := by
  cases tree with
  | name id context => rfl
  | constant value => rfl
  | slice lower upper step => simp only [fill, run_then, run_done, undoubled, undoubledAll_fill]
  | parameter id hint => simp only [fill, run_then, run_done, undoubled, undoubledAll_fill]
  | lambda layout parameters defaults keywordDefaults body =>
      simp only [fill, run_then, run_done, undoubled, undoubledAll_fillParameters,
        undoubledAll_fill, undoubled_fill body]
  | function isAsync id layout decorators parameters defaults keywordDefaults returns body =>
      simp only [fill, run_then, run_done, undoubled, undoubledAll_fillParameters,
        undoubledAll_fill, opensOnce_fillAll]
  | classDef id decorators bases keywords body =>
      simp only [fill, run_then, run_done, undoubled, undoubledAll_fill, opensOnce_fillAll]
  | comprehension kind results clauses =>
      simp only [fill, run_then, run_done, undoubled, undoubledAll_fill]
  | clause isAsync target iterable conditions =>
      simp only [fill, run_then, run_done, undoubled, undoubledAll_fill, undoubled_fill iterable,
        undoubled_fillTarget target]
  | loop isAsync target iterable body alternative =>
      simp only [fill, run_then, run_done, undoubled, undoubledAll_fill, undoubled_fill iterable,
        undoubled_fillTarget target]
  | module body =>
      simp only [fill, run_then, run_done, undoubled, undoubledAll_fill, opensOnce_fillAll]
  | expression body => simp only [fill, run_then, run_done, undoubled, undoubled_fill body]
  | node form parts => simp only [fill, run_then, run_done, undoubled, undoubledParts_fill]

theorem undoubledAll_fill (trees : List Tree) (names : List String) :
    undoubledAll ((fillAll trees).run names).1 = undoubledAll trees := by
  cases trees with
  | nil => rfl
  | cons tree rest =>
      simp only [fillAll, run_then, run_done, undoubledAll, undoubled_fill tree,
        undoubledAll_fill rest]

theorem undoubledParts_fill (parts : List (List Tree)) (names : List String) :
    undoubledParts ((fillParts parts).run names).1 = undoubledParts parts := by
  cases parts with
  | nil => rfl
  | cons trees rest =>
      simp only [fillParts, run_then, run_done, undoubledParts, undoubledAll_fill trees,
        undoubledParts_fill rest]

theorem undoubled_fillTarget (target : Tree) (names : List String) :
    undoubled ((fillTarget target).run names).1 = undoubled target := by
  cases target with
  | node form parts =>
      cases form <;>
        simp only [fillTarget, run_then, run_done, undoubled, undoubledParts_fillTarget,
          undoubledParts_fill]
  | _ => rfl

theorem undoubledAll_fillTargets (targets : List Tree) (names : List String) :
    undoubledAll ((fillTargets targets).run names).1 = undoubledAll targets := by
  cases targets with
  | nil => rfl
  | cons target rest =>
      simp only [fillTargets, run_then, run_done, undoubledAll, undoubled_fillTarget target,
        undoubledAll_fillTargets rest]

theorem undoubledParts_fillTarget (parts : List (List Tree)) (names : List String) :
    undoubledParts ((fillTargetParts parts).run names).1 = undoubledParts parts := by
  cases parts with
  | nil => rfl
  | cons targets rest =>
      simp only [fillTargetParts, run_then, run_done, undoubledParts,
        undoubledAll_fillTargets targets, undoubledParts_fillTarget rest]

end

/-! ### Canonical forms in succession -/

/-- Replacing names leaves the bounds of slices as single as they are. -/
theorem singleBounds_ofTree_namesOnly (renameLocals : Bool) (tree : Tree) :
    singleBounds (ofTree (.namesOnly renameLocals) tree) = singleBounds tree := by
  have filled := singleBounds_fill tree (canonicalNames renameLocals tree)
  rwa [fill_canonicalNames] at filled

theorem undoubled_ofTree_namesOnly (renameLocals : Bool) (tree : Tree) :
    undoubled (ofTree (.namesOnly renameLocals) tree) = undoubled tree := by
  have filled := undoubled_fill tree (canonicalNames renameLocals tree)
  rwa [fill_canonicalNames] at filled

/-- Names are replaced before or after pruning. -/
theorem ofTree_prune (renameLocals : Bool) (options : Options) (tree : Tree)
    (tidy : isTidy options (singleBounds tree) = true) :
    ofTree (.namesOnly renameLocals) (prune options tree) =
      prune options (ofTree (.namesOnly renameLocals) tree) :=
  congrArg Prod.fst (visit_prune renameLocals options tree tidy .empty)

/-- Two canonical forms in succession are one, with what is on in one of the two, when the second
one finds no documentation that the first one has laid bare. -/
theorem ofTree_ofTree (first second : Options) {tree : Tree}
    (tidy : isTidy first (singleBounds tree) = true)
    (calm : isCalm first second (undoubled tree) = true) :
    ofTree second (ofTree first tree) = ofTree (first.join second) tree := by
  have tidyNames : isTidy first
      (singleBounds (ofTree (.namesOnly first.renameLocals) tree)) = true := by
    rwa [singleBounds_ofTree_namesOnly]
  have calmNames : isCalm first second
      (undoubled (ofTree (.namesOnly (first.join second).renameLocals) tree)) = true := by
    rwa [undoubled_ofTree_namesOnly]
  calc ofTree second (ofTree first tree)
      = prune second (ofTree (.namesOnly second.renameLocals)
          (prune first (ofTree (.namesOnly first.renameLocals) tree))) := by
        rw [ofTree_eq_prune second, ofTree_eq_prune first]
    _ = prune second (prune first (ofTree (.namesOnly second.renameLocals)
          (ofTree (.namesOnly first.renameLocals) tree))) := by
        rw [ofTree_prune _ _ _ tidyNames]
    _ = prune second (prune first
          (ofTree (.namesOnly (first.join second).renameLocals) tree)) := by
        rw [ofTree_ofTree_namesOnly]
        rfl
    _ = ofTree (first.join second) tree := by
        rw [prune_prune _ _ _ calmNames, ← ofTree_eq_prune]

/-- `def f(_v1, x=_v2): 'a'; return [_v0 for _v1 in x[0:_v7]]`.  Some of the names look like
placeholders, those that are bound and those that are free. -/
def numbered : Tree :=
  .module [.function false "f" ⟨0, 2, false, [], false⟩ []
    [.parameter "_v1" [], .parameter "x" []] [.name "_v2" .load] [] []
    [.node .expr [[.constant (.str [97] false)]],
      .node .returnStatement [[.comprehension .list [.name "_v0" .load]
        [.clause false (.name "_v1" .store) (.node (.subscript .load) [[.name "x" .load],
          [.slice [.constant (.int 0)] [.name "_v7" .load] []]]) []]]]]]

/-- The passes are independent: with options that have nothing in common, two canonical forms in
succession are the one with everything that is on, in either order. -/
theorem ofTree_of_isApart {first second : Options} (apart : first.IsApart second) {tree : Tree}
    (single : singleBounds tree = true) :
    ofTree second (ofTree first tree) = ofTree (first.join second) tree ∧
      ofTree first (ofTree second tree) = ofTree second (ofTree first tree) := by
  have tidy (options : Options) : isTidy options (singleBounds tree) = true := by
    rw [isTidy, single, Bool.or_true]
  have calm {earlier later : Options} (apart : earlier.IsApart later) :
      isCalm earlier later (undoubled tree) = true := by
    rw [isCalm, apart.2.2, Bool.not_false, Bool.true_or]
  have forwards := ofTree_ofTree first second (tidy first) (calm apart)
  have backwards := ofTree_ofTree second first (tidy second) (calm apart.symm)
  refine ⟨forwards, ?_⟩
  rw [forwards, backwards, Options.join_comm]

/-- Names are replaced first or last, and the rest is left out in between. -/
theorem ofTree_numbered_of_isApart :
    (Options.namesOnly true).IsApart ⟨false, true, true⟩ ∧ singleBounds numbered = true ∧
      ofTree ⟨false, true, true⟩ (ofTree (.namesOnly true) numbered) = ofTree .standard numbered ∧
      ofTree (.namesOnly true) (ofTree ⟨false, true, true⟩ numbered) =
        ofTree ⟨false, true, true⟩ (ofTree (.namesOnly true) numbered) :=
  ⟨⟨rfl, rfl, rfl⟩, rfl, ofTree_of_isApart ⟨rfl, rfl, rfl⟩ rfl⟩

/-- A canonical form is its own canonical form, whatever its names look like, unless the tree holds
a body that opens with two strings and loses them one at a time. -/
theorem ofTree_idempotent (options : Options) {tree : Tree} (single : singleBounds tree = true)
    (once : options.ignoreDocstrings = true → undoubled tree = true) :
    ofTree options (ofTree options tree) = ofTree options tree := by
  have tidy : isTidy options (singleBounds tree) = true := by rw [isTidy, single, Bool.or_true]
  have calm : isCalm options options (undoubled tree) = true := by
    rw [isCalm]
    cases on : options.ignoreDocstrings with
    | false => rfl
    | true => rw [once on, Bool.or_true]
  rw [ofTree_ofTree options options tidy calm, Options.join_self]

theorem ofTree_numbered_idempotent :
    singleBounds numbered = true ∧ undoubled numbered = true ∧
      ofTree .standard (ofTree .standard numbered) = ofTree .standard numbered :=
  ⟨rfl, rfl, ofTree_idempotent .standard rfl fun _ => rfl⟩

/-- The name `_v0` that was free is that of the first parameter now, and stays so. -/
example : ofTree .standard numbered =
    .module [.function false "f" ⟨0, 2, false, [], false⟩ []
      [.parameter "_v0" [], .parameter "_v1" []] [.name "_v2" .load] [] []
      [.node .returnStatement [[.comprehension .list [.name "_v0" .load]
        [.clause false (.name "_v2" .store) (.node (.subscript .load) [[.name "_v1" .load],
          [.slice [] [.name "_v7" .load] []]]) []]]]]] := by
  rfl

/-- A class that opens with two strings loses one each time. -/
example :
    let string : Tree := .node .expr [[.constant (.str [97] false)]]
    let tree : Tree := .classDef "C" [] [] [] [string, string]
    undoubled tree = false ∧ ofTree .standard tree = .classDef "C" [] [] [] [string] ∧
      ofTree .standard (ofTree .standard tree) = .classDef "C" [] [] [] [] := by
  exact ⟨rfl, rfl, rfl⟩

end Canonical
end Snippet
end AnswerKey
