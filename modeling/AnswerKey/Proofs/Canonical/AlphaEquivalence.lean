import AnswerKey.Proofs.Canonical.Reference

namespace AnswerKey
namespace Snippet
namespace Canonical

/-!
Renaming decides whether two trees differ in nothing but the names of what they bind.

The canonical names follow from the referents of the names.  Here the referents are told from the
canonical names again, as long as no name of the tree looks like a placeholder: a placeholder then
refers to the first occurrence that has it, and every other name is free.  So two trees have the
same canonical form just when they have the same skeleton and their names the same referents.
-/

/-- No name that occurs in a tree is a placeholder. -/
def Fresh (tree : Tree) : Prop :=
  ∀ id ∈ occurrences (walk tree), ∀ index, id ≠ placeholder index

/-! ### Referents told from names -/

/-- The first occurrence that has a placeholder. -/
def originIn (names : List String) (index : Nat) : Nat :=
  names.idxOf (placeholder index)

theorem originIn_append {names : List String} {index : Nat} (given : placeholder index ∈ names)
    (others : List String) : originIn (names ++ others) index = originIn names index := by
  rw [originIn, originIn, List.idxOf_append, if_pos given]

open Classical in
/-- What a name refers to that a run has given out. -/
noncomputable def referentOf (names : List String) (name : String) : Referent :=
  if ∃ index, name = placeholder index then .binding (names.idxOf name) else .free name

theorem referentOf_placeholder (names : List String) (index : Nat) :
    referentOf names (placeholder index) = .binding (originIn names index) :=
  if_pos ⟨index, rfl⟩

theorem referentOf_plain (names : List String) {name : String}
    (plain : ∀ index, name ≠ placeholder index) : referentOf names name = .free name :=
  if_neg fun ⟨index, same⟩ => plain index same

/-- A name whose referent is known: it has been given out before, or it is no placeholder. -/
def Known (names : List String) (name : String) : Prop :=
  name ∈ names ∨ ∀ index, name ≠ placeholder index

theorem referentOf_append {names : List String} {name : String} (known : Known names name)
    (others : List String) : referentOf (names ++ others) name = referentOf names name := by
  rcases known with given | plain
  · rw [referentOf, referentOf, List.idxOf_append, if_pos given]
  · rw [referentOf_plain _ plain, referentOf_plain _ plain]

/-- The bindings and the scopes of a run after some names have been given out: each binding was
introduced where its placeholder was given out first. -/
structure Told (names : List String) (bindings : Bindings) (scopes : Scopes) : Prop where
  bindings : bindings = renumber (originIn names) scopes.stack
  given : ∀ index, placeholder index ∈ names ↔ index < scopes.next
  numbered : ∀ scope ∈ scopes.stack, ∀ entry ∈ scope, entry.2 < scopes.next

namespace Told

variable {names : List String} {bindings : Bindings} {scopes : Scopes}

theorem enter (told : Told names bindings scopes) :
    Told names ([] :: bindings) ((Scopes.push).run scopes).2 where
  bindings := congrArg ([] :: ·) told.bindings
  given := told.given
  numbered := by
    intro scope member entry inside
    rcases List.mem_cons.mp member with rfl | member
    · cases inside
    · exact told.numbered scope member entry inside

theorem leave (told : Told names bindings scopes) :
    Told names (bindings.drop 1) ((Scopes.pop).run scopes).2 where
  bindings := by
    have dropped := congrArg (List.drop 1) told.bindings
    rwa [renumber, ← List.map_drop] at dropped
  given := told.given
  numbered scope member := told.numbered scope (List.mem_of_mem_drop member)

/-- The origins of bindings do not change when more names are given out. -/
theorem renumber_append (told : Told names bindings scopes) (others : List String) :
    renumber (originIn (names ++ others)) scopes.stack = bindings := by
  rw [told.bindings]
  exact renumber_congr fun scope member entry inside =>
    originIn_append ((told.given entry.2).mpr (told.numbered scope member entry inside)) others

/-- A name whose referent is known changes nothing. -/
theorem concat (told : Told names bindings scopes) {name : String} (known : Known names name) :
    Told (names ++ [name]) bindings scopes where
  bindings := (told.renumber_append [name]).symm
  given := by
    intro index
    rw [← told.given index, List.mem_append, List.mem_singleton]
    constructor
    · rintro (given | same)
      · exact given
      · rcases known with given | plain
        · rwa [same]
        · exact absurd same.symm (plain index)
    · exact Or.inl
  numbered := told.numbered

theorem known_placeholder (told : Told names bindings scopes) {index : Nat}
    (below : index < scopes.next) : Known names (placeholder index) :=
  .inl ((told.given index).mpr below)

theorem resolve (told : Told names bindings scopes) {id : String}
    (plain : ∀ index, id ≠ placeholder index) :
    ∃ name, (Scopes.resolve id).run scopes = (name, scopes) ∧ Known names name ∧
      referentOf names name = bindings.referent id := by
  rw [told.bindings, Bindings.referent, ← find?_eq_findSome?, find?_renumber, StateT.run,
    Scopes.resolve]
  cases found : Scopes.find? id scopes.stack with
  | none => exact ⟨id, rfl, .inr plain, referentOf_plain names plain⟩
  | some index =>
      rcases mem_of_find? found with ⟨scope, member, inside⟩
      have below := told.numbered scope member _ inside
      exact ⟨placeholder index, rfl, told.known_placeholder below,
        referentOf_placeholder names index⟩

/-- A name that the innermost scope has bound already gets the placeholder of that binding. -/
theorem bind_known {scope : List (String × Nat)} {outer : List (List (String × Nat))} {id : String}
    {index : Nat} (told : Told names bindings scopes) (stack : scopes.stack = scope :: outer)
    (known : scope.lookup id = some index) (position : Nat) :
    (Scopes.bind (.namesOnly true) id).run scopes = (placeholder index, scopes) ∧
      index < scopes.next ∧
        bindings.introduce position id = (.binding (originIn names index), bindings) := by
  have first : scope ∈ scopes.stack := by
    rw [stack]
    exact List.mem_cons_self
  have number := lookup_renumberScope (originIn names) id scope
  rw [known, Option.map_some] at number
  refine ⟨?_, told.numbered scope first _ (mem_of_lookup known), ?_⟩
  · simp only [StateT.run, Scopes.bind, stack, known, Options.namesOnly, if_true]
  · rw [told.bindings, stack, renumber_cons]
    simp only [Bindings.introduce, number]

/-- A name that is new in the innermost scope gets a placeholder that has not been given out. -/
theorem bind_new {scope : List (String × Nat)} {outer : List (List (String × Nat))} {id : String}
    (told : Told names bindings scopes) (stack : scopes.stack = scope :: outer)
    (new : scope.lookup id = none) :
    ∃ after,
      (Scopes.bind (.namesOnly true) id).run scopes = (placeholder scopes.next, after) ∧
        (bindings.introduce names.length id).1 =
          .binding (originIn (names ++ [placeholder scopes.next]) scopes.next) ∧
        Told (names ++ [placeholder scopes.next]) (bindings.introduce names.length id).2 after := by
  have unused : placeholder scopes.next ∉ names := fun given =>
    Nat.lt_irrefl _ ((told.given _).mp given)
  have origin : originIn (names ++ [placeholder scopes.next]) scopes.next = names.length := by
    rw [originIn, List.idxOf_append, if_neg unused, List.idxOf_cons_self, Nat.zero_add]
  have absent := lookup_renumberScope (originIn names) id scope
  rw [new, Option.map_none] at absent
  have introduced : bindings.introduce names.length id =
      (.binding names.length, ((id, names.length) :: renumberScope (originIn names) scope) ::
        renumber (originIn names) outer) := by
    rw [told.bindings, stack, renumber_cons]
    simp only [Bindings.introduce, absent]
  rw [introduced]
  refine ⟨⟨((id, scopes.next) :: scope) :: outer, scopes.next + 1⟩, ?_, by rw [origin], ?_, ?_, ?_⟩
  · simp only [StateT.run, Scopes.bind, stack, new, Options.namesOnly, if_true]
  · have kept := told.renumber_append [placeholder scopes.next]
    rw [told.bindings, stack, renumber_cons, renumber_cons] at kept
    rcases List.cons.inj kept with ⟨sameScope, sameOuter⟩
    rw [renumber_cons, renumberScope_cons, origin, sameScope, sameOuter]
  · intro index
    rw [List.mem_append, List.mem_singleton, told.given index, Nat.lt_succ_iff_lt_or_eq]
    constructor
    · rintro (below | same)
      · exact .inl below
      · exact .inr (placeholder_injective same)
    · rintro (below | rfl)
      · exact .inl below
      · exact .inr rfl
  · intro other member entry inside
    have below (known : other ∈ scopes.stack) (here : entry ∈ other) : entry.2 < scopes.next + 1 :=
      Nat.lt_succ_of_lt (told.numbered other known entry here)
    rw [stack] at below
    rcases List.mem_cons.mp member with rfl | member
    · rcases List.mem_cons.mp inside with rfl | inside
      · exact Nat.lt_succ_self _
      · exact Nat.lt_succ_of_lt
          (told.numbered scope (by rw [stack]; exact List.mem_cons_self) entry inside)
    · exact below (List.mem_cons_of_mem _ member) inside

/-- The referent of a name that is bound can be told from the name that it gets. -/
theorem bind (told : Told names bindings scopes) {id : String}
    (plain : ∀ index, id ≠ placeholder index) :
    ∃ name after,
      (Scopes.bind (.namesOnly true) id).run scopes = (name, after) ∧
        referentOf (names ++ [name]) name = (bindings.introduce names.length id).1 ∧
        Told (names ++ [name]) (bindings.introduce names.length id).2 after := by
  cases stack : scopes.stack with
  | nil =>
      have none : bindings = [] := by rw [told.bindings, stack]; rfl
      have same := told.concat (.inr plain)
      refine ⟨id, scopes, ?_, ?_, ?_⟩
      · simp only [StateT.run, Scopes.bind, stack]
      · rw [none, referentOf_plain _ plain, Bindings.introduce]
      · rw [none] at same ⊢
        exact same
  | cons scope outer =>
      cases known : scope.lookup id with
      | some index =>
          rcases told.bind_known stack known names.length with ⟨bound, below, introduced⟩
          have old := told.known_placeholder below
          rw [introduced]
          refine ⟨placeholder index, scopes, bound, ?_, told.concat old⟩
          rw [referentOf_append old, referentOf_placeholder]
      | none =>
          rcases told.bind_new stack known with ⟨after, bound, introduced, toldAfter⟩
          refine ⟨placeholder scopes.next, after, bound, ?_, toldAfter⟩
          rw [introduced, referentOf_placeholder]

end Told

/-- The referents of names that are no placeholders can be told from what a run gives out. -/
theorem referentsFrom_eq_map_referentOf {names : List String} {bindings : Bindings}
    {scopes : Scopes} (told : Told names bindings scopes) (events : List Event)
    (plain : ∀ id ∈ occurrences events, ∀ index, id ≠ placeholder index) :
    referentsFrom bindings names.length events =
      ((rename (.namesOnly true) events).run scopes).1.map
        (referentOf (names ++ ((rename (.namesOnly true) events).run scopes).1)) := by
  induction events generalizing names bindings scopes with
  | nil => rfl
  | cons event rest ih =>
      cases event with
      | enter => exact ih told.enter plain
      | leave => exact ih told.leave plain
      | use id =>
          rcases told.resolve (plain id List.mem_cons_self) with ⟨name, resolved, known, referent⟩
          have others := ih (told.concat known) fun id member =>
            plain id (List.mem_cons_of_mem _ member)
          rw [List.length_append, List.length_singleton, List.append_assoc] at others
          simp only [rename, run_then, run_done, resolved, referentsFrom, List.map_cons, others,
            referentOf_append known, referent, List.singleton_append]
      | bind id =>
          rcases told.bind (plain id List.mem_cons_self) with
            ⟨name, after, bound, referent, toldAfter⟩
          have others := ih toldAfter fun id member => plain id (List.mem_cons_of_mem _ member)
          have given : Known (names ++ [name]) name :=
            .inl (List.mem_append_right _ List.mem_cons_self)
          have first := referentOf_append given
            ((rename (.namesOnly true) rest).run after).1
          rw [List.length_append, List.length_singleton, List.append_assoc] at others
          rw [List.append_assoc, referent] at first
          simp only [List.singleton_append] at others first
          simp only [rename, run_then, run_done, bound, referentsFrom, List.map_cons, others, first]

theorem referents_of_names {tree : Tree} (fresh : Fresh tree) :
    referents tree = (canonicalNames true tree).map (referentOf (canonicalNames true tree)) := by
  have told : Told [] [] .empty := ⟨rfl, fun index => by simp [Scopes.empty], nofun⟩
  exact referentsFrom_eq_map_referentOf told (walk tree) fresh

/-! ### Alpha-equivalence -/

/-- Canonical names are the same just when the referents are. -/
theorem canonicalNames_eq_iff {first second : Tree} (freshFirst : Fresh first)
    (freshSecond : Fresh second) :
    canonicalNames true first = canonicalNames true second ↔
      referents first = referents second := by
  constructor
  · intro same
    rw [referents_of_names freshFirst, referents_of_names freshSecond, same]
  · intro same
    rw [names_of_referents, names_of_referents, same]

/-- Two trees in which no name is a placeholder have the same canonical form under renaming just
when they have the same skeleton and each name refers to the same in both. -/
theorem ofTree_eq_iff_referents {first second : Tree} (freshFirst : Fresh first)
    (freshSecond : Fresh second) :
    ofTree (.namesOnly true) first = ofTree (.namesOnly true) second ↔
      skeleton first = skeleton second ∧ referents first = referents second := by
  rw [ofTree_eq_iff_names, canonicalNames_eq_iff freshFirst freshSecond]

/-- The lambda that gives back its argument, with a name for the argument. -/
def identity (id : String) : Tree :=
  .expression (.lambda ⟨0, 1, false, [], false⟩ [.parameter id []] [] [] (.name id .load))

theorem fresh_identity {id : String} (plain : id.toList.head? ≠ some '_') :
    Fresh (identity id) := by
  have names : occurrences (walk (identity id)) = [id, id] := rfl
  intro other member
  rw [names, List.mem_cons, List.mem_singleton, or_self] at member
  rw [member]
  exact ne_placeholder plain

/-- The name of an argument does not matter. -/
theorem ofTree_identity_eq : Fresh (identity "x") ∧ Fresh (identity "n") ∧
    ofTree (.namesOnly true) (identity "x") = ofTree (.namesOnly true) (identity "n") :=
  ⟨fresh_identity (by decide), fresh_identity (by decide),
    (ofTree_eq_iff_referents (fresh_identity (by decide)) (fresh_identity (by decide))).mpr
      ⟨by rfl, by rfl⟩⟩

end Canonical
end Snippet
end AnswerKey
