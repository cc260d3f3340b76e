import Mathlib.Logic.Equiv.Basic
import AnswerKey.Proofs.Canonical.AlphaEquivalence
import AnswerKey.Proofs.Canonical.OneScope

namespace AnswerKey
namespace Snippet
namespace Canonical

/-!
Names that are used before the loops that bind them.

In a program with one scope a loop binds its variable for the whole program, but the canonical form
replaces the variable only from the loop on: what stands before it is kept as it is.  So a name
that is used before the first loop that binds it is torn in two, and two programs with the same
canonical form are renamings of each other just when the same names are torn in both
(`exists_injective_mapNames_iff`).
-/

/-! ### Referents in one scope -/

section Referents

/-- A name stands at a position of some events. -/
def Occurs (events : List Event) (position : Nat) (id : String) : Prop :=
  events[position]? = some (.use id) ∨ events[position]? = some (.bind id)

/-- A name is bound at a position, and nowhere before. -/
def FirstBound (events : List Event) (position : Nat) (id : String) : Prop :=
  events[position]? = some (.bind id) ∧ ∀ earlier < position, events[earlier]? ≠ some (.bind id)

/-- A name is used before the first loop that binds it. -/
def EarlyUse (events : List Event) (early first : Nat) : Prop :=
  ∃ id, events[early]? = some (.use id) ∧ FirstBound events first id ∧ early < first

/-- What a name refers to after some events of one scope. -/
def referentAfter (events : List Event) (id : String) : Referent :=
  match events.idxOf? (.bind id) with
  | some origin => .binding origin
  | none => .free id

/-- A scope that knows the first bindings of some events. -/
def Records (scope : List (String × Nat)) (events : List Event) : Prop :=
  ∀ id, scope.lookup id = events.idxOf? (.bind id)

/-- Names bind nothing new after their first binding, and uses bind nothing. -/
theorem idxOf?_concat (events : List Event) (event : Event) (id : String) :
    (events ++ [event]).idxOf? (.bind id) =
      (events.idxOf? (.bind id)).or (if event = .bind id then some events.length else none) := by
  simp only [List.idxOf?, List.findIdx?_append, List.findIdx?_singleton, beq_iff_eq]
  split <;> simp

namespace Records

variable {scope : List (String × Nat)} {events : List Event}

theorem referent (records : Records scope events) (id : String) :
    Bindings.referent [scope] id = referentAfter events id := by
  rw [Bindings.referent, referentAfter, List.findSome?_cons, records id]
  cases events.idxOf? (.bind id) <;> rfl

theorem use (records : Records scope events) (id : String) :
    Records scope (events ++ [.use id]) := by
  intro other
  rw [records other, idxOf?_concat, if_neg nofun, Option.or_none]

/-- A name that is bound refers to its first binding. -/
theorem introduce (records : Records scope events) (id : String) :
    ∃ after, Bindings.introduce [scope] events.length id =
        (referentAfter (events ++ [.bind id]) id, [after]) ∧
      Records after (events ++ [.bind id]) := by
  have number := records id
  cases known : events.idxOf? (.bind id) with
  | some origin =>
      rw [known] at number
      refine ⟨scope, ?_, ?_⟩
      · simp only [Bindings.introduce, number, referentAfter, idxOf?_concat, known, Option.some_or]
      · intro other
        rw [records other, idxOf?_concat]
        by_cases same : Event.bind id = .bind other
        · rw [← same, known, Option.some_or]
        · rw [if_neg same, Option.or_none]
  | none =>
      rw [known] at number
      refine ⟨(id, events.length) :: scope, ?_, ?_⟩
      · simp only [Bindings.introduce, number, referentAfter, idxOf?_concat, known, Option.none_or,
          if_true]
      · intro other
        rw [idxOf?_concat, ← records other, List.lookup_cons]
        by_cases same : other = id
        · rw [same, beq_self_eq_true, if_pos rfl, number, Option.none_or]
        · rw [beq_eq_false_iff_ne.mpr same, if_neg fun equal => same (Event.bind.inj equal).symm,
            Option.or_none]

end Records

/-- In one scope a name refers to the first binding that the walk has met, its own place
included. -/
theorem getElem?_referentsFrom {scope : List (String × Nat)} (before : List Event)
    (records : Records scope before) {events : List Event} (flat : Flat events) {position : Nat}
    {id : String} (occurs : Occurs events position id) :
    (referentsFrom [scope] before.length (events ++ [.leave]))[position]? =
      some (referentAfter (before ++ events.take (position + 1)) id) := by
  induction events generalizing scope before position with
  | nil => rcases occurs with missing | missing <;> cases missing
  | cons event rest ih =>
      have flatRest : Flat rest := fun other member => flat other (List.mem_cons_of_mem _ member)
      have later : ∀ {after : List (String × Nat)} {position : Nat},
          Records after (before ++ [event]) → Occurs rest position id →
            (referentsFrom [after] (before.length + 1) (rest ++ [.leave]))[position]? =
              some (referentAfter (before ++ event :: rest.take (position + 1)) id) := by
        intro after position recordsAfter occursAfter
        have found := ih _ recordsAfter flatRest occursAfter
        rwa [List.length_append, List.length_singleton, List.append_assoc] at found
      rcases flat event List.mem_cons_self with ⟨other, rfl | rfl⟩
      · have kept := records.use other
        cases position with
        | zero =>
            have same : other = id := by
              rcases occurs with used | bound
              · cases used
                rfl
              · cases bound
            rw [List.cons_append, referentsFrom, ← same, kept.referent]
            rfl
        | succ position => exact later kept occurs
      · rcases records.introduce other with ⟨after, introduced, recordsAfter⟩
        rw [List.cons_append, referentsFrom, introduced]
        cases position with
        | zero =>
            have same : other = id := by
              rcases occurs with used | bound
              · cases used
              · cases bound
                rfl
            rw [← same]
            rfl
        | succ position => exact later recordsAfter occurs

/-- Occurrences and their referents in a program with one scope. -/
theorem getElem?_referents {body : List Tree} (flat : Flat (walkAll body)) {position : Nat}
    {id : String} (occurs : Occurs (walkAll body) position id) :
    (referents (.module body))[position]? =
      some (referentAfter ((walkAll body).take (position + 1)) id) :=
  getElem?_referentsFrom [] (fun _ => rfl) flat occurs

theorem referentAfter_eq_binding_iff {events : List Event} {position origin : Nat} {id : String} :
    referentAfter (events.take (position + 1)) id = .binding origin ↔
      FirstBound events origin id ∧ origin ≤ position := by
  have found : referentAfter (events.take (position + 1)) id = .binding origin ↔
      (events.take (position + 1)).idxOf? (.bind id) = some origin := by
    rw [referentAfter]
    cases (events.take (position + 1)).idxOf? (.bind id) <;> simp
  rw [found, List.idxOf?_eq_some_iff]
  constructor
  · rintro ⟨inside, here, first⟩
    rw [List.length_take] at inside
    refine ⟨⟨?_, fun earlier before => ?_⟩, by omega⟩
    · rw [List.getElem_take] at here
      rw [← here]
      exact List.getElem?_eq_getElem (by omega)
    · have absent := first earlier before
      rw [List.getElem_take] at absent
      rw [List.getElem?_eq_getElem (by omega)]
      exact fun same => absent (Option.some.inj same)
  · rintro ⟨⟨here, first⟩, bound⟩
    rcases List.getElem?_eq_some_iff.mp here with ⟨inside, known⟩
    refine ⟨by rw [List.length_take]; omega, by rw [List.getElem_take, known], ?_⟩
    intro earlier before same
    rw [List.getElem_take] at same
    exact first earlier before (List.getElem?_eq_some_iff.mpr ⟨by omega, same⟩)

theorem eq_of_referentAfter_eq_free {events : List Event} {id other : String}
    (free : referentAfter events id = .free other) : id = other := by
  rw [referentAfter] at free
  split at free
  · cases free
  · exact Referent.free.inj free

/-- A name that nothing has bound yet is free. -/
theorem referentAfter_eq_free {events : List Event} {position : Nat} {id : String}
    (unbound : ∀ origin ≤ position, ¬ FirstBound events origin id) :
    referentAfter (events.take (position + 1)) id = .free id := by
  cases found : referentAfter (events.take (position + 1)) id with
  | binding origin =>
      rcases referentAfter_eq_binding_iff.mp found with ⟨first, bound⟩
      exact absurd first (unbound origin bound)
  | free other => rw [eq_of_referentAfter_eq_free found]

/-! ### Programs whose names have the same referents -/

/-- Two programs in which the same names are used before the loops that bind them have equal names
in the same positions, when the names have the same referents: what is said of one of them holds
of the other. -/
theorem eq_of_referents {first second : List Event}
    (same : ∀ position id other, Occurs first position id → Occurs second position other →
      referentAfter (first.take (position + 1)) id =
        referentAfter (second.take (position + 1)) other)
    (early : ∀ early origin, EarlyUse first early origin → EarlyUse second early origin)
    {before after : Nat} (ordered : before ≤ after) {id idBefore idAfter : String}
    (occursBefore : Occurs first before id) (occursAfter : Occurs first after id)
    (nameBefore : Occurs second before idBefore) (nameAfter : Occurs second after idAfter) :
    idBefore = idAfter := by
  have sameBefore := same before id idBefore occursBefore nameBefore
  have sameAfter := same after id idAfter occursAfter nameAfter
  by_cases bound : ∃ origin ≤ after, FirstBound first origin id
  · rcases bound with ⟨origin, reached, firstBound⟩
    -- the later occurrence refers to the binding at `origin` in both programs
    rw [referentAfter_eq_binding_iff.mpr ⟨firstBound, reached⟩] at sameAfter
    have boundAfter := (referentAfter_eq_binding_iff.mp sameAfter.symm).1
    by_cases known : origin ≤ before
    · rw [referentAfter_eq_binding_iff.mpr ⟨firstBound, known⟩] at sameBefore
      have boundBefore := (referentAfter_eq_binding_iff.mp sameBefore.symm).1
      have both := boundBefore.1.symm.trans boundAfter.1
      cases both
      rfl
    · have used : first[before]? = some (.use id) :=
        occursBefore.resolve_right (firstBound.2 before (by omega))
      rcases early before origin ⟨id, used, firstBound, by omega⟩ with
        ⟨other, usedOther, firstOther, -⟩
      have boundSame := firstOther.1.symm.trans boundAfter.1
      cases boundSame
      rcases nameBefore with name | name
      · have both := name.symm.trans usedOther
        cases both
        rfl
      · have both := name.symm.trans usedOther
        cases both
  · have unbound : ∀ origin ≤ after, ¬ FirstBound first origin id :=
      fun origin reached firstBound => bound ⟨origin, reached, firstBound⟩
    rw [referentAfter_eq_free fun origin reached =>
      unbound origin (Nat.le_trans reached ordered)] at sameBefore
    rw [referentAfter_eq_free unbound] at sameAfter
    exact (eq_of_referentAfter_eq_free sameBefore.symm).trans
      (eq_of_referentAfter_eq_free sameAfter.symm).symm

end Referents

/-! ### Renamings -/

/-- Pairs that agree on what is the same and what is not are joined by a permutation. -/
theorem exists_perm {α : Type} [DecidableEq α] (pairs : List (α × α))
    (coherent : ∀ first ∈ pairs, ∀ second ∈ pairs, first.1 = second.1 ↔ first.2 = second.2) :
    ∃ change : Equiv.Perm α, ∀ pair ∈ pairs, change pair.1 = pair.2 := by
  induction pairs with
  | nil => exact ⟨Equiv.refl α, nofun⟩
  | cons pair rest ih =>
      rcases ih fun first member second other => coherent first (List.mem_cons_of_mem _ member)
        second (List.mem_cons_of_mem _ other) with ⟨change, joins⟩
      refine ⟨change.trans (Equiv.swap (change pair.1) pair.2), ?_⟩
      intro other member
      rw [Equiv.trans_apply]
      rcases List.mem_cons.mp member with rfl | inside
      · exact Equiv.swap_apply_left _ _
      · have agree := coherent other member pair List.mem_cons_self
        by_cases same : other.1 = pair.1
        · rw [same, Equiv.swap_apply_left, agree.mp same]
        · rw [joins other inside]
          refine Equiv.swap_apply_of_ne_of_ne (fun hit => same ?_) (mt agree.mpr same)
          rw [← joins other inside] at hit
          exact change.injective hit

/-- In events without scopes every position is that of a name. -/
theorem getElem?_occurrences {events : List Event} (flat : Flat events) (position : Nat) :
    (occurrences events)[position]? = events[position]?.bind Event.id? := by
  induction events generalizing position with
  | nil => rfl
  | cons event rest ih =>
      have others := ih fun other member => flat other (List.mem_cons_of_mem _ member)
      rcases flat event List.mem_cons_self with ⟨id, rfl | rfl⟩ <;>
        cases position with
        | zero => rfl
        | succ position => exact others position

theorem occurs_of_getElem? {events : List Event} (flat : Flat events) {position : Nat} {id : String}
    (name : (occurrences events)[position]? = some id) : Occurs events position id := by
  rw [getElem?_occurrences flat] at name
  rcases Option.bind_eq_some_iff.mp name with ⟨event, here, named⟩
  rw [Occurs, here]
  cases event <;> cases named
  · exact .inl rfl
  · exact .inr rfl

section EarlyUse

variable {change : String → String} (injective : Function.Injective change)
include injective

theorem firstBound_map (events : List Event) (origin : Nat) (id : String) :
    FirstBound (events.map (Event.mapName change)) origin (change id) ↔
      FirstBound events origin id := by
  have here : ∀ position : Nat, (events.map (Event.mapName change))[position]? =
      some (.bind (change id)) ↔ events[position]? = some (.bind id) := by
    intro position
    rw [List.getElem?_map, Option.map_eq_some_iff]
    constructor
    · rintro ⟨event, known, changed⟩
      cases event with
      | bind other => rw [known, injective (Event.bind.inj changed)]
      | _ => cases changed
    · exact fun known => ⟨_, known, rfl⟩
  simp only [FirstBound, here, ne_eq]

/-- An injective change of names leaves early uses where they are. -/
theorem earlyUse_map (events : List Event) (early origin : Nat) :
    EarlyUse (events.map (Event.mapName change)) early origin ↔ EarlyUse events early origin := by
  constructor
  · rintro ⟨id, used, bound, before⟩
    rw [List.getElem?_map] at used
    rcases Option.map_eq_some_iff.mp used with ⟨event, here, changed⟩
    cases event <;> cases changed
    exact ⟨_, here, (firstBound_map injective events origin _).mp bound, before⟩
  · rintro ⟨id, used, bound, before⟩
    refine ⟨change id, ?_, (firstBound_map injective events origin id).mpr bound, before⟩
    rw [List.getElem?_map, used]
    rfl

end EarlyUse

/-! ### Main result -/

section Main

variable {options : Options} {first second : List Tree}

/-- Programs with one scope and the same canonical form have the same skeleton and the same
referents. -/
theorem skeleton_referents_of_ofTree_eq (renames : options.renameLocals = true)
    (scopeFirst : OneScope first) (scopeSecond : OneScope second)
    (freshFirst : Fresh (.module first)) (freshSecond : Fresh (.module second))
    (same : ofTree options (.module first) = ofTree options (.module second)) :
    skeleton (.module first) = skeleton (.module second) ∧
      referents (.module first) = referents (.module second) := by
  rw [ofTree_of_oneScope options scopeFirst, ofTree_of_oneScope options scopeSecond, renames,
    ofTree_eq_iff_names, canonicalNames_eq_iff freshFirst freshSecond] at same
  exact same

theorem length_referents (body : List Tree) :
    (referents (.module body)).length = (occurrences (walkAll body)).length := by
  have names := length_rename (.namesOnly true) (walk (.module body)) .empty
  rw [← canonicalNames, names_of_referents, List.length_map, walk, occurrences_inScope] at names
  exact names

/-- What is one name in the first program is one name in the second. -/
theorem eq_of_earlyUse (flatFirst : Flat (walkAll first)) (flatSecond : Flat (walkAll second))
    (same : referents (.module first) = referents (.module second))
    (early : ∀ early origin, EarlyUse (walkAll first) early origin →
      EarlyUse (walkAll second) early origin)
    {before after : Nat} {id idBefore idAfter : String}
    (occursBefore : Occurs (walkAll first) before id)
    (occursAfter : Occurs (walkAll first) after id)
    (nameBefore : Occurs (walkAll second) before idBefore)
    (nameAfter : Occurs (walkAll second) after idAfter) : idBefore = idAfter := by
  have agree : ∀ position id other, Occurs (walkAll first) position id →
      Occurs (walkAll second) position other →
        referentAfter ((walkAll first).take (position + 1)) id =
          referentAfter ((walkAll second).take (position + 1)) other := by
    intro position id other occurs name
    have found := getElem?_referents flatFirst occurs
    rw [same, getElem?_referents flatSecond name] at found
    exact (Option.some.inj found).symm
  rcases Nat.le_total before after with ordered | ordered
  · exact eq_of_referents agree early ordered occursBefore occursAfter nameBefore nameAfter
  · exact (eq_of_referents agree early ordered occursAfter occursBefore nameAfter nameBefore).symm

/-- Names in the same positions of the two programs agree on what is the same and what is not. -/
theorem zip_coherent (flatFirst : Flat (walkAll first)) (flatSecond : Flat (walkAll second))
    (same : referents (.module first) = referents (.module second))
    (early : ∀ early origin,
      EarlyUse (walkAll first) early origin ↔ EarlyUse (walkAll second) early origin) :
    ∀ pair ∈ (occurrences (walkAll first)).zip (occurrences (walkAll second)),
      ∀ other ∈ (occurrences (walkAll first)).zip (occurrences (walkAll second)),
        pair.1 = other.1 ↔ pair.2 = other.2 := by
  intro pair member other inside
  rcases List.mem_iff_getElem?.mp member with ⟨place, here⟩
  rcases List.mem_iff_getElem?.mp inside with ⟨elsewhere, there⟩
  rcases List.getElem?_zip_eq_some.mp here with ⟨nameHere, renamedHere⟩
  rcases List.getElem?_zip_eq_some.mp there with ⟨nameThere, renamedThere⟩
  have occursHere := occurs_of_getElem? flatFirst nameHere
  have occursThere := occurs_of_getElem? flatFirst nameThere
  have changedHere := occurs_of_getElem? flatSecond renamedHere
  have changedThere := occurs_of_getElem? flatSecond renamedThere
  constructor
  · intro equal
    rw [← equal] at occursThere
    exact eq_of_earlyUse flatFirst flatSecond same (fun use origin => (early use origin).mp)
      occursHere occursThere changedHere changedThere
  · intro equal
    rw [← equal] at changedThere
    exact eq_of_earlyUse flatSecond flatFirst same.symm (fun use origin => (early use origin).mpr)
      changedHere changedThere occursHere occursThere

/-- Two programs with one scope and the same canonical form are renamings of each other just when
the same names are used before the loops that bind them. -/
theorem exists_injective_mapNames_iff (renames : options.renameLocals = true)
    (scopeFirst : OneScope first) (scopeSecond : OneScope second)
    (freshFirst : Fresh (.module first)) (freshSecond : Fresh (.module second))
    (same : ofTree options (.module first) = ofTree options (.module second)) :
    (∃ change, Function.Injective change ∧
        (Tree.module first).mapNames change = .module second) ↔
      ∀ early origin,
        EarlyUse (walkAll first) early origin ↔ EarlyUse (walkAll second) early origin := by
  have flatFirst := flat_walkAll first scopeFirst.opensNone
  have flatSecond := flat_walkAll second scopeSecond.opensNone
  rcases skeleton_referents_of_ofTree_eq renames scopeFirst scopeSecond freshFirst freshSecond same
    with ⟨skeletons, sameReferents⟩
  constructor
  · rintro ⟨change, injective, renamed⟩ early origin
    have bodies : Tree.mapNamesAll change first = second := Tree.module.inj renamed
    rw [← bodies, walkAll_mapNames change scopeFirst.opensNone, earlyUse_map injective]
  · intro early
    have counted :
        (occurrences (walkAll first)).length = (occurrences (walkAll second)).length := by
      rw [← length_referents, ← length_referents, sameReferents]
    rcases exists_perm _ (zip_coherent flatFirst flatSecond sameReferents early) with
      ⟨change, joins⟩
    refine ⟨change, change.injective, mapNames_eq_of_names change scopeFirst.opensNone skeletons ?_⟩
    calc (occurrences (walkAll first)).map change
        = (((occurrences (walkAll first)).zip (occurrences (walkAll second))).map Prod.fst).map
            change := by rw [List.map_fst_zip (Nat.le_of_eq counted)]
      _ = ((occurrences (walkAll first)).zip (occurrences (walkAll second))).map Prod.snd :=
          List.map_map.trans (List.map_congr_left joins)
      _ = occurrences (walkAll second) := List.map_snd_zip (Nat.le_of_eq counted.symm)

/-- A loop over `y` that uses its own name. -/
def loopOver (id : String) : List Tree :=
  [.loop false (.name id .store) (.name "y" .load) [.node .expr [[.name id .load]]] []]

theorem fresh_module {body : List Tree}
    (plain : ∀ id ∈ occurrences (walkAll body), id.toList.head? ≠ some '_') :
    Fresh (.module body) := by
  intro id member
  rw [walk, occurrences_inScope] at member
  exact ne_placeholder (plain id member)

theorem not_earlyUse_loopOver {id : String} (apart : id ≠ "y") (early origin : Nat) :
    ¬ EarlyUse (walkAll (loopOver id)) early origin := by
  rintro ⟨other, used, ⟨bound, -⟩, before⟩
  match origin with
  | 1 =>
      obtain rfl : early = 0 := by omega
      cases used
      exact apart (Event.bind.inj (Option.some.inj bound))
  | 0 => cases bound
  | 2 => cases bound
  | origin + 3 => cases bound

/-- The name of a loop does not matter. -/
theorem exists_injective_mapNames_loopOver :
    ofTree .standard (.module (loopOver "i")) = ofTree .standard (.module (loopOver "j")) ∧
      ∃ change, Function.Injective change ∧
        (Tree.module (loopOver "i")).mapNames change = .module (loopOver "j") := by
  have same : ofTree .standard (.module (loopOver "i")) =
      ofTree .standard (.module (loopOver "j")) := rfl
  have fresh : Fresh (.module (loopOver "i")) ∧ Fresh (.module (loopOver "j")) :=
    ⟨fresh_module (by decide), fresh_module (by decide)⟩
  refine ⟨same, (exists_injective_mapNames_iff rfl ⟨rfl, rfl⟩ ⟨rfl, rfl⟩ fresh.1 fresh.2
    same).mpr fun early origin => ?_⟩
  exact iff_of_false (not_earlyUse_loopOver (by decide) early origin)
    (not_earlyUse_loopOver (by decide) early origin)

/-- A name is assigned, a loop over `y` binds another one, and the first one is used. -/
def assignedThenLoop (id : String) : List Tree :=
  [.node .assign [[.name "x" .store], [.constant (.int 1)]],
    .loop false (.name id .store) (.name "y" .load) [.node .passStatement []] [],
    .node .expr [[.name id .load]]]

/-- A loop that assigns to a name which is assigned before has the same canonical form as a loop
with a name of its own, and no change of names makes the one of the other. -/
theorem ofTree_assignedThenLoop :
    OneScope (assignedThenLoop "x") ∧ OneScope (assignedThenLoop "z") ∧
      Fresh (.module (assignedThenLoop "x")) ∧ Fresh (.module (assignedThenLoop "z")) ∧
      ofTree .standard (.module (assignedThenLoop "x")) =
        ofTree .standard (.module (assignedThenLoop "z")) ∧
      ¬ ∃ change, (Tree.module (assignedThenLoop "x")).mapNames change =
        .module (assignedThenLoop "z") := by
  refine ⟨⟨rfl, rfl⟩, ⟨rfl, rfl⟩, fresh_module (by decide), fresh_module (by decide), rfl, ?_⟩
  rintro ⟨change, renamed⟩
  simp only [assignedThenLoop, Tree.mapNames, Tree.mapNamesAll, Tree.mapNamesParts,
    Tree.module.injEq, List.cons.injEq, Tree.node.injEq, Tree.loop.injEq, Tree.name.injEq,
    true_and, and_true] at renamed
  have same : "x" = "z" := renamed.1.symm.trans renamed.2.1.1
  exact absurd same (by decide)

end Main

end Canonical
end Snippet
end AnswerKey
