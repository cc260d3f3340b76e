import AnswerKey.Proofs.Canonical.Occurrence
import AnswerKey.Proofs.Canonical.Pruning
import AnswerKey.Proofs.Canonical.Reference

namespace AnswerKey
namespace Snippet
namespace Canonical

/-!
Bound names and free ones.

A use that is bound gets the placeholder of its binding; a use that is free keeps its name.  If
the one is put in the place of the other, the canonical form changes, unless the free name is that
very placeholder: placeholders are not kept apart from the names that stand in a program, so a
name that is spelled like one is captured (`ofTree_replaceUse_ne_iff`).
-/

/-- The scopes that are open at a place of the walk. -/
def scopesAt (tree : Tree) (place : Nat) : Scopes :=
  ((rename (.namesOnly true) ((walk tree).take place)).run .empty).2

section Use

variable {tree : Tree} {place : Nat} {id : String}

/-- The canonical names around a use: what comes before it and after it does not depend on it. -/
theorem exists_canonicalNames_replaceUse (used : (walk tree)[place]? = some (.use id)) :
    ∃ before after, ∀ other,
      canonicalNames true (replaceUse tree place other) =
        before ++ ((Scopes.resolve other).run (scopesAt tree place)).1 :: after := by
  rcases List.getElem?_eq_some_iff.mp used with ⟨inside, -⟩
  refine ⟨((rename (.namesOnly true) ((walk tree).take place)).run .empty).1,
    ((rename (.namesOnly true) ((walk tree).drop (place + 1))).run (scopesAt tree place)).1, ?_⟩
  intro other
  have kept : ((Scopes.resolve other).run (scopesAt tree place)).2 = scopesAt tree place := by
    rw [StateT.run, Scopes.resolve]
    split <;> rfl
  rw [canonicalNames, walk_replaceUse used, List.set_eq_take_append_cons_drop, if_pos inside,
    rename_append]
  simp only [rename, run_then, run_done]
  rw [← scopesAt, kept]

/-- Replacing a bound use by a free name changes the canonical names, unless the name is the
placeholder of the binding. -/
theorem canonicalNames_replaceUse_iff {index : Nat} {other : String}
    (used : (walk tree)[place]? = some (.use id))
    (bound : Scopes.find? id (scopesAt tree place).stack = some index)
    (unbound : Scopes.find? other (scopesAt tree place).stack = none) :
    canonicalNames true (replaceUse tree place other) = canonicalNames true tree ↔
      other = placeholder index := by
  rcases exists_canonicalNames_replaceUse used with ⟨before, after, names⟩
  have here : ((Scopes.resolve id).run (scopesAt tree place)).1 = placeholder index := by
    rw [StateT.run, Scopes.resolve, bound]
  have there : ((Scopes.resolve other).run (scopesAt tree place)).1 = other := by
    rw [StateT.run, Scopes.resolve, unbound]
  have unchanged := names id
  rw [replaceUse_self used, here] at unchanged
  rw [names other, there, unchanged, List.append_cancel_left_eq, List.cons.injEq]
  exact and_iff_left rfl

end Use

/-- Replacing a bound use by a name that is free there changes the canonical form just when the
name is not the placeholder of the binding. -/
theorem ofTree_replaceUse_ne_iff {options : Options} (renames : options.renameLocals = true)
    {tree : Tree} (single : singleBounds tree = true) {place index : Nat} {id other : String}
    (used : (walk tree)[place]? = some (.use id))
    (bound : Scopes.find? id (scopesAt tree place).stack = some index)
    (unbound : Scopes.find? other (scopesAt tree place).stack = none) :
    ofTree options (replaceUse tree place other) ≠ ofTree options tree ↔
      other ≠ placeholder index := by
  refine not_congr ?_
  rw [← canonicalNames_replaceUse_iff used bound unbound]
  have stillSingle : singleBounds (replaceUse tree place other) = true := by
    rw [replaceUse, singleBounds_fill, single]
  constructor
  · intro same
    have names := occurrences_walk_ofTree_eq options stillSingle
    rw [same, occurrences_walk_ofTree_eq options single, renames] at names
    exact names.symm
  · intro names
    rw [ofTree_eq_prune, ofTree_eq_prune options tree, renames,
      (ofTree_eq_iff_names true _ _).mpr ⟨skeleton_replaceUse tree place other, names⟩]

/-- A loop over `y` that uses a name. -/
def loopUsing (id : String) : Tree :=
  .module [.loop false (.name "i" .store) (.name "y" .load) [.node .expr [[.name id .load]]] []]

/-- A loop that uses its own name is not the same as one that uses a free one. -/
theorem ofTree_loopUsing_ne :
    singleBounds (loopUsing "i") = true ∧
      (walk (loopUsing "i"))[3]? = some (.use "i") ∧
      Scopes.find? "i" (scopesAt (loopUsing "i") 3).stack = some 0 ∧
      Scopes.find? "j" (scopesAt (loopUsing "i") 3).stack = none ∧
      replaceUse (loopUsing "i") 3 "j" = loopUsing "j" ∧
      ofTree .standard (replaceUse (loopUsing "i") 3 "j") ≠ ofTree .standard (loopUsing "i") := by
  have bound : Scopes.find? "i" (scopesAt (loopUsing "i") 3).stack = some 0 := rfl
  have apart : "j" ≠ placeholder 0 := by decide
  exact ⟨rfl, rfl, bound, rfl, rfl, (ofTree_replaceUse_ne_iff rfl rfl rfl bound rfl).mpr apart⟩

/-- A free name that is spelled like a placeholder is captured. -/
theorem ofTree_loopUsing_placeholder :
    (walk (loopUsing "i"))[3]? = some (.use "i") ∧
      Scopes.find? "i" (scopesAt (loopUsing "i") 3).stack = some 0 ∧
      Scopes.find? "_v0" (scopesAt (loopUsing "i") 3).stack = none ∧
      replaceUse (loopUsing "i") 3 "_v0" = loopUsing "_v0" ∧
      ofTree .standard (loopUsing "_v0") = ofTree .standard (loopUsing "i") :=
  ⟨rfl, rfl, rfl, rfl, rfl⟩

end Canonical
end Snippet
end AnswerKey
