import AnswerKey.Program.Run
import AnswerKey.Proofs.Canonical.Walk

namespace AnswerKey
namespace Snippet
namespace Canonical

/-!
What normalised slices select.

The canonical form drops a bound by looking at that bound alone.  An absent lower bound stands for
zero only as long as the step is positive: under a negative step it stands for the last
position.  So a literal zero that is dropped from under a negative step changes what the slice
selects, unless the upper bound is `-1` and nothing is selected in any case.  Every other slice
selects what it selected before (`select_canonical_iff`).
-/

open Program

/-! ### Slices that are written down -/

/-- A bound of a slice: none at all, the constant, or an integer with or without a minus. -/
inductive Bound where
  | absent
  | none
  | int (value : Nat)
  | minus (value : Nat)
  deriving DecidableEq, Repr

namespace Bound

/-- The tree of a bound, if there is one. -/
def trees : Bound → List Tree
  | absent => []
  | none => [.constant .none]
  | int value => [.constant (.int value)]
  | minus value => [.node (.unary .minus) [[.constant (.int value)]]]

/-- What a bound stands for. -/
def value : Bound → Option Int
  | absent => Option.none
  | none => Option.none
  | int value => some value
  | minus value => some (-value)

/-- A bound without what an absent one is taken to stand for. -/
def dropped (standard : Option Nat) : Bound → Bound
  | none => absent
  | int value => if standard = some value then absent else int value
  | bound => bound

end Bound

/-- The bounds of a slice. -/
structure Bounds where
  lower : Bound
  upper : Bound
  step : Bound
  deriving DecidableEq, Repr

namespace Bounds

/-- The slice as it is written. -/
def tree (bounds : Bounds) : Tree :=
  .slice bounds.lower.trees bounds.upper.trees bounds.step.trees

/-- What the slice means. -/
def meaning (bounds : Bounds) : Slice :=
  ⟨bounds.lower.value, bounds.upper.value, bounds.step.value⟩

/-- The slice that stands in the canonical form. -/
def canonical (bounds : Bounds) : Bounds :=
  ⟨bounds.lower.dropped (some 0), bounds.upper.dropped none, bounds.step.dropped (some 1)⟩

/-- A slice that goes down from the literal zero and might select something. -/
def FallsFromZero (bounds : Bounds) : Prop :=
  bounds.lower = .int 0 ∧ bounds.meaning.stride < 0 ∧ bounds.upper.value ≠ some (-1)

instance (bounds : Bounds) : Decidable bounds.FallsFromZero :=
  inferInstanceAs (Decidable (_ ∧ _ ∧ _))

end Bounds

/-! ### The canonical form -/

theorem trees_injective {first second : Bound} (same : first.trees = second.trees) :
    first = second := by
  cases first <;> cases second <;> simp_all [Bound.trees]

/-- A tree can be read as a slice in one way only. -/
theorem tree_injective {first second : Bounds} (same : first.tree = second.tree) :
    first = second := by
  rcases first with ⟨lower, upper, step⟩
  rcases second with ⟨otherLower, otherUpper, otherStep⟩
  simp only [Bounds.tree, Tree.slice.injEq] at same
  rcases same with ⟨sameLower, sameUpper, sameStep⟩
  rw [trees_injective sameLower, trees_injective sameUpper, trees_injective sameStep]

theorem visitAll_trees (options : Options) (bound : Bound) (scopes : Scopes) :
    (visitAll options bound.trees).run scopes = (bound.trees, scopes) := by
  cases bound <;> simp only [Bound.trees, visitAll, visit, visitParts] <;> rfl

theorem dropBound_none (bound : Bound) :
    dropBound isNone bound.trees = (bound.dropped none).trees := by
  cases bound <;> rfl

theorem dropBound_int (standard : Nat) (bound : Bound) :
    dropBound (fun tree => isInt standard tree || isNone tree) bound.trees =
      (bound.dropped (some standard)).trees := by
  cases bound with
  | int value =>
      by_cases same : value = standard
      · simp [dropBound, Bound.trees, Bound.dropped, isInt, same]
      · simp [dropBound, Bound.trees, Bound.dropped, isInt, isNone, same, Ne.symm same]
  | _ => rfl

/-- With slices normalised, a visit leaves the canonical slice. -/
theorem visit_slice (options : Options) (on : options.normalizeSlices = true) (bounds : Bounds)
    (scopes : Scopes) :
    (visit options bounds.tree).run scopes = (bounds.canonical.tree, scopes) := by
  have lower := visitAll_trees options bounds.lower scopes
  have upper := visitAll_trees options bounds.upper scopes
  have step := visitAll_trees options bounds.step scopes
  rw [Bounds.tree, visit]
  simp only [run_then, run_done, lower, upper, step, on, if_true, simplifySlice, dropBound_none,
    dropBound_int, Bounds.tree, Bounds.canonical]

/-! ### What a slice means -/

/-- The value of a bound that is there. -/
def Bound.values : Bound → List Value
  | .absent => []
  | .none => [.none]
  | .int value => [.int value]
  | .minus value => [.int (-value)]

theorem mapM_evaluate_trees (fuel : Nat) (bound : Bound) :
    bound.trees.mapM (evaluate (fuel + 2)) = pure bound.values := by
  cases bound <;> rfl

theorem sliceBound_values (bound : Bound) : sliceBound bound.values = .ok bound.value := by
  cases bound <;> rfl

/-- Evaluation gives a slice its meaning. -/
theorem evaluate_subscript_tree (fuel : Nat) (container : Tree) (bounds : Bounds) :
    evaluate (fuel + 3) (.node (.subscript .load) [[container], [bounds.tree]]) = (do
      let members ← evaluate (fuel + 2) container
      Run.lift (Value.sliced members bounds.meaning)) := by
  rw [Bounds.tree, evaluate]
  simp only [mapM_evaluate_trees, sliceBound_values, pure_bind, Run.lift, Bounds.meaning]

/-! ### What a slice selects -/

section Selection

variable {α : Type}

/-- What a slice selects depends on where it begins and ends and on its stride. -/
theorem select_congr {first second : Slice} {members : List α}
    (sameStride : first.stride = second.stride)
    (sameFirst : first.first members.length = second.first members.length)
    (sameStop : first.stop members.length = second.stop members.length) :
    first.select members = second.select members := by
  rw [Slice.select, Slice.select, Slice.positions, Slice.positions, sameStride, sameFirst, sameStop]

theorem rangeLength_down_eq_zero {start stop step : Int} (down : step < 0) (past : start ≤ stop) :
    Value.rangeLength start stop step = 0 := by
  have below : start - stop - step - 1 < -step := by omega
  have quotient : (start - stop - step - 1) / -step < 1 :=
    Int.ediv_lt_of_lt_mul (by omega) (by omega)
  rw [Value.rangeLength, if_neg (by omega), if_pos down]
  omega

theorem rangeLength_down_pos {start stop step : Int} (down : step < 0) (before : stop < start) :
    0 < Value.rangeLength start stop step := by
  have quotient : 1 ≤ (start - stop - step - 1) / -step :=
    Int.le_ediv_of_mul_le (by omega) (by omega)
  rw [Value.rangeLength, if_neg (by omega), if_pos down]
  omega

/-- A slice that goes down and begins at its end or before selects nothing. -/
theorem select_eq_nil {slice : Slice} {members : List α} (down : slice.stride < 0)
    (past : slice.first members.length ≤ slice.stop members.length) :
    slice.select members = [] := by
  rw [Slice.select, Slice.positions, rangeLength_down_eq_zero down past]
  rfl

/-- A slice that goes down selects its first position first, if it comes before the end. -/
theorem exists_positions {slice : Slice} {length : Nat} (down : slice.stride < 0)
    (before : slice.stop length < slice.first length) :
    ∃ rest, slice.positions length = slice.first length :: rest := by
  have some := rangeLength_down_pos down before
  rcases Nat.exists_eq_succ_of_ne_zero (Nat.ne_of_gt some) with ⟨count, counted⟩
  rw [Slice.positions, counted, List.range_succ_eq_map, List.map_cons, Int.natCast_zero,
    Int.zero_mul, Int.add_zero]
  exact ⟨_, rfl⟩

theorem head?_select {slice : Slice} {members : List α} {position : Nat}
    (down : slice.stride < 0) (before : slice.stop members.length < position)
    (first : slice.first members.length = position) (inside : position < members.length) :
    (slice.select members).head? = some members[position] := by
  rw [← first] at before
  rcases exists_positions down before with ⟨rest, positions⟩
  have member : members[(slice.first members.length).toNat]? = some members[position] := by
    rw [first, Int.toNat_natCast, List.getElem?_eq_getElem inside]
  rw [Slice.select, positions, List.filterMap_cons]
  simp only [member, List.head?_cons]

end Selection

/-! ### What the canonical slice selects -/

section Canonical

variable (bounds : Bounds)

theorem value_dropped {standard : Option Nat} {bound : Bound}
    (kept : ∀ value, standard = some value → bound ≠ .int value) :
    (bound.dropped standard).value = bound.value := by
  cases bound with
  | int value =>
      have different : standard ≠ some value := fun same => kept value same rfl
      rw [Bound.dropped, if_neg different]
  | _ => rfl

theorem stride_canonical : bounds.canonical.meaning.stride = bounds.meaning.stride := by
  by_cases one : bounds.step = .int 1
  · simp [Bounds.canonical, Bounds.meaning, Slice.stride, one, Bound.dropped, Bound.value]
  · have kept : (bounds.step.dropped (some 1)).value = bounds.step.value :=
      value_dropped fun value same => Option.some.inj same ▸ one
    rw [Slice.stride, Slice.stride]
    exact congrArg (Option.getD · 1) kept

theorem stop_canonical (length : Nat) :
    bounds.canonical.meaning.stop length = bounds.meaning.stop length := by
  have upper : bounds.canonical.meaning.upper = bounds.meaning.upper := value_dropped nofun
  rw [Slice.stop, Slice.stop, stride_canonical, upper]

variable {bounds}

theorem first_canonical (kept : bounds.lower ≠ .int 0) (length : Nat) :
    bounds.canonical.meaning.first length = bounds.meaning.first length := by
  have lower : bounds.canonical.meaning.lower = bounds.meaning.lower :=
    value_dropped fun value same => Option.some.inj same ▸ kept
  rw [Slice.first, Slice.first, stride_canonical, lower]

theorem lower_of_zero (zero : bounds.lower = .int 0) : bounds.meaning.lower = some 0 := by
  rw [Bounds.meaning, zero]
  rfl

theorem lower_canonical_of_zero (zero : bounds.lower = .int 0) :
    bounds.canonical.meaning.lower = none := by
  rw [Bounds.canonical, zero]
  rfl

/-- Going up, zero is where a slice begins that has no lower bound. -/
theorem first_canonical_up (zero : bounds.lower = .int 0) (up : ¬ bounds.meaning.stride < 0)
    (length : Nat) : bounds.canonical.meaning.first length = bounds.meaning.first length := by
  rw [Slice.first, Slice.first, stride_canonical, if_neg up, if_neg up, lower_of_zero zero,
    lower_canonical_of_zero zero, Option.map_some, Option.getD_some, Slice.clamp,
    if_neg (Int.lt_irrefl 0), Option.map_none, Option.getD_none]
  omega

/-- Going down, zero is the first position or the one before it. -/
theorem first_down (zero : bounds.lower = .int 0) (down : bounds.meaning.stride < 0)
    (length : Nat) : bounds.meaning.first length = min ((length : Int) - 1) 0 := by
  rw [Slice.first, if_pos down, lower_of_zero zero, Option.map_some, Option.getD_some, Slice.clamp,
    if_neg (Int.lt_irrefl 0)]
  omega

/-- Going down, a slice that has no lower bound begins at the last position. -/
theorem first_canonical_down (zero : bounds.lower = .int 0) (down : bounds.meaning.stride < 0)
    (length : Nat) : bounds.canonical.meaning.first length = (length : Int) - 1 := by
  rw [Slice.first, stride_canonical, if_pos down, lower_canonical_of_zero zero, Option.map_none,
    Option.getD_none]

theorem stop_down {upper : Option Int} (known : bounds.upper.value = upper)
    (down : bounds.meaning.stride < 0) (length : Nat) :
    bounds.meaning.stop length =
      (upper.map (Slice.clamp length (-1) (length - 1))).getD (-1) := by
  rw [Slice.stop, if_pos down, ← known]
  rfl

/-- Some sequence is long enough for a slice that goes down to stop before its last position. -/
theorem exists_stop_lt (down : bounds.meaning.stride < 0)
    (different : bounds.upper.value ≠ some (-1)) :
    ∃ length : Nat, 2 ≤ length ∧ bounds.meaning.stop length < (length : Int) - 1 := by
  cases known : bounds.upper.value with
  | none =>
      refine ⟨2, Nat.le_refl 2, ?_⟩
      rw [stop_down known down]
      decide
  | some upper =>
      rw [known, ne_eq, Option.some.injEq] at different
      by_cases negative : upper < 0
      · refine ⟨upper.natAbs, by omega, ?_⟩
        rw [stop_down known down, Option.map_some, Option.getD_some, Slice.clamp, if_pos negative]
        omega
      · refine ⟨upper.toNat + 2, by omega, ?_⟩
        rw [stop_down known down, Option.map_some, Option.getD_some, Slice.clamp, if_neg negative]
        omega

/-- A slice that does not fall from zero selects what it selected before. -/
theorem select_canonical {α : Type} (kept : ¬ bounds.FallsFromZero) (members : List α) :
    bounds.canonical.meaning.select members = bounds.meaning.select members := by
  by_cases zero : bounds.lower = .int 0
  · by_cases down : bounds.meaning.stride < 0
    · have upper : bounds.upper.value = some (-1) :=
        Decidable.byContradiction fun different => kept ⟨zero, down, different⟩
      have stop := stop_down upper down members.length
      have first := first_down zero down members.length
      have firstCanonical := first_canonical_down zero down members.length
      rw [Option.map_some, Option.getD_some, Slice.clamp] at stop
      rw [select_eq_nil down (by omega), select_eq_nil]
      · rwa [stride_canonical]
      · rw [stop_canonical]
        omega
    · exact select_congr (stride_canonical bounds) (first_canonical_up zero down _)
        (stop_canonical bounds _)
  · exact select_congr (stride_canonical bounds) (first_canonical zero _) (stop_canonical bounds _)

/-- A slice that falls from zero selects something else afterwards. -/
theorem exists_select_ne (falls : bounds.FallsFromZero) :
    ∃ members : List Nat,
      bounds.canonical.meaning.select members ≠ bounds.meaning.select members := by
  rcases falls with ⟨zero, down, different⟩
  rcases exists_stop_lt down different with ⟨length, long, stop⟩
  refine ⟨List.range length, fun same => ?_⟩
  have size : (List.range length).length = length := List.length_range
  have last : (bounds.canonical.meaning.select (List.range length)).head? = some (length - 1) := by
    have first : bounds.canonical.meaning.first (List.range length).length =
        (length - 1 : Nat) := by
      rw [size, first_canonical_down zero down]
      omega
    have before : bounds.canonical.meaning.stop (List.range length).length <
        (length - 1 : Nat) := by
      rw [size, stop_canonical]
      omega
    rw [head?_select (by rwa [stride_canonical]) before first (by omega), List.getElem_range]
  rw [same] at last
  by_cases reached : bounds.meaning.stop length < 0
  · have first : bounds.meaning.first (List.range length).length = (0 : Nat) := by
      rw [size, first_down zero down]
      omega
    have before : bounds.meaning.stop (List.range length).length < (0 : Nat) := by rwa [size]
    rw [head?_select down before first (by omega), List.getElem_range, Option.some.injEq] at last
    omega
  · rw [select_eq_nil down] at last
    · cases last
    · rw [size, first_down zero down]
      omega

end Canonical

/-- The canonical form keeps what a slice selects just when the slice does not fall from zero. -/
theorem select_canonical_iff (bounds : Bounds) :
    (∀ (α : Type) (members : List α),
      bounds.canonical.meaning.select members = bounds.meaning.select members) ↔
        ¬ bounds.FallsFromZero := by
  constructor
  · intro same falls
    rcases exists_select_ne falls with ⟨members, different⟩
    exact different (same Nat members)
  · intro kept α members
    exact select_canonical kept members

/-- Slices that fall from zero and have the same canonical form mean the same. -/
theorem meaning_eq_of_falls {first second : Bounds} (fallsFirst : first.FallsFromZero)
    (fallsSecond : second.FallsFromZero) (same : first.canonical = second.canonical)
    {α : Type} (members : List α) :
    first.meaning.select members = second.meaning.select members := by
  have sameStride := congrArg (·.meaning.stride) same
  have sameStop := congrArg (·.meaning.stop members.length) same
  simp only [stride_canonical, stop_canonical] at sameStride sameStop
  refine select_congr sameStride ?_ sameStop
  rw [first_down fallsFirst.1 fallsFirst.2.1, first_down fallsSecond.1 fallsSecond.2.1]

/-- Two slices with the same canonical form select the same from every sequence just when both or
neither of them falls from zero. -/
theorem select_eq_iff_of_canonical_eq {first second : Bounds}
    (same : first.canonical = second.canonical) :
    (∀ (α : Type) (members : List α),
      first.meaning.select members = second.meaning.select members) ↔
        (first.FallsFromZero ↔ second.FallsFromZero) := by
  constructor
  · intro selected
    have kept := select_canonical_iff first
    rw [same] at kept
    simp only [selected, select_canonical_iff second] at kept
    exact (Decidable.not_iff_not.mp kept).symm
  · intro both α members
    by_cases falls : first.FallsFromZero
    · exact meaning_eq_of_falls falls (both.mp falls) same members
    · rw [← select_canonical falls, ← select_canonical (fun other => falls (both.mpr other)), same]

/-- What normalising slices keeps: a slice selects from every sequence what it selected before,
unless it falls from zero; and two slices that are made the same select the same, unless one of them
falls from zero and the other does not. -/
theorem select_visit_iff (renameLocals ignoreDocstrings : Bool) (scopes : Scopes)
    (first second : Bounds) :
    (∃ canonical : Bounds,
      (visit ⟨renameLocals, true, ignoreDocstrings⟩ first.tree).run scopes =
          (canonical.tree, scopes) ∧
        ((∀ (α : Type) (members : List α),
          canonical.meaning.select members = first.meaning.select members) ↔
            ¬ first.FallsFromZero)) ∧
      (((visit ⟨renameLocals, true, ignoreDocstrings⟩ first.tree).run scopes).1 =
          ((visit ⟨renameLocals, true, ignoreDocstrings⟩ second.tree).run scopes).1 →
        ((∀ (α : Type) (members : List α),
          first.meaning.select members = second.meaning.select members) ↔
            (first.FallsFromZero ↔ second.FallsFromZero))) := by
  rw [visit_slice _ rfl, visit_slice _ rfl]
  constructor
  · exact ⟨first.canonical, rfl, select_canonical_iff first⟩
  · intro same
    exact select_eq_iff_of_canonical_eq (tree_injective same)

/-- `[0::-1]` is made the same as `[::-1]`, but selects the first member only. -/
theorem canonical_of_fall_from_zero :
    ((visit .standard (Bounds.tree ⟨.int 0, .absent, .minus 1⟩)).run .empty).1 =
        ((visit .standard (Bounds.tree ⟨.absent, .absent, .minus 1⟩)).run .empty).1 ∧
      (Bounds.meaning ⟨.int 0, .absent, .minus 1⟩).select [1, 2] = [1] ∧
        (Bounds.meaning ⟨.absent, .absent, .minus 1⟩).select [1, 2] = [2, 1] := by
  refine ⟨rfl, ?_, ?_⟩ <;> decide

end Canonical
end Snippet
end AnswerKey
