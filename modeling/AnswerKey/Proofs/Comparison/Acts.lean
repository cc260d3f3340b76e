import AnswerKey.Comparison

namespace AnswerKey
namespace Bench

/-!
What acts do that are put together from others.

A relation may hold between the benches before and after every act of some kind, and it may tell
whether the act succeeds: an act goes on only after steps that have succeeded.  If it holds of doing
nothing and from step to step, it holds of the whole (`Bench.Within`).  So what is shown of the
forms of programs holds of comparisons.
-/

section Acts

variable {α β : Type}

section States

variable {σ : Type} {act : Act σ α} {state after : σ}

theorem run_bind_ok {value : α} (next : α → Act σ β) (ran : act.run.run state = (.ok value, after)) :
    (act >>= next).run.run state = (next value).run.run after := by
  rw [ExceptT.run_bind, StateT.run_bind, ran]
  rfl

theorem run_bind_error {exception : Exception} (next : α → Act σ β)
    (ran : act.run.run state = (.error exception, after)) :
    (act >>= next).run.run state = (.error exception, after) := by
  rw [ExceptT.run_bind, StateT.run_bind, ran]
  rfl

theorem run_tryCatch_ok {value : α} (handler : Exception → Act σ α)
    (ran : act.run.run state = (.ok value, after)) :
    (tryCatch act handler).run.run state = (.ok value, after) := by
  rw [ExceptT.run_tryCatch, StateT.run_bind, ran]
  rfl

theorem run_tryCatch_error {exception : Exception} (handler : Exception → Act σ α)
    (ran : act.run.run state = (.error exception, after)) :
    (tryCatch act handler).run.run state = (handler exception).run.run after := by
  rw [ExceptT.run_tryCatch, StateT.run_bind, ran]
  rfl

end States

/-- A relation between the benches before and after any number of steps and whether the last of
them has succeeded.  A step comes after others only if they have. -/
structure Lasting (relation : Bench → Bool → Bench → Prop) : Prop where
  refl : ∀ bench done, relation bench done bench
  trans : ∀ {first second third done}, relation first true second → relation second done third →
    relation first done third
  /-- Of a failure no more is told than of a success. -/
  weaken : ∀ {before done after}, relation before done after → relation before false after

/-- An act that leads from each bench to a related one. -/
def Within (relation : Bench → Bool → Bench → Prop) (act : Act Bench α) : Prop :=
  ∀ bench, relation bench (act.run.run bench).1.isOk (act.run.run bench).2

variable {relation : Bench → Bool → Bench → Prop} (lasting : Lasting relation)

include lasting

theorem within_pure (value : α) : Within relation (pure value) :=
  fun bench => lasting.refl bench true

theorem within_throw (exception : Exception) :
    Within relation (throw exception : Act Bench α) :=
  fun bench => lasting.refl bench false

theorem within_get : Within relation (get : Act Bench Bench) :=
  fun bench => lasting.refl bench true

theorem Within.bind {act : Act Bench α} {next : α → Act Bench β} (first : Within relation act)
    (second : ∀ value, Within relation (next value)) : Within relation (act >>= next) := by
  intro bench
  have related := first bench
  cases ran : act.run.run bench with
  | mk outcome after =>
      rw [ran] at related
      cases outcome with
      | ok value =>
          rw [run_bind_ok next ran]
          exact lasting.trans related (second value after)
      | error exception =>
          rw [run_bind_error next ran]
          exact related

/-- An act that may have failed although its exception is caught.  The handler does nothing. -/
theorem Within.tryCatch {act : Act Bench α} {handler : Exception → Act Bench α}
    (within : Within relation act)
    (still : ∀ exception bench, ((handler exception).run.run bench).2 = bench) (bench : Bench) :
    relation bench false ((tryCatch act handler).run.run bench).2 := by
  have related := lasting.weaken (within bench)
  cases ran : act.run.run bench with
  | mk outcome after =>
      rw [ran] at related
      cases outcome with
      | ok value =>
          rw [run_tryCatch_ok handler ran]
          exact related
      | error exception =>
          rw [run_tryCatch_error handler ran, still]
          exact related

/-! ### Comparisons -/

theorem within_firstEqual [BEq α] {form : String → Act Bench (Option α)}
    (forms : ∀ code, Within relation (form code)) (wanted : α) (alternatives : List String) :
    Within relation (firstEqual form wanted alternatives) := by
  induction alternatives with
  | nil => exact within_pure lasting none
  | cons alternative rest ih =>
      refine (forms alternative).bind lasting fun found => ?_
      split
      · exact within_pure lasting _
      · exact ih

theorem within_compareForms [BEq α] {form : String → Act Bench (Option α)}
    (forms : ∀ code, Within relation (form code)) (wanted : α) (expected : String)
    (alternatives : List String) :
    Within relation (compareForms form wanted expected alternatives) := by
  refine (forms expected).bind lasting fun found => ?_
  split
  · exact within_pure lasting _
  · exact (within_firstEqual lasting forms wanted alternatives).bind lasting fun _ =>
      within_pure lasting _

theorem within_compareTrees {number : Nat} {options : Snippet.Canonical.Options}
    (forms : ∀ code, Within relation (canonicalForm number code options))
    (submission expected : String) (alternatives : List String) (bench : Bench) :
    relation bench false
      ((compareTrees number submission expected alternatives options).run.run bench).2 := by
  refine Within.tryCatch lasting ((forms submission).bind lasting fun found => ?_)
    (fun exception bench => ?_) bench
  · cases found with
    | none => exact within_pure lasting _
    | some wanted => exact within_compareForms lasting forms wanted expected alternatives
  · split <;> rfl

theorem within_compareTokens {number : Nat} (forms : ∀ code, Within relation (tokens number code))
    (submission expected : String) (alternatives : List String) :
    Within relation (compareTokens number submission expected alternatives) := by
  refine (forms submission).bind lasting fun found => ?_
  split
  · exact within_pure lasting _
  · exact within_pure lasting _
  · exact within_compareForms lasting forms _ expected alternatives

end Acts

end Bench
end AnswerKey
