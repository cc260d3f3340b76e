import Mathlib.Data.List.Nodup
import AnswerKey.Proofs.Sandbox.Availability

namespace AnswerKey
namespace Sandbox
namespace Site

/-!
The number of a session.

A session begins when a child says that it is ready, and the sandbox counts them.  `Chronicle` keeps
the children that have said so beside a history of moves; none of them is heard twice, so that the
number of the session is the number of these children (`Chronicle.counted`).
-/

variable {site before after : Site} {child : Nat}

/-- A start is in flight because it was before, or because its child has just been launched. -/
theorem Move.inFlight (move : Move before after)
    (inFlight : after.sandbox.attempt = .inFlight child) :
    before.sandbox.attempt = .inFlight child ∨ child = before.world.children.length := by
  cases move with
  | start start =>
      cases start with
      | refuse idle refusal => cases inFlight
      | launch idle accepted =>
          cases inFlight
          exact .inr rfl
      | settle =>
          have ended := isStarting_settle before
          rw [isStarting_of_inFlight inFlight] at ended
          cases ended
  | serve isReady current payload hasTime =>
      rw [attempt_served] at inFlight
      exact .inl inFlight
  | close =>
      have ended := (sandbox_close before).2.2
      rw [isStarting_of_inFlight inFlight] at ended
      cases ended
  | exit =>
      rw [sandbox_exit] at inFlight
      exact .inl inFlight

/-- A start whose child says that it is ready is heard. -/
def Accepts (before after : Site) (child : Nat) : Prop :=
  before.sandbox.attempt = .inFlight child ∧ before.hears child = .ok () ∧ after = before.settle

/-- A session begins when a child is accepted, and at no other time. -/
theorem Move.session (move : Move before after) (valid : before.Valid)
    (other : ∀ child, ¬ before.Accepts after child) :
    after.sandbox.session = before.sandbox.session := by
  cases move with
  | start start =>
      cases start with
      | refuse idle refusal => rfl
      | launch idle accepted => rfl
      | settle =>
          cases starting : before.isStarting with
          | false => rw [settle_of_idle starting]
          | true =>
              rcases exists_inFlight starting with ⟨child, inFlight⟩
              cases heard : before.hears child with
              | ok _ => exact absurd ⟨inFlight, heard, rfl⟩ (other child)
              | error fault => exact ((settle_ends valid inFlight).2.2.2 fault heard).session
  | serve isReady current payload hasTime => exact session_served _ _ payload hasTime
  | close =>
      rw [Site.close]
      split <;> rfl
  | exit => rw [sandbox_exit]

/-- `Chronicle accepted site` says that `site` is at the end of a history in which the children
`accepted` have said that they are ready, in this order. -/
inductive Chronicle : List Nat → Site → Prop where
  | create (interpreter : Option String) (startupTimeout : Seconds) (memoryLimit : Option Int) :
      Chronicle [] ⟨.empty, .create interpreter startupTimeout memoryLimit⟩
  | expecting {accepted : List Nat} {site : Site} (chronicle : Chronicle accepted site)
      (launches : List Launch) (replies : List Reply) :
      Chronicle accepted (site.expecting launches replies)
  | accept {accepted : List Nat} {before after : Site} {child : Nat}
      (chronicle : Chronicle accepted before) (accepts : before.Accepts after child) :
      Chronicle (accepted ++ [child]) after
  | move {accepted : List Nat} {before after : Site} (chronicle : Chronicle accepted before)
      (move : Move before after) (other : ∀ child, ¬ before.Accepts after child) :
      Chronicle accepted after

/-- What holds of the children that have been accepted. -/
structure Counted (accepted : List Nat) (site : Site) : Prop where
  valid : site.Valid
  session : site.sandbox.session = accepted.length
  nodup : accepted.Nodup
  /-- They are not heard again. -/
  heard : ∀ child ∈ accepted, child < site.world.children.length ∧
    site.sandbox.attempt ≠ .inFlight child

/-- A session for each child that has been accepted, and no child twice. -/
theorem Chronicle.counted {accepted : List Nat} (chronicle : Chronicle accepted site) :
    Counted accepted site := by
  have still {accepted : List Nat} {before after : Site} (counted : Counted accepted before)
      (move : Move before after) (child : Nat) (member : child ∈ accepted) :
      child < after.world.children.length ∧ after.sandbox.attempt ≠ .inFlight child := by
    have grows := (move.leads counted.valid).grows
    rcases counted.heard child member with ⟨below, apart⟩
    refine ⟨by omega, fun inFlight => ?_⟩
    rcases move.inFlight inFlight with old | new
    · exact apart old
    · omega
  induction chronicle with
  | create interpreter startupTimeout memoryLimit =>
      have none := not_owns_create interpreter startupTimeout memoryLimit
      exact ⟨⟨fun child owns => absurd owns (none child),
        fun child inFlight => absurd (.inr inFlight) (none child),
        fun child inFlight => absurd (.inr inFlight) (none child)⟩, rfl, .nil, nofun⟩
  | expecting chronicle launches replies ih =>
      exact ⟨⟨ih.valid.below, ih.valid.running, ih.valid.different⟩, ih.session, ih.nodup, ih.heard⟩
  | @accept accepted before after child chronicle accepts ih =>
      rcases accepts with ⟨inFlight, heard, rfl⟩
      have move : Move before before.settle := .start (.settle before)
      have taken := (settle_ends ih.valid inFlight).2.2.1 heard
      have new : child ∉ accepted := fun member => (ih.heard child member).2 inFlight
      refine ⟨(move.leads ih.valid).valid, ?_, ?_, fun other member => ?_⟩
      · rw [taken, List.length_append, ← ih.session]
        rfl
      · rw [← List.concat_eq_append]
        exact .concat new ih.nodup
      · rcases List.mem_append.mp member with old | last
        · exact still ih move other old
        · rw [List.mem_singleton.mp last, taken]
          exact ⟨ih.valid.below child (.inr inFlight), nofun⟩
  | move chronicle move other ih =>
      exact ⟨(move.leads ih.valid).valid, (move.session ih.valid other).trans ih.session, ih.nodup,
        still ih move⟩

/-- A history that goes on is still one in which it is known who has been accepted. -/
theorem exists_chronicle_of_path (known : ∃ accepted, Chronicle accepted before)
    (path : Path before after) : ∃ accepted, Chronicle accepted after := by
  induction path with
  | refl => exact known
  | @tail between last path move ih =>
      rcases ih with ⟨accepted, chronicle⟩
      by_cases accepts : ∃ child, between.Accepts last child
      · rcases accepts with ⟨child, accepts⟩
        exact ⟨accepted ++ [child], chronicle.accept accepts⟩
      · exact ⟨accepted, chronicle.move move fun child accept => accepts ⟨child, accept⟩⟩

theorem exists_chronicle (reached : Reachable site) : ∃ accepted, Chronicle accepted site := by
  induction reached with
  | create interpreter startupTimeout memoryLimit => exact ⟨[], .create _ _ _⟩
  | expecting reached launches replies ih =>
      rcases ih with ⟨accepted, chronicle⟩
      exact ⟨accepted, chronicle.expecting launches replies⟩
  | begin reached ih => exact exists_chronicle_of_path ih (starts_begin _).path
  | perform reached errand ih => exact exists_chronicle_of_path ih (path_perform _ errand)
  | exit reached ih => exact exists_chronicle_of_path ih (.single (.exit _))

end Site
end Sandbox
end AnswerKey
