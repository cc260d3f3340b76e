import AnswerKey.Proofs.Sandbox.Steps

namespace AnswerKey
namespace Sandbox
namespace Site

/-!
What the errands of a sandbox preserve.

Every errand but a start and an end is a request: the child in use is asked one thing and stays in
use after a result, and it is discarded after anything else.  A result of an honest request comes
from the worker, so that a helper whose loading has a result is in place.
-/

/-! ### What comes of a request -/

/-- A sandbox that has asked a child for something. -/
def asked (site : Site) (child : Nat) (payload : List (String × Json)) (hasTime : Bool) : Site :=
  ⟨(site.world.exchange child (.int site.sandbox.nextId)
      (.obj (("id", .int site.sandbox.nextId) :: payload)) hasTime).2,
    { site.sandbox with nextId := site.sandbox.nextId + 1 }⟩

/-- What is made of the answer of the child. -/
def verdict (site : Site) (child : Nat) (payload : List (String × Json)) (hasTime : Bool) :
    Verdict :=
  .ofAnswer site.sandbox.nextId
    (site.world.exchange child (.int site.sandbox.nextId)
      (.obj (("id", .int site.sandbox.nextId) :: payload)) hasTime).1

variable {site : Site}

theorem request_of_fault {fault : Fault} {after : Site} (payload : List (String × Json))
    (hasTime : Bool) (waited : site.waitReady = (.error fault, after)) :
    site.request payload hasTime = (.error fault, after) := by
  rw [request, waited]

theorem request_of_ready {ready : Site} {child : Nat} (payload : List (String × Json))
    (hasTime : Bool) (waited : site.waitReady = (.ok (), ready))
    (current : ready.sandbox.current = some child) :
    site.request payload hasTime =
      match ready.verdict child payload hasTime with
      | .result result => (result, ready.asked child payload hasTime)
      | .lost fault => (.error fault, (ready.asked child payload hasTime).discard child) := by
  rw [request, waited]
  simp only []
  split
  · next absent =>
      rw [current] at absent
      cases absent
  · next other known =>
      rw [current] at known
      cases known
      rfl

/-- A sandbox that is ready has a child in use that runs. -/
theorem exists_current (isReady : site.isReady = true) :
    ∃ child partner, site.sandbox.current = some child ∧
      site.world.children[child]? = some partner ∧ partner.isRunning = true := by
  rw [Site.isReady, Option.any_eq_true] at isReady
  rcases isReady with ⟨child, current, running⟩
  rw [World.isRunning, Option.any_eq_true] at running
  rcases running with ⟨partner, known, running⟩
  exact ⟨child, partner, current, known, running⟩

/-! ### Requests -/

section Request

variable {child : Nat} (valid : site.Valid) (current : site.sandbox.current = some child)
  (payload : List (String × Json)) (hasTime : Bool)

include valid current

theorem exists_partner : ∃ partner, site.world.children[child]? = some partner :=
  ⟨_, List.getElem?_eq_getElem (valid.below child (.inl current))⟩

/-- A request uses up one number and one reply. -/
theorem honest_asked (honest : site.Honest) : (site.asked child payload hasTime).Honest := by
  rcases exists_partner valid current with ⟨partner, known⟩
  intro count reply laidDown
  rw [asked, World.replies_exchange _ _ _ known, List.getElem?_tail] at laidDown
  have later := honest (count + 1) reply laidDown
  rw [asked]
  have sameNumber : site.sandbox.nextId + (count + 1) = site.sandbox.nextId + 1 + count := by omega
  rwa [sameNumber] at later

theorem leads_asked : Leads site (site.asked child payload hasTime) := by
  rcases exists_partner valid current with ⟨partner, known⟩
  exact .ofConcerns valid (.inl current) (World.concerns_exchange _ _ _ known) rfl (fun _ => id)
    (fun other inFlight => ⟨inFlight, valid.ne_current current inFlight⟩)
    (honest_asked valid current payload hasTime)

theorem leads_discard : Leads site (site.discard child) := by
  rw [discard, if_pos current]
  exact .ofEnd valid current (World.concerns_kill _ _) (World.replies_kill _ _) rfl rfl nofun
    fun _ => id

end Request

variable (valid : site.Valid)

include valid

theorem leads_request (payload : List (String × Json)) (hasTime : Bool) :
    Leads site (site.request payload hasTime).2 := by
  have waited := leads_waitReady valid
  cases outcome : site.waitReady with
  | mk result ready =>
      rw [outcome] at waited
      cases result with
      | error fault =>
          rw [request_of_fault payload hasTime outcome]
          exact waited
      | ok _ =>
          rcases exists_current (isReady_of_waitReady outcome) with ⟨child, -, current, -⟩
          have asked := leads_asked waited.valid current payload hasTime
          rw [request_of_ready payload hasTime outcome current]
          cases ready.verdict child payload hasTime with
          | result result => exact waited.trans asked
          | lost fault => exact (waited.trans asked).trans (leads_discard asked.valid current)

/-! ### Errands -/

theorem leads_run (code timeout : Json) : Leads site (site.run code timeout).2 := by
  rw [run]
  cases hasGrace timeout with
  | error fault => exact .refl valid
  | ok hasTime =>
      have asked := leads_request valid [("op", .str "run"), ("code", code), ("timeout", timeout)]
        hasTime
      simp only []
      split
      all_goals
        next outcome =>
          rw [outcome] at asked
          exact asked

theorem leads_close : Leads site site.close := by
  have attempt (child : Nat)
      (inFlight : (if site.isStarting then .cancelled else site.sandbox.attempt) =
        Attempt.inFlight child) : site.sandbox.attempt = .inFlight child := by
    split at inFlight
    · cases inFlight
    · exact inFlight
  rw [close]
  cases current : site.sandbox.current with
  | none => exact .ofSandbox valid rfl rfl rfl rfl nofun attempt
  | some child =>
      exact .ofEnd valid current (World.concerns_shutDown _ _) (World.replies_shutDown _ _) rfl rfl
        nofun attempt

theorem leads_exit : Leads site site.exit := by
  rw [exit]
  cases current : site.sandbox.current with
  | none => exact .refl valid
  | some child =>
      exact .ofEnd valid current (World.concerns_exit _ _) (World.replies_exit _ _) rfl rfl
        (fun _ => id) fun _ => id

/-- Whatever a sandbox is asked to do, it leads on. -/
theorem leads_perform (errand : Errand) : Leads site (site.perform errand).2 := by
  cases errand with
  | start => exact leads_start valid
  | waitReady => exact leads_waitReady valid
  | load name source => exact leads_request valid _ _
  | call function arguments => exact leads_request valid _ _
  | run code timeout => exact leads_run valid code timeout
  | ping =>
      have asked := leads_request valid [("op", .str "ping")] true
      exact asked
  | close => exact leads_close valid

/-! ### Loading -/

/-- What the worker of a child makes of a request with the next number. -/
def outcomeOf (site : Site) (partner : Child) (payload : List (String × Json)) :
    Worker.Outcome × Worker :=
  partner.worker.outcome (.fields (("id", .int site.sandbox.nextId) :: payload))

omit valid in
/-- A value that the worker gives is the result. -/
theorem verdict_of_value {child : Nat} {partner : Child} {payload : List (String × Json)}
    {value : Json} (known : site.world.children[child]? = some partner)
    (reply : site.world.nextReply = .worker)
    (outcome : (site.outcomeOf partner payload).1 = .value value) :
    site.verdict child payload true = .result (.ok value) := by
  have number : Verdict.isId site.sandbox.nextId (.int site.sandbox.nextId) = true :=
    beq_self_eq_true _
  have responded : (partner.worker.answer (.ofJson
      (.obj (("id", .int site.sandbox.nextId) :: payload)))).1 =
        Worker.respond (.int site.sandbox.nextId) (site.outcomeOf partner payload).1 := rfl
  rw [outcome, Worker.respond] at responded
  rw [verdict, World.answer_exchange _ _ known, reply, Child.answer_worker responded]
  simp only [Verdict.ofAnswer, Json.lookup?, if_true, Option.getD_some, number]
  rfl

omit valid in
/-- A child after its worker has answered. -/
theorem partner_asked {child : Nat} {partner : Child} (payload : List (String × Json))
    (hasTime : Bool) (known : site.world.children[child]? = some partner)
    (reply : site.world.nextReply = .worker) :
    (site.asked child payload hasTime).world.children[child]? =
      some { partner with worker := (site.outcomeOf partner payload).2 } := by
  rcases List.getElem?_eq_some_iff.mp known with ⟨inside, -⟩
  rw [asked, World.children_exchange _ _ _ known, List.getElem?_set_self inside, reply]
  rfl

omit valid in
/-- The helpers of a child after its worker has answered. -/
theorem helpersOf_asked {child : Nat} {partner : Child} (payload : List (String × Json))
    (hasTime : Bool) (known : site.world.children[child]? = some partner)
    (reply : site.world.nextReply = .worker) :
    (site.asked child payload hasTime).world.helpersOf child =
      (site.outcomeOf partner payload).2.helpers := by
  rw [World.helpersOf_eq (partner_asked payload hasTime known reply)]

/-- A request with a result was answered by the worker of the child in use, if all is honest. -/
theorem exists_of_request {payload : List (String × Json)} {value : Json} (honest : site.Honest)
    (answered : (site.request payload true).1 = .ok value) :
    ∃ (ready : Site) (child : Nat) (partner : Child),
      ready.sandbox.current = some child ∧ ready.world.children[child]? = some partner ∧
        ready.world.nextReply = .worker ∧
        (site.request payload true).2 = ready.asked child payload true := by
  have waited := leads_waitReady valid
  cases outcome : site.waitReady with
  | mk result ready =>
      rw [outcome] at waited
      cases result with
      | error fault =>
          rw [request_of_fault payload true outcome] at answered
          cases answered
      | ok _ =>
          rcases exists_current (isReady_of_waitReady outcome) with
            ⟨child, partner, current, known, -⟩
          rw [request_of_ready payload true outcome current] at answered ⊢
          cases verdict : ready.verdict child payload true with
          | lost fault =>
              rw [verdict] at answered
              cases answered
          | result result =>
              rw [verdict] at answered
              cases answered
              refine ⟨ready, child, partner, current, known, ?_, rfl⟩
              rw [Site.verdict, World.answer_exchange _ _ known] at verdict
              by_cases isWorker : ready.world.nextReply = .worker
              · exact isWorker
              · exact absurd verdict
                  ((waited.honest honest).nextReply.no_result isWorker partner _ value)

omit valid in
theorem exists_of_nameLate {fault : Fault} {outcome : Except Fault Json}
    (named : nameLate fault (outcome.map fun _ => ()) = .ok ()) : ∃ value, outcome = .ok value := by
  cases outcome with
  | error other => cases other <;> cases named
  | ok value => exact ⟨value, rfl⟩

/-- The request to load a helper. -/
def loading (helper : Worker.Helper) : List (String × Json) :=
  [("op", .str "load"), ("name", .str helper.name), ("source", .str helper.source)]

/-- A helper whose loading has a result is in place. -/
theorem mem_helpers_of_load (honest : site.Honest) {helper : Worker.Helper}
    (loaded : (site.load (.str helper.name) (.str helper.source)).1 = .ok ()) {child : Nat}
    (current : (site.load (.str helper.name) (.str helper.source)).2.sandbox.current = some child) :
    helper ∈ (site.load (.str helper.name) (.str helper.source)).2.world.helpersOf child := by
  have answered : ∃ value, (site.request (loading helper) true).1 = .ok value :=
    exists_of_nameLate loaded
  rcases answered with ⟨value, answered⟩
  rcases exists_of_request valid honest answered with
    ⟨ready, asked, partner, inUse, known, reply, after⟩
  have same : child = asked := by
    have stays : (site.request (loading helper) true).2.sandbox.current = some child := current
    rw [after] at stays
    exact Option.some.inj (stays.symm.trans inUse)
  have helpers := helpersOf_asked (loading helper) true known reply
  rw [outcomeOf, loading, Worker.outcome_load, ← loading, ← after, ← same] at helpers
  have member : helper ∈ partner.worker.helpers.insert helper := List.mem_insert_self
  exact helpers.symm ▸ member

end Site
end Sandbox
end AnswerKey
