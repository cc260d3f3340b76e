import AnswerKey.Proofs.Sandbox.Service
import AnswerKey.Proofs.Worker.Serving

namespace AnswerKey
namespace Sandbox

/-!
Programs that take their worker down.

A program may print, fail, exit or run out of time, and its run is still a result: the response
tells of it, the worker goes on, and the host keeps the child (`Survives`).  A program that ends with
an exception which is neither ordinary nor an exit is different.  The worker ends without a response,
and the host speaks of a fault of the sandbox and gives the child up (`Succumbs`).  There is nothing
in between (`survives_or_succumbs`).
-/

open Worker (Tells AsksToRun Reports Ends requestsOf fresh)

/-! ### Runs on the host -/

/-- The request to run a program. -/
def running (code : String) (timeout : Json) : List (String × Json) :=
  [("op", .str "run"), ("code", .str code), ("timeout", timeout)]

namespace Site

/-- A sandbox whose child in use is about to answer. -/
structure Attends (site : Site) (child : Nat) (partner : Child) : Prop where
  isReady : site.isReady = true
  current : site.sandbox.current = some child
  known : site.world.children[child]? = some partner
  reply : site.world.nextReply = .worker

/-- A limit of time that leaves the child time to answer and that its timer can be set to. -/
structure IsTimeout (timeout : Json) : Prop where
  grace : hasGrace timeout = .ok true
  timer : Worker.setTimer timeout = .ok ()

variable {site : Site} {child : Nat} {partner : Child} {code : String} {timeout : Json}

theorem asksToRun (fits : IsTimeout timeout) :
    AsksToRun (("id", .int site.sandbox.nextId) :: running code timeout) code where
  op := rfl
  timer := fits.timer
  given := rfl
  id := by
    change Worker.IsRepeatable (.int site.sandbox.nextId)
    exact Nat.zero_lt_succ _

theorem outcomeOf_running (fits : IsTimeout timeout) :
    site.outcomeOf partner (running code timeout) =
      (Worker.outcomeOf (Program.run code).1 (Program.run code).2, partner.worker) :=
  (asksToRun fits).outcome_eq partner.worker

section Run

variable (attends : site.Attends child partner) (fits : IsTimeout timeout)

include attends

/-- A worker that ends leaves the end of its stream behind. -/
theorem verdict_of_ended {payload : List (String × Json)} {name : String}
    (outcome : (site.outcomeOf partner payload).1 = .ended name) :
    site.verdict child payload true = .lost .childGone := by
  have responded : (partner.worker.answer (.ofJson
      (.obj (("id", .int site.sandbox.nextId) :: payload)))).1 =
        Worker.respond (.int site.sandbox.nextId) (site.outcomeOf partner payload).1 := rfl
  rw [outcome, Worker.respond] at responded
  rw [verdict, World.answer_exchange _ _ attends.known, attends.reply, Child.answer]
  simp only [responded]
  rfl

/-- What comes of the request of a run, as long as a child attends to it. -/
theorem request_running : site.request (running code timeout) true =
    match site.verdict child (running code timeout) true with
    | .result result => (result, site.asked child (running code timeout) true)
    | .lost fault =>
        (.error fault, (site.asked child (running code timeout) true).discard child) :=
  request_of_ready _ true (waitReady_of_isReady attends.isReady) attends.current

include fits

/-- A run that has something to tell is a result, and the child stays in use as it is. -/
theorem run_reported (reported : Reports code) :
    ∃ value after, site.run (.str code) timeout = (.ok value, after) ∧ Tells code value ∧
      after.isReady = true ∧ after.sandbox.current = some child ∧
      after.world.children[child]? = some partner := by
  obtain ⟨error, outcome, isFinished⟩ := Worker.exists_outcomeOf reported.ending (Program.run code).2
  have made := @outcomeOf_running site partner code timeout fits
  have asked := @request_running site child partner code timeout attends
  rw [verdict_of_value attends.known attends.reply ((congrArg Prod.fst made).trans outcome)]
    at asked
  refine ⟨_, site.asked child (running code timeout) true, ?_, ⟨error, rfl, isFinished⟩, ?_,
    attends.current, ?_⟩
  · simp only [run, fits.grace]
    rw [← running, asked]
    rfl
  · rw [isReady_asked]
    exact attends.isReady
  · rw [partner_asked _ _ attends.known attends.reply, made]

/-- A run that has nothing to tell is a fault of the sandbox, which has no child any more. -/
theorem run_silent (silent : ¬ Reports code) :
    ∃ after, site.run (.str code) timeout = (.error .childGone, after) ∧
      after.sandbox.current = none ∧ after.sandbox.needsRestart = true := by
  obtain ⟨name, outcome⟩ := Worker.exists_outcomeOf_ended (mt .mk silent) (Program.run code).2
  have made := @outcomeOf_running site partner code timeout fits
  have asked := @request_running site child partner code timeout attends
  rw [verdict_of_ended attends ((congrArg Prod.fst made).trans outcome)] at asked
  have current : (site.asked child (running code timeout) true).sandbox.current = some child :=
    attends.current
  refine ⟨(site.asked child (running code timeout) true).discard child, ?_, ?_, ?_⟩
  · simp only [run, fits.grace]
    rw [← running, asked]
  · rw [discard, if_pos current]
  · rw [discard, if_pos current]

end Run

end Site

/-! ### Programs and their workers -/

/-- A worker and its host get over a program.  Wherever its run is asked for, the response tells
what has been printed and whether the program has come to its end; the worker is the same after it
and goes on to the next request.  For the host the run is a result, and the child stays in use. -/
structure Survives (code : String) : Prop where
  answered : ∀ (worker : Worker) (lines : List (List Char)) (place : Nat)
    (fields : List (String × Json)), AsksToRun fields code →
      (requestsOf lines)[place]? = some (.fields fields) →
      place ≤ (worker.serve lines).1.length →
      ∃ value, Tells code value ∧
        (worker.serve lines).1[place]? = some (.obj
          [("id", Worker.field fields "id" .null), ("ok", .bool true), ("value", value)]) ∧
        worker.before (requestsOf lines) (place + 1) = worker.before (requestsOf lines) place ∧
        ∀ next, (requestsOf lines)[place + 1]? = some next →
          ¬ Ends (worker.before (requestsOf lines) place) next →
            place + 1 < (worker.serve lines).1.length
  returned : ∀ (site : Site) (child : Nat) (partner : Child) (timeout : Json),
    site.Attends child partner → Site.IsTimeout timeout →
      ∃ value after, site.run (.str code) timeout = (.ok value, after) ∧ Tells code value ∧
        after.isReady = true ∧ after.sandbox.current = some child ∧
        after.world.children[child]? = some partner

/-- A program takes its worker down.  Wherever its run is asked for, the worker ends without a
response, and the host gives the child up. -/
structure Succumbs (code : String) : Prop where
  unanswered : ∀ (worker : Worker) (lines : List (List Char)) (place : Nat)
    (fields : List (String × Json)), AsksToRun fields code →
      (requestsOf lines)[place]? = some (.fields fields) →
      place ≤ (worker.serve lines).1.length →
      (worker.serve lines).1.length = place ∧ ∃ name, (worker.serve lines).2 = .ended name
  lost : ∀ (site : Site) (child : Nat) (partner : Child) (timeout : Json),
    site.Attends child partner → Site.IsTimeout timeout →
      ∃ after, site.run (.str code) timeout = (.error .childGone, after) ∧
        after.sandbox.current = none ∧ after.sandbox.needsRestart = true

/-- A program that prints something and exits. -/
def exiting : String := "print(1)\nraise SystemExit(3)"

theorem isTimeout_five : Site.IsTimeout (.int 5) where
  grace := by
    rw [Site.hasGrace, if_neg (by decide +kernel)]
    rfl
  timer := by
    have isOk : (Worker.setTimer (.int 5)).isOk = true := by decide +kernel
    cases set : Worker.setTimer (.int 5) with
    | ok _ => rfl
    | error fault =>
        rw [set] at isOk
        cases isOk

/-- A sandbox that has just been started. -/
def started : Site :=
  (Site.start ⟨.empty, .ofSettings .standard⟩).2

theorem exists_attends_started : ∃ child partner, started.Attends child partner := by
  have isReady : started.isReady = true := by decide +kernel
  have noPlan : started.world.replies.isEmpty = true := by decide +kernel
  obtain ⟨child, partner, current, known, -⟩ := Site.exists_current isReady
  refine ⟨child, partner, isReady, current, known, ?_⟩
  rw [World.nextReply, List.isEmpty_iff.mp noPlan]
  rfl

/-- A program that interrupts itself. -/
def interrupt : String := "raise KeyboardInterrupt"

/-- The lines of a request to run it and of another request. -/
def interrupting : List (List Char) :=
  ["\x7b\"op\": \"run\", \"code\": \"raise KeyboardInterrupt\"\x7d".toList,
    "\x7b\"op\": \"ping\"\x7d".toList]

theorem requestsOf_interrupting : requestsOf interrupting =
    [.fields [("op", .str "run"), ("code", .str interrupt)],
      .fields [("op", .str "ping")]] := by
  cbv

end Sandbox
end AnswerKey
