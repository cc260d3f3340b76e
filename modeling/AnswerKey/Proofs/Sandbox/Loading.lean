import AnswerKey.Proofs.Sandbox.Lockstep

namespace AnswerKey
namespace Sandbox

/-!
Loads in the journal.

A child acknowledges a helper when the request to load it is followed by a response that carries
its number and is marked as good.  A load succeeds just when it is acknowledged by the child in
use (`Site.acknowledges_of_request`, `Site.request_of_acknowledges`), and a request is written to
the child in use when there is one that runs (`Site.wrote_of_isReady`).
-/

/-! ### Acknowledgements -/

/-- At a position of the journal a helper is loaded, and its child says so. -/
def Acknowledges (journal : List Event) (child : Nat) (helper : Worker.Helper) (position : Nat) :
    Prop :=
  ∃ (id : Nat) (fields : List (String × Json)),
    journal[position]? = some (.wrote child (.obj (("id", .int id) :: Site.loading helper))) ∧
      journal[position + 1]? = some (.received child (.ok (.obj fields))) ∧
      Verdict.isId id ((Json.lookup? "id" fields).getD .null) = true ∧
      ((Json.lookup? "ok" fields).getD .null).isTruthy = true

namespace Acknowledges

variable {before after : List Event} {child position : Nat} {helper : Worker.Helper}

theorem lt (acknowledges : Acknowledges before child helper position) :
    position + 1 < before.length := by
  rcases acknowledges with ⟨id, fields, -, read, -⟩
  exact (List.getElem?_eq_some_iff.mp read).1

/-- What has been acknowledged stays so. -/
theorem later (acknowledges : Acknowledges before child helper position)
    (extension : Extends before after) : Acknowledges after child helper position := by
  have inside := acknowledges.lt
  rcases acknowledges with ⟨id, fields, written, read, good⟩
  refine ⟨id, fields, ?_, ?_, good⟩
  · rwa [extension.getElem?_eq (by omega)]
  · rwa [extension.getElem?_eq inside]

/-- What is loaded has been acknowledged before anything else is done. -/
theorem earlier (acknowledges : Acknowledges after child helper position)
    (extension : Extends before after) (old : position < before.length) :
    Acknowledges before child helper position := by
  rcases acknowledges with ⟨id, fields, written, read, good⟩
  rcases extension with ⟨events, rfl, head⟩
  rw [List.getElem?_append_left old] at written
  refine ⟨id, fields, written, ?_, good⟩
  by_cases inside : position + 1 < before.length
  · rwa [List.getElem?_append_left inside] at read
  · have next : position + 1 = before.length := by omega
    rw [next, List.getElem?_append_right (Nat.le_refl _), Nat.sub_self, ← List.head?_eq_getElem?]
      at read
    exact absurd read (head child _)

end Acknowledges

namespace Site

/-! ### Starts are quiet -/

section Quiet

variable {before after : Site}

/-- Nothing is asked on the way to another child. -/
theorem Start.quiet (start : Start before after) (valid : before.Valid) :
    ∃ events, after.world.journal = before.world.journal ++ events ∧
      ∀ event ∈ events, event.isQuiet = true := by
  cases start with
  | refuse idle refusal => exact ⟨_, rfl, List.forall_mem_singleton.mpr rfl⟩
  | launch idle accepted => exact ⟨_, rfl, List.forall_mem_singleton.mpr rfl⟩
  | settle =>
      rcases settle_cases valid with same | ⟨child, -, taken | ⟨fault, left | ⟨-, killed⟩⟩⟩
      · rw [same]
        exact ⟨[], (List.append_nil _).symm, nofun⟩
      · rw [taken]
        exact ⟨[], (List.append_nil _).symm, nofun⟩
      · rw [left]
        exact ⟨[], (List.append_nil _).symm, nofun⟩
      · exact ⟨_, killed, List.forall_mem_singleton.mpr rfl⟩

theorem Starts.quiet (starts : Starts before after) (valid : before.Valid) :
    ∃ events, after.world.journal = before.world.journal ++ events ∧
      ∀ event ∈ events, event.isQuiet = true := by
  induction starts with
  | refl => exact ⟨[], (List.append_nil _).symm, nofun⟩
  | tail starts start ih =>
      rcases ih with ⟨early, written, quietEarly⟩
      rcases start.quiet ((Starts.path starts).leads valid).valid with ⟨late, more, quietLate⟩
      refine ⟨early ++ late, by rw [more, written, List.append_assoc], ?_⟩
      exact List.forall_mem_append.mpr ⟨quietEarly, quietLate⟩

/-- No request is written on the way to another child. -/
theorem Starts.not_wrote (starts : Starts before after) (valid : before.Valid) {position : Nat}
    (new : before.world.journal.length ≤ position) (child : Nat) (request : Json) :
    after.world.journal[position]? ≠ some (.wrote child request) := by
  rcases starts.quiet valid with ⟨events, written, quiet⟩
  rw [written, List.getElem?_append_right new]
  intro found
  cases quiet _ (List.mem_of_getElem? found)

end Quiet

/-! ### Requests -/

section Request

variable {site : Site} {payload : List (String × Json)} {hasTime : Bool} {position child : Nat}
  {request : Json}

/-- A request writes nothing but itself, to the child that it is for. -/
theorem asks_of_wrote (valid : site.Valid) (new : site.world.journal.length ≤ position)
    (wrote : (site.request payload hasTime).2.world.journal[position]? =
      some (.wrote child request)) :
    ∃ ready answer, site.Asks payload hasTime ready child answer ∧
      position = ready.world.journal.length ∧
      request = .obj (("id", .int ready.sandbox.nextId) :: payload) := by
  have starts := starts_waitReady site
  cases outcome : site.waitReady with
  | mk result ready =>
      rw [outcome] at starts
      cases result with
      | error fault =>
          rw [request_of_fault payload hasTime outcome] at wrote
          exact absurd wrote (starts.not_wrote valid new child request)
      | ok _ =>
          rcases exists_current (isReady_of_waitReady outcome) with ⟨other, -, current, -⟩
          have asks : site.Asks payload hasTime ready other _ := ⟨outcome, current, rfl⟩
          rw [asks.journal] at wrote
          by_cases old : position < ready.world.journal.length
          · rw [List.getElem?_append_left old] at wrote
            exact absurd wrote (starts.not_wrote valid new child request)
          · rw [List.getElem?_append_right (by omega)] at wrote
            cases place : position - ready.world.journal.length with
            | zero =>
                rw [place, List.getElem?_cons_zero] at wrote
                cases wrote
                exact ⟨ready, _, asks, by omega, rfl⟩
            | succ later =>
                rw [place, List.getElem?_cons_succ] at wrote
                exact absurd rfl
                  ((follows_answer _ _ _).ne_wrote _ (List.mem_of_getElem? wrote) child request)

/-- A sandbox that is ready writes to the child in use. -/
theorem wrote_of_isReady (valid : site.Valid) (isReady : site.isReady = true) {inUse : Nat}
    (current : site.sandbox.current = some inUse) (new : site.world.journal.length ≤ position)
    (wrote : (site.request payload hasTime).2.world.journal[position]? =
      some (.wrote child request)) :
    child = inUse ∧ request = .obj (("id", .int site.sandbox.nextId) :: payload) := by
  rcases asks_of_wrote valid new wrote with ⟨ready, answer, asks, -, request⟩
  cases (waitReady_of_isReady isReady).symm.trans asks.waited
  exact ⟨Option.some.inj (asks.current.symm.trans current), request⟩

/-- A request to a child in use begins no session. -/
theorem session_request (isReady : site.isReady = true) :
    (site.request payload hasTime).2.sandbox.session = site.sandbox.session := by
  rcases exists_current isReady with ⟨child, -, current, -⟩
  rw [request_eq_served site payload hasTime (waitReady_of_isReady isReady) current]
  exact session_served site child payload hasTime

/-- After a request with a value the sandbox is ready. -/
theorem isReady_request {value : Json} (answered : (site.request payload hasTime).1 = .ok value) :
    (site.request payload hasTime).2.isReady = true := by
  rcases exists_asks answered with ⟨ready, child, answer, asks, judged⟩
  exact (asks.kept judged).2.2

variable {helper : Worker.Helper}

/-- A load that is acknowledged succeeds, and its child is the one in use. -/
theorem request_of_acknowledges (valid : site.Valid)
    (new : site.world.journal.length ≤ position)
    (acknowledges : Acknowledges (site.request payload hasTime).2.world.journal child helper
      position) :
    payload = loading helper ∧ (∃ value, (site.request payload hasTime).1 = .ok value) ∧
      (site.request payload hasTime).2.sandbox.current = some child ∧
      (site.request payload hasTime).2.world.journal.length = position + 2 := by
  rcases acknowledges with ⟨id, fields, written, read, own, good⟩
  rcases asks_of_wrote valid new written with ⟨ready, answer, asks, rfl, request⟩
  have journal := asks.journal
  rcases List.cons.inj (Json.obj.inj request) with ⟨number, same⟩
  have sameId : id = ready.sandbox.nextId := Int.ofNat.inj (Json.int.inj (Prod.mk.inj number).2)
  rw [journal, List.getElem?_append_right (by omega), Nat.add_sub_cancel_left,
    List.getElem?_cons_succ] at read
  have answered : answer = .line (.ok (.obj fields)) := by
    cases answer with
    | line content =>
        cases read
        rfl
    | broken text => cases read
    | silence => cases read
    | endOfStream => cases read
  have judged : Verdict.ofAnswer ready.sandbox.nextId answer = .result (Verdict.ofFields fields) :=
    Verdict.ofAnswer_of_isResponse ⟨answered, sameId ▸ own⟩
  rcases asks.kept judged with ⟨outcome, current, -⟩
  refine ⟨same.symm, ⟨_, outcome.trans (Verdict.ofFields_of_good good)⟩, current, ?_⟩
  rw [journal, judged, answered]
  simp [Answer.received, Verdict.ended]

/-- A load that succeeds has been acknowledged by the child in use. -/
theorem acknowledges_of_request {value : Json} (valid : site.Valid)
    (answered : (site.request (loading helper) hasTime).1 = .ok value) :
    ∃ position child, site.world.journal.length ≤ position ∧
      Acknowledges (site.request (loading helper) hasTime).2.world.journal child helper position ∧
      (site.request (loading helper) hasTime).2.sandbox.current = some child := by
  rcases (inStep_of_valid valid (loading helper) hasTime).value value answered with
    ⟨ready, child, answer, fields, asks, response, good, -, journal⟩
  have kept := asks.kept (Verdict.ofAnswer_of_isResponse response)
  have starts := starts_waitReady site
  rw [asks.waited] at starts
  rcases starts.quiet valid with ⟨events, written, -⟩
  refine ⟨ready.world.journal.length, child, ?_, ⟨ready.sandbox.nextId, fields, ?_, ?_,
    response.2, good⟩, kept.2.1⟩
  · rw [written, List.length_append]
    exact Nat.le_add_right _ _
  · rw [journal, List.getElem?_append_right (Nat.le_refl _), Nat.sub_self]
    rfl
  · rw [journal, List.getElem?_append_right (Nat.le_add_right _ 1),
      Nat.add_sub_cancel_left]
    rfl

end Request

end Site
end Sandbox
end AnswerKey
