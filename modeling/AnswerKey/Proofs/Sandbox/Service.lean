import AnswerKey.Proofs.Sandbox.Requests

namespace AnswerKey
namespace Sandbox

/-!
When a sandbox serves.

An available sandbox has a child in use, or a start is in flight, or the next request starts
another child.  As long as that start goes well and the worker answers, the request is served:
waiting succeeds (`Site.exists_waitReady`), and every value that the worker gives is the result
(`Site.request_of_value`).
-/

/-- A launch of a child that runs and greets as it should. -/
def Launch.IsGood (launch : Launch) : Prop :=
  launch.refusal = none ∧ judgeGreeting launch.greeting = .ok ()

instance (launch : Launch) : Decidable launch.IsGood :=
  decidable_of_iff (launch.refusal = none ∧ (judgeGreeting launch.greeting).isOk = true) <| by
    rw [Launch.IsGood]
    cases judgeGreeting launch.greeting <;> simp [Except.isOk, Except.toBool]

namespace Site

/-- The launch whose child is awaited next: the one in flight, or else the next one. -/
def awaited (site : Site) : Launch :=
  match site.sandbox.attempt with
  | .inFlight child => ((site.world.children[child]?).map (·.launch)).getD {}
  | _ => site.world.nextLaunch

/-- A sandbox that is available and whose future is good: the next start goes well, if one is
needed, and from now on the worker answers. -/
structure Promising (site : Site) : Prop where
  available : site.isAvailable = true
  start : site.isReady = false →
    site.sandbox.startupTimeout.leavesTime = true ∧ site.awaited.IsGood
  replies : ∀ reply ∈ site.world.replies, reply = .worker

variable {site : Site}

theorem nextReply_of_replies (replies : ∀ reply ∈ site.world.replies, reply = .worker) :
    site.world.nextReply = .worker := by
  rw [World.nextReply]
  cases laidDown : site.world.replies with
  | nil => rfl
  | cons reply rest => exact replies reply (by rw [laidDown]; exact List.mem_cons_self)

/-! ### Waiting -/

theorem waitReady_of_isReady (isReady : site.isReady = true) : site.waitReady = (.ok (), site) := by
  have started : site.start = (.ok (), site) := by rw [start, if_pos isReady]
  rw [waitReady]
  split
  · next fault after outcome =>
      split at outcome
      · rw [started] at outcome
        cases outcome
      · cases outcome
  · next after outcome =>
      split at outcome
      · rw [started] at outcome
        cases outcome
        rw [if_pos isReady]
      · cases outcome
        rw [if_pos isReady]

/-- A child that greets in time is taken into use. -/
theorem settle_eq_taken {child : Nat} (inFlight : site.sandbox.attempt = .inFlight child)
    (leavesTime : site.sandbox.startupTimeout.leavesTime = true)
    (greets : judgeGreeting (site.world.greetingOf child) = .ok ()) :
    site.settle = site.taken child := by
  rw [settle, inFlight]
  simp only [leavesTime, if_true, greets]
  rfl

theorem settle_taken (child : Nat) : (site.taken child).settle = site.taken child := rfl

theorem greetingOf_launched :
    site.launched.world.greetingOf site.world.children.length = site.world.nextLaunch.greeting := by
  simp [launched, World.record, World.greetingOf, Child.ofLaunch]

/-- A start that is needed and goes well takes a child into use. -/
theorem exists_settle_begin (valid : site.Valid) (notReady : site.isReady = false)
    (leavesTime : site.sandbox.startupTimeout.leavesTime = true) (good : site.awaited.IsGood) :
    ∃ (before : Site) (child : Nat), before.Valid ∧ before.sandbox.attempt = .inFlight child ∧
      before.world.replies = site.world.replies ∧ site.begin.settle = before.taken child := by
  cases starting : site.isStarting with
  | true =>
      rw [begin_of_busy (by rw [starting, Bool.or_true])]
      cases inFlight : site.sandbox.attempt with
      | inFlight child =>
          refine ⟨site, child, valid, inFlight, rfl, settle_eq_taken inFlight leavesTime ?_⟩
          have launched : ∃ partner, site.world.children[child]? = some partner :=
            ⟨_, List.getElem?_eq_getElem (valid.below child (.inr inFlight))⟩
          rcases launched with ⟨partner, known⟩
          have awaited : site.awaited = partner.launch := by
            rw [Site.awaited, inFlight]
            simp only [known]
            rfl
          rw [World.greetingOf, known, Option.bind_some, ← awaited]
          exact good.2
      | _ =>
          rw [isStarting, inFlight] at starting
          cases starting
  | false =>
      have next : site.awaited = site.world.nextLaunch := by
        rw [awaited]
        cases inFlight : site.sandbox.attempt with
        | inFlight child =>
            rw [isStarting, inFlight] at starting
            cases starting
        | _ => rfl
      rw [next] at good
      have greets : judgeGreeting (site.launched.world.greetingOf site.world.children.length) =
          .ok () := by
        rw [greetingOf_launched]
        exact good.2
      have settled : site.launched.settle = site.launched.taken site.world.children.length :=
        settle_eq_taken rfl leavesTime greets
      have idle : (site.isReady || site.isStarting) = false := by
        rw [notReady, starting, Bool.or_self]
      refine ⟨site.launched, site.world.children.length, (leads_launched valid).valid, rfl, rfl, ?_⟩
      rcases begin_of_accepted idle good.1 with begun | begun
      · rw [begun, settled]
      · rw [begun, settled, settle_taken]

/-- An available sandbox with a good future is ready after a wait. -/
theorem exists_waitReady (valid : site.Valid) (promising : site.Promising) :
    ∃ ready, site.waitReady = (.ok (), ready) ∧ ready.isReady = true ∧
      ready.world.replies = site.world.replies := by
  cases isReady : site.isReady with
  | true => exact ⟨site, waitReady_of_isReady isReady, isReady, rfl⟩
  | false =>
      rcases promising.start isReady with ⟨leavesTime, good⟩
      rcases exists_settle_begin valid isReady leavesTime good with
        ⟨before, child, validBefore, inFlight, replies, settled⟩
      have running : (before.taken child).isReady = true := by
        have running := validBefore.running child inFlight
        exact running
      have needed : (site.isStarting || site.willRestart) = true := by
        have available := promising.available
        rwa [isAvailable, isReady, Bool.false_or] at available
      have started : site.start = (.ok (), before.taken child) := by
        rw [start, if_neg (by rw [isReady]; exact Bool.false_ne_true)]
        simp only [settled]
        rfl
      refine ⟨before.taken child, ?_, running, replies⟩
      rw [waitReady]
      simp only [needed, if_true, started, running]

/-! ### Requests that are served -/

/-- A sandbox that is ready and whose child has a helper; from now on the worker answers. -/
structure Equipped (site : Site) (helper : Worker.Helper) : Prop where
  isReady : site.isReady = true
  replies : ∀ reply ∈ site.world.replies, reply = .worker
  helper : ∀ child, site.sandbox.current = some child → helper ∈ site.world.helpersOf child

section Request

variable {child : Nat} {partner : Child}

/-- What the worker of the child in use gives is the result. -/
theorem request_of_value {payload : List (String × Json)} {value : Json}
    (isReady : site.isReady = true) (replies : ∀ reply ∈ site.world.replies, reply = .worker)
    (current : site.sandbox.current = some child)
    (known : site.world.children[child]? = some partner)
    (outcome : (site.outcomeOf partner payload).1 = .value value) :
    site.request payload true = (.ok value, site.asked child payload true) := by
  rw [request_of_ready payload true (waitReady_of_isReady isReady) current,
    verdict_of_value known (nextReply_of_replies replies) outcome]

/-- A sandbox that has asked its child for something is as ready as before. -/
theorem isReady_asked (payload : List (String × Json)) :
    (site.asked child payload true).isReady = site.isReady := by
  rw [Site.isReady, Site.isReady]
  have current : (site.asked child payload true).sandbox.current = site.sandbox.current := rfl
  rw [current]
  cases site.sandbox.current with
  | none => rfl
  | some other => exact World.isRunning_exchange _ _ _ _ _ _

theorem replies_asked (payload : List (String × Json))
    (known : site.world.children[child]? = some partner)
    (replies : ∀ reply ∈ site.world.replies, reply = .worker) :
    ∀ reply ∈ (site.asked child payload true).world.replies, reply = .worker := by
  intro reply member
  rw [asked, World.replies_exchange _ _ _ known] at member
  exact replies reply (List.mem_of_mem_tail member)

end Request

/-- Loading a helper succeeds. -/
theorem exists_load (isReady : site.isReady = true)
    (replies : ∀ reply ∈ site.world.replies, reply = .worker) (helper : Worker.Helper) :
    ∃ after, site.load (.str helper.name) (.str helper.source) = (.ok (), after) ∧
      after.Equipped helper := by
  rcases exists_current isReady with ⟨child, partner, current, known, -⟩
  have outcome := partner.worker.outcome_load site.sandbox.nextId helper
  have value : (site.outcomeOf partner (loading helper)).1 = .value (.bool true) := by
    rw [outcomeOf, loading, outcome]
  have asked := request_of_value isReady replies current known value
  refine ⟨site.asked child (loading helper) true, ?_, ?_, replies_asked _ known replies, ?_⟩
  · rw [load, ← loading, asked]
    rfl
  · rwa [isReady_asked]
  · intro inUse stays
    have same : child = inUse := Option.some.inj (current.symm.trans stays)
    rw [← same, helpersOf_asked _ _ known (nextReply_of_replies replies), outcomeOf, loading,
      outcome]
    exact List.mem_insert_self

/-- The request to call a function. -/
def calling (function : Worker.Function) (arguments : List Json) : List (String × Json) :=
  [("op", .str "call"), ("func", .str function.name), ("args", .arr arguments)]

/-- Calling a function gives what the function gives, and the helper stays. -/
theorem exists_call {function : Worker.Function} {arguments : List Json} {value : Json}
    (valid : site.Valid) (equipped : site.Equipped function.helper)
    (gives : function.call (.arr arguments) = .ok (.value value)) :
    ∃ after, site.call (.str function.name) arguments = (.ok value, after) ∧
      after.Equipped function.helper := by
  rcases exists_current equipped.isReady with ⟨child, partner, current, known, -⟩
  have loaded := equipped.helper child current
  rw [World.helpersOf_eq known] at loaded
  have outcome : (site.outcomeOf partner (calling function arguments)).1 = .value value :=
    partner.worker.outcome_call site.sandbox.nextId loaded gives
  have asked := request_of_value equipped.isReady equipped.replies current known outcome
  have leads := leads_asked valid current (calling function arguments) true
  refine ⟨site.asked child (calling function arguments) true, ?_, ?_,
    replies_asked _ known equipped.replies, ?_⟩
  · rw [call, ← calling, asked]
    rfl
  · rw [isReady_asked]
    exact equipped.isReady
  · intro inUse stays
    exact (leads.helpers rfl inUse stays).2 _ (equipped.helper inUse stays)

end Site
end Sandbox
end AnswerKey
