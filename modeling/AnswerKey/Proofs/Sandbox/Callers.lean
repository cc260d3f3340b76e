import AnswerKey.Proofs.Sandbox.Sessions

namespace AnswerKey
namespace Sandbox

/-!
Those who wait for a start.

Whoever starts a sandbox, or waits for it, while a start is in flight waits for that start.  It goes
on when the start has ended, and it ends in the same way.  With this everything is said that a
sandbox promises to those who use it (`Site.truthful_of_reachable`).
-/

/-! ### Calls -/

/-- A call that may have to wait for a start. -/
inductive Call where
  | start
  | waitReady
  deriving DecidableEq, Repr

/-- How a call ends that has waited for a start. -/
def Call.ending (after : Site) : Call → Except Fault Unit
  | .start => after.outcome
  | .waitReady =>
      match after.outcome with
      | .error fault => .error fault
      | .ok () => if after.isReady then .ok () else .error .notStarted

namespace Site

/-- What a call does before it waits. -/
def enter (site : Site) : Call → Site
  | .start => site.begin
  | .waitReady => if !site.isStarting && site.willRestart then site.begin else site

section Calls

variable {site : Site} (starting : site.isStarting = true)

include starting

/-- While a start is in flight, a call does nothing before it waits. -/
theorem enter_of_isStarting (call : Call) : site.enter call = site := by
  have begun : site.begin = site := begin_of_busy (by rw [starting, Bool.or_true])
  cases call with
  | start => exact begun
  | waitReady => rw [enter, starting]; rfl

/-- A start that joins another one, done in one go. -/
theorem start_of_isStarting (consistent : site.Consistent) :
    site.start = (site.settle.outcome, site.settle) := by
  rw [start, consistent.starting starting, begin_of_busy (by rw [starting, Bool.or_true])]
  rfl

/-- A wait that joins a start, done in one go. -/
theorem waitReady_of_isStarting (valid : site.Valid) (consistent : site.Consistent) :
    site.waitReady = (site.settle.outcome, site.settle) := by
  have waits : (site.isStarting || site.willRestart) = true := by rw [starting, Bool.true_or]
  rw [waitReady_eq_start valid consistent (consistent.starting starting) waits,
    start_of_isStarting starting consistent]

/-- Whoever has waited for a start ends as the start does. -/
theorem ending_settle (valid : site.Valid) (call : Call) :
    call.ending site.settle = site.settle.outcome := by
  rcases exists_inFlight starting with ⟨child, inFlight⟩
  rcases settle_ends valid inFlight with ⟨ended, -, taken, -⟩
  have outcome : site.settle.outcome = site.hears child := by rw [outcome, ended]
  cases call with
  | start => rfl
  | waitReady =>
      rw [Call.ending, outcome]
      cases heard : site.hears child with
      | error fault => rfl
      | ok _ =>
          have isReady : site.settle.isReady = true := by
            rw [taken heard]
            exact valid.running child inFlight
          simp only [isReady, if_true]

end Calls

end Site

/-! ### A lobby -/

/-- Somebody who has called while a start was in flight, and how the call has ended. -/
structure Caller where
  call : Call
  ending : Option (Except Fault Unit)

/-- A sandbox and those who have called while a start was in flight. -/
structure Lobby where
  site : Site
  callers : List Caller

/-- A caller goes on as soon as no start is in flight any more.  The end of a start wakes all that
wait for it at once, before anything else is done. -/
def Caller.told (after : Site) (caller : Caller) : Caller :=
  if after.isStarting then caller
  else { caller with ending := caller.ending.or (some (caller.call.ending after)) }

/-- What can happen while callers wait for the start of a child, short of a close. -/
inductive Lobby.Step (child : Nat) : Lobby → Lobby → Prop where
  | arrive (lobby : Lobby) (call : Call) (inFlight : lobby.site.sandbox.attempt = .inFlight child) :
      Step child lobby ⟨lobby.site.enter call, lobby.callers ++ [⟨call, none⟩]⟩
  | move {lobby : Lobby} {after : Site} (move : Site.Move lobby.site after)
      (isOpen : after.sandbox.isClosed = false) :
      Step child lobby ⟨after, lobby.callers.map (Caller.told after)⟩

/-- Any number of steps. -/
abbrev Lobby.Steps (child : Nat) : Lobby → Lobby → Prop := Relation.ReflTransGen (Step child)

namespace Site

/-- Nothing but a close and the end of the start can happen to a sandbox whose start is in
flight. -/
theorem Move.of_isStarting {site after : Site} (move : Move site after)
    (consistent : site.Consistent) (starting : site.isStarting = true)
    (isOpen : after.sandbox.isClosed = false) : after = site ∨ after = site.settle := by
  have notReady := consistent.starting starting
  cases move with
  | start start =>
      cases start with
      | refuse idle refusal =>
          rw [starting, Bool.or_true] at idle
          cases idle
      | launch idle accepted =>
          rw [starting, Bool.or_true] at idle
          cases idle
      | settle => exact .inr rfl
  | serve isReady current payload hasTime =>
      rw [isReady] at notReady
      cases notReady
  | close =>
      rw [isClosed_close] at isOpen
      cases isOpen
  | exit =>
      left
      rw [Site.exit]
      cases current : site.sandbox.current with
      | none => rfl
      | some child =>
          rw [isReady, current, Option.any_some] at notReady
          simp only [World.exit_of_gone notReady]

end Site

namespace Lobby

/-- Nothing has happened but that callers have come, and all of them wait. -/
structure Waiting (site : Site) (lobby : Lobby) : Prop where
  same : lobby.site = site
  unheard : ∀ caller ∈ lobby.callers, caller.ending = none

/-- The start of a child is over, and whoever has called while it was in flight has ended as it
has. -/
structure Over (outcome : Except Fault Unit) (child : Nat) (lobby : Lobby) : Prop where
  valid : lobby.site.Valid
  /-- The child has been launched, so that no other start will be the start of it. -/
  below : child < lobby.site.world.children.length
  heard : lobby.site.sandbox.attempt ≠ .inFlight child
  told : ∀ caller ∈ lobby.callers, caller.ending = some outcome

section Steps

variable {site : Site} {child : Nat} {lobby next : Lobby}

/-- Once a start is over, it stays so for those who have waited for it. -/
theorem Over.step {outcome : Except Fault Unit} (past : Over outcome child lobby)
    (step : Step child lobby next) : Over outcome child next := by
  cases step with
  | arrive call inFlight => exact absurd inFlight past.heard
  | @move after move isOpen =>
      have leads := move.leads past.valid
      have below := past.below
      refine ⟨leads.valid, Nat.lt_of_lt_of_le below leads.grows, fun inFlight => ?_,
        fun caller member => ?_⟩
      · rcases move.inFlight inFlight with old | new
        · exact past.heard old
        · omega
      · rcases List.mem_map.mp member with ⟨former, old, rfl⟩
        have told := past.told former old
        rw [Caller.told]
        split
        · exact told
        · simp only [told, Option.some_or]

/-- As long as a start is in flight callers only come; in the end all of them go on together. -/
theorem Waiting.step (waiting : Waiting site lobby) (valid : site.Valid)
    (consistent : site.Consistent) (inFlight : site.sandbox.attempt = .inFlight child)
    (step : Step child lobby next) : Waiting site next ∨ Over site.settle.outcome child next := by
  have starting := Site.isStarting_of_inFlight inFlight
  rcases waiting with ⟨rfl, unheard⟩
  cases step with
  | arrive call _ =>
      refine .inl ⟨Site.enter_of_isStarting starting call, ?_⟩
      exact List.forall_mem_append.mpr ⟨unheard, List.forall_mem_singleton.mpr rfl⟩
  | @move after move isOpen =>
      rcases move.of_isStarting consistent starting isOpen with same | settled
      · left
        rw [same]
        refine ⟨rfl, fun caller member => ?_⟩
        rcases List.mem_map.mp member with ⟨former, old, rfl⟩
        rw [Caller.told, if_pos starting]
        exact unheard former old
      · right
        rw [settled] at move ⊢
        have leads := move.leads valid
        have ended := Site.isStarting_settle lobby.site
        refine ⟨leads.valid, ?_, fun again => ?_, fun caller member => ?_⟩
        · exact Nat.lt_of_lt_of_le (valid.below child (.inr inFlight)) leads.grows
        · rw [Site.isStarting_of_inFlight again] at ended
          cases ended
        · rcases List.mem_map.mp member with ⟨former, old, rfl⟩
          rw [Caller.told, ended, if_neg Bool.false_ne_true]
          simp only [unheard former old, Option.none_or,
            Site.ending_settle starting valid former.call]

/-- Whoever calls while a start is in flight waits for it, and ends as it does. -/
theorem waiting_or_over (valid : site.Valid) (consistent : site.Consistent)
    (inFlight : site.sandbox.attempt = .inFlight child) (steps : Steps child ⟨site, []⟩ lobby) :
    Waiting site lobby ∨ Over site.settle.outcome child lobby := by
  induction steps with
  | refl => exact .inl ⟨rfl, nofun⟩
  | tail _ step ih =>
      rcases ih with waiting | past
      · exact waiting.step valid consistent inFlight step
      · exact .inr (past.step step)

end Steps

end Lobby

/-! ### Main result -/

namespace Site

/-- A start or a restart that fails leaves everything as it was. -/
structure Fails (site after : Site) : Prop where
  session : after.sandbox.session = site.sandbox.session
  isReady : after.isReady = site.isReady
  /-- While a start is in flight a sandbox is available for that reason alone. -/
  isAvailable : after.isAvailable =
    if site.isStarting then site.willRestart else site.isAvailable

/-- What a sandbox promises to those who use it. -/
structure Truthful (site : Site) : Prop where
  /-- It is available exactly when the next request is not turned away. -/
  serves : site.isStarting = false → ∀ errand : Errand, errand.IsRequest → site.Serves errand
  /-- Once it is closed, nothing but a start changes anything. -/
  closed : ∀ errands : List Errand, (∀ errand ∈ errands, errand ≠ .start) →
    site.close.performAll errands = site.close
  refuses : ∀ errand : Errand, errand.IsRequest →
    ∃ fault, site.close.perform errand = (.error fault, site.close) ∧
      fault.className = Exception.sandboxName
  failedStart : ∀ fault, site.start.1 = .error fault → site.Fails site.start.2
  failedRestart : ∀ fault, site.waitReady.1 = .error fault → site.Fails site.waitReady.2 ∧
    ∀ errand : Errand, errand.IsRequest → (site.perform errand).2 = site.waitReady.2
  /-- A start that is begun leaves everything as it was until it is heard. -/
  begun : site.begin.isStarting = true → Alike site site.begin
  /-- The session is the number of children that have said that they are ready. -/
  session : (∃ accepted, Chronicle accepted site) ∧ ∀ accepted, Chronicle accepted site →
    accepted.Nodup ∧ site.sandbox.session = accepted.length
  /-- A call that joins a start launches nothing and ends as the start does. -/
  joins : site.isStarting = true →
    site.start = (site.settle.outcome, site.settle) ∧
      site.waitReady = (site.settle.outcome, site.settle) ∧
        site.settle.world.attempts = site.world.attempts
  /-- However many call while a start is in flight, they do nothing but wait, and go on together
  when it is over. -/
  callers : ∀ child, site.sandbox.attempt = .inFlight child →
    (∀ call, site.enter call = site) ∧
      ∀ lobby, Lobby.Steps child ⟨site, []⟩ lobby →
        lobby.Waiting site ∨ lobby.Over site.settle.outcome child

theorem Alike.fails {site after : Site} (alike : Alike site after) (consistent : site.Consistent)
    (ended : after.isStarting = false) : site.Fails after := by
  refine ⟨alike.session, alike.isReady, ?_⟩
  cases starting : site.isStarting with
  | true =>
      rw [Site.isAvailable, alike.isReady, ended, alike.willRestart, consistent.starting starting,
        Bool.or_self, Bool.false_or, if_pos rfl]
  | false => exact alike.isAvailable starting ended

/-- Whatever has happened to a sandbox, it is available when it says so, it is closed until it is
started again, a start that fails changes nothing, the session counts the children that have been
accepted, and whoever comes while a start is in flight ends as that start does. -/
theorem truthful_of_reachable {site : Site} (reached : Reachable site) : site.Truthful := by
  have valid := (orderly_of_reachable reached).valid
  have consistent := consistent_of_reachable reached
  constructor
  · exact fun idle errand isRequest => serves_of_isRequest valid consistent idle isRequest
  · exact fun errands noStart => performAll_close site noStart
  · exact fun errand isRequest => ⟨.notStarted, perform_close site isRequest, rfl⟩
  · intro fault failed
    rcases start_fails valid consistent failed with ⟨alike, ended⟩
    exact alike.fails consistent ended
  · intro fault failed
    rcases waitReady_fails valid consistent failed with ⟨alike, ended⟩
    refine ⟨alike.fails consistent ended, fun errand isRequest => ?_⟩
    rcases exists_payload isRequest with ⟨payload, hasTime, requested⟩
    rw [(requested site).1, request_of_fault payload hasTime (Prod.ext failed rfl)]
  · exact alike_begin valid consistent
  · refine ⟨exists_chronicle reached, fun accepted chronicle => ?_⟩
    exact ⟨chronicle.counted.nodup, chronicle.counted.session⟩
  · intro starting
    exact ⟨start_of_isStarting starting consistent,
      waitReady_of_isStarting starting valid consistent, attempts_settle valid⟩
  · intro child inFlight
    exact ⟨enter_of_isStarting (isStarting_of_inFlight inFlight),
      fun lobby steps => Lobby.waiting_or_over valid consistent inFlight steps⟩

/-- A sandbox whose start waits for a first line keeps its promises, and its start will succeed. -/
theorem truthful_awaiting :
    Reachable awaiting ∧ awaiting.sandbox.attempt = .inFlight 0 ∧
      awaiting.settle.isReady = true ∧ awaiting.Truthful := by
  have reached : Reachable awaiting :=
    ((Reachable.create none (.whole 30) none).expecting [{ isHeldBack := true }] []).begin
  exact ⟨reached, rfl, by decide +kernel, truthful_of_reachable reached⟩

end Site
end Sandbox
end AnswerKey
