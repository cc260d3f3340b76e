import AnswerKey.Proofs.Sandbox.Custody
import AnswerKey.Proofs.Sandbox.Loading

namespace AnswerKey

/-!
What a sandbox says about itself.

A sandbox is available when a request finds a child in use, or when it has given up its last child
and starts another by itself.  Nothing else is behind it: a sandbox that has been closed has no
child to give up, and none is in use while a start is in flight (`Sandbox.Site.Consistent`).  A
start that fails changes neither (`Sandbox.Site.start_cases`), so that it leaves a sandbox as
available as it was.
-/

/-- Whether an errand asks the child something.  A program is run only under a limit of time to
which a grace can be added. -/
def Errand.IsRequest : Errand → Prop
  | .load _ _ => True
  | .call _ _ => True
  | .run _ timeout => ∃ hasTime, Sandbox.Site.hasGrace timeout = .ok hasTime
  | .ping => True
  | _ => False

namespace Sandbox

/-! ### Launches -/

/-- Whether an event is a launch, refused or not. -/
def Event.isLaunch : Event → Bool
  | launched _ _ _ => true
  | _ => false

/-- The number of launches that have been tried. -/
def World.attempts (world : World) : Nat :=
  world.journal.countP Event.isLaunch

namespace World

/-- Events without a launch do not count. -/
theorem attempts_of_append {before after : World} {events : List Event}
    (journal : after.journal = before.journal ++ events)
    (other : ∀ event ∈ events, event.isLaunch = false) : after.attempts = before.attempts := by
  have none : events.countP Event.isLaunch = 0 :=
    List.countP_eq_zero.mpr fun event member => Bool.not_eq_true _ ▸ other event member
  rw [attempts, attempts, journal, List.countP_append, none, Nat.add_zero]

theorem attempts_of_launch {before after : World} {event : Event}
    (journal : after.journal = before.journal ++ [event]) (launch : event.isLaunch = true) :
    after.attempts = before.attempts + 1 := by
  rw [attempts, attempts, journal, List.countP_append, List.countP_singleton, launch]
  rfl

end World

namespace Site

/-! ### What those who use a sandbox see of it -/

/-- Two states between which those who use a sandbox see no difference but for a start in flight. -/
structure Alike (before after : Site) : Prop where
  session : after.sandbox.session = before.sandbox.session
  isReady : after.isReady = before.isReady
  willRestart : after.willRestart = before.willRestart

namespace Alike

theorem refl (site : Site) : Alike site site := ⟨rfl, rfl, rfl⟩

theorem trans {first second third : Site} (before : Alike first second)
    (after : Alike second third) : Alike first third :=
  ⟨after.session.trans before.session, after.isReady.trans before.isReady,
    after.willRestart.trans before.willRestart⟩

/-- With no start in flight they are available alike. -/
theorem isAvailable {before after : Site} (alike : Alike before after)
    (idle : before.isStarting = false) (still : after.isStarting = false) :
    after.isAvailable = before.isAvailable := by
  rw [Site.isAvailable, Site.isAvailable, alike.isReady, alike.willRestart, idle, still]

end Alike

/-- What the fields of a sandbox have to do with each other. -/
structure Consistent (site : Site) : Prop where
  /-- A closed sandbox has no child, awaits none and restarts none. -/
  closed : site.sandbox.isClosed = true →
    site.sandbox.needsRestart = false ∧ site.sandbox.current = none ∧ site.isStarting = false
  /-- No child is in use while a start is in flight. -/
  starting : site.isStarting = true → site.isReady = false

section Consistent

variable {site : Site}

theorem isStarting_of_inFlight {child : Nat} (inFlight : site.sandbox.attempt = .inFlight child) :
    site.isStarting = true := by
  rw [isStarting, inFlight]
  rfl

theorem exists_inFlight (starting : site.isStarting = true) :
    ∃ child, site.sandbox.attempt = .inFlight child := by
  cases attempt : site.sandbox.attempt with
  | inFlight child => exact ⟨child, rfl⟩
  | _ =>
      rw [isStarting, attempt] at starting
      cases starting

/-- A launch does not make a sandbox ready. -/
theorem isReady_launched (valid : site.Valid) : site.launched.isReady = site.isReady := by
  have inUse : site.launched.sandbox.current = site.sandbox.current := rfl
  rw [isReady, isReady, inUse]
  cases current : site.sandbox.current with
  | none => rfl
  | some child =>
      have below := valid.below child (.inl current)
      rw [Option.any_some, Option.any_some, isRunning_launched,
        decide_eq_false (Nat.ne_of_lt below), Bool.or_false]

/-- Killing another child leaves the one in use alone. -/
theorem isReady_of_kill {after : Site} {child : Nat}
    (current : after.sandbox.current = site.sandbox.current)
    (other : site.sandbox.current ≠ some child)
    (killed : after.world = site.world.kill child) : after.isReady = site.isReady := by
  rw [isReady, isReady, current, killed]
  cases inUse : site.sandbox.current with
  | none => rfl
  | some own =>
      have different : own ≠ child := fun same => other (same ▸ inUse)
      rw [Option.any_some, Option.any_some, World.isRunning_kill, decide_eq_true different,
        Bool.and_true]

end Consistent

/-! ### How a start ends -/

/-- What the first line of a child says, if there is time for it. -/
def hears (site : Site) (child : Nat) : Except Fault Unit :=
  judgeGreeting
    (if site.sandbox.startupTimeout.leavesTime then site.world.greetingOf child else none)

section Start

variable {site : Site}

/-- A start that is heard takes its child into use, or it fails and nobody sees a difference. -/
theorem settle_ends (valid : site.Valid) {child : Nat}
    (inFlight : site.sandbox.attempt = .inFlight child) :
    site.settle.sandbox.attempt = .settled (site.hears child) ∧
      site.settle.world.attempts = site.world.attempts ∧
      (site.hears child = .ok () → site.settle = site.taken child) ∧
      ∀ fault, site.hears child = .error fault → Alike site site.settle := by
  have killed : (site.world.kill child).attempts = site.world.attempts :=
    World.attempts_of_append (World.journal_kill (valid.running child inFlight))
      (List.forall_mem_singleton.mpr rfl)
  have apart := valid.different child inFlight
  rw [settle, inFlight]
  simp only []
  split
  · next judged =>
      rw [hears, judged]
      refine ⟨rfl, rfl, fun _ => rfl, fun fault failed => ?_⟩
      cases failed
  · next text judged =>
      rw [hears, judged]
      refine ⟨rfl, rfl, fun heard => ?_, fun _ _ => ⟨rfl, rfl, rfl⟩⟩
      cases heard
  · next fault readable judged =>
      rw [hears, judged]
      refine ⟨rfl, killed, fun heard => ?_, fun _ _ => ⟨rfl, isReady_of_kill rfl apart rfl, rfl⟩⟩
      cases heard

/-- A start that is awaited is over once it has been heard. -/
theorem isStarting_settle (site : Site) : site.settle.isStarting = false := by
  rw [settle]
  cases attempt : site.sandbox.attempt with
  | inFlight child =>
      simp only []
      split <;> rfl
  | _ => rw [isStarting, attempt]; rfl

/-- Nothing more is heard afterwards. -/
theorem settle_of_idle (idle : site.isStarting = false) : site.settle = site := by
  rw [settle]
  cases attempt : site.sandbox.attempt with
  | inFlight child =>
      rw [isStarting_of_inFlight attempt] at idle
      cases idle
  | _ => rfl

theorem attempts_settle (valid : site.Valid) :
    site.settle.world.attempts = site.world.attempts := by
  cases starting : site.isStarting with
  | false => rw [settle_of_idle starting]
  | true =>
      rcases exists_inFlight starting with ⟨child, inFlight⟩
      exact (settle_ends valid inFlight).2.1

/-- With no start in flight, a start is one launch that is refused or heard to the end. -/
theorem begin_settle (idle : (site.isReady || site.isStarting) = false) :
    (∃ text, site.begin.settle = site.refused text) ∨ site.begin.settle = site.launched.settle := by
  cases refusal : site.world.nextLaunch.refusal with
  | some text =>
      have begun : site.begin = site.refused text := by
        rw [begin, idle]
        simp only [Bool.false_eq_true, if_false, World.launch_refused _ _ refusal, refused]
      exact .inl ⟨text, by rw [begun]; rfl⟩
  | none =>
      rcases begin_of_accepted idle refusal with begun | begun
      · exact .inr (by rw [begun])
      · exact .inr (by rw [begun, settle_of_idle (isStarting_settle _)])

/-- A closed sandbox restarts nothing, so that to be opened by a start makes no difference to it. -/
theorem Consistent.alike (consistent : site.Consistent) {after : Site}
    (session : after.sandbox.session = site.sandbox.session)
    (isReady : after.isReady = site.isReady)
    (needsRestart : after.sandbox.needsRestart = site.sandbox.needsRestart)
    (isOpen : after.sandbox.isClosed = false) : Alike site after := by
  refine ⟨session, isReady, ?_⟩
  rw [willRestart, willRestart, needsRestart, isOpen]
  cases closed : site.sandbox.isClosed with
  | false => rfl
  | true => rw [(consistent.closed closed).1]; rfl

theorem Consistent.alike_launched (consistent : site.Consistent) (valid : site.Valid) :
    Alike site site.launched :=
  consistent.alike rfl (isReady_launched valid) rfl rfl

/-- How a start ends that is not over at once: a child is in use, or nobody sees a difference. -/
theorem start_ends (valid : site.Valid) (consistent : site.Consistent)
    (notReady : site.isReady = false) :
    site.start.2.isStarting = false ∧
      site.start.2.world.attempts = site.world.attempts + (if site.isStarting then 0 else 1) ∧
      ((site.start.1 = .ok () ∧ site.start.2.isReady = true) ∨
        ∃ fault, site.start.1 = .error fault ∧ Alike site site.start.2) := by
  have started : site.start = (site.begin.settle.outcome, site.begin.settle) := by
    rw [start, notReady]
    rfl
  have heard {waiting : Site} {child : Nat} (valid : waiting.Valid)
      (inFlight : waiting.sandbox.attempt = .inFlight child) :
      (waiting.settle.outcome = .ok () ∧ waiting.settle.isReady = true) ∨
        ∃ fault, waiting.settle.outcome = .error fault ∧ Alike waiting waiting.settle := by
    rcases settle_ends valid inFlight with ⟨ended, -, taken, failed⟩
    cases heard : waiting.hears child with
    | ok _ =>
        rw [taken heard]
        exact .inl ⟨rfl, valid.running child inFlight⟩
    | error fault => exact .inr ⟨fault, by rw [outcome, ended, heard], failed fault heard⟩
  rw [started]
  refine ⟨isStarting_settle _, ?_⟩
  cases starting : site.isStarting with
  | true =>
      rcases exists_inFlight starting with ⟨child, inFlight⟩
      rw [begin_of_busy (by rw [starting, Bool.or_true])]
      exact ⟨attempts_settle valid, heard valid inFlight⟩
  | false =>
      have idle : (site.isReady || site.isStarting) = false := by
        rw [notReady, starting, Bool.or_self]
      rcases begin_settle idle with ⟨text, refused⟩ | launched
      · rw [refused]
        refine ⟨World.attempts_of_launch rfl rfl, .inr ⟨_, rfl, ?_⟩⟩
        exact consistent.alike rfl rfl rfl rfl
      · have validLaunched := (leads_launched valid).valid
        rw [launched]
        refine ⟨?_, ?_⟩
        · rw [attempts_settle validLaunched]
          exact World.attempts_of_launch rfl rfl
        · rcases heard validLaunched rfl with ready | ⟨fault, failed, alike⟩
          · exact .inl ready
          · exact .inr ⟨fault, failed, (consistent.alike_launched valid).trans alike⟩

end Start

/-! ### Every history is consistent -/

section History

variable {site before after : Site}

theorem attempt_served (site : Site) (child : Nat) (payload : List (String × Json))
    (hasTime : Bool) :
    (site.served child payload hasTime).sandbox.attempt = site.sandbox.attempt := by
  rw [served, discard]
  split
  · rfl
  · simp only []
    split <;> rfl

/-- What is left of a sandbox that is closed. -/
theorem sandbox_close (site : Site) :
    site.close.sandbox.needsRestart = false ∧ site.close.sandbox.current = none ∧
      site.close.isStarting = false := by
  have ended : (if site.isStarting then Attempt.cancelled else site.sandbox.attempt).isInFlight =
      false := by
    split
    · rfl
    · next idle => exact Bool.not_eq_true _ ▸ idle
  rw [close, isStarting]
  split <;> exact ⟨rfl, rfl, ended⟩

/-- Every move keeps a sandbox consistent. -/
theorem Move.consistent (move : Move before after) (valid : before.Valid)
    (consistent : before.Consistent) : after.Consistent := by
  cases move with
  | start start =>
      cases start with
      | refuse idle refusal => exact ⟨nofun, nofun⟩
      | launch idle accepted =>
          refine ⟨nofun, fun _ => ?_⟩
          rw [isReady_launched valid]
          exact (Bool.or_eq_false_iff.mp idle).1
      | settle =>
          cases starting : before.isStarting with
          | false =>
              rw [settle_of_idle starting]
              exact consistent
          | true =>
              constructor
              · intro closed
                rw [isClosed_settle] at closed
                have idle := (consistent.closed closed).2.2
                rw [starting] at idle
                cases idle
              · intro stillStarting
                rw [isStarting_settle] at stillStarting
                cases stillStarting
  | @serve child isReady current payload hasTime =>
      constructor
      · intro closed
        rw [isClosed_served] at closed
        have unused := (consistent.closed closed).2.1
        rw [current] at unused
        cases unused
      · intro starting
        rw [isStarting, attempt_served] at starting
        have notReady := consistent.starting starting
        rw [isReady] at notReady
        cases notReady
  | close =>
      have closed := sandbox_close before
      refine ⟨fun _ => closed, fun starting => ?_⟩
      rw [closed.2.2] at starting
      cases starting
  | exit =>
      constructor
      · rw [isStarting, sandbox_exit]
        exact consistent.closed
      · intro starting
        rw [isStarting, sandbox_exit] at starting
        have notReady := consistent.starting starting
        rw [← Bool.not_eq_true] at notReady ⊢
        refine fun ready => notReady (isReady_mono (congrArg Sandbox.current (sandbox_exit before))
          (fun child running => ?_) ready)
        rw [Site.exit] at running
        split at running
        · exact running
        · rw [World.isRunning_exit, Bool.and_eq_true] at running
          exact running.1

theorem Path.consistent (path : Path before after) (valid : before.Valid)
    (consistent : before.Consistent) : after.Consistent := by
  induction path with
  | refl => exact consistent
  | tail path move ih => exact move.consistent (Path.leads path valid).valid ih

/-- Whatever has happened to a sandbox, its fields are consistent. -/
theorem consistent_of_reachable (reached : Reachable site) : site.Consistent := by
  induction reached with
  | create interpreter startupTimeout memoryLimit => exact ⟨nofun, nofun⟩
  | expecting reached launches replies ih => exact ⟨ih.closed, ih.starting⟩
  | begin reached ih =>
      exact (starts_begin _).path.consistent (orderly_of_reachable reached).valid ih
  | perform reached errand ih =>
      exact (path_perform _ errand).consistent (orderly_of_reachable reached).valid ih
  | exit reached ih => exact (Move.exit _).consistent (orderly_of_reachable reached).valid ih

end History

/-! ### Requests -/

section Request

variable {site : Site}

theorem map_eq_error {α β : Type} (convert : α → β) {outcome : Except Fault α} {fault : Fault} :
    outcome.map convert = .error fault ↔ outcome = .error fault := by
  cases outcome <;> simp [Except.map]

/-- What is said about an answer that comes late is not said about a child that is not there. -/
theorem nameLate_eq_notStarted {α : Type} {overdue : Fault} (other : overdue ≠ .notStarted)
    {outcome : Except Fault α} :
    nameLate overdue outcome = .error .notStarted ↔ outcome = .error .notStarted := by
  cases outcome with
  | ok value => simp [nameLate]
  | error fault => cases fault <;> simp [nameLate, other]

theorem named_eq_notStarted {α β : Type} {overdue : Fault} (other : overdue ≠ .notStarted)
    (outcome : Except Fault α) (convert : α → β) :
    nameLate overdue (outcome.map convert) = .error .notStarted ↔ outcome = .error .notStarted :=
  (nameLate_eq_notStarted other).trans (map_eq_error convert)

/-- Every request asks the child something and reports what comes of it.  That no child was there
is reported as such, and nothing else is. -/
theorem exists_payload {errand : Errand} (isRequest : errand.IsRequest) :
    ∃ payload hasTime, ∀ site : Site,
      (site.perform errand).2 = (site.request payload hasTime).2 ∧
        ((site.perform errand).1 = .error .notStarted ↔
          (site.request payload hasTime).1 = .error .notStarted) := by
  cases errand with
  | load name source =>
      have other : Fault.loadLate name ≠ .notStarted := by simp
      refine ⟨[("op", .str "load"), ("name", name), ("source", source)], true,
        fun site => ⟨rfl, ?_⟩⟩
      exact (map_eq_error _).trans (named_eq_notStarted other _ _)
  | call function arguments =>
      have other : Fault.callLate function ≠ .notStarted := by simp
      exact ⟨[("op", .str "call"), ("func", function), ("args", .arr arguments)], true,
        fun site => ⟨rfl, nameLate_eq_notStarted other⟩⟩
  | run code timeout =>
      rcases isRequest with ⟨hasTime, grace⟩
      refine ⟨[("op", .str "run"), ("code", code), ("timeout", timeout)], hasTime, fun site => ?_⟩
      rw [perform, run, grace]
      simp only []
      split <;> next outcome => simp [outcome]
  | ping =>
      have other : Fault.pingLate ≠ .notStarted := by simp
      refine ⟨[("op", .str "ping")], true, fun site => ⟨rfl, ?_⟩⟩
      exact (map_eq_error _).trans (named_eq_notStarted other _ _)
  | start => exact isRequest.elim
  | waitReady => exact isRequest.elim
  | close => exact isRequest.elim

/-- A child that has been asked never says that there is none. -/
theorem ofAnswer_ne_notStarted (id : Nat) (answer : Answer) :
    Verdict.ofAnswer id answer ≠ .result (.error .notStarted) ∧
      Verdict.ofAnswer id answer ≠ .lost .notStarted := by
  have refused (fields : List (String × Json)) :
      Verdict.ofFields fields ≠ .error .notStarted := by
    rw [Verdict.ofFields]
    simp only []
    split
    · simp
    · split <;> simp
  cases answer with
  | line content =>
      cases content with
      | error fault =>
          rw [Verdict.ofAnswer]
          split <;> simp
      | ok value =>
          cases value with
          | obj fields =>
              rw [Verdict.ofAnswer]
              split
              · exact ⟨fun same => refused fields (Verdict.result.inj same), by simp⟩
              · simp
          | _ => simp [Verdict.ofAnswer]
  | _ => simp [Verdict.ofAnswer]

/-- Without a child, and with none to be started, there is nothing to wait for. -/
theorem waitReady_of_unavailable (unavailable : site.isAvailable = false) :
    site.waitReady = (.error .notStarted, site) := by
  rw [isAvailable, Bool.or_eq_false_iff, Bool.or_eq_false_iff] at unavailable
  rw [waitReady, unavailable.1.2, unavailable.2]
  simp only [Bool.or_self, Bool.false_eq_true, if_false, unavailable.1.1]

/-- A wait for a start, or for a restart, is that start. -/
theorem waitReady_eq_start (valid : site.Valid) (consistent : site.Consistent)
    (notReady : site.isReady = false)
    (waits : (site.isStarting || site.willRestart) = true) : site.waitReady = site.start := by
  have ends := (start_ends valid consistent notReady).2.2
  rw [waitReady]
  simp only [waits, if_true]
  cases started : site.start with
  | mk outcome after =>
      rw [started] at ends
      rcases ends with ⟨rfl, isReady⟩ | ⟨fault, rfl, -⟩
      · simp only [isReady, if_true]
      · rfl

/-- Nothing is launched on the way to an answer. -/
theorem attempts_served {child : Nat} (isReady : site.isReady = true)
    (current : site.sandbox.current = some child) (payload : List (String × Json))
    (hasTime : Bool) :
    (site.served child payload hasTime).world.attempts = site.world.attempts := by
  refine World.attempts_of_append (journal_served isReady current payload hasTime) ?_
  refine List.forall_mem_cons.mpr ⟨rfl, fun event member => ?_⟩
  rcases follows_answer _ _ _ event member with ⟨content, rfl⟩ | rfl <;> rfl

/-- All that a request launches it launches while it waits for a child. -/
theorem attempts_request (payload : List (String × Json)) (hasTime : Bool) :
    (site.request payload hasTime).2.world.attempts = site.waitReady.2.world.attempts := by
  cases waited : site.waitReady with
  | mk outcome ready =>
      cases outcome with
      | error fault => rw [request_of_fault payload hasTime waited]
      | ok _ =>
          have isReady := isReady_of_waitReady waited
          rcases exists_current isReady with ⟨child, -, current, -⟩
          rw [request_eq_served site payload hasTime waited current]
          exact attempts_served isReady current payload hasTime

/-- The child in use is asked. -/
theorem request_of_isReady (isReady : site.isReady = true) (payload : List (String × Json))
    (hasTime : Bool) :
    (site.request payload hasTime).1 ≠ .error .notStarted ∧
      ∃ child request events, site.sandbox.current = some child ∧
        (site.request payload hasTime).2.world.journal =
          site.world.journal ++ .wrote child request :: events := by
  rcases exists_current isReady with ⟨child, -, current, -⟩
  have told : site.verdict child payload hasTime ≠ .result (.error .notStarted) ∧
      site.verdict child payload hasTime ≠ .lost .notStarted := ofAnswer_ne_notStarted _ _
  rw [request_eq_served site payload hasTime (waitReady_of_isReady isReady) current]
  refine ⟨?_, child, _, _, current, journal_served isReady current payload hasTime⟩
  cases verdict : site.verdict child payload hasTime with
  | result result =>
      rintro rfl
      exact told.1 verdict
  | lost fault =>
      intro same
      exact told.2 (verdict.trans (congrArg Verdict.lost (Except.error.inj same)))

/-- An errand is turned away for want of a child, before anything is launched. -/
def TurnsAway (site : Site) (errand : Errand) : Prop :=
  (site.perform errand).1 = .error .notStarted ∧
    (site.perform errand).2.world.attempts = site.world.attempts

/-- What a request can rely on while no start is in flight. -/
structure Serves (site : Site) (errand : Errand) : Prop where
  available : site.isAvailable = true ↔ ¬ site.TurnsAway errand
  /-- The child in use is asked, and nothing is launched. -/
  ready : site.isReady = true → (site.perform errand).2.world.attempts = site.world.attempts ∧
    ∃ child request events, site.sandbox.current = some child ∧
      (site.perform errand).2.world.journal =
        site.world.journal ++ .wrote child request :: events
  /-- Otherwise one launch is tried, and no more. -/
  restarts : site.isAvailable = true → site.isReady = false →
    (site.perform errand).2.world.attempts = site.world.attempts + 1

theorem serves_of_isRequest (valid : site.Valid) (consistent : site.Consistent)
    (idle : site.isStarting = false) {errand : Errand} (isRequest : errand.IsRequest) :
    site.Serves errand := by
  rcases exists_payload isRequest with ⟨payload, hasTime, requested⟩
  rcases requested site with ⟨after, turnedAway⟩
  have ready (isReady : site.isReady = true) :
      (site.perform errand).2.world.attempts = site.world.attempts := by
    rw [after, attempts_request, waitReady_of_isReady isReady]
  have restarts (available : site.isAvailable = true) (notReady : site.isReady = false) :
      (site.perform errand).2.world.attempts = site.world.attempts + 1 := by
    rw [isAvailable, notReady, Bool.false_or] at available
    rw [after, attempts_request, waitReady_eq_start valid consistent notReady available,
      (start_ends valid consistent notReady).2.1, idle]
    rfl
  refine ⟨⟨fun available away => ?_, fun kept => ?_⟩, fun isReady => ⟨ready isReady, ?_⟩, restarts⟩
  · cases isReady : site.isReady with
    | true => exact (request_of_isReady isReady payload hasTime).1 (turnedAway.mp away.1)
    | false =>
        have tried := restarts available isReady
        rw [away.2] at tried
        omega
  · rw [← Bool.not_eq_false]
    intro unavailable
    have refused := request_of_fault payload hasTime (waitReady_of_unavailable unavailable)
    refine kept ⟨turnedAway.mpr (by rw [refused]), ?_⟩
    rw [after, refused]
  · rw [after]
    exact (request_of_isReady isReady payload hasTime).2

/-! ### Closed sandboxes -/

/-- A sandbox that is not available does nothing but start and close. -/
theorem perform_of_unavailable (unavailable : site.isAvailable = false) {errand : Errand}
    (noStart : errand ≠ .start) (noClose : errand ≠ .close) : (site.perform errand).2 = site := by
  have waited := waitReady_of_unavailable unavailable
  by_cases isRequest : errand.IsRequest
  · rcases exists_payload isRequest with ⟨payload, hasTime, requested⟩
    rw [(requested site).1, request_of_fault payload hasTime waited]
  · cases errand with
    | start => exact absurd rfl noStart
    | close => exact absurd rfl noClose
    | waitReady => exact congrArg Prod.snd waited
    | run code timeout =>
        cases grace : hasGrace timeout with
        | ok hasTime => exact absurd ⟨hasTime, grace⟩ isRequest
        | error fault =>
            rw [perform, run, grace]
    | _ => exact absurd trivial isRequest

theorem isAvailable_close (site : Site) : site.close.isAvailable = false := by
  have closed := sandbox_close site
  rw [isAvailable, isReady, closed.2.1, closed.2.2, willRestart, closed.1]
  rfl

/-- A closed sandbox turns every request away. -/
theorem perform_close (site : Site) {errand : Errand} (isRequest : errand.IsRequest) :
    site.close.perform errand = (.error .notStarted, site.close) := by
  rcases exists_payload isRequest with ⟨payload, hasTime, requested⟩
  have refused := request_of_fault payload hasTime
    (waitReady_of_unavailable (isAvailable_close site))
  rcases requested site.close with ⟨after, turnedAway⟩
  rw [refused] at after turnedAway
  exact Prod.ext (turnedAway.mpr rfl) after

/-- A sandbox is closed for good the first time. -/
theorem close_close (site : Site) : site.close.close = site.close := by
  have closed := sandbox_close site
  have isClosed := isClosed_close site
  generalize site.close = last at closed isClosed
  rcases closed with ⟨needsRestart, current, idle⟩
  rw [close]
  simp only [current, idle, Bool.false_eq_true, if_false]
  rw [← isClosed, ← needsRestart, ← current]

/-- A sandbox after some errands, one after the other. -/
def performAll (site : Site) (errands : List Errand) : Site :=
  errands.foldl (fun site errand => (site.perform errand).2) site

/-- Until it is started again, a closed sandbox stays as it is. -/
theorem performAll_close (site : Site) {errands : List Errand}
    (noStart : ∀ errand ∈ errands, errand ≠ .start) :
    site.close.performAll errands = site.close := by
  induction errands with
  | nil => rfl
  | cons errand rest ih =>
      have first := noStart errand List.mem_cons_self
      have left : (site.close.perform errand).2 = site.close := by
        by_cases isClose : errand = .close
        · rw [isClose]
          exact close_close site
        · exact perform_of_unavailable (isAvailable_close site) first isClose
      rw [performAll, List.foldl_cons, left]
      exact ih fun other member => noStart other (List.mem_cons_of_mem errand member)

/-! ### Starts that fail -/

theorem start_fails (valid : site.Valid) (consistent : site.Consistent) {fault : Fault}
    (failed : site.start.1 = .error fault) :
    Alike site site.start.2 ∧ site.start.2.isStarting = false := by
  cases isReady : site.isReady with
  | true =>
      rw [start, if_pos isReady] at failed
      cases failed
  | false =>
      rcases start_ends valid consistent isReady with ⟨ended, -, ⟨ok, -⟩ | ⟨-, -, alike⟩⟩
      · rw [ok] at failed
        cases failed
      · exact ⟨alike, ended⟩

/-- A restart that fails leaves a sandbox as it was, and so does a request that needs it. -/
theorem waitReady_fails (valid : site.Valid) (consistent : site.Consistent) {fault : Fault}
    (failed : site.waitReady.1 = .error fault) :
    Alike site site.waitReady.2 ∧ site.waitReady.2.isStarting = false := by
  cases isReady : site.isReady with
  | true =>
      rw [waitReady_of_isReady isReady] at failed
      cases failed
  | false =>
      cases waits : site.isStarting || site.willRestart with
      | true =>
          rw [waitReady_eq_start valid consistent isReady waits] at failed ⊢
          exact start_fails valid consistent failed
      | false =>
          have unavailable : site.isAvailable = false := by
            rw [isAvailable, isReady, Bool.false_or, waits]
          rw [waitReady_of_unavailable unavailable]
          exact ⟨.refl site, (Bool.or_eq_false_iff.mp waits).1⟩

/-- A start that is begun makes no difference before it is heard. -/
theorem alike_begin (valid : site.Valid) (consistent : site.Consistent)
    (waits : site.begin.isStarting = true) : Alike site site.begin := by
  cases busy : site.isReady || site.isStarting with
  | true =>
      rw [begin_of_busy busy]
      exact .refl site
  | false =>
      cases refusal : site.world.nextLaunch.refusal with
      | some text =>
          rw [begin, busy] at waits
          simp only [Bool.false_eq_true, if_false, World.launch_refused _ _ refusal] at waits
          cases waits
      | none =>
          rcases begin_of_accepted busy refusal with begun | begun
          · rw [begun]
            exact consistent.alike_launched valid
          · rw [begun, isStarting_settle] at waits
            cases waits

end Request

end Site
end Sandbox
end AnswerKey
