import Mathlib.Logic.Relation
import AnswerKey.Proofs.Sandbox.Requests

namespace AnswerKey
namespace Sandbox

/-!
The moves of a sandbox.

Whatever a sandbox is asked to do comes down to six moves: a launch that is refused or not, a first
line that is heard, a request to the child in use, a close and an end.  What each of them writes
to the journal is said here once, and every errand is a path of moves (`Site.path_perform`); what
the moves preserve holds of whole histories.
-/

/-! ### The journal -/

/-- The child that an event tells of. -/
def Event.child? : Event → Option Nat
  | launched child _ _ => child
  | wrote child _ => some child
  | received child _ => some child
  | killed child => some child
  | closedInput child => some child

/-- The line that is read of a child for an answer, if one is. -/
def Answer.received (child : Nat) : Answer → List Event
  | line content => [.received child content]
  | _ => []

/-- What becomes of the child: it is killed unless there is a result. -/
def Verdict.ended (child : Nat) : Verdict → List Event
  | result _ => []
  | lost _ => [.killed child]

/-- A journal that goes on.  What comes next is no line that was still awaited: each line is read
right after the request that it answers. -/
def Extends (before after : List Event) : Prop :=
  ∃ events, after = before ++ events ∧
    ∀ child content, events.head? ≠ some (.received child content)

namespace Extends

variable {first second third events : List Event}

theorem refl (journal : List Event) : Extends journal journal :=
  ⟨[], (List.append_nil journal).symm, nofun⟩

theorem append {event : Event} (other : ∀ child content, event ≠ .received child content) :
    Extends first (first ++ event :: events) :=
  ⟨event :: events, rfl, fun child content same => other child content (Option.some.inj same)⟩

theorem trans (before : Extends first second) (after : Extends second third) :
    Extends first third := by
  rcases before with ⟨early, rfl, headEarly⟩
  rcases after with ⟨late, rfl, headLate⟩
  refine ⟨early ++ late, List.append_assoc first early late, ?_⟩
  cases early with
  | nil => exact headLate
  | cons event rest => exact headEarly

theorem length_le (longer : Extends first second) : first.length ≤ second.length := by
  rcases longer with ⟨events, rfl, -⟩
  exact List.length_append ▸ Nat.le_add_right _ _

/-- What is in a journal stays in its place. -/
theorem getElem?_eq (longer : Extends first second) {position : Nat}
    (old : position < first.length) : second[position]? = first[position]? := by
  rcases longer with ⟨events, rfl, -⟩
  exact List.getElem?_append_left old

end Extends

namespace World

/-- A child that runs is killed. -/
theorem journal_kill {world : World} {child : Nat} (running : world.isRunning child = true) :
    (world.kill child).journal = world.journal ++ [.killed child] := by
  rw [kill, if_pos running]
  rfl

theorem journal_kill_of_gone {world : World} {child : Nat}
    (gone : world.isRunning child = false) : (world.kill child).journal = world.journal := by
  rw [kill, gone]
  rfl

/-- A child that is shut down is killed at most after its input has been closed. -/
theorem journal_shutDown (world : World) (child : Nat) :
    (world.shutDown child).journal = world.journal ++ [.closedInput child] ∨
      (world.shutDown child).journal = world.journal ++ [.closedInput child, .killed child] := by
  have closed : (world.record (.closedInput child)).journal =
      world.journal ++ [.closedInput child] := rfl
  rw [shutDown]
  split
  · cases running : (world.record (.closedInput child)).isRunning child with
    | true =>
        right
        rw [journal_kill running, closed, List.append_assoc]
        rfl
    | false =>
        left
        rw [journal_kill_of_gone running, closed]
  · exact .inl rfl

/-- A request is written, and at most one line is read for it. -/
theorem journal_exchange {world : World} {child : Nat} {partner : Child} (id request : Json)
    (hasTime : Bool) (known : world.children[child]? = some partner) :
    (world.exchange child id request hasTime).2.journal =
      world.journal ++ .wrote child request ::
        (world.exchange child id request hasTime).1.received child := by
  rw [exchange, known]
  simp only []
  rcases partner.answer id request (world.replies.head?.getD .worker) with ⟨answer, after⟩
  cases answer with
  | broken text => rfl
  | line content =>
      cases hasTime with
      | false => rfl
      | true =>
          exact List.append_assoc world.journal [.wrote child request] [.received child content]
  | _ => cases hasTime <;> rfl

end World

namespace Site

/-! ### Moves -/

/-- A sandbox whose launch the system has refused. -/
def refused (site : Site) (text : String) : Site :=
  ⟨{ site.world with launches := site.world.launches.tail }.record
      (.launched none site.sandbox.interpreter
        (site.world.nextLaunch.measures site.sandbox.memoryLimit)),
    { site.sandbox with
      isClosed := false
      attempt := .settled (.error (.launchRefused text)) }⟩

/-- A sandbox after a request: the child has been asked, and it is discarded unless its answer is
a result. -/
def served (site : Site) (child : Nat) (payload : List (String × Json)) (hasTime : Bool) : Site :=
  match site.verdict child payload hasTime with
  | .result _ => site.asked child payload hasTime
  | .lost _ => (site.asked child payload hasTime).discard child

theorem session_served (site : Site) (child : Nat) (payload : List (String × Json))
    (hasTime : Bool) :
    (site.served child payload hasTime).sandbox.session = site.sandbox.session := by
  rw [served, discard]
  split
  · rfl
  · simp only []
    split <;> rfl

/-- A request uses up one number. -/
theorem nextId_served (site : Site) (child : Nat) (payload : List (String × Json))
    (hasTime : Bool) :
    (site.served child payload hasTime).sandbox.nextId = site.sandbox.nextId + 1 := by
  rw [served, discard]
  split
  · rfl
  · simp only []
    split <;> rfl

theorem isClosed_served (site : Site) (child : Nat) (payload : List (String × Json))
    (hasTime : Bool) :
    (site.served child payload hasTime).sandbox.isClosed = site.sandbox.isClosed := by
  rw [served, discard]
  split
  · rfl
  · simp only []
    split <;> rfl

/-- A child that is heard does not open a sandbox, and does not close it. -/
theorem isClosed_settle (site : Site) : site.settle.sandbox.isClosed = site.sandbox.isClosed := by
  rw [settle]
  split
  · simp only []
    split <;> rfl
  · rfl

theorem isClosed_close (site : Site) : site.close.sandbox.isClosed = true := by
  rw [close]
  simp only []
  split <;> rfl

/-- A move at which nothing is asked, on the way to another child. -/
inductive Start : Site → Site → Prop where
  | refuse {site : Site} {text : String} (idle : (site.isReady || site.isStarting) = false)
      (refusal : site.world.nextLaunch.refusal = some text) : Start site (site.refused text)
  | launch {site : Site} (idle : (site.isReady || site.isStarting) = false)
      (accepted : site.world.nextLaunch.refusal = none) : Start site site.launched
  | settle (site : Site) : Start site site.settle

/-- A move of a sandbox. -/
inductive Move : Site → Site → Prop where
  | start {before after : Site} (start : Start before after) : Move before after
  | serve {site : Site} {child : Nat} (isReady : site.isReady = true)
      (current : site.sandbox.current = some child) (payload : List (String × Json))
      (hasTime : Bool) : Move site (site.served child payload hasTime)
  | close (site : Site) : Move site site.close
  | exit (site : Site) : Move site site.exit

/-- Any number of moves at which nothing is asked. -/
abbrev Starts : Site → Site → Prop := Relation.ReflTransGen Start

/-- Any number of moves. -/
abbrev Path : Site → Site → Prop := Relation.ReflTransGen Move

theorem Starts.path {before after : Site} (starts : Starts before after) : Path before after :=
  Relation.ReflTransGen.mono (fun _ _ => Move.start) before after starts

section Path

variable (site : Site)

theorem starts_begin : Starts site site.begin := by
  cases busy : site.isReady || site.isStarting with
  | true =>
      rw [begin_of_busy busy]
  | false =>
      cases refusal : site.world.nextLaunch.refusal with
      | some text =>
          have begun : site.begin = site.refused text := by
            rw [begin, busy]
            simp only [Bool.false_eq_true, if_false, World.launch_refused _ _ refusal, refused]
          rw [begun]
          exact .single (.refuse busy refusal)
      | none =>
          have launched : Starts site site.launched := .single (.launch busy refusal)
          rcases begin_of_accepted busy refusal with begun | begun
          · rw [begun]
            exact launched
          · rw [begun]
            exact launched.tail (.settle _)

theorem starts_start : Starts site site.start.2 := by
  rw [start]
  split
  · exact .refl
  · exact (starts_begin site).tail (.settle _)

theorem starts_waitReady : Starts site site.waitReady.2 := by
  have started := starts_start site
  rw [waitReady]
  by_cases needed : (site.isStarting || site.willRestart) = true
  · simp only [needed, if_true]
    split
    · next fault after outcome => rwa [outcome] at started
    · next after outcome => rwa [outcome] at started
  · simp only [needed]
    exact .refl

/-- A request to a sandbox that is ready. -/
theorem request_eq_served {ready : Site} {child : Nat} (payload : List (String × Json))
    (hasTime : Bool) (waited : site.waitReady = (.ok (), ready))
    (current : ready.sandbox.current = some child) :
    site.request payload hasTime =
      (match ready.verdict child payload hasTime with
        | .result result => result
        | .lost fault => .error fault, ready.served child payload hasTime) := by
  rw [request_of_ready payload hasTime waited current, served]
  cases ready.verdict child payload hasTime <;> rfl

/-- Whatever comes of a request, it starts with a wait for a child, and at most one question to the
child follows. -/
theorem request_cases (payload : List (String × Json)) (hasTime : Bool) :
    ∃ ready, Starts site ready ∧
      ((site.request payload hasTime).2 = ready ∨
        ∃ child, ready.isReady = true ∧ ready.sandbox.current = some child ∧
          (site.request payload hasTime).2 = ready.served child payload hasTime) := by
  have waited := starts_waitReady site
  cases outcome : site.waitReady with
  | mk result ready =>
      rw [outcome] at waited
      cases result with
      | error fault =>
          rw [request_of_fault payload hasTime outcome]
          exact ⟨ready, waited, .inl rfl⟩
      | ok _ =>
          have isReady := isReady_of_waitReady outcome
          rcases exists_current isReady with ⟨child, -, current, -⟩
          rw [request_eq_served site payload hasTime outcome current]
          exact ⟨ready, waited, .inr ⟨child, isReady, current, rfl⟩⟩

theorem path_request (payload : List (String × Json)) (hasTime : Bool) :
    Path site (site.request payload hasTime).2 := by
  rcases request_cases site payload hasTime with
    ⟨ready, waited, after | ⟨child, isReady, current, after⟩⟩
  · rw [after]
    exact waited.path
  · rw [after]
    exact waited.path.tail (.serve isReady current payload hasTime)

theorem path_run (code timeout : Json) : Path site (site.run code timeout).2 := by
  rw [run]
  cases hasGrace timeout with
  | error fault => exact .refl
  | ok hasTime =>
      have asked := path_request site [("op", .str "run"), ("code", code), ("timeout", timeout)]
        hasTime
      simp only []
      split
      all_goals
        next outcome =>
          rw [outcome] at asked
          exact asked

/-- Every errand is a path of moves. -/
theorem path_perform (errand : Errand) : Path site (site.perform errand).2 := by
  cases errand with
  | start => exact (starts_start site).path
  | waitReady => exact (starts_waitReady site).path
  | load name source => exact path_request site _ _
  | call function arguments => exact path_request site _ _
  | run code timeout => exact path_run site code timeout
  | ping =>
      have asked := path_request site [("op", .str "ping")] true
      exact asked
  | close => exact .single (.close site)

end Path

/-! ### What moves write -/

section Journal

variable {site : Site}

/-- While no start is in flight nothing is heard.  The child of one that is gets taken into use,
left alone, or killed. -/
theorem settle_cases (valid : site.Valid) :
    site.settle = site ∨ ∃ child, site.sandbox.attempt = .inFlight child ∧
      (site.settle = site.taken child ∨
        ∃ fault,
          site.settle =
              { site with sandbox := { site.sandbox with attempt := .settled (.error fault) } } ∨
            site.settle =
                ⟨site.world.kill child, { site.sandbox with attempt := .settled (.error fault) }⟩ ∧
              site.settle.world.journal = site.world.journal ++ [.killed child]) := by
  rw [settle]
  cases inFlight : site.sandbox.attempt with
  | inFlight child =>
      have killed := World.journal_kill (valid.running child inFlight)
      refine .inr ⟨child, rfl, ?_⟩
      simp only []
      split
      · exact .inl rfl
      · exact .inr ⟨_, .inl rfl⟩
      · exact .inr ⟨_, .inr ⟨rfl, killed⟩⟩
  | _ => exact .inl rfl

/-- A request is written with its number, and at most one line is read for it.  The child is killed
unless it has a result. -/
theorem journal_served {child : Nat} (isReady : site.isReady = true)
    (current : site.sandbox.current = some child) (payload : List (String × Json))
    (hasTime : Bool) :
    (site.served child payload hasTime).world.journal =
      site.world.journal ++
        .wrote child (.obj (("id", .int site.sandbox.nextId) :: payload)) ::
          ((site.world.exchange child (.int site.sandbox.nextId)
              (.obj (("id", .int site.sandbox.nextId) :: payload)) hasTime).1.received child ++
            (site.verdict child payload hasTime).ended child) := by
  rcases exists_current isReady with ⟨other, partner, inUse, known, runs⟩
  cases current.symm.trans inUse
  have asked := World.journal_exchange (.int site.sandbox.nextId)
    (.obj (("id", .int site.sandbox.nextId) :: payload)) hasTime known
  have running : (site.asked child payload hasTime).world.isRunning child = true := by
    rw [Site.asked, World.isRunning_exchange, World.isRunning, known]
    exact runs
  rw [served]
  cases site.verdict child payload hasTime with
  | result result =>
      rw [Verdict.ended, List.append_nil]
      exact asked
  | lost fault =>
      have killed := World.journal_kill running
      rw [discard, killed, Site.asked, asked, List.append_assoc]
      rfl

end Journal

/-! ### What moves preserve -/

section Preserve

variable {before after : Site} {child : Nat}

theorem leads_served {site : Site} (valid : site.Valid)
    (current : site.sandbox.current = some child) (payload : List (String × Json))
    (hasTime : Bool) :
    Leads site (site.served child payload hasTime) := by
  have asked := leads_asked valid current payload hasTime
  rw [served]
  cases site.verdict child payload hasTime with
  | result result => exact asked
  | lost fault => exact asked.trans (leads_discard asked.valid current)

theorem Move.leads (move : Move before after) (valid : before.Valid) : Leads before after := by
  cases move with
  | start start =>
      cases start with
      | refuse idle refusal => exact .ofSandbox valid rfl rfl rfl rfl (fun _ => id) nofun
      | launch idle accepted => exact leads_launched valid
      | settle => exact leads_settle valid
  | serve isReady current payload hasTime => exact leads_served valid current payload hasTime
  | close => exact leads_close valid
  | exit => exact leads_exit valid

theorem Path.leads (path : Path before after) (valid : before.Valid) : Leads before after := by
  induction path with
  | refl => exact .refl valid
  | tail path move ih => exact ih.trans (move.leads ih.valid)

/-- A child that is discarded is given up for good. -/
theorem not_owns_discard {site : Site} (valid : site.Valid)
    (current : site.sandbox.current = some child) : ¬ (site.discard child).sandbox.Owns child := by
  rw [discard, if_pos current]
  rintro (inUse | inFlight)
  · cases inUse
  · exact valid.different child inFlight current

theorem not_owns_served {site : Site} (valid : site.Valid)
    (current : site.sandbox.current = some child) {payload : List (String × Json)} {hasTime : Bool}
    {fault : Fault} (lost : site.verdict child payload hasTime = .lost fault) :
    ¬ (site.served child payload hasTime).sandbox.Owns child := by
  rw [served, lost]
  exact not_owns_discard (leads_asked valid current payload hasTime).valid current

/-- A closed sandbox deals with no child. -/
theorem not_owns_close (site : Site) (child : Nat) : ¬ site.close.sandbox.Owns child := by
  have closed : site.close.sandbox.current = none ∧ site.close.sandbox.attempt =
      if site.isStarting then .cancelled else site.sandbox.attempt := by
    rw [close]
    cases site.sandbox.current <;> exact ⟨rfl, rfl⟩
  rintro (inUse | inFlight)
  · rw [closed.1] at inUse
    cases inUse
  · rw [closed.2] at inFlight
    cases attempt : site.sandbox.attempt <;>
      simp [isStarting, attempt, Attempt.isInFlight] at inFlight

theorem sandbox_exit (site : Site) : site.exit.sandbox = site.sandbox := by
  rw [exit]
  cases site.sandbox.current <;> rfl

/-- A child in use stays in use, in the same session, until the sandbox gives it up for good. -/
theorem Move.stays (move : Move before after) (valid : before.Valid)
    (current : before.sandbox.current = some child) (owns : after.sandbox.Owns child) :
    after.sandbox.current = some child ∧ after.sandbox.session = before.sandbox.session := by
  cases move with
  | start start =>
      cases start with
      | refuse idle refusal => exact ⟨current, rfl⟩
      | launch idle accepted => exact ⟨current, rfl⟩
      | settle =>
          rcases settle_cases valid with
            same | ⟨other, inFlight, taken | ⟨fault, left | ⟨killed, -⟩⟩⟩
          · rw [same]
            exact ⟨current, rfl⟩
          · rw [taken] at owns
            rcases owns with inUse | another
            · exact absurd (Option.some.inj inUse) (valid.ne_current current inFlight)
            · cases another
          · rw [left]
            exact ⟨current, rfl⟩
          · rw [killed]
            exact ⟨current, rfl⟩
  | @serve other isReady inUse payload hasTime =>
      cases current.symm.trans inUse
      cases verdict : before.verdict child payload hasTime with
      | result result =>
          rw [served, verdict]
          exact ⟨current, rfl⟩
      | lost fault => exact absurd owns (not_owns_served valid current verdict)
  | close => exact absurd owns (not_owns_close before child)
  | exit =>
      rw [sandbox_exit]
      exact ⟨current, rfl⟩

theorem Path.stays (path : Path before after) (valid : before.Valid)
    (current : before.sandbox.current = some child) (owns : after.sandbox.Owns child) :
    after.sandbox.current = some child ∧ after.sandbox.session = before.sandbox.session := by
  have below : child < before.world.children.length := valid.below child (.inl current)
  induction path with
  | refl => exact ⟨current, rfl⟩
  | @tail between last path move ih =>
      have leads := Path.leads path valid
      have grows := leads.grows
      have stillOwns : between.sandbox.Owns child := by
        rcases (move.leads leads.valid).owned child owns with old | new
        · exact old
        · omega
      rcases ih stillOwns with ⟨inUse, session⟩
      rcases move.stays leads.valid inUse owns with ⟨lastInUse, lastSession⟩
      exact ⟨lastInUse, lastSession.trans session⟩

/-- What has been written to the journal stays there. -/
theorem Move.extends (move : Move before after) (valid : before.Valid) :
    Extends before.world.journal after.world.journal := by
  cases move with
  | start start =>
      cases start with
      | refuse idle refusal => exact .append (by simp)
      | launch idle accepted => exact .append (by simp)
      | settle =>
          rcases settle_cases valid with same | ⟨child, -, taken | ⟨fault, left | ⟨-, killed⟩⟩⟩
          · rw [same]
            exact .refl _
          · rw [taken]
            exact .refl _
          · rw [left]
            exact .refl _
          · rw [killed]
            exact .append (by simp)
  | serve isReady current payload hasTime =>
      rw [journal_served isReady current]
      exact .append (by simp)
  | close =>
      rw [Site.close]
      cases before.sandbox.current with
      | none => exact .refl _
      | some child =>
          rcases World.journal_shutDown before.world child with closed | killed
          · rw [closed]
            exact .append (by simp)
          · rw [killed]
            exact .append (by simp)
  | exit =>
      rw [Site.exit]
      cases before.sandbox.current <;> exact .refl _

theorem Path.extends (path : Path before after) (valid : before.Valid) :
    Extends before.world.journal after.world.journal := by
  induction path with
  | refl => exact .refl _
  | tail path move ih => exact ih.trans (move.extends (Path.leads path valid).valid)

end Preserve

end Site
end Sandbox
end AnswerKey
