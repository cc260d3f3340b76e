import AnswerKey.Proofs.Sandbox.Moves

namespace AnswerKey
namespace Sandbox

/-!
The order of a journal.

A sandbox writes one request at a time and reads one line for it.  A child that has not answered
as it should is killed, so that of every child that may still be asked as many lines have been
read as requests were written to it.  `Site.Orderly` says so of one state, together with what the
journal tells about numbers and killed children; every move preserves it, and so it holds at the
end of every history (`Site.orderly_of_reachable`).
-/

namespace Event

/-- The number of a request that is written. -/
def number? : Event → Option Int
  | wrote _ (.obj (("id", .int number) :: _)) => some number
  | _ => none

/-- Whether a request is written to a child. -/
def isWrite (child : Nat) : Event → Bool
  | wrote other _ => other == child
  | _ => false

/-- Whether a line is read of a child. -/
def isRead (child : Nat) : Event → Bool
  | received other _ => other == child
  | _ => false

/-- Whether nothing is written and nothing is read. -/
def isQuiet : Event → Bool
  | wrote _ _ => false
  | received _ _ => false
  | _ => true

/-- What the order of two events tells: requests are numbered in order, and nothing is written to
a child that has been killed. -/
def Precedes (earlier later : Event) : Prop :=
  (∀ first ∈ earlier.number?, ∀ second ∈ later.number?, first < second) ∧
    ∀ child request, earlier = .killed child → later ≠ .wrote child request

/-- Any event may come before one that is no request. -/
theorem precedes_of_ne_wrote (earlier : Event) {later : Event}
    (other : ∀ child request, later ≠ .wrote child request) : Precedes earlier later := by
  constructor
  · intro first _ second member
    cases later with
    | wrote child request => exact absurd rfl (other child request)
    | _ => cases member
  · exact fun child request _ => other child request

theorem eq_wrote_of_number? {event : Event} {number : Int} (told : event.number? = some number) :
    ∃ child payload, event = .wrote child (.obj (("id", .int number) :: payload)) := by
  unfold number? at told
  split at told
  · cases told
    exact ⟨_, _, rfl⟩
  · cases told

/-- A quiet event is no part of an exchange. -/
theorem no_exchange_of_quiet {event : Event} (quiet : event.isQuiet = true) (child : Nat) :
    event.isWrite child = false ∧ event.isRead child = false := by
  cases event with
  | wrote other request => cases quiet
  | received other content => cases quiet
  | _ => exact ⟨rfl, rfl⟩

/-- An event that does not tell of a child is no part of an exchange with it. -/
theorem no_exchange_of_foreign {event : Event} {child : Nat} (foreign : child ∉ event.child?) :
    event.isWrite child = false ∧ event.isRead child = false := by
  cases event with
  | wrote other request =>
      exact ⟨beq_eq_false_iff_ne.mpr fun same => foreign (congrArg some same), rfl⟩
  | received other content =>
      exact ⟨rfl, beq_eq_false_iff_ne.mpr fun same => foreign (congrArg some same)⟩
  | _ => exact ⟨rfl, rfl⟩

/-- Events that are no part of an exchange with a child do not count. -/
theorem count_eq_zero {events : List Event} {child : Nat}
    (apart : ∀ event ∈ events, event.isWrite child = false ∧ event.isRead child = false) :
    events.countP (isWrite child) = 0 ∧ events.countP (isRead child) = 0 := by
  rw [List.countP_eq_zero, List.countP_eq_zero]
  exact ⟨fun event member => Bool.not_eq_true _ ▸ (apart event member).1,
    fun event member => Bool.not_eq_true _ ▸ (apart event member).2⟩

end Event

namespace World

/-- How many requests have been written to a child. -/
def writes (world : World) (child : Nat) : Nat :=
  world.journal.countP (Event.isWrite child)

/-- How many lines have been read of a child. -/
def reads (world : World) (child : Nat) : Nat :=
  world.journal.countP (Event.isRead child)

end World

namespace Site

/-! ### States in order -/

/-- A sandbox whose requests and responses are in step. -/
structure Orderly (site : Site) : Prop where
  valid : site.Valid
  /-- The journal tells of no child that does not exist. -/
  known : ∀ event ∈ site.world.journal, ∀ child ∈ event.child?, child < site.world.children.length
  balanced : ∀ child, site.sandbox.Owns child → site.world.writes child = site.world.reads child
  numbered : ∀ child request, .wrote child request ∈ site.world.journal →
    ∃ (number : Int) (payload : List (String × Json)),
      request = .obj (("id", .int number) :: payload) ∧ number < site.sandbox.nextId
  ordered : site.world.journal.Pairwise Event.Precedes
  dead : ∀ child, .killed child ∈ site.world.journal → ¬ site.sandbox.Owns child

section Step

variable {before after : Site} {events : List Event}

/-- A child that does not exist yet has not been asked anything. -/
theorem Orderly.count_of_new (orderly : Orderly before) {child : Nat}
    (new : before.world.children.length ≤ child) :
    before.world.writes child = 0 ∧ before.world.reads child = 0 := by
  apply Event.count_eq_zero
  intro event member
  apply Event.no_exchange_of_foreign
  intro told
  have below := orderly.known event member child told
  omega

/-- An event before a state at which nothing is asked and no child is killed that is still in
use. -/
structure Allows (after : Site) (event : Event) : Prop where
  quiet : event.isQuiet = true
  known : ∀ child ∈ event.child?, child < after.world.children.length
  dead : ∀ child, event = .killed child → ¬ after.sandbox.Owns child

theorem Allows.killed {child : Nat} (below : child < after.world.children.length)
    (given_up : ¬ after.sandbox.Owns child) : after.Allows (.killed child) where
  quiet := rfl
  known other told := by
    cases told
    exact below
  dead other same := by
    cases same
    exact given_up

/-- A step at which nothing is asked keeps a sandbox in order. -/
theorem Orderly.quiet (orderly : Orderly before) (leads : Leads before after)
    (written : after.world.journal = before.world.journal ++ events)
    (allowed : ∀ event ∈ events, after.Allows event)
    (nextId : after.sandbox.nextId = before.sandbox.nextId) : Orderly after where
  valid := leads.valid
  known := by
    rw [written]
    intro event member child told
    rcases List.mem_append.mp member with old | new
    · exact Nat.lt_of_lt_of_le (orderly.known event old child told) leads.grows
    · exact (allowed event new).known child told
  balanced := by
    intro child owns
    have silent := Event.count_eq_zero fun event member =>
      Event.no_exchange_of_quiet (allowed event member).quiet child
    rw [World.writes, World.reads, written, List.countP_append, List.countP_append, silent.1,
      silent.2]
    rcases leads.owned child owns with old | new
    · exact congrArg (· + 0) (orderly.balanced child old)
    · have fresh := orderly.count_of_new new
      exact congrArg (· + 0) (fresh.1.trans fresh.2.symm)
  numbered := by
    rw [written, nextId]
    intro child request member
    rcases List.mem_append.mp member with old | new
    · exact orderly.numbered child request old
    · cases (allowed _ new).quiet
  ordered := by
    rw [written, List.pairwise_append]
    have silent : ∀ event ∈ events, ∀ earlier : Event, earlier.Precedes event := by
      intro event member earlier
      apply Event.precedes_of_ne_wrote
      rintro child request rfl
      cases (allowed _ member).quiet
    refine ⟨orderly.ordered, ?_, fun earlier _ event member => silent event member earlier⟩
    exact List.pairwise_of_forall_mem_list fun earlier _ event member => silent event member earlier
  dead := by
    rw [written]
    intro child member owns
    rcases List.mem_append.mp member with old | new
    · rcases leads.owned child owns with before | new
      · exact orderly.dead child old before
      · have below := orderly.known _ old child rfl
        omega
    · exact (allowed _ new).dead child rfl owns

/-- What a request to a child brings about: lines are read of it, and it is killed. -/
def Follows (child : Nat) (events : List Event) : Prop :=
  ∀ event ∈ events, (∃ content, event = .received child content) ∨ event = .killed child

theorem Follows.child? {child : Nat} (follows : Follows child events) (request : Json) :
    ∀ event ∈ Event.wrote child request :: events, event.child? = some child := by
  intro event member
  rcases List.mem_cons.mp member with rfl | later
  · rfl
  · rcases follows event later with ⟨content, rfl⟩ | rfl <;> rfl

theorem Follows.ne_wrote {child : Nat} (follows : Follows child events) :
    ∀ event ∈ events, ∀ other request, event ≠ .wrote other request := by
  intro event member other request same
  rcases follows event member with ⟨content, read⟩ | killed
  · cases same.symm.trans read
  · cases same.symm.trans killed

/-- A request and what comes of it keep a sandbox in order, if the child is given up unless a line
has been read for the request, and that is all. -/
theorem Orderly.exchange {child : Nat} {payload : List (String × Json)} (orderly : Orderly before)
    (leads : Leads before after) (owns : before.sandbox.Owns child)
    (written : after.world.journal = before.world.journal ++
      .wrote child (.obj (("id", .int before.sandbox.nextId) :: payload)) :: events)
    (nextId : after.sandbox.nextId = before.sandbox.nextId + 1) (follows : Follows child events)
    (answered : (∃ content, events = [.received child content]) ∨ ¬ after.sandbox.Owns child) :
    Orderly after where
  valid := leads.valid
  known := by
    rw [written]
    intro event member other told
    rcases List.mem_append.mp member with old | new
    · exact Nat.lt_of_lt_of_le (orderly.known event old other told) leads.grows
    · cases told.symm.trans (follows.child? _ event new)
      exact Nat.lt_of_lt_of_le (orderly.valid.below child owns) leads.grows
  balanced := by
    intro other owned
    rw [World.writes, World.reads, written, List.countP_append, List.countP_append]
    by_cases same : other = child
    · rw [same] at owned ⊢
      rcases answered with ⟨content, rfl⟩ | given_up
      · have before := orderly.balanced child owns
        rw [World.writes, World.reads] at before
        simp [Event.isWrite, Event.isRead, before]
      · exact absurd owned given_up
    · have apart : ∀ event ∈ Event.wrote child
          (.obj (("id", .int before.sandbox.nextId) :: payload)) :: events,
            event.isWrite other = false ∧ event.isRead other = false := by
        intro event member
        apply Event.no_exchange_of_foreign
        rw [follows.child? _ event member]
        exact fun told => same (Option.some.inj told).symm
      rw [(Event.count_eq_zero apart).1, (Event.count_eq_zero apart).2]
      rcases leads.owned other owned with old | new
      · exact congrArg (· + 0) (orderly.balanced other old)
      · have fresh := orderly.count_of_new new
        exact congrArg (· + 0) (fresh.1.trans fresh.2.symm)
  numbered := by
    rw [written, nextId]
    intro other request member
    rcases List.mem_append.mp member with old | new
    · rcases orderly.numbered other request old with ⟨number, payload, same, below⟩
      exact ⟨number, payload, same, by omega⟩
    · rcases List.mem_cons.mp new with same | later
      · cases same
        exact ⟨_, _, rfl, by omega⟩
      · exact absurd rfl (follows.ne_wrote _ later other request)
  ordered := by
    have silent : ∀ event ∈ events, ∀ earlier : Event, earlier.Precedes event :=
      fun event member earlier => Event.precedes_of_ne_wrote earlier (follows.ne_wrote event member)
    rw [written, List.pairwise_append, List.pairwise_cons]
    refine ⟨orderly.ordered, ⟨fun event member => silent event member _,
      List.pairwise_of_forall_mem_list fun earlier _ event member => silent event member earlier⟩,
      ?_⟩
    intro earlier member event new
    rcases List.mem_cons.mp new with rfl | later
    · constructor
      · intro first told second same
        cases same
        rcases Event.eq_wrote_of_number? told with ⟨other, others, rfl⟩
        rcases orderly.numbered other _ member with ⟨number, payload, same, below⟩
        cases same
        exact below
      · rintro other request rfl same
        cases same
        exact orderly.dead child member owns
    · exact silent event later earlier
  dead := by
    rw [written]
    intro other member owned
    rcases List.mem_append.mp member with old | new
    · rcases leads.owned other owned with before | new
      · exact orderly.dead other old before
      · have below := orderly.known _ old other rfl
        omega
    · rcases List.mem_cons.mp new with same | later
      · cases same
      · cases follows.child? (.null) _ (List.mem_cons_of_mem _ later)
        rcases answered with ⟨content, rfl⟩ | given_up
        · cases List.mem_singleton.mp later
        · exact given_up owned

/-- A result is read off a line. -/
theorem received_of_result {id child : Nat} {answer : Answer} {result : Except Fault Json}
    (judged : Verdict.ofAnswer id answer = .result result) :
    ∃ content, answer.received child = [.received child content] := by
  cases answer with
  | line content => exact ⟨content, rfl⟩
  | _ => cases judged

/-- After a request at most one line is read of the child, and it may be killed. -/
theorem follows_answer (child : Nat) (answer : Answer) (verdict : Verdict) :
    Follows child (answer.received child ++ verdict.ended child) := by
  intro event member
  rcases List.mem_append.mp member with line | ended
  · cases answer with
    | line content => exact .inl ⟨content, List.mem_singleton.mp line⟩
    | _ => cases line
  · cases verdict with
    | result result => cases ended
    | lost fault => exact .inr (List.mem_singleton.mp ended)

theorem Orderly.served (orderly : Orderly before) {child : Nat} (isReady : before.isReady = true)
    (current : before.sandbox.current = some child) (payload : List (String × Json))
    (hasTime : Bool) : Orderly (before.served child payload hasTime) := by
  have leads := leads_served orderly.valid current payload hasTime
  have written := journal_served isReady current payload hasTime
  have nextId := nextId_served before child payload hasTime
  refine orderly.exchange leads (.inl current) written nextId (follows_answer _ _ _) ?_
  cases verdict : before.verdict child payload hasTime with
  | result result =>
      rcases received_of_result verdict with ⟨content, read⟩
      exact .inl ⟨content, by rw [read]; rfl⟩
  | lost fault => exact .inr (not_owns_served orderly.valid current verdict)

/-- The child whose start was in flight is given up when it is killed. -/
theorem Orderly.settle (orderly : Orderly before) : Orderly before.settle := by
  have leads := leads_settle orderly.valid
  rcases settle_cases orderly.valid with
    same | ⟨child, inFlight, taken | ⟨fault, left | ⟨killed, journal⟩⟩⟩
  · rwa [same]
  · rw [taken] at leads ⊢
    exact orderly.quiet leads (List.append_nil _).symm (List.forall_mem_nil _) rfl
  · rw [left] at leads ⊢
    exact orderly.quiet leads (List.append_nil _).symm (List.forall_mem_nil _) rfl
  · have below := Nat.lt_of_lt_of_le (orderly.valid.below child (.inr inFlight)) leads.grows
    have given_up : ¬ before.settle.sandbox.Owns child := by
      rw [killed]
      rintro (inUse | another)
      · exact orderly.valid.different child inFlight inUse
      · cases another
    refine orderly.quiet leads journal ?_ (by rw [killed])
    intro event member
    rw [List.mem_singleton.mp member]
    exact .killed below given_up

theorem Orderly.close (orderly : Orderly before) : Orderly before.close := by
  have leads := leads_close orderly.valid
  have given_up := not_owns_close before
  have nextId : before.close.sandbox.nextId = before.sandbox.nextId := by
    rw [Site.close]
    split <;> rfl
  cases current : before.sandbox.current with
  | none =>
      have journal : before.close.world.journal = before.world.journal := by
        rw [Site.close, current]
      exact orderly.quiet leads (journal.trans (List.append_nil _).symm)
        (List.forall_mem_nil _) nextId
  | some child =>
      have below := Nat.lt_of_lt_of_le (orderly.valid.below child (.inl current)) leads.grows
      have closed : before.close.Allows (.closedInput child) := by
        refine ⟨rfl, fun other told => ?_, fun other same => ?_⟩
        · cases told
          exact below
        · cases same
      have journal : before.close.world = before.world.shutDown child := by
        rw [Site.close, current]
      rcases World.journal_shutDown before.world child with shut | killed
      · refine orderly.quiet leads ((congrArg World.journal journal).trans shut) ?_ nextId
        rw [List.forall_mem_singleton]
        exact closed
      · refine orderly.quiet leads ((congrArg World.journal journal).trans killed) ?_ nextId
        rw [List.forall_mem_cons, List.forall_mem_singleton]
        exact ⟨closed, .killed below (given_up child)⟩

/-- Every move keeps a sandbox in order. -/
theorem Move.orderly (move : Move before after) (orderly : Orderly before) : Orderly after := by
  have leads := move.leads orderly.valid
  cases move with
  | start start =>
      cases start with
      | refuse idle refusal =>
          refine orderly.quiet leads rfl ?_ rfl
          rw [List.forall_mem_singleton]
          refine ⟨rfl, fun child told => ?_, fun child same => ?_⟩
          · cases told
          · cases same
      | launch idle accepted =>
          have grown : before.launched.world.children.length = before.world.children.length + 1 :=
            List.length_append
          refine orderly.quiet leads rfl ?_ rfl
          rw [List.forall_mem_singleton]
          refine ⟨rfl, fun child told => ?_, fun child same => ?_⟩
          · cases told
            rw [grown]
            exact Nat.lt_succ_self _
          · cases same
      | settle => exact orderly.settle
  | serve isReady current payload hasTime => exact orderly.served isReady current payload hasTime
  | close => exact orderly.close
  | exit =>
      have journal : before.exit.world.journal = before.world.journal := by
        rw [Site.exit]
        split <;> rfl
      have nextId : before.exit.sandbox.nextId = before.sandbox.nextId := by rw [sandbox_exit]
      exact orderly.quiet leads (journal.trans (List.append_nil _).symm)
        (List.forall_mem_nil _) nextId

theorem Path.orderly (path : Path before after) (orderly : Orderly before) : Orderly after := by
  induction path with
  | refl => exact orderly
  | tail path move ih => exact move.orderly ih

end Step

/-! ### Histories -/

/-- A sandbox for which it is laid down how the next launches and replies go. -/
def expecting (site : Site) (launches : List Launch) (replies : List Reply) : Site :=
  { site with world.launches := launches, world.replies := replies }

/-- The states at the ends of all histories of a sandbox.  How the next launches and replies go may
be laid down anew at any time. -/
inductive Reachable : Site → Prop where
  | create (interpreter : Option String) (startupTimeout : Seconds) (memoryLimit : Option Int) :
      Reachable ⟨.empty, .create interpreter startupTimeout memoryLimit⟩
  | expecting {site : Site} (reached : Reachable site) (launches : List Launch)
      (replies : List Reply) : Reachable (site.expecting launches replies)
  | begin {site : Site} (reached : Reachable site) : Reachable site.begin
  | perform {site : Site} (reached : Reachable site) (errand : Errand) :
      Reachable (site.perform errand).2
  | exit {site : Site} (reached : Reachable site) : Reachable site.exit

/-- Whatever has happened, requests and responses are in step. -/
theorem orderly_of_reachable {site : Site} (reached : Reachable site) : Orderly site := by
  induction reached with
  | create interpreter startupTimeout memoryLimit =>
      have none := not_owns_create interpreter startupTimeout memoryLimit
      exact {
        valid := ⟨fun child owns => absurd owns (none child),
          fun child inFlight => absurd (.inr inFlight) (none child),
          fun child inFlight => absurd (.inr inFlight) (none child)⟩
        known := nofun
        balanced := fun child owns => absurd owns (none child)
        numbered := nofun
        ordered := .nil
        dead := nofun }
  | expecting reached launches replies ih =>
      have valid := ih.valid
      exact {
        valid := ⟨valid.below, valid.running, valid.different⟩
        known := ih.known
        balanced := ih.balanced
        numbered := ih.numbered
        ordered := ih.ordered
        dead := ih.dead }
  | begin reached ih => exact (starts_begin _).path.orderly ih
  | perform reached errand ih => exact (path_perform _ errand).orderly ih
  | exit reached ih => exact (Move.exit _).orderly ih

end Site
end Sandbox
end AnswerKey
