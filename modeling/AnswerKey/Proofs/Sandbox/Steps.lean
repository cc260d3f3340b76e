import AnswerKey.Host
import AnswerKey.Proofs.Sandbox.Children

namespace AnswerKey
namespace Sandbox

/-!
What the steps of one sandbox preserve.

A sandbox owns the child in use and the child whose start is in flight, and it deals with no
others.  As long as a session lasts, the child in use stays the same and keeps the helpers it has
loaded; with every other child another session begins.  `Site.Leads` collects what holds between
the states before and after any step, and is transitive, so that it holds of whole histories.
-/

/-- The children that a sandbox deals with. -/
def Owns (sandbox : Sandbox) (child : Nat) : Prop :=
  sandbox.current = some child ∨ sandbox.attempt = .inFlight child

/-- A new sandbox deals with no child. -/
theorem not_owns_create (interpreter : Option String) (startupTimeout : Seconds)
    (memoryLimit : Option Int) (child : Nat) :
    ¬ (create interpreter startupTimeout memoryLimit).Owns child := by
  rintro (current | inFlight)
  · cases current
  · cases inFlight

/-- A reply to a request with a given number that does not pretend to come from the worker: unless
the worker answers, no result is to be read off it. -/
def Reply.IsHonest (id : Nat) : Reply → Prop
  | .value _ => False
  | .line text => ∀ value,
      Verdict.ofAnswer id (if text.isEmpty then .endOfStream else .line (readLine text)) ≠
        .result (.ok value)
  | _ => True

/-- A response that is not marked as good is a refusal. -/
theorem Verdict.ofFields_eq_refused (fields : List (String × Json))
    (bad : ((Json.lookup? "ok" fields).getD .null).isTruthy = false) :
    ∃ reason, Verdict.ofFields fields = .error (.refused reason) := by
  rw [Verdict.ofFields]
  simp only [bad, Bool.false_eq_true, if_false]
  split
  · exact ⟨_, rfl⟩
  · exact ⟨_, rfl⟩

/-- Of an honest reply that does not come from the worker no result is read off. -/
theorem Reply.IsHonest.no_result {id : Nat} {reply : Reply} (honest : reply.IsHonest id)
    (other : reply ≠ .worker) (child : Child) (request value : Json) :
    Verdict.ofAnswer id (child.answer (.int id) request reply).1 ≠ .result (.ok value) := by
  cases reply with
  | worker => exact absurd rfl other
  | value value => exact honest.elim
  | line text => exact honest value
  | refusal error =>
      have number : Verdict.isId id (.int id) = true := beq_self_eq_true _
      rcases Verdict.ofFields_eq_refused
          [("id", .int id), ("ok", .bool false), ("error", error)] rfl with ⟨reason, refused⟩
      intro same
      rw [Child.answer, Verdict.ofAnswer] at same
      simp only [Json.lookup?, if_true, Option.getD_some, number, refused] at same
      cases same
  | _ =>
      intro same
      cases same

namespace Site

/-- A sandbox whose children exist.  A child whose start is in flight is running and not in use. -/
structure Valid (site : Site) : Prop where
  below : ∀ child, site.sandbox.Owns child → child < site.world.children.length
  running : ∀ child, site.sandbox.attempt = .inFlight child → site.world.isRunning child = true
  different : ∀ child, site.sandbox.attempt = .inFlight child → site.sandbox.current ≠ some child

/-- The replies to the next requests are honest. -/
def Honest (site : Site) : Prop :=
  ∀ (count : Nat) reply, site.world.replies[count]? = some reply →
    reply.IsHonest (site.sandbox.nextId + count)

/-- What holds between the states before and after some steps of a sandbox. -/
structure Leads (before after : Site) : Prop where
  valid : after.Valid
  honest : before.Honest → after.Honest
  grows : before.world.children.length ≤ after.world.children.length
  /-- No other child is touched. -/
  others : ∀ child, child < before.world.children.length → ¬ before.sandbox.Owns child →
    after.world.children[child]? = before.world.children[child]?
  /-- Only new children are taken over. -/
  owned : ∀ child, after.sandbox.Owns child →
    before.sandbox.Owns child ∨ before.world.children.length ≤ child
  session : before.sandbox.session ≤ after.sandbox.session
  /-- Within a session the child in use stays, and so do its helpers. -/
  helpers : after.sandbox.session = before.sandbox.session →
    ∀ child, after.sandbox.current = some child → before.sandbox.current = some child ∧
      ∀ helper ∈ before.world.helpersOf child, helper ∈ after.world.helpersOf child

namespace Leads

theorem refl {site : Site} (valid : site.Valid) : Leads site site where
  valid := valid
  honest := id
  grows := Nat.le_refl _
  others _ _ _ := rfl
  owned _ := .inl
  session := Nat.le_refl _
  helpers _ _ current := ⟨current, fun _ => id⟩

theorem trans {first second third : Site} (before : Leads first second)
    (after : Leads second third) : Leads first third where
  valid := after.valid
  honest honest := after.honest (before.honest honest)
  grows := Nat.le_trans before.grows after.grows
  others := by
    intro child below foreign
    have stillForeign : ¬ second.sandbox.Owns child := by
      intro owns
      rcases before.owned child owns with old | new
      · exact foreign old
      · omega
    have grows := before.grows
    rw [after.others child (by omega) stillForeign, before.others child below foreign]
  owned := by
    intro child owns
    have grows := before.grows
    rcases after.owned child owns with old | new
    · exact before.owned child old
    · exact .inr (by omega)
  session := Nat.le_trans before.session after.session
  helpers := by
    intro same child current
    have first := before.session
    have second := after.session
    rcases after.helpers (by omega) child current with ⟨between, keptAfter⟩
    rcases before.helpers (by omega) child between with ⟨start, keptBefore⟩
    exact ⟨start, fun helper member => keptAfter helper (keptBefore helper member)⟩

end Leads

/-- What is laid down for requests stays honest as long as nothing is asked. -/
theorem Honest.ofEq {before after : Site} (honest : before.Honest)
    (replies : after.world.replies = before.world.replies)
    (nextId : after.sandbox.nextId = before.sandbox.nextId) : after.Honest := by
  intro count reply
  rw [replies, nextId]
  exact honest count reply

/-- The next reply is honest, also where nothing is laid down. -/
theorem Honest.nextReply {site : Site} (honest : site.Honest) :
    site.world.nextReply.IsHonest site.sandbox.nextId := by
  rw [World.nextReply]
  cases replies : site.world.replies with
  | nil => trivial
  | cons reply rest =>
      have first := honest 0 reply
      rw [replies] at first
      exact first rfl

/-! ### Single steps -/

section Step

variable {site after : Site}

/-- A step that leaves the world of the children alone and takes over no child. -/
theorem Leads.ofSandbox (valid : site.Valid)
    (children : after.world.children = site.world.children)
    (replies : after.world.replies = site.world.replies)
    (nextId : after.sandbox.nextId = site.sandbox.nextId)
    (session : after.sandbox.session = site.sandbox.session)
    (current : ∀ child, after.sandbox.current = some child → site.sandbox.current = some child)
    (attempt : ∀ child, after.sandbox.attempt = .inFlight child →
      site.sandbox.attempt = .inFlight child) : Leads site after := by
  have owned (child : Nat) (owns : after.sandbox.Owns child) : site.sandbox.Owns child :=
    owns.imp (current child) (attempt child)
  constructor
  · constructor
    · intro child owns
      rw [children]
      exact valid.below child (owned child owns)
    · intro child inFlight
      rw [World.isRunning, children]
      exact valid.running child (attempt child inFlight)
    · intro child inFlight inUse
      exact valid.different child (attempt child inFlight) (current child inUse)
  · exact fun honest => honest.ofEq replies nextId
  · exact Nat.le_of_eq (congrArg List.length children.symm)
  · intro child _ _
    rw [children]
  · exact fun child owns => .inl (owned child owns)
  · exact Nat.le_of_eq session.symm
  · intro _ child inUse
    refine ⟨current child inUse, ?_⟩
    rw [World.helpersOf, World.helpersOf, children]
    exact fun _ => id

/-- A step that deals with one child of the sandbox.  If the start of this child was in flight, it
is not any more. -/
theorem Leads.ofConcerns {child : Nat} (valid : site.Valid) (owns : site.sandbox.Owns child)
    (concerns : World.Concerns child site.world after.world)
    (session : after.sandbox.session = site.sandbox.session)
    (current : ∀ other, after.sandbox.current = some other → site.sandbox.current = some other)
    (attempt : ∀ other, after.sandbox.attempt = .inFlight other →
      site.sandbox.attempt = .inFlight other ∧ other ≠ child)
    (honest : site.Honest → after.Honest) : Leads site after := by
  have owned (other : Nat) (owns : after.sandbox.Owns other) : site.sandbox.Owns other :=
    owns.imp (current other) fun inFlight => (attempt other inFlight).1
  constructor
  · constructor
    · intro other owns
      rw [concerns.length]
      exact valid.below other (owned other owns)
    · intro other inFlight
      rcases attempt other inFlight with ⟨before, different⟩
      rw [World.isRunning, concerns.others other different]
      exact valid.running other before
    · intro other inFlight inUse
      exact valid.different other (attempt other inFlight).1 (current other inUse)
  · exact honest
  · exact Nat.le_of_eq concerns.length.symm
  · intro other _ foreign
    refine concerns.others other ?_
    rintro rfl
    exact foreign owns
  · exact fun other owns => .inl (owned other owns)
  · exact Nat.le_of_eq session.symm
  · intro _ other inUse
    refine ⟨current other inUse, ?_⟩
    by_cases same : other = child
    · subst same
      exact concerns.helpers
    · rw [World.helpersOf, World.helpersOf, concerns.others other same]
      exact fun _ => id

/-- The child in use is not the one whose start is in flight. -/
theorem Valid.ne_current (valid : site.Valid) {child : Nat}
    (current : site.sandbox.current = some child) {other : Nat}
    (inFlight : site.sandbox.attempt = .inFlight other) : other ≠ child := by
  rintro rfl
  exact valid.different _ inFlight current

/-- The child in use exits, is closed or is killed. -/
theorem Leads.ofEnd {child : Nat} {world : World} {sandbox : Sandbox} (valid : site.Valid)
    (inUse : site.sandbox.current = some child) (concerns : World.Concerns child site.world world)
    (replies : world.replies = site.world.replies)
    (nextId : sandbox.nextId = site.sandbox.nextId)
    (session : sandbox.session = site.sandbox.session)
    (current : ∀ other, sandbox.current = some other → site.sandbox.current = some other)
    (attempt : ∀ other, sandbox.attempt = .inFlight other →
      site.sandbox.attempt = .inFlight other) : Leads site ⟨world, sandbox⟩ :=
  .ofConcerns valid (.inl inUse) concerns session current
    (fun other inFlight =>
      ⟨attempt other inFlight, valid.ne_current inUse (attempt other inFlight)⟩)
    fun honest => honest.ofEq replies nextId

end Step

/-! ### Starting -/

section Start

variable {site : Site}

/-- A sandbox that has taken a child into use: another session has begun. -/
def taken (site : Site) (child : Nat) : Site :=
  { site with
    sandbox :=
      { site.sandbox with
        current := some child
        needsRestart := false
        session := site.sandbox.session + 1
        attempt := .settled (.ok ()) } }

theorem leads_taken (valid : site.Valid) {child : Nat}
    (inFlight : site.sandbox.attempt = .inFlight child) : Leads site (site.taken child) := by
  have owned (other : Nat) (owns : some child = some other ∨
      Attempt.settled (.ok ()) = .inFlight other) : site.sandbox.Owns other := by
    rcases owns with same | other
    · cases same
      exact .inr inFlight
    · cases other
  constructor
  · exact ⟨fun other owns => valid.below other (owned other owns), nofun, nofun⟩
  · exact fun honest => honest.ofEq rfl rfl
  · exact Nat.le_refl _
  · exact fun _ _ _ => rfl
  · exact fun other owns => .inl (owned other owns)
  · exact Nat.le_succ _
  · intro same
    exact absurd same (Nat.succ_ne_self _)

theorem leads_settle (valid : site.Valid) : Leads site site.settle := by
  rw [settle]
  cases inFlight : site.sandbox.attempt with
  | inFlight child =>
      simp only []
      split
      · exact leads_taken valid inFlight
      · exact .ofSandbox valid rfl rfl rfl rfl (fun _ => id) nofun
      · exact .ofConcerns valid (.inr inFlight) (World.concerns_kill _ _) rfl (fun _ => id) nofun
          fun honest => honest.ofEq (World.replies_kill _ _) rfl
  | _ => exact .refl valid

/-- A sandbox that has launched another child, whose first line is awaited. -/
def launched (site : Site) : Site :=
  ⟨{ site.world with
      launches := site.world.launches.tail
      children := site.world.children ++ [Child.ofLaunch site.world.nextLaunch] }.record
        (.launched (some site.world.children.length) site.sandbox.interpreter
          (site.world.nextLaunch.measures site.sandbox.memoryLimit)),
    { site.sandbox with
      isClosed := false
      attempt := .inFlight site.world.children.length }⟩

theorem leads_launched (valid : site.Valid) : Leads site site.launched := by
  have inUse (child : Nat) (current : site.sandbox.current = some child) :
      child < site.world.children.length := valid.below child (.inl current)
  constructor
  · constructor
    · rintro child (current | inFlight)
      · have below := inUse child current
        simp only [launched, World.record, List.length_append, List.length_singleton]
        omega
      · cases inFlight
        simp [launched, World.record]
    · intro child inFlight
      cases inFlight
      simp [launched, World.record, World.isRunning, Child.ofLaunch]
    · intro child inFlight current
      cases inFlight
      exact Nat.lt_irrefl _ (inUse _ current)
  · exact fun honest => honest.ofEq rfl rfl
  · simp [launched, World.record]
  · exact fun child below _ => List.getElem?_append_left below
  · rintro child (current | inFlight)
    · exact .inl (.inl current)
    · cases inFlight
      exact .inr (Nat.le_refl _)
  · exact Nat.le_refl _
  · intro _ child current
    refine ⟨current, ?_⟩
    rw [World.helpersOf, World.helpersOf]
    simp only [launched, World.record, List.getElem?_append_left (inUse child current)]
    exact fun _ => id

/-- Nothing is begun while a child is in use or another start is in flight. -/
theorem begin_of_busy (busy : (site.isReady || site.isStarting) = true) : site.begin = site :=
  if_pos busy

/-- A launch that is not refused is awaited, or heard at once. -/
theorem begin_of_accepted (idle : (site.isReady || site.isStarting) = false)
    (accepted : site.world.nextLaunch.refusal = none) :
    site.begin = site.launched ∨ site.begin = site.launched.settle := by
  rw [begin, idle]
  simp only [Bool.false_eq_true, if_false, World.launch_accepted _ _ accepted]
  split
  · exact .inl rfl
  · exact .inr rfl

theorem leads_begin (valid : site.Valid) : Leads site site.begin := by
  cases busy : site.isReady || site.isStarting with
  | true =>
      rw [begin_of_busy busy]
      exact .refl valid
  | false =>
      cases refusal : site.world.nextLaunch.refusal with
      | some text =>
          rw [begin, busy]
          simp only [Bool.false_eq_true, if_false, World.launch_refused _ _ refusal]
          exact .ofSandbox valid rfl rfl rfl rfl (fun _ => id) nofun
      | none =>
          have launched := leads_launched valid
          rcases begin_of_accepted busy refusal with begun | begun
          · rw [begun]
            exact launched
          · rw [begun]
            exact launched.trans (leads_settle launched.valid)

theorem leads_start (valid : site.Valid) : Leads site site.start.2 := by
  rw [start]
  split
  · exact .refl valid
  · have begun := leads_begin valid
    exact begun.trans (leads_settle begun.valid)

theorem leads_waitReady (valid : site.Valid) : Leads site site.waitReady.2 := by
  have started := leads_start valid
  rw [waitReady]
  by_cases needed : (site.isStarting || site.willRestart) = true
  · simp only [needed, if_true]
    split
    · next fault after outcome => rwa [outcome] at started
    · next after outcome => rwa [outcome] at started
  · simp only [needed]
    exact .refl valid

/-- After a wait that has succeeded a child is in use and running. -/
theorem isReady_of_waitReady {after : Site} (waited : site.waitReady = (.ok (), after)) :
    after.isReady = true := by
  rw [waitReady] at waited
  split at waited
  · cases waited
  · next ready _ =>
      by_cases isReady : ready.isReady = true
      · rw [if_pos isReady] at waited
        cases waited
        exact isReady
      · rw [if_neg isReady] at waited
        cases waited

end Start

end Site
end Sandbox
end AnswerKey
