import AnswerKey.Proofs.Sandbox.Order

namespace AnswerKey
namespace Sandbox

/-!
A sandbox that several tasks use at once.

A task gives way to others whenever it waits: for a first line, for an answer, for the end of a
child.  A `Scene` keeps beside the sandbox what the tasks wait for, and a `Turn` is what one of them
does until it waits again.  Nothing is assumed of the order of turns, or of what a child says and
when it exits.  An errand that is done in one go is a sequence of turns (`exists_turns_of_path`).
-/

/-- What a task waits for. -/
inductive Wait where
  /-- A request has been written to a child, and its answer is awaited. -/
  | answer (child : Nat)
  /-- A child that did not answer as it should has been killed, and its end is awaited. -/
  | discarding (child : Nat)
  /-- A child whose first line was wrong or late has been killed, and its end is awaited.  Until
  then its start is in flight. -/
  | rejecting (child : Nat)
  /-- The sandbox is being closed.  A start that was in flight has been told to end. -/
  | closing
  /-- The input of a child has been closed, and its end is awaited. -/
  | parting (child : Nat)
  deriving DecidableEq

/-- The child that a task waits for. -/
def Wait.child? : Wait → Option Nat
  | answer child => some child
  | discarding child => some child
  | rejecting child => some child
  | closing => none
  | parting child => some child

/-- A sandbox and the tasks that use it. -/
structure Scene where
  site : Site
  waits : List Wait
  /-- Children that have exited by themselves. -/
  departed : List Nat
  /-- Children that were left alone while they ran: their start ended without taking them into use
  and without killing them. -/
  forsaken : List Nat

namespace Site

/-- A sandbox whose start has failed. -/
def failed (site : Site) (fault : Fault) : Site :=
  { site with sandbox := { site.sandbox with attempt := .settled (.error fault) } }

/-- A sandbox that is closed to starts.  A start in flight is told to end. -/
def shut (site : Site) : Site :=
  { site with
    sandbox :=
      { site.sandbox with
        isClosed := true
        needsRestart := false
        attempt := if site.isStarting then .cancelled else site.sandbox.attempt } }

/-- A sandbox that parts with its child, after closing its input. -/
def parted (site : Site) (child : Nat) : Site :=
  ⟨site.world.record (.closedInput child), { site.sandbox with current := none }⟩

/-- A sandbox that has given up a child which has been killed. -/
def released (site : Site) (child : Nat) : Site :=
  { site with
    sandbox :=
      if site.sandbox.current = some child then
        { site.sandbox with current := none, needsRestart := true }
      else site.sandbox }

/-- A sandbox one of whose children has been killed. -/
def killed (site : Site) (child : Nat) : Site :=
  { site with world := site.world.kill child }

end Site

/-- What one task does until it waits again, or what a child does. -/
inductive Turn : Scene → Scene → Prop where
  | refuse {scene : Scene} {text : String}
      (idle : (scene.site.isReady || scene.site.isStarting) = false)
      (refusal : scene.site.world.nextLaunch.refusal = some text) :
      Turn scene { scene with site := scene.site.refused text }
  | launch {scene : Scene} (idle : (scene.site.isReady || scene.site.isStarting) = false)
      (accepted : scene.site.world.nextLaunch.refusal = none) :
      Turn scene { scene with site := scene.site.launched }
  /-- A first line is good. -/
  | accept {scene : Scene} {child : Nat} {line : Option String}
      (inFlight : scene.site.sandbox.attempt = .inFlight child)
      (unheard : .rejecting child ∉ scene.waits) (judged : judgeGreeting line = .ok ()) :
      Turn scene { scene with site := scene.site.taken child }
  /-- A first line is wrong or late. -/
  | reject {scene : Scene} {child : Nat} {line : Option String} {fault : Fault}
      (inFlight : scene.site.sandbox.attempt = .inFlight child)
      (unheard : .rejecting child ∉ scene.waits) (judged : judgeGreeting line = .error fault)
      (readable : ∀ text, fault ≠ .tooDeep text) :
      Turn scene { scene with
        site := scene.site.killed child, waits := .rejecting child :: scene.waits }
  /-- A start ends after its child has been killed. -/
  | rejected {scene : Scene} {child : Nat}
      (inFlight : scene.site.sandbox.attempt = .inFlight child)
      (waiting : .rejecting child ∈ scene.waits) (fault : Fault) :
      Turn scene { scene with
        site := scene.site.failed fault, waits := scene.waits.erase (.rejecting child) }
  /-- A first line nests too deep: the start ends at once, and nobody sees to the child. -/
  | overflow {scene : Scene} {child : Nat} {line : Option String} {text : String}
      (inFlight : scene.site.sandbox.attempt = .inFlight child)
      (unheard : .rejecting child ∉ scene.waits)
      (judged : judgeGreeting line = .error (.tooDeep text)) :
      Turn scene { scene with
        site := scene.site.failed (.tooDeep text), forsaken := child :: scene.forsaken }
  | ask {scene : Scene} {child : Nat} (isReady : scene.site.isReady = true)
      (current : scene.site.sandbox.current = some child) (payload : List (String × Json))
      (hasTime : Bool) :
      Turn scene { scene with
        site := scene.site.asked child payload hasTime, waits := .answer child :: scene.waits }
  /-- A request has a result, or nobody waits for it any more. -/
  | answered {scene : Scene} {child : Nat} (waiting : .answer child ∈ scene.waits) :
      Turn scene { scene with waits := scene.waits.erase (.answer child) }
  /-- A child has not answered as it should. -/
  | lose {scene : Scene} {child : Nat} (waiting : .answer child ∈ scene.waits) :
      Turn scene { scene with
        site := scene.site.killed child
        waits := .discarding child :: scene.waits.erase (.answer child) }
  | discarded {scene : Scene} {child : Nat} (waiting : .discarding child ∈ scene.waits) :
      Turn scene { scene with
        site := scene.site.released child, waits := scene.waits.erase (.discarding child) }
  /-- Closing begins while no start is in flight. -/
  | shut {scene : Scene} (idle : scene.site.isStarting = false) :
      Turn scene { scene with site := scene.site.shut, waits := .closing :: scene.waits }
  /-- Closing begins while a first line is awaited: the start ends, and nobody sees to the child. -/
  | forsake {scene : Scene} {child : Nat}
      (inFlight : scene.site.sandbox.attempt = .inFlight child)
      (unheard : .rejecting child ∉ scene.waits) :
      Turn scene { scene with
        site := scene.site.shut
        waits := .closing :: scene.waits
        forsaken := child :: scene.forsaken }
  /-- Closing begins while the end of a rejected child is awaited. -/
  | cancel {scene : Scene} {child : Nat}
      (inFlight : scene.site.sandbox.attempt = .inFlight child)
      (waiting : .rejecting child ∈ scene.waits) :
      Turn scene { scene with
        site := scene.site.shut, waits := .closing :: scene.waits.erase (.rejecting child) }
  | part {scene : Scene} {child : Nat} (waiting : .closing ∈ scene.waits)
      (current : scene.site.sandbox.current = some child) :
      Turn scene { scene with
        site := scene.site.parted child
        waits := .parting child :: scene.waits.erase .closing }
  /-- There is nothing to close. -/
  | leave {scene : Scene} (waiting : .closing ∈ scene.waits)
      (unused : scene.site.sandbox.current = none) :
      Turn scene { scene with waits := scene.waits.erase .closing }
  | gone {scene : Scene} {child : Nat} (waiting : .parting child ∈ scene.waits)
      (ended : scene.site.world.isRunning child = false) :
      Turn scene { scene with waits := scene.waits.erase (.parting child) }
  /-- A child outlives the closing of its input for too long. -/
  | overdue {scene : Scene} {child : Nat} (waiting : .parting child ∈ scene.waits) :
      Turn scene { scene with
        site := scene.site.killed child, waits := scene.waits.erase (.parting child) }
  /-- A child exits by itself. -/
  | exit {scene : Scene} {child : Nat} (running : scene.site.world.isRunning child = true) :
      Turn scene { scene with
        site := { scene.site with world := scene.site.world.exit child }
        departed := child :: scene.departed }
  /-- How the next launches and replies go is laid down anew. -/
  | expect {scene : Scene} (launches : List Launch) (replies : List Reply) :
      Turn scene { scene with site := scene.site.expecting launches replies }

/-- Any number of turns. -/
abbrev Turns : Scene → Scene → Prop := Relation.ReflTransGen Turn

namespace Scene

/-- A new sandbox that nobody uses yet. -/
def create (interpreter : Option String) (startupTimeout : Seconds) (memoryLimit : Option Int) :
    Scene :=
  ⟨⟨.empty, .create interpreter startupTimeout memoryLimit⟩, [], [], []⟩

/-- The states at the ends of all histories of a sandbox that several tasks use. -/
def Reachable (scene : Scene) : Prop :=
  ∃ interpreter startupTimeout memoryLimit,
    Turns (create interpreter startupTimeout memoryLimit) scene

end Scene

/-! ### Errands that are done in one go -/

theorem World.exit_of_gone {world : World} {child : Nat} (gone : world.isRunning child = false) :
    world.exit child = world := by
  have same : (world.children.modify child fun c => { c with isRunning := false }) =
      world.children := by
    apply List.ext_getElem?
    intro other
    rw [List.getElem?_modify]
    split
    · next equal =>
        subst equal
        rw [World.isRunning] at gone
        cases known : world.children[child]? with
        | none => rfl
        | some partner =>
            rw [known, Option.any_some] at gone
            simp [← gone]
    · simp
  rw [exit, same]

section Errands

variable {site : Site} (departed forsaken : List Nat)

/-- Hearing a child in one go. -/
theorem exists_turns_settle (site : Site) :
    ∃ left, Turns ⟨site, [], departed, forsaken⟩ ⟨site.settle, [], departed, left⟩ := by
  rw [Site.settle]
  cases inFlight : site.sandbox.attempt with
  | inFlight child =>
      simp only []
      split
      · next judged => exact ⟨forsaken, .single (.accept inFlight List.not_mem_nil judged)⟩
      · next text judged =>
          exact ⟨child :: forsaken, .single (.overflow inFlight List.not_mem_nil judged)⟩
      · next fault readable judged =>
          have rejected : Turn
              ⟨site.killed child, [.rejecting child], departed, forsaken⟩ _ :=
            .rejected inFlight List.mem_cons_self fault
          rw [List.erase_cons_head] at rejected
          exact ⟨forsaken, (Relation.ReflTransGen.single
            (.reject inFlight List.not_mem_nil judged readable)).tail rejected⟩
  | _ => exact ⟨forsaken, .refl⟩

/-- A request that is served in one go. -/
theorem turns_served {child : Nat} (isReady : site.isReady = true)
    (current : site.sandbox.current = some child) (payload : List (String × Json))
    (hasTime : Bool) :
    Turns ⟨site, [], departed, forsaken⟩
      ⟨site.served child payload hasTime, [], departed, forsaken⟩ := by
  have asked : Turn ⟨site, [], departed, forsaken⟩
      ⟨site.asked child payload hasTime, [.answer child], departed, forsaken⟩ :=
    .ask isReady current payload hasTime
  rw [Site.served]
  cases site.verdict child payload hasTime with
  | result result =>
      have answered : Turn
          ⟨site.asked child payload hasTime, [.answer child], departed, forsaken⟩ _ :=
        .answered List.mem_cons_self
      rw [List.erase_cons_head] at answered
      exact (Relation.ReflTransGen.single asked).tail answered
  | lost fault =>
      have lost : Turn
          ⟨site.asked child payload hasTime, [.answer child], departed, forsaken⟩ _ :=
        .lose List.mem_cons_self
      rw [List.erase_cons_head] at lost
      have discarded : Turn
          ⟨(site.asked child payload hasTime).killed child, [.discarding child], departed,
            forsaken⟩ _ :=
        .discarded List.mem_cons_self
      rw [List.erase_cons_head] at discarded
      exact ((Relation.ReflTransGen.single asked).tail lost).tail discarded

/-- A refused launch and an accepted one are turns, and so is a first line. -/
theorem exists_turns_start {before after : Site} (start : Site.Start before after) :
    ∃ left, Turns ⟨before, [], departed, forsaken⟩ ⟨after, [], departed, left⟩ := by
  cases start with
  | refuse idle refusal => exact ⟨forsaken, .single (.refuse idle refusal)⟩
  | launch idle accepted => exact ⟨forsaken, .single (.launch idle accepted)⟩
  | settle => exact exists_turns_settle departed forsaken before

/-- The beginning of a close: a start in flight is left alone with its child. -/
theorem exists_turns_shut (site : Site) :
    ∃ left, Turns ⟨site, [], departed, forsaken⟩ ⟨site.shut, [.closing], departed, left⟩ := by
  cases inFlight : site.sandbox.attempt with
  | inFlight child =>
      exact ⟨child :: forsaken, .single (.forsake inFlight List.not_mem_nil)⟩
  | _ =>
      have idle : site.isStarting = false := by rw [Site.isStarting, inFlight]; rfl
      exact ⟨forsaken, .single (.shut idle)⟩

/-- A child exits in one turn if it has not exited before. -/
theorem exists_turns_gone (site : Site) (waits : List Wait) (child : Nat) :
    ∃ gone, Turns ⟨site, waits, departed, forsaken⟩
      ⟨{ site with world := site.world.exit child }, waits, gone, forsaken⟩ := by
  cases running : site.world.isRunning child with
  | true => exact ⟨child :: departed, .single (.exit running)⟩
  | false =>
      rw [World.exit_of_gone running]
      exact ⟨departed, .refl⟩

/-- A child whose input has been closed exits, or it is killed in the end. -/
theorem exists_turns_shutDown (site : Site) (child : Nat) :
    ∃ gone, Turns ⟨site.parted child, [.parting child], departed, forsaken⟩
      ⟨⟨site.world.shutDown child, (site.parted child).sandbox⟩, [], gone, forsaken⟩ := by
  rw [World.shutDown]
  split
  · have overdue : Turn ⟨site.parted child, [.parting child], departed, forsaken⟩ _ :=
      .overdue List.mem_cons_self
    rw [List.erase_cons_head] at overdue
    exact ⟨departed, .single overdue⟩
  · rcases exists_turns_gone departed forsaken (site.parted child) [.parting child] child with
      ⟨gone, exited⟩
    have ended : ((site.parted child).world.exit child).isRunning child = false := by
      rw [World.isRunning_exit]
      simp
    have left : Turn
        ⟨⟨(site.parted child).world.exit child, (site.parted child).sandbox⟩, [.parting child],
          gone, forsaken⟩ _ :=
      .gone List.mem_cons_self ended
    rw [List.erase_cons_head] at left
    exact ⟨gone, exited.tail left⟩

/-- A close that is done in one go. -/
theorem exists_turns_close (site : Site) :
    ∃ gone left, Turns ⟨site, [], departed, forsaken⟩ ⟨site.close, [], gone, left⟩ := by
  rcases exists_turns_shut departed forsaken site with ⟨left, shut⟩
  cases current : site.sandbox.current with
  | none =>
      have closed : site.close = site.shut := by
        rw [Site.close, Site.shut, current]
        simp only [current]
      have leave : Turn ⟨site.shut, [.closing], departed, left⟩ _ :=
        .leave List.mem_cons_self current
      rw [List.erase_cons_head, ← closed] at leave
      exact ⟨departed, left, shut.tail (closed ▸ leave)⟩
  | some child =>
      have closed : site.close =
          ⟨site.shut.world.shutDown child, (site.shut.parted child).sandbox⟩ := by
        rw [Site.close, current]
        rfl
      have parted : Turn ⟨site.shut, [.closing], departed, left⟩ _ :=
        .part List.mem_cons_self current
      rw [List.erase_cons_head] at parted
      rcases exists_turns_shutDown departed left site.shut child with ⟨gone, ended⟩
      rw [closed]
      exact ⟨gone, left, (shut.tail parted).trans ended⟩

/-- A move that is made in one go. -/
theorem exists_turns_of_move {before after : Site} (move : Site.Move before after) :
    ∃ gone left, Turns ⟨before, [], departed, forsaken⟩ ⟨after, [], gone, left⟩ := by
  cases move with
  | start start =>
      rcases exists_turns_start departed forsaken start with ⟨left, turns⟩
      exact ⟨departed, left, turns⟩
  | serve isReady current payload hasTime =>
      exact ⟨departed, forsaken, turns_served departed forsaken isReady current payload hasTime⟩
  | close => exact exists_turns_close departed forsaken before
  | exit =>
      rw [Site.exit]
      cases before.sandbox.current with
      | none => exact ⟨departed, forsaken, .refl⟩
      | some child =>
          rcases exists_turns_gone departed forsaken before [] child with ⟨gone, turns⟩
          exact ⟨gone, forsaken, turns⟩

theorem exists_turns_of_path {before after : Site} (path : Site.Path before after) :
    ∃ gone left, Turns ⟨before, [], departed, forsaken⟩ ⟨after, [], gone, left⟩ := by
  induction path with
  | refl => exact ⟨departed, forsaken, .refl⟩
  | tail path move ih =>
      rcases ih with ⟨gone, left, turns⟩
      rcases exists_turns_of_move gone left move with ⟨last, rest, more⟩
      exact ⟨last, rest, turns.trans more⟩

end Errands

/-- What one task brings about, several tasks bring about that take no turns in between. -/
theorem Scene.exists_reachable {site : Site} (reached : site.Reachable) :
    ∃ departed forsaken, Reachable ⟨site, [], departed, forsaken⟩ := by
  have onward {before after : Site} (path : Site.Path before after)
      (former : ∃ departed forsaken, Reachable ⟨before, [], departed, forsaken⟩) :
      ∃ departed forsaken, Reachable ⟨after, [], departed, forsaken⟩ := by
    rcases former with ⟨departed, forsaken, interpreter, startupTimeout, memoryLimit, turns⟩
    rcases exists_turns_of_path departed forsaken path with ⟨gone, left, more⟩
    exact ⟨gone, left, interpreter, startupTimeout, memoryLimit, turns.trans more⟩
  induction reached with
  | create interpreter startupTimeout memoryLimit =>
      exact ⟨[], [], interpreter, startupTimeout, memoryLimit, .refl⟩
  | expecting reached launches replies ih =>
      rcases ih with ⟨departed, forsaken, interpreter, startupTimeout, memoryLimit, turns⟩
      exact ⟨departed, forsaken, interpreter, startupTimeout, memoryLimit,
        turns.tail (.expect launches replies)⟩
  | begin reached ih => exact onward (Site.starts_begin _).path ih
  | perform reached errand ih => exact onward (Site.path_perform _ errand) ih
  | exit reached ih => exact onward (.single (.exit _)) ih

end Sandbox
end AnswerKey
