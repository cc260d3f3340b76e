import AnswerKey.Proofs.Sandbox.Interleaving

namespace AnswerKey
namespace Sandbox

/-!
Who sees to a child.

A sandbox answers for every child that it has launched: it takes it into use, or it kills it, or it
closes its input and awaits its end.  Each turn of the tasks that use the sandbox is for each child
at most one step of its life (`Turn.step`), and what these steps preserve says who sees to it.
Only a child whose start ends while its first line is awaited, or for a first line that nests too
deep, is seen to by nobody (`Scene.custody_of_reachable`).
-/

/-! ### The journal of one child -/

/-- Whether an event is the killing of a child. -/
def Event.kills (child : Nat) : Event → Bool
  | killed other => decide (other = child)
  | _ => false

/-- Whether an event closes the input of a child. -/
def Event.closes (child : Nat) : Event → Bool
  | closedInput other => decide (other = child)
  | _ => false

/-- Whether a start is that of a child. -/
def Attempt.isOf (child : Nat) : Attempt → Bool
  | inFlight other => decide (other = child)
  | _ => false

namespace Attempt

variable (child other : Nat)

@[simp] theorem isOf_never : never.isOf child = false := rfl

@[simp] theorem isOf_inFlight : (inFlight other).isOf child = decide (other = child) := rfl

@[simp] theorem isOf_settled (outcome : Except Fault Unit) :
    (settled outcome).isOf child = false := rfl

@[simp] theorem isOf_cancelled : cancelled.isOf child = false := rfl

theorem isOf_iff {attempt : Attempt} : attempt.isOf child = true ↔ attempt = .inFlight child := by
  cases attempt with
  | inFlight other => simp
  | _ => simp

theorem isOf_of_idle {attempt : Attempt} (idle : attempt.isInFlight = false) :
    attempt.isOf child = false := by
  cases attempt with
  | inFlight other => cases idle
  | _ => rfl

end Attempt

namespace World

def hasLaunched (world : World) (child : Nat) : Bool :=
  decide (child < world.children.length)

def hasKilled (world : World) (child : Nat) : Bool :=
  world.journal.any (·.kills child)

def hasClosed (world : World) (child : Nat) : Bool :=
  world.journal.any (·.closes child)

theorem hasKilled_iff {world : World} {child : Nat} :
    world.hasKilled child = true ↔ .killed child ∈ world.journal := by
  rw [hasKilled, List.any_eq_true]
  constructor
  · rintro ⟨event, member, kills⟩
    cases event with
    | killed other =>
        rw [Event.kills, decide_eq_true_eq] at kills
        exact kills ▸ member
    | _ => cases kills
  · intro member
    exact ⟨_, member, decide_eq_true rfl⟩

theorem hasClosed_iff {world : World} {child : Nat} :
    world.hasClosed child = true ↔ .closedInput child ∈ world.journal := by
  rw [hasClosed, List.any_eq_true]
  constructor
  · rintro ⟨event, member, closes⟩
    cases event with
    | closedInput other =>
        rw [Event.closes, decide_eq_true_eq] at closes
        exact closes ▸ member
    | _ => cases closes
  · intro member
    exact ⟨_, member, decide_eq_true rfl⟩

section Effects

variable (world : World) (child other : Nat)

@[simp] theorem hasKilled_record (event : Event) :
    (world.record event).hasKilled child = (world.hasKilled child || event.kills child) := by
  simp [record, hasKilled]

@[simp] theorem hasClosed_record (event : Event) :
    (world.record event).hasClosed child = (world.hasClosed child || event.closes child) := by
  simp [record, hasClosed]

@[simp] theorem hasKilled_exit : (world.exit child).hasKilled other = world.hasKilled other := rfl

@[simp] theorem hasClosed_exit : (world.exit child).hasClosed other = world.hasClosed other := rfl

/-- Only a child that runs is killed. -/
theorem hasKilled_kill :
    (world.kill child).hasKilled other =
      (world.hasKilled other || (world.isRunning other && decide (other = child))) := by
  rw [kill]
  split
  · next running =>
      rw [hasKilled_exit, hasKilled_record, Event.kills]
      by_cases same : child = other
      · subst same
        simp [running]
      · have different : other ≠ child := fun equal => same equal.symm
        simp [same, different]
  · next gone =>
      by_cases same : other = child
      · subst same
        simp [gone]
      · simp [same]

@[simp] theorem hasClosed_kill :
    (world.kill child).hasClosed other = world.hasClosed other := by
  rw [kill]
  split
  · simp [Event.closes]
  · rfl

@[simp] theorem hasLaunched_record (event : Event) :
    (world.record event).hasLaunched child = world.hasLaunched child := rfl

@[simp] theorem hasLaunched_exit :
    (world.exit child).hasLaunched other = world.hasLaunched other := by
  rw [hasLaunched, hasLaunched, (concerns_exit world child).length]

@[simp] theorem hasLaunched_kill :
    (world.kill child).hasLaunched other = world.hasLaunched other := by
  rw [hasLaunched, hasLaunched, (concerns_kill world child).length]

variable {world child} (id request : Json) (hasTime : Bool)

/-- A request neither kills nor closes anything. -/
theorem journal_exchange_any (test : Event → Bool)
    (wrote : ∀ child request, test (.wrote child request) = false)
    (received : ∀ child content, test (.received child content) = false) :
    (world.exchange child id request hasTime).2.journal.any test = world.journal.any test := by
  cases known : world.children[child]? with
  | none =>
      rw [exchange, known]
  | some partner =>
      have read : ((world.exchange child id request hasTime).1.received child).any test =
          false := by
        cases (world.exchange child id request hasTime).1 with
        | line content => simp [Answer.received, received]
        | _ => rfl
      rw [journal_exchange id request hasTime known]
      simp [wrote, read]

@[simp] theorem hasKilled_exchange :
    (world.exchange child id request hasTime).2.hasKilled other = world.hasKilled other :=
  journal_exchange_any id request hasTime _ (fun _ _ => rfl) fun _ _ => rfl

@[simp] theorem hasClosed_exchange :
    (world.exchange child id request hasTime).2.hasClosed other = world.hasClosed other :=
  journal_exchange_any id request hasTime _ (fun _ _ => rfl) fun _ _ => rfl

@[simp] theorem hasLaunched_exchange :
    (world.exchange child id request hasTime).2.hasLaunched other = world.hasLaunched other := by
  cases known : world.children[child]? with
  | none =>
      rw [exchange, known]
  | some partner =>
      rw [hasLaunched, hasLaunched, (concerns_exchange id request hasTime known).length]

end Effects
end World

namespace Site

variable (site : Site) (child : Nat)

/-- A launch adds one child, which runs. -/
theorem hasLaunched_launched :
    site.launched.world.hasLaunched child =
      (site.world.hasLaunched child || decide (child = site.world.children.length)) := by
  have grown : site.launched.world.children.length = site.world.children.length + 1 :=
    List.length_append
  rw [World.hasLaunched, World.hasLaunched, grown, ← Bool.decide_or]
  exact decide_eq_decide.mpr (by omega)

theorem isRunning_launched :
    site.launched.world.isRunning child =
      (site.world.isRunning child || decide (child = site.world.children.length)) := by
  have children : site.launched.world.children =
      site.world.children ++ [Child.ofLaunch site.world.nextLaunch] := rfl
  rw [World.isRunning, World.isRunning, children]
  rcases Nat.lt_trichotomy child site.world.children.length with old | rfl | later
  · rw [List.getElem?_append_left old]
    simp [Nat.ne_of_lt old]
  · simp [Child.ofLaunch]
  · rw [List.getElem?_append_right (Nat.le_of_lt later), List.getElem?_eq_none (Nat.le_of_lt later),
      List.getElem?_eq_none (by simp; omega)]
    simp [Nat.ne_of_gt later]

/-- A launch kills nothing and closes nothing, whether it is refused or not. -/
theorem hasKilled_launched : site.launched.world.hasKilled child = site.world.hasKilled child :=
  (World.hasKilled_record _ _ _).trans (Bool.or_false _)

theorem hasClosed_launched : site.launched.world.hasClosed child = site.world.hasClosed child :=
  (World.hasClosed_record _ _ _).trans (Bool.or_false _)

theorem hasKilled_refused (text : String) :
    (site.refused text).world.hasKilled child = site.world.hasKilled child :=
  (World.hasKilled_record _ _ _).trans (Bool.or_false _)

theorem hasClosed_refused (text : String) :
    (site.refused text).world.hasClosed child = site.world.hasClosed child :=
  (World.hasClosed_record _ _ _).trans (Bool.or_false _)

end Site

/-! ### The life of one child -/

/-- What a scene shows of one child. -/
@[ext] structure View where
  isLaunched : Bool
  isRunning : Bool
  isCurrent : Bool
  /-- Its start is in flight. -/
  isStarting : Bool
  /-- Some task awaits an answer of it. -/
  isAsked : Bool
  /-- Some task awaits its end after killing it for an answer. -/
  isDiscarded : Bool
  /-- Some task awaits its end after killing it for its first line. -/
  isRejected : Bool
  /-- Some task awaits its end after closing its input. -/
  isParting : Bool
  isKilled : Bool
  isClosed : Bool
  /-- It has exited by itself. -/
  isDeparted : Bool
  isForsaken : Bool

namespace View

/-- A child that is killed unless it has exited. -/
def kill (view : View) : View :=
  { view with isRunning := false, isKilled := view.isKilled || view.isRunning }

/-- One step in the life of a child.  Whether another task waits for the same thing is left open
where a task has waited long enough. -/
inductive Step : View → View → Prop where
  | stay (view : View) : Step view view
  | launch {view : View} (unborn : view.isLaunched = false) :
      Step view { view with isLaunched := true, isRunning := true, isStarting := true }
  | accept {view : View} (starting : view.isStarting = true)
      (unheard : view.isRejected = false) :
      Step view { view with isStarting := false, isCurrent := true }
  | reject {view : View} (starting : view.isStarting = true)
      (unheard : view.isRejected = false) : Step view { view.kill with isRejected := true }
  /-- The start of a child that has been killed ends. -/
  | abandon {view : View} (starting : view.isStarting = true)
      (rejected : view.isRejected = true) (another : Bool) :
      Step view { view with isStarting := false, isRejected := another }
  | forsake {view : View} (starting : view.isStarting = true)
      (unheard : view.isRejected = false) :
      Step view { view with isStarting := false, isForsaken := true }
  /-- Another child is taken into use. -/
  | supersede {view : View} (vacant : view.isCurrent = true → view.isRunning = false) :
      Step view { view with isCurrent := false }
  | ask {view : View} (current : view.isCurrent = true) : Step view { view with isAsked := true }
  | answered {view : View} (asked : view.isAsked = true) (another : Bool) :
      Step view { view with isAsked := another }
  | lose {view : View} (asked : view.isAsked = true) (another : Bool) :
      Step view { view.kill with isAsked := another, isDiscarded := true }
  | discarded {view : View} (discarded : view.isDiscarded = true) (another : Bool) :
      Step view { view with isCurrent := false, isDiscarded := another }
  | part {view : View} (current : view.isCurrent = true) :
      Step view { view with isCurrent := false, isClosed := true, isParting := true }
  | gone {view : View} (parting : view.isParting = true) (gone : view.isRunning = false)
      (another : Bool) : Step view { view with isParting := another }
  | overdue {view : View} (parting : view.isParting = true) (another : Bool) :
      Step view { view.kill with isParting := another }
  | exit {view : View} (running : view.isRunning = true) :
      Step view { view with isRunning := false, isDeparted := true }

theorem Step.shown {before after seen : View} (step : Step before after) (same : seen = after) :
    Step before seen :=
  same ▸ step

/-- What holds of a child throughout its life. -/
structure Kept (view : View) : Prop where
  unborn : view.isLaunched = false →
    view = ⟨false, false, false, false, false, false, false, false, false, false, false, false⟩
  /-- A child that runs is in use, or its first line is awaited, or its end, or it is forsaken. -/
  running : view.isRunning = true →
    view.isCurrent ∨ view.isStarting ∨ view.isParting ∨ view.isForsaken
  ended : view.isLaunched = true → view.isRunning = false → view.isKilled ∨ view.isDeparted
  dead : view.isKilled ∨ view.isDeparted ∨ view.isDiscarded ∨ view.isRejected →
    view.isRunning = false
  starting : view.isStarting = true →
    view.isCurrent = false ∧ view.isAsked = false ∧ view.isDiscarded = false ∧
      view.isParting = false ∧ view.isClosed = false ∧ view.isForsaken = false ∧
      (view.isKilled = true → view.isRejected = true)
  current : view.isCurrent = true →
    view.isParting = false ∧ view.isClosed = false ∧ view.isForsaken = false
  parting : view.isParting = true → view.isClosed = true
  forsaken : view.isForsaken = true →
    view.isCurrent = false ∧ view.isStarting = false ∧ view.isAsked = false ∧
      view.isDiscarded = false ∧ view.isRejected = false ∧ view.isParting = false ∧
      view.isKilled = false ∧ view.isClosed = false

theorem Step.kept {before after : View} (step : Step before after) (kept : before.Kept) :
    after.Kept := by
  rcases kept with ⟨unborn, runs, ended, dead, starts, uses, parts, forsakes⟩
  cases step with
  | stay => exact ⟨unborn, runs, ended, dead, starts, uses, parts, forsakes⟩
  -- What a step sets bears on few of the fields, and the others are about the same child.
  | _ => constructor <;> grind -ring -linarith [kill]

end View

/-! ### Turns -/

namespace Scene

/-- Nothing runs in the place of a child whose start is in flight. -/
def Vacant (scene : Scene) : Prop :=
  scene.site.isStarting = true → scene.site.isReady = false

theorem Vacant.gone {scene : Scene} (vacant : scene.Vacant) {child other : Nat}
    (inFlight : scene.site.sandbox.attempt = .inFlight other)
    (current : scene.site.sandbox.current = some child) :
    scene.site.world.isRunning child = false := by
  have starting : scene.site.isStarting = true := by
    rw [Site.isStarting, inFlight]
    rfl
  have notReady := vacant starting
  rwa [Site.isReady, current, Option.any_some] at notReady

def view (scene : Scene) (child : Nat) : View where
  isLaunched := scene.site.world.hasLaunched child
  isRunning := scene.site.world.isRunning child
  isCurrent := scene.site.sandbox.current == some child
  isStarting := scene.site.sandbox.attempt.isOf child
  isAsked := decide (.answer child ∈ scene.waits)
  isDiscarded := decide (.discarding child ∈ scene.waits)
  isRejected := decide (.rejecting child ∈ scene.waits)
  isParting := decide (.parting child ∈ scene.waits)
  isKilled := scene.site.world.hasKilled child
  isClosed := scene.site.world.hasClosed child
  isDeparted := decide (child ∈ scene.departed)
  isForsaken := decide (child ∈ scene.forsaken)

end Scene

section Step

variable {before after : Scene}

/-- A turn is at most one step in the life of each child. -/
theorem Turn.step (turn : Turn before after) (vacant : before.Vacant) (child : Nat) :
    View.Step (before.view child) (after.view child) := by
  cases turn with
  | @refuse text idle refusal =>
      rw [Bool.or_eq_false_iff] at idle
      have same : (before.site.refused text).world.children = before.site.world.children := rfl
      refine (View.Step.stay _).shown ?_
      simp [Scene.view, Site.hasKilled_refused, Site.hasClosed_refused, World.hasLaunched,
        World.isRunning, same, Attempt.isOf_of_idle child idle.2]
      simp [Site.refused]
  | launch idle accepted =>
      rw [Bool.or_eq_false_iff] at idle
      have still : before.site.launched.sandbox.current = before.site.sandbox.current := rfl
      have inFlight : before.site.launched.sandbox.attempt =
          .inFlight before.site.world.children.length := rfl
      by_cases same : child = before.site.world.children.length
      · subst same
        refine (View.Step.launch ?_).shown ?_
        · simp [Scene.view, World.hasLaunched]
        · simp [Scene.view, Site.hasLaunched_launched, Site.isRunning_launched,
            Site.hasKilled_launched, Site.hasClosed_launched, still, inFlight]
      · refine (View.Step.stay _).shown ?_
        simp [Scene.view, Site.hasLaunched_launched, Site.isRunning_launched,
            Site.hasKilled_launched, Site.hasClosed_launched, still, inFlight, same, Ne.symm same,
            Attempt.isOf_of_idle child idle.2]
  | @accept other line inFlight unheard judged =>
      by_cases same : child = other
      · subst same
        refine (View.Step.accept ?_ ?_).shown ?_
        · simp [Scene.view, inFlight]
        · simp [Scene.view, unheard]
        · simp [Scene.view, Site.taken]
      · refine (View.Step.supersede fun current => ?_).shown ?_
        · rw [Scene.view, beq_iff_eq] at current
          exact vacant.gone inFlight current
        · simp [Scene.view, Site.taken, inFlight, Ne.symm same]
  | @reject other line fault inFlight unheard judged readable =>
      by_cases same : child = other
      · subst same
        refine (View.Step.reject ?_ ?_).shown ?_
        · simp [Scene.view, inFlight]
        · simp [Scene.view, unheard]
        · simp [Scene.view, Site.killed, View.kill, World.isRunning_kill, World.hasKilled_kill]
      · refine (View.Step.stay _).shown ?_
        simp [Scene.view, Site.killed, World.isRunning_kill, World.hasKilled_kill, same]
  | @rejected other inFlight waiting fault =>
      by_cases same : child = other
      · subst same
        refine (View.Step.abandon ?_ ?_
          (decide (.rejecting child ∈ before.waits.erase (.rejecting child)))).shown ?_
        · simp [Scene.view, inFlight]
        · simp [Scene.view, waiting]
        · simp [Scene.view, Site.failed]
      · refine (View.Step.stay _).shown ?_
        simp [Scene.view, Site.failed, same, inFlight, Ne.symm same]
  | @overflow other line text inFlight unheard judged =>
      by_cases same : child = other
      · subst same
        refine (View.Step.forsake ?_ ?_).shown ?_
        · simp [Scene.view, inFlight]
        · simp [Scene.view, unheard]
        · simp [Scene.view, Site.failed]
      · refine (View.Step.stay _).shown ?_
        simp [Scene.view, Site.failed, same, inFlight, Ne.symm same]
  | @ask other isReady current payload hasTime =>
      by_cases same : child = other
      · subst same
        refine (View.Step.ask ?_).shown ?_
        · simp [Scene.view, current]
        · simp [Scene.view, Site.asked, World.isRunning_exchange]
      · refine (View.Step.stay _).shown ?_
        simp [Scene.view, Site.asked, World.isRunning_exchange, same]
  | @answered other waiting =>
      by_cases same : child = other
      · subst same
        refine (View.Step.answered ?_
          (decide (.answer child ∈ before.waits.erase (.answer child)))).shown ?_
        · simp [Scene.view, waiting]
        · simp [Scene.view]
      · refine (View.Step.stay _).shown ?_
        simp [Scene.view, same]
  | @lose other waiting =>
      by_cases same : child = other
      · subst same
        refine (View.Step.lose ?_
          (decide (.answer child ∈ before.waits.erase (.answer child)))).shown ?_
        · simp [Scene.view, waiting]
        · simp [Scene.view, Site.killed, View.kill, World.isRunning_kill, World.hasKilled_kill]
      · refine (View.Step.stay _).shown ?_
        simp [Scene.view, Site.killed, World.isRunning_kill, World.hasKilled_kill, same]
  | @discarded other waiting =>
      by_cases same : child = other
      · subst same
        refine (View.Step.discarded ?_
          (decide (.discarding child ∈ before.waits.erase (.discarding child)))).shown ?_
        · simp [Scene.view, waiting]
        · by_cases current : before.site.sandbox.current = some child
          · simp [Scene.view, Site.released, current]
          · simp [Scene.view, Site.released, current]
      · refine (View.Step.stay _).shown ?_
        by_cases current : before.site.sandbox.current = some other
        · simp [Scene.view, Site.released, current, same, Ne.symm same]
        · simp [Scene.view, Site.released, current, same]
  | shut idle =>
      refine (View.Step.stay _).shown ?_
      simp [Scene.view, Site.shut, idle]
  | @forsake other inFlight unheard =>
      have starting : before.site.isStarting = true := by rw [Site.isStarting, inFlight]; rfl
      by_cases same : child = other
      · subst same
        refine (View.Step.forsake ?_ ?_).shown ?_
        · simp [Scene.view, inFlight]
        · simp [Scene.view, unheard]
        · simp [Scene.view, Site.shut, starting]
      · refine (View.Step.stay _).shown ?_
        simp [Scene.view, Site.shut, starting, same, inFlight, Ne.symm same]
  | @cancel other inFlight waiting =>
      have starting : before.site.isStarting = true := by rw [Site.isStarting, inFlight]; rfl
      by_cases same : child = other
      · subst same
        refine (View.Step.abandon ?_ ?_
          (decide (.rejecting child ∈ before.waits.erase (.rejecting child)))).shown ?_
        · simp [Scene.view, inFlight]
        · simp [Scene.view, waiting]
        · simp [Scene.view, Site.shut, starting]
      · refine (View.Step.stay _).shown ?_
        simp [Scene.view, Site.shut, starting, same, inFlight, Ne.symm same]
  | @part other waiting current =>
      by_cases same : child = other
      · subst same
        refine (View.Step.part ?_).shown ?_
        · simp [Scene.view, current]
        · simp [Scene.view, Site.parted, Event.kills, Event.closes]
      · refine (View.Step.stay _).shown ?_
        simp [Scene.view, Site.parted, Event.kills, Event.closes, current, same, Ne.symm same]
  | leave waiting unused =>
      refine (View.Step.stay _).shown ?_
      simp [Scene.view]
  | @gone other waiting ended =>
      by_cases same : child = other
      · subst same
        refine (View.Step.gone ?_ ?_
          (decide (.parting child ∈ before.waits.erase (.parting child)))).shown ?_
        · simp [Scene.view, waiting]
        · simp [Scene.view, ended]
        · simp [Scene.view]
      · refine (View.Step.stay _).shown ?_
        simp [Scene.view, same]
  | @overdue other waiting =>
      by_cases same : child = other
      · subst same
        refine (View.Step.overdue ?_
          (decide (.parting child ∈ before.waits.erase (.parting child)))).shown ?_
        · simp [Scene.view, waiting]
        · simp [Scene.view, Site.killed, View.kill, World.isRunning_kill, World.hasKilled_kill]
      · refine (View.Step.stay _).shown ?_
        simp [Scene.view, Site.killed, World.isRunning_kill, World.hasKilled_kill, same]
  | @exit other running =>
      by_cases same : child = other
      · subst same
        refine (View.Step.exit ?_).shown ?_
        · simp [Scene.view, running]
        · simp [Scene.view, World.isRunning_exit]
      · refine (View.Step.stay _).shown ?_
        simp [Scene.view, World.isRunning_exit, same]
  | expect launches replies => exact .stay _

/-- A start and a child in use do not come together as long as neither does. -/
theorem Scene.Vacant.mono (vacant : before.Vacant)
    (starting : after.site.isStarting = true → before.site.isStarting = true)
    (ready : after.site.isReady = true → before.site.isReady = true) : after.Vacant := by
  intro inFlight
  rw [← Bool.not_eq_true]
  intro isReady
  have former := vacant (starting inFlight)
  rw [ready isReady] at former
  cases former

/-- What holds of a scene throughout: of the sandbox, and of each child. -/
structure Scene.Sound (scene : Scene) : Prop where
  vacant : scene.Vacant
  kept : ∀ child, (scene.view child).Kept

/-- A child that is ready was ready before, if it ran and was in use. -/
theorem Site.isReady_mono {before after : Site}
    (current : after.sandbox.current = before.sandbox.current)
    (runs : ∀ child, after.world.isRunning child = true → before.world.isRunning child = true)
    (ready : after.isReady = true) : before.isReady = true := by
  rw [Site.isReady, Option.any_eq_true] at ready ⊢
  rcases ready with ⟨child, inUse, running⟩
  exact ⟨child, current ▸ inUse, runs child running⟩

theorem Site.isReady_killed {site : Site} {child : Nat} :
    (site.killed child).isReady = true → site.isReady = true := by
  refine Site.isReady_mono rfl fun other running => ?_
  rw [Site.killed, World.isRunning_kill, Bool.and_eq_true] at running
  exact running.1

/-- Closing ends a start in flight. -/
theorem Site.isStarting_shut (site : Site) : site.shut.isStarting = false := by
  rw [Site.shut, Site.isStarting]
  simp only []
  split
  · rfl
  · next idle => exact Bool.not_eq_true _ ▸ idle

/-- The child that is launched is another than the one in use. -/
theorem Scene.Sound.vacant_launched {scene : Scene} (sound : scene.Sound)
    (idle : (scene.site.isReady || scene.site.isStarting) = false) :
    scene.site.launched.isReady = false := by
  rw [Bool.or_eq_false_iff] at idle
  rw [← Bool.not_eq_true]
  intro ready
  rw [Site.isReady, Option.any_eq_true] at ready
  rcases ready with ⟨child, current, running⟩
  have inUse : scene.site.sandbox.current = some child := current
  rw [Site.isRunning_launched, Bool.or_eq_true, decide_eq_true_eq] at running
  rcases running with old | new
  · have notReady := idle.1
    rw [Site.isReady, inUse, Option.any_some, old] at notReady
    cases notReady
  · have unborn : (scene.view child).isLaunched = false := by
      rw [Scene.view, World.hasLaunched, new]
      exact decide_eq_false (Nat.lt_irrefl _)
    have unused := congrArg View.isCurrent ((sound.kept child).unborn unborn)
    rw [Scene.view, inUse] at unused
    simp at unused

theorem Turn.vacant (turn : Turn before after) (sound : before.Sound) : after.Vacant := by
  cases turn with
  | launch idle accepted => exact fun _ => sound.vacant_launched idle
  | reject => exact sound.vacant.mono id Site.isReady_killed
  | lose => exact sound.vacant.mono id Site.isReady_killed
  | overdue => exact sound.vacant.mono id Site.isReady_killed
  | ask =>
      refine sound.vacant.mono id (Site.isReady_mono rfl fun other running => ?_)
      rwa [Site.asked, World.isRunning_exchange] at running
  | exit =>
      refine sound.vacant.mono id (Site.isReady_mono rfl fun other running => ?_)
      rw [World.isRunning_exit, Bool.and_eq_true] at running
      exact running.1
  | @discarded child =>
      by_cases current : before.site.sandbox.current = some child
      · have left : (before.site.released child).sandbox.current = none := by
          rw [Site.released, if_pos current]
        intro _
        simp only [Site.isReady, left, Option.any_none]
      · have same : before.site.released child = before.site := by
          rw [Site.released, if_neg current]
        exact sound.vacant.mono (fun starting => same ▸ starting) fun ready => same ▸ ready
  | shut | forsake | cancel =>
      intro starting
      rw [Site.isStarting_shut] at starting
      cases starting
  | answered => exact sound.vacant
  | leave => exact sound.vacant
  | gone => exact sound.vacant
  | expect => exact sound.vacant
  | part => exact fun _ => rfl
  -- After all other turns no start is in flight.
  | _ =>
      intro starting
      cases starting

theorem Turn.sound (turn : Turn before after) (sound : before.Sound) : after.Sound :=
  ⟨turn.vacant sound, fun child => (turn.step sound.vacant child).kept (sound.kept child)⟩

theorem Turns.sound (turns : Turns before after) (sound : before.Sound) : after.Sound := by
  induction turns with
  | refl => exact sound
  | tail turns turn ih => exact turn.sound ih

end Step

namespace Scene

theorem sound_create (interpreter : Option String) (startupTimeout : Seconds)
    (memoryLimit : Option Int) : (create interpreter startupTimeout memoryLimit).Sound := by
  constructor
  · intro starting
    cases starting
  · intro child
    have shown : (create interpreter startupTimeout memoryLimit).view child =
        ⟨false, false, false, false, false, false, false, false, false, false, false, false⟩ := by
      simp [view, create, World.empty, World.hasLaunched, World.isRunning, World.hasKilled,
        World.hasClosed, Sandbox.create, Attempt.isOf]
    rw [shown]
    constructor <;> simp

theorem Reachable.sound {scene : Scene} (reached : Reachable scene) : scene.Sound := by
  rcases reached with ⟨interpreter, startupTimeout, memoryLimit, turns⟩
  exact turns.sound (sound_create interpreter startupTimeout memoryLimit)

/-- Who sees to the children of a sandbox. -/
structure Custody (scene : Scene) : Prop where
  /-- A child that is neither in use nor awaited has been killed, or its input has been closed and
  its end is awaited or has come, or it has exited by itself, unless it is forsaken. -/
  accounted : ∀ child < scene.site.world.children.length, ¬ scene.site.sandbox.Owns child →
    child ∉ scene.forsaken →
    .killed child ∈ scene.site.world.journal ∨
      (.closedInput child ∈ scene.site.world.journal ∧
        (.parting child ∈ scene.waits ∨ scene.site.world.isRunning child = false)) ∨
      (child ∈ scene.departed ∧ scene.site.world.isRunning child = false)
  /-- A child that has been killed does not run. -/
  killed : ∀ child, .killed child ∈ scene.site.world.journal →
    scene.site.world.isRunning child = false
  /-- A forsaken child is left to itself for good. -/
  forsaken : ∀ child ∈ scene.forsaken, ¬ scene.site.sandbox.Owns child ∧
    .killed child ∉ scene.site.world.journal ∧ .closedInput child ∉ scene.site.world.journal
  /-- Every child that runs is seen to, or forsaken. -/
  running : ∀ child, scene.site.world.isRunning child = true →
    scene.site.sandbox.Owns child ∨ .parting child ∈ scene.waits ∨ child ∈ scene.forsaken
  /-- A close that is done in one go leaves running what was forsaken before, the child whose first
  line was awaited, and the child whose end another close awaits, and nothing else. -/
  closed : ∀ child, scene.site.close.world.isRunning child = true ↔
    scene.site.world.isRunning child = true ∧
      (scene.site.sandbox.attempt = .inFlight child ∨ .parting child ∈ scene.waits ∨
        child ∈ scene.forsaken)

theorem owns_iff {scene : Scene} {child : Nat} : scene.site.sandbox.Owns child ↔
    (scene.view child).isCurrent = true ∨ (scene.view child).isStarting = true := by
  rw [Owns, view, beq_iff_eq, Attempt.isOf_iff]

theorem Sound.owns_or {scene : Scene} (sound : scene.Sound) {child : Nat}
    (running : scene.site.world.isRunning child = true) :
    scene.site.sandbox.Owns child ∨ .parting child ∈ scene.waits ∨ child ∈ scene.forsaken := by
  rcases (sound.kept child).running running with current | starting | parting | forsaken
  · exact .inl (owns_iff.mpr (.inl current))
  · exact .inl (owns_iff.mpr (.inr starting))
  · exact .inr (.inl (of_decide_eq_true parting))
  · exact .inr (.inr (of_decide_eq_true forsaken))

/-- Closing does away with the child in use and with no other. -/
theorem isRunning_close (site : Site) (child : Nat) : site.close.world.isRunning child = true ↔
    site.world.isRunning child = true ∧ site.sandbox.current ≠ some child := by
  rw [Site.close]
  cases site.sandbox.current with
  | none => simp
  | some other =>
      simp only [World.isRunning_shutDown, Bool.and_eq_true, decide_eq_true_eq, ne_eq,
        Option.some.injEq]
      exact and_congr_right fun _ => not_congr eq_comm

theorem custody_of_reachable {scene : Scene} (reached : Reachable scene) : Custody scene := by
  have sound := reached.sound
  constructor
  · intro child launched foreign cared
    have kept := sound.kept child
    have isLaunched : (scene.view child).isLaunched = true := decide_eq_true launched
    cases running : scene.site.world.isRunning child with
    | true =>
        rcases sound.owns_or running with owns | parting | forsaken
        · exact absurd owns foreign
        · have closed := kept.parting (decide_eq_true parting)
          exact .inr (.inl ⟨World.hasClosed_iff.mp closed, .inl parting⟩)
        · exact absurd forsaken cared
    | false =>
        rcases kept.ended isLaunched running with killed | departed
        · exact .inl (World.hasKilled_iff.mp killed)
        · exact .inr (.inr ⟨of_decide_eq_true departed, rfl⟩)
  · intro child killed
    exact (sound.kept child).dead (.inl (World.hasKilled_iff.mpr killed))
  · intro child forsaken
    rcases (sound.kept child).forsaken (decide_eq_true forsaken) with
      ⟨unused, unstarted, -, -, -, -, spared, unclosed⟩
    refine ⟨fun owns => ?_, fun killed => ?_, fun closed => ?_⟩
    · rcases owns_iff.mp owns with current | starting
      · exact Bool.false_ne_true (unused.symm.trans current)
      · exact Bool.false_ne_true (unstarted.symm.trans starting)
    · exact Bool.false_ne_true (spared.symm.trans (World.hasKilled_iff.mpr killed))
    · exact Bool.false_ne_true (unclosed.symm.trans (World.hasClosed_iff.mpr closed))
  · exact fun child running => sound.owns_or running
  · intro child
    have kept := sound.kept child
    rw [isRunning_close]
    refine and_congr_right fun running => ⟨fun unused => ?_, ?_⟩
    · rcases sound.owns_or running with (current | inFlight) | parting | forsaken
      · exact absurd current unused
      · exact .inl inFlight
      · exact .inr (.inl parting)
      · exact .inr (.inr forsaken)
    · intro others current
      have inUse : (scene.view child).isCurrent = true := beq_iff_eq.mpr current
      rcases kept.current inUse with ⟨unparted, -, cared⟩
      rcases others with inFlight | parting | forsaken
      · have unused := (kept.starting ((Attempt.isOf_iff child).mpr inFlight)).1
        exact Bool.false_ne_true (unused.symm.trans inUse)
      · exact of_decide_eq_false unparted parting
      · exact of_decide_eq_false cared forsaken

end Scene

/-! ### A close during a start -/

/-- A sandbox whose start waits for a first line. -/
def Site.awaiting : Site :=
  (Site.expecting ⟨.empty, .create none (.whole 30) none⟩ [{ isHeldBack := true }] []).begin

/-- The scene when it has been closed. -/
def Scene.abandoned : Scene :=
  ⟨Site.awaiting.close, [], [], [0]⟩

theorem Scene.reachable_abandoned : Reachable abandoned := by
  refine ⟨none, .whole 30, none, ?_⟩
  have expected : Turn (create none (.whole 30) none)
      ⟨Site.expecting ⟨.empty, .create none (.whole 30) none⟩ [{ isHeldBack := true }] [],
        [], [], []⟩ := .expect _ _
  have launched : Turn
      ⟨Site.expecting ⟨.empty, .create none (.whole 30) none⟩ [{ isHeldBack := true }] [],
        [], [], []⟩ ⟨Site.awaiting, [], [], []⟩ := .launch rfl rfl
  have forsaken : Turn ⟨Site.awaiting, [], [], []⟩ ⟨Site.awaiting.shut, [.closing], [], [0]⟩ :=
    .forsake rfl List.not_mem_nil
  have left : Turn ⟨Site.awaiting.shut, [.closing], [], [0]⟩ abandoned :=
    .leave List.mem_cons_self rfl
  exact (((Relation.ReflTransGen.single expected).tail launched).tail forsaken).tail left

/-- The child of the start runs on, and nobody sees to it any more. -/
theorem Scene.custody_abandoned : Reachable abandoned ∧
    abandoned.site.world.isRunning 0 = true ∧ 0 ∈ abandoned.forsaken ∧
      ¬ abandoned.site.sandbox.Owns 0 ∧ abandoned.site.close.world.isRunning 0 = true := by
  have custody := custody_of_reachable reachable_abandoned
  have running : abandoned.site.world.isRunning 0 = true := rfl
  have forsaken : 0 ∈ abandoned.forsaken := List.mem_cons_self
  exact ⟨reachable_abandoned, running, forsaken, (custody.forsaken 0 forsaken).1,
    (custody.closed 0).mpr ⟨running, .inr (.inr forsaken)⟩⟩

/-- A close during a start leaves the child of that start running, and nobody kills it or closes
its input. -/
theorem Site.isRunning_close_awaiting :
    awaiting.close.Reachable ∧ awaiting.close.world.isRunning 0 = true ∧
      ¬ awaiting.close.sandbox.Owns 0 ∧ .killed 0 ∉ awaiting.close.world.journal ∧
      .closedInput 0 ∉ awaiting.close.world.journal := by
  have reached : awaiting.close.Reachable :=
    (((Reachable.create none (.whole 30) none).expecting [{ isHeldBack := true }] []).begin).perform
      .close
  have spared : awaiting.close.world.hasKilled 0 = false := rfl
  have unclosed : awaiting.close.world.hasClosed 0 = false := rfl
  refine ⟨reached, rfl, not_owns_close awaiting 0, fun killed => ?_, fun closed => ?_⟩
  · exact Bool.false_ne_true (spared.symm.trans (World.hasKilled_iff.mpr killed))
  · exact Bool.false_ne_true (unclosed.symm.trans (World.hasClosed_iff.mpr closed))

end Sandbox
end AnswerKey
