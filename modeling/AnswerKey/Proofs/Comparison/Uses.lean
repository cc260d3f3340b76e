import AnswerKey.Proofs.Comparison.Succession

namespace AnswerKey

/-!
Uses of a helper.

A helper is called only in a child that has acknowledged it, and it is loaded at most once for each
session, although a fault may come with every request.  Both follow from what a bench knows: a
helper that it knows to be loaded for the session a sandbox is in has been acknowledged by the
child in use (`Bench.Steady`).  `Bench.Uses` says what holds between the benches before and after a
use.  It holds of waiting, loading and calling, and so of everything that is put together from
these (`Bench.uses_compareTrees`, `Bench.uses_compareTokens`).
-/

namespace Host

open Sandbox

/-- A child has acknowledged a helper. -/
def HasAcknowledged (host : Host) (helper : Worker.Helper) (child : Nat) : Prop :=
  ∃ position, Acknowledges host.journal child helper position

theorem HasAcknowledged.later {before after : Host} {helper : Worker.Helper} {child : Nat}
    (acknowledged : before.HasAcknowledged helper child) (leads : Leads before after) :
    after.HasAcknowledged helper child := by
  rcases acknowledged with ⟨position, acknowledges⟩
  exact ⟨position, acknowledges.later leads.journal⟩

end Host

namespace Bench

open Sandbox
open Worker (Helper Function)

/-! ### What is known -/

/-- A helper that is known to be loaded has been acknowledged by the child of that session. -/
structure Steady (bench : Bench) : Prop where
  sound : bench.host.bench.Sound
  loads : ∀ helper load, bench.loads.get helper = some load →
    bench.host.During load.handle load.session (bench.host.HasAcknowledged helper)

section Steady

variable {bench before after : Bench}

theorem Steady.processes (steady : bench.Steady) :
    ∀ handle ∈ bench.host.handles, ∃ sandbox, handle = .process sandbox :=
  steady.sound.processes

theorem Steady.valid (steady : bench.Steady) {number : Nat} {sandbox : Sandbox}
    (known : bench.host.sandbox? number = some sandbox) : (bench.site sandbox).Valid :=
  steady.sound.valid number sandbox known

theorem Steady.later (steady : before.Steady) (sound : after.host.bench.Sound)
    (leads : before.host.Leads after.host) (same : after.loads = before.loads) : after.Steady where
  sound := sound
  loads := by
    intro helper load loaded
    rw [same] at loaded
    exact ((steady.loads helper load loaded).later leads).mono fun child acknowledged =>
      acknowledged.later leads

theorem Steady.remember (steady : bench.Steady) {number : Nat} {helper : Helper}
    (during : bench.host.During number (bench.host.session number)
      (bench.host.HasAcknowledged helper)) :
    { bench with
      loads := bench.loads.set helper (some ⟨number, bench.host.session number⟩) }.Steady where
  sound := steady.sound
  loads := by
    intro other load loaded
    rcases eq_or_of_get_set loaded with ⟨rfl, now⟩ | before
    · cases now
      exact during
    · exact steady.loads other load before

theorem Steady.forget (steady : bench.Steady) (helper : Helper) :
    { bench with loads := bench.loads.set helper none }.Steady where
  sound := steady.sound
  loads := by
    intro other load loaded
    rcases eq_or_of_get_set loaded with ⟨-, none⟩ | known
    · cases none
    · exact steady.loads other load known

theorem isLoaded_iff {helper : Helper} {number : Nat} :
    bench.isLoaded helper number = true ↔
      bench.loads.get helper = some ⟨number, bench.host.session number⟩ := by
  rw [isLoaded, beq_iff_eq]

end Steady

/-! ### What a use comes to -/

/-- What may be written for a helper: its load, or a call of one of its functions after the child
has acknowledged a load. -/
def Permits (journal : List Event) (helper : Helper) (child position : Nat)
    (payload : List (String × Json)) : Prop :=
  payload = Site.loading helper ∨
    ∃ function arguments earlier, payload = Site.calling function arguments ∧
      function.helper = helper ∧ earlier + 1 < position ∧
      Acknowledges journal child helper earlier

/-- No load of a helper is acknowledged, and what is known of it stays. -/
structure Unloaded (helper : Helper) (before after : Bench) : Prop where
  same : after.loads.get helper = before.loads.get helper
  none : ∀ position child, before.host.journal.length ≤ position →
    ¬ Acknowledges after.host.journal child helper position

/-- One load of a helper is acknowledged, by the child of the session that the sandbox is in from
then on.  The helper was not known to be loaded for that session, and it is now. -/
structure Loaded (number : Nat) (helper : Helper) (before : Bench) (done : Bool) (after : Bench)
    (position child : Nat) : Prop where
  new : before.loads.get helper ≠ some ⟨number, after.host.session number⟩
  known : after.loads.get helper = some ⟨number, after.host.session number⟩
  ready : done = true → after.host.IsReady number
  serves : after.host.Serves number (after.host.session number) child
  /-- The child has served in no earlier session. -/
  first : ∀ session, before.host.Serves number session child →
    session = after.host.session number
  once : ∀ other server, before.host.journal.length ≤ other →
    Acknowledges after.host.journal server helper other → other = position ∧ server = child

/-- What holds between the benches before and after a helper is used with a sandbox. -/
structure Uses (number : Nat) (helper : Helper) (before : Bench) (done : Bool) (after : Bench) :
    Prop where
  steady : after.Steady
  leads : before.host.Leads after.host
  others : ∀ other, other ≠ helper → after.loads.get other = before.loads.get other
  writes : ∀ position child (id : Int) payload, before.host.journal.length ≤ position →
    after.host.journal[position]? = some (.wrote child (.obj (("id", .int id) :: payload))) →
      Permits after.host.journal helper child position payload
  /-- A sandbox that is ready stays in its session, and stays ready as long as all goes well. -/
  calm : before.host.IsReady number →
    after.host.session number = before.host.session number ∧
      (done = true → after.host.IsReady number)
  loads : Unloaded helper before after ∨
    ∃ position child, Loaded number helper before done after position child

section Composition

variable {number position child : Nat} {helper : Helper} {first second third : Bench} {done : Bool}

theorem Permits.later {before after : List Event} {child position : Nat}
    {payload : List (String × Json)} (permits : Permits before helper child position payload)
    (extension : Extends before after) : Permits after helper child position payload := by
  rcases permits with loads | ⟨function, arguments, earlier, calls, own, before, acknowledges⟩
  · exact .inl loads
  · exact .inr ⟨function, arguments, earlier, calls, own, before, acknowledges.later extension⟩

theorem Unloaded.trans (early : Unloaded helper first second) (late : Unloaded helper second third)
    (extension : Extends second.host.journal third.host.journal) :
    Unloaded helper first third where
  same := late.same.trans early.same
  none := by
    intro position child new acknowledges
    by_cases old : position < second.host.journal.length
    · exact early.none position child new (acknowledges.earlier extension old)
    · exact late.none position child (by omega) acknowledges

theorem Loaded.after (late : Loaded number helper second done third position child)
    (early : Unloaded helper first second) (before : first.host.Leads second.host)
    (after : second.host.Leads third.host) :
    Loaded number helper first done third position child where
  new := early.same ▸ late.new
  known := late.known
  ready := late.ready
  serves := late.serves
  first session serves := late.first session (serves.later before)
  once := by
    intro other server new acknowledges
    by_cases old : other < second.host.journal.length
    · exact absurd (acknowledges.earlier after.journal old) (early.none other server new)
    · exact late.once other server (by omega) acknowledges

theorem Loaded.before (early : Loaded number helper first true second position child)
    (late : Uses number helper second done third) (unloaded : Unloaded helper second third) :
    Loaded number helper first done third position child := by
  rcases late.calm (early.ready rfl) with ⟨session, ready⟩
  constructor
  · rw [session]
    exact early.new
  · rw [unloaded.same, early.known, session]
  · exact ready
  · rw [session]
    exact early.serves.later late.leads
  · rw [session]
    exact early.first
  · intro other server new acknowledges
    by_cases old : other < second.host.journal.length
    · exact early.once other server new (acknowledges.earlier late.leads.journal old)
    · exact absurd acknowledges (unloaded.none other server (by omega))

theorem Uses.refl (bench : Bench) (steady : bench.Steady) :
    Uses number helper bench done bench where
  steady := steady
  leads := .refl _
  others _ _ := rfl
  writes position child id payload new wrote := by
    have inside := (List.getElem?_eq_some_iff.mp wrote).1
    omega
  calm ready := ⟨rfl, fun _ => ready⟩
  loads := .inl ⟨rfl, fun position child new acknowledges => by
    have inside := acknowledges.lt
    omega⟩

theorem Uses.trans (early : Uses number helper first true second)
    (late : Uses number helper second done third) : Uses number helper first done third where
  steady := late.steady
  leads := early.leads.trans late.leads
  others other different := (late.others other different).trans (early.others other different)
  writes := by
    intro position child id payload new wrote
    by_cases old : position < second.host.journal.length
    · rw [late.leads.journal.getElem?_eq old] at wrote
      exact (early.writes position child id payload new wrote).later late.leads.journal
    · exact late.writes position child id payload (by omega) wrote
  calm := by
    intro ready
    rcases early.calm ready with ⟨session, stillReady⟩
    rcases late.calm (stillReady rfl) with ⟨same, endsReady⟩
    exact ⟨same.trans session, endsReady⟩
  loads := by
    rcases early.loads with unloaded | ⟨position, child, loaded⟩
    · rcases late.loads with again | ⟨position, child, loaded⟩
      · exact .inl (unloaded.trans again late.leads.journal)
      · exact .inr ⟨position, child, loaded.after unloaded early.leads late.leads⟩
    · rcases late.loads with unloaded | ⟨place, server, again⟩
      · exact .inr ⟨position, child, loaded.before late unloaded⟩
      · -- the helper would have been loaded for a session for which it was known to be loaded
        rcases late.calm (loaded.ready rfl) with ⟨session, -⟩
        exact absurd loaded.known (session ▸ again.new)

theorem Uses.weaken (uses : Uses number helper first done second) :
    Uses number helper first false second where
  steady := uses.steady
  leads := uses.leads
  others := uses.others
  writes := uses.writes
  calm ready := ⟨(uses.calm ready).1, nofun⟩
  loads := uses.loads.imp_right fun ⟨position, child, loaded⟩ =>
    ⟨position, child, { loaded with ready := nofun }⟩

theorem lasting_uses (number : Nat) (helper : Helper) :
    Lasting fun before done after => before.Steady → Uses number helper before done after where
  refl bench _ steady := .refl bench steady
  trans early late steady := (early steady).trans (late (early steady).steady)
  weaken uses steady := (uses steady).weaken

end Composition

/-! ### Requests -/

/-- Helpers differ in the requests to load them. -/
theorem loading_injective {helper other : Helper}
    (same : Site.loading helper = Site.loading other) : helper = other := by
  cases helper <;> cases other <;> simp [Site.loading, Helper.name] at same ⊢

theorem loading_ne_calling (helper : Helper) (function : Function) (arguments : List Json) :
    Site.loading helper ≠ Site.calling function arguments := by
  simp [Site.loading, Site.calling]

theorem name_injective {function other : Function} (same : function.name = other.name) :
    function = other := by
  cases function <;> cases other <;> simp [Function.name] at same ⊢

/-- Functions differ in the requests to call them. -/
theorem eq_of_calling {function other : Function} {arguments given : List Json}
    (same : Site.calling function arguments = Site.calling other given) : function = other := by
  rcases List.cons.inj (List.cons.inj same).2 with ⟨func, -⟩
  exact name_injective (Json.str.inj (Prod.mk.inj func).2)

/-- What is acknowledged has been written. -/
theorem eq_loading_of_acknowledges {journal : List Event} {helper : Helper} {child position : Nat}
    (acknowledges : Acknowledges journal child helper position) :
    ∃ id : Int, journal[position]? =
      some (.wrote child (.obj (("id", .int id) :: Site.loading helper))) := by
  rcases acknowledges with ⟨id, fields, written, -⟩
  exact ⟨id, written⟩

/-- A bench at which a sandbox has written a request. -/
def requested (bench : Bench) (number : Nat) (sandbox : Sandbox) (payload : List (String × Json)) :
    Bench :=
  bench.update number ((bench.site sandbox).request payload true).2

/-- In a use only the helper that is used is acknowledged. -/
theorem Uses.eq_helper {number : Nat} {helper other : Helper} {before after : Bench} {done : Bool}
    (uses : Uses number helper before done after) {child position : Nat}
    (new : before.host.journal.length ≤ position)
    (acknowledges : Acknowledges after.host.journal child other position) : other = helper := by
  rcases eq_loading_of_acknowledges acknowledges with ⟨id, written⟩
  rcases uses.writes position child id _ new written with same | ⟨function, arguments, -, calls, -⟩
  · exact loading_injective same
  · exact absurd calls (loading_ne_calling other function arguments)

section Request

variable {bench : Bench} {number : Nat} {sandbox : Sandbox} {payload : List (String × Json)}
  (steady : bench.Steady) (known : bench.host.sandbox? number = some sandbox)

include known

theorem sandbox?_requested :
    (bench.requested number sandbox payload).host.sandbox? number =
      some ((bench.site sandbox).request payload true).2.sandbox :=
  Host.sandbox?_update_self known _

theorem isReady_requested {value : Json}
    (answered : ((bench.site sandbox).request payload true).1 = .ok value) :
    (bench.requested number sandbox payload).host.IsReady number :=
  ⟨_, sandbox?_requested known, Site.isReady_request answered⟩

theorem session_requested (isReady : (bench.site sandbox).isReady = true) :
    (bench.requested number sandbox payload).host.session number =
      bench.host.session number := by
  rw [Host.session_of_sandbox? (sandbox?_requested known), Host.session_of_sandbox? known,
    Site.session_request isReady]
  rfl

include steady

theorem leads_requested : bench.host.Leads (bench.requested number sandbox payload).host :=
  Host.leads_update steady.sound known (Site.path_request _ payload true)

theorem steady_requested : (bench.requested number sandbox payload).Steady :=
  steady.later (Host.sound_update steady.sound known (Site.path_request _ payload true))
    (leads_requested steady known) rfl

/-- A sandbox that is ready writes the request to the child in use, and nothing else. -/
theorem wrote_requested (isReady : (bench.site sandbox).isReady = true) {position child : Nat}
    {id : Int} {other : List (String × Json)} (new : bench.host.journal.length ≤ position)
    (wrote : (bench.requested number sandbox payload).host.journal[position]? =
      some (.wrote child (.obj (("id", .int id) :: other)))) :
    sandbox.current = some child ∧ other = payload := by
  rcases Site.exists_current isReady with ⟨inUse, -, current, -⟩
  rcases Site.wrote_of_isReady (steady.valid known) isReady current new wrote with ⟨same, request⟩
  exact ⟨same ▸ current, (List.cons.inj (Json.obj.inj request)).2⟩

/-- A load that is acknowledged has succeeded, and its child is the one in use. -/
theorem acknowledges_requested {helper : Helper} {position child : Nat}
    (new : bench.host.journal.length ≤ position)
    (acknowledges : Acknowledges (bench.requested number sandbox payload).host.journal child helper
      position) :
    payload = Site.loading helper ∧
      (∃ value, ((bench.site sandbox).request payload true).1 = .ok value) ∧
      ((bench.site sandbox).request payload true).2.sandbox.current = some child ∧
      (bench.requested number sandbox payload).host.journal.length = position + 2 :=
  Site.request_of_acknowledges (steady.valid known) new acknowledges

end Request

/-! ### Errands -/

theorem eq_ok_of_nameLate {α : Type} {fault : Fault} {outcome : Except Fault α} {value : α}
    (named : Site.nameLate fault outcome = .ok value) : outcome = .ok value := by
  cases outcome with
  | error other => cases other <;> cases named
  | ok given => exact named

/-- Waiting succeeds just when the sandbox is ready afterwards. -/
theorem isReady_of_perform_waitReady {site : Site}
    (done : ((site.perform .waitReady).1.mapError (·.toException)).isOk = true) :
    site.waitReady.2.isReady = true := by
  cases outcome : site.waitReady with
  | mk result after =>
      rw [Site.perform, outcome] at done
      cases result with
      | error fault => cases done
      | ok _ => exact Site.isReady_of_waitReady outcome

/-- A load succeeds just when its request has a value. -/
theorem perform_load_of_ok {site : Site} {helper : Helper} {value : Json}
    (answered : (site.request (Site.loading helper) true).1 = .ok value) :
    (site.perform (.load (.str helper.name) (.str helper.source))).1 = .ok .null := by
  have outcome : (site.perform (.load (.str helper.name) (.str helper.source))).1 =
      (Site.nameLate (.loadLate (.str helper.name))
        ((site.request (Site.loading helper) true).1.map fun _ => ())).map fun _ => .null := rfl
  rw [outcome, answered]
  rfl

theorem perform_load_of_error {site : Site} {helper : Helper} {fault : Fault}
    (failed : (site.request (Site.loading helper) true).1 = .error fault) :
    ∃ other, (site.perform (.load (.str helper.name) (.str helper.source))).1 = .error other := by
  have outcome : (site.perform (.load (.str helper.name) (.str helper.source))).1 =
      (Site.nameLate (.loadLate (.str helper.name))
        ((site.request (Site.loading helper) true).1.map fun _ => ())).map fun _ => .null := rfl
  rw [outcome, failed]
  cases fault <;> exact ⟨_, rfl⟩

section Errands

variable {bench : Bench} (steady : bench.Steady) (number : Nat) (helper : Helper)

include steady

theorem uses_waitReady :
    Uses number helper bench ((perform number .waitReady).run.run bench).1.isOk
        ((perform number .waitReady).run.run bench).2 ∧
      (((perform number .waitReady).run.run bench).1.isOk = true →
        ((perform number .waitReady).run.run bench).2.host.IsReady number) := by
  cases known : bench.host.sandbox? number with
  | none =>
      rw [run_perform_of_none steady.processes known]
      exact ⟨.refl bench steady, nofun⟩
  | some sandbox =>
      have starts := Site.starts_waitReady (bench.site sandbox)
      have leads := Host.leads_update steady.sound known starts.path
      have sound := Host.sound_update steady.sound known starts.path
      have found := Host.sandbox?_update_self known (bench.site sandbox).waitReady.2
      have ready (done : (((bench.site sandbox).perform .waitReady).1.mapError
          (·.toException)).isOk = true) :
            (bench.host.update number (bench.site sandbox).waitReady.2).IsReady number :=
        ⟨_, found, isReady_of_perform_waitReady done⟩
      rw [run_perform_of_sandbox? known]
      refine ⟨⟨steady.later sound leads rfl, leads, fun _ _ => rfl, ?_, ?_, ?_⟩, ready⟩
      · intro position child id payload new wrote
        exact absurd wrote (starts.not_wrote (steady.valid known) new child _)
      · -- a sandbox that is ready need not wait
        rintro ⟨place, here, isReady⟩
        cases Option.some.inj (here.symm.trans known)
        have waited : (bench.site sandbox).waitReady = (.ok (), bench.site sandbox) :=
          Site.waitReady_of_isReady isReady
        refine ⟨?_, ready⟩
        rw [Host.session_of_sandbox? known]
        refine (Host.session_of_sandbox? found).trans ?_
        rw [waited]
        rfl
      · refine .inl ⟨rfl, fun position child new acknowledges => ?_⟩
        rcases eq_loading_of_acknowledges acknowledges with ⟨id, written⟩
        exact starts.not_wrote (steady.valid known) new child _ written

/-- A helper that is known to be loaded in the session of a sandbox has been acknowledged by the
child in use. -/
theorem hasAcknowledged_of_isLoaded {sandbox : Sandbox} {child : Nat}
    (known : bench.host.sandbox? number = some sandbox)
    (loaded : bench.isLoaded helper number = true) (current : sandbox.current = some child) :
    bench.host.HasAcknowledged helper child := by
  rcases steady.loads helper _ (isLoaded_iff.mp loaded) with ⟨place, found, -, serves⟩
  cases Option.some.inj (found.symm.trans known)
  exact serves (Host.session_of_sandbox? known) child current

/-- The request of a sandbox that is ready is a use of a helper when it loads the helper, or calls
a function of it that is known to be loaded. -/
theorem uses_requested {sandbox : Sandbox} {payload : List (String × Json)} {done : Bool}
    {after : Bench} (known : bench.host.sandbox? number = some sandbox)
    (isReady : (bench.site sandbox).isReady = true)
    (permitted : payload = Site.loading helper ∨ ∃ function arguments,
      payload = Site.calling function arguments ∧ function.helper = helper ∧
        bench.isLoaded helper number = true)
    (host : after.host = (bench.requested number sandbox payload).host)
    (answered : done = true → ∃ value, ((bench.site sandbox).request payload true).1 = .ok value)
    (steadyAfter : after.Steady)
    (others : ∀ other, other ≠ helper → after.loads.get other = bench.loads.get other)
    (loads : Unloaded helper bench after ∨
      ∃ position child, Loaded number helper bench done after position child) :
    Uses number helper bench done after where
  steady := steadyAfter
  leads := host ▸ leads_requested steady known
  others := others
  writes := by
    intro position child id other new wrote
    rw [host] at wrote ⊢
    rcases wrote_requested steady known isReady new wrote with ⟨current, rfl⟩
    rcases permitted with loads | ⟨function, arguments, calls, own, loaded⟩
    · exact .inl loads
    · have acknowledged := hasAcknowledged_of_isLoaded steady number helper known loaded current
      rcases acknowledged with ⟨earlier, acknowledges⟩
      have before := acknowledges.lt
      exact .inr ⟨function, arguments, earlier, calls, own, by omega,
        acknowledges.later (leads_requested steady known).journal⟩
  calm := by
    intro _
    rw [host]
    refine ⟨session_requested known isReady, fun succeeded => ?_⟩
    rcases answered succeeded with ⟨value, answered⟩
    exact isReady_requested known answered
  loads := loads

/-- A call loads nothing. -/
theorem uses_call {function : Function} (arguments : List Json)
    (ready : bench.host.IsReady number) (loaded : bench.isLoaded function.helper number = true) :
    Uses number function.helper bench
      ((perform number (.call (.str function.name) arguments)).run.run bench).1.isOk
      ((perform number (.call (.str function.name) arguments)).run.run bench).2 := by
  rcases ready with ⟨sandbox, known, isReady⟩
  rw [run_perform_of_sandbox? known]
  refine uses_requested steady number _ known isReady
    (.inr ⟨function, arguments, rfl, rfl, loaded⟩) rfl ?_ (steady_requested steady known)
    (fun _ _ => rfl) (.inl ⟨rfl, fun position child new acknowledges => ?_⟩)
  · intro done
    cases answered : ((bench.site sandbox).perform (.call (.str function.name) arguments)).1 with
    | error fault =>
        rw [answered] at done
        cases done
    | ok value => exact ⟨value, eq_ok_of_nameLate answered⟩
  · have loads := (acknowledges_requested steady known new acknowledges).1
    exact loading_ne_calling _ _ _ loads.symm

/-- A load that fails has not been acknowledged. -/
theorem uses_load_of_error {sandbox : Sandbox} {fault : Fault}
    (known : bench.host.sandbox? number = some sandbox)
    (isReady : (bench.site sandbox).isReady = true)
    (failed : ((bench.site sandbox).request (Site.loading helper) true).1 = .error fault) :
    Uses number helper bench false (bench.requested number sandbox (Site.loading helper)) := by
  refine uses_requested steady number helper known isReady (.inl rfl) rfl nofun
    (steady_requested steady known) (fun _ _ => rfl)
    (.inl ⟨rfl, fun position child new acknowledges => ?_⟩)
  rcases acknowledges_requested steady known new acknowledges with ⟨-, ⟨value, answered⟩, -⟩
  cases failed.symm.trans answered

/-- A load that succeeds has been acknowledged by the child in use, and is remembered. -/
theorem uses_load_of_ok {sandbox : Sandbox} {value : Json}
    (known : bench.host.sandbox? number = some sandbox)
    (isReady : (bench.site sandbox).isReady = true)
    (unknown : bench.isLoaded helper number = false)
    (answered : ((bench.site sandbox).request (Site.loading helper) true).1 = .ok value) :
    let requested := bench.requested number sandbox (Site.loading helper)
    Uses number helper bench true
      { requested with
        loads := requested.loads.set helper (some ⟨number, requested.host.session number⟩) } := by
  intro requested
  have found : requested.host.sandbox? number = some _ := sandbox?_requested known
  have session : requested.host.session number = bench.host.session number :=
    session_requested known isReady
  rcases Site.acknowledges_of_request (steady.valid known) answered with
    ⟨position, child, new, acknowledges, current⟩
  have steadyAfter : requested.Steady := steady_requested steady known
  have serves : requested.host.Serves number (requested.host.session number) child :=
    Host.serves_of_current found (steadyAfter.valid found) current
  refine uses_requested steady number helper known isReady (.inl rfl) rfl
    (fun _ => ⟨value, answered⟩)
    (steadyAfter.remember (serves.during.mono fun _ same => ⟨position, same ▸ acknowledges⟩))
    (fun other different => Loads.get_set_of_ne _ _ different)
    (.inr ⟨position, child, ?_, Loads.get_set_self _ _ _, ?_, serves, ?_, ?_⟩)
  · intro loaded
    rw [session] at loaded
    rw [isLoaded_iff.mpr loaded] at unknown
    cases unknown
  · exact fun _ => isReady_requested known answered
  · intro earlier before
    have still : requested.host.Serves number earlier child :=
      before.later (leads_requested steady known)
    exact (still.only _ found (.inl current)).2.trans (Host.session_of_sandbox? found).symm
  · intro other server later again
    rcases acknowledges_requested steady known later again with ⟨-, -, inUse, length⟩
    rcases acknowledges_requested steady known new acknowledges with ⟨-, -, -, same⟩
    exact ⟨by omega, Option.some.inj (inUse.symm.trans current)⟩

/-- A helper that is loaded is known to be loaded, if that succeeds. -/
theorem uses_load (ready : bench.host.IsReady number)
    (unknown : bench.isLoaded helper number = false) :
    let load : Act Bench Unit := do
      let _ ← perform number (.load (.str helper.name) (.str helper.source))
      modify fun bench =>
        { bench with
          loads := bench.loads.set helper (some ⟨number, bench.host.session number⟩) }
    Uses number helper bench (load.run.run bench).1.isOk (load.run.run bench).2 ∧
      ((load.run.run bench).1.isOk = true → (load.run.run bench).2.host.IsReady number ∧
        (load.run.run bench).2.isLoaded helper number = true) := by
  intro load
  rcases ready with ⟨sandbox, known, isReady⟩
  have performed := run_perform_of_sandbox? known (.load (.str helper.name) (.str helper.source))
  cases answered : ((bench.site sandbox).request (Site.loading helper) true).1 with
  | error fault =>
      rcases perform_load_of_error answered with ⟨other, failed⟩
      rw [failed] at performed
      have ran : load.run.run bench = _ := run_bind_error _ performed
      rw [ran]
      exact ⟨uses_load_of_error steady number helper known isReady answered, nofun⟩
  | ok value =>
      rw [perform_load_of_ok answered] at performed
      have ran : load.run.run bench = _ := run_bind_ok _ performed
      rw [ran]
      have uses := uses_load_of_ok steady number helper known isReady unknown answered
      refine ⟨uses, fun _ => ⟨?_, ?_⟩⟩
      · exact isReady_requested known answered
      · exact isLoaded_iff.mpr (Loads.get_set_self _ _ _)

/-- A helper is loaded unless it is known to be, so that it is known to be after all. -/
theorem uses_ensureLoaded :
    Uses number helper bench ((ensureLoaded helper number).run.run bench).1.isOk
        ((ensureLoaded helper number).run.run bench).2 ∧
      (((ensureLoaded helper number).run.run bench).1.isOk = true →
        ((ensureLoaded helper number).run.run bench).2.host.IsReady number ∧
          ((ensureLoaded helper number).run.run bench).2.isLoaded helper number = true) := by
  rcases uses_waitReady steady number helper with ⟨uses, ready⟩
  rw [ensureLoaded]
  cases waited : (perform number .waitReady).run.run bench with
  | mk outcome between =>
      rw [waited] at uses ready
      cases outcome with
      | error exception =>
          rw [run_bind_error _ waited]
          exact ⟨uses, nofun⟩
      | ok value =>
          have looked : (get : Act Bench Bench).run.run between = (.ok between, between) := rfl
          rw [run_bind_ok _ waited, run_bind_ok _ looked]
          cases loaded : between.isLoaded helper number with
          | true => exact ⟨uses, fun _ => ⟨ready rfl, loaded⟩⟩
          | false =>
              rcases uses_load uses.steady number helper (ready rfl) loaded with ⟨later, known⟩
              exact ⟨uses.trans later, known⟩

end Errands

/-! ### Forms and comparisons -/

section Forms

variable {α : Type} (number : Nat)

/-- A function is called after its helper has been loaded. -/
theorem uses_ask (function : Function) (arguments : List Json) {next : Json → Act Bench α}
    (rest : ∀ value, Within (fun before done after =>
      before.Steady → Uses number function.helper before done after) (next value)) :
    Within (fun before done after =>
        before.Steady → Uses number function.helper before done after)
      (ensureLoaded function.helper number >>= fun _ =>
        perform number (.call (.str function.name) arguments) >>= next) := by
  intro bench steady
  rcases uses_ensureLoaded steady number function.helper with ⟨uses, loaded⟩
  cases ran : (ensureLoaded function.helper number).run.run bench with
  | mk outcome between =>
      rw [ran] at uses loaded
      cases outcome with
      | error exception =>
          rw [run_bind_error _ ran]
          exact uses
      | ok value =>
          rw [run_bind_ok _ ran]
          rcases loaded rfl with ⟨ready, isLoaded⟩
          have called := uses_call uses.steady number arguments ready isLoaded
          cases answered :
              (perform number (.call (.str function.name) arguments)).run.run between with
          | mk result after =>
              rw [answered] at called
              cases result with
              | error exception =>
                  rw [run_bind_error _ answered]
                  exact uses.trans called
              | ok value =>
                  rw [run_bind_ok _ answered]
                  exact (uses.trans called).trans (rest value after called.steady)

theorem uses_canonicalForm (code : String) (options : Snippet.Canonical.Options) :
    Within (fun before done after => before.Steady → Uses number .canonical before done after)
      (canonicalForm number code options) :=
  uses_ask number .normalize [.str code, optionFields options, .str "auto"] fun _ =>
    within_pure (lasting_uses number .canonical) _

theorem uses_tokens (code : String) :
    Within (fun before done after => before.Steady → Uses number .tokenizer before done after)
      (tokens number code) := by
  have lasting := lasting_uses number .tokenizer
  refine uses_ask number .tokenize [.str code] fun result => ?_
  split
  · exact within_pure lasting _
  · split
    · exact within_pure lasting _
    · exact within_throw lasting _

theorem uses_compareTrees (submission expected : String) (alternatives : List String)
    (options : Snippet.Canonical.Options) {bench : Bench} (steady : bench.Steady) :
    Uses number .canonical bench false
      ((compareTrees number submission expected alternatives options).run.run bench).2 :=
  within_compareTrees (lasting_uses number .canonical)
    (fun code => uses_canonicalForm number code options) submission expected alternatives bench
    steady

theorem uses_compareTokens (submission expected : String) (alternatives : List String) :
    Within (fun before done after => before.Steady → Uses number .tokenizer before done after)
      (compareTokens number submission expected alternatives) :=
  within_compareTokens (lasting_uses number .tokenizer) (uses_tokens number) submission expected
    alternatives

end Forms

end Bench
end AnswerKey
