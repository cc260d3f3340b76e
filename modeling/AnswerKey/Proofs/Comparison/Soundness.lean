import AnswerKey.Proofs.Comparison.Acts
import AnswerKey.Proofs.Sandbox.Requests

namespace AnswerKey

/-!
What is known about helpers is true.

A bench remembers for each helper the sandbox and the session that it was last loaded for, and
does not load it again for these.  That is right as long as the child of that session still has
the helper.  So it is, through every fault of a child and for any number of sandboxes:
`Bench.Sound` is kept by everything that is done at a bench (`Bench.Keeps`), provided that replies
are honest.
-/

namespace Host

/-- A sandbox that keeps children. -/
def sandbox? (host : Host) (number : Nat) : Option Sandbox :=
  match host.handle? number with
  | some (.process sandbox) => some sandbox
  | _ => none

/-- Put a sandbox in its place after it has done something. -/
def update (host : Host) (number : Nat) (site : Sandbox.Site) : Host :=
  { host with world := site.world }.set number (.process site.sandbox)

section Update

variable {host : Host} {number : Nat} {sandbox : Sandbox}

theorem handle?_of_sandbox? (known : host.sandbox? number = some sandbox) :
    host.handle? number = some (.process sandbox) := by
  rw [sandbox?] at known
  split at known
  · next found =>
      cases known
      exact found
  · cases known

theorem sandbox?_update_self (known : host.sandbox? number = some sandbox) (site : Sandbox.Site) :
    (host.update number site).sandbox? number = some site.sandbox := by
  have inside : number < host.handles.length :=
    (List.getElem?_eq_some_iff.mp (handle?_of_sandbox? known)).1
  have found : (host.update number site).handle? number = some (.process site.sandbox) :=
    List.getElem?_set_self inside
  rw [sandbox?, found]

theorem sandbox?_update_of_ne {other : Nat} (different : other ≠ number) (site : Sandbox.Site) :
    (host.update number site).sandbox? other = host.sandbox? other := by
  have found : (host.update number site).handle? other = host.handle? other :=
    List.getElem?_set_ne different.symm
  rw [sandbox?, sandbox?, found]

theorem session_of_sandbox? (known : host.sandbox? number = some sandbox) :
    host.session number = sandbox.session := by
  rw [session, handle?_of_sandbox? known]
  rfl

/-- A sandbox that keeps children does its errands in the world of the host. -/
theorem perform_of_sandbox? (known : host.sandbox? number = some sandbox) (errand : Errand) :
    host.perform number errand =
      (((⟨host.world, sandbox⟩ : Sandbox.Site).perform errand).1.mapError (·.toException),
        host.update number ((⟨host.world, sandbox⟩ : Sandbox.Site).perform errand).2) := by
  rw [perform, handle?_of_sandbox? known]
  rfl

/-- Where there is no sandbox no errand is done. -/
theorem perform_of_none (processes : ∀ handle ∈ host.handles, ∃ sandbox, handle = .process sandbox)
    (absent : host.sandbox? number = none) (errand : Errand) :
    host.perform number errand = (.error Sandbox.Fault.notStarted.toException, host) := by
  have nothing : host.handle? number = none := by
    cases found : host.handle? number with
    | none => rfl
    | some handle =>
        rcases processes handle (List.mem_of_getElem? found) with ⟨sandbox, rfl⟩
        rw [sandbox?, found] at absent
        cases absent
  rw [perform, nothing]

end Update
end Host

namespace Bench

open Sandbox

/-- A sandbox at a bench with the children of all. -/
def site (bench : Bench) (sandbox : Sandbox) : Site :=
  ⟨bench.host.world, sandbox⟩

/-- What is known at a bench is true. -/
structure Sound (bench : Bench) : Prop where
  processes : ∀ handle ∈ bench.host.handles, ∃ sandbox, handle = .process sandbox
  valid : ∀ number sandbox, bench.host.sandbox? number = some sandbox → (bench.site sandbox).Valid
  /-- No two sandboxes deal with the same child. -/
  apart : ∀ number other first second, number ≠ other →
    bench.host.sandbox? number = some first → bench.host.sandbox? other = some second →
      ∀ child, first.Owns child → ¬ second.Owns child
  /-- A helper is in place in the child of the session that it was last loaded for. -/
  loads : ∀ helper load, bench.loads.get helper = some load →
    ∃ sandbox, bench.host.sandbox? load.handle = some sandbox ∧ load.session ≤ sandbox.session ∧
      (load.session = sandbox.session →
        ∀ child, sandbox.current = some child → helper ∈ bench.host.world.helpersOf child)

/-- The replies to the next requests of a sandbox are honest. -/
def Honest (bench : Bench) (number : Nat) : Prop :=
  ∀ sandbox, bench.host.sandbox? number = some sandbox → (bench.site sandbox).Honest

/-- A bench at which a sandbox has done something. -/
def update (bench : Bench) (number : Nat) (after : Site) : Bench :=
  { bench with host := bench.host.update number after }

section Update

variable {bench : Bench} {number : Nat} {sandbox : Sandbox} {after : Site}

/-- The children of other sandboxes do not see what one does. -/
theorem foreign_children (sound : bench.Sound) (known : bench.host.sandbox? number = some sandbox)
    (leads : Site.Leads (bench.site sandbox) after) {other : Nat} {foreign : Sandbox}
    (different : other ≠ number) (found : bench.host.sandbox? other = some foreign) {child : Nat}
    (owns : foreign.Owns child) :
    after.world.children[child]? = bench.host.world.children[child]? :=
  leads.others child ((sound.valid other foreign found).below child owns)
    (sound.apart other number foreign sandbox different found known child owns)

theorem valid_update (sound : bench.Sound) (known : bench.host.sandbox? number = some sandbox)
    (leads : Site.Leads (bench.site sandbox) after) (other : Nat) (place : Sandbox)
    (found : (bench.update number after).host.sandbox? other = some place) :
    ((bench.update number after).site place).Valid := by
  by_cases same : other = number
  · subst same
    have now := Host.sandbox?_update_self known after
    cases Option.some.inj (found.symm.trans now)
    exact leads.valid
  · have before : bench.host.sandbox? other = some place :=
      (Host.sandbox?_update_of_ne same after).symm.trans found
    have valid := sound.valid other place before
    constructor
    · intro child owns
      exact Nat.lt_of_lt_of_le (valid.below child owns) leads.grows
    · intro child inFlight
      have kept := foreign_children sound known leads same before (.inr inFlight)
      have running := valid.running child inFlight
      rw [World.isRunning] at running ⊢
      exact kept ▸ running
    · exact valid.different

theorem apart_update (sound : bench.Sound) (known : bench.host.sandbox? number = some sandbox)
    (leads : Site.Leads (bench.site sandbox) after) {other : Nat} {foreign : Sandbox}
    (different : other ≠ number) (found : bench.host.sandbox? other = some foreign) (child : Nat)
    (owns : after.sandbox.Owns child) : ¬ foreign.Owns child := by
  intro theirs
  rcases leads.owned child owns with old | new
  · exact sound.apart other number foreign sandbox different found known child theirs old
  · have below := (sound.valid other foreign found).below child theirs
    exact Nat.lt_irrefl _ (Nat.lt_of_lt_of_le below new)

theorem loads_update (sound : bench.Sound) (known : bench.host.sandbox? number = some sandbox)
    (leads : Site.Leads (bench.site sandbox) after) (helper : Worker.Helper) (load : Load)
    (loaded : bench.loads.get helper = some load) :
    ∃ place, (bench.update number after).host.sandbox? load.handle = some place ∧
      load.session ≤ place.session ∧
        (load.session = place.session → ∀ child, place.current = some child →
          helper ∈ after.world.helpersOf child) := by
  rcases sound.loads helper load loaded with ⟨place, found, session, helpers⟩
  by_cases same : load.handle = number
  · rw [same] at found ⊢
    cases Option.some.inj (found.symm.trans known)
    have later : sandbox.session ≤ after.sandbox.session := leads.session
    refine ⟨after.sandbox, Host.sandbox?_update_self known after, by omega, ?_⟩
    intro thisSession child current
    have unchanged : after.sandbox.session = sandbox.session := by omega
    rcases leads.helpers unchanged child current with ⟨before, kept⟩
    exact kept helper (helpers (by omega) child before)
  · refine ⟨place, (Host.sandbox?_update_of_ne same after).trans found, session, ?_⟩
    intro thisSession child current
    have kept := foreign_children sound known leads same found (.inl current)
    have member := helpers thisSession child current
    rw [World.helpersOf] at member ⊢
    exact kept ▸ member

/-- A bench stays sound whatever one of its sandboxes does. -/
theorem Sound.update (sound : bench.Sound) (known : bench.host.sandbox? number = some sandbox)
    (leads : Site.Leads (bench.site sandbox) after) : (bench.update number after).Sound where
  processes := by
    intro handle member
    rcases List.mem_or_eq_of_mem_set member with old | rfl
    · exact sound.processes handle old
    · exact ⟨after.sandbox, rfl⟩
  valid := valid_update sound known leads
  apart := by
    intro first second place other different foundFirst foundSecond child owns
    by_cases isFirst : first = number
    · subst isFirst
      have now := Host.sandbox?_update_self known after
      cases Option.some.inj (foundFirst.symm.trans now)
      have before := (Host.sandbox?_update_of_ne different.symm after).symm.trans foundSecond
      exact apart_update sound known leads different.symm before child owns
    · have before := (Host.sandbox?_update_of_ne isFirst after).symm.trans foundFirst
      by_cases isSecond : second = number
      · subst isSecond
        have now := Host.sandbox?_update_self known after
        cases Option.some.inj (foundSecond.symm.trans now)
        exact fun theirs => apart_update sound known leads isFirst before child theirs owns
      · have beforeSecond := (Host.sandbox?_update_of_ne isSecond after).symm.trans foundSecond
        exact sound.apart first second place other different before beforeSecond child owns
  loads := loads_update sound known leads

theorem Honest.update (honest : bench.Honest number)
    (known : bench.host.sandbox? number = some sandbox)
    (leads : Site.Leads (bench.site sandbox) after) :
    (bench.update number after).Honest number := by
  intro place found
  cases Option.some.inj (found.symm.trans (Host.sandbox?_update_self known after))
  exact leads.honest (honest sandbox known)

end Update

/-! ### Acts at a bench -/

section Acts

variable {α β : Type}

/-- An act that keeps what is known true, as long as the replies to one sandbox are honest. -/
def Keeps (number : Nat) (act : Act Bench α) : Prop :=
  ∀ bench : Bench, bench.Sound → bench.Honest number →
    (act.run.run bench).2.Sound ∧ (act.run.run bench).2.Honest number

variable {number : Nat}

/-- What is known stays true through any number of acts. -/
theorem lasting_keeps (number : Nat) :
    Lasting fun (before : Bench) _ (after : Bench) =>
      before.Sound → before.Honest number → after.Sound ∧ after.Honest number where
  refl _ _ sound honest := ⟨sound, honest⟩
  trans first second sound honest :=
    have kept := first sound honest
    second kept.1 kept.2
  weaken related := related

theorem keeps_pure (value : α) : Keeps number (pure value) :=
  within_pure (lasting_keeps number) value

theorem keeps_throw (exception : Exception) : Keeps number (throw exception : Act Bench α) :=
  within_throw (lasting_keeps number) exception

theorem keeps_get : Keeps number (get : Act Bench Bench) :=
  within_get (lasting_keeps number)

theorem Keeps.bind {act : Act Bench α} {next : α → Act Bench β} (first : Keeps number act)
    (second : ∀ value, Keeps number (next value)) : Keeps number (act >>= next) :=
  Within.bind (lasting_keeps number) first second

/-! ### Loads -/

/-- What is known after a change was known before, or is the change. -/
theorem eq_or_of_get_set {loads : Loads} {helper other : Worker.Helper} {load : Option Load}
    {found : Load} (loaded : (loads.set helper load).get other = some found) :
    (other = helper ∧ load = some found) ∨ loads.get other = some found := by
  by_cases same : other = helper
  · subst same
    rw [Loads.get_set_self] at loaded
    exact .inl ⟨rfl, loaded⟩
  · rw [Loads.get_set_of_ne _ _ same] at loaded
    exact .inr loaded

/-- What a helper is known to be loaded for may be forgotten. -/
theorem Sound.forget {bench : Bench} (sound : bench.Sound) (helper : Worker.Helper) :
    { bench with loads := bench.loads.set helper none }.Sound where
  processes := sound.processes
  valid := sound.valid
  apart := sound.apart
  loads := by
    intro other load loaded
    rcases eq_or_of_get_set loaded with ⟨-, none⟩ | known
    · cases none
    · exact sound.loads other load known

/-- A helper that is in place may be known to be loaded. -/
theorem Sound.remember {bench : Bench} (sound : bench.Sound) {sandbox : Sandbox}
    (known : bench.host.sandbox? number = some sandbox) {helper : Worker.Helper}
    (inPlace : ∀ child, sandbox.current = some child → helper ∈ bench.host.world.helpersOf child) :
    { bench with
      loads := bench.loads.set helper (some ⟨number, bench.host.session number⟩) }.Sound where
  processes := sound.processes
  valid := sound.valid
  apart := sound.apart
  loads := by
    intro other load loaded
    rcases eq_or_of_get_set loaded with ⟨rfl, now⟩ | before
    · cases now
      have session := Host.session_of_sandbox? known
      exact ⟨sandbox, known, Int.le_of_eq session, fun _ => inPlace⟩
    · exact sound.loads other load before

/-! ### Errands -/

theorem run_perform (number : Nat) (errand : Errand) (bench : Bench) :
    (perform number errand).run.run bench =
      ((bench.host.perform number errand).1,
        { bench with host := (bench.host.perform number errand).2 }) := rfl

theorem run_perform_of_sandbox? {bench : Bench} {sandbox : Sandbox}
    (known : bench.host.sandbox? number = some sandbox) (errand : Errand) :
    (perform number errand).run.run bench =
      (((bench.site sandbox).perform errand).1.mapError (·.toException),
        bench.update number ((bench.site sandbox).perform errand).2) := by
  rw [run_perform, Host.perform_of_sandbox? known]
  rfl

theorem run_perform_of_none {bench : Bench}
    (processes : ∀ handle ∈ bench.host.handles, ∃ sandbox, handle = .process sandbox)
    (absent : bench.host.sandbox? number = none) (errand : Errand) :
    (perform number errand).run.run bench = (.error Fault.notStarted.toException, bench) := by
  rw [run_perform, Host.perform_of_none processes absent]

theorem keeps_perform (number : Nat) (errand : Errand) : Keeps number (perform number errand) := by
  intro bench sound honest
  cases known : bench.host.sandbox? number with
  | none =>
      rw [run_perform_of_none sound.processes known]
      exact ⟨sound, honest⟩
  | some sandbox =>
      have leads := Site.leads_perform (sound.valid number sandbox known) errand
      rw [run_perform_of_sandbox? known]
      exact ⟨sound.update known leads, honest.update known leads⟩

/-! ### Helpers -/

theorem load_eq_ok {site : Site} {name source value : Json}
    (done : (site.perform (.load name source)).1.mapError (·.toException) = .ok value) :
    (site.load name source).1 = .ok () := by
  have outcome : (site.perform (.load name source)).1 =
      (site.load name source).1.map fun _ => .null := rfl
  rw [outcome] at done
  cases loaded : (site.load name source).1 with
  | ok _ => rfl
  | error fault =>
      rw [loaded] at done
      cases done

/-- What is remembered of a helper after its loading is true. -/
theorem keeps_load (number : Nat) (helper : Worker.Helper) :
    Keeps number (do
      let _ ← perform number (.load (.str helper.name) (.str helper.source))
      modify fun bench =>
        { bench with
          loads := bench.loads.set helper (some ⟨number, bench.host.session number⟩) }) := by
  intro bench sound honest
  have kept :=
    keeps_perform number (.load (.str helper.name) (.str helper.source)) bench sound honest
  cases ran : (perform number (.load (.str helper.name) (.str helper.source))).run.run bench with
  | mk outcome after =>
      rw [ran] at kept
      cases outcome with
      | error exception =>
          rw [run_bind_error _ ran]
          exact kept
      | ok value =>
          rw [run_bind_ok _ ran]
          refine ⟨?_, kept.2⟩
          cases known : bench.host.sandbox? number with
          | none =>
              rw [run_perform_of_none sound.processes known] at ran
              cases ran
          | some sandbox =>
              rw [run_perform_of_sandbox? known] at ran
              rcases Prod.mk.inj ran with ⟨outcome, rfl⟩
              refine kept.1.remember (Host.sandbox?_update_self known _) ?_
              intro child current
              exact Site.mem_helpers_of_load (sound.valid number sandbox known)
                (honest sandbox known) (load_eq_ok outcome) current

theorem keeps_ensureLoaded (number : Nat) (helper : Worker.Helper) :
    Keeps number (ensureLoaded helper number) := by
  refine (keeps_perform number .waitReady).bind fun _ => keeps_get.bind fun bench => ?_
  split
  · exact keeps_load number helper
  · exact keeps_pure ()

/-! ### Comparisons -/

theorem keeps_canonicalForm (number : Nat) (code : String) (options : Snippet.Canonical.Options) :
    Keeps number (canonicalForm number code options) :=
  (keeps_ensureLoaded number .canonical).bind fun _ =>
    (keeps_perform number _).bind fun _ => keeps_pure _

theorem keeps_compareTrees (number : Nat) (submission expected : String)
    (alternatives : List String) (options : Snippet.Canonical.Options) :
    Keeps number (compareTrees number submission expected alternatives options) :=
  within_compareTrees (lasting_keeps number) (fun code => keeps_canonicalForm number code options)
    submission expected alternatives

theorem keeps_tokens (number : Nat) (code : String) : Keeps number (tokens number code) := by
  refine (keeps_ensureLoaded number .tokenizer).bind fun _ =>
    (keeps_perform number _).bind fun result => ?_
  split
  · exact keeps_pure _
  · split
    · exact keeps_pure _
    · exact keeps_throw _

theorem keeps_compareTokens (number : Nat) (submission expected : String)
    (alternatives : List String) :
    Keeps number (compareTokens number submission expected alternatives) :=
  within_compareTokens (lasting_keeps number) (keeps_tokens number) submission expected
    alternatives

end Acts

end Bench
end AnswerKey
