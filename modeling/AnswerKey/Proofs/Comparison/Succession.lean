import AnswerKey.Proofs.Comparison.History
import AnswerKey.Proofs.Sandbox.Loading

namespace AnswerKey

/-!
A host at one time and at later ones.

Whatever is done at a host, its journal goes on, and each sandbox stays in the session it is in or
goes on to later ones.  While it stays it takes no other child into use, and a child that it has
in use it has in that session only (`Host.Leads`).  So what is known of the child of a session
remains known for as long as the session lasts (`Host.During`), and the children and the sessions
of a sandbox belong to each other (`Host.Serves`).
-/

namespace Sandbox

/-- What holds between the states of a sandbox before and after some steps, if there were so many
children before. -/
structure Succeeds (count : Nat) (before after : Sandbox) : Prop where
  session : before.session ≤ after.session
  within : after.session = before.session → ∀ child, after.current = some child →
    before.current = some child
  stays : ∀ child, child < count → after.Owns child → before.Owns child ∧
    (before.current = some child →
      after.current = some child ∧ after.session = before.session)

namespace Succeeds

theorem refl (count : Nat) (sandbox : Sandbox) : Succeeds count sandbox sandbox where
  session := Nat.le_refl _
  within _ _ := id
  stays _ _ owns := ⟨owns, fun current => ⟨current, rfl⟩⟩

theorem trans {count more : Nat} {first second third : Sandbox} (grows : count ≤ more)
    (before : Succeeds count first second) (after : Succeeds more second third) :
    Succeeds count first third where
  session := Nat.le_trans before.session after.session
  within := by
    intro same child current
    have early := before.session
    have late := after.session
    exact before.within (by omega) child (after.within (by omega) child current)
  stays := by
    intro child below owns
    rcases after.stays child (by omega) owns with ⟨between, keptLate⟩
    rcases before.stays child below between with ⟨owned, keptEarly⟩
    refine ⟨owned, fun current => ?_⟩
    rcases keptEarly current with ⟨inUse, early⟩
    rcases keptLate inUse with ⟨still, late⟩
    exact ⟨still, late.trans early⟩

theorem ofPath {before after : Site} (path : Site.Path before after) (valid : before.Valid) :
    Succeeds before.world.children.length before.sandbox after.sandbox where
  session := (path.leads valid).session
  within same child current := ((path.leads valid).helpers same child current).1
  stays := by
    intro child below owns
    refine ⟨?_, fun current => path.stays valid current owns⟩
    rcases (path.leads valid).owned child owns with old | new
    · exact old
    · omega

end Succeeds
end Sandbox

namespace Host

open Sandbox

/-- What has happened at a host. -/
abbrev journal (host : Host) : List Event :=
  host.world.journal

/-- A bench at which nothing is known about helpers. -/
def bench (host : Host) : Bench :=
  ⟨host, .none⟩

/-- Whether the sandbox with a number has a child in use that runs. -/
def IsReady (host : Host) (number : Nat) : Prop :=
  ∃ sandbox, host.sandbox? number = some sandbox ∧ (host.bench.site sandbox).isReady = true

/-- What holds between the states of a host before and after anything is done. -/
structure Leads (before after : Host) : Prop where
  journal : Extends before.journal after.journal
  grows : before.world.children.length ≤ after.world.children.length
  sandboxes : ∀ number sandbox, before.sandbox? number = some sandbox →
    ∃ later, after.sandbox? number = some later ∧
      Succeeds before.world.children.length sandbox later

namespace Leads

variable {first second third : Host}

theorem refl (host : Host) : Leads host host where
  journal := .refl _
  grows := Nat.le_refl _
  sandboxes _ sandbox known := ⟨sandbox, known, .refl _ sandbox⟩

theorem trans (before : Leads first second) (after : Leads second third) : Leads first third where
  journal := before.journal.trans after.journal
  grows := Nat.le_trans before.grows after.grows
  sandboxes := by
    intro number sandbox known
    rcases before.sandboxes number sandbox known with ⟨between, found, early⟩
    rcases after.sandboxes number between found with ⟨later, foundLater, late⟩
    exact ⟨later, foundLater, early.trans before.grows late⟩

end Leads

/-! ### Sessions -/

/-- A session that a sandbox has been in: if it still is, only children with a given property are
in use. -/
def During (host : Host) (number : Nat) (session : Int) (holds : Nat → Prop) : Prop :=
  ∃ sandbox, host.sandbox? number = some sandbox ∧ session ≤ sandbox.session ∧
    (session = sandbox.session → ∀ child, sandbox.current = some child → holds child)

namespace During

variable {host before after : Host} {number : Nat} {session : Int} {holds : Nat → Prop}

theorem mono {weaker : Nat → Prop} (during : host.During number session holds)
    (implies : ∀ child, holds child → weaker child) : host.During number session weaker := by
  rcases during with ⟨sandbox, known, past, serves⟩
  exact ⟨sandbox, known, past, fun same child current => implies child (serves same child current)⟩

/-- What is known of a session remains known. -/
theorem later (during : before.During number session holds) (leads : Leads before after) :
    after.During number session holds := by
  rcases during with ⟨sandbox, known, past, serves⟩
  rcases leads.sandboxes number sandbox known with ⟨next, found, succeeds⟩
  have session := succeeds.session
  refine ⟨next, found, by omega, fun same child current => ?_⟩
  exact serves (by omega) child (succeeds.within (by omega) child current)

/-- A session that still lasts has lasted before. -/
theorem session_eq (during : before.During number session holds) (leads : Leads before after)
    (lasts : session = after.session number) : session = before.session number := by
  rcases during with ⟨sandbox, known, past, -⟩
  rcases leads.sandboxes number sandbox known with ⟨next, found, succeeds⟩
  have later := succeeds.session
  rw [session_of_sandbox? found] at lasts
  rw [session_of_sandbox? known]
  omega

end During

/-- In a session of a sandbox no other child than the given one is in use, and that child is in use
in no other session. -/
structure Serves (host : Host) (number : Nat) (session : Int) (child : Nat) : Prop where
  during : host.During number session (· = child)
  below : child < host.world.children.length
  only : ∀ sandbox, host.sandbox? number = some sandbox → sandbox.Owns child →
    sandbox.current = some child ∧ session = sandbox.session

/-- The child in use serves in the session that the sandbox is in. -/
theorem serves_of_current {host : Host} {number child : Nat} {sandbox : Sandbox}
    (known : host.sandbox? number = some sandbox) (valid : (host.bench.site sandbox).Valid)
    (current : sandbox.current = some child) :
    host.Serves number (host.session number) child where
  during := by
    refine ⟨sandbox, known, Int.le_of_eq (session_of_sandbox? known), fun _ other inUse => ?_⟩
    exact Option.some.inj (inUse.symm.trans current)
  below := valid.below child (.inl current)
  only := by
    intro place found _
    cases Option.some.inj (found.symm.trans known)
    exact ⟨current, session_of_sandbox? known⟩

/-- Children and sessions belong to each other for good. -/
theorem Serves.later {before after : Host} {number child : Nat} {session : Int}
    (serves : before.Serves number session child) (leads : Leads before after) :
    after.Serves number session child where
  during := serves.during.later leads
  below := Nat.lt_of_lt_of_le serves.below leads.grows
  only := by
    intro place found owns
    rcases serves.during with ⟨sandbox, known, -⟩
    rcases leads.sandboxes number sandbox known with ⟨next, foundNext, succeeds⟩
    cases Option.some.inj (foundNext.symm.trans found)
    rcases succeeds.stays child serves.below owns with ⟨owned, kept⟩
    rcases serves.only sandbox known owned with ⟨current, same⟩
    rcases kept current with ⟨still, later⟩
    exact ⟨still, by omega⟩

/-! ### What is done at a host -/

section Deeds

variable {host : Host} (sound : host.bench.Sound)

include sound

/-- A sandbox that moves touches no other. -/
theorem leads_update {number : Nat} {sandbox : Sandbox} {after : Site}
    (known : host.sandbox? number = some sandbox)
    (path : Site.Path (host.bench.site sandbox) after) : Leads host (host.update number after) := by
  have valid : (host.bench.site sandbox).Valid := sound.valid number sandbox known
  refine ⟨path.extends valid, (path.leads valid).grows, fun other place found => ?_⟩
  by_cases same : other = number
  · rw [same] at found ⊢
    cases Option.some.inj (found.symm.trans known)
    exact ⟨after.sandbox, sandbox?_update_self known after, .ofPath path valid⟩
  · exact ⟨place, (sandbox?_update_of_ne same after).trans found, .refl _ place⟩

theorem sound_update {number : Nat} {sandbox : Sandbox} {after : Site}
    (known : host.sandbox? number = some sandbox)
    (path : Site.Path (host.bench.site sandbox) after) : (host.update number after).bench.Sound :=
  have valid : (host.bench.site sandbox).Valid := sound.valid number sandbox known
  sound.update known (path.leads valid)

theorem leads_step (number : Nat) {move : Site → Site}
    (path : ∀ site, Site.Path site (move site)) :
    Leads host (host.bench.step number move).host ∧
      (host.bench.step number move).host.bench.Sound := by
  rw [Bench.step]
  cases known : host.bench.host.sandbox? number with
  | none => exact ⟨.refl host, sound⟩
  | some sandbox => exact ⟨leads_update sound known (path _), sound_update sound known (path _)⟩

theorem leads_perform (number : Nat) (errand : Errand) :
    Leads host (host.perform number errand).2 ∧ (host.perform number errand).2.bench.Sound := by
  have processes : ∀ handle ∈ host.handles, ∃ sandbox, handle = .process sandbox := sound.processes
  cases known : host.sandbox? number with
  | none =>
      rw [perform_of_none processes known]
      exact ⟨.refl host, sound⟩
  | some sandbox =>
      have path := Site.path_perform (host.bench.site sandbox) errand
      rw [perform_of_sandbox? known]
      exact ⟨leads_update sound known path, sound_update sound known path⟩

end Deeds

theorem leads_add (host : Host) (sandbox : Sandbox) :
    Leads host (host.add (.process sandbox)) where
  journal := .refl _
  grows := Nat.le_refl _
  sandboxes _ old known := ⟨old, Bench.sandbox?_add_of_some sandbox known, .refl _ old⟩

theorem leads_expecting (host : Host) (launches : List Launch) (replies : List Reply) :
    Leads host (host.bench.expecting launches replies).host where
  journal := .refl _
  grows := Nat.le_refl _
  sandboxes _ old known := ⟨old, known, .refl _ old⟩

end Host
end AnswerKey
