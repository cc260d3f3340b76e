import AnswerKey.Engine
import AnswerKey.Proofs.Comparison.Acts
import AnswerKey.Proofs.Comparison.Soundness
import AnswerKey.Proofs.Sandbox.Moves

namespace AnswerKey
namespace Desk

/-!
Acts at a desk.

An engine works at a bench that consists of the host and what the engine knows of its sandboxes.  The
work changes nothing else of the engine.
-/

/-- What is done at the bench of the engine. -/
theorem run_atBench {α : Type} (act : Act Bench α) (desk : Desk) :
    (atBench act).run.run desk =
      ((act.run.run ⟨desk.host, desk.engine.loads⟩).1,
        ⟨(act.run.run ⟨desk.host, desk.engine.loads⟩).2.host,
          { desk.engine with
            loads := (act.run.run ⟨desk.host, desk.engine.loads⟩).2.loads }⟩) :=
  rfl

variable {desk : Desk}

theorem run_attached {number : Nat} (known : desk.engine.attached = some number) :
    attached.run.run desk = (.ok number, desk) := by
  rcases desk with ⟨host, engine⟩
  rcases engine with ⟨own, isOwner, settings, loads⟩
  obtain rfl : own = some number := known
  rfl

theorem run_attached_of_none (nothing : desk.engine.attached = none) :
    attached.run.run desk = (.error notAttached, desk) := by
  rcases desk with ⟨host, engine⟩
  rcases engine with ⟨own, isOwner, settings, loads⟩
  obtain rfl : own = none := nothing
  rfl

/-- An act that needs a sandbox does nothing without one. -/
theorem after_needing {α : Type} (next : Nat → Act Desk α) :
    ((attached >>= next).run.run desk).2 =
      match desk.engine.attached with
      | none => desk
      | some number => ((next number).run.run desk).2 := by
  cases known : desk.engine.attached with
  | none => rw [Bench.run_bind_error next (run_attached_of_none known)]
  | some number => rw [Bench.run_bind_ok next (run_attached known)]

/-- What is done after an act that changes nothing more does not show in the desk. -/
theorem after_bind {α β : Type} (act : Act Desk α) {next : α → Act Desk β}
    (still : ∀ value desk, ((next value).run.run desk).2 = desk) :
    ((act >>= next).run.run desk).2 = (act.run.run desk).2 := by
  cases ran : act.run.run desk with
  | mk outcome after =>
      cases outcome with
      | ok value => rw [Bench.run_bind_ok next ran, still]
      | error exception => rw [Bench.run_bind_error next ran]

end Desk

/-!
What leaves sandboxes open.

No errand but the one to close makes a closed sandbox of an open one, and none makes a sandbox come or
go.  So whatever an engine does with its sandbox short of parting with it, every sandbox of the host
that was open stays open (`Desk.Rests`).
-/

/-! ### One sandbox -/

namespace Sandbox.Site

/-- A start opens a sandbox or leaves it as it is. -/
theorem isClosed_of_starts {before after : Site} (starts : Starts before after)
    (isOpen : before.sandbox.isClosed = false) : after.sandbox.isClosed = false := by
  induction starts with
  | refl => exact isOpen
  | tail _ start ih =>
      cases start with
      | refuse idle refusal => rfl
      | launch idle accepted => rfl
      | settle => rw [isClosed_settle, ih]

theorem isClosed_request {site : Site} (isOpen : site.sandbox.isClosed = false)
    (payload : List (String × Json)) (hasTime : Bool) :
    (site.request payload hasTime).2.sandbox.isClosed = false := by
  rcases request_cases site payload hasTime with
    ⟨ready, starts, after | ⟨child, -, -, after⟩⟩
  · rw [after]
    exact isClosed_of_starts starts isOpen
  · rw [after, isClosed_served]
    exact isClosed_of_starts starts isOpen

theorem isClosed_run {site : Site} (isOpen : site.sandbox.isClosed = false)
    (code timeout : Json) : (site.run code timeout).2.sandbox.isClosed = false := by
  rw [run]
  cases hasGrace timeout with
  | error fault => exact isOpen
  | ok hasTime =>
      have asked := isClosed_request isOpen
        [("op", .str "run"), ("code", code), ("timeout", timeout)] hasTime
      simp only []
      split
      all_goals
        next outcome =>
          rw [outcome] at asked
          exact asked

/-- Only the errand to close closes a sandbox. -/
theorem isClosed_perform {site : Site} (isOpen : site.sandbox.isClosed = false) {errand : Errand}
    (other : errand ≠ .close) : (site.perform errand).2.sandbox.isClosed = false := by
  cases errand with
  | start => exact isClosed_of_starts (starts_start site) isOpen
  | waitReady => exact isClosed_of_starts (starts_waitReady site) isOpen
  | load name source => exact isClosed_request isOpen _ _
  | call function arguments => exact isClosed_request isOpen _ _
  | run code timeout => exact isClosed_run isOpen code timeout
  | ping =>
      have asked := isClosed_request isOpen [("op", .str "ping")] true
      exact asked
  | close => exact absurd rfl other

end Sandbox.Site

/-- An embedded sandbox is not ready any more once it is closed, and whatever else it is asked leaves
it as it is. -/
theorem Embedded.isReady_perform {sandbox : Embedded} (isReady : sandbox.isReady = true)
    {errand : Errand} (other : errand ≠ .close) : (sandbox.perform errand).2.isReady = true := by
  cases errand with
  | start => rfl
  | waitReady => exact isReady
  | load name source => exact isReady
  | call function arguments =>
      rw [perform]
      split <;> exact isReady
  | run code timeout =>
      rw [perform]
      split
      · exact isReady
      · split <;> exact isReady
  | ping => exact isReady
  | close => exact absurd rfl other

/-! ### All sandboxes of a host -/

/-- Whether a sandbox can be worked with, or could be after a start: it has not been closed. -/
def Handle.isOpen : Handle → Bool
  | process sandbox => !sandbox.isClosed
  | embedded sandbox => sandbox.isReady

namespace Host

/-- Whether there is a sandbox with a number that is open. -/
def isOpen (host : Host) (number : Nat) : Bool :=
  (host.handle? number).any Handle.isOpen

/-- Every sandbox of one host is still there in another, and what was open is open. -/
structure Spares (before after : Host) : Prop where
  length : after.handles.length = before.handles.length
  isOpen : ∀ number, before.isOpen number = true → after.isOpen number = true

namespace Spares

theorem refl (host : Host) : host.Spares host :=
  ⟨rfl, fun _ isOpen => isOpen⟩

theorem trans {first second third : Host} (early : first.Spares second)
    (late : second.Spares third) : first.Spares third :=
  ⟨late.length.trans early.length, fun number isOpen => late.isOpen number (early.isOpen number isOpen)⟩

end Spares

section Set

variable {host : Host} {number : Nat} {handle : Handle} (world : Sandbox.World)

theorem isOpen_set_of_ne {other : Nat} (different : other ≠ number) (later : Handle) :
    ({ host with world }.set number later).isOpen other = host.isOpen other := by
  have found : ({ host with world }.set number later).handle? other = host.handle? other :=
    List.getElem?_set_ne different.symm
  rw [isOpen, isOpen, found]

theorem isOpen_set_self (known : host.handle? number = some handle) (later : Handle) :
    ({ host with world }.set number later).isOpen number = later.isOpen := by
  have inside : number < host.handles.length := (List.getElem?_eq_some_iff.mp known).1
  have found : ({ host with world }.set number later).handle? number = some later :=
    List.getElem?_set_self inside
  rw [isOpen, found, Option.any_some]

/-- A sandbox that stays open is put in its place. -/
theorem spares_set {later : Handle} (known : host.handle? number = some handle)
    (stays : handle.isOpen = true → later.isOpen = true) :
    host.Spares ({ host with world }.set number later) := by
  refine ⟨List.length_set, fun other wasOpen => ?_⟩
  by_cases same : other = number
  · subst same
    rw [isOpen, known, Option.any_some] at wasOpen
    rw [isOpen_set_self world known]
    exact stays wasOpen
  · rwa [isOpen_set_of_ne world same]

/-- Where a sandbox is closed, that one is, and no other. -/
theorem isOpen_set_of_closed {later : Handle} (known : host.handle? number = some handle)
    (closed : later.isOpen = false) (other : Nat) :
    ({ host with world }.set number later).isOpen other = (host.isOpen other && other != number) := by
  by_cases same : other = number
  · subst same
    rw [isOpen_set_self world known, closed, bne_self_eq_false, Bool.and_false]
  · rw [isOpen_set_of_ne world same, bne_iff_ne.mpr same, Bool.and_true]

end Set

theorem spares_perform (host : Host) (number : Nat) {errand : Errand} (other : errand ≠ .close) :
    host.Spares (host.perform number errand).2 := by
  rw [perform]
  cases known : host.handle? number with
  | none => exact .refl host
  | some handle =>
      cases handle with
      | process sandbox =>
          refine spares_set _ known fun isOpen => ?_
          have wasOpen : sandbox.isClosed = false := by simpa [Handle.isOpen] using isOpen
          have stays : ((⟨host.world, sandbox⟩ : Sandbox.Site).perform errand).2.sandbox.isClosed =
              false :=
            Sandbox.Site.isClosed_perform wasOpen other
          simp [Handle.isOpen, stays]
      | embedded sandbox =>
          exact spares_set host.world known fun isReady => sandbox.isReady_perform isReady other

/-- Closing a sandbox closes it, and no other. -/
theorem isOpen_close (host : Host) (number other : Nat) :
    (host.perform number .close).2.isOpen other = (host.isOpen other && other != number) := by
  rw [perform]
  cases known : host.handle? number with
  | none =>
      by_cases same : other = number
      · subst same
        simp [isOpen, known]
      · simp [same]
  | some handle =>
      cases handle with
      | process sandbox =>
          have closed : (Handle.process ((⟨host.world, sandbox⟩ : Sandbox.Site).perform
              .close).2.sandbox).isOpen = false := by
            have closed := Sandbox.Site.isClosed_close ⟨host.world, sandbox⟩
            simp [Handle.isOpen, Sandbox.Site.perform, closed]
          exact isOpen_set_of_closed _ known closed other
      | embedded sandbox => exact isOpen_set_of_closed host.world known rfl other

theorem length_perform (host : Host) (number : Nat) (errand : Errand) :
    (host.perform number errand).2.handles.length = host.handles.length := by
  rw [perform]
  cases host.handle? number with
  | none => rfl
  | some handle => cases handle <;> exact List.length_set

end Host

/-! ### Work at a bench -/

namespace Bench

/-- Benches of which the later one has every sandbox of the earlier one, and open if it was. -/
def Spares (before : Bench) (_ : Bool) (after : Bench) : Prop :=
  before.host.Spares after.host

theorem lasting_spares : Lasting Spares where
  refl bench _ := .refl bench.host
  trans early late := Host.Spares.trans early late
  weaken spares := spares

section Acts

variable (number : Nat)

theorem spares_perform (errand : Errand) (other : errand ≠ .close) :
    Within Spares (perform number errand) :=
  fun bench => bench.host.spares_perform number other

/-- What is known of helpers may change. -/
theorem spares_modify (change : Loads → Bench → Loads) :
    Within Spares (modify fun bench => { bench with loads := change bench.loads bench }) :=
  fun bench => .refl bench.host

theorem spares_ensureLoaded (helper : Worker.Helper) :
    Within Spares (ensureLoaded helper number) := by
  refine (spares_perform number .waitReady nofun).bind lasting_spares fun _ =>
    (within_get lasting_spares).bind lasting_spares fun bench => ?_
  split
  · exact (spares_perform number (.load _ _) nofun).bind lasting_spares fun _ =>
      spares_modify fun loads bench => loads.set helper (some ⟨number, bench.host.session number⟩)
  · exact within_pure lasting_spares ()

theorem spares_canonicalForm (code : String) (options : Snippet.Canonical.Options) :
    Within Spares (canonicalForm number code options) :=
  (spares_ensureLoaded number .canonical).bind lasting_spares fun _ =>
    (spares_perform number (.call _ _) nofun).bind lasting_spares fun _ => within_pure lasting_spares _

theorem spares_tokens (code : String) : Within Spares (tokens number code) := by
  refine (spares_ensureLoaded number .tokenizer).bind lasting_spares fun _ =>
    (spares_perform number (.call _ _) nofun).bind lasting_spares fun result => ?_
  split
  · exact within_pure lasting_spares _
  · split
    · exact within_pure lasting_spares _
    · exact within_throw lasting_spares _

end Acts
end Bench

/-! ### Work at a desk -/

/-- The sandbox that an engine has made for itself and still has. -/
def Engine.own (engine : Engine) : Option Nat :=
  if engine.isOwner then engine.attached else none

namespace Desk

/-- A desk where nothing has come or gone: all sandboxes are there, open if they were, and the engine has
the sandbox that it had. -/
structure Rests (before after : Desk) : Prop where
  host : before.host.Spares after.host
  attached : after.engine.attached = before.engine.attached
  isOwner : after.engine.isOwner = before.engine.isOwner

theorem Rests.refl (desk : Desk) : desk.Rests desk :=
  ⟨.refl desk.host, rfl, rfl⟩

theorem Rests.own {before after : Desk} (rests : before.Rests after) :
    after.engine.own = before.engine.own := by
  rw [Engine.own, Engine.own, rests.isOwner, rests.attached]

variable (desk : Desk)

/-- Work at the bench lets the desk rest. -/
theorem rests_atBench {α : Type} {act : Act Bench α} (spares : Bench.Within Bench.Spares act) :
    desk.Rests ((atBench act).run.run desk).2 := by
  rw [run_atBench]
  exact ⟨spares ⟨desk.host, desk.engine.loads⟩, rfl, rfl⟩

theorem rests_execute (code timeout : Json) : desk.Rests ((execute code timeout).run.run desk).2 := by
  rw [execute, after_needing]
  cases known : desk.engine.attached with
  | none => exact .refl desk
  | some number =>
      have got : (get : Act Desk Desk).run.run desk = (.ok desk, desk) := rfl
      simp only []
      rw [Bench.run_bind_ok _ got, after_bind]
      · exact desk.rests_atBench (Bench.spares_perform number (.run _ _) nofun)
      · intro value desk
        split <;> rfl

theorem rests_tokens (code : String) : desk.Rests ((tokens code).run.run desk).2 := by
  rw [tokens, after_needing]
  cases desk.engine.attached with
  | none => exact .refl desk
  | some number => exact desk.rests_atBench (Bench.spares_tokens number code)

theorem rests_compareTokens (submission expected : String) (alternatives : List String) :
    desk.Rests ((compareTokens submission expected alternatives).run.run desk).2 := by
  rw [compareTokens, after_needing]
  cases desk.engine.attached with
  | none => exact .refl desk
  | some number =>
      exact desk.rests_atBench (Bench.within_compareTokens Bench.lasting_spares
        (Bench.spares_tokens number) submission expected alternatives)

theorem rests_compareTrees (submission expected : String) (alternatives : List String)
    (options : Snippet.Canonical.Options) :
    desk.Rests ((compareTrees submission expected alternatives options).run.run desk).2 := by
  have got : (get : Act Desk Desk).run.run desk = (.ok desk, desk) := rfl
  rw [compareTrees, Bench.run_bind_ok _ got]
  cases desk.engine.attached with
  | none => exact .refl desk
  | some number =>
      have spares : Bench.Within Bench.Spares
          (Bench.compareTrees number submission expected alternatives options) :=
        Bench.within_compareTrees Bench.lasting_spares
          (fun code => Bench.spares_canonicalForm number code options) submission expected alternatives
      exact desk.rests_atBench spares

theorem rests_forgetCanonical : desk.Rests (forgetCanonical.run.run desk).2 :=
  desk.rests_atBench (Bench.spares_modify fun loads _ => loads.set .canonical none)

end Desk
end AnswerKey
