import AnswerKey.Proofs.Comparison.Soundness

namespace AnswerKey
namespace Bench

/-!
Everything that can have happened at a bench.

A history starts without sandboxes and goes on with any deeds in any order.  Before each of them
it is laid down anew how the next launches and replies go, so that every fault can come at any
time; the replies that a deed meets only have to be honest.  At the end of every history the bench
is sound (`sound_of_reachable`).
-/

open Sandbox

/-- What is done at a bench. -/
inductive Deed where
  /-- A sandbox is made. -/
  | create (interpreter : Option String) (startupTimeout : Seconds) (memoryLimit : Option Int)
  /-- A start is begun and left in flight if its child holds back. -/
  | begin (number : Nat)
  | start (number : Nat)
  | close (number : Nat)
  | run (number : Nat) (code timeout : Json)
  | ping (number : Nat)
  /-- The child in use exits by itself. -/
  | exit (number : Nat)
  | compareTrees (number : Nat) (submission expected : String) (alternatives : List String)
    (options : Snippet.Canonical.Options)
  | compareTokens (number : Nat) (submission expected : String) (alternatives : List String)
  | forget (helper : Worker.Helper)

/-- The sandbox that a deed is about. -/
def Deed.number? : Deed → Option Nat
  | create _ _ _ => none
  | begin number => some number
  | start number => some number
  | close number => some number
  | run number _ _ => some number
  | ping number => some number
  | exit number => some number
  | compareTrees number _ _ _ _ => some number
  | compareTokens number _ _ _ => some number
  | forget _ => none

/-- Have a sandbox take a step. -/
def step (bench : Bench) (number : Nat) (move : Site → Site) : Bench :=
  match bench.host.sandbox? number with
  | some sandbox => bench.update number (move (bench.site sandbox))
  | none => bench

/-- The bench after a deed. -/
def after (bench : Bench) : Deed → Bench
  | .create interpreter startupTimeout memoryLimit =>
      { bench with
        host := bench.host.add (.process (.create interpreter startupTimeout memoryLimit)) }
  | .begin number => bench.step number Site.begin
  | .start number => ((perform number .start).run.run bench).2
  | .close number => ((perform number .close).run.run bench).2
  | .run number code timeout => ((perform number (.run code timeout)).run.run bench).2
  | .ping number => ((perform number .ping).run.run bench).2
  | .exit number => bench.step number Site.exit
  | .compareTrees number submission expected alternatives options =>
      ((Bench.compareTrees number submission expected alternatives options).run.run bench).2
  | .compareTokens number submission expected alternatives =>
      ((Bench.compareTokens number submission expected alternatives).run.run bench).2
  | .forget helper => ((Bench.forget helper).run.run bench).2

/-- A bench for which it is laid down how the next launches and replies go. -/
def expecting (bench : Bench) (launches : List Launch) (replies : List Reply) : Bench :=
  { bench with host.world.launches := launches, host.world.replies := replies }

/-- Replies that are honest whatever the number of the request are honest in any order. -/
theorem honest_expecting (bench : Bench) (number : Nat) (launches : List Launch)
    {replies : List Reply} (honest : ∀ reply ∈ replies, ∀ id, reply.IsHonest id) :
    (bench.expecting launches replies).Honest number := by
  intro sandbox _ count reply laidDown
  exact honest reply (List.mem_of_getElem? laidDown) _

/-- The benches at the ends of all histories in which the replies are honest. -/
inductive Reachable : Bench → Prop where
  | initial : Reachable ⟨⟨.empty, []⟩, .none⟩
  | deed {bench : Bench} (reached : Reachable bench) (launches : List Launch)
      (replies : List Reply) (deed : Deed)
      (honest : ∀ number, deed.number? = some number →
        (bench.expecting launches replies).Honest number) :
      Reachable ((bench.expecting launches replies).after deed)

theorem Sound.expecting {bench : Bench} (sound : bench.Sound) (launches : List Launch)
    (replies : List Reply) : (bench.expecting launches replies).Sound where
  processes := sound.processes
  valid number sandbox known :=
    have valid := sound.valid number sandbox known
    ⟨valid.below, valid.running, valid.different⟩
  apart := sound.apart
  loads := sound.loads

theorem Sound.step {bench : Bench} (sound : bench.Sound) (number : Nat) {move : Site → Site}
    (leads : ∀ site : Site, site.Valid → Site.Leads site (move site)) :
    (bench.step number move).Sound := by
  rw [Bench.step]
  cases known : bench.host.sandbox? number with
  | none => exact sound
  | some sandbox => exact sound.update known (leads _ (sound.valid number sandbox known))

theorem sandbox?_add_of_some {host : Host} {number : Nat} {old : Sandbox} (sandbox : Sandbox)
    (known : host.sandbox? number = some old) :
    (host.add (.process sandbox)).sandbox? number = some old := by
  have handle := Host.handle?_of_sandbox? known
  have inside : number < host.handles.length := (List.getElem?_eq_some_iff.mp handle).1
  have found : (host.add (.process sandbox)).handle? number = some (.process old) :=
    (List.getElem?_append_left inside).trans handle
  rw [Host.sandbox?, found]

/-- A sandbox that is found was there before or has just been made. -/
theorem sandbox?_of_add {host : Host} {number : Nat} {found sandbox : Sandbox}
    (known : (host.add (.process sandbox)).sandbox? number = some found) :
    host.sandbox? number = some found ∨ found = sandbox := by
  have handle : (host.handles ++ [Handle.process sandbox])[number]? = some (.process found) :=
    Host.handle?_of_sandbox? known
  by_cases inside : number < host.handles.length
  · rw [List.getElem?_append_left inside] at handle
    left
    rw [Host.sandbox?, Host.handle?, handle]
  · rw [List.getElem?_append_right (by omega), List.getElem?_singleton] at handle
    right
    split at handle
    · cases handle
      rfl
    · cases handle

/-- A bench stays sound when a sandbox is added that deals with no child. -/
theorem Sound.add {bench : Bench} (sound : bench.Sound) {sandbox : Sandbox}
    (new : ∀ child, ¬ sandbox.Owns child) :
    { bench with host := bench.host.add (.process sandbox) }.Sound where
  processes := by
    intro handle member
    rcases List.mem_append.mp member with old | last
    · exact sound.processes handle old
    · exact ⟨sandbox, List.mem_singleton.mp last⟩
  valid := by
    intro number found known
    rcases sandbox?_of_add known with old | rfl
    · have valid := sound.valid number found old
      exact ⟨valid.below, valid.running, valid.different⟩
    · exact ⟨fun child owns => absurd owns (new child),
        fun child inFlight => absurd (.inr inFlight) (new child),
        fun child inFlight => absurd (.inr inFlight) (new child)⟩
  apart := by
    intro number other first second different foundFirst foundSecond child owns theirs
    rcases sandbox?_of_add foundFirst with oldFirst | rfl
    · rcases sandbox?_of_add foundSecond with oldSecond | rfl
      · exact sound.apart number other first second different oldFirst oldSecond child owns theirs
      · exact new child theirs
    · exact new child owns
  loads := by
    intro helper load loaded
    rcases sound.loads helper load loaded with ⟨place, known, rest⟩
    exact ⟨place, sandbox?_add_of_some sandbox known, rest⟩

theorem Sound.after {bench : Bench} (sound : bench.Sound) (deed : Deed)
    (honest : ∀ number, deed.number? = some number → bench.Honest number) :
    (bench.after deed).Sound := by
  cases deed with
  | create interpreter startupTimeout memoryLimit =>
      exact sound.add (not_owns_create interpreter startupTimeout memoryLimit)
  | begin number => exact sound.step number fun _ => Site.leads_begin
  | start number => exact (keeps_perform number .start bench sound (honest number rfl)).1
  | close number => exact (keeps_perform number .close bench sound (honest number rfl)).1
  | run number code timeout =>
      exact (keeps_perform number (.run code timeout) bench sound (honest number rfl)).1
  | ping number => exact (keeps_perform number .ping bench sound (honest number rfl)).1
  | exit number => exact sound.step number fun _ => Site.leads_exit
  | compareTrees number submission expected alternatives options =>
      exact (keeps_compareTrees number submission expected alternatives options bench sound
        (honest number rfl)).1
  | compareTokens number submission expected alternatives =>
      exact (keeps_compareTokens number submission expected alternatives bench sound
        (honest number rfl)).1
  | forget helper => exact sound.forget helper

/-- Whatever has happened, what is known is true. -/
theorem sound_of_reachable {bench : Bench} (reached : Reachable bench) : bench.Sound := by
  induction reached with
  | initial =>
      have absent (number : Nat) (sandbox : Sandbox) :
          Host.sandbox? ⟨.empty, []⟩ number ≠ some sandbox := by
        intro known
        cases Host.handle?_of_sandbox? known
      constructor
      · intro handle member
        cases member
      · intro number sandbox known
        exact absurd known (absent number sandbox)
      · intro number other first second _ known
        exact absurd known (absent number first)
      · intro helper load loaded
        rw [Loads.get_none] at loaded
        cases loaded
  | deed reached launches replies deed honest ih =>
      exact (ih.expecting launches replies).after deed honest

end Bench
end AnswerKey
