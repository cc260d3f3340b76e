import AnswerKey.Proofs.Engine.Sparing

namespace AnswerKey
namespace Desk

/-!
Which sandboxes an engine closes.

An engine makes a sandbox when it is set up without one, and it closes that one when it is torn down.
A ledger beside the desk tells of every sandbox that the engine has made what has become of it: it is
the engine's own still, or the engine has parted with it, closed or open.  Nothing else is ever closed
by the engine, but a sandbox of its own that is replaced by another is left open, and as it is nobody's
own from then on, no engine closes it any more (`Ledger.balanced_of_reachable`).
-/

/-- What is done with an engine. -/
inductive Deed where
  /-- A sandbox is given to the engine, or its sandbox is taken away. -/
  | attach (handle : Option Nat)
  | setUp
  | tearDown
  | execute (code timeout : Json)
  | tokens (code : String)
  | compareTokens (submission expected : String) (alternatives : List String)
  | compareTrees (submission expected : String) (alternatives : List String)
    (options : Snippet.Canonical.Options)
  | forgetCanonical

/-- The desk after a deed, whether it has succeeded or failed. -/
def after (desk : Desk) : Deed → Desk
  | .attach handle => ((attach handle).run.run desk).2
  | .setUp => (setUp.run.run desk).2
  | .tearDown => (tearDown.run.run desk).2
  | .execute code timeout => ((execute code timeout).run.run desk).2
  | .tokens code => ((tokens code).run.run desk).2
  | .compareTokens submission expected alternatives =>
      ((compareTokens submission expected alternatives).run.run desk).2
  | .compareTrees submission expected alternatives options =>
      ((compareTrees submission expected alternatives options).run.run desk).2
  | .forgetCanonical => (forgetCanonical.run.run desk).2

/-! ### What a deed can do -/

section Deeds

variable (desk : Desk)

theorem after_attach (handle : Option Nat) :
    desk.after (.attach handle) = { desk with engine := desk.engine.attach handle } := rfl

/-- After the start of a sandbox the desk rests as the engine has left it. -/
theorem rests_setUp : (ensureAttached desk).2.Rests (desk.after .setUp) := by
  have made : (modifyGet ensureAttached : Act Desk Nat).run.run desk =
      (.ok (ensureAttached desk).1, (ensureAttached desk).2) := rfl
  rw [after, setUp, Bench.run_bind_ok _ made, after_bind _ fun _ _ => rfl]
  exact (ensureAttached desk).2.rests_atBench (Bench.spares_perform _ .start nofun)

/-- Only an own sandbox is closed at the end. -/
theorem after_tearDown :
    desk.after .tearDown =
      ⟨match desk.engine.own with
        | none => desk.host
        | some number => (desk.host.perform number .close).2, .create desk.engine.settings⟩ := by
  rcases desk with ⟨host, attached, isOwner, settings, loads⟩
  cases isOwner with
  | false => rfl
  | true =>
      cases attached with
      | none => rfl
      | some number =>
          let parted : Desk := ⟨host, .create settings⟩
          have closed : (perform number .close).run.run parted =
              ((host.perform number .close).1,
                ⟨(host.perform number .close).2, .create settings⟩) := rfl
          have after : ((perform number .close >>= fun _ => pure ()).run.run parted).2 =
              ⟨(host.perform number .close).2, .create settings⟩ := by
            rw [after_bind _ fun _ _ => rfl, closed]
          exact after

/-- What a deed does to the sandboxes: it lets the desk rest, makes an own one, closes the own one, or
replaces it. -/
inductive Turn (before : Desk) : Deed → Desk → Prop
  | rests {deed : Deed} {after : Desk} (spares : before.host.Spares after.host)
      (own : after.engine.own = before.engine.own) : Turn before deed after
  | makes {after : Desk} (nothing : before.engine.own = none)
      (own : after.engine.own = some before.host.handles.length)
      (length : after.host.handles.length = before.host.handles.length + 1)
      (isOpen : ∀ number, before.host.isOpen number = true → after.host.isOpen number = true) :
      Turn before .setUp after
  | closes {after : Desk} {number : Nat} (own : before.engine.own = some number)
      (host : after.host = (before.host.perform number .close).2)
      (parted : after.engine.own = none) : Turn before .tearDown after
  | replaces {after : Desk} {handle : Option Nat} {number : Nat}
      (own : before.engine.own = some number) (other : handle ≠ some number)
      (host : after.host = before.host) (parted : after.engine.own = none) :
      Turn before (.attach handle) after

theorem attached_of_own {engine : Engine} {number : Nat} (own : engine.own = some number) :
    engine.attached = some number := by
  rw [Engine.own] at own
  split at own
  · exact own
  · cases own

theorem turn_attach (handle : Option Nat) : Turn desk (.attach handle) (desk.after (.attach handle)) := by
  rw [after_attach, Engine.attach]
  by_cases same : handle = desk.engine.attached
  · rw [if_pos same]
    exact .rests (.refl desk.host) rfl
  · rw [if_neg same]
    cases own : desk.engine.own with
    | none => exact .rests (.refl desk.host) own.symm
    | some number =>
        refine .replaces own (fun equal => same ?_) rfl rfl
        exact equal.trans (attached_of_own own).symm

theorem turn_setUp : Turn desk .setUp (desk.after .setUp) := by
  have rests := desk.rests_setUp
  cases attached : desk.engine.attached with
  | some number =>
      have kept : (ensureAttached desk).2 = desk := by rw [ensureAttached, attached]
      rw [kept] at rests
      exact .rests rests.host rests.own
  | none =>
      have made : (ensureAttached desk).2 =
          { host := desk.host.add (.process (.ofSettings desk.engine.settings))
            engine :=
              { desk.engine with attached := some desk.host.handles.length, isOwner := true } } := by
        rw [ensureAttached, attached]
      rw [made] at rests
      refine .makes ?_ rests.own (rests.host.length.trans (List.length_append ..)) ?_
      · rw [Engine.own, attached, ite_self]
      · intro number isOpen
        refine rests.host.isOpen number ?_
        rw [Host.isOpen, Option.any_eq_true] at isOpen ⊢
        rcases isOpen with ⟨handle, known, opened⟩
        have inside : number < desk.host.handles.length := (List.getElem?_eq_some_iff.mp known).1
        exact ⟨handle, (List.getElem?_append_left inside).trans known, opened⟩

theorem turn_tearDown : Turn desk .tearDown (desk.after .tearDown) := by
  rw [after_tearDown]
  cases own : desk.engine.own with
  | none => exact .rests (.refl desk.host) own.symm
  | some number => exact .closes own rfl rfl

/-- Every deed is one of these turns. -/
theorem turn_after (deed : Deed) : Turn desk deed (desk.after deed) := by
  cases deed with
  | attach handle => exact desk.turn_attach handle
  | setUp => exact desk.turn_setUp
  | tearDown => exact desk.turn_tearDown
  | execute code timeout =>
      have rests := desk.rests_execute code timeout
      exact .rests rests.host rests.own
  | tokens code =>
      have rests := desk.rests_tokens code
      exact .rests rests.host rests.own
  | compareTokens submission expected alternatives =>
      have rests := desk.rests_compareTokens submission expected alternatives
      exact .rests rests.host rests.own
  | compareTrees submission expected alternatives options =>
      have rests := desk.rests_compareTrees submission expected alternatives options
      exact .rests rests.host rests.own
  | forgetCanonical =>
      have rests := desk.rests_forgetCanonical
      exact .rests rests.host rests.own

end Deeds

/-! ### Ledgers -/

/-- A desk and what has become of the sandboxes that its engine has made. -/
structure Ledger where
  desk : Desk
  /-- The sandboxes that the engine has made. -/
  made : List Nat
  /-- The sandboxes of its own that the engine has parted with and that were closed then. -/
  closed : List Nat
  /-- The sandboxes of its own that the engine has parted with and that were open then. -/
  dropped : List Nat

namespace Ledger

/-- The own sandbox that the engine of a desk does not have any more. -/
def parted (before after : Desk) : List Nat :=
  (before.engine.own.filter fun number => after.engine.own != some number).toList

/-- The ledger after a deed.  New sandboxes are those that have numbers that were not in use. -/
def after (ledger : Ledger) (deed : Deed) : Ledger :=
  let before := ledger.desk
  let desk := before.after deed
  { desk
    made := ledger.made ++ List.range' before.host.handles.length
      (desk.host.handles.length - before.host.handles.length)
    closed := ledger.closed ++ (parted before desk).filter fun number => !desk.host.isOpen number
    dropped := ledger.dropped ++ (parted before desk).filter desk.host.isOpen }

/-- The ledgers of an engine at the end of anything that can have been done with it.  Between its deeds
others may do with all sandboxes what they like, and make more. -/
inductive Reachable : Ledger → Prop
  | initial (host : Host) (settings : Settings) : Reachable ⟨⟨host, .create settings⟩, [], [], []⟩
  | deed {ledger : Ledger} (reached : Reachable ledger) (deed : Deed) :
      Reachable (ledger.after deed)
  | others {ledger : Ledger} (reached : Reachable ledger) (host : Host)
      (more : ledger.desk.host.handles.length ≤ host.handles.length) :
      Reachable { ledger with desk.host := host }

/-- Every sandbox that the engine has made is in the books, and once. -/
structure Complete (ledger : Ledger) : Prop where
  distinct : ledger.made.Nodup
  known : ∀ number ∈ ledger.made, number < ledger.desk.host.handles.length
  complete : ledger.made.Perm
    (ledger.desk.engine.own.toList ++ ledger.closed ++ ledger.dropped)

section Turns

variable {before after : Desk} {deed : Deed}

/-- What the engine gets and what it has had are what it has and what it parts with. -/
theorem perm_of_turn (turn : Turn before deed after) :
    (before.engine.own.toList ++ List.range' before.host.handles.length
        (after.host.handles.length - before.host.handles.length)).Perm
      (after.engine.own.toList ++ parted before after) := by
  cases turn with
  | rests spares own =>
      have kept : parted before after = [] := by
        rw [parted, own]
        cases before.engine.own <;> simp
      rw [kept, own, spares.length, Nat.sub_self]
      exact .refl _
  | makes nothing own length isOpen =>
      have none : parted before after = [] := by rw [parted, nothing]; rfl
      have one : before.host.handles.length + 1 - before.host.handles.length = 1 := by omega
      rw [none, nothing, own, length, one]
      exact .refl _
  | closes own host gone =>
      have length : after.host.handles.length = before.host.handles.length := by
        rw [host, Host.length_perform]
      rw [length, Nat.sub_self, parted, own, gone]
      exact .refl _
  | replaces own other host gone =>
      rw [host, Nat.sub_self, parted, own, gone]
      exact .refl _

theorem length_le_of_turn (turn : Turn before deed after) :
    before.host.handles.length ≤ after.host.handles.length := by
  cases turn with
  | rests spares own => exact Nat.le_of_eq spares.length.symm
  | makes nothing own length isOpen => omega
  | closes own host gone => exact Nat.le_of_eq (by rw [host, Host.length_perform])
  | replaces own other host gone => exact Nat.le_of_eq (by rw [host])

end Turns

theorem Complete.after {ledger : Ledger} (complete : ledger.Complete) (deed : Deed) :
    (ledger.after deed).Complete := by
  have turn := ledger.desk.turn_after deed
  have longer := length_le_of_turn turn
  refine ⟨?_, ?_, ?_⟩
  · refine List.nodup_append.mpr ⟨complete.distinct, List.nodup_range', ?_⟩
    intro old member new fresh
    have below := complete.known old member
    have above := (List.mem_range'_1.mp fresh).1
    omega
  · intro number member
    rcases List.mem_append.mp member with old | new
    · exact Nat.lt_of_lt_of_le (complete.known number old) longer
    · have below := (List.mem_range'_1.mp new).2
      change number < (ledger.desk.after deed).host.handles.length
      omega
  · -- Both sides are counted: what a turn exchanges is the same on both.
    have exchanged := List.perm_iff_count.mp (perm_of_turn turn)
    have balanced := List.perm_iff_count.mp complete.complete
    refine List.perm_iff_count.mpr fun number => ?_
    have split := List.perm_iff_count.mp (List.filter_append_perm
      (ledger.desk.after deed).host.isOpen (parted ledger.desk (ledger.desk.after deed))) number
    have traded := exchanged number
    have known := balanced number
    simp only [Ledger.after, List.count_append] at split traded known ⊢
    omega

theorem complete_of_reachable {ledger : Ledger} (reached : ledger.Reachable) : ledger.Complete := by
  induction reached with
  | initial host settings => exact ⟨.nil, nofun, .refl _⟩
  | deed reached deed ih => exact ih.after deed
  | others reached host more ih =>
      exact ⟨ih.distinct, fun number made => Nat.lt_of_lt_of_le (ih.known number made) more,
        ih.complete⟩

/-! ### What is closed and what is not -/

theorem mem_parted {before after : Desk} {number : Nat} :
    number ∈ parted before after ↔
      before.engine.own = some number ∧ after.engine.own ≠ some number := by
  rw [parted, Option.mem_toList, Option.filter_eq_some_iff, bne_iff_ne]

/-- An engine parts with its own sandbox when it is torn down, or when another takes the place. -/
theorem mem_parted_after {desk : Desk} {deed : Deed} {number : Nat} :
    number ∈ parted desk (desk.after deed) ↔ desk.engine.own = some number ∧
      (deed = .tearDown ∨ ∃ handle, deed = .attach handle ∧ handle ≠ some number) := by
  rw [mem_parted]
  constructor
  · rintro ⟨own, gone⟩
    refine ⟨own, ?_⟩
    cases desk.turn_after deed with
    | rests spares kept => exact absurd (kept.trans own) gone
    | makes nothing made =>
        rw [nothing] at own
        cases own
    | closes => exact .inl rfl
    | replaces former other =>
        cases Option.some.inj (former.symm.trans own)
        exact .inr ⟨_, rfl, other⟩
  · rintro ⟨own, rfl | ⟨handle, rfl, other⟩⟩
    · refine ⟨own, ?_⟩
      rw [after_tearDown]
      exact nofun
    · refine ⟨own, fun still => ?_⟩
      have attached := attached_of_own still
      rw [after_attach, Engine.attach] at attached
      split at attached
      · next same => exact other (same.trans attached)
      · exact other attached

/-- Of the open sandboxes a deed closes none but the engine's own, at the end. -/
theorem own_of_closed {desk : Desk} {deed : Deed} {number : Nat}
    (wasOpen : desk.host.isOpen number = true)
    (closed : (desk.after deed).host.isOpen number = false) :
    deed = .tearDown ∧ desk.engine.own = some number := by
  cases desk.turn_after deed with
  | rests spares kept =>
      rw [spares.isOpen number wasOpen] at closed
      cases closed
  | makes nothing made length isOpen =>
      rw [isOpen number wasOpen] at closed
      cases closed
  | @closes _ mine own host =>
      rw [host, Host.isOpen_close, wasOpen, Bool.true_and] at closed
      have same : number = mine := by simpa using closed
      exact ⟨rfl, same ▸ own⟩
  | replaces own other host =>
      rw [host, wasOpen] at closed
      cases closed

/-- The end of an engine closes its own sandbox. -/
theorem host_tearDown {desk : Desk} {number : Nat} (own : desk.engine.own = some number) :
    (desk.after .tearDown).host = (desk.host.perform number .close).2 := by
  rw [after_tearDown, own]

theorem isOpen_after_parted {desk : Desk} {deed : Deed} {number : Nat}
    (left : number ∈ parted desk (desk.after deed)) :
    (desk.after deed).host.isOpen number = true ↔
      desk.host.isOpen number = true ∧ ∃ handle, deed = .attach handle ∧ handle ≠ some number := by
  rcases mem_parted_after.mp left with ⟨own, rfl | ⟨handle, rfl, other⟩⟩
  · rw [host_tearDown own, Host.isOpen_close]
    simp
  · rw [after_attach]
    exact ⟨fun isOpen => ⟨isOpen, handle, rfl, other⟩, fun dropped => dropped.1⟩

/-- A ledger whose books are right, now and after whatever is done next. -/
structure Balanced (ledger : Ledger) : Prop where
  /-- Each sandbox that the engine has made is its own, or it has parted with it, and only once. -/
  distinct : ledger.made.Nodup
  complete : ledger.made.Perm (ledger.desk.engine.own.toList ++ ledger.closed ++ ledger.dropped)
  /-- A sandbox that the engine does not own is never closed by it, and its own only at the end. -/
  closes : ∀ deed number, ledger.desk.host.isOpen number = true →
    (ledger.desk.after deed).host.isOpen number = false →
      deed = .tearDown ∧ ledger.desk.engine.own = some number ∧ number ∈ ledger.made
  /-- Then it is closed. -/
  ends : ∀ number, ledger.desk.engine.own = some number →
    (ledger.desk.after .tearDown).host = (ledger.desk.host.perform number .close).2 ∧
      number ∈ (ledger.after .tearDown).closed
  /-- An own sandbox is dropped exactly if it is open when another, or none, takes its place. -/
  drops : ∀ deed number, number ∈ (ledger.after deed).dropped ↔
    number ∈ ledger.dropped ∨ ledger.desk.engine.own = some number ∧
      ledger.desk.host.isOpen number = true ∧ ∃ handle, deed = .attach handle ∧ handle ≠ some number
  /-- What has been dropped is never the engine's own again, nor closed by it. -/
  lost : ∀ number ∈ ledger.dropped,
    ledger.desk.engine.own ≠ some number ∧ number ∉ ledger.closed

theorem lost_of_complete {ledger : Ledger} (complete : ledger.Complete) {number : Nat}
    (dropped : number ∈ ledger.dropped) :
    ledger.desk.engine.own ≠ some number ∧ number ∉ ledger.closed := by
  have distinct := complete.complete.nodup_iff.mp complete.distinct
  have apart := (List.nodup_append.mp distinct).2.2
  constructor
  · intro own
    have member : number ∈ ledger.desk.engine.own.toList := Option.mem_toList.mpr own
    exact apart number (List.mem_append_left _ member) number dropped rfl
  · intro closed
    exact apart number (List.mem_append_right _ closed) number dropped rfl

/-- Whatever has been done with an engine, every sandbox that it has made is its own, or closed, or was
dropped for another; and it closes no other. -/
theorem balanced_of_reachable {ledger : Ledger} (reached : ledger.Reachable) : ledger.Balanced := by
  have complete := complete_of_reachable reached
  refine ⟨complete.distinct, complete.complete, ?_, ?_, ?_, fun number => lost_of_complete complete⟩
  · intro deed number wasOpen closed
    rcases own_of_closed wasOpen closed with ⟨rfl, own⟩
    refine ⟨rfl, own, complete.complete.mem_iff.mpr ?_⟩
    exact List.mem_append_left _ (List.mem_append_left _ (Option.mem_toList.mpr own))
  · intro number own
    have left : number ∈ parted ledger.desk (ledger.desk.after .tearDown) :=
      mem_parted_after.mpr ⟨own, .inl rfl⟩
    have closed : (ledger.desk.after .tearDown).host.isOpen number = false := by
      rw [host_tearDown own, Host.isOpen_close, bne_self_eq_false, Bool.and_false]
    refine ⟨host_tearDown own, List.mem_append_right _ (List.mem_filter.mpr ⟨left, ?_⟩)⟩
    rw [closed]
    rfl
  · intro deed number
    change number ∈ ledger.dropped ++
      (parted ledger.desk (ledger.desk.after deed)).filter _ ↔ _
    rw [List.mem_append, List.mem_filter]
    refine or_congr_right ⟨?_, ?_⟩
    · rintro ⟨left, isOpen⟩
      exact ⟨(mem_parted.mp left).1, (isOpen_after_parted left).mp isOpen⟩
    · rintro ⟨own, wasOpen, replaced⟩
      have left := mem_parted_after.mpr ⟨own, .inr replaced⟩
      exact ⟨left, (isOpen_after_parted left).mpr ⟨wasOpen, replaced⟩⟩

/-- A ledger of an engine that has just been made, where there is no sandbox yet. -/
def opening : Ledger :=
  ⟨⟨⟨.empty, []⟩, .create .standard⟩, [], [], []⟩

/-- An engine that is set up and torn down has closed the sandbox that it has made. -/
theorem balanced_round :
    ((opening.after .setUp).after .tearDown).Balanced ∧
      ((opening.after .setUp).after .tearDown).made = [0] ∧
        ((opening.after .setUp).after .tearDown).closed = [0] :=
  ⟨balanced_of_reachable (.deed (.deed (.initial _ _) .setUp) .tearDown), by decide +kernel,
    by decide +kernel⟩

/-- An engine that is set up and then given another sandbox, or none, has dropped the one that it has
made: the sandbox is open and its child runs, also when the engine is torn down after that. -/
theorem dropped_round :
    (((opening.after .setUp).after (.attach none)).after .tearDown).made = [0] ∧
      (((opening.after .setUp).after (.attach none)).after .tearDown).desk.engine.own = none ∧
        (((opening.after .setUp).after (.attach none)).after .tearDown).closed = [] ∧
          (((opening.after .setUp).after (.attach none)).after .tearDown).desk.host.isOpen 0 = true ∧
            (((opening.after .setUp).after (.attach none)).after .tearDown).desk.host.world.isRunning
              0 = true := by
  decide +kernel

end Ledger
end Desk
end AnswerKey
