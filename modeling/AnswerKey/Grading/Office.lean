import AnswerKey.Grading.Capabilities

namespace AnswerKey
namespace Grading

/-!
Offices.  An office has a host of sandboxes and a staff, one member for each language it serves.  A
member is an engine, or it has its answers prepared: such a member needs no sandbox, and it keeps a
list of what it was asked.
-/

/-- What a prepared member was asked. -/
inductive Call where
  | attach
  | execute (code : Json)
  | compareTokens (submission expected : String) (alternatives : List String)
  | compareTrees (submission expected : String) (alternatives : List String)
      (options : Snippet.Canonical.Options)

/-- A member whose answers are prepared. -/
structure Prepared where
  isReady : Bool
  /-- What everything fails with that is asked of the member. -/
  exception : Option Exception
  execution : Execution
  tokens : Comparison
  trees : Comparison
  calls : List Call

namespace Prepared

/-- Note a call down. -/
def note (call : Call) : Act Prepared Unit :=
  modify fun member => { member with calls := member.calls ++ [call] }

/-- Answer a call as prepared. -/
def answer {α : Type} (call : Call) (prepared : Prepared → α) : Act Prepared α := do
  note call
  let member ← get
  match member.exception with
  | some exception => throw exception
  | none => pure (prepared member)

def capabilities : Capabilities Prepared where
  attach _ := note .attach
  isReady := Prepared.isReady <$> get
  execute code := answer (.execute code) Prepared.execution
  compareTokens submission expected alternatives :=
    answer (.compareTokens submission expected alternatives) Prepared.tokens
  compareTrees submission expected alternatives options :=
    answer (.compareTrees submission expected alternatives options) Prepared.trees

end Prepared

inductive Member where
  | engine (engine : Engine)
  | prepared (prepared : Prepared)

structure Office where
  host : Host
  staff : List Member

namespace Office

/-- Put a member in the place of another. -/
def setMember (office : Office) (number : Nat) (member : Member) : Office :=
  { office with staff := office.staff.set number member }

/-- Have a member of the staff do something. -/
def ask {α : Type} (number : Nat) (byEngine : Act Desk α) (byPrepared : Act Prepared α) :
    Act Office α :=
  ExceptT.mk fun office =>
    match office.staff[number]? with
    | some (.engine engine) =>
        let (outcome, desk) := byEngine.run ⟨office.host, engine⟩
        (outcome, { office with host := desk.host }.setMember number (.engine desk.engine))
    | some (.prepared prepared) =>
        let (outcome, after) := byPrepared.run prepared
        (outcome, office.setMember number (.prepared after))
    | none => (.error Desk.notAttached, office)

/-- The capabilities of a member of the staff. -/
def capabilities (number : Nat) : Capabilities Office where
  attach handle :=
    ask number (Capabilities.ofDesk.attach handle) (Prepared.capabilities.attach handle)
  isReady := ask number Capabilities.ofDesk.isReady Prepared.capabilities.isReady
  execute code :=
    ask number (Capabilities.ofDesk.execute code) (Prepared.capabilities.execute code)
  compareTokens submission expected alternatives :=
    ask number (Capabilities.ofDesk.compareTokens submission expected alternatives)
      (Prepared.capabilities.compareTokens submission expected alternatives)
  compareTrees submission expected alternatives options :=
    ask number (Capabilities.ofDesk.compareTrees submission expected alternatives options)
      (Prepared.capabilities.compareTrees submission expected alternatives options)

end Office
end Grading
end AnswerKey
