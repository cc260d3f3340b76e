import AnswerKey.Comparison

namespace AnswerKey

/-!
Engines.  An engine runs and compares programs of one language in the sandbox that is attached to it.
A sandbox may be given to it, or it makes one of its own; only its own one is it ever going to close.
Whenever the sandbox changes, the engine forgets which helpers are loaded.
-/

/-- What comes of running a program. -/
structure Execution where
  isSuccess : Bool
  output : Json
  error : Json

structure Engine where
  attached : Option Nat
  /-- Whether the engine made the attached sandbox itself. -/
  isOwner : Bool
  settings : Settings
  loads : Loads

/-- A host and an engine that uses its sandboxes. -/
structure Desk where
  host : Host
  engine : Engine

namespace Engine

/-- An engine without a sandbox. -/
def create (settings : Settings) : Engine :=
  ⟨none, false, settings, .none⟩

/-- Attach a sandbox, or none. -/
def attach (engine : Engine) (handle : Option Nat) : Engine :=
  if handle = engine.attached then engine
  else { engine with attached := handle, isOwner := false, loads := .none }

end Engine

namespace Desk

/-- Whether the attached sandbox can be used. -/
def isReady (desk : Desk) : Bool :=
  desk.engine.attached.any desk.host.isUsable

/-- Work at the bench of the engine. -/
def atBench {α : Type} (act : Act Bench α) : Act Desk α :=
  .zoom (fun desk => ⟨desk.host, desk.engine.loads⟩)
    (fun bench desk => ⟨bench.host, { desk.engine with loads := bench.loads }⟩) act

/-- Have a sandbox do an errand. -/
def perform (handle : Nat) (errand : Errand) : Act Desk Json :=
  atBench (Bench.perform handle errand)

def attach (handle : Option Nat) : Act Desk Unit :=
  modify fun desk => { desk with engine := desk.engine.attach handle }

/-- Make a sandbox of the engine's own, as its settings ask, unless one is attached. -/
def ensureAttached (desk : Desk) : Nat × Desk :=
  match desk.engine.attached with
  | some handle => (handle, desk)
  | none =>
      let handle := desk.host.handles.length
      (handle,
        { host := desk.host.add (.process (.ofSettings desk.engine.settings))
          engine := { desk.engine with attached := some handle, isOwner := true } })

/-- Start the attached sandbox, or one of the engine's own. -/
def setUp : Act Desk Unit := do
  let handle ← modifyGet ensureAttached
  let _ ← perform handle .start

/-- Part with the attached sandbox, and close it if it is the engine's own. -/
def tearDown : Act Desk Unit := do
  let engine := (← get).engine
  modify fun desk => { desk with engine := .create desk.engine.settings }
  if engine.isOwner then
    if let some handle := engine.attached then
      let _ ← perform handle .close

/-- What is wrong when nothing is attached. -/
def notAttached : Exception :=
  .ofText Exception.sandboxName "Sandbox not attached"

/-- The attached sandbox. -/
def attached : Act Desk Nat := do
  match (← get).engine.attached with
  | some handle => pure handle
  | none => throw notAttached

/-- The parts of the result of a run. -/
def executionOf : Json → Except Exception Execution
  | .obj fields =>
      let field (key : String) : Json := (Json.lookup? key fields).getD .null
      .ok ⟨(field "success").isTruthy, field "output", field "error"⟩
  | value =>
      .error (.attributeError ("'" ++ value.typeName ++ "' object has no attribute 'get'"))

/-- Run a program.  A timeout of null stands for the one of the settings. -/
def execute (code timeout : Json) : Act Desk Execution := do
  let handle ← attached
  let standard := (← get).engine.settings.executionTimeout.toJson
  let result ← perform handle (.run code (if timeout.isNull then standard else timeout))
  match executionOf result with
  | .ok execution => pure execution
  | .error exception => throw exception

def tokens (code : String) : Act Desk (Option (List (Int × String))) := do
  let handle ← attached
  atBench (Bench.tokens handle code)

def compareTokens (submission expected : String) (alternatives : List String) :
    Act Desk Comparison := do
  let handle ← attached
  atBench (Bench.compareTokens handle submission expected alternatives)

/-- Compare canonical forms.  Without a sandbox the comparison is unavailable. -/
def compareTrees (submission expected : String) (alternatives : List String)
    (options : Snippet.Canonical.Options) : Act Desk Comparison := do
  match (← get).engine.attached with
  | none => pure { isMatch := false, isAvailable := false, error := .str notAttached.text }
  | some handle => atBench (Bench.compareTrees handle submission expected alternatives options)

/-- Forget that the helper for canonical forms is loaded. -/
def forgetCanonical : Act Desk Unit :=
  atBench (Bench.forget .canonical)

end Desk
end AnswerKey
