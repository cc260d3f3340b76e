import AnswerKey.Sandbox.Basic

namespace AnswerKey

/-!
Hosts.  A host keeps every sandbox that has been made and numbers them; whoever uses a sandbox knows
its number.  A sandbox is either a keeper of children or embedded: a worker without a process around
it, with faults and results that are laid down beforehand, which keeps a log of what it is asked.
-/

/-- What anyone may ask of a sandbox. -/
inductive Errand where
  | start
  | waitReady
  | load (name source : Json)
  | call (function : Json) (arguments : List Json)
  | run (code timeout : Json)
  | ping
  | close

/-! ### Embedded sandboxes -/

structure Embedded where
  session : Int
  isReady : Bool
  /-- What every call and every run fails with. -/
  crash : Option Json
  /-- What waiting for the sandbox fails with. -/
  waitFault : Option Json
  /-- What is said when it is asked whether it is starting, if it can be asked. -/
  starting : Option Json
  /-- What is said when it is asked whether it is available, if it can be asked. -/
  available : Option Json
  /-- Results of the next runs. -/
  results : List Json
  worker : Worker
  log : List String

namespace Embedded

/-- An embedded sandbox that is ready and in order. -/
def plain : Embedded where
  session := 1
  isReady := true
  crash := none
  waitFault := none
  starting := none
  available := none
  results := []
  worker := .fresh
  log := []

/-- Note what the sandbox is asked. -/
def note (sandbox : Embedded) (line : String) : Embedded :=
  { sandbox with log := sandbox.log ++ [line] }

def failure (statement : Json) : Exception :=
  ⟨Exception.sandboxName, [statement]⟩

/-- What becomes of the outcome of a request to the worker. -/
def resultOf : Worker.Outcome → Except Exception Json
  | .value value => .ok value
  | .refused fault => .error (failure (.str fault.text))
  | .ended name => .error (failure (.str name))

/-- Do an errand.  Everything that is asked of the worker is noted, also when it fails. -/
def perform (sandbox : Embedded) : Errand → Except Exception Json × Embedded
  | .start => (.ok .null, { sandbox.note "start" with isReady := true })
  | .waitReady =>
      (match sandbox.waitFault with
        | none => .ok .null
        | some fault => .error (failure fault), sandbox)
  | .load name source =>
      let (outcome, worker) := sandbox.worker.load [("name", name), ("source", source)]
      ((resultOf outcome).map fun _ => .null,
        { sandbox.note ("load " ++ name.text) with worker })
  | .call function arguments =>
      let noted := sandbox.note ("call " ++ function.text)
      match sandbox.crash with
      | some fault => (.error (failure fault), noted)
      | none =>
          (resultOf (sandbox.worker.call [("func", function), ("args", .arr arguments)]), noted)
  | .run code timeout =>
      let noted := sandbox.note ("run " ++ timeout.display ++ " " ++ code.text)
      match sandbox.crash with
      | some fault => (.error (failure fault), noted)
      | none =>
          match sandbox.results with
          | result :: rest => (.ok result, { noted with results := rest })
          | [] => (resultOf (Worker.run [("code", code), ("timeout", timeout)]), noted)
  | .ping => (.ok (.bool true), sandbox)
  | .close => (.ok .null, { sandbox.note "close" with isReady := false })

/-- A new session: nothing that was loaded is left. -/
def restart (sandbox : Embedded) : Embedded :=
  { sandbox with session := sandbox.session + 1, worker := .fresh }

end Embedded

/-! ### All sandboxes -/

inductive Handle where
  | process (sandbox : Sandbox)
  | embedded (sandbox : Embedded)

namespace Handle

/-- The session that a sandbox is in. -/
def session : Handle → Int
  | process sandbox => sandbox.session
  | embedded sandbox => sandbox.session

end Handle

namespace Sandbox.Site

/-- Do an errand. -/
def perform (site : Site) : Errand → Except Fault Json × Site
  | .start => valueless site.start
  | .waitReady => valueless site.waitReady
  | .load name source => valueless (site.load name source)
  | .call function arguments => site.call function arguments
  | .run code timeout => site.run code timeout
  | .ping =>
      let (outcome, after) := site.ping
      (outcome.map .bool, after)
  | .close => (.ok .null, site.close)
where
  /-- An errand that has no result. -/
  valueless : Except Fault Unit × Site → Except Fault Json × Site
    | (outcome, after) => (outcome.map fun _ => .null, after)

end Sandbox.Site

structure Host where
  world : Sandbox.World
  handles : List Handle

namespace Host

/-- The handle with a number. -/
def handle? (host : Host) (number : Nat) : Option Handle :=
  host.handles[number]?

/-- Keep another sandbox. -/
def add (host : Host) (handle : Handle) : Host :=
  { host with handles := host.handles ++ [handle] }

/-- Put a sandbox in the place of another. -/
def set (host : Host) (number : Nat) (handle : Handle) : Host :=
  { host with handles := host.handles.set number handle }

/-- The session that a sandbox is in. -/
def session (host : Host) (number : Nat) : Int :=
  ((host.handle? number).map Handle.session).getD 0

/-- Have a sandbox do an errand. -/
def perform (host : Host) (number : Nat) (errand : Errand) : Except Exception Json × Host :=
  match host.handle? number with
  | some (.process sandbox) =>
      let (outcome, site) := Sandbox.Site.perform ⟨host.world, sandbox⟩ errand
      (outcome.mapError (·.toException),
        { host with world := site.world }.set number (.process site.sandbox))
  | some (.embedded sandbox) =>
      let (outcome, after) := sandbox.perform errand
      (outcome, host.set number (.embedded after))
  | none => (.error Sandbox.Fault.notStarted.toException, host)

/-- Whether a sandbox can be used: what it says about its availability counts, or else whether it is
ready or starting. -/
def isUsable (host : Host) (number : Nat) : Bool :=
  match host.handle? number with
  | some (.process sandbox) => Sandbox.Site.isAvailable ⟨host.world, sandbox⟩
  | some (.embedded sandbox) =>
      match sandbox.available with
      | some available => available.isTruthy
      | none => sandbox.isReady || (sandbox.starting.getD .null).isTruthy
  | none => false

end Host
end AnswerKey
