import AnswerKey.Sandbox.Child
import AnswerKey.Sandbox.Fault
import AnswerKey.Settings

namespace AnswerKey

/-!
Sandboxes.  A sandbox keeps one child at a time and asks it one thing at a time.  Requests are numbered
through the whole life of the sandbox, and an answer counts only if it carries the number of the
request.  A child that has not answered as it should is killed, since a late answer of it would belong
to another question; the next request then starts another child.
-/

namespace Sandbox

/-- How far a start has come. -/
inductive Attempt where
  | never
  /-- The child has been launched and its first line is awaited. -/
  | inFlight (child : Nat)
  | settled (outcome : Except Fault Unit)
  /-- The sandbox was closed while the start was in flight. -/
  | cancelled

namespace Attempt

def isInFlight : Attempt → Bool
  | inFlight _ => true
  | _ => false

end Attempt
end Sandbox

structure Sandbox where
  /-- The interpreter of the children; nothing stands for the one that is running. -/
  interpreter : Option String
  startupTimeout : Seconds
  /-- The limit of a child's address space in megabytes. -/
  memoryLimit : Option Int
  /-- How many children have been taken into use. -/
  session : Nat
  current : Option Nat
  attempt : Sandbox.Attempt
  nextId : Nat
  isClosed : Bool
  /-- The last child was given up, and the next request has to start another. -/
  needsRestart : Bool

namespace Sandbox

/-- A sandbox that has not been started.  An interpreter without a name stands for the one that is
running, and a limit of zero for none. -/
def create (interpreter : Option String) (startupTimeout : Seconds) (memoryLimit : Option Int) :
    Sandbox where
  interpreter := interpreter.filter fun name => !name.isEmpty
  startupTimeout
  memoryLimit := memoryLimit.filter fun limit => limit != 0
  session := 0
  current := none
  attempt := .never
  nextId := 1
  isClosed := false
  needsRestart := false

/-- The sandbox that settings ask for. -/
def ofSettings (settings : Settings) : Sandbox :=
  create settings.interpreter settings.startupTimeout (some settings.memoryMegabytes)

/-- A sandbox in the world of its children. -/
structure Site where
  world : World
  sandbox : Sandbox

namespace Site

/-- Whether a child is in use and running. -/
def isReady (site : Site) : Bool :=
  site.sandbox.current.any site.world.isRunning

def isStarting (site : Site) : Bool :=
  site.sandbox.attempt.isInFlight

/-- Whether the next request starts another child by itself. -/
def willRestart (site : Site) : Bool :=
  site.sandbox.needsRestart && !site.sandbox.isClosed

/-- Whether the next request will find a child, or at least try to start one. -/
def isAvailable (site : Site) : Bool :=
  site.isReady || site.isStarting || site.willRestart

end Site

/-! ### Starting -/

/-- What a first line says about the child.  A child that is ready says so in an object. -/
def judgeGreeting (line : Option String) : Except Fault Unit :=
  match line with
  | none => .error .greetingLate
  | some text =>
      match readLine text with
      | .ok (.obj fields) =>
          if ((Json.lookup? "ready" fields).getD .null).isTruthy then .ok ()
          else .error .greetingWrong
      | .ok _ => .error .greetingWrong
      | .error fault =>
          match fault.kind with
          | .tooDeep _ => .error (.tooDeep fault.kind.text)
          | _ => .error .greetingWrong

namespace Site

/-- Hear the child whose start is in flight, and take it into use or give it up. -/
def settle (site : Site) : Site :=
  match site.sandbox.attempt with
  | .inFlight child =>
      let line :=
        if site.sandbox.startupTimeout.leavesTime then site.world.greetingOf child else none
      match judgeGreeting line with
      | .ok () =>
          { site with
            sandbox :=
              { site.sandbox with
                current := some child
                needsRestart := false
                session := site.sandbox.session + 1
                attempt := .settled (.ok ()) } }
      | .error (.tooDeep text) =>
          { site with
            sandbox := { site.sandbox with attempt := .settled (.error (.tooDeep text)) } }
      | .error fault =>
          { world := site.world.kill child
            sandbox := { site.sandbox with attempt := .settled (.error fault) } }
  | _ => site

/-- Begin a start and go as far as possible without waiting.  Nothing is begun while a child is in use
or another start is in flight. -/
def begin (site : Site) : Site :=
  if site.isReady || site.isStarting then site
  else
    let opened := { site.sandbox with isClosed := false }
    match site.world.launch opened.interpreter opened.memoryLimit with
    | (.error text, world) =>
        ⟨world, { opened with attempt := .settled (.error (.launchRefused text)) }⟩
    | (.ok child, world) =>
        let begun : Site := ⟨world, { opened with attempt := .inFlight child }⟩
        if world.holdsBack child && opened.startupTimeout.leavesTime then begun else begun.settle

/-- How the last start ended. -/
def outcome (site : Site) : Except Fault Unit :=
  match site.sandbox.attempt with
  | .settled outcome => outcome
  | _ => .error .notStarted

/-- Start a child unless one is in use, and wait for it. -/
def start (site : Site) : Except Fault Unit × Site :=
  if site.isReady then (.ok (), site)
  else
    let settled := site.begin.settle
    (settled.outcome, settled)

/-- Wait for a start in flight, or start another child in the place of one that was given up; after
that a child has to be in use. -/
def waitReady (site : Site) : Except Fault Unit × Site :=
  match (if site.isStarting || site.willRestart then site.start else (.ok (), site)) with
  | (.error fault, after) => (.error fault, after)
  | (.ok (), after) => (if after.isReady then .ok () else .error .notStarted, after)

/-! ### Requests -/

/-- Kill a child and have the next request start another. -/
def discard (site : Site) (child : Nat) : Site :=
  { world := site.world.kill child
    sandbox :=
      if site.sandbox.current = some child then
        { site.sandbox with current := none, needsRestart := true }
      else site.sandbox }

end Site

/-- What is made of an answer: a result, with which the child stays in use, or a fault for which it
is given up. -/
inductive Verdict where
  | result (result : Except Fault Json)
  | lost (fault : Fault)

namespace Verdict

/-- Whether a value is the number of a request; fractions and truth values equal integers as usual. -/
def isId (id : Nat) : Json → Bool
  | .int n => n == id
  | .float x => x == .ofInt id
  | .bool b => (if b then 1 else 0) == id
  | _ => false

/-- What a response with the right number says. -/
def ofFields (fields : List (String × Json)) : Except Fault Json :=
  let field (key : String) : Json := (Json.lookup? key fields).getD .null
  if (field "ok").isTruthy then .ok (field "value")
  else if (field "error").isTruthy then .error (.refused (field "error"))
  else .error (.refused Fault.standardRefusal)

/-- What is made of the answer to the request with a given number. -/
def ofAnswer (id : Nat) : Answer → Verdict
  | .broken text => .lost (.connectionLost text)
  | .silence => .lost .late
  | .endOfStream => .lost .childGone
  | .line (.error fault) =>
      match fault.kind with
      | .tooDeep _ => .result (.error (.tooDeep fault.kind.text))
      | _ => .lost .malformed
  | .line (.ok (.obj fields)) =>
      if isId id ((Json.lookup? "id" fields).getD .null) then .result (ofFields fields)
      else .lost .outOfOrder
  | .line (.ok _) => .lost .outOfOrder

end Verdict

namespace Site

/-- Ask the child for something, and wait for its answer if there is time. -/
def request (site : Site) (payload : List (String × Json)) (hasTime : Bool) :
    Except Fault Json × Site :=
  match site.waitReady with
  | (.error fault, after) => (.error fault, after)
  | (.ok (), after) =>
      match after.sandbox.current with
      | none => (.error .notStarted, after)
      | some child =>
          let id := after.sandbox.nextId
          let (answer, world) :=
            after.world.exchange child (.int id) (.obj (("id", .int id) :: payload)) hasTime
          let asked : Site := ⟨world, { after.sandbox with nextId := id + 1 }⟩
          match Verdict.ofAnswer id answer with
          | .result result => (result, asked)
          | .lost fault => (.error fault, asked.discard child)

/-- Say more about an answer that did not come in time. -/
def nameLate {α : Type} (fault : Fault) : Except Fault α → Except Fault α
  | .error .late => .error fault
  | outcome => outcome

/-- Have the child load a helper. -/
def load (site : Site) (name source : Json) : Except Fault Unit × Site :=
  let (outcome, after) :=
    site.request [("op", .str "load"), ("name", name), ("source", source)] true
  (nameLate (.loadLate name) (outcome.map fun _ => ()), after)

/-- Have the child call a function of a helper. -/
def call (site : Site) (function : Json) (arguments : List Json) : Except Fault Json × Site :=
  let (outcome, after) :=
    site.request [("op", .str "call"), ("func", function), ("args", .arr arguments)] true
  (nameLate (.callLate function) outcome, after)

/-- Whether any time is left when two seconds of grace are added to the timeout of a run. -/
def hasGrace : Json → Except Fault Bool
  | .bool _ => .ok true
  | .int n =>
      if (Decimal.Binary64.ofInt n).isInfinite then .error .timeoutTooLarge
      else .ok (decide (-2 < n))
  | .float x =>
      .ok (!x.isNegative || x.isNan || decide (x.magnitude < (Decimal.Binary64.ofInt 2).magnitude))
  | value => .error (.timeoutOf value)

/-- What a program is said to have done when the child had to be given up over it. -/
def overdueResult : Json :=
  Worker.runResult .null (some Worker.timeoutMessage)

/-- Have the child run a program.  A program that outlasts its time is a result like any other. -/
def run (site : Site) (code timeout : Json) : Except Fault Json × Site :=
  match hasGrace timeout with
  | .error fault => (.error fault, site)
  | .ok hasTime =>
      match site.request [("op", .str "run"), ("code", code), ("timeout", timeout)] hasTime with
      | (.error .late, after) => (.ok overdueResult, after)
      | (.error fault, after) => (.error fault, after)
      | (.ok (.obj fields), after) => (.ok (.obj fields), after)
      | (.ok _, after) => (.error .oddResult, after)

/-- Ask the child for a sign of life. -/
def ping (site : Site) : Except Fault Bool × Site :=
  let (outcome, after) := site.request [("op", .str "ping")] true
  let isPong : Json → Bool
    | .str text => text == "pong"
    | _ => false
  (nameLate .pingLate (outcome.map isPong), after)

/-! ### The end -/

/-- Close the sandbox.  A start in flight is given up together with its child, which nobody hears any
more. -/
def close (site : Site) : Site :=
  let closed :=
    { site.sandbox with
      isClosed := true
      needsRestart := false
      current := none
      attempt := if site.isStarting then .cancelled else site.sandbox.attempt }
  match site.sandbox.current with
  | none => { site with sandbox := closed }
  | some child => ⟨site.world.shutDown child, closed⟩

/-- The child in use exits by itself. -/
def exit (site : Site) : Site :=
  match site.sandbox.current with
  | none => site
  | some child => { site with world := site.world.exit child }

end Site
end Sandbox
end AnswerKey
