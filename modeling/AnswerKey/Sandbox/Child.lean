import AnswerKey.Json.Encoding
import AnswerKey.Worker.Basic

namespace AnswerKey
namespace Sandbox

/-!
Children and the world they live in.  A child is a process with a worker inside; it greets, answers
requests one line at a time, and is killed or closed in the end.  How each launch and each reply goes is
laid down in the world in advance, so that every fault of a process can be had; where nothing is laid
down, all goes well.  The journal keeps what happened, in order.
-/

/-- How one launch of an interpreter goes. -/
structure Launch where
  /-- The system refuses to launch it, in these words. -/
  refusal : Option String := none
  /-- The first line the child writes; nothing stands for a line that never comes. -/
  greeting : Option String := some (Worker.greeting.write ++ "\n")
  /-- The first line is held back until something lets it through. -/
  isHeldBack : Bool := false
  /-- The child outlives the closing of its input. -/
  lingers : Bool := false
  /-- The limit of the address space cannot be set. -/
  refusesLimit : Bool := false

/-- How one request goes. -/
inductive Reply where
  /-- Writing the request fails. -/
  | broken (text : String)
  /-- No line comes in time. -/
  | silence
  | endOfStream
  | line (text : String)
  /-- A good response with this value. -/
  | value (value : Json)
  /-- A response that the request could not be served. -/
  | refusal (error : Json)
  /-- The worker of the child answers. -/
  | worker

/-- What comes back for a request: a line is read as a document. -/
inductive Answer where
  | broken (text : String)
  | silence
  | endOfStream
  | line (content : Except Json.Fault Json)

/-- What is done to a child before its program starts. -/
structure Measures where
  /-- The limit of its address space in bytes. -/
  memory : Option Int
  /-- Whether it gets a session of its own. -/
  isDetached : Bool
  deriving DecidableEq, Repr

inductive Event where
  /-- A launch; a child comes of it unless the system refuses. -/
  | launched (child : Option Nat) (interpreter : Option String) (measures : Measures)
  | wrote (child : Nat) (request : Json)
  | received (child : Nat) (content : Except Json.Fault Json)
  | killed (child : Nat)
  | closedInput (child : Nat)

structure Child where
  launch : Launch
  worker : Worker
  isRunning : Bool

/-- Children by number, what is laid down for the next launches and replies, and what has happened. -/
structure World where
  launches : List Launch
  replies : List Reply
  children : List Child
  journal : List Event

/-- Read a line of a child. -/
def readLine (text : String) : Except Json.Fault Json :=
  Json.readBytes text.toList

namespace Launch

/-- What is done before the program of a child starts, under a limit in megabytes.  A limit that
cannot be set stops everything after it. -/
def measures (launch : Launch) (limit : Option Int) : Measures :=
  if limit.isSome && launch.refusesLimit then ⟨none, false⟩
  else ⟨limit.map (· * (1024 * 1024)), true⟩

end Launch

namespace Child

/-- A child that has just been launched. -/
def ofLaunch (launch : Launch) : Child :=
  ⟨launch, .fresh, true⟩

/-- The answer to a request with a given id, and the child after it. -/
def answer (child : Child) (id : Json) (request : Json) : Reply → Answer × Child
  | .broken text => (.broken text, child)
  | .silence => (.silence, child)
  | .endOfStream => (.endOfStream, child)
  | .line text => (if text.isEmpty then .endOfStream else .line (readLine text), child)
  | .value value => (.line (.ok (.obj [("id", id), ("ok", .bool true), ("value", value)])), child)
  | .refusal error =>
      (.line (.ok (.obj [("id", id), ("ok", .bool false), ("error", error)])), child)
  | .worker =>
      let (response, worker) := child.worker.answer (.ofJson request)
      (match response with
        | some response => .line (.ok response)
        | none => .endOfStream,
        { child with worker })

end Child

namespace World

/-- A world in which nothing has happened and all will go well. -/
def empty : World := ⟨[], [], [], []⟩

def record (world : World) (event : Event) : World :=
  { world with journal := world.journal ++ [event] }

/-- Whether a child has been launched and has not exited. -/
def isRunning (world : World) (child : Nat) : Bool :=
  (world.children[child]?).any (·.isRunning)

/-- Whether the first line of a child is held back. -/
def holdsBack (world : World) (child : Nat) : Bool :=
  (world.children[child]?).any (·.launch.isHeldBack)

/-- The first line of a child, if one comes. -/
def greetingOf (world : World) (child : Nat) : Option String :=
  (world.children[child]?).bind (·.launch.greeting)

/-- Launch a child.  A refused launch uses up its place in the plan but makes no child. -/
def launch (world : World) (interpreter : Option String) (limit : Option Int) :
    Except String Nat × World :=
  let plan := world.launches.head?.getD {}
  let rest := { world with launches := world.launches.tail }
  let measures := plan.measures limit
  match plan.refusal with
  | some text => (.error text, rest.record (.launched none interpreter measures))
  | none =>
      let number := world.children.length
      (.ok number,
        { rest with children := world.children ++ [Child.ofLaunch plan] }.record
          (.launched (some number) interpreter measures))

/-- A child exits. -/
def exit (world : World) (child : Nat) : World :=
  { world with children := world.children.modify child fun c => { c with isRunning := false } }

/-- Kill a child unless it has exited. -/
def kill (world : World) (child : Nat) : World :=
  if world.isRunning child then (world.record (.killed child)).exit child else world

/-- Close the input of a child and await its end.  One that lingers is killed. -/
def shutDown (world : World) (child : Nat) : World :=
  let closed := world.record (.closedInput child)
  if (world.children[child]?).any (·.launch.lingers) then closed.kill child else closed.exit child

/-- Write a request to a child and read its answer.  When there is no time to read, nothing comes. -/
def exchange (world : World) (child : Nat) (id request : Json) (hasTime : Bool) : Answer × World :=
  match world.children[child]? with
  | none => (.endOfStream, world)
  | some partner =>
      let (answer, after) := partner.answer id request (world.replies.head?.getD .worker)
      let written : World :=
        { world with
          replies := world.replies.tail
          children := world.children.set child after }.record (.wrote child request)
      match answer with
      | .broken text => (.broken text, written)
      | .line content =>
          if hasTime then (.line content, written.record (.received child content))
          else (.silence, written)
      | other => (if hasTime then other else .silence, written)

/-! ### What an event leaves alone -/

@[simp] theorem isRunning_record (world : World) (event : Event) (child : Nat) :
    (world.record event).isRunning child = world.isRunning child := rfl

/-- An exit ends one child and no other. -/
theorem isRunning_exit (world : World) (child other : Nat) :
    (world.exit child).isRunning other = (world.isRunning other && decide (other ≠ child)) := by
  unfold isRunning exit
  rw [List.getElem?_modify]
  by_cases same : child = other
  · subst same
    cases world.children[child]? <;> simp
  · have different : other ≠ child := fun equal => same equal.symm
    simp [same, different]

/-- A child that has been killed is not running, and no other has been touched. -/
theorem isRunning_kill (world : World) (child other : Nat) :
    (world.kill child).isRunning other = (world.isRunning other && decide (other ≠ child)) := by
  unfold kill
  split
  · rw [isRunning_exit, isRunning_record]
  · next notRunning =>
      by_cases same : other = child
      · subst same
        simpa using notRunning
      · simp [same]

/-- A child whose input has been closed is not running in the end, and no other has been touched. -/
theorem isRunning_shutDown (world : World) (child other : Nat) :
    (world.shutDown child).isRunning other =
      (world.isRunning other && decide (other ≠ child)) := by
  unfold shutDown
  dsimp only
  split
  · rw [isRunning_kill, isRunning_record]
  · rw [isRunning_exit, isRunning_record]

/-- Asking a child for something leaves every child running that was. -/
theorem isRunning_exchange (world : World) (child other : Nat) (id request : Json)
    (hasTime : Bool) :
    (world.exchange child id request hasTime).2.isRunning other = world.isRunning other := by
  have kept (partner : Child) (reply : Reply) :
      (partner.answer id request reply).2.isRunning = partner.isRunning := by
    cases reply <;> rfl
  unfold exchange
  split
  · rfl
  · next partner found =>
      have same : ((world.children.set child
          (partner.answer id request (world.replies.head?.getD .worker)).2)[other]?).any
            (·.isRunning) = (world.children[other]?).any (·.isRunning) := by
        rw [List.getElem?_set]
        by_cases equal : child = other
        · subst equal
          obtain ⟨inside, value⟩ := List.getElem?_eq_some_iff.mp found
          simp [kept, inside, value]
        · simp [equal]
      dsimp only
      split
      · exact same
      · split <;> exact same
      · exact same

end World
end Sandbox
end AnswerKey
