import AnswerKey.Decimal.Reader
import AnswerKey.Json.Reader
import AnswerKey.Program.Run
import AnswerKey.Worker.Helper

namespace AnswerKey

/-!
Workers.  A worker reads requests, one on a line, and answers each of them: it loads helpers, calls
their functions and runs programs.  Whatever goes wrong with a request becomes the answer to it.  Only
an exception that is no ordinary one ends a worker, or an id that no answer can repeat, and it is then
silent for ever.
-/

/-- What a worker keeps between requests: the helpers it has loaded and the names of the space they
share. -/
structure Worker where
  helpers : List Worker.Helper
  names : Program.Names

namespace Worker

/-- A worker that has just been started. -/
def fresh : Worker := ⟨[], [("__name__", .str "sandbox_helpers")]⟩

/-- What comes of a request. -/
inductive Outcome where
  | value (value : Json)
  | refused (fault : Fault)
  /-- The worker has ended. -/
  | ended (name : String)

namespace Outcome

def ofYield : Yield → Outcome
  | .value result => .value result
  | .thing name =>
      .refused (.typeError ("Object of type " ++ name ++ " is not JSON serializable"))

def ofCall : Except Fault Yield → Outcome
  | .ok result => ofYield result
  | .error fault => .refused fault

end Outcome

/-- The value of a field of a request; an absent one has its default. -/
def field (request : List (String × Json)) (key : String) (default : Json) : Json :=
  (Json.lookup? key request).getD default

/-! ### Loading and calling -/

/-- The fault of a program text that is no text. -/
def sourceFault : Fault :=
  .typeError "compile() arg 1 must be a string, bytes or AST object"

/-- Load the program of a helper, or run any other program in the space of the helpers. -/
def loadSource (worker : Worker) (source : String) : Outcome × Worker :=
  match Helper.ofSource? source with
  | some helper => (.value (.bool true), { worker with helpers := worker.helpers.insert helper })
  | none =>
      let (ending, progress) := Program.runIn worker.names source
      let after := { worker with names := progress.names }
      match ending with
      | .finished => (.value (.bool true), after)
      | .raised class_ arguments =>
          if class_.isOrdinary then
            (.refused ⟨class_.name, (Program.Value.message class_ arguments)⟩, after)
          else (.ended class_.name, after)
      | .timeUp => (.ended "TimeoutError", after)

/-- Load what a request brings.  The name of a helper is part of a path, in which no zero may
stand. -/
def load (worker : Worker) (request : List (String × Json)) : Outcome × Worker :=
  if (field request "name" (.str "helper")).text.toList.contains '\x00' then
    (.refused (.valueError "embedded null character"), worker)
  else
    match field request "source" (.str "") with
    | .str source => worker.loadSource source
    | _ => (.refused sourceFault, worker)

/-- A value that is no key of anything. -/
def unhashable (value : Json) : Option Fault :=
  match value with
  | .arr _ => some (.typeError "unhashable type: 'list'")
  | .obj _ => some (.typeError "unhashable type: 'dict'")
  | _ => none

/-- Call a function of a helper. -/
def call (worker : Worker) (request : List (String × Json)) : Outcome :=
  let func := field request "func" (.str "")
  match unhashable func with
  | some fault => .refused fault
  | none =>
      let found :=
        match func with
        | .str name => Function.find? worker.helpers name
        | _ => none
      match found with
      | some function => .ofCall (function.call (field request "args" (.arr [])))
      | none =>
          .refused ⟨"LookupError",
            "helper function " ++ (field request "func" .null).display ++ " is not loaded"⟩

/-! ### Running programs -/

/-- The double that a timeout stands for. -/
def secondsOf : Json → Except Fault Decimal.Binary64
  | .bool value => .ok (.ofInt (if value then 1 else 0))
  | .int value =>
      let x := Decimal.Binary64.ofInt value
      if x.isInfinite then .error ⟨"OverflowError", "int too large to convert to float"⟩ else .ok x
  | .float value => .ok value
  | .str text =>
      match Decimal.Binary64.ofText? text.toList with
      | some x => .ok x
      | none =>
          .error (.valueError
            ("could not convert string to float: " ++ Text.Quoted.encode text))
  | value =>
      .error (.typeError
        ("float() argument must be a string or a real number, not '" ++ value.typeName ++ "'"))

/-- The first number of seconds that a timer cannot be set to: two to the power 63 nanoseconds. -/
def timerLimit : Decimal.Binary64 :=
  .ofRatio (Nat.pow 2 63) (Nat.pow 10 9)

/-- A timer counts in microseconds: a time in the past by less than one of them is the present. -/
def timerStep : Decimal.Binary64 :=
  .ofRatio 1 (Nat.pow 10 6)

/-- Whether a timer can be set to so many seconds. -/
def checkTimer (seconds : Decimal.Binary64) : Except Fault Unit :=
  if seconds.isNan then .error (.valueError "Invalid value NaN (not a number)")
  else if timerLimit.magnitude ≤ seconds.magnitude then
    .error ⟨"OverflowError", "timestamp too large to convert to C _PyTime_t"⟩
  else if seconds.isNegative && timerStep.magnitude ≤ seconds.magnitude then
    .error ⟨"signal.itimer_error", "[Errno 22] Invalid argument"⟩
  else .ok ()

/-- Set the timer of a run.  A timeout that does not count as true sets none. -/
def setTimer (timeout : Json) : Except Fault Unit := do
  if timeout.isTruthy then checkTimer (← secondsOf timeout)

/-- What is said of a run that took too long. -/
def timeoutMessage : String :=
  "Execution timeout - code took too long to run"

/-- The result of a run. -/
def runResult (output : Json) (error : Option String) : Json :=
  .obj [("success", .bool error.isNone), ("output", output), ("error", .ofText? error)]

/-- The code of an exit: its only argument, or all of them. -/
def exitCode : List Program.Value → String
  | [] => "None"
  | [argument] => argument.text
  | arguments => (Program.Value.tuple arguments).display

/-- What comes of a program that has been run. -/
def outcomeOf (ending : Program.Ending) (output : String) : Outcome :=
  match ending with
  | .finished => .value (runResult (.str output) none)
  | .timeUp => .value (runResult (.str output) (some timeoutMessage))
  | .raised class_ arguments =>
      if class_ = Program.ErrorClass.systemExit then
        .value (runResult (.str output) (some ("SystemExit: " ++ exitCode arguments)))
      else if class_.isOrdinary then
        .value (runResult (.str output) (some (Program.Value.report class_ arguments)))
      else .ended class_.name

/-- Run a program. -/
def run (request : List (String × Json)) : Outcome :=
  match setTimer (field request "timeout" .null) with
  | .error fault => .refused fault
  | .ok () =>
      match field request "code" (.str "") with
      | .str code =>
          let (ending, output) := Program.run code
          outcomeOf ending output
      | _ => .value (runResult (.str "") (some sourceFault.text))

/-! ### Requests -/

/-- What comes of a request that is an object, and the worker after it. -/
def handle (worker : Worker) (request : List (String × Json)) : Outcome × Worker :=
  let op := field request "op" .null
  match unhashable op with
  | some fault => (.refused fault, worker)
  | none =>
      match op with
      | .str "load" => worker.load request
      | .str "call" => (worker.call request, worker)
      | .str "run" => (run request, worker)
      | .str "ping" => (.value (.str "pong"), worker)
      | _ => (.refused (.valueError ("unknown op " ++ op.display)), worker)

/-- The response to a request with a given id; there is none from a worker that has ended. -/
def respond (id : Json) : Outcome → Option Json
  | .value value => some (.obj [("id", id), ("ok", .bool true), ("value", value)])
  | .refused fault => some (.obj [("id", id), ("ok", .bool false), ("error", .str fault.text)])
  | .ended _ => none

/-- The fault of a line that cannot be read. -/
def readingFault (line : List Char) (fault : Json.Fault) : Fault :=
  match fault.kind with
  | .longInteger _ => .valueError (fault.message line)
  | .tooDeep _ => ⟨"RecursionError", fault.message line⟩
  | _ => ⟨"json.decoder.JSONDecodeError", fault.message line⟩

/-- What a request is. -/
inductive Request where
  | fields (fields : List (String × Json))
  | unusable (fault : Fault)

namespace Request

/-- The request that a value stands for. -/
def ofJson : Json → Request
  | .obj given => .fields given
  | value =>
      .unusable ⟨"AttributeError", "'" ++ value.typeName ++ "' object has no attribute 'get'"⟩

/-- The request on a line. -/
def ofLine (line : List Char) : Request :=
  match Json.read line with
  | .ok value => ofJson value
  | .error fault => .unusable (readingFault line fault)

/-- The id of a request; null if it has none. -/
def id : Request → Json
  | .fields given => field given "id" .null
  | .unusable _ => .null

end Request

/-- The fault of a response that is nested too deep to be written. -/
def writingFault : Fault :=
  ⟨"RecursionError", "maximum recursion depth exceeded while encoding a JSON object"⟩

/-- Whether the response to a request with a given id can be written, if there is one. -/
def canWrite (id : Json) (outcome : Outcome) : Bool :=
  (respond id outcome).all Json.isWritable

/-- What comes of a request once its response is to be written.  Where that fails, the worker answers
with the fault instead; that response has the same id, and where it cannot be written either, the
worker has ended. -/
def delivered (id : Json) (outcome : Outcome) : Outcome :=
  if canWrite id outcome then outcome
  else if canWrite id (.refused writingFault) then .refused writingFault
  else .ended writingFault.name

/-- What comes of working on a request, and the worker after it. -/
def attempt (worker : Worker) : Request → Outcome × Worker
  | .fields fields => worker.handle fields
  | .unusable fault => (.refused fault, worker)

/-- What comes of a request, and the worker after it. -/
def outcome (worker : Worker) (request : Request) : Outcome × Worker :=
  let (outcome, after) := worker.attempt request
  (delivered request.id outcome, after)

/-- The response to a request, and the worker after it. -/
def answer (worker : Worker) (request : Request) : Option Json × Worker :=
  let (outcome, after) := worker.outcome request
  (respond request.id outcome, after)

/-! ### Whole inputs -/

/-- What a worker writes first. -/
def greeting : Json := .obj [("ready", .bool true)]

/-- How the input of a worker ends: it is used up, or an exception has ended the worker. -/
inductive Ending where
  | endOfInput
  | ended (name : String)

/-- The responses to the requests on some lines, and how the work ends.  Blank lines are no
requests. -/
def serve (worker : Worker) : List (List Char) → List Json × Ending
  | [] => ([], .endOfInput)
  | line :: rest =>
      if (Text.trim line).isEmpty then serve worker rest
      else
        let request := Request.ofLine line
        match worker.outcome request with
        | (.ended name, _) => ([], .ended name)
        | (outcome, after) =>
            let (others, ending) := serve after rest
            ((respond request.id outcome).toList ++ others, ending)

/-- The lines of an input, each with its line feed. -/
def linesOf (input : List Char) : List (List Char) :=
  match (Text.splitAt '\n' input).reverse with
  | [] => []
  | last :: ended =>
      (ended.reverse.map (· ++ ['\n'])) ++ (if last.isEmpty then [] else [last])

end Worker
end AnswerKey
