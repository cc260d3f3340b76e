import AnswerKey.Exception

namespace AnswerKey
namespace Sandbox

/-!
What can go wrong with a sandbox, what is said about it, and which exception it is reported as.
-/

inductive Fault where
  /-- The system refuses to launch a child. -/
  | launchRefused (text : String)
  | greetingLate
  | greetingWrong
  | notStarted
  | connectionLost (text : String)
  | childGone
  | malformed
  | outOfOrder
  /-- A line nests too deep to be read. -/
  | tooDeep (text : String)
  /-- The child could not serve the request, and says this about it. -/
  | refused (error : Json)
  /-- No answer came in time. -/
  | late
  | loadLate (name : Json)
  | callLate (function : Json)
  | pingLate
  /-- The result of a run is no object. -/
  | oddResult
  /-- A limit of time that is no number. -/
  | timeoutOf (value : Json)
  /-- A limit of time beyond every double. -/
  | timeoutTooLarge

namespace Fault

/-- What is said about a request when the child gives no reason. -/
def standardRefusal : Json := .str "Sandbox request failed"

/-- What is said about a fault. -/
def statement : Fault → Json
  | launchRefused text => .str ("Sandbox failed to start: " ++ text)
  | greetingLate => .str "Sandbox initialization timeout"
  | greetingWrong => .str "Sandbox failed to start"
  | notStarted => .str "Sandbox not started"
  | connectionLost text => .str ("Sandbox connection lost: " ++ text)
  | childGone => .str "Sandbox process exited unexpectedly"
  | malformed => .str "Sandbox sent a malformed response"
  | outOfOrder => .str "Sandbox response out of order"
  | tooDeep text => .str text
  | refused error => error
  | late => .str ""
  | loadLate name => .str ("Sandbox timed out loading helper " ++ name.text)
  | callLate function => .str ("Sandbox timed out in " ++ function.text)
  | pingLate => .str "Sandbox did not answer ping"
  | oddResult => .str "Sandbox returned an unexpected run result"
  | timeoutOf (.str _) => .str "can only concatenate str (not \"float\") to str"
  | timeoutOf (.arr _) => .str "can only concatenate list (not \"float\") to list"
  | timeoutOf value =>
      .str ("unsupported operand type(s) for +: '" ++ value.typeName ++ "' and 'float'")
  | timeoutTooLarge => .str "int too large to convert to float"

/-- The class of the exception that a fault is reported as. -/
def className : Fault → String
  | tooDeep _ => "RecursionError"
  | late => "TimeoutError"
  | timeoutOf _ => "TypeError"
  | timeoutTooLarge => "OverflowError"
  | _ => Exception.sandboxName

def toException (fault : Fault) : Exception :=
  ⟨fault.className, [fault.statement]⟩

end Fault
end Sandbox
end AnswerKey
