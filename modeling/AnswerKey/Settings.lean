import AnswerKey.Decimal.Reader
import AnswerKey.Decimal.Shortest
import AnswerKey.Json

namespace AnswerKey

/-!
Settings and how they are read from variables.  A variable that is absent or blank leaves the default
in place; one that does not hold what it should is refused by name.
-/

open Text

/-- A span of time in seconds, written as an integer or as a double. -/
inductive Seconds where
  | whole (count : Int)
  | fractional (count : Decimal.Binary64)
  deriving DecidableEq, Repr

namespace Seconds

/-- The number as a value of a document. -/
def toJson : Seconds → Json
  | whole count => .int count
  | fractional count => .float count

/-- The number of seconds in a document; other values are none. -/
def ofJson? : Json → Option Seconds
  | .int count => some (whole count)
  | .float count => some (fractional count)
  | _ => none

/-- Whether a span leaves any time: it is not zero or below. -/
def leavesTime : Seconds → Bool
  | whole count => 0 < count
  | fractional count => count.isPositive || count.isNan

/-- So many full seconds, as a double. -/
def ofNat (count : Nat) : Seconds :=
  fractional (.ofInt count)

end Seconds

structure Settings where
  defaultLanguage : String
  executionTimeout : Seconds
  /-- The interpreter of the sandbox; nothing stands for the one that is running. -/
  interpreter : Option String
  startupTimeout : Seconds
  /-- The limit of the address space in megabytes; zero sets none. -/
  memoryMegabytes : Nat
  telemetry : Bool
  deriving DecidableEq, Repr

namespace Settings

/-- The settings when nothing is given. -/
def standard : Settings where
  defaultLanguage := "python"
  executionTimeout := .ofNat 5
  interpreter := none
  startupTimeout := .ofNat 15
  memoryMegabytes := 0
  telemetry := true

/-- What a variable has to hold. -/
inductive Requirement where
  | number
  | positive
  | natural
  | language
  | switch
  deriving DecidableEq, Repr

inductive Fault where
  /-- A variable does not hold what it has to. -/
  | invalid (key : String) (requirement : Requirement)
  /-- A text of digits is no decimal number, or has too many of them. -/
  | unconvertible
  deriving DecidableEq, Repr

/-- What is demanded of a variable. -/
def Requirement.demand : Requirement → String
  | number => "must be a number of seconds"
  | positive => "must be positive"
  | natural => "must be a non-negative integer"
  | language => "must not be empty"
  | switch => "must be 1/0, true/false or yes/no"

/-- The text of a fault. -/
def Fault.message : Fault → String
  | invalid key requirement => key ++ " " ++ requirement.demand
  | unconvertible => ""

def languageVariable : String := "VERIFIER_DEFAULT_LANGUAGE"

def executionTimeoutVariable : String := "VERIFIER_EXECUTION_TIMEOUT"

def interpreterVariable : String := "VERIFIER_SANDBOX_PYTHON"

def startupTimeoutVariable : String := "VERIFIER_SANDBOX_STARTUP_TIMEOUT"

def memoryVariable : String := "VERIFIER_SANDBOX_MEMORY_MB"

def telemetryVariable : String := "VERIFIER_TELEMETRY"

/-- Values of variables. -/
abbrev Environment := String → Option String

/-- The value of a variable without blanks around it; an absent variable is empty. -/
def valueOf (environment : Environment) (key : String) : List Char :=
  trim ((environment key).getD "").toList

/-- A timeout: any number that is not zero or below. -/
def timeout (environment : Environment) (key : String) (default : Seconds) :
    Except Fault Seconds :=
  let text := valueOf environment key
  if text.isEmpty then .ok default
  else
    match Decimal.Binary64.ofText? text with
    | none => .error (.invalid key .number)
    | some x =>
        if x.isPositive || x.isNan then .ok (.fractional x)
        else .error (.invalid key .positive)

/-- The value of decimal digits of any script. -/
def naturalOf? (digits : List Char) : Option Nat :=
  if Decimal.integerDigitLimit < digits.length then none
  else (digits.mapM decimalValue?).map fun values => values.foldl (fun n d => n * 10 + d) 0

/-- A size: digits only. -/
def size (environment : Environment) (key : String) (default : Nat) : Except Fault Nat :=
  let text := valueOf environment key
  if text.isEmpty then .ok default
  else if text.all isDigit then
    match naturalOf? text with
    | some n => .ok n
    | none => .error .unconvertible
  else .error (.invalid key .natural)

/-- A word in small letters and without blanks around it. -/
def word (environment : Environment) (key default : String) : String :=
  lower (trimString ((environment key).getD default))

/-- Words that turn something on. -/
def wordsForOn : List String := ["1", "true", "yes"]

/-- Words that turn something off. -/
def wordsForOff : List String := ["0", "false", "no"]

/-- Read all settings.  The first variable that is refused decides. -/
def load (environment : Environment) : Except Fault Settings := do
  let defaultLanguage := word environment languageVariable "python"
  if defaultLanguage.isEmpty then throw (.invalid languageVariable .language)
  let telemetry := word environment telemetryVariable "1"
  if !(wordsForOn ++ wordsForOff).contains telemetry then
    throw (.invalid telemetryVariable .switch)
  let executionTimeout ←
    timeout environment executionTimeoutVariable standard.executionTimeout
  let interpreter := valueOf environment interpreterVariable
  let startupTimeout ← timeout environment startupTimeoutVariable standard.startupTimeout
  let memoryMegabytes ← size environment memoryVariable standard.memoryMegabytes
  pure
    { defaultLanguage, executionTimeout
      interpreter := if interpreter.isEmpty then none else some (.ofList interpreter)
      startupTimeout, memoryMegabytes
      telemetry := wordsForOn.contains telemetry }

end Settings
end AnswerKey
