import AnswerKey.Json.Writer

namespace AnswerKey

/-!
Exceptions.  Whatever a capability leaves behind when it fails is known by the name of its class and
by its arguments; what it says and how it is shown follow from these two.
-/

structure Exception where
  name : String
  arguments : List Json

namespace Exception

/-- An exception of a class with one text. -/
def ofText (name text : String) : Exception :=
  ⟨name, [.str text]⟩

def typeError (text : String) : Exception := ofText "TypeError" text

def valueError (text : String) : Exception := ofText "ValueError" text

def attributeError (text : String) : Exception := ofText "AttributeError" text

/-- The class of everything that goes wrong with a sandbox. -/
def sandboxName : String := "SandboxError"

def isSandboxError (exception : Exception) : Bool :=
  exception.name == sandboxName

/-- What an exception says: its only argument, or all of them in parentheses.  A missing key is shown
the way it is written. -/
def text (exception : Exception) : String :=
  match exception.arguments with
  | [] => ""
  | [argument] => if exception.name = "KeyError" then argument.display else argument.text
  | arguments => "(" ++ Json.displayItems arguments ++ ")"

/-- What an exception says, or the name of its class if it says nothing. -/
def summary (exception : Exception) : String :=
  if exception.text.isEmpty then exception.name else exception.text

/-- The class of an exception with its arguments. -/
def display (exception : Exception) : String :=
  exception.name ++ "(" ++ Json.displayItems exception.arguments ++ ")"

end Exception
end AnswerKey
