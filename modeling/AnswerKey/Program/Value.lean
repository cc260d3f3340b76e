import AnswerKey.Decimal.Shortest
import AnswerKey.Text.Line
import AnswerKey.Text.Quoted

namespace AnswerKey
namespace Program

/-!
Values of the small programs that are run for a learner: numbers, texts, lists, tuples, dictionaries,
ranges, built-in functions and exceptions.  No program of this kind changes a value in place, so a
value is known by its contents alone.
-/

/-- The class of an exception.  An ordinary one is an `Exception`; the others end a program without
being an error of it. -/
structure ErrorClass where
  name : String
  isOrdinary : Bool := true
  deriving DecidableEq, Repr

namespace ErrorClass

def systemExit : ErrorClass := ⟨"SystemExit", false⟩

/-- Classes that do not derive from `Exception`. -/
def extraordinary : List ErrorClass :=
  [⟨"BaseException", false⟩, systemExit, ⟨"KeyboardInterrupt", false⟩, ⟨"GeneratorExit", false⟩]

/-- Names of classes that derive from `Exception` and take any arguments. -/
def ordinaryNames : List String :=
  ["Exception", "ArithmeticError", "AssertionError", "AttributeError", "BlockingIOError",
    "BrokenPipeError", "BufferError", "BytesWarning", "ChildProcessError", "ConnectionAbortedError",
    "ConnectionError", "ConnectionRefusedError", "ConnectionResetError", "DeprecationWarning",
    "EOFError", "EncodingWarning", "FileExistsError", "FileNotFoundError", "FloatingPointError",
    "FutureWarning", "ImportError", "ImportWarning", "IndentationError", "IndexError",
    "InterruptedError", "IsADirectoryError", "KeyError", "LookupError", "MemoryError",
    "ModuleNotFoundError", "NameError", "NotADirectoryError", "NotImplementedError", "OSError",
    "OverflowError", "PendingDeprecationWarning", "PermissionError", "ProcessLookupError",
    "RecursionError", "ReferenceError", "ResourceWarning", "RuntimeError", "RuntimeWarning",
    "StopAsyncIteration", "StopIteration", "SyntaxError", "SyntaxWarning", "SystemError", "TabError",
    "TimeoutError", "TypeError", "UnboundLocalError", "UnicodeError", "UnicodeWarning", "UserWarning",
    "ValueError", "Warning", "ZeroDivisionError"]

/-- Other names of one class. -/
def aliases : List (String × String) :=
  [("EnvironmentError", "OSError"), ("IOError", "OSError")]

/-- The class that a name stands for. -/
def ofName? (name : String) : Option ErrorClass :=
  let name := (aliases.lookup name).getD name
  match extraordinary.find? (·.name == name) with
  | some found => some found
  | none => if ordinaryNames.contains name then some { name } else none

/-- Classes whose two arguments are a number and a text of the operating system. -/
def systemNames : List String :=
  ["BlockingIOError", "BrokenPipeError", "ChildProcessError", "ConnectionAbortedError",
    "ConnectionError", "ConnectionRefusedError", "ConnectionResetError", "FileExistsError",
    "FileNotFoundError", "InterruptedError", "IsADirectoryError", "NotADirectoryError", "OSError",
    "PermissionError", "ProcessLookupError", "TimeoutError"]

/-- Classes of faults in the text of a program. -/
def syntaxNames : List String :=
  ["SyntaxError", "IndentationError", "TabError"]

end ErrorClass

/-- Functions that every program can call. -/
inductive Builtin where
  | print
  | range
  | input
  | len
  | str
  | repr
  deriving DecidableEq, Repr

namespace Builtin

def name : Builtin → String
  | print => "print"
  | range => "range"
  | input => "input"
  | len => "len"
  | str => "str"
  | repr => "repr"

def all : List Builtin := [print, range, input, len, str, repr]

/-- The function that a name stands for. -/
def ofName? (name : String) : Option Builtin :=
  all.find? (·.name == name)

/-- Whether calling the function makes a value of the type with its name. -/
def isType : Builtin → Bool
  | range => true
  | str => true
  | _ => false

end Builtin

inductive Value where
  | none
  | ellipsis
  | bool (value : Bool)
  | int (value : Int)
  | float (value : Decimal.Binary64)
  | str (value : String)
  | list (items : List Value)
  | tuple (items : List Value)
  | dict (entries : List (Value × Value))
  | range (start stop step : Int)
  | function (builtin : Builtin)
  | errorClass (class_ : ErrorClass)
  | error (class_ : ErrorClass) (arguments : List Value)
  deriving Inhabited

namespace Value

/-- The name of a value's type. -/
def typeName : Value → String
  | none => "NoneType"
  | ellipsis => "ellipsis"
  | bool _ => "bool"
  | int _ => "int"
  | float _ => "float"
  | str _ => "str"
  | list _ => "list"
  | tuple _ => "tuple"
  | dict _ => "dict"
  | range _ _ _ => "range"
  | function builtin => if builtin.isType then "type" else "builtin_function_or_method"
  | errorClass _ => "type"
  | error class_ _ => class_.name

/-- How many members a range has. -/
def rangeLength (start stop step : Int) : Nat :=
  if 0 < step then ((stop - start + step - 1) / step).toNat
  else if step < 0 then ((start - stop - step - 1) / -step).toNat
  else 0

/-- Whether a value counts as true. -/
def isTruthy : Value → Bool
  | none => false
  | bool value => value
  | int value => value != 0
  | float value => !value.isZero
  | str value => !value.isEmpty
  | list items => !items.isEmpty
  | tuple items => !items.isEmpty
  | dict entries => !entries.isEmpty
  | range start stop step => rangeLength start stop step != 0
  | _ => true

/-- The integer that a value is; the truth values are one and zero. -/
def integer? : Value → Option Int
  | int value => some value
  | bool value => some (if value then 1 else 0)
  | _ => Option.none

mutual

/-- The form of a value inside another one: texts are quoted. -/
def display : Value → String
  | none => "None"
  | ellipsis => "Ellipsis"
  | bool true => "True"
  | bool false => "False"
  | int value => Decimal.ofInt value
  | float value => Decimal.Layout.plain.write value
  | str value => Text.Quoted.encode value
  | list items => "[" ++ displayItems items ++ "]"
  | tuple [item] => "(" ++ display item ++ ",)"
  | tuple items => "(" ++ displayItems items ++ ")"
  | dict entries => "\x7b" ++ displayEntries entries ++ "\x7d"
  | range start stop 1 => "range(" ++ Decimal.ofInt start ++ ", " ++ Decimal.ofInt stop ++ ")"
  | range start stop step =>
      "range(" ++ Decimal.ofInt start ++ ", " ++ Decimal.ofInt stop ++ ", " ++ Decimal.ofInt step ++
        ")"
  | function builtin =>
      if builtin.isType then "<class '" ++ builtin.name ++ "'>"
      else "<built-in function " ++ builtin.name ++ ">"
  | errorClass class_ => "<class '" ++ class_.name ++ "'>"
  | error class_ arguments => class_.name ++ "(" ++ displayItems arguments ++ ")"

def displayItems : List Value → String
  | [] => ""
  | [item] => display item
  | item :: rest => display item ++ ", " ++ displayItems rest

def displayEntries : List (Value × Value) → String
  | [] => ""
  | [(key, value)] => display key ++ ": " ++ display value
  | (key, value) :: rest =>
      display key ++ ": " ++ display value ++ ", " ++ displayEntries rest

end

/-- A text itself, any other value displayed. -/
def plain : Value → String
  | str value => value
  | value => display value

/-- The form of a value on its own: a text stands for itself, an exception for what it says. -/
def text : Value → String
  | error class_ [] => if ErrorClass.syntaxNames.contains class_.name then "None" else ""
  | error class_ [argument] =>
      if class_.name = "KeyError" then display argument else text argument
  | error class_ [number, explanation] =>
      if ErrorClass.systemNames.contains class_.name then
        "[Errno " ++ plain number ++ "] " ++ plain explanation
      else display (tuple [number, explanation])
  | error _ arguments => display (tuple arguments)
  | value => plain value

/-- What an exception says of itself in a report. -/
def message (class_ : ErrorClass) (arguments : List Value) : String :=
  if arguments.isEmpty && ErrorClass.syntaxNames.contains class_.name then
    "<no detail available>"
  else text (error class_ arguments)

/-- The report of an exception that ended a program: its class, and its text if it has one. -/
def report (class_ : ErrorClass) (arguments : List Value) : String :=
  let shown := message class_ arguments
  if shown.isEmpty then class_.name else Text.trimString (class_.name ++ ": " ++ shown)

end Value
end Program
end AnswerKey
