import AnswerKey.Program.Operation
import AnswerKey.Program.Source

namespace AnswerKey
namespace Program

/-!
Running a program.  A run knows the values of names and what has been printed so far, and what has
been printed survives whatever ends the run.  Every statement takes one step; a run that has no steps
left is ended by the timer.
-/

open Snippet

/-- Values by name, in the order in which the names were first bound. -/
abbrev Names := List (String × Value)

namespace Names

/-- Bind a name. -/
def set (id : String) (value : Value) : Names → Names
  | [] => [(id, value)]
  | (other, old) :: rest =>
      if other = id then (other, value) :: rest else (other, old) :: set id value rest

/-- The names of a program that is run for itself. -/
def main : Names := [("__name__", .str "__main__")]

end Names

/-- What a run has done so far.  The printed pieces come last first. -/
structure Progress where
  names : Names
  printed : List String
  steps : Nat

namespace Progress

/-- Everything printed so far. -/
def output (progress : Progress) : String :=
  String.join progress.printed.reverse

end Progress

/-- A part of a run, which may be stopped. -/
abbrev Run := ExceptT Stop (StateM Progress)

namespace Run

/-- Go on with a value or stop. -/
def lift {α : Type} (result : Except Stop α) : Run α :=
  match result with
  | .ok value => pure value
  | .error stop => throw stop

def write (piece : String) : Run Unit :=
  modify fun progress => { progress with printed := piece :: progress.printed }

/-- Take one step, if there is one left. -/
def step : Run Unit := do
  match (← get).steps with
  | 0 => throw .timer
  | steps + 1 => modify fun progress => { progress with steps }

/-- The value of a name: what it is bound to, or what every program knows under it. -/
def lookup (id : String) : Run Value := do
  match (← get).names.lookup id with
  | some value => pure value
  | none =>
      match Builtin.ofName? id, ErrorClass.ofName? id with
      | some builtin, _ => pure (.function builtin)
      | none, some class_ => pure (.errorClass class_)
      | none, none => throw (.failure "NameError" ("name '" ++ id ++ "' is not defined"))

end Run

/-! ### Calls -/

/-- A text of code points. -/
def textOf (codes : List Nat) : String :=
  .ofList (codes.map Char.ofNat)

/-- The value of a literal. -/
def valueOf : Constant → Except Stop Value
  | .none => .ok .none
  | .bool value => .ok (.bool value)
  | .ellipsis => .ok .ellipsis
  | .int value => .ok (.int value)
  | .float value => .ok (.float value)
  | .str codes _ => .ok (.str (textOf codes))
  | .imaginary _ => .error (.unsupported "imaginary numbers")
  | .bytes _ => .error (.unsupported "bytes")

/-- The text of a keyword argument of `print`; null stands for the usual one. -/
def printOption (name usual : String) (keywords : List (String × Value)) : Except Stop String :=
  match keywords.lookup name with
  | none => .ok usual
  | some .none => .ok usual
  | some (.str value) => .ok value
  | some value =>
      .error (.typeError (name ++ " must be None or a string, not " ++ value.typeName))

/-- The keyword arguments of `print`. -/
def printKeywords : List String := ["sep", "end", "file", "flush"]

/-- Whether a keyword argument of `print` has no meaning. -/
def isForeignToPrint (keyword : String × Value) : Bool :=
  !printKeywords.contains keyword.1

def print (arguments : List Value) (keywords : List (String × Value)) : Run Value := do
  if let some (name, _) := keywords.find? isForeignToPrint then
    throw (.typeError ("'" ++ name ++ "' is an invalid keyword argument for print()"))
  let separator ← Run.lift (printOption "sep" " " keywords)
  let ending ← Run.lift (printOption "end" "\n" keywords)
  Run.write (separator.intercalate (arguments.map Value.text) ++ ending)
  pure .none

/-- An argument of `range`. -/
def rangeBound (value : Value) : Except Stop Int :=
  match value.integer? with
  | some n => .ok n
  | none =>
      .error (.typeError
        ("'" ++ value.typeName ++ "' object cannot be interpreted as an integer"))

def range : List Value → Result
  | [] => .error (.typeError "range expected at least 1 argument, got 0")
  | [stop] => (rangeBound stop).map (.range 0 · 1)
  | [start, stop] => do pure (.range (← rangeBound start) (← rangeBound stop) 1)
  | [start, stop, step] => do
      let start ← rangeBound start
      let stop ← rangeBound stop
      let step ← rangeBound step
      if step = 0 then throw (.failure "ValueError" "range() arg 3 must not be zero")
      pure (.range start stop step)
  | arguments =>
      .error (.typeError
        ("range expected at most 3 arguments, got " ++ Decimal.ofInt arguments.length))

/-- Read a line of input; there is none. -/
def input (arguments : List Value) : Run Value := do
  match arguments with
  | [] => pure ()
  | [prompt] => Run.write prompt.text
  | _ =>
      throw (.typeError
        ("input expected at most 1 argument, got " ++ Decimal.ofInt arguments.length))
  throw (.failure "EOFError" "EOF when reading a line")

/-- A function of exactly one argument. -/
def unaryCall (name : String) (arguments : List Value) (apply : Value → Result) : Result :=
  match arguments with
  | [argument] => apply argument
  | _ =>
      .error (.typeError
        (name ++ "() takes exactly one argument (" ++ Decimal.ofInt arguments.length ++ " given)"))

/-- The number of members of a value. -/
def length (value : Value) : Result :=
  match value.members? with
  | some members => .ok (.int members.length)
  | none => .error (.typeError ("object of type '" ++ value.typeName ++ "' has no len()"))

def call (function : Value) (arguments : List Value) (keywords : List (String × Value)) :
    Run Value :=
  let plain (name : String) (result : Run Value) : Run Value :=
    if keywords.isEmpty then result
    else throw (.typeError (name ++ "() takes no keyword arguments"))
  match function with
  | .function .print => print arguments keywords
  | .function .range => plain "range" (Run.lift (range arguments))
  | .function .input => plain "input" (input arguments)
  | .function .len => plain "len" (Run.lift (unaryCall "len" arguments length))
  | .function .repr =>
      plain "repr" (Run.lift (unaryCall "repr" arguments fun value => .ok (.str value.display)))
  | .function .str =>
      match arguments, keywords with
      | [], [] => pure (.str "")
      | [argument], [] => pure (.str argument.text)
      | _, _ => throw (.unsupported "texts of bytes")
  | .errorClass class_ => plain class_.name (pure (.error class_ arguments))
  | value => throw (.typeError ("'" ++ value.typeName ++ "' object is not callable"))

/-- Add an entry to a dictionary; a key that is known takes the new value. -/
def addEntry (key value : Value) : List (Value × Value) → List (Value × Value)
  | [] => [(key, value)]
  | (other, old) :: rest =>
      if Value.equals other key then (other, value) :: rest
      else (other, old) :: addEntry key value rest

/-- The dictionary of some keys and values. -/
def dictionary : List Value → List Value → List (Value × Value) → Result
  | key :: keys, value :: values, entries =>
      match key.unhashableType? with
      | some name => .error (.typeError ("unhashable type: '" ++ name ++ "'"))
      | none => dictionary keys values (addEntry key value entries)
  | _, _, entries => .ok (.dict entries)

/-! ### Expressions -/

/-- The bound of a slice. -/
def sliceBound (bounds : List Value) : Except Stop (Option Int) :=
  match bounds with
  | [] => .ok none
  | .none :: _ => .ok none
  | value :: _ =>
      match value.integer? with
      | some n => .ok (some n)
      | none =>
          .error (.typeError
            "slice indices must be integers or None or have an __index__ method")

/-- Compare a value with others in a chain, as long as the comparisons hold. -/
def compareChain (read : Tree → Run Value) (left : Value) :
    List CompareOp → List Tree → Run Value
  | op :: ops, tree :: trees => do
      let right ← read tree
      let holds ← Run.lift (Value.comparison op left right)
      if holds && !ops.isEmpty then compareChain read right ops trees else pure (.bool holds)
  | _, _ => pure (.bool true)

/-- The first operand that decides, or else the last one. -/
def connect (read : Tree → Run Value) (op : BoolOp) : List Tree → Run Value
  | [] => pure .none
  | [tree] => read tree
  | tree :: rest => do
      let value ← read tree
      if value.isTruthy == (op == .or) then pure value else connect read op rest

/-- The keyword arguments of a call. -/
def keywordArguments (read : Tree → Run Value) : List Tree → Run (List (String × Value))
  | [] => pure []
  | .node (.keyword (some name)) [[tree]] :: rest => do
      let value ← read tree
      let others ← keywordArguments read rest
      pure ((name, value) :: others)
  | _ => throw (.unsupported "unpacked keyword arguments")

/-- The value of an expression. -/
def evaluate : (fuel : Nat) → Tree → Run Value
  | 0, _ => throw .timer
  | fuel + 1, tree =>
      let read := evaluate fuel
      match tree with
      | .constant value => Run.lift (valueOf value)
      | .name id .load => Run.lookup id
      | .node (.binary op) [[left], [right]] => do
          let left ← read left
          let right ← read right
          Run.lift (Value.binary op left right)
      | .node (.unary op) [[operand]] => do Run.lift (Value.unary op (← read operand))
      | .node (.boolean op) [operands] => connect read op operands
      | .node .conditional [[test], [body], [alternative]] => do
          if (← read test).isTruthy then read body else read alternative
      | .node (.compare ops) [[left], comparators] => do
          compareChain read (← read left) ops comparators
      | .node (.list .load) [elements] => do pure (.list (← elements.mapM read))
      | .node (.tuple .load) [elements] => do pure (.tuple (← elements.mapM read))
      | .node (.dict keyed) [keys, values] => do
          if keyed.all id then
            let keys ← keys.mapM read
            let values ← values.mapM read
            Run.lift (dictionary keys values [])
          else throw (.unsupported "unpacked dictionaries")
      | .node .call [[function], arguments, keywords] => do
          let function ← read function
          let arguments ← arguments.mapM read
          let keywords ← keywordArguments read keywords
          call function arguments keywords
      | .node (.subscript .load) [[container], [.slice lower upper step]] => do
          let container ← read container
          let lower ← lower.mapM read
          let upper ← upper.mapM read
          let step ← step.mapM read
          let slice : Slice :=
            ⟨← Run.lift (sliceBound lower), ← Run.lift (sliceBound upper),
              ← Run.lift (sliceBound step)⟩
          Run.lift (Value.sliced container slice)
      | .node (.subscript .load) [[container], [index]] => do
          let container ← read container
          let index ← read index
          Run.lift (Value.subscript container index)
      | _ => throw (.unsupported "this expression")

/-! ### Statements -/

/-- How many steps a run may take. -/
def stepLimit : Nat := 10000

/-- What raising a value means. -/
def raise (value : Value) : Stop :=
  match value with
  | .errorClass class_ => .error class_ []
  | .error class_ arguments => .error class_ arguments
  | _ => .typeError "exceptions must derive from BaseException"

def bind (id : String) (value : Value) : Run Unit :=
  modify fun progress => { progress with names := progress.names.set id value }

/-- The members that a loop goes through; of a range no more than there are steps for. -/
def rounds? : Value → Option (List Value)
  | .range start stop step =>
      some ((List.range (min (Value.rangeLength start stop step) (stepLimit + 1))).map
        fun (count : Nat) => .int (start + count * step))
  | value => value.members?

/-- Run a body for every member; the flag tells whether no `break` ended the loop. -/
def forEach (body : Run Unit) (id : String) : List Value → Run Bool
  | [] => pure true
  | value :: rest => fun progress =>
      match (do Run.step; bind id value; body : Run Unit) progress with
      | (.ok (), after) => forEach body id rest after
      | (.error .nextRound, after) => forEach body id rest after
      | (.error .leaveLoop, after) => (.ok false, after)
      | (.error stop, after) => (.error stop, after)

/-- Run a body as long as a test holds. -/
def repeatWhile (test : Run Bool) (body : Run Unit) : (rounds : Nat) → Run Bool
  | 0 => throw .timer
  | rounds + 1 => fun progress =>
      match (do Run.step; test : Run Bool) progress with
      | (.error stop, after) => (.error stop, after)
      | (.ok false, after) => (.ok true, after)
      | (.ok true, between) =>
          match body between with
          | (.ok (), after) => repeatWhile test body rounds after
          | (.error .nextRound, after) => repeatWhile test body rounds after
          | (.error .leaveLoop, after) => (.ok false, after)
          | (.error stop, after) => (.error stop, after)

/-- Run a statement. -/
def execute : (fuel : Nat) → Tree → Run Unit
  | 0, _ => throw .timer
  | fuel + 1, tree => do
      Run.step
      let read := evaluate fuel
      let all (body : List Tree) : Run Unit := body.forM (execute fuel)
      match tree with
      | .module body => all body
      | .node .passStatement _ => pure ()
      | .node .breakStatement _ => throw .leaveLoop
      | .node .continueStatement _ => throw .nextRound
      | .node .expr [[value]] => discard (read value)
      | .node .assign [found, [value]] => do
          let value ← read value
          found.forM fun place =>
            match place with
            | .name id _ => bind id value
            | _ => throw (.unsupported "this assignment")
      | .node (.augmented op) [[.name id _], [value]] => do
          let old ← Run.lookup id
          let value ← read value
          bind id (← Run.lift (Value.binary op old value))
      | .node .ifStatement [[test], body, alternative] => do
          if (← read test).isTruthy then all body else all alternative
      | .node .whileStatement [[test], body, alternative] => do
          let completed ←
            repeatWhile (do pure (← read test).isTruthy) (all body) (stepLimit + 1)
          if completed then all alternative
      | .loop false (.name id _) iterable body alternative => do
          let value ← read iterable
          match rounds? value with
          | none =>
              throw (.typeError ("'" ++ value.typeName ++ "' object is not iterable"))
          | some members =>
              let completed ← forEach (all body) id members
              if completed then all alternative
      | .node .assertStatement [[test], message] => do
          if !(← read test).isTruthy then
            let arguments ← message.mapM read
            throw (.error ⟨"AssertionError", true⟩ arguments)
      | .node .raiseStatement [exception, cause] => do
          match exception with
          | [] => throw (.failure "RuntimeError" "No active exception to reraise")
          | tree :: _ => do
              let value ← read tree
              let _ ← cause.mapM read
              throw (raise value)
      | _ => throw (.unsupported "this statement")

/-! ### Whole runs -/

/-- How a run ends. -/
inductive Ending where
  | finished
  | raised (class_ : ErrorClass) (arguments : List Value)
  | timeUp
  deriving Inhabited

/-- Run a program with some names. -/
def runIn (names : Names) (source : String) : Ending × Progress :=
  match read source with
  | .error refusal =>
      (.raised { name := refusal.className } [.str refusal.message], ⟨names, [], stepLimit⟩)
  | .ok tree =>
      match execute (tree.depth + 1) tree ⟨names, [], stepLimit⟩ with
      | (.ok (), progress) => (.finished, progress)
      | (.error (.error class_ arguments), progress) => (.raised class_ arguments, progress)
      | (.error _, progress) => (.timeUp, progress)

/-- Run a program for itself: the way it ends and everything it prints. -/
def run (source : String) : Ending × String :=
  let (ending, progress) := runIn .main source
  (ending, progress.output)

end Program
end AnswerKey
