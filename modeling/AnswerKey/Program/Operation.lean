import AnswerKey.Program.Slice
import AnswerKey.Snippet.Tree

namespace AnswerKey
namespace Program

/-!
Operations on values: arithmetic, concatenation, comparison, membership and subscripts.  What an
operation cannot do stops the program with an exception that names the types at hand.
-/

open Snippet (BinaryOp UnaryOp CompareOp)
open Decimal (Binary64)

/-- What keeps a program from going on at a place. -/
inductive Stop where
  /-- An exception. -/
  | error (class_ : ErrorClass) (arguments : List Value)
  /-- The timer. -/
  | timer
  | leaveLoop
  | nextRound
  deriving Inhabited

namespace Stop

/-- An exception with a text. -/
def failure (name message : String) : Stop :=
  error { name } [.str message]

def typeError (message : String) : Stop :=
  failure "TypeError" message

/-- The end of a program that goes beyond what can be run here. -/
def unsupported (what : String) : Stop :=
  failure "NotImplementedError" what

end Stop

/-- A value, or what stops the program. -/
abbrev Result := Except Stop Value

namespace Value

/-! ### Numbers -/

/-- A finite number as a quotient. -/
def ratio? : Value → Option (Int × Nat)
  | float x =>
      if x.isFinite then
        let (n, d) := x.ratio
        some (if x.isNegative then -(n : Int) else n, d)
      else Option.none
  | value => value.integer?.map fun n => (n, 1)

/-- The double nearest to a quotient. -/
def floatOfRatio (numerator : Int) (denominator : Nat) : Value :=
  let x := Binary64.ofRatio numerator.natAbs denominator
  float (if numerator < 0 then x.neg else x)

def isNumber : Value → Bool
  | float _ => true
  | value => value.integer?.isSome

/-- The order of two numbers; there is none if one of them is not a number at all. -/
def orderNumbers (a b : Value) : Option Ordering :=
  match a.ratio?, b.ratio? with
  | some (n, d), some (m, e) => some (compare (n * e) (m * d))
  | found, found' =>
      let rank (value : Value) (isFinite : Bool) : Option Int :=
        match value with
        | float x =>
            if x.isNan then Option.none
            else if isFinite then some 0
            else some (if x.isNegative then -1 else 1)
        | _ => some 0
      match rank a found.isSome, rank b found'.isSome with
      | some i, some j => some (compare i j)
      | _, _ => Option.none

/-! ### Equality and order -/

mutual

/-- Whether two values are equal. -/
def equals : Value → Value → Bool
  | none, none => true
  | ellipsis, ellipsis => true
  | str a, str b => a == b
  | list a, list b => equalItems a b
  | tuple a, tuple b => equalItems a b
  | dict a, dict b => a.length == b.length && entriesWithin a b
  | range a b c, range a' b' c' =>
      let n := rangeLength a b c
      n == rangeLength a' b' c' && (n == 0 || (a == a' && (n == 1 || c == c')))
  | function a, function b => a == b
  | errorClass a, errorClass b => a == b
  | a, b => a.isNumber && b.isNumber && orderNumbers a b == some .eq

def equalItems : List Value → List Value → Bool
  | [], [] => true
  | a :: as, b :: bs => equals a b && equalItems as bs
  | _, _ => false

/-- Whether every entry of one dictionary is in another one. -/
def entriesWithin : List (Value × Value) → List (Value × Value) → Bool
  | [], _ => true
  | (key, value) :: rest, others =>
      others.any (fun (other, found) => equals key other && equals value found) &&
        entriesWithin rest others

end

mutual

/-- The order of two values, or the names of two types that have none. -/
def order : Value → Value → Except (String × String) (Option Ordering)
  | str a, str b => .ok (some (compare a b))
  | list a, list b => orderItems a b
  | tuple a, tuple b => orderItems a b
  | a, b =>
      if a.isNumber && b.isNumber then .ok (orderNumbers a b) else .error (a.typeName, b.typeName)

/-- Members decide in order; a proper start of a sequence comes first. -/
def orderItems : List Value → List Value → Except (String × String) (Option Ordering)
  | [], [] => .ok (some .eq)
  | [], _ :: _ => .ok (some .lt)
  | _ :: _, [] => .ok (some .gt)
  | a :: as, b :: bs => if equals a b then orderItems as bs else order a b

end

/-- The type that keeps a value from being a key. -/
def unhashableType? : Value → Option String
  | list _ => some "list"
  | dict _ => some "dict"
  | _ => Option.none

/-! ### Members -/

/-- The members of a value in order; nothing if it has none. -/
def members? : Value → Option (List Value)
  | list items => some items
  | tuple items => some items
  | str value => some (value.toList.map fun c => str (.ofList [c]))
  | dict entries => some (entries.map (·.1))
  | range start stop step =>
      some ((List.range (rangeLength start stop step)).map
        fun (count : Nat) => int (start + count * step))
  | _ => Option.none

/-- Whether a text stands somewhere in another one. -/
def occursIn (part : List Char) : List Char → Bool
  | [] => part.isEmpty
  | c :: rest => part.isPrefixOf (c :: rest) || occursIn part rest

/-- Whether a value is a member of another one. -/
def isMember (value container : Value) : Except Stop Bool :=
  match container, value with
  | str whole, str part => .ok (occursIn part.toList whole.toList)
  | str _, _ =>
      .error (.typeError
        ("'in <string>' requires string as left operand, not " ++ value.typeName))
  | _, _ =>
      match container.members? with
      | some members => .ok (members.any (equals value))
      | Option.none =>
          .error (.typeError ("argument of type '" ++ container.typeName ++ "' is not iterable"))

/-- The position of a member counted from the start; a negative index counts from the end. -/
def positionOf? (length : Nat) (index : Int) : Option Nat :=
  let position := if index < 0 then index + length else index
  if 0 ≤ position ∧ position < length then some position.toNat else Option.none

/-- The member of a sequence at an index. -/
def memberAt (kind : String) (indices : String) (members : List Value) (index : Value) : Result :=
  match index.integer? with
  | Option.none => .error (.typeError (indices ++ index.typeName))
  | some n =>
      match (positionOf? members.length n).bind fun position => members[position]? with
      | some value => .ok value
      | Option.none => .error (.failure "IndexError" (kind ++ " index out of range"))

/-- The value of a subscript. -/
def subscript (container index : Value) : Result :=
  let members := container.members?.getD []
  let named (kind : String) : String := kind ++ " indices must be integers or slices, not "
  match container with
  | list _ => memberAt "list" (named "list") members index
  | tuple _ => memberAt "tuple" (named "tuple") members index
  | range _ _ _ => memberAt "range object" (named "range") members index
  | str _ =>
      match index.integer? with
      | some _ => memberAt "string" "" members index
      | Option.none =>
          .error (.typeError ("string indices must be integers, not '" ++ index.typeName ++ "'"))
  | dict entries =>
      match index.unhashableType? with
      | some name => .error (.typeError ("unhashable type: '" ++ name ++ "'"))
      | Option.none =>
          match entries.find? fun (key, _) => equals key index with
          | some (_, value) => .ok value
          | Option.none => .error (.error ⟨"KeyError", true⟩ [index])
  | _ => .error (.typeError ("'" ++ container.typeName ++ "' object is not subscriptable"))

/-- The value of a subscript with bounds. -/
def sliced (container : Value) (slice : Slice) : Result :=
  if slice.step = some 0 then .error (.failure "ValueError" "slice step cannot be zero")
  else
    match container with
    | list items => .ok (list (slice.select items))
    | tuple items => .ok (tuple (slice.select items))
    | str value => .ok (str (.ofList (slice.select value.toList)))
    | dict _ => .error (.typeError "unhashable type: 'slice'")
    | range _ _ _ => .error (.unsupported "slices of ranges")
    | _ => .error (.typeError ("'" ++ container.typeName ++ "' object is not subscriptable"))

/-! ### Arithmetic -/

/-- The sign of an operation, as it is written in messages. -/
def signOf : BinaryOp → String
  | .add => "+"
  | .sub => "-"
  | .mult => "*"
  | .matMult => "@"
  | .div => "/"
  | .mod => "%"
  | .pow => "** or pow()"
  | .leftShift => "<<"
  | .rightShift => ">>"
  | .bitOr => "|"
  | .bitXor => "^"
  | .bitAnd => "&"
  | .floorDiv => "//"

/-- How long a repeated sequence and how large an exponent may get. -/
def sizeLimit : Nat := 1000000

/-- A sequence written down several times. -/
def repeated {α : Type} (make : List α → Value) (items : List α) (count : Int) : Result :=
  if sizeLimit < items.length * count.toNat then .error (.error ⟨"MemoryError", true⟩ [])
  else .ok (make (List.replicate count.toNat items).flatten)

def zeroDivision (message : String) : Stop :=
  .failure "ZeroDivisionError" message

def integerOperation (op : BinaryOp) (a b : Int) : Result :=
  match op with
  | .add => .ok (int (a + b))
  | .sub => .ok (int (a - b))
  | .mult => .ok (int (a * b))
  | .div =>
      if b = 0 then .error (zeroDivision "division by zero")
      else .ok (floatOfRatio (if b < 0 then -a else a) b.natAbs)
  | .floorDiv =>
      if b = 0 then .error (zeroDivision "integer division or modulo by zero")
      else .ok (int (a.fdiv b))
  | .mod =>
      if b = 0 then .error (zeroDivision "integer modulo by zero") else .ok (int (a.fmod b))
  | .pow =>
      if b < 0 then .error (.unsupported "negative exponents")
      else if sizeLimit < b.toNat * a.natAbs.log2 then .error .timer
      else .ok (int (Int.pow a b.toNat))
  | _ => .error (.unsupported "operations on bits")

def floatOperation (op : BinaryOp) (n : Int) (d : Nat) (m : Int) (e : Nat) : Result :=
  match op with
  | .add => .ok (floatOfRatio (n * e + m * d) (d * e))
  | .sub => .ok (floatOfRatio (n * e - m * d) (d * e))
  | .mult => .ok (floatOfRatio (n * m) (d * e))
  | .div =>
      if m = 0 then .error (zeroDivision "float division by zero")
      else .ok (floatOfRatio (if m < 0 then -(n * e) else n * e) (d * m.natAbs))
  | _ => .error (.unsupported "this operation on doubles")

def refused (op : BinaryOp) (a b : Value) : Stop :=
  .typeError ("unsupported operand type(s) for " ++ signOf op ++ ": '" ++ a.typeName ++ "' and '" ++
    b.typeName ++ "'")

/-- Operations that are not between two numbers. -/
def sequenceOperation (op : BinaryOp) (a b : Value) : Result :=
  let concatenated (kind : String) : Result :=
    .error (.typeError
      ("can only concatenate " ++ kind ++ " (not \"" ++ b.typeName ++ "\") to " ++ kind))
  let times {α : Type} (make : List α → Value) (items : List α) (count : Value) : Result :=
    match count.integer? with
    | some n => repeated make items n
    | Option.none =>
        .error (.typeError
          ("can't multiply sequence by non-int of type '" ++ count.typeName ++ "'"))
  match op, a, b with
  | .add, str x, str y => .ok (str (x ++ y))
  | .add, str _, _ => concatenated "str"
  | .add, list x, list y => .ok (list (x ++ y))
  | .add, list _, _ => concatenated "list"
  | .add, tuple x, tuple y => .ok (tuple (x ++ y))
  | .add, tuple _, _ => concatenated "tuple"
  | .mult, str x, count => times (fun text => str (.ofList text)) x.toList count
  | .mult, list x, count => times list x count
  | .mult, tuple x, count => times tuple x count
  | .mult, count, str x => times (fun text => str (.ofList text)) x.toList count
  | .mult, count, list x => times list x count
  | .mult, count, tuple x => times tuple x count
  | .mod, str _, _ => .error (.unsupported "texts with places to fill")
  | _, _, _ => .error (refused op a b)

/-- The value of a binary operation. -/
def binary (op : BinaryOp) (a b : Value) : Result :=
  match a.integer?, b.integer? with
  | some n, some m => integerOperation op n m
  | _, _ =>
      if a.isNumber && b.isNumber then
        match a.ratio?, b.ratio? with
        | some (n, d), some (m, e) => floatOperation op n d m e
        | _, _ => .error (.unsupported "infinite numbers")
      else sequenceOperation op a b

/-- The value of a unary operation. -/
def unary (op : UnaryOp) (a : Value) : Result :=
  let refused (sign : String) : Result :=
    .error (.typeError ("bad operand type for unary " ++ sign ++ ": '" ++ a.typeName ++ "'"))
  match op, a, a.integer? with
  | .not, _, _ => .ok (bool !a.isTruthy)
  | .minus, _, some n => .ok (int (-n))
  | .minus, float x, _ => .ok (float x.neg)
  | .minus, _, _ => refused "-"
  | .plus, _, some n => .ok (int n)
  | .plus, float x, _ => .ok (float x)
  | .plus, _, _ => refused "+"
  | .invert, _, some n => .ok (int (-n - 1))
  | .invert, _, _ => refused "~"

/-- Whether two values are one and the same. -/
def isSame (a b : Value) : Bool :=
  a.typeName == b.typeName && equals a b

/-- The truth of one comparison. -/
def comparison (op : CompareOp) (a b : Value) : Except Stop Bool :=
  let ordered (sign : String) (test : Ordering → Bool) : Except Stop Bool :=
    match order a b with
    | .ok found => .ok ((found.map test).getD false)
    | .error (left, right) =>
        .error (.typeError
          ("'" ++ sign ++ "' not supported between instances of '" ++ left ++ "' and '" ++ right ++
            "'"))
  match op with
  | .eq => .ok (equals a b)
  | .notEq => .ok !(equals a b)
  | .lt => ordered "<" (· == .lt)
  | .ltE => ordered "<=" (· != .gt)
  | .gt => ordered ">" (· == .gt)
  | .gtE => ordered ">=" (· != .lt)
  | .is => .ok (isSame a b)
  | .isNot => .ok !(isSame a b)
  | .isIn => isMember a b
  | .notIn => (isMember a b).map (!·)

end Value
end Program
end AnswerKey
