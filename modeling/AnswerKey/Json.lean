import AnswerKey.Decimal.Binary64

namespace AnswerKey

/-!
Data documents.  Integers are unbounded and kept apart from fractional numbers; the fields of an
object keep the order in which their keys first appeared.
-/

/-- A data value. -/
inductive Json where
  | null
  | bool (value : Bool)
  | int (value : Int)
  | float (value : Decimal.Binary64)
  | str (value : String)
  | arr (items : List Json)
  | obj (fields : List (String × Json))
  deriving Inhabited

namespace Json

mutual

/-- Structural equality of data values. -/
def same : Json → Json → Bool
  | null, null => true
  | bool a, bool b => a == b
  | int a, int b => a == b
  | float a, float b => a == b
  | str a, str b => a == b
  | arr a, arr b => sameItems a b
  | obj a, obj b => sameFields a b
  | _, _ => false

def sameItems : List Json → List Json → Bool
  | [], [] => true
  | a :: as, b :: bs => same a b && sameItems as bs
  | _, _ => false

def sameFields : List (String × Json) → List (String × Json) → Bool
  | [], [] => true
  | (k, a) :: as, (l, b) :: bs => k == l && same a b && sameFields as bs
  | _, _ => false

end

/-- The value of a key in a list of fields. -/
def lookup? (key : String) : List (String × Json) → Option Json
  | [] => none
  | (name, value) :: rest => if name = key then some value else lookup? key rest

/-- The value of a field of an object. -/
def field? (value : Json) (key : String) : Option Json :=
  match value with
  | obj fields => lookup? key fields
  | _ => none

/-- Set a field: a known key keeps its place and takes the new value, a new key goes last. -/
def insertField (key : String) (value : Json) : List (String × Json) → List (String × Json)
  | [] => [(key, value)]
  | (name, old) :: rest =>
      if name = key then (name, value) :: rest else (name, old) :: insertField key value rest

/-- Setting a field changes what its key stands for and nothing else. -/
theorem lookup?_insertField (key other : String) (value : Json) (fields : List (String × Json)) :
    lookup? other (insertField key value fields) =
      if key = other then some value else lookup? other fields := by
  induction fields with
  | nil => simp [insertField, lookup?]
  | cons head rest ih =>
      rcases head with ⟨name, old⟩
      by_cases same : name = key
      · subst same
        by_cases wanted : name = other <;> simp [insertField, lookup?, wanted]
      · by_cases wanted : name = other
        · subst wanted
          have different : key ≠ name := fun equal => same equal.symm
          simp [insertField, lookup?, same, different]
        · simp [insertField, lookup?, same, wanted, ih]

/-- A key that is known keeps its place, and a new one goes last. -/
theorem keys_insertField (key : String) (value : Json) (fields : List (String × Json)) :
    (insertField key value fields).map (·.1) =
      if key ∈ fields.map (·.1) then fields.map (·.1) else fields.map (·.1) ++ [key] := by
  induction fields with
  | nil => simp [insertField]
  | cons head rest ih =>
      rcases head with ⟨name, old⟩
      by_cases same : name = key
      · simp [insertField, same]
      · have different : key ≠ name := fun equal => same equal.symm
        simp only [insertField, if_neg same, List.map_cons, ih, List.mem_cons, different, false_or]
        split <;> rfl

/-- Whether a value counts as true: null, false, zero and everything empty do not. -/
def isTruthy : Json → Bool
  | null => false
  | bool b => b
  | int n => n != 0
  | float x => !x.isZero
  | str s => !s.isEmpty
  | arr items => !items.isEmpty
  | obj fields => !fields.isEmpty

def isNull : Json → Bool
  | null => true
  | _ => false

/-- The name of a value's type. -/
def typeName : Json → String
  | null => "NoneType"
  | bool _ => "bool"
  | int _ => "int"
  | float _ => "float"
  | str _ => "str"
  | arr _ => "list"
  | obj _ => "dict"

mutual

/-- How deep arrays and objects nest in a value. -/
def nesting : Json → Nat
  | arr items => nestingOfItems items + 1
  | obj fields => nestingOfFields fields + 1
  | _ => 0

def nestingOfItems : List Json → Nat
  | [] => 0
  | item :: rest => max (nesting item) (nestingOfItems rest)

def nestingOfFields : List (String × Json) → Nat
  | [] => 0
  | (_, value) :: rest => max (nesting value) (nestingOfFields rest)

end

/-- A text, or null when there is none. -/
def ofText? : Option String → Json
  | none => null
  | some text => str text

end Json

end AnswerKey
