import AnswerKey.Json
import AnswerKey.Text.Line

namespace AnswerKey

/-!
Registries: what is registered for a language.  Names of languages count without blanks around them
and in small letters; registering a name again replaces what it stands for and keeps its place.
-/

open Text

/-- Entries by language, in the order of registration. -/
structure Registry (α : Type) where
  entries : List (String × α)

namespace Registry

variable {α : Type}

def empty : Registry α := ⟨[]⟩

/-- The name of a language as it is registered. -/
def keyOf (language : String) : String :=
  lower (trimString language)

/-- Set the entry of a key. -/
def insert (key : String) (value : α) : List (String × α) → List (String × α)
  | [] => [(key, value)]
  | (other, old) :: rest =>
      if other = key then (other, value) :: rest else (other, old) :: insert key value rest

theorem lookup_insert (key other : String) (value : α) (entries : List (String × α)) :
    (insert key value entries).lookup other =
      if other = key then some value else entries.lookup other := by
  induction entries with
  | nil =>
      by_cases same : other = key
      · simp [insert, same]
      · simp [insert, List.lookup_cons, beq_eq_false_iff_ne.mpr same, same]
  | cons entry rest ih =>
      rcases entry with ⟨name, old⟩
      by_cases known : name = key
      · subst known
        by_cases same : other = name
        · simp [insert, same]
        · simp [insert, List.lookup_cons, beq_eq_false_iff_ne.mpr same, same]
      · by_cases same : other = name
        · have different : other ≠ key := fun equal => known (same.symm.trans equal)
          subst same
          simp [insert, known]
        · simp [insert, List.lookup_cons, known, beq_eq_false_iff_ne.mpr same, ih]

def register (registry : Registry α) (language : String) (value : α) : Registry α :=
  ⟨insert (keyOf language) value registry.entries⟩

/-- What is registered for a language; the empty name stands for none. -/
def find? (registry : Registry α) (language : String) : Option α :=
  if language.isEmpty then none else registry.entries.lookup (keyOf language)

/-- Registering a language changes what is found under its name, in every spelling, and nothing
else. -/
theorem find?_register (registry : Registry α) (language other : String) (value : α) :
    (registry.register language value).find? other =
      if other.isEmpty then none
      else if keyOf other = keyOf language then some value
      else registry.find? other := by
  by_cases isEmpty : other.isEmpty = true
  · simp [find?, isEmpty]
  · simp [find?, register, isEmpty, lookup_insert]

/-- A name of a language that is no text. -/
inductive Fault where
  | notAText
  deriving DecidableEq, Repr

/-- What is registered for a language that is given by a value.  A value that does not count as true
names no language. -/
def get (registry : Registry α) (language : Json) : Except Fault (Option α) :=
  match language with
  | .str name => .ok (registry.find? name)
  | _ => if language.isTruthy then .error .notAText else .ok none

/-- Everything that is registered, in the order of registration. -/
def members (registry : Registry α) : List α :=
  registry.entries.map (·.2)

/-- The languages in alphabetical order. -/
def languages (registry : Registry α) : List String :=
  (registry.entries.map (·.1)).mergeSort fun a b => decide (a ≤ b)

end Registry
end AnswerKey
