import AnswerKey.Json.Writer

namespace AnswerKey

/-!
Exercises and how they are read from records.  A record may spell its keys with underscores or with
capitals inside; the first spelling that has a value counts.  Fields that are only passed on or tested
keep whatever value the record gives them.
-/

/-- The construct that a right answer should use, and what to say when it does not. -/
structure TargetConstruct where
  name : String
  feedback : Json

structure Exercise where
  expectedAnswer : String
  exerciseType : String
  language : Json
  gradingStrategy : Json
  acceptedSolutions : List String
  code : Json
  verificationScript : Json
  verifyByExecution : Bool
  targetConstruct : Option TargetConstruct
  slug : Json
  deriving Inhabited

namespace Exercise

/-- Types of exercises. -/
def knownTypes : List String :=
  ["write", "fill-in", "predict"]

/-- An exercise of which only the expected answer is known. -/
def ofAnswer (answer : String) : Exercise where
  expectedAnswer := answer
  exerciseType := "write"
  language := .null
  gradingStrategy := .null
  acceptedSolutions := []
  code := .null
  verificationScript := .null
  verifyByExecution := false
  targetConstruct := none
  slug := .null

/-- Why a record is no exercise. -/
inductive Fault where
  | notAnObject
  /-- The accepted solutions cannot be gone through one by one. -/
  | notIterable
  deriving DecidableEq, Repr

/-- The first value that a record has under some keys; a null is no value. -/
def pick (fields : List (String × Json)) : List String → Json
  | [] => .null
  | key :: others =>
      match Json.lookup? key fields with
      | some .null => pick fields others
      | some value => value
      | none => pick fields others

/-- A value, or another one if it does not count as true. -/
def orElse (value other : Json) : Json :=
  if value.isTruthy then value else other

/-- The target construct of a record: an object whose type counts as true. -/
def targetOf : Json → Option TargetConstruct
  | .obj fields =>
      let name := (Json.lookup? "type" fields).getD .null
      if name.isTruthy then
        some ⟨name.text, (Json.lookup? "feedback" fields).getD .null⟩
      else none
  | _ => none

/-- The members of a value as texts: items of an array, keys of an object, characters of a text. -/
def membersOf : Json → Except Fault (List String)
  | .arr items => .ok (items.map Json.text)
  | .obj fields => .ok (fields.map (·.1))
  | .str text => .ok (text.toList.map fun c => .ofList [c])
  | _ => .error .notIterable

def expectedAnswerKeys : List String := ["expected_answer", "expectedAnswer"]

def exerciseTypeKeys : List String := ["exercise_type", "exerciseType", "type"]

def gradingStrategyKeys : List String := ["grading_strategy", "gradingStrategy"]

def acceptedSolutionsKeys : List String := ["accepted_solutions", "acceptedSolutions"]

def verificationScriptKeys : List String := ["verification_script", "verificationScript"]

def verifyByExecutionKeys : List String := ["verify_by_execution", "verifyByExecution"]

def targetConstructKeys : List String := ["target_construct", "targetConstruct"]

/-- The exercise of the fields of a record. -/
def ofFields (fields : List (String × Json)) : Except Fault Exercise := do
  let accepted ← membersOf (orElse (pick fields acceptedSolutionsKeys) (.arr []))
  pure
    { expectedAnswer := (orElse (pick fields expectedAnswerKeys) (.str "")).text
      exerciseType := (orElse (pick fields exerciseTypeKeys) (.str "write")).text
      language := pick fields ["language"]
      gradingStrategy := pick fields gradingStrategyKeys
      acceptedSolutions := accepted
      code := pick fields ["code"]
      verificationScript := pick fields verificationScriptKeys
      verifyByExecution := (pick fields verifyByExecutionKeys).isTruthy
      targetConstruct := targetOf (pick fields targetConstructKeys)
      slug := pick fields ["slug"] }

/-- The exercise of a record. -/
def ofRecord : Json → Except Fault Exercise
  | .obj fields => ofFields fields
  | _ => .error .notAnObject

end Exercise
end AnswerKey
