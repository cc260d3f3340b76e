import AnswerKey.Answer.Normal

namespace AnswerKey
namespace Answer

/-!
Exact matching: an answer is right when its normal form is not empty and equals that of the expected
answer or of an accepted alternative.
-/

/-- What an answer is compared as. -/
inductive Form where
  | code
  | fillIn
  | output
  deriving DecidableEq, Repr

/-- The normal form of a text under one form of comparison. -/
def Form.normalize : Form → String → String
  | code => Answer.code
  | fillIn => Answer.fillIn
  | output => Answer.output

/-- The form for a type of exercise; types that are not known are matched like written code. -/
def Form.ofExerciseType (exerciseType : String) : Form :=
  if exerciseType = "fill-in" then fillIn
  else if exerciseType = "predict" then output
  else code

/-- The outcome of an exact match. -/
structure Verdict where
  isCorrect : Bool
  /-- The alternative that matched, as it was written; nothing when the expected answer did. -/
  alternative : Option String
  normalizedAnswer : String
  normalizedExpected : String
  deriving DecidableEq, Repr

/-- The first non-empty alternative whose normal form is the given one. -/
def firstMatch? (form : Form) (answer : String) (alternatives : List String) : Option String :=
  alternatives.find? fun alternative =>
    !alternative.isEmpty && form.normalize alternative == answer

/-- Match an answer against the expected one and the alternatives, in this order. -/
def matchWith (form : Form) (answer expected : String) (alternatives : List String) : Verdict :=
  let given := form.normalize answer
  let wanted := form.normalize expected
  if given = "" then ⟨false, none, given, wanted⟩
  else if given = wanted then ⟨true, none, given, wanted⟩
  else
    match firstMatch? form given alternatives with
    | some alternative => ⟨true, some alternative, given, wanted⟩
    | none => ⟨false, none, given, wanted⟩

/-- Match an answer in the form that belongs to a type of exercise. -/
def matchExercise (answer exerciseType expected : String) (alternatives : List String) : Verdict :=
  matchWith (.ofExerciseType exerciseType) answer expected alternatives

end Answer
end AnswerKey
