import AnswerKey.Answer.Match
import AnswerKey.Grading.Capabilities
import AnswerKey.Grading.Note
import AnswerKey.Registry

namespace AnswerKey
namespace Grading

/-!
Grading one submission.  The exercise decides on a strategy, and the language on the capabilities it is
carried out with.  A strategy that cannot be carried out is replaced by exact matching, once, and
nothing that was reported about the submission before counts any more; a program that fails is the
fault of the submission and is not replaced by anything.
-/

/-- What a strategy says about a submission. -/
structure Outcome where
  isCorrect : Bool
  /-- Whether the strategy could be carried out. -/
  isAvailable : Bool := true
  alternative : Option String := none
  error : Json := .null

/-- What is known in the end. -/
structure Result where
  isCorrect : Bool
  strategy : Strategy
  alternative : Option String
  isAvailable : Bool
  usedFallback : Bool
  fallbackReason : Option String
  error : Json
  feedback : Option Json

namespace Outcome

/-- A strategy could not be carried out. -/
def unavailable (error : String) : Outcome :=
  { isCorrect := false, isAvailable := false, error := .str error }

/-- Exact matching. -/
def exact (submission : String) (exercise : Exercise) : Outcome :=
  let verdict := Answer.matchExercise submission exercise.exerciseType exercise.expectedAnswer
    exercise.acceptedSolutions
  { isCorrect := verdict.isCorrect, alternative := verdict.alternative }

end Outcome

/-! ### Running programs -/

/-- The normal form of what a program has printed.  Nothing stands for no output. -/
def printedForm (output : Json) : Except Exception String :=
  match Exercise.orElse output (.str "") with
  | .str text => .ok (Answer.output text)
  | other =>
      .error (.typeError ("normalize() argument 2 must be str, not " ++ other.typeName))

/-- What is said about a script that fails without a word. -/
def standardVerificationError : Json := .str "Verification failed"

/-- A submission followed by the script that checks it. -/
def scripted (submission : String) (script : Json) : String :=
  submission ++ "\n\n" ++ script.text

/-- A program that prints the value of an expression. -/
def printing (expression : String) : String :=
  "print(" ++ expression ++ ")"

/-- What a script says about a submission: it is right if nothing fails. -/
def Outcome.ofScript (run : Execution) : Outcome :=
  if run.isSuccess then { isCorrect := true }
  else { isCorrect := false, error := Exercise.orElse run.error standardVerificationError }

/-- What a printed value says about a submission: it has to be the expected one. -/
def Outcome.ofPrinted (exercise : Exercise) (run : Execution) : Except Exception Outcome :=
  if run.isSuccess then
    (printedForm run.output).map fun printed =>
      { isCorrect := printed == Answer.output exercise.expectedAnswer }
  else .ok { isCorrect := false, error := run.error }

/-- What the output of a program says about a submission that predicts it.  Several forms of an output
can be right, so accepted solutions count as well. -/
def Outcome.ofPrediction (submission : String) (exercise : Exercise) (run : Execution) :
    Except Exception Outcome := do
  let isPredicted ←
    if run.isSuccess then
      (printedForm run.output).map fun printed => printed == Answer.output submission
    else pure false
  let accepted := Answer.matchWith .output submission "" exercise.acceptedSolutions
  pure
    (if isPredicted then { isCorrect := true }
    else if accepted.isCorrect then { isCorrect := true, alternative := accepted.alternative }
    else { isCorrect := false, error := if run.isSuccess then .null else run.error })

/-! ### Strategies -/

variable {σ : Type}

/-- Go on with a result or fail. -/
def orThrow {α : Type} (result : Except Exception α) : Act σ α :=
  match result with
  | .ok value => pure value
  | .error exception => throw exception

namespace Capabilities

/-- Grade by running a program. -/
def byExecution (capabilities : Capabilities σ) (submission : String) (exercise : Exercise) :
    Act σ Outcome := do
  if exercise.exerciseType = "predict" then
    let run ← capabilities.execute (Exercise.orElse exercise.code (.str ""))
    orThrow (Outcome.ofPrediction submission exercise run)
  else if exercise.verificationScript.isTruthy then
    let run ← capabilities.execute (.str (scripted submission exercise.verificationScript))
    pure (Outcome.ofScript run)
  else
    let run ← capabilities.execute (.str (printing submission))
    orThrow (Outcome.ofPrinted exercise run)

/-- Carry out a strategy. -/
def carryOut (capabilities : Capabilities σ) (strategy : Strategy) (submission : String)
    (exercise : Exercise) : Act σ Outcome := do
  match strategy with
  | .exact => pure (Outcome.exact submission exercise)
  | .token =>
      let found ← capabilities.compareTokens submission exercise.expectedAnswer
        exercise.acceptedSolutions
      pure { isCorrect := found.isMatch, alternative := found.alternative }
  | .ast =>
      let found ← capabilities.compareTrees submission exercise.expectedAnswer
        exercise.acceptedSolutions .standard
      pure
        { isCorrect := found.isMatch, isAvailable := found.isAvailable
          alternative := found.alternative, error := found.error }
  | .execution => capabilities.byExecution submission exercise

/-- Carry out a strategy in a sandbox, if one is given, once the language is ready. -/
def tryStrategy (capabilities : Capabilities σ) (strategy : Strategy) (language : String)
    (submission : String) (exercise : Exercise) (handle : Option Nat) : Act σ Outcome := do
  if let some handle := handle then
    capabilities.attach handle
  if ← capabilities.isReady then
    capabilities.carryOut strategy submission exercise
  else
    pure (.unavailable (language ++ " runtime is not ready"))

end Capabilities

/-- Attempt a strategy with the capabilities of a language, if there are any.  Whatever fails makes the
strategy unavailable. -/
def attempt (capabilities : Option (Capabilities σ)) (strategy : Strategy) (language : String)
    (submission : String) (exercise : Exercise) (handle : Option Nat) :
    StateM σ (Outcome × List Note) := do
  match capabilities with
  | none =>
      pure (.unavailable ("No runtime available for language '" ++ language ++ "'"), [])
  | some capabilities =>
      match ← (capabilities.tryStrategy strategy language submission exercise handle).run with
      | .ok outcome => pure (outcome, [])
      | .error exception =>
          pure (.unavailable exception.summary, [.failed strategy language exception])

/-! ### The router -/

/-- Capabilities by language, and settings. -/
structure Router (σ : Type) where
  registry : Registry (Capabilities σ)
  settings : Settings

/-- The strategy an exercise is graded by, with what is wrong with the exercise.  An exercise that is to
be run but has nothing to run is matched exactly. -/
def planOf (exercise : Exercise) : Strategy × List Note :=
  let asked := strategyOf exercise
  let unknown :=
    if asksForUnknownStrategy exercise then
      [Note.unknownStrategy exercise.slug exercise.gradingStrategy]
    else []
  if asked = .execution && !hasExecutionInputs exercise then
    (.exact, unknown ++ [.misconfigured exercise.slug exercise.exerciseType])
  else (asked, unknown)

/-- Why another strategy stands in for the one that was asked for. -/
def unavailableReason : String := "infra_unavailable"

/-- What is known in the end of a submission, given what its strategy says. -/
def Result.ofOutcome (submission : String) (exercise : Exercise) (strategy : Strategy)
    (outcome : Outcome) : Result :=
  let final :=
    if outcome.isAvailable then outcome
    else
      { Outcome.exact submission exercise with isAvailable := false, error := outcome.error }
  { isCorrect := final.isCorrect
    strategy
    alternative := if final.isCorrect then final.alternative else none
    isAvailable := final.isAvailable
    usedFallback := !outcome.isAvailable
    fallbackReason := if outcome.isAvailable then none else some unavailableReason
    error := final.error
    feedback := feedbackFor submission exercise final.isCorrect }

/-- The entry of a result. -/
def Result.entry (result : Result) (submission : String) (exercise : Exercise) : Entry where
  slug := exercise.slug
  strategy := result.strategy
  isCorrect := result.isCorrect
  usedFallback := result.usedFallback
  fallbackReason := result.fallbackReason
  hasAlternative := result.alternative.isSome
  answer := submission

/-- Why there is no result. -/
inductive Refusal where
  /-- The record is no exercise. -/
  | record (fault : Exercise.Fault)
  /-- The language is no text. -/
  | language (fault : Registry.Fault)

/-- What comes of grading: a result, unless it is refused, and the notes made on the way. -/
structure Report where
  result : Except Refusal Result
  notes : List Note

namespace Router

/-- The language of a submission: the one given with it, or the one of the exercise, or the default. -/
def languageOf (router : Router σ) (exercise : Exercise) (language : Json) : Json :=
  Exercise.orElse language (Exercise.orElse exercise.language (.str router.settings.defaultLanguage))

/-- The report on what a strategy says, after the notes made until then. -/
def conclude (router : Router σ) (submission : String) (exercise : Exercise) (strategy : Strategy)
    (language : String) (outcome : Outcome) (notes : List Note) : Report :=
  let result := Result.ofOutcome submission exercise strategy outcome
  let fallback :=
    if outcome.isAvailable then [] else [Note.unavailable strategy language outcome.error]
  let graded :=
    if router.settings.telemetry then [Note.graded (result.entry submission exercise)] else []
  ⟨.ok result, notes ++ fallback ++ graded⟩

/-- Grade a submission in a sandbox, if one is given. -/
def grade (router : Router σ) (submission : String) (exercise : Exercise) (handle : Option Nat)
    (language : Json) : StateM σ Report := do
  let (strategy, notes) := planOf exercise
  let language := router.languageOf exercise language
  if strategy = .exact then
    pure (router.conclude submission exercise strategy language.text
      (Outcome.exact submission exercise) notes)
  else
    match router.registry.get language with
    | .error fault => pure ⟨.error (.language fault), notes⟩
    | .ok capabilities =>
        let (outcome, more) ←
          attempt capabilities strategy language.text submission exercise handle
        pure (router.conclude submission exercise strategy language.text outcome (notes ++ more))

/-- Grade a submission to the exercise of a record. -/
def gradeRecord (router : Router σ) (submission : String) (record : Json) (handle : Option Nat)
    (language : Json) : StateM σ Report :=
  match Exercise.ofRecord record with
  | .error fault => pure ⟨.error (.record fault), []⟩
  | .ok exercise => router.grade submission exercise handle language

end Router
end Grading
end AnswerKey
