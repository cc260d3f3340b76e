import AnswerKey.Construct.Basic
import AnswerKey.Exercise

namespace AnswerKey
namespace Grading

/-!
How an exercise is graded, and what is said to a learner whose right answer does without the
construct the exercise is about.
-/

inductive Strategy where
  /-- Compare normal forms of the texts. -/
  | exact
  /-- Compare tokens. -/
  | token
  /-- Compare canonical trees. -/
  | ast
  /-- Run a program. -/
  | execution
  deriving DecidableEq, Repr

namespace Strategy

def name : Strategy → String
  | exact => "exact"
  | token => "token"
  | ast => "ast"
  | execution => "execution"

def all : List Strategy := [exact, token, ast, execution]

/-- The strategy with a given name. -/
def ofName? (name : String) : Option Strategy :=
  all.find? (·.name == name)

/-- The strategy that a value names. -/
def ofJson? : Json → Option Strategy
  | .str name => ofName? name
  | _ => none

/-- The strategy of an exercise that does not ask for one. -/
def byDefault (exerciseType : String) (verifyByExecution : Bool) : Strategy :=
  if exerciseType = "predict" || verifyByExecution then execution else ast

end Strategy

/-- The strategy an exercise asks for; an unknown one counts as none. -/
def strategyOf (exercise : Exercise) : Strategy :=
  (Strategy.ofJson? exercise.gradingStrategy).getD
    (.byDefault exercise.exerciseType exercise.verifyByExecution)

/-- Whether an exercise asks for a strategy that does not exist. -/
def asksForUnknownStrategy (exercise : Exercise) : Bool :=
  (Strategy.ofJson? exercise.gradingStrategy).isNone && exercise.gradingStrategy.isTruthy

/-- Whether an exercise has what a run needs: a program to predict, a script, or an answer that can
be printed. -/
def hasExecutionInputs (exercise : Exercise) : Bool :=
  if exercise.exerciseType = "predict" then exercise.code.isTruthy
  else exercise.verificationScript.isTruthy || exercise.verifyByExecution

/-- What is said when the exercise has no words of its own. -/
def standardFeedback : String :=
  "Great job! Consider trying the suggested approach next time."

/-- What is said about a submission: nothing unless it is right and lacks the construct the exercise
is about. -/
def feedbackFor (submission : String) (exercise : Exercise) (isCorrect : Bool) : Option Json :=
  match exercise.targetConstruct with
  | none => none
  | some target =>
      if !isCorrect || Construct.isDetected target.name submission then none
      else some (Exercise.orElse target.feedback (.str standardFeedback))

end Grading
end AnswerKey
