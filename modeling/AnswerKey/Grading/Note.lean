import AnswerKey.Exception
import AnswerKey.Fingerprint
import AnswerKey.Grading.Strategy

namespace AnswerKey
namespace Grading

/-!
Notes.  Grading notes down what is wrong with an exercise, which strategies could not be carried out,
and, if it is asked to, how each submission was graded.  An answer appears in a note only as its
fingerprint.
-/

/-- How a submission was graded. -/
structure Entry where
  slug : Json
  strategy : Strategy
  isCorrect : Bool
  usedFallback : Bool
  fallbackReason : Option String
  hasAlternative : Bool
  answer : String

inductive Note where
  /-- An exercise asks for a strategy that does not exist. -/
  | unknownStrategy (slug strategy : Json)
  /-- An exercise is to be run but has nothing to run. -/
  | misconfigured (slug : Json) (exerciseType : String)
  | failed (strategy : Strategy) (language : String) (exception : Exception)
  /-- Exact matching stands in for a strategy. -/
  | unavailable (strategy : Strategy) (language : String) (error : Json)
  | graded (entry : Entry)

namespace Note

inductive Level where
  | info
  | warning
  | error
  deriving DecidableEq, Repr

def Level.name : Level → String
  | info => "INFO"
  | warning => "WARNING"
  | error => "ERROR"

def level : Note → Level
  | unknownStrategy _ _ => .error
  | misconfigured _ _ => .error
  | failed _ _ _ => .warning
  | unavailable _ _ _ => .warning
  | graded _ => .info

/-- The words of a note: what it is about, and then keys with values. -/
def words (about : String) (values : List (String × String)) : String :=
  " ".intercalate (about :: values.map fun (key, value) => key ++ "=" ++ value)

def text : Note → String
  | unknownStrategy slug strategy =>
      words "unknown_grading_strategy" [("slug", slug.text), ("strategy", strategy.text)]
  | misconfigured slug exerciseType =>
      words "execution_strategy_misconfigured"
        [("slug", slug.text), ("exercise_type", exerciseType)]
  | failed strategy language exception =>
      words "strategy_failed"
        [("strategy", strategy.name), ("language", language), ("err", exception.display)]
  | unavailable strategy language error =>
      words "strategy_unavailable"
        [("strategy", strategy.name), ("language", language),
          ("fallback", Strategy.exact.name), ("err", error.text)]
  | graded entry =>
      words "grading_telemetry"
        [("slug", entry.slug.text), ("strategy", entry.strategy.name),
          ("correct", (Json.bool entry.isCorrect).text),
          ("fallback", (Json.bool entry.usedFallback).text),
          ("reason", (Json.ofText? entry.fallbackReason).text),
          ("alt", (Json.bool entry.hasAlternative).text),
          ("answer_hash", Fingerprint.ofAnswer entry.answer)]

end Note
end Grading
end AnswerKey
