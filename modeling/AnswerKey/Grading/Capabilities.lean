import AnswerKey.Engine

namespace AnswerKey
namespace Grading

/-!
What grading needs of one language.  The capabilities work on a state of any kind, and each of them
may fail with any exception.
-/

structure Capabilities (σ : Type) where
  /-- Use this sandbox from now on. -/
  attach : Nat → Act σ Unit
  isReady : Act σ Bool
  /-- Run a program. -/
  execute : Json → Act σ Execution
  /-- Compare the tokens of a submission with those of an expected program and of alternatives. -/
  compareTokens : String → String → List String → Act σ Comparison
  /-- Compare canonical forms in the same way. -/
  compareTrees : String → String → List String → Snippet.Canonical.Options → Act σ Comparison

namespace Capabilities

/-- The capabilities of the engine at a desk. -/
def ofDesk : Capabilities Desk where
  attach handle := Desk.attach (some handle)
  isReady := Desk.isReady <$> get
  execute code := Desk.execute code .null
  compareTokens := Desk.compareTokens
  compareTrees := Desk.compareTrees

end Capabilities
end Grading
end AnswerKey
