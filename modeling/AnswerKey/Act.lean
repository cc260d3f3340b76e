import AnswerKey.Exception

namespace AnswerKey

/-!
Acts.  An act works on a state and may fail; what has been done until then stays done.
-/

abbrev Act (σ α : Type) := ExceptT Exception (StateM σ) α

namespace Act

/-- Act on a part of a state. -/
def zoom {σ τ α : Type} (part : σ → τ) (replace : τ → σ → σ) (act : Act τ α) : Act σ α :=
  ExceptT.mk fun state =>
    let (outcome, after) := act.run (part state)
    (outcome, replace after state)

/-- A step that may fail, on a state. -/
def ofStep {σ α : Type} (step : σ → Except Exception α × σ) : Act σ α :=
  ExceptT.mk step

end Act

end AnswerKey
