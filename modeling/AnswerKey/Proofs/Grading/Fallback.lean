import AnswerKey.Grading.Router

namespace AnswerKey
namespace Grading

/-!
What a result promises, whatever the capabilities of a language do.

A strategy that cannot be carried out is replaced by exact matching.  Nothing that was reported
about the submission before may then show in the result, and the result has to say that it was
replaced.  The promises are those of `Result.Contract`.  They follow from two facts: every result
is made of the outcome of a strategy (`exists_grade_eq_conclude`), and whatever that outcome is,
the result that is made of it keeps them (`contract_ofOutcome`).
-/

/-! ### Exact matching -/

/-- An alternative is only named when the answer is right. -/
theorem isCorrect_of_alternative (form : Answer.Form) (answer expected : String)
    (alternatives : List String)
    (named : (Answer.matchWith form answer expected alternatives).alternative.isSome = true) :
    (Answer.matchWith form answer expected alternatives).isCorrect = true := by
  revert named
  rw [Answer.matchWith]
  by_cases isEmpty : form.normalize answer = ""
  · rw [if_pos isEmpty]
    exact id
  · rw [if_neg isEmpty]
    by_cases same : form.normalize answer = form.normalize expected
    · rw [if_pos same]
      exact fun _ => rfl
    · rw [if_neg same]
      cases Answer.firstMatch? form (form.normalize answer) alternatives with
      | none => exact id
      | some alternative => exact fun _ => rfl

theorem alternative_exact (submission : String) (exercise : Exercise) :
    (if (Outcome.exact submission exercise).isCorrect then
        (Outcome.exact submission exercise).alternative else none) =
      (Outcome.exact submission exercise).alternative := by
  cases named : (Outcome.exact submission exercise).alternative with
  | none => exact ite_self none
  | some alternative =>
      have isSome : (Outcome.exact submission exercise).alternative.isSome = true := by
        rw [named]
        rfl
      exact if_pos (isCorrect_of_alternative _ _ _ _ isSome)

/-! ### Feedback -/

theorem orElse_ne_null (value : Json) {other : Json} (different : other ≠ .null) :
    Exercise.orElse value other ≠ .null := by
  rw [Exercise.orElse]
  by_cases counts : value.isTruthy = true
  · rw [if_pos counts]
    rintro rfl
    cases counts
  · rwa [if_neg counts]

/-- Something is said just about a right submission that lacks the construct in question. -/
theorem isSome_feedbackFor (submission : String) (exercise : Exercise) (isCorrect : Bool) :
    (feedbackFor submission exercise isCorrect).isSome = true ↔
      isCorrect = true ∧ ∃ target, exercise.targetConstruct = some target ∧
        Construct.isDetected target.name submission = false := by
  rw [feedbackFor]
  cases exercise.targetConstruct with
  | none => simp
  | some target =>
      cases isCorrect <;> cases detected : Construct.isDetected target.name submission <;>
        simp [detected]

/-- What is said is never null. -/
theorem feedbackFor_ne_null (submission : String) (exercise : Exercise) (isCorrect : Bool) :
    feedbackFor submission exercise isCorrect ≠ some .null := by
  rw [feedbackFor]
  cases exercise.targetConstruct with
  | none => exact nofun
  | some target =>
      have words := orElse_ne_null target.feedback
        (show Json.str standardFeedback ≠ .null from nofun)
      by_cases silent : (!isCorrect || Construct.isDetected target.name submission) = true
      · simp only [silent, if_true]
        exact nofun
      · simp only [silent]
        exact fun same => words (Option.some.inj same)

/-! ### The promises of a result -/

/-- What a result promises about a submission to an exercise. -/
structure Result.Contract (submission : String) (exercise : Exercise) (result : Result) : Prop where
  /-- The strategy was replaced just when it was unavailable. -/
  usedFallback_iff_unavailable : result.usedFallback = true ↔ result.isAvailable = false
  /-- A reason is given just then, and there is only one. -/
  usedFallback_iff_reason :
    result.usedFallback = true ↔ result.fallbackReason = some unavailableReason
  reason_isSome : result.fallbackReason.isSome = true → result.usedFallback = true
  /-- Exact matching is not replaced. -/
  strategy_ne_exact : result.usedFallback = true → result.strategy ≠ .exact
  /-- Exact matching alone decides once it stands in. -/
  isCorrect_eq : result.usedFallback = true → result.isCorrect =
    (Answer.matchExercise submission exercise.exerciseType exercise.expectedAnswer
      exercise.acceptedSolutions).isCorrect
  alternative_eq : result.usedFallback = true → result.alternative =
    (Answer.matchExercise submission exercise.exerciseType exercise.expectedAnswer
      exercise.acceptedSolutions).alternative
  error_eq_null : result.strategy = .exact → result.error = .null
  isCorrect_of_alternative : result.alternative.isSome = true → result.isCorrect = true
  feedback_isSome : result.feedback.isSome = true ↔
    result.isCorrect = true ∧ ∃ target, exercise.targetConstruct = some target ∧
      Construct.isDetected target.name submission = false
  feedback_ne_null : result.feedback ≠ some .null

section Outcomes

variable (submission : String) (exercise : Exercise) (strategy : Strategy) {outcome : Outcome}

/-- A strategy that could be carried out decides. -/
theorem ofOutcome_available (available : outcome.isAvailable = true) :
    Result.ofOutcome submission exercise strategy outcome =
      { isCorrect := outcome.isCorrect
        strategy
        alternative := if outcome.isCorrect then outcome.alternative else none
        isAvailable := true
        usedFallback := false
        fallbackReason := none
        error := outcome.error
        feedback := feedbackFor submission exercise outcome.isCorrect } := by
  simp only [Result.ofOutcome, available, if_true, Bool.not_true]

/-- Of a strategy that could not be carried out nothing is left but the error. -/
theorem ofOutcome_unavailable (unavailable : outcome.isAvailable = false) :
    Result.ofOutcome submission exercise strategy outcome =
      { isCorrect := (Outcome.exact submission exercise).isCorrect
        strategy
        alternative := (Outcome.exact submission exercise).alternative
        isAvailable := false
        usedFallback := true
        fallbackReason := some unavailableReason
        error := outcome.error
        feedback := feedbackFor submission exercise (Outcome.exact submission exercise).isCorrect }
    := by
  simp only [Result.ofOutcome, unavailable, Bool.false_eq_true, if_false, Bool.not_false,
    alternative_exact]

variable {strategy}

theorem contract_available (available : outcome.isAvailable = true)
    (isExact : strategy = .exact → outcome = .exact submission exercise) :
    (Result.ofOutcome submission exercise strategy outcome).Contract submission exercise := by
  rw [ofOutcome_available submission exercise strategy available]
  exact
    { usedFallback_iff_unavailable := ⟨nofun, nofun⟩
      usedFallback_iff_reason := ⟨nofun, nofun⟩
      reason_isSome := nofun
      strategy_ne_exact := nofun
      isCorrect_eq := nofun
      alternative_eq := nofun
      error_eq_null := fun same => by rw [isExact same]; rfl
      isCorrect_of_alternative := by
        intro named
        by_cases isCorrect : outcome.isCorrect = true
        · exact isCorrect
        · rw [if_neg isCorrect] at named
          cases named
      feedback_isSome := isSome_feedbackFor submission exercise outcome.isCorrect
      feedback_ne_null := feedbackFor_ne_null submission exercise outcome.isCorrect }

theorem contract_unavailable (unavailable : outcome.isAvailable = false)
    (isExact : strategy = .exact → outcome = .exact submission exercise) :
    (Result.ofOutcome submission exercise strategy outcome).Contract submission exercise := by
  have different : strategy ≠ .exact := by
    intro same
    rw [isExact same] at unavailable
    cases unavailable
  rw [ofOutcome_unavailable submission exercise strategy unavailable]
  exact
    { usedFallback_iff_unavailable := ⟨fun _ => rfl, fun _ => rfl⟩
      usedFallback_iff_reason := ⟨fun _ => rfl, fun _ => rfl⟩
      reason_isSome := fun _ => rfl
      strategy_ne_exact := fun _ => different
      isCorrect_eq := fun _ => rfl
      alternative_eq := fun _ => rfl
      error_eq_null := fun same => absurd same different
      isCorrect_of_alternative := isCorrect_of_alternative _ _ _ _
      feedback_isSome := isSome_feedbackFor _ _ _
      feedback_ne_null := feedbackFor_ne_null _ _ _ }

/-- A result keeps its promises whatever comes of its strategy; what comes of exact matching has to
be its own outcome. -/
theorem contract_ofOutcome (isExact : strategy = .exact → outcome = .exact submission exercise) :
    (Result.ofOutcome submission exercise strategy outcome).Contract submission exercise := by
  cases available : outcome.isAvailable with
  | true => exact contract_available submission exercise available isExact
  | false => exact contract_unavailable submission exercise available isExact

end Outcomes

/-! ### Plans -/

/-- Exact matching is planned where it is asked for, and where there is nothing to run. -/
theorem plan_eq_exact_iff (exercise : Exercise) :
    (planOf exercise).1 = .exact ↔
      strategyOf exercise = .exact ∨
        strategyOf exercise = .execution ∧ hasExecutionInputs exercise = false := by
  cases asked : strategyOf exercise <;> cases inputs : hasExecutionInputs exercise <;>
    simp [planOf, asked, inputs]

/-! ### Grading -/

/-- A value that can be given for a language: a text, or null. -/
inductive IsLanguage : Json → Prop where
  | absent : IsLanguage .null
  | named (name : String) : IsLanguage (.str name)

theorem isLanguage_orElse {value other : Json} (first : IsLanguage value)
    (second : IsLanguage other) : IsLanguage (Exercise.orElse value other) := by
  rw [Exercise.orElse]
  by_cases counts : value.isTruthy = true
  · rwa [if_pos counts]
  · rwa [if_neg counts]

/-- A registry can be asked for whatever is given for a language. -/
theorem exists_get_eq_ok {α : Type} (registry : Registry α) {language : Json}
    (given : IsLanguage language) : ∃ found, registry.get language = .ok found := by
  cases given with
  | absent => exact ⟨none, rfl⟩
  | named name => exact ⟨registry.find? name, rfl⟩

section Grade

variable {σ : Type} (router : Router σ) (submission : String) (exercise : Exercise)
  (handle : Option Nat) (language : Json) (state : σ)

/-- Exact matching does not look at the registry and leaves the state alone. -/
theorem grade_exact (isExact : (planOf exercise).1 = .exact) :
    (router.grade submission exercise handle language).run state =
      (router.conclude submission exercise .exact (router.languageOf exercise language).text
        (Outcome.exact submission exercise) (planOf exercise).2, state) := by
  rw [Router.grade]
  simp only [isExact, if_true]
  rfl

/-- Any other strategy is attempted with what is registered for the language. -/
theorem grade_attempt {found : Option (Capabilities σ)} (notExact : (planOf exercise).1 ≠ .exact)
    (known : router.registry.get (router.languageOf exercise language) = .ok found) :
    (router.grade submission exercise handle language).run state =
      let attempted := (attempt found (planOf exercise).1
        (router.languageOf exercise language).text submission exercise handle).run state
      (router.conclude submission exercise (planOf exercise).1
        (router.languageOf exercise language).text attempted.1.1
        ((planOf exercise).2 ++ attempted.1.2), attempted.2) := by
  rw [Router.grade]
  simp only [notExact, if_false, known]
  rfl

variable {language}

/-- Every submission gets a result, which is made of the outcome of the planned strategy. -/
theorem exists_grade_eq_conclude (given : IsLanguage language)
    (own : IsLanguage exercise.language) :
    ∃ outcome notes after,
      (router.grade submission exercise handle language).run state =
          (router.conclude submission exercise (planOf exercise).1
            (router.languageOf exercise language).text outcome notes, after) ∧
        ((planOf exercise).1 = .exact → outcome = .exact submission exercise ∧ after = state) := by
  by_cases isExact : (planOf exercise).1 = .exact
  · refine ⟨.exact submission exercise, (planOf exercise).2, state, ?_, fun _ => ⟨rfl, rfl⟩⟩
    rw [grade_exact router submission exercise handle language state isExact, isExact]
  · have asked : IsLanguage (router.languageOf exercise language) :=
      isLanguage_orElse given (isLanguage_orElse own (.named _))
    rcases exists_get_eq_ok router.registry asked with ⟨found, known⟩
    exact ⟨_, _, _, grade_attempt router submission exercise handle language state isExact known,
      fun same => absurd same isExact⟩

end Grade

end Grading
end AnswerKey
