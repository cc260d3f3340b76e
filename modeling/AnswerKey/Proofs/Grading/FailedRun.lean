import AnswerKey.Proofs.Comparison.Acts
import AnswerKey.Proofs.Grading.Fallback

namespace AnswerKey
namespace Grading

/-!
Runs that fail.

Grading by execution sends one program (`programOf`) and judges a submission by what comes of the
run (`judge`).  A program that fails is the fault of the submission: the sandbox is not blamed, exact
matching does not stand in, and the text of the failure is handed on.  A prediction is compared with
the accepted solutions as well, and whether the run has failed is not asked there.  So a prediction
that is one of them is right although nothing was printed that it could have predicted
(`exists_grade_failed_iff`).
-/

open Bench (run_bind_ok)

/-! ### One program and one judgement -/

/-- The program that is run to grade a submission. -/
def programOf (submission : String) (exercise : Exercise) : Json :=
  if exercise.exerciseType = "predict" then Exercise.orElse exercise.code (.str "")
  else if exercise.verificationScript.isTruthy then
    .str (scripted submission exercise.verificationScript)
  else .str (printing submission)

/-- What a run of that program says about the submission. -/
def judge (submission : String) (exercise : Exercise) (run : Execution) :
    Except Exception Outcome :=
  if exercise.exerciseType = "predict" then Outcome.ofPrediction submission exercise run
  else if exercise.verificationScript.isTruthy then .ok (Outcome.ofScript run)
  else Outcome.ofPrinted exercise run

/-- Whether a submission is checked by a script. -/
def IsScripted (exercise : Exercise) : Prop :=
  exercise.exerciseType ≠ "predict" ∧ exercise.verificationScript.isTruthy = true

/-- Whether a submission predicts one of the accepted solutions, whatever the program prints. -/
def PredictsAccepted (submission : String) (exercise : Exercise) : Prop :=
  exercise.exerciseType = "predict" ∧ Answer.output submission ≠ "" ∧
    ∃ solution ∈ exercise.acceptedSolutions, Answer.output solution = Answer.output submission

instance (exercise : Exercise) : Decidable (IsScripted exercise) :=
  inferInstanceAs (Decidable (_ ∧ _))

instance (submission : String) (exercise : Exercise) :
    Decidable (PredictsAccepted submission exercise) :=
  inferInstanceAs (Decidable (_ ∧ _ ∧ ∃ solution ∈ exercise.acceptedSolutions, _))

theorem output_empty : Answer.output "" = "" := by
  decide +kernel

/-- A text matches accepted solutions when it is not blank and has the normal form of one. -/
theorem matchWith_empty_iff (submission : String) (solutions : List String) :
    ((Answer.matchWith .output submission "" solutions).isCorrect = true ↔
        Answer.output submission ≠ "" ∧
          ∃ solution ∈ solutions, Answer.output solution = Answer.output submission) ∧
      ((Answer.matchWith .output submission "" solutions).isCorrect = true →
        (Answer.matchWith .output submission "" solutions).alternative ≠ none) := by
  simp only [Answer.matchWith, Answer.Form.normalize, output_empty]
  by_cases blank : Answer.output submission = ""
  · simp [blank]
  · rw [if_neg blank, if_neg blank]
    cases found : Answer.firstMatch? .output (Answer.output submission) solutions with
    | some solution =>
        have member := List.mem_of_find?_eq_some found
        have fits := List.find?_some found
        rw [Bool.and_eq_true, beq_iff_eq] at fits
        exact ⟨iff_of_true rfl ⟨blank, solution, member, fits.2⟩,
          fun _ => Option.some_ne_none solution⟩
    | none =>
        refine ⟨iff_of_false Bool.false_ne_true ?_, fun right => absurd right Bool.false_ne_true⟩
        rintro ⟨-, solution, member, same⟩
        have differs := List.find?_eq_none.mp found solution member
        rw [Bool.and_eq_true, not_and] at differs
        -- An empty solution is passed over, but its normal form is empty anyway.
        have filled : solution.isEmpty = false := by
          rw [Bool.eq_false_iff]
          intro empty
          rw [String.isEmpty_iff.mp empty, output_empty] at same
          exact blank same.symm
        exact differs (by rw [filled]; rfl) (beq_iff_eq.mpr same)

section Runs

variable {σ : Type} (capabilities : Capabilities σ) (submission : String) (exercise : Exercise)

theorem byExecution_eq : capabilities.byExecution submission exercise = (do
    let run ← capabilities.execute (programOf submission exercise)
    orThrow (judge submission exercise run)) := by
  rw [Capabilities.byExecution]
  by_cases predicts : exercise.exerciseType = "predict"
  · simp only [programOf, judge, predicts, if_true]
  · by_cases scripted : exercise.verificationScript.isTruthy = true
    · simp only [programOf, judge, predicts, scripted, if_true, if_false]
      rfl
    · simp only [programOf, judge, predicts, scripted, if_false]
      rfl

/-- Get a language ready, in a sandbox if one is given. -/
def Capabilities.prepare (handle : Option Nat) : Act σ Bool := do
  if let some handle := handle then
    capabilities.attach handle
  capabilities.isReady

theorem tryStrategy_eq (strategy : Strategy) (language : String) (handle : Option Nat) :
    capabilities.tryStrategy strategy language submission exercise handle = (do
      if ← capabilities.prepare handle then
        capabilities.carryOut strategy submission exercise
      else
        pure (.unavailable (language ++ " runtime is not ready"))) := by
  cases handle with
  | none => rfl
  | some handle => simp [Capabilities.tryStrategy, Capabilities.prepare]

/-- The language gets ready, and the program that grades a submission is run. -/
def Capabilities.RunsTo (handle : Option Nat) (state : σ) (run : Execution) (after : σ) : Prop :=
  ∃ ready, (capabilities.prepare handle).run.run state = (.ok true, ready) ∧
    (capabilities.execute (programOf submission exercise)).run.run ready = (.ok run, after)

variable {capabilities} {submission} {exercise} {router : Router σ} {handle : Option Nat}
  {language : Json} {state after : σ} {run : Execution} {outcome : Outcome}
  (known : router.registry.get (router.languageOf exercise language) = .ok (some capabilities))
  (planned : (planOf exercise).1 = .execution)
  (ran : capabilities.RunsTo submission exercise handle state run after)

include known planned ran

/-- What comes of grading by execution is what the run says. -/
theorem exists_grade_of_judge (judged : judge submission exercise run = .ok outcome) :
    ∃ notes, (router.grade submission exercise handle language).run state =
      (⟨.ok (Result.ofOutcome submission exercise .execution outcome), notes⟩, after) := by
  obtain ⟨ready, prepared, executed⟩ := ran
  have carried : (capabilities.carryOut .execution submission exercise).run.run ready =
      (.ok outcome, after) := by
    rw [Capabilities.carryOut, byExecution_eq, run_bind_ok _ executed, judged]
    rfl
  have tried : (capabilities.tryStrategy .execution
      (router.languageOf exercise language).text submission exercise handle).run.run state =
        (.ok outcome, after) := by
    rw [tryStrategy_eq, run_bind_ok _ prepared, if_pos rfl, carried]
  have attempted : (attempt (some capabilities) .execution
      (router.languageOf exercise language).text submission exercise handle).run state =
        ((outcome, []), after) := by
    rw [attempt, StateT.run_bind, tried]
    rfl
  have notExact : (planOf exercise).1 ≠ .exact := by
    rw [planned]
    nofun
  have graded := grade_attempt router submission exercise handle language state notExact known
  rw [planned, attempted] at graded
  exact ⟨_, graded⟩

end Runs

/-! ### Failures -/

section Failures

variable {submission : String} {exercise : Exercise} {run : Execution}

theorem ofPrediction_failed (failed : run.isSuccess = false) :
    Outcome.ofPrediction submission exercise run = .ok
      (if (Answer.matchWith .output submission "" exercise.acceptedSolutions).isCorrect = true then
        { isCorrect := true
          alternative :=
            (Answer.matchWith .output submission "" exercise.acceptedSolutions).alternative }
      else { isCorrect := false, error := run.error }) := by
  simp only [Outcome.ofPrediction, failed, Bool.false_eq_true, if_false, pure_bind]
  rfl

/-- A failed run counts against a submission, unless it predicts an accepted solution. -/
theorem judge_failed (failed : run.isSuccess = false) :
    ∃ outcome, judge submission exercise run = .ok outcome ∧ outcome.isAvailable = true ∧
      (PredictsAccepted submission exercise →
        outcome.isCorrect = true ∧ outcome.alternative ≠ none ∧ outcome.error = .null) ∧
      (¬ PredictsAccepted submission exercise →
        outcome.isCorrect = false ∧ outcome.error =
          if IsScripted exercise then Exercise.orElse run.error standardVerificationError
          else run.error) := by
  by_cases predicts : exercise.exerciseType = "predict"
  · have accepted := matchWith_empty_iff submission exercise.acceptedSolutions
    have unscripted : ¬ IsScripted exercise := fun scripted => scripted.1 predicts
    have judged : judge submission exercise run = _ :=
      (if_pos predicts).trans (ofPrediction_failed failed)
    refine ⟨_, judged, ?_⟩
    clear judged
    generalize Answer.matchWith .output submission "" exercise.acceptedSolutions = verdict
      at accepted ⊢
    by_cases holds : PredictsAccepted submission exercise
    · have right := accepted.1.mpr holds.2
      rw [if_pos right]
      exact ⟨rfl, fun _ => ⟨rfl, accepted.2 right, rfl⟩, fun fails => absurd holds fails⟩
    · have wrong := mt accepted.1.mp fun both => holds ⟨predicts, both⟩
      rw [if_neg wrong, if_neg unscripted]
      exact ⟨rfl, fun other => absurd other holds, fun _ => ⟨rfl, rfl⟩⟩
  · have never : ¬ PredictsAccepted submission exercise := fun accepted => predicts accepted.1
    rw [judge, if_neg predicts]
    by_cases scripted : exercise.verificationScript.isTruthy = true
    · rw [if_pos scripted, Outcome.ofScript, if_neg (by rw [failed]; nofun)]
      refine ⟨_, rfl, rfl, fun other => absurd other never, fun _ => ⟨rfl, ?_⟩⟩
      rw [if_pos ⟨predicts, scripted⟩]
    · rw [if_neg scripted, Outcome.ofPrinted, if_neg (by rw [failed]; nofun)]
      refine ⟨_, rfl, rfl, fun other => absurd other never, fun _ => ⟨rfl, ?_⟩⟩
      rw [if_neg fun both => scripted both.2]

/-- The words of a failed script are replaced only if there are none. -/
theorem orElse_standard_iff (text : String) :
    Exercise.orElse (.str text) standardVerificationError = .str text ↔ text ≠ "" := by
  rw [Exercise.orElse]
  by_cases empty : text = ""
  · simp [Json.isTruthy, empty, standardVerificationError]
  · simp [Json.isTruthy, empty]

variable {σ : Type} {router : Router σ} {capabilities : Capabilities σ} {handle : Option Nat}
  {language : Json} {state after : σ} {text : String}

/-- A failed run is graded as one: nothing stands in for the strategy, and the submission is wrong
unless it predicts an accepted solution.  It is told why the run failed, unless it is right or the
script that checks it fails without a word. -/
theorem exists_grade_failed_iff
    (known : router.registry.get (router.languageOf exercise language) = .ok (some capabilities))
    (planned : (planOf exercise).1 = .execution)
    (ran : capabilities.RunsTo submission exercise handle state run after)
    (failed : run.isSuccess = false) (said : run.error = .str text) :
    ∃ result notes,
      (router.grade submission exercise handle language).run state = (⟨.ok result, notes⟩, after) ∧
        result.isAvailable = true ∧ result.usedFallback = false ∧
        (result.isCorrect = false ↔ ¬ PredictsAccepted submission exercise) ∧
        (result.alternative = none ↔ ¬ PredictsAccepted submission exercise) ∧
        (result.error = .str text ↔
          ¬ PredictsAccepted submission exercise ∧ (IsScripted exercise → text ≠ "")) := by
  obtain ⟨outcome, judged, available, right, wrong⟩ := @judge_failed submission exercise run failed
  obtain ⟨notes, graded⟩ := exists_grade_of_judge known planned ran judged
  refine ⟨_, notes, graded, ?_⟩
  rw [ofOutcome_available _ _ _ available]
  refine ⟨rfl, rfl, ?_⟩
  by_cases accepted : PredictsAccepted submission exercise
  · obtain ⟨isCorrect, named, noError⟩ := right accepted
    simp [isCorrect, named, noError, accepted]
  · obtain ⟨isWrong, error⟩ := wrong accepted
    simp only [isWrong, error, said, accepted]
    by_cases scripted : IsScripted exercise
    · simp [scripted, orElse_standard_iff]
    · simp [scripted]

end Failures

/-! ### A program that divides by zero -/

/-- Capabilities of a language in which every program fails. -/
def failing (error : String) : Capabilities Unit where
  attach _ := pure ()
  isReady := pure true
  execute _ := pure ⟨false, .str "", .str error⟩
  compareTokens _ _ _ := pure { isMatch := false }
  compareTrees _ _ _ _ := pure { isMatch := false }

/-- The exercise to predict what such a program prints. -/
def quotient : Exercise :=
  { Exercise.ofAnswer "0" with
    exerciseType := "predict", code := .str "print(0 // 0)", acceptedSolutions := ["1"] }

/-- A router that knows this language alone. -/
def failingRouter : Router Unit :=
  ⟨Registry.empty.register "python" (failing "division by zero"), .standard⟩

theorem get_failingRouter :
    failingRouter.registry.get (failingRouter.languageOf quotient .null) =
      .ok (some (failing "division by zero")) := rfl

theorem planOf_quotient : (planOf quotient).1 = .execution := by decide

theorem runsTo_failing (submission : String) :
    (failing "division by zero").RunsTo submission quotient none ()
      ⟨false, .str "", .str "division by zero"⟩ () :=
  ⟨(), rfl, rfl⟩

/-- Whoever predicts the expected output is told that the program fails. -/
theorem grade_failing_expected :
    failingRouter.registry.get (failingRouter.languageOf quotient .null) =
        .ok (some (failing "division by zero")) ∧
      (planOf quotient).1 = .execution ∧
      (failing "division by zero").RunsTo "0" quotient none ()
        ⟨false, .str "", .str "division by zero"⟩ () ∧
      ∃ result notes, (failingRouter.grade "0" quotient none .null).run () =
          (⟨.ok result, notes⟩, ()) ∧
        result.isCorrect = false ∧ result.alternative = none ∧
          result.error = .str "division by zero" := by
  refine ⟨get_failingRouter, planOf_quotient, runsTo_failing "0", ?_⟩
  obtain ⟨result, notes, graded, -, -, isCorrect, named, error⟩ :=
    exists_grade_failed_iff get_failingRouter planOf_quotient (runsTo_failing "0") rfl rfl
  have other : ¬ PredictsAccepted "0" quotient := by decide +kernel
  exact ⟨result, notes, graded, isCorrect.mpr other, named.mpr other,
    error.mpr ⟨other, fun scripted => absurd rfl scripted.1⟩⟩

/-- Whoever predicts an accepted solution is right, although the program fails. -/
theorem grade_failing_accepted :
    (failing "division by zero").RunsTo "1" quotient none ()
        ⟨false, .str "", .str "division by zero"⟩ () ∧
      ∃ result notes, (failingRouter.grade "1" quotient none .null).run () =
          (⟨.ok result, notes⟩, ()) ∧
        result.isCorrect = true ∧ result.error = .null := by
  refine ⟨runsTo_failing "1", ?_⟩
  obtain ⟨outcome, judged, available, right, -⟩ :=
    @judge_failed "1" quotient ⟨false, .str "", .str "division by zero"⟩ rfl
  obtain ⟨notes, graded⟩ :=
    exists_grade_of_judge get_failingRouter planOf_quotient (runsTo_failing "1") judged
  obtain ⟨isCorrect, -, noError⟩ := right (by decide +kernel)
  rw [ofOutcome_available _ _ _ available] at graded
  exact ⟨_, notes, graded, isCorrect, noError⟩

end Grading
end AnswerKey
