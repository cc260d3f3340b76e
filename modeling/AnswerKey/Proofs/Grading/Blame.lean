import AnswerKey.Proofs.Grading.OwnAnswer

namespace AnswerKey

/-!
Whom a failure of grading is put down to.

A text of a learner that cannot be parsed or has no tokens is not correct, and that is all.  A
result that says more, that the strategy was not available and exact matching stood in, speaks of
the sandbox.  With a sandbox that serves there is one kind of text that is taken for a fault of it:
one whose canonical tree holds an integer too long to be written in decimal.  The helper fails on
it as on a call it was not made for, and the comparison cannot be made
(`Grading.exists_grade_blameless_iff`).
-/

namespace Comparison

/-- A submission without a canonical form matches nothing. -/
theorem isMatch_ofTrees_of_none {options : Snippet.Canonical.Options} {submission : String}
    (formless : Snippet.Canonical.dump? options .auto submission = .ok none)
    (expected : String) (alternatives : List String) :
    (ofTrees options submission expected alternatives).isMatch = false := by
  rw [ofTrees, canonicalForm, formless]

end Comparison

namespace Grading

/-! ### Forms that can be written -/

/-- Whether what a strategy compares an answer by can be written down, if the answer has it. -/
def Strategy.CanWrite (strategy : Strategy) (answer : String) : Prop :=
  strategy = .ast → ∀ tree, Snippet.Canonical.tree? .standard .auto answer = some tree →
    tree.hasLongInteger = false

instance (strategy : Strategy) (answer : String) : Decidable (strategy.CanWrite answer) :=
  decidable_of_iff (strategy = .ast → ∀ tree ∈ Snippet.Canonical.tree? .standard .auto answer,
    tree.hasLongInteger = false) Iff.rfl

/-- Only an integer that is too long keeps a canonical form from being written. -/
theorem canWrite_ast_iff (answer : String) :
    Strategy.ast.CanWrite answer ↔
      ∃ form, Snippet.Canonical.dump? .standard .auto answer = .ok form := by
  rw [Strategy.CanWrite, Snippet.Canonical.dump?]
  cases found : Snippet.Canonical.tree? .standard .auto answer with
  | none => exact iff_of_true (fun _ _ none => by cases none) ⟨none, rfl⟩
  | some tree =>
      have written : (some tree).mapM Snippet.Tree.dump? = some <$> tree.dump? := rfl
      rw [written, Snippet.Tree.dump?]
      cases long : tree.hasLongInteger with
      | false => exact iff_of_true (fun _ other same => Option.some.inj same ▸ long) ⟨_, rfl⟩
      | true =>
          refine iff_of_false (fun short => ?_) (fun written => ?_)
          · exact Bool.false_ne_true ((short rfl tree rfl).symm.trans long)
          · rcases written with ⟨form, written⟩
            cases written

/-- Every other strategy compares by what can always be written. -/
theorem canWrite_of_ne_ast {strategy : Strategy} (different : strategy ≠ .ast) (answer : String) :
    strategy.CanWrite answer :=
  fun same => absurd same different

/-! ### Results that blame nobody -/

/-- A result that does not speak of the sandbox. -/
structure Result.IsBlameless (result : Result) : Prop where
  isAvailable : result.isAvailable = true
  notReplaced : result.usedFallback = false
  noError : result.error = .null

section Outcomes

variable {desk : Desk} {number : Nat} {submission : String} {exercise : Exercise}
  {strategy : Strategy}

/-- A comparison of forms that can all be written is made, and a submission without a form is
wrong. -/
theorem exists_carryOut_written (engaged : desk.Engaged number)
    (compares : strategy = .ast ∨ strategy = .token)
    (written : ∀ code ∈ submission :: exercise.expectedAnswer :: exercise.acceptedSolutions,
      strategy.CanWrite code) :
    ∃ outcome after,
      (Capabilities.ofDesk.carryOut strategy submission exercise).run.run desk =
          (.ok outcome, after) ∧
        outcome.isAvailable = true ∧ outcome.error = .null ∧
        (¬ strategy.CanCompare submission → outcome.isCorrect = false) := by
  rcases compares with rfl | rfl
  · rcases Bench.computes_compareTrees (fun code member =>
      (canWrite_ast_iff code).mp (written code member)) _ engaged.promising with
        ⟨after, compared, -⟩
    rcases exists_carryOut_ast engaged.attached compared with ⟨later, carried⟩
    have made := Comparison.made_ofTrees .standard submission exercise.expectedAnswer
      exercise.acceptedSolutions
    refine ⟨_, later, carried, made.1, made.2, fun formless => ?_⟩
    have none := Classical.not_not.mp (mt (dump?_ne_none_iff .standard submission).mp formless)
    exact Comparison.isMatch_ofTrees_of_none none _ _
  · rcases Bench.computes_compareTokens submission exercise.expectedAnswer
      exercise.acceptedSolutions _ engaged.promising with ⟨after, compared, -⟩
    rcases exists_carryOut_token engaged.attached compared with ⟨later, carried⟩
    refine ⟨_, later, carried, rfl, rfl, fun formless => ?_⟩
    rw [Comparison.ofTokens_of_none fun first rest read => formless ⟨first, rest, read⟩]

/-- Where the form of the submission cannot be written, the comparison is unavailable, whatever
there is to compare with. -/
theorem exists_carryOut_unwritten (exercise : Exercise) (engaged : desk.Engaged number)
    (unwritten : ¬ strategy.CanWrite submission) :
    ∃ outcome after,
      (Capabilities.ofDesk.carryOut strategy submission exercise).run.run desk =
          (.ok outcome, after) ∧ outcome.isAvailable = false := by
  obtain rfl : strategy = .ast :=
    Decidable.not_not.mp fun different => unwritten (canWrite_of_ne_ast different submission)
  rw [canWrite_ast_iff] at unwritten
  -- The form of the submission is asked for first, so nothing is known of the others by then.
  cases made : Snippet.Canonical.dump? .standard .auto submission with
  | ok form => exact absurd ⟨form, made⟩ unwritten
  | error fault =>
      rcases Bench.exists_compareTrees_refused made engaged.promising exercise.expectedAnswer
        exercise.acceptedSolutions with ⟨comparison, after, compared, unavailable⟩
      rcases exists_carryOut_ast engaged.attached compared with ⟨later, carried⟩
      exact ⟨_, later, carried, unavailable⟩

/-- A strategy that was carried out without a fault blames nobody. -/
theorem isBlameless_ofOutcome (submission : String) (exercise : Exercise) (strategy : Strategy)
    {outcome : Outcome} (available : outcome.isAvailable = true) (noError : outcome.error = .null) :
    (Result.ofOutcome submission exercise strategy outcome).IsBlameless := by
  rw [ofOutcome_available _ _ _ available]
  exact ⟨rfl, rfl, noError⟩

end Outcomes

section Grade

variable {router : Router Desk} {desk : Desk} {number : Nat} {exercise : Exercise}
  {handle : Option Nat} {language : Json}

/-- Grading gives what comes of the strategy, once it is carried out at the desk. -/
theorem exists_grade_of_carryOut {submission : String} {outcome : Outcome} {after : Desk}
    (known : router.registry.get (router.languageOf exercise language) =
      .ok (some Capabilities.ofDesk))
    (notExact : (planOf exercise).1 ≠ .exact) (engaged : (desk.engage handle).Engaged number)
    (carried : (Capabilities.ofDesk.carryOut (planOf exercise).1 submission exercise).run.run
      (desk.engage handle) = (.ok outcome, after)) :
    ∃ notes, (router.grade submission exercise handle language).run desk =
      (⟨.ok (Result.ofOutcome submission exercise (planOf exercise).1 outcome), notes⟩, after) := by
  have graded := grade_attempt router submission exercise handle language desk notExact known
  rw [run_attempt engaged.isReady carried] at graded
  exact ⟨_, graded⟩

end Grade

/-! ### Two submissions -/

/-- The exercise to write an assignment. -/
def assignment : Exercise := .ofAnswer "x = 1"

/-- It is graded by canonical forms, in the language of the settings. -/
theorem planOf_assignment : (planOf assignment).1 = .ast := by decide

theorem get_assignment :
    (deskRouter .standard).registry.get ((deskRouter .standard).languageOf assignment .null) =
      .ok (some Capabilities.ofDesk) := rfl

/-- Its answer can be written. -/
theorem canWrite_assignment :
    ∀ code ∈ assignment.expectedAnswer :: assignment.acceptedSolutions,
      (planOf assignment).1.CanWrite code := by
  decide +kernel

/-- A hexadecimal number of so many digits that its decimal digits are too many. -/
def longNumber : List Char :=
  '0' :: 'x' :: List.replicate 3600 'f'

/-- It can be parsed and does not nest, and it cannot be written. -/
theorem exists_tree_longNumber :
    ∃ tree, Snippet.Tree.parse? .auto (.ofList longNumber) = some tree ∧
      tree.depth ≤ Snippet.Canonical.depthLimit ∧
      (Snippet.Canonical.ofTree .standard tree).hasLongInteger = true := by
  have plain : (Text.unifyLineEnds longNumber).contains '\x00' = false := by decide +kernel
  have read : ((Snippet.Tree.ofModule? (Text.unifyLineEnds longNumber)).any fun tree =>
      tree.depth ≤ Snippet.Canonical.depthLimit &&
        (Snippet.Canonical.ofTree .standard tree).hasLongInteger) = true := by
    decide +kernel
  rcases (Option.any_eq_true _ _).mp read with ⟨tree, parsed, fits⟩
  rw [Bool.and_eq_true, decide_eq_true_eq] at fits
  refine ⟨tree, ?_, fits⟩
  rw [Snippet.Tree.parse?, String.toList_ofList]
  simp only [plain, Bool.false_eq_true, if_false, parsed]
  rfl

theorem not_canWrite_longNumber : ¬ Strategy.ast.CanWrite (.ofList longNumber) := by
  rcases exists_tree_longNumber with ⟨tree, parsed, fits, long⟩
  intro short
  have found : Snippet.Canonical.tree? .standard .auto (.ofList longNumber) =
      some (Snippet.Canonical.ofTree .standard tree) := by
    rw [Snippet.Canonical.tree?, parsed]
    exact if_pos fits
  exact Bool.false_ne_true ((short rfl _ found).symm.trans long)

end Grading
end AnswerKey
