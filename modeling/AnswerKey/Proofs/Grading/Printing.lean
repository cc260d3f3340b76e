import AnswerKey.Proofs.Grading.FailedRun
import AnswerKey.Proofs.Grammar.Pasting
import AnswerKey.Proofs.Text.Lines

namespace AnswerKey
namespace Grading

/-!
Printing a submission.

A submission that is graded by execution without a script is put between the brackets of a call that
prints it.  If it is a single expression, the program prints its value.  If it lists expressions, it is
a tuple by itself, but the program prints its members one by one; and if it ends in a comment, or
nests brackets as deep as they may, there is no program (`byExecution_printing_iff`).
-/

open Snippet Snippet.Token

/-- A text as it is parsed. -/
def lineFed (source : String) : List Char :=
  Text.unifyLineEnds source.toList

/-- A submission that is one expression, without a comma behind it. -/
def IsSingle (submission : String) : Prop :=
  ∃ value, Tree.listed? (lineFed submission) = some ([value], false)

theorem lineFed_printing (submission : String) :
    lineFed (printing submission) = "print(".toList ++ (lineFed submission ++ [')']) := by
  have whole : (printing submission).toList = "print(".toList ++ (submission.toList ++ [')']) := by
    simp [printing]
  rw [lineFed, whole, Text.unifyLineEnds_append (by decide),
    Text.unifyLineEnds_concat (by decide) (by decide)]
  rfl

/-- Wherever a submission is an expression, its program is read as the text in brackets is. -/
theorem of_parse?_expression {submission : String} {tree : Tree}
    (parsed : Tree.parse? .expression submission = some tree) :
    Tree.ofExpression? (lineFed submission) = some tree ∧
      Tree.parse? .module (printing submission) =
        Tree.ofModule? ("print(".toList ++ (lineFed submission ++ [')'])) := by
  change (if (lineFed submission).contains '\x00' then none
    else Tree.ofExpression? (lineFed submission)) = some tree at parsed
  split at parsed
  · cases parsed
  · next visible =>
      refine ⟨parsed, ?_⟩
      change (if (lineFed (printing submission)).contains '\x00' then none
        else Tree.ofModule? (lineFed (printing submission))) = _
      rw [lineFed_printing, if_neg]
      simpa using visible

/-- Programs that print different values differ. -/
theorem printed_inj {items others : List Tree} :
    Tree.printed items = Tree.printed others ↔ items = others := by
  simp [Tree.printed]

/-- A tuple is none of its own members. -/
theorem tupleOf_eq_iff {items : List Tree} {trailing : Bool} :
    items = [Rule.tupleOf .load (items, trailing)] ↔
      ∃ value, items = [value] ∧ trailing = false := by
  constructor
  · intro same
    cases trailing with
    | false =>
        cases items with
        | nil => cases same
        | cons value others =>
            cases others with
            | nil => exact ⟨value, rfl, rfl⟩
            | cons second others => simp at same
    | true =>
        have larger := congrArg sizeOf same
        simp [Rule.tupleOf] at larger
        omega
  · rintro ⟨value, rfl, rfl⟩
    rfl

/-- The program that a submission is graded by prints its value exactly if the submission is a single
expression that can stand between brackets.  Otherwise it prints the members of a tuple, or there is
no program. -/
theorem byExecution_printing_iff {σ : Type} (capabilities : Capabilities σ) {submission : String}
    {exercise : Exercise} {tree : Tree} (written : exercise.exerciseType ≠ "predict")
    (unscripted : exercise.verificationScript.isTruthy = false)
    (parsed : Tree.parse? .expression submission = some tree)
    (room : Tree.LeavesRoom (lineFed submission)) :
    capabilities.byExecution submission exercise = (do
        let run ← capabilities.execute (.str (printing submission))
        orThrow (Outcome.ofPrinted exercise run)) ∧
      ∃ value items trailing, tree = .expression value ∧
        value = Rule.tupleOf .load (items, trailing) ∧
        Tree.listed? (lineFed submission) = some (items, trailing) ∧
        Tree.parse? .module (printing submission) =
          (if FitsBrackets (lineFed submission) then some (Tree.printed items) else none) ∧
        (Tree.parse? .module (printing submission) = some (Tree.printed [value]) ↔
          IsSingle submission ∧ FitsBrackets (lineFed submission)) := by
  refine ⟨?_, ?_⟩
  · rw [byExecution_eq]
    simp only [programOf, judge, if_neg written, unscripted, if_neg Bool.false_ne_true]
  · obtain ⟨read, pasted⟩ := of_parse?_expression parsed
    obtain ⟨⟨items, trailing⟩, rfl, listed, called⟩ := Tree.ofModule?_pasted read room
    refine ⟨_, items, trailing, rfl, rfl, listed, pasted.trans called, ?_⟩
    have single : IsSingle submission ↔ items = [Rule.tupleOf .load (items, trailing)] := by
      simp [IsSingle, listed, tupleOf_eq_iff]
    rw [pasted, called, single]
    by_cases fits : FitsBrackets (lineFed submission)
    · rw [if_pos fits, Option.some_inj, printed_inj]
      exact (and_iff_left fits).symm
    · rw [if_neg fits]
      exact iff_of_false (Option.some_ne_none _).symm fun both => fits both.2

/-- A comment takes the closing bracket in. -/
example : (Tree.parse? .expression "x # so far").isSome = true ∧
    (Tree.parse? .module (printing "x # so far")).isNone = true := by
  decide +kernel

/-- Capabilities of a language in which every program prints the same. -/
def saying (output : String) : Capabilities Unit where
  attach _ := pure ()
  isReady := pure true
  execute _ := pure ⟨true, .str output, .null⟩
  compareTokens _ _ _ := pure { isMatch := false }
  compareTrees _ _ _ _ := pure { isMatch := false }

/-- An exercise whose answer is an expression with a given value. -/
def evaluation (value : String) : Exercise :=
  { Exercise.ofAnswer value with verifyByExecution := true }

/-- A call is printed as it is. -/
theorem byExecution_printing_call :
    ∃ value, Tree.parse? .expression "sorted(xs)" = some (.expression value) ∧
      (saying "[1, 2]\n").byExecution "sorted(xs)" (evaluation "[1, 2]") = (do
        let run ← (saying "[1, 2]\n").execute (.str "print(sorted(xs))")
        orThrow (Outcome.ofPrinted (evaluation "[1, 2]") run)) ∧
      Tree.parse? .module "print(sorted(xs))" = some (Tree.printed [value]) := by
  have parses : (Tree.parse? .expression "sorted(xs)").isSome = true := by decide +kernel
  obtain ⟨tree, parsed⟩ := Option.isSome_iff_exists.mp parses
  have light : weight (tokensOf (lineFed "sorted(xs)")) ≤ Tree.nestingLimit := by decide +kernel
  obtain ⟨sent, value, items, trailing, rfl, -, -, -, prints⟩ :=
    byExecution_printing_iff (saying "[1, 2]\n") (show (evaluation "[1, 2]").exerciseType ≠ "predict" by decide)
      rfl parsed (Tree.leavesRoom_of_weight light)
  have single : IsSingle "sorted(xs)" := ⟨_, rfl⟩
  have fits : FitsBrackets (lineFed "sorted(xs)") := by decide +kernel
  exact ⟨value, parsed, sent, prints.mpr ⟨single, fits⟩⟩

/-- A tuple without brackets is taken apart: what is printed is not its value. -/
theorem parse?_printing_tuple :
    ∃ first second, Tree.parse? .expression "1, 2" =
        some (.expression (.node (.tuple .load) [[first, second]])) ∧
      Tree.parse? .module (printing "1, 2") = some (Tree.printed [first, second]) ∧
      Tree.parse? .module (printing "1, 2") ≠
        some (Tree.printed [.node (.tuple .load) [[first, second]]]) := by
  have parsed : Tree.parse? .expression "1, 2" =
      some (.expression (.node (.tuple .load) [[.constant (.int 1), .constant (.int 2)]])) := rfl
  have lists : Tree.listed? (lineFed "1, 2") =
      some ([.constant (.int 1), .constant (.int 2)], false) := rfl
  have light : weight (tokensOf (lineFed "1, 2")) ≤ Tree.nestingLimit := by decide +kernel
  have fits : FitsBrackets (lineFed "1, 2") := by decide +kernel
  obtain ⟨read, pasted⟩ := of_parse?_expression parsed
  obtain ⟨found, -, listed, called⟩ := Tree.ofModule?_pasted read (Tree.leavesRoom_of_weight light)
  obtain rfl := Option.some.inj (listed.symm.trans lists)
  have prints := pasted.trans (called.trans (if_pos fits))
  refine ⟨_, _, parsed, prints, ?_⟩
  rw [prints, ne_eq, Option.some_inj, printed_inj]
  simp

end Grading
end AnswerKey
