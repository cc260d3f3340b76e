import AnswerKey.Answer.Match
import AnswerKey.Proofs.Exercise.Configuration
import AnswerKey.Proofs.Text.Quoting

namespace AnswerKey

/-!
Accepted solutions that say nothing new.

An audit warns of an accepted solution whose normal form as code is that of the expected answer.  The
matcher compares in the form that belongs to the type of the exercise.  For written code the two agree,
and what is warned of can be left out.  For other types it depends: `outcomeOf_without_iff` says exactly
when no submission notices that a solution is gone.
-/

namespace Answer

/-! ### Alternatives -/

/-- Whether an alternative between others adds nothing: its normal form is empty or that of the
expected answer, or another alternative answers for it with the same text. -/
def IsSuperfluous (form : Form) (expected : String) (before : List String) (alternative : String)
    (after : List String) : Prop :=
  form.normalize alternative = "" ∨
    form.normalize alternative = form.normalize expected ∨
    (∃ earlier ∈ before, form.normalize earlier = form.normalize alternative) ∨
    firstMatch? form (form.normalize alternative) after = some alternative

/-- Whether an answer is right, and by which alternative. -/
def outcome (verdict : Verdict) : Bool × Option String :=
  (verdict.isCorrect, verdict.alternative)

section Alternatives

variable {form : Form} {answer expected alternative given : String} {before after : List String}

theorem normalize_code (text : String) : Form.code.normalize text = Answer.code text := by
  rw [Form.normalize]

theorem normalize_empty (form : Form) : form.normalize "" = "" := by
  cases form <;> rfl

/-- The alternatives decide only about an answer that says something and is not the expected one. -/
theorem outcome_matchWith (form : Form) (answer expected : String) (alternatives : List String) :
    outcome (matchWith form answer expected alternatives) =
      if form.normalize answer = "" then (false, none)
      else if form.normalize answer = form.normalize expected then (true, none)
      else
        let found := firstMatch? form (form.normalize answer) alternatives
        (found.isSome, found) := by
  simp only [matchWith]
  split
  · rfl
  · split
    · rfl
    · cases firstMatch? form (form.normalize answer) alternatives <;> rfl

/-- Alternatives are looked through in their order. -/
theorem firstMatch?_append (form : Form) (given : String) (first second : List String) :
    firstMatch? form given (first ++ second) =
      (firstMatch? form given first).or (firstMatch? form given second) :=
  List.find?_append

/-- An alternative is found by its own normal form and by no other. -/
theorem firstMatch?_cons (something : given ≠ "") (alternative : String) (after : List String) :
    firstMatch? form given (alternative :: after) =
      if form.normalize alternative = given then some alternative else firstMatch? form given after := by
  by_cases same : form.normalize alternative = given
  · have filled : alternative.isEmpty = false := by
      rw [Bool.eq_false_iff]
      intro empty
      rw [String.isEmpty_iff.mp empty, normalize_empty] at same
      exact something same.symm
    rw [if_pos same, firstMatch?, List.find?_cons_of_pos (by simp [same, filled])]
  · rw [if_neg same, firstMatch?, List.find?_cons_of_neg (by simp [same])]
    rfl

theorem firstMatch?_eq_none_iff (something : given ≠ "") {alternatives : List String} :
    firstMatch? form given alternatives = none ↔
      ∀ alternative ∈ alternatives, form.normalize alternative ≠ given := by
  induction alternatives with
  | nil => simp [firstMatch?]
  | cons alternative after ih =>
      rw [firstMatch?_cons something, List.forall_mem_cons, ← ih]
      split
      · next same => simp [same]
      · next different => simp [different]

/-- An answer notices that an alternative is gone only if it has the normal form of it. -/
theorem outcome_without_of_ne (different : form.normalize alternative ≠ form.normalize answer) :
    outcome (matchWith form answer expected (before ++ after)) =
      outcome (matchWith form answer expected (before ++ alternative :: after)) := by
  rw [outcome_matchWith, outcome_matchWith]
  split
  · rfl
  · next something =>
      simp only [firstMatch?_append, firstMatch?_cons something, if_neg different]

/-- No answer notices that an alternative is gone just when it is superfluous. -/
theorem outcome_without_iff :
    (∀ answer, outcome (matchWith form answer expected (before ++ after)) =
        outcome (matchWith form answer expected (before ++ alternative :: after))) ↔
      IsSuperfluous form expected before alternative after := by
  constructor
  · -- The alternative itself is the answer that would notice.
    intro unnoticed
    have own := unnoticed alternative
    rw [outcome_matchWith, outcome_matchWith] at own
    split at own
    · next nothing => exact .inl nothing
    · next something =>
        split at own
        · next same => exact .inr (.inl same)
        · cases earlier : firstMatch? form (form.normalize alternative) before with
          | some found =>
              have member := List.mem_of_find?_eq_some earlier
              have kept := List.find?_some earlier
              rw [Bool.and_eq_true, beq_iff_eq] at kept
              exact .inr (.inr (.inl ⟨found, member, kept.2⟩))
          | none =>
              have found := congrArg Prod.snd own
              simp only [firstMatch?_append, earlier, firstMatch?_cons something, if_pos,
                Option.none_or] at found
              exact .inr (.inr (.inr found))
  · intro superfluous answer
    by_cases same : form.normalize alternative = form.normalize answer
    · rw [outcome_matchWith, outcome_matchWith, ← same]
      split
      · rfl
      · next something =>
          split
          · rfl
          · next notExpected =>
              rcases superfluous with nothing | equal | ⟨earlier, member, equal⟩ | later
              · exact absurd nothing something
              · exact absurd equal notExpected
              · cases found : firstMatch? form (form.normalize alternative) before with
                | some first => simp only [firstMatch?_append, found, Option.some_or]
                | none =>
                    exact absurd equal ((firstMatch?_eq_none_iff something).mp found earlier member)
              · simp only [firstMatch?_append, firstMatch?_cons something, if_pos, later]
    · exact outcome_without_of_ne same

end Alternatives

end Answer

namespace Audit

/-! ### Warnings -/

/-- The issue that an accepted solution repeats the expected answer. -/
def duplicateIssue (slug : Option String) (solution : String) : Issue :=
  ⟨.warning, "accepted solution duplicates expected_answer: " ++ Text.Quoted.encode solution, slug,
    some "accepted_solutions"⟩

/-- Whether an audit warns that a solution repeats the expected answer. -/
def IsFlagged (isRegistered : String → Bool) (default record : Json) (solution : String) : Prop :=
  ∃ slug, duplicateIssue slug solution ∈ issuesOf isRegistered default record

/-- Only an accepted solution with the normal form of the expected answer is warned of. -/
theorem exists_of_isFlagged {isRegistered : String → Bool} {default : Json}
    {fields : List (String × Json)} {solution : String}
    (flagged : IsFlagged isRegistered default (.obj fields) solution) :
    ∃ expected, expectedOf? fields = some expected ∧ Answer.code solution = Answer.code expected := by
  obtain ⟨slug, member⟩ := flagged
  obtain ⟨⟨severity, message, field⟩, found, same⟩ := List.mem_map.mp member
  obtain ⟨rfl, rfl, -, field⟩ := Issue.mk.inj same
  obtain rfl := Option.some.inj field
  -- All other findings are errors or are about another field.
  simp only [List.mem_append, mem_slugFindings, typeFindings, strategyFindings, languageFindings,
    targetFindings, executionFindings, mem_findingIf, Prod.mk.injEq, reduceCtorEq, false_and,
    and_false, false_or] at found
  rcases found with found | found
  · rw [acceptedFindings] at found
    split at found
    · cases found
    · split at found
      · simp at found
      · split at found
        · cases found
        · next expected expects =>
            obtain ⟨text, member, same⟩ := List.mem_map.mp found
            have quoted := (Prod.mk.inj (Prod.mk.inj same).2).1
            rw [← Text.Quoted.encode_inj (String.append_right_inj _ |>.mp quoted)]
            exact ⟨expected, expects, by simpa using (List.mem_filter.mp member).2⟩
  · rw [parseFindings] at found
    split at found
    · cases found
    · simp [mem_findingIf] at found

/-! ### Leaving a solution out -/

/-- The key under which some fields list accepted solutions. -/
def solutionsKey (fields : List (String × Json)) : String :=
  if (Exercise.pick fields ["accepted_solutions"]).isNull then "acceptedSolutions"
  else "accepted_solutions"

/-- The record with other accepted solutions and all else as it was. -/
def withSolutions (solutions : List String) : Json → Json
  | .obj fields => .obj (Json.insertField (solutionsKey fields) (.arr (solutions.map .str)) fields)
  | record => record

/-- A field that is not looked at may change. -/
theorem pick_insertField_of_not_mem {key : String} {keys : List String} (absent : key ∉ keys)
    (value : Json) (fields : List (String × Json)) :
    Exercise.pick (Json.insertField key value fields) keys = Exercise.pick fields keys := by
  induction keys with
  | nil => rfl
  | cons first others ih =>
      have different : key ≠ first := fun same => absent (same ▸ List.mem_cons_self)
      have more := ih fun member => absent (List.mem_cons_of_mem first member)
      simp only [Exercise.pick, Json.lookup?_insertField, if_neg different, more]

theorem pick_withSolutions (solutions : List String) (fields : List (String × Json)) :
    Exercise.pick (Json.insertField (solutionsKey fields) (.arr (solutions.map .str)) fields)
      Exercise.acceptedSolutionsKeys = .arr (solutions.map .str) := by
  rw [solutionsKey]
  split
  · next unset =>
      have first : Exercise.pick fields ["accepted_solutions"] = .null := by
        cases picked : Exercise.pick fields ["accepted_solutions"] <;> simp_all [Json.isNull]
      simp only [Exercise.acceptedSolutionsKeys, Exercise.pick, Json.lookup?_insertField] at first ⊢
      cases found : Json.lookup? "accepted_solutions" fields with
      | none => simp
      | some value => cases value <;> simp_all
  · simp [Exercise.acceptedSolutionsKeys, Exercise.pick, Json.lookup?_insertField]

/-- With other accepted solutions a record is the same exercise in all else. -/
theorem ofRecord_withSolutions {record : Json} {exercise : Exercise}
    (read : Exercise.ofRecord record = .ok exercise) (solutions : List String) :
    Exercise.ofRecord (withSolutions solutions record) =
      .ok { exercise with acceptedSolutions := solutions } := by
  cases record with
  | obj fields =>
      have apart (keys : List String) (absent : solutionsKey fields ∉ keys) :=
        pick_insertField_of_not_mem absent (.arr (solutions.map .str)) fields
      have known : solutionsKey fields = "acceptedSolutions" ∨
          solutionsKey fields = "accepted_solutions" := by
        rw [solutionsKey]
        split <;> simp
      rw [Exercise.ofRecord, Exercise.ofFields] at read
      rw [withSolutions, Exercise.ofRecord, Exercise.ofFields, pick_withSolutions,
        membersOf_texts]
      cases members : Exercise.membersOf (Exercise.orElse
          (Exercise.pick fields Exercise.acceptedSolutionsKeys) (.arr [])) with
      | error fault =>
          rw [members] at read
          cases read
      | ok accepted =>
          rw [members] at read
          cases read
          change Except.ok _ = Except.ok _
          rw [apart ["language"], apart Exercise.gradingStrategyKeys, apart ["code"],
            apart Exercise.verificationScriptKeys, apart ["slug"], apart Exercise.expectedAnswerKeys,
            apart Exercise.exerciseTypeKeys, apart Exercise.verifyByExecutionKeys,
            apart Exercise.targetConstructKeys]
          all_goals rcases known with same | same <;> rw [same] <;> decide
  | _ => cases read

/-- The outcome of the exact match of a submission with an exercise. -/
def outcomeOf (exercise : Exercise) (submission : String) : Bool × Option String :=
  Answer.outcome (Answer.matchExercise submission exercise.exerciseType exercise.expectedAnswer
    exercise.acceptedSolutions)

/-- A record without faults is an exercise with the answer that the audit sees. -/
theorem exists_exercise_of_isSound {isRegistered : String → Bool} {default record : Json}
    (sound : IsSound (issuesOf isRegistered default record)) :
    ∃ fields exercise, record = .obj fields ∧ Exercise.ofRecord record = .ok exercise ∧
      expectedOf? fields = some exercise.expectedAnswer := by
  cases record with
  | obj fields =>
      obtain ⟨expected, -, -, -, -, -, accepted⟩ := tolerable_of_isSound sound
      obtain ⟨answer, found⟩ := Option.isSome_iff_exists.mp expected
      obtain ⟨solutions, read, -⟩ := exists_solutions accepted
      refine ⟨fields, _, rfl, by rw [Exercise.ofRecord, Exercise.ofFields, read]; rfl, ?_⟩
      exact found.trans (congrArg some (text_of_expectedOf? found).symm)
  | _ => exact absurd rfl (sound _ (List.mem_singleton_self _))

/-- Leaving out an accepted solution that an audit warns of goes unnoticed by every submission just
when the solution is superfluous in the form in which the exercise is matched; for written code it
always is. -/
theorem outcomeOf_without_iff {isRegistered : String → Bool} {default record : Json}
    (sound : IsSound (issuesOf isRegistered default record)) :
    ∃ exercise, Exercise.ofRecord record = .ok exercise ∧
      ∀ before solution after, exercise.acceptedSolutions = before ++ solution :: after →
        IsFlagged isRegistered default record solution →
          ∃ without, Exercise.ofRecord (withSolutions (before ++ after) record) = .ok without ∧
            ((∀ submission, outcomeOf without submission = outcomeOf exercise submission) ↔
              Answer.IsSuperfluous (.ofExerciseType exercise.exerciseType) exercise.expectedAnswer
                before solution after) ∧
            (exercise.exerciseType = "write" →
              ∀ submission, outcomeOf without submission = outcomeOf exercise submission) := by
  obtain ⟨fields, exercise, rfl, read, found⟩ := exists_exercise_of_isSound sound
  refine ⟨exercise, read, fun before solution after listed flagged => ?_⟩
  have shown (submission : String) :
      outcomeOf { exercise with acceptedSolutions := before ++ after } submission =
          outcomeOf exercise submission ↔
        Answer.outcome (Answer.matchWith (.ofExerciseType exercise.exerciseType) submission
            exercise.expectedAnswer (before ++ after)) =
          Answer.outcome (Answer.matchWith (.ofExerciseType exercise.exerciseType) submission
            exercise.expectedAnswer (before ++ solution :: after)) := by
    rw [outcomeOf, outcomeOf, listed]
    rfl
  refine ⟨_, ofRecord_withSolutions read _, ?_, fun written => ?_⟩
  · simp only [shown]
    exact Answer.outcome_without_iff
  · obtain ⟨expected, found', same⟩ := exists_of_isFlagged flagged
    obtain rfl : exercise.expectedAnswer = expected := Option.some.inj (found.symm.trans found')
    have asCode : Answer.Form.ofExerciseType exercise.exerciseType = .code := by
      rw [written]
      decide
    rw [← Answer.normalize_code, ← Answer.normalize_code] at same
    intro submission
    rw [shown, asCode]
    exact Answer.outcome_without_iff.mpr (.inr (.inl same)) submission

/-- A gap that is to be filled with an expression, and the same expression with spaces. -/
def spacedGap : Json :=
  .obj [("exercise_type", .str "fill-in"), ("expected_answer", .str "x+1"),
    ("grading_strategy", .str "token"), ("accepted_solutions", .arr [.str "x + 1"])]

theorem isFlagged_spacedGap : IsFlagged (fun _ => true) .null spacedGap "x + 1" :=
  ⟨none, by decide +kernel⟩

/-- The solution of the gap is not superfluous, so a submission notices. -/
theorem outcomeOf_without_spacedGap :
    IsSound (issuesOf (fun _ => true) .null spacedGap) ∧
      ∃ exercise, Exercise.ofRecord spacedGap = .ok exercise ∧
        exercise.acceptedSolutions = [] ++ "x + 1" :: [] ∧
        IsFlagged (fun _ => true) .null spacedGap "x + 1" ∧
        ∃ without, Exercise.ofRecord (withSolutions ([] ++ []) spacedGap) = .ok without ∧
          ((∀ submission, outcomeOf without submission = outcomeOf exercise submission) ↔
            Answer.IsSuperfluous (.ofExerciseType exercise.exerciseType) exercise.expectedAnswer
              [] "x + 1" []) := by
  have sound : IsSound (issuesOf (fun _ => true) .null spacedGap) := by decide +kernel
  obtain ⟨exercise, read, all⟩ := outcomeOf_without_iff sound
  have listed : exercise.acceptedSolutions = [] ++ "x + 1" :: [] := by
    cases read
    rfl
  obtain ⟨without, read', unnoticed, -⟩ := all [] "x + 1" [] listed isFlagged_spacedGap
  exact ⟨sound, exercise, read, listed, isFlagged_spacedGap, without, read', unnoticed⟩

/-- Without the solution that the audit warns of, the very answer it spells is wrong. -/
theorem outcomeOf_spacedGap :
    IsSound (issuesOf (fun _ => true) .null spacedGap) ∧
      IsFlagged (fun _ => true) .null spacedGap "x + 1" ∧
      ∃ exercise without, Exercise.ofRecord spacedGap = .ok exercise ∧
        Exercise.ofRecord (withSolutions [] spacedGap) = .ok without ∧
        outcomeOf exercise "x + 1" = (true, some "x + 1") ∧
        outcomeOf without "x + 1" = (false, none) :=
  ⟨by decide +kernel, isFlagged_spacedGap, _, _, rfl, rfl, by decide +kernel, by decide +kernel⟩

end Audit
end AnswerKey
