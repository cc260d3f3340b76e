import AnswerKey.Proofs.Grading.Fallback

namespace AnswerKey

/-!
Which records are graded.

Whatever a strategy does, grading has a result; but before a strategy is attempted the record is read
and its language is looked up, and both can be refused.  Two fields decide on it.  The accepted
solutions have to be something that can be gone through, and the language has to be a text unless it
does not matter: under exact matching, and where another language is given with the submission.
(`Grading.gradeRecord_result_iff`).  What is refused leaves everything as it was.
-/

namespace Exercise

/-- Whether accepted solutions can be gone through; what does not count as true stands for none. -/
def hasMembers : Json → Bool
  | .arr _ => true
  | .obj _ => true
  | .str _ => true
  | value => !value.isTruthy

theorem exists_membersOf_iff (value : Json) :
    (∃ members, membersOf (orElse value (.arr [])) = .ok members) ↔ hasMembers value = true := by
  by_cases counts : value.isTruthy = true
  · rw [orElse, if_pos counts]
    cases value <;> simp [membersOf, hasMembers, counts]
  · rw [orElse, if_neg counts]
    have none : hasMembers value = true := by
      cases value <;> simp_all [hasMembers]
    exact ⟨fun _ => none, fun _ => ⟨[], rfl⟩⟩

/-- A record is read unless its accepted solutions cannot be gone through. -/
theorem exists_ofFields_iff (fields : List (String × Json)) :
    (∃ exercise, ofFields fields = .ok exercise) ↔
      hasMembers (pick fields acceptedSolutionsKeys) = true := by
  rw [← exists_membersOf_iff, ofFields]
  cases membersOf (orElse (pick fields acceptedSolutionsKeys) (.arr [])) with
  | ok members => exact ⟨fun _ => ⟨members, rfl⟩, fun _ => ⟨_, rfl⟩⟩
  | error fault => exact ⟨fun ⟨_, read⟩ => (nomatch read), fun ⟨_, read⟩ => (nomatch read)⟩

theorem ofFields_eq_error {fields : List (String × Json)}
    (unreadable : hasMembers (pick fields acceptedSolutionsKeys) = false) :
    ofFields fields = .error .notIterable := by
  rw [ofFields]
  cases accepted : membersOf (orElse (pick fields acceptedSolutionsKeys) (.arr [])) with
  | ok members =>
      rw [(exists_membersOf_iff _).mp ⟨members, accepted⟩] at unreadable
      cases unreadable
  | error fault =>
      cases fault with
      | notIterable => rfl
      | notAnObject =>
          unfold membersOf at accepted
          split at accepted <;> cases accepted

end Exercise

namespace Grading

open Exercise (pick acceptedSolutionsKeys hasMembers)

/-! ### Languages -/

/-- Whether a value names a language or none. -/
def namesLanguage : Json → Bool
  | .str _ => true
  | value => !value.isTruthy

theorem get_of_namesLanguage {α : Type} (registry : Registry α) {language : Json}
    (names : namesLanguage language = true) : ∃ found, registry.get language = .ok found := by
  cases language with
  | str name => exact ⟨registry.find? name, rfl⟩
  | _ =>
      refine ⟨none, ?_⟩
      simp only [namesLanguage, Bool.not_eq_true'] at names
      simp only [Registry.get, names, Bool.false_eq_true, if_false]

theorem get_of_not_namesLanguage {α : Type} (registry : Registry α) {language : Json}
    (other : namesLanguage language = false) : registry.get language = .error .notAText := by
  cases language with
  | str name => cases other
  | _ =>
      simp only [namesLanguage, Bool.not_eq_false'] at other
      simp only [Registry.get, other, if_true]

/-- Whether a language is given with a submission; an empty text gives none. -/
def isGiven (language : Option String) : Bool :=
  language.any fun name => !name.isEmpty

/-- What counts is the language that is given, or else the one of the exercise. -/
theorem namesLanguage_languageOf {σ : Type} (router : Router σ) (exercise : Exercise)
    (language : Option String) :
    namesLanguage (router.languageOf exercise (.ofText? language)) =
      (isGiven language || namesLanguage exercise.language) := by
  have own : namesLanguage (Exercise.orElse exercise.language (.str router.settings.defaultLanguage)) =
      namesLanguage exercise.language := by
    by_cases counts : exercise.language.isTruthy = true
    · rw [Exercise.orElse, if_pos counts]
    · rw [Exercise.orElse, if_neg counts]
      cases own : exercise.language <;> simp_all [namesLanguage]
  rw [Router.languageOf, Exercise.orElse]
  cases language with
  | none => exact own
  | some name =>
      cases empty : name.isEmpty with
      | true => simp [Json.ofText?, Json.isTruthy, isGiven, empty, own]
      | false => simp [Json.ofText?, Json.isTruthy, isGiven, empty, namesLanguage]

/-! ### Records -/

/-- A record that is graded, whatever the strategy makes of it. -/
structure IsGradable (language : Option String) (fields : List (String × Json)) : Prop where
  solutions : hasMembers (pick fields acceptedSolutionsKeys) = true
  language : ∀ exercise, Exercise.ofFields fields = .ok exercise →
    (planOf exercise).1 = .exact ∨ isGiven language = true ∨ namesLanguage exercise.language = true

section Records

variable {σ : Type} (router : Router σ) (submission : String) (fields : List (String × Json))
  (handle : Option Nat) (language : Option String) (state : σ)

/-- A record that is not read is refused. -/
theorem gradeRecord_of_unreadable
    (unreadable : hasMembers (pick fields acceptedSolutionsKeys) = false) :
    (router.gradeRecord submission (.obj fields) handle (.ofText? language)).run state =
      (⟨.error (.record .notIterable), []⟩, state) := by
  have read : Exercise.ofRecord (.obj fields) = .error .notIterable :=
    Exercise.ofFields_eq_error unreadable
  rw [Router.gradeRecord, read]
  rfl

variable {fields} {exercise : Exercise} (read : Exercise.ofFields fields = .ok exercise)

include read

theorem gradeRecord_of_read :
    router.gradeRecord submission (.obj fields) handle (.ofText? language) =
      router.grade submission exercise handle (.ofText? language) := by
  have record : Exercise.ofRecord (.obj fields) = .ok exercise := read
  rw [Router.gradeRecord, record]

/-- So is one with a language that is looked up and is no text. -/
theorem gradeRecord_of_nameless (notExact : (planOf exercise).1 ≠ .exact)
    (nameless : namesLanguage (router.languageOf exercise (.ofText? language)) = false) :
    (router.gradeRecord submission (.obj fields) handle (.ofText? language)).run state =
      (⟨.error (.language .notAText), (planOf exercise).2⟩, state) := by
  have refused := get_of_not_namesLanguage router.registry nameless
  rw [gradeRecord_of_read router submission handle language read, Router.grade]
  simp only [notExact, if_false, refused]
  rfl

/-- Every other record is graded. -/
theorem exists_gradeRecord (known : (planOf exercise).1 = .exact ∨
      namesLanguage (router.languageOf exercise (.ofText? language)) = true) :
    ∃ result notes after,
      (router.gradeRecord submission (.obj fields) handle (.ofText? language)).run state =
        (⟨.ok result, notes⟩, after) := by
  rw [gradeRecord_of_read router submission handle language read]
  by_cases isExact : (planOf exercise).1 = .exact
  · exact ⟨_, _, _, grade_exact router submission exercise handle _ state isExact⟩
  · have names := known.resolve_left isExact
    rcases get_of_namesLanguage router.registry names with ⟨found, known⟩
    exact ⟨_, _, _, grade_attempt router submission exercise handle _ state isExact known⟩

end Records

/-- Once the record is read, the language decides. -/
theorem isGradable_iff_of_read {language : Option String} {fields : List (String × Json)}
    {exercise : Exercise} (read : Exercise.ofFields fields = .ok exercise) :
    IsGradable language fields ↔ (planOf exercise).1 = .exact ∨ isGiven language = true ∨
      namesLanguage exercise.language = true := by
  constructor
  · intro gradable
    exact gradable.language exercise read
  · intro known
    refine ⟨(Exercise.exists_ofFields_iff fields).mp ⟨exercise, read⟩, fun other same => ?_⟩
    cases Except.ok.inj (read.symm.trans same)
    exact known

/-- A record is graded, or one of its two fields is refused. -/
theorem gradeRecord_cases {σ : Type} (router : Router σ) (submission : String)
    (fields : List (String × Json)) (handle : Option Nat) (language : Option String) (state : σ) :
    (IsGradable language fields ∧ ∃ result notes after,
        (router.gradeRecord submission (.obj fields) handle (.ofText? language)).run state =
          (⟨.ok result, notes⟩, after)) ∨
      (¬ IsGradable language fields ∧ ∃ refusal notes,
        (router.gradeRecord submission (.obj fields) handle (.ofText? language)).run state =
          (⟨.error refusal, notes⟩, state) ∧
        (refusal = .record .notIterable ∨ refusal = .language .notAText)) := by
  cases solutions : hasMembers (pick fields acceptedSolutionsKeys) with
  | false =>
      refine .inr ⟨fun gradable => ?_, _, _, gradeRecord_of_unreadable router submission fields
        handle language state solutions, .inl rfl⟩
      rw [gradable.solutions] at solutions
      cases solutions
  | true =>
      rcases (Exercise.exists_ofFields_iff fields).mpr solutions with ⟨exercise, read⟩
      have named := namesLanguage_languageOf router exercise language
      rw [isGradable_iff_of_read read, ← Bool.or_eq_true, ← named]
      by_cases known : (planOf exercise).1 = .exact ∨
          namesLanguage (router.languageOf exercise (.ofText? language)) = true
      · exact .inl ⟨known, exists_gradeRecord router submission handle language state read known⟩
      · have notExact : (planOf exercise).1 ≠ .exact := fun isExact => known (.inl isExact)
        have nameless : namesLanguage (router.languageOf exercise (.ofText? language)) = false :=
          Bool.eq_false_iff.mpr fun names => known (.inr names)
        exact .inr ⟨known, _, _, gradeRecord_of_nameless router submission handle language state read
          notExact nameless, .inr rfl⟩

/-- A record with a number for its language. -/
def numbered : List (String × Json) :=
  [("expected_answer", .str "x"), ("language", .int 3)]

end Grading
end AnswerKey
