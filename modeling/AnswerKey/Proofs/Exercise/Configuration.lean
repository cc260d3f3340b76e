import AnswerKey.Exercise.Audit
import AnswerKey.Grading.Router
import AnswerKey.Proofs.Exercise.LanguageName

namespace AnswerKey
namespace Audit

/-!
What an audit promises to the router.

An audit and the router read the same record, but not with the same code: the one checks the fields as
they were written, the other turns them into an exercise first and looks at what came of them.  A
record without faults of configuration is nevertheless an exercise that the router has nothing to say
against (`exists_configured`).  The promises are those of `Configured`, and each of them follows from
the findings on one field.
-/

open Text

/-! ### Findings -/

theorem mem_findingIf {condition : Bool} {severity : Severity} {message field : String}
    {finding : Finding} :
    finding ∈ findingIf condition severity message field ↔
      condition = true ∧ finding = (severity, message, field) := by
  cases condition <;> simp [findingIf]

theorem mem_slugFindings {slug : Option String} {finding : Finding} :
    finding ∈ slugFindings slug ↔
      (∃ text, slug = some text ∧ isSlug text = false) ∧
        finding = (.error, "slug must be kebab-case", "slug") := by
  cases slug with
  | none => simp [slugFindings]
  | some text => simp [slugFindings, mem_findingIf]

/-! ### Findings that are no faults -/

/-- Findings none of which is a fault of configuration. -/
def Tolerable (findings : List Finding) : Prop :=
  ∀ finding ∈ findings, finding.1 ≠ .error

theorem tolerable_append {first second : List Finding} :
    Tolerable (first ++ second) ↔ Tolerable first ∧ Tolerable second := by
  simp [Tolerable, or_imp, forall_and]

/-- A check for a fault is tolerable when the fault is absent. -/
theorem tolerable_findingIf {condition : Bool} {message field : String} :
    Tolerable (findingIf condition .error message field) ↔ condition = false := by
  cases condition <;> simp [Tolerable, findingIf]

/-- Issues none of which is a fault of configuration. -/
def IsSound (issues : List Issue) : Prop :=
  ∀ issue ∈ issues, issue.severity ≠ .error

instance (issues : List Issue) : Decidable (IsSound issues) :=
  inferInstanceAs (Decidable (∀ issue ∈ issues, issue.severity ≠ .error))

/-- A record is sound when the findings on each of its fields are tolerable. -/
theorem tolerable_of_isSound {isRegistered : String → Bool} {default : Json}
    {fields : List (String × Json)} (sound : IsSound (fieldIssues isRegistered default fields)) :
    (expectedOf? fields).isSome = true ∧ Tolerable (typeFindings fields) ∧
      Tolerable (strategyFindings fields) ∧
      Tolerable (languageFindings isRegistered (languageOf fields default)) ∧
      Tolerable (targetFindings fields) ∧ Tolerable (executionFindings fields) ∧
      Tolerable (acceptedFindings fields) := by
  simp only [IsSound, fieldIssues, List.forall_mem_map] at sound
  change Tolerable _ at sound
  simp only [tolerable_append, tolerable_findingIf] at sound
  rcases sound with ⟨⟨⟨⟨⟨⟨⟨⟨-, expected⟩, type⟩, strategy⟩, language⟩, target⟩, execution⟩,
    accepted⟩, -⟩
  refine ⟨?_, type, strategy, language, target, execution, accepted⟩
  cases found : expectedOf? fields with
  | none => simp [found] at expected
  | some text => rfl

/-! ### Single fields -/

theorem isOneOf_iff {names : List String} {value : Json} :
    isOneOf names value = true ↔ ∃ name ∈ names, value = .str name := by
  cases value <;> simp [isOneOf]

theorem isVisible_of_expectedOf? {fields : List (String × Json)} {expected : String}
    (found : expectedOf? fields = some expected) :
    Exercise.pick fields Exercise.expectedAnswerKeys = .str expected ∧
      IsVisible expected.toList := by
  rw [expectedOf?] at found
  split at found
  · next text picked =>
      split at found
      · cases found
      · next visible =>
          cases found
          refine ⟨picked, Decidable.byContradiction fun invisible => visible ?_⟩
          rw [trim_eq_nil_iff.mpr invisible]
          rfl
  · cases found

/-- The expected answer that an audit sees is that of the exercise. -/
theorem text_of_expectedOf? {fields : List (String × Json)} {expected : String}
    (found : expectedOf? fields = some expected) :
    (Exercise.orElse (Exercise.pick fields Exercise.expectedAnswerKeys) (.str "")).text =
      expected := by
  obtain ⟨picked, visible⟩ := isVisible_of_expectedOf? found
  have truthy : (Json.str expected).isTruthy = true := by
    simpa [Json.isTruthy] using visible.ne_nil
  rw [picked, Exercise.orElse, if_pos truthy]
  rfl

/-- The type of an exercise is a prediction in the eyes of the audit just when it is one. -/
theorem isOneOf_predict_iff {value : Json} {exerciseType : String}
    (same : Exercise.orElse value (.str "write") = .str exerciseType) :
    isOneOf ["predict"] value = true ↔ exerciseType = "predict" := by
  rw [isOneOf_iff]
  rw [Exercise.orElse] at same
  split at same
  · subst same
    simp
  · next falsy =>
      cases same
      constructor
      · rintro ⟨name, member, rfl⟩
        rw [List.mem_singleton.mp member] at falsy
        exact absurd rfl falsy
      · exact fun equal => absurd equal (by decide)

theorem textsOf?_str_cons (text : String) (rest : List Json) :
    textsOf? (.arr (.str text :: rest)) = (textsOf? (.arr rest)).map (text :: ·) := by
  rw [textsOf?, List.mapM_cons, textsOf?, Option.map_eq_bind]
  rfl

/-- An array of texts is read as those texts. -/
theorem textsOf?_eq_some {items : List Json} {texts : List String}
    (read : textsOf? (.arr items) = some texts) : items = texts.map .str := by
  induction items generalizing texts with
  | nil =>
      cases read
      rfl
  | cons item rest ih =>
      cases item with
      | str text =>
          rw [textsOf?_str_cons] at read
          rcases Option.map_eq_some_iff.mp read with ⟨more, others, rfl⟩
          rw [List.map_cons, ih others]
      | _ =>
          rw [textsOf?, List.mapM_cons] at read
          cases read

theorem membersOf_texts (texts : List String) :
    Exercise.membersOf (Exercise.orElse (.arr (texts.map .str)) (.arr [])) = .ok texts := by
  cases texts with
  | nil => rfl
  | cons first rest =>
      have same : (Json.text ∘ Json.str) = id := rfl
      simp [Exercise.orElse, Json.isTruthy, Exercise.membersOf, same]
      rfl

/-- The solutions that a record lists, if its findings on them are tolerable. -/
theorem exists_solutions {fields : List (String × Json)}
    (tolerable : Tolerable (acceptedFindings fields)) :
    ∃ solutions, Exercise.membersOf (Exercise.orElse
        (Exercise.pick fields Exercise.acceptedSolutionsKeys) (.arr [])) = .ok solutions ∧
      (Exercise.pick fields Exercise.acceptedSolutionsKeys = .null ∧ solutions = [] ∨
        Exercise.pick fields Exercise.acceptedSolutionsKeys = .arr (solutions.map .str)) := by
  rw [acceptedFindings] at tolerable
  split at tolerable
  · next absent => exact ⟨[], by rw [absent]; rfl, .inl ⟨absent, rfl⟩⟩
  · next present =>
      split at tolerable
      · exact absurd rfl (tolerable _ (List.mem_singleton_self _))
      · next solutions read =>
          cases picked : Exercise.pick fields Exercise.acceptedSolutionsKeys with
          | arr items =>
              rw [picked] at read
              rw [textsOf?_eq_some read]
              exact ⟨solutions, membersOf_texts solutions, .inr rfl⟩
          | _ =>
              rw [picked] at read
              cases read

/-- The names of constructs that are known. -/
theorem exists_ofName?_eq_some {name : String} (member : name ∈ Construct.named.map (·.1)) :
    ∃ construct, Construct.ofName? name = some construct := by
  rcases List.mem_map.mp member with ⟨entry, inside, same⟩
  exact Option.isSome_iff_exists.mp
    (List.lookup_isSome_iff.mpr ⟨entry, inside, by simp [same]⟩)

theorem isEmpty_eq_false_of_mem_named {name : String}
    (member : name ∈ Construct.named.map (·.1)) : name.isEmpty = false := by
  have named : ∀ name ∈ Construct.named.map (·.1), name.isEmpty = false := by decide
  exact named name member

/-- A target of a known type is read as a target of that type. -/
theorem exists_targetOf_eq_some {target : Json} {name : String}
    (typed : (target.field? "type").getD .null = .str name)
    (member : name ∈ Construct.named.map (·.1)) :
    ∃ feedback, Exercise.targetOf target = some ⟨name, feedback⟩ := by
  cases target with
  | obj fields =>
      have lookup : (Json.lookup? "type" fields).getD .null = .str name := typed
      have truthy : (Json.str name).isTruthy = true := by
        rw [Json.isTruthy, isEmpty_eq_false_of_mem_named member]
        rfl
      exact ⟨_, by simp only [Exercise.targetOf, lookup, if_pos truthy]; rfl⟩
  | _ => cases typed

theorem lookup?_getD_null (fields : List (String × Json)) (key : String) :
    (Json.lookup? key fields).getD .null = Exercise.pick fields [key] := by
  rw [Exercise.pick]
  cases Json.lookup? key fields with
  | none => rfl
  | some value => cases value <;> rfl

/-! ### The promises -/

/-- What the router may rely on for an exercise read from some fields. -/
structure Configured {α : Type} (registry : Registry α) (fields : List (String × Json))
    (exercise : Exercise) : Prop where
  typeKnown : exercise.exerciseType ∈ Exercise.knownTypes
  expected : expectedOf? fields = some exercise.expectedAnswer
  /-- The expected answer is not blank. -/
  visible : IsVisible exercise.expectedAnswer.toList
  strategy : Grading.strategyOf exercise = strategyOf fields
  strategyKnown : Grading.asksForUnknownStrategy exercise = false
  runnable : strategyOf fields = .execution → Grading.hasExecutionInputs exercise = true
  language : exercise.language = Exercise.pick fields ["language"]
  registered : exercise.language.isTruthy = true →
    ∃ entry, registry.get exercise.language = .ok (some entry)
  /-- A target that the record has is one that is looked for. -/
  target : Exercise.pick fields Exercise.targetConstructKeys ≠ .null →
    ∃ target construct, exercise.targetConstruct = some target ∧
      Construct.ofName? target.name = some construct
  /-- The accepted solutions are those that the record lists. -/
  solutions :
    Exercise.pick fields Exercise.acceptedSolutionsKeys = .null ∧
        exercise.acceptedSolutions = [] ∨
      Exercise.pick fields Exercise.acceptedSolutionsKeys =
        .arr (exercise.acceptedSolutions.map .str)

/-- A configured exercise is graded by the strategy the audit took it to be graded by, and no word is
said about its configuration. -/
theorem Configured.planOf_eq {α : Type} {registry : Registry α} {fields : List (String × Json)}
    {exercise : Exercise} (configured : Configured registry fields exercise) :
    Grading.planOf exercise = (strategyOf fields, []) := by
  rw [Grading.planOf, configured.strategyKnown, configured.strategy]
  by_cases runs : strategyOf fields = .execution
  · simp [configured.runnable runs, runs]
  · simp [runs]

section Reading

variable {fields : List (String × Json)} {exerciseType : String}
  (typed : Exercise.orElse (Exercise.pick fields Exercise.exerciseTypeKeys) (.str "write") =
    .str exerciseType)

include typed

theorem strategyOf_eq {exercise : Exercise} (sameType : exercise.exerciseType = exerciseType)
    (sameStrategy : exercise.gradingStrategy = Exercise.pick fields Exercise.gradingStrategyKeys)
    (sameVerification : exercise.verifyByExecution =
      (Exercise.pick fields Exercise.verifyByExecutionKeys).isTruthy) :
    Grading.strategyOf exercise = strategyOf fields := by
  have predicts := isOneOf_predict_iff typed
  simp only [Grading.strategyOf, strategyOf, Grading.Strategy.byDefault, sameType, sameStrategy,
    sameVerification, Bool.or_eq_true, decide_eq_true_eq, predicts]

/-- An exercise that is run has something to run. -/
theorem hasExecutionInputs_of_tolerable {exercise : Exercise}
    (sameType : exercise.exerciseType = exerciseType)
    (sameCode : exercise.code = Exercise.pick fields ["code"])
    (sameScript : exercise.verificationScript =
      Exercise.pick fields Exercise.verificationScriptKeys)
    (sameVerification : exercise.verifyByExecution =
      (Exercise.pick fields Exercise.verifyByExecutionKeys).isTruthy)
    (tolerable : Tolerable (executionFindings fields)) (runs : strategyOf fields = .execution) :
    Grading.hasExecutionInputs exercise = true := by
  simp only [executionFindings, tolerable_append, tolerable_findingIf, runs, lookup?_getD_null]
    at tolerable
  rcases tolerable with ⟨⟨-, withCode⟩, withScript⟩
  simp only [Grading.hasExecutionInputs, sameType, sameCode, sameScript, sameVerification]
  by_cases predicts : exerciseType = "predict"
  · rw [if_pos predicts]
    simpa [(isOneOf_predict_iff typed).mpr predicts] using withCode
  · rw [if_neg predicts]
    have noPrediction : isOneOf ["predict"] (Exercise.pick fields Exercise.exerciseTypeKeys) =
        false := by
      simpa using mt (isOneOf_predict_iff typed).mp predicts
    simp only [noPrediction] at withScript
    cases script : (Exercise.pick fields Exercise.verificationScriptKeys).isTruthy with
    | true => rfl
    | false => simpa [script] using withScript

end Reading

/-- A strategy that is named at all is a known one. -/
theorem asksForUnknownStrategy_of_tolerable {fields : List (String × Json)} {exercise : Exercise}
    (same : exercise.gradingStrategy = Exercise.pick fields Exercise.gradingStrategyKeys)
    (tolerable : Tolerable (strategyFindings fields)) :
    Grading.asksForUnknownStrategy exercise = false := by
  rw [strategyFindings, tolerable_findingIf] at tolerable
  rw [Grading.asksForUnknownStrategy, same]
  cases picked : Exercise.pick fields Exercise.gradingStrategyKeys with
  | null => rfl
  | _ =>
      rw [picked] at tolerable
      simp only [Json.isNull, Bool.not_false, Bool.true_and] at tolerable
      rw [tolerable, Bool.false_and]

/-- A record without faults of configuration is a configured exercise. -/
theorem configured_of_isSound {α : Type} (entry : α) {fields : List (String × Json)}
    (sound : IsSound (fieldIssues
      (fun name => ((Registry.pythonOnly entry).find? name).isSome) .null fields)) :
    ∃ exercise, Exercise.ofFields fields = .ok exercise ∧
      Configured (Registry.pythonOnly entry) fields exercise := by
  rcases tolerable_of_isSound sound with
    ⟨expected, type, strategy, language, target, execution, accepted⟩
  rcases Option.isSome_iff_exists.mp expected with ⟨answer, answerFound⟩
  have visible := (isVisible_of_expectedOf? answerFound).2
  have answerText := text_of_expectedOf? answerFound
  rcases exists_solutions accepted with ⟨solutions, read, listed⟩
  obtain ⟨exerciseType, known, typed⟩ : ∃ exerciseType ∈ Exercise.knownTypes,
      Exercise.orElse (Exercise.pick fields Exercise.exerciseTypeKeys) (.str "write") =
        .str exerciseType := by
    rw [typeFindings, tolerable_findingIf, Bool.not_eq_false'] at type
    exact isOneOf_iff.mp type
  refine ⟨_, by rw [Exercise.ofFields, read]; rfl, ?_⟩
  exact
    { typeKnown := by
        rw [typed]
        exact known
      expected := by
        rw [answerText]
        exact answerFound
      visible := by
        rw [answerText]
        exact visible
      strategy := strategyOf_eq typed (congrArg Json.text typed) rfl rfl
      strategyKnown := asksForUnknownStrategy_of_tolerable rfl strategy
      runnable := hasExecutionInputs_of_tolerable typed (congrArg Json.text typed) rfl rfl rfl
        execution
      language := rfl
      registered := by
        intro truthy
        rw [languageFindings, tolerable_findingIf, languageOf, Exercise.orElse, if_pos truthy,
          truthy, Bool.true_and, Bool.not_eq_false'] at language
        exact ⟨entry, Registry.get_pythonOnly language⟩
      target := by
        intro present
        rw [targetFindings, tolerable_findingIf] at target
        have isOne : isOneOf (Construct.named.map (·.1))
            (((Exercise.pick fields Exercise.targetConstructKeys).field? "type").getD .null) =
            true := by
          cases picked : Exercise.pick fields Exercise.targetConstructKeys with
          | null => exact absurd picked present
          | _ => simpa [picked, Json.isNull] using target
        rcases isOneOf_iff.mp isOne with ⟨name, member, same⟩
        rcases exists_targetOf_eq_some same member with ⟨feedback, read⟩
        rcases exists_ofName?_eq_some member with ⟨construct, found⟩
        exact ⟨⟨name, feedback⟩, construct, read, found⟩
      solutions := listed }

/-- A language without findings is the one whose snippets are parsed. -/
theorem isParsedLanguage_of_tolerable {α : Type} {entry : α} {fields : List (String × Json)}
    (tolerable : Tolerable (languageFindings
      (fun name => ((Registry.pythonOnly entry).find? name).isSome) (languageOf fields .null))) :
    isParsedLanguage (languageOf fields .null) = true := by
  rw [languageFindings, tolerable_findingIf] at tolerable
  rw [isParsedLanguage, Exercise.orElse]
  split
  · next truthy =>
      rw [truthy, Bool.true_and, Bool.not_eq_false', Registry.find?_pythonOnly] at tolerable
      split at tolerable
      · next same => exact beq_iff_eq.mpr same
      · cases tolerable
  · exact beq_iff_eq.mpr Registry.keyOf_python

/-- A record without any issue expects a program that can be parsed if trees are compared. -/
theorem exists_parse_of_eq_nil {α : Type} {entry : α} {fields : List (String × Json)}
    (clean : fieldIssues (fun name => ((Registry.pythonOnly entry).find? name).isSome) .null
      fields = []) (byTrees : strategyOf fields = .ast) {expected : String}
    (found : expectedOf? fields = some expected) :
    ∃ tree, Snippet.Tree.parse? .auto expected = some tree := by
  have sound : IsSound (fieldIssues
      (fun name => ((Registry.pythonOnly entry).find? name).isSome) .null fields) := by
    rw [clean]
    exact nofun
  have language := isParsedLanguage_of_tolerable (tolerable_of_isSound sound).2.2.2.1
  simp only [fieldIssues, List.map_eq_nil_iff, List.append_eq_nil_iff] at clean
  have unfound := clean.2
  rw [parseFindings, found] at unfound
  rw [← Option.isSome_iff_exists, Option.isSome_iff_ne_none]
  simpa [findingIf, byTrees, language, parses] using unfound

/-- A record without faults of configuration is an exercise, and a configured one. -/
theorem exists_configured {α : Type} (entry : α) (record : Json)
    (sound : IsSound (issuesOf
      (fun name => ((Registry.pythonOnly entry).find? name).isSome) .null record)) :
    ∃ fields exercise, record = .obj fields ∧ Exercise.ofRecord record = .ok exercise ∧
      Configured (Registry.pythonOnly entry) fields exercise ∧
      Grading.planOf exercise = (strategyOf fields, []) := by
  cases record with
  | obj fields =>
      rcases configured_of_isSound entry sound with ⟨exercise, read, configured⟩
      exact ⟨fields, exercise, rfl, read, configured, configured.planOf_eq⟩
  | _ => exact absurd rfl (sound _ (List.mem_singleton_self _))

/-- A record that leaves little to chance: a prediction in both spellings of keys, with a language
that is not written the way it is registered. -/
def prediction : Json :=
  .obj [("type", .str "predict"), ("expectedAnswer", .str "1"), ("code", .str "print(1)"),
    ("language", .str " Python "), ("accepted_solutions", .arr [.str "1.0"]),
    ("targetConstruct", .obj [("type", .str "zip")])]

theorem exists_configured_prediction :
    IsSound (issuesOf (fun name => ((Registry.pythonOnly ()).find? name).isSome) .null prediction) ∧
      ∃ fields exercise, prediction = .obj fields ∧ Exercise.ofRecord prediction = .ok exercise ∧
        Configured (Registry.pythonOnly ()) fields exercise ∧
        Grading.planOf exercise = (strategyOf fields, []) :=
  ⟨by decide +kernel, exists_configured () prediction (by decide +kernel)⟩

end Audit
end AnswerKey
