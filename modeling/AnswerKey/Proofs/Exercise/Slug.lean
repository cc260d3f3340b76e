import AnswerKey.Proofs.Exercise.Configuration
import AnswerKey.Proofs.Text.Lines

namespace AnswerKey
namespace Audit

/-!
Slugs of a whole payload.

A slug is looked at twice: by itself, for the form of its text, and against the slugs of the records in
front of it.  The issues on slugs are exactly those that the texts of all slugs, in their order, call
for (`exists_slugIssue_iff`): records without a slug and values that are no records stand between them
without any effect.  The form that is demanded is kebab-case, but for one line feed at the end.
-/

open Text

/-! ### The form of a slug -/

/-- A small letter or a digit. -/
def IsKebabCharacter (c : Char) : Prop :=
  'a' ≤ c ∧ c ≤ 'z' ∨ '0' ≤ c ∧ c ≤ '9'

/-- Runs of small letters and digits, at least one and none of them empty, with single hyphens between
them. -/
def IsKebab (text : List Char) : Prop :=
  ∃ runs : List (List Char), runs ≠ [] ∧
    (∀ run ∈ runs, run ≠ [] ∧ ∀ c ∈ run, IsKebabCharacter c) ∧ text = joinWith ['-'] runs

instance (c : Char) : Decidable (IsKebabCharacter c) :=
  inferInstanceAs (Decidable (_ ∨ _))

theorem isSlugCharacter_iff {c : Char} : isSlugCharacter c = true ↔ IsKebabCharacter c := by
  simp [isSlugCharacter, isAsciiDigit, IsKebabCharacter]

theorem IsKebab.isKebabCharacter_or_eq {text : List Char} (kebab : IsKebab text) {c : Char}
    (member : c ∈ text) : IsKebabCharacter c ∨ c = '-' := by
  obtain ⟨runs, -, plain, rfl⟩ := kebab
  rcases mem_or_eq_of_mem_joinWith member with hyphen | ⟨run, inside, held⟩
  · exact .inr hyphen
  · exact .inl ((plain run inside).2 c held)

/-- The runs of a text in kebab-case are its pieces between hyphens. -/
theorem isKebab_iff_splitAt {text : List Char} :
    IsKebab text ↔
      (splitAt '-' text).all (fun run => !run.isEmpty && run.all isSlugCharacter) = true := by
  simp only [List.all_eq_true, Bool.and_eq_true, Bool.not_eq_true', List.isEmpty_eq_false_iff,
    isSlugCharacter_iff]
  constructor
  · rintro ⟨runs, filled, plain, rfl⟩
    have absent : ∀ run ∈ runs, '-' ∉ run := fun run member hyphen =>
      absurd ((plain run member).2 '-' hyphen) (by decide)
    rw [splitAt_joinWith filled absent]
    exact plain
  · intro plain
    exact ⟨splitAt '-' text, splitAt_ne_nil '-' text, plain, (joinWith_splitAt '-' text).symm⟩

/-- A slug is in kebab-case, but for one line feed that may follow. -/
theorem isSlug_iff {text : String} :
    isSlug text = true ↔
      IsKebab text.toList ∨ ∃ body, IsKebab body ∧ text.toList = body ++ ['\n'] := by
  rw [isSlug]
  split
  · next rest ends =>
      have whole : text.toList = rest.reverse ++ ['\n'] := by
        rw [← List.reverse_inj, ends, List.reverse_append, List.reverse_reverse]
        rfl
      rw [← isKebab_iff_splitAt, whole]
      constructor
      · exact fun kebab => .inr ⟨_, kebab, rfl⟩
      · rintro (kebab | ⟨body, kebab, same⟩)
        · rcases kebab.isKebabCharacter_or_eq (c := '\n') (by simp) with plain | hyphen
          · exact absurd plain (by decide)
          · cases hyphen
        · rw [List.append_cancel_right same]
          exact kebab
  · next noFeed =>
      rw [← isKebab_iff_splitAt]
      refine ⟨.inl, fun found => found.resolve_right ?_⟩
      rintro ⟨body, -, same⟩
      exact noFeed body.reverse (by rw [same, List.reverse_append]; rfl)

/-! ### Issues on slugs -/

/-- The texts of the slugs of some records, in their order. -/
def slugsOf (records : List Json) : List String :=
  records.filterMap slugOf?

/-- The issue of a slug that is not as it should be. -/
def formIssue (slug : String) : Issue :=
  ⟨.error, "slug must be kebab-case", some slug, some "slug"⟩

/-- The issue of a slug that an earlier record has. -/
def repetitionIssue (slug : String) : Issue :=
  ⟨.error, "duplicate slug", some slug, some "slug"⟩

/-- Whether an issue says that an earlier record has a slug. -/
def reportsRepetition (slug : String) (issue : Issue) : Bool :=
  issue.message == "duplicate slug" && issue.slug == some slug

/-- The findings of a record on everything but its slug. -/
def bodyFindings (isRegistered : String → Bool) (default : Json) (fields : List (String × Json)) :
    List Finding :=
  findingIf (expectedOf? fields).isNone .error "expected_answer is required" "expected_answer" ++
    typeFindings fields ++ strategyFindings fields ++
    languageFindings isRegistered (languageOf fields default) ++ targetFindings fields ++
    executionFindings fields ++ acceptedFindings fields ++
    parseFindings fields (languageOf fields default)

section Issues

variable {isRegistered : String → Bool} {default : Json} {fields : List (String × Json)}

theorem fieldIssues_eq :
    fieldIssues isRegistered default fields =
      (slugFindings (slugOf? (.obj fields)) ++ bodyFindings isRegistered default fields).map
        fun finding => ⟨finding.1, finding.2.1, slugOf? (.obj fields), some finding.2.2⟩ := by
  simp only [bodyFindings, ← List.append_assoc]
  rfl

/-- A text that starts in another way is another text. -/
theorem append_ne_of_head {first rest other : String}
    (different : first.toList.head?.any (other.toList.head? ≠ some ·) = true) :
    first ++ rest ≠ other := by
  rintro rfl
  rw [String.toList_append] at different
  cases letters : first.toList with
  | nil => simp [letters] at different
  | cons c more => simp [letters] at different

/-- A finding on anything but the slug is about another field, and does not speak of repetition. -/
theorem apart_of_mem_bodyFindings {finding : Finding}
    (member : finding ∈ bodyFindings isRegistered default fields) :
    finding.2.2 ≠ "slug" ∧ finding.2.1 ≠ "duplicate slug" := by
  simp only [bodyFindings, List.mem_append, typeFindings, strategyFindings, languageFindings,
    targetFindings, executionFindings, mem_findingIf] at member
  have quoting {first text rest : String}
      (different : first.toList.head?.any ("duplicate slug".toList.head? ≠ some ·) = true) :
      first ++ text ++ rest ≠ "duplicate slug" := by
    rw [String.append_assoc]
    exact append_ne_of_head different
  have apart {severity : Severity} {message field : String}
      (same : finding = (severity, message, field)) (elsewhere : field ≠ "slug")
      (other : message ≠ "duplicate slug") :
      finding.2.2 ≠ "slug" ∧ finding.2.1 ≠ "duplicate slug" := by
    rw [same]
    exact ⟨elsewhere, other⟩
  rcases member with ((((((⟨-, same⟩ | ⟨-, same⟩) | ⟨-, same⟩) | ⟨-, same⟩) | ⟨-, same⟩) |
    ((⟨-, same⟩ | ⟨-, same⟩) | ⟨-, same⟩)) | accepted) | unparsed
  · exact apart same (by decide) (by decide)
  · exact apart same (by decide) (quoting (by decide))
  · exact apart same (by decide) (quoting (by decide))
  · exact apart same (by decide) (quoting (by decide))
  · exact apart same (by decide) (quoting (by decide))
  · exact apart same (by decide) (by decide)
  · exact apart same (by decide) (by decide)
  · exact apart same (by decide) (by decide)
  · rw [acceptedFindings] at accepted
    split at accepted
    · cases accepted
    · split at accepted
      · exact apart (List.mem_singleton.mp accepted) (by decide) (by decide)
      · split at accepted
        · cases accepted
        · obtain ⟨text, -, same⟩ := List.mem_map.mp accepted
          exact apart same.symm (by decide) (append_ne_of_head (by decide))
  · rw [parseFindings] at unparsed
    split at unparsed
    · cases unparsed
    · exact apart (mem_findingIf.mp unparsed).2 (by decide) (by decide)

/-- The only issue of a record on its slug is one of form. -/
theorem mem_issuesOf_slug_iff {record : Json} {issue : Issue} :
    issue ∈ issuesOf isRegistered default record ∧ issue.field = some "slug" ↔
      ∃ slug, slugOf? record = some slug ∧ isSlug slug = false ∧ issue = formIssue slug := by
  cases record with
  | obj fields =>
      rw [issuesOf, fieldIssues_eq, List.map_append, List.mem_append]
      constructor
      · rintro ⟨found | found, onSlug⟩
        · obtain ⟨finding, member, rfl⟩ := List.mem_map.mp found
          obtain ⟨⟨slug, has, bad⟩, rfl⟩ := mem_slugFindings.mp member
          exact ⟨slug, has, bad, by rw [has]; rfl⟩
        · obtain ⟨finding, member, rfl⟩ := List.mem_map.mp found
          exact absurd (Option.some.inj onSlug) (apart_of_mem_bodyFindings member).1
      · rintro ⟨slug, has, bad, rfl⟩
        refine ⟨.inl (List.mem_map.mpr ⟨_, mem_slugFindings.mpr ⟨⟨slug, has, bad⟩, rfl⟩, ?_⟩), rfl⟩
        rw [has]
        rfl
  | _ =>
      constructor
      · rintro ⟨member, onSlug⟩
        rw [issuesOf, List.mem_singleton] at member
        · rw [member] at onSlug
          cases onSlug
        · nofun
      · rintro ⟨slug, has, -⟩
        cases has

/-- A record by itself is never said to repeat a slug. -/
theorem not_reportsRepetition_of_mem {record : Json} {issue : Issue}
    (member : issue ∈ issuesOf isRegistered default record) (slug : String) :
    reportsRepetition slug issue = false := by
  have message : issue.message ≠ "duplicate slug" := by
    cases record with
    | obj fields =>
        rw [issuesOf, fieldIssues_eq] at member
        obtain ⟨finding, found, rfl⟩ := List.mem_map.mp member
        rcases List.mem_append.mp found with form | body
        · rw [(mem_slugFindings.mp form).2]
          exact (by decide : "slug must be kebab-case" ≠ "duplicate slug")
        · exact (apart_of_mem_bodyFindings body).2
    | _ =>
        rw [issuesOf, List.mem_singleton] at member
        · rw [member]
          decide
        · nofun
  simp [reportsRepetition, message]

/-- The issues of a record that has a slug in front of others. -/
theorem issuesFrom_cons_some {record : Json} {slug : String} (has : slugOf? record = some slug)
    (seen : List String) (rest : List Json) :
    issuesFrom isRegistered default seen (record :: rest) =
      issuesOf isRegistered default record ++
        ((if seen.contains slug then [repetitionIssue slug] else []) ++
          issuesFrom isRegistered default (slug :: seen) rest) := by
  rw [issuesFrom, has]
  rfl

theorem issuesFrom_cons_none {record : Json} (has : slugOf? record = none) (seen : List String)
    (rest : List Json) :
    issuesFrom isRegistered default seen (record :: rest) =
      issuesOf isRegistered default record ++ issuesFrom isRegistered default seen rest := by
  rw [issuesFrom, has]

/-- A place in a list is its front or one behind it. -/
theorem exists_eq_append_cons_iff {α : Type} {first : α} {rest : List α}
    {holds : List α → α → Prop} :
    (∃ earlier here later, first :: rest = earlier ++ here :: later ∧ holds earlier here) ↔
      holds [] first ∨
        ∃ earlier here later, rest = earlier ++ here :: later ∧ holds (first :: earlier) here := by
  constructor
  · rintro ⟨_ | ⟨front, earlier⟩, here, later, same, held⟩
    · obtain ⟨rfl, -⟩ := List.cons.inj same
      exact .inl held
    · obtain ⟨rfl, behind⟩ := List.cons.inj same
      exact .inr ⟨earlier, here, later, behind, held⟩
  · rintro (held | ⟨earlier, here, later, rfl, held⟩)
    · exact ⟨[], first, rest, rfl, held⟩
    · exact ⟨first :: earlier, here, later, rfl, held⟩

/-- There is an issue on a slug just when one of the slugs calls for it. -/
theorem exists_issuesFrom_iff {seen : List String} {records : List Json} :
    (∃ issue ∈ issuesFrom isRegistered default seen records, issue.field = some "slug") ↔
      ∃ earlier slug later, slugsOf records = earlier ++ slug :: later ∧
        (isSlug slug = false ∨ slug ∈ earlier ∨ slug ∈ seen) := by
  induction records generalizing seen with
  | nil => simp [issuesFrom, slugsOf]
  | cons record rest ih =>
      have own := fun issue => @mem_issuesOf_slug_iff isRegistered default record issue
      cases has : slugOf? record with
      | none =>
          have same : slugsOf (record :: rest) = slugsOf rest := by simp [slugsOf, has]
          rw [issuesFrom_cons_none has, same, ← ih]
          simp only [List.mem_append, or_and_right, exists_or, own, has]
          simp
      | some slug =>
          have same : slugsOf (record :: rest) = slug :: slugsOf rest := by simp [slugsOf, has]
          rw [issuesFrom_cons_some has, same]
          have repeats : (∃ issue ∈ if seen.contains slug then [repetitionIssue slug] else [],
              issue.field = some "slug") ↔ slug ∈ seen := by
            by_cases known : slug ∈ seen <;> simp [known, repetitionIssue]
          have form : (∃ issue ∈ issuesOf isRegistered default record, issue.field = some "slug") ↔
              isSlug slug = false := by
            simp only [own, has, Option.some.injEq]
            simp
          rw [exists_eq_append_cons_iff]
          simp only [List.mem_append, or_and_right, exists_or, repeats, form, ih, List.mem_cons,
            List.not_mem_nil, false_or, or_assoc, or_left_comm]

/-- Each slug that an earlier record has is reported once. -/
theorem countP_reportsRepetition (slug : String) (seen : List String) (records : List Json) :
    (issuesFrom isRegistered default seen records).countP (reportsRepetition slug) =
      (slugsOf records).count slug - if slug ∈ seen then 0 else 1 := by
  induction records generalizing seen with
  | nil => simp [issuesFrom, slugsOf]
  | cons record rest ih =>
      have own : (issuesOf isRegistered default record).countP (reportsRepetition slug) = 0 :=
        List.countP_eq_zero.mpr fun issue member => by
          simp [not_reportsRepetition_of_mem member slug]
      cases has : slugOf? record with
      | none =>
          have same : slugsOf (record :: rest) = slugsOf rest := by simp [slugsOf, has]
          rw [issuesFrom_cons_none has, same, List.countP_append, own, ih, Nat.zero_add]
      | some other =>
          have same : slugsOf (record :: rest) = other :: slugsOf rest := by simp [slugsOf, has]
          rw [issuesFrom_cons_some has, same, List.countP_append, List.countP_append, own, ih]
          by_cases equal : other = slug
          · subst equal
            by_cases known : other ∈ seen
            · simp [known, reportsRepetition, repetitionIssue]
              omega
            · simp [known]
          · have different : slug ≠ other := fun same => equal same.symm
            by_cases known : other ∈ seen <;>
              simp [known, equal, different, reportsRepetition, repetitionIssue]

end Issues

/-! ### Payloads -/

/-- A payload whose slug ends with a line feed. -/
def brokenSlug : Json :=
  .arr [.obj [("slug", .str "abc\n"), ("expected_answer", .str "x")]]

end Audit
end AnswerKey
