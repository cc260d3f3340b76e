import AnswerKey.Settings

namespace AnswerKey

/-!
Variables that are refused, and settings that are usable.

A variable is refused for a reason that its value shows (`Refuses`).  When none is refused, reading the
settings gives usable ones unless a guard lets through what the reader behind it cannot use: a timeout
that is not finite, or a size in digits that make no number.  `isSettled_iff` says that nothing else can
go wrong.
-/

open Text

/-! ### Tables and spans of time -/

/-- A table is read from the characters of its text. -/
theorem Text.RangeTable.ofText_ofList (text : List Char) :
    RangeTable.ofText (.ofList text) =
      ⟨(((splitAt ' ' (text.map fun c => if c = '\n' then ' ' else c)).filter (!·.isEmpty)).map
        readBounds).toArray⟩ := by
  rw [RangeTable.ofText, entriesOf, String.toList_ofList]

namespace Decimal.Binary64

theorem not_isFinite_of_isNan {x : Binary64} (noNumber : x.isNan = true) : x.isFinite = false := by
  simp only [isNan, decide_eq_true_eq] at noNumber
  simp only [isFinite, decide_eq_false_iff_not]
  omega

end Decimal.Binary64

/-- A span of more than no time, with an end. -/
def Seconds.IsProper : Seconds → Prop
  | whole count => 0 < count
  | fractional count => count.isPositive = true ∧ count.isFinite = true

instance (span : Seconds) : Decidable span.IsProper := by
  cases span <;> rw [Seconds.IsProper] <;> infer_instance

namespace Settings

/-- Settings that can be used. -/
structure IsUsable (settings : Settings) : Prop where
  executionTimeout : settings.executionTimeout.IsProper
  startupTimeout : settings.startupTimeout.IsProper
  defaultLanguage : settings.defaultLanguage ≠ ""

/-! ### Single variables -/

/-- The variables that hold timeouts. -/
def timeoutVariables : List String := [executionTimeoutVariable, startupTimeoutVariable]

/-- Whether the value of a variable does not meet a requirement on it. -/
def Refuses (environment : Environment) (key : String) : Requirement → Prop
  | .number =>
      key ∈ timeoutVariables ∧ valueOf environment key ≠ [] ∧
        Decimal.Binary64.ofText? (valueOf environment key) = none
  | .positive =>
      key ∈ timeoutVariables ∧
        ∃ x, Decimal.Binary64.ofText? (valueOf environment key) = some x ∧ x.isPositive = false ∧
          x.isNan = false
  | .natural => key = memoryVariable ∧ ∃ c ∈ valueOf environment key, isDigit c = false
  | .language => key = languageVariable ∧ word environment key "python" = ""
  | .switch => key = telemetryVariable ∧ word environment key "1" ∉ wordsForOn ++ wordsForOff

/-- Whether the timeout in a variable has an end. -/
def IsFiniteTimeout (environment : Environment) (key : String) : Prop :=
  ∀ x, Decimal.Binary64.ofText? (valueOf environment key) = some x → x.isFinite = true

/-- Whether the characters of the size are decimal digits, and no more than are converted. -/
def IsConvertibleSize (environment : Environment) : Prop :=
  (valueOf environment memoryVariable).length ≤ Decimal.integerDigitLimit ∧
    ∀ c ∈ valueOf environment memoryVariable, (decimalValue? c).isSome = true

section Variables

variable {environment : Environment} {key : String}

theorem ofText?_nil : Decimal.Binary64.ofText? [] = none := by
  decide +kernel

/-- A timeout is refused, or read as a span that is proper if it has an end. -/
theorem timeout_cases (timed : key ∈ timeoutVariables) {default : Seconds}
    (proper : default.IsProper) :
    (∃ requirement, timeout environment key default = .error (.invalid key requirement) ∧
        Refuses environment key requirement) ∨
      ¬ Refuses environment key .number ∧ ¬ Refuses environment key .positive ∧
      ∃ span, timeout environment key default = .ok span ∧
        (span.IsProper ↔ IsFiniteTimeout environment key) := by
  cases read : Decimal.Binary64.ofText? (valueOf environment key) with
  | none =>
      by_cases blank : valueOf environment key = []
      · refine .inr ⟨fun refused => refused.2.1 blank, ?_, default, by simp [timeout, blank], ?_⟩
        · rintro ⟨-, x, found, -⟩
          rw [read] at found
          cases found
        · simp [IsFiniteTimeout, read, proper]
      · exact .inl ⟨.number, by simp [timeout, blank, read], timed, blank, read⟩
  | some x =>
      have filled : valueOf environment key ≠ [] := by
        intro blank
        rw [blank, ofText?_nil] at read
        cases read
      have noText : ¬ Refuses environment key .number := by
        rintro ⟨-, -, unread⟩
        rw [read] at unread
        cases unread
      have negative : Refuses environment key .positive → x.isPositive = false ∧ x.isNan = false := by
        rintro ⟨-, y, found, negative⟩
        obtain rfl := Option.some.inj (read.symm.trans found)
        exact negative
      by_cases above : x.isPositive = true ∨ x.isNan = true
      · refine .inr ⟨noText, fun refused => ?_, .fractional x, by simp [timeout, filled, read, above], ?_⟩
        · simp [negative refused] at above
        · rcases above with positive | noNumber
          · simp [Seconds.IsProper, IsFiniteTimeout, read, positive]
          · simp [Seconds.IsProper, IsFiniteTimeout, read,
              Decimal.Binary64.not_isFinite_of_isNan noNumber]
      · obtain ⟨below, number⟩ := not_or.mp above
        rw [Bool.not_eq_true] at below number
        exact .inl ⟨.positive, by simp [timeout, filled, read, below, number], timed, x, read, below,
          number⟩

/-- Decimal digits, and no more than are converted, make a number. -/
theorem isSome_naturalOf?_iff {digits : List Char} :
    (naturalOf? digits).isSome = true ↔
      digits.length ≤ Decimal.integerDigitLimit ∧ ∀ c ∈ digits, (decimalValue? c).isSome = true := by
  have values : (digits.mapM decimalValue?).isSome = true ↔
      ∀ c ∈ digits, (decimalValue? c).isSome = true := by
    induction digits with
    | nil => simp
    | cons c rest ih =>
        rw [List.forall_mem_cons, ← ih, List.mapM_cons]
        cases decimalValue? c with
        | none => simp
        | some value => cases rest.mapM decimalValue? <;> simp
  rw [naturalOf?]
  split
  · next long => simp [Nat.not_le.mpr long]
  · next short => simp [Nat.not_lt.mp short, values]

/-- A size is refused, or read if it can be converted. -/
theorem size_cases (environment : Environment) (default : Nat) :
    (size environment memoryVariable default = .error (.invalid memoryVariable .natural) ∧
        Refuses environment memoryVariable .natural) ∨
      ¬ Refuses environment memoryVariable .natural ∧
        (IsConvertibleSize environment → ∃ count, size environment memoryVariable default = .ok count) ∧
        (¬ IsConvertibleSize environment →
          size environment memoryVariable default = .error .unconvertible) := by
  by_cases digits : (valueOf environment memoryVariable).all isDigit = true
  · have accepted : ¬ Refuses environment memoryVariable .natural := by
      rintro ⟨-, c, member, other⟩
      rw [List.all_eq_true.mp digits c member] at other
      cases other
    refine .inr ⟨accepted, ?_⟩
    by_cases blank : valueOf environment memoryVariable = []
    · exact ⟨fun _ => ⟨default, by simp [size, blank]⟩, fun bad => absurd (by simp [IsConvertibleSize, blank]) bad⟩
    · rw [IsConvertibleSize, ← isSome_naturalOf?_iff]
      cases read : naturalOf? (valueOf environment memoryVariable) with
      | none => simp [size, blank, digits, read]
      | some count => simp [size, blank, digits, read]
  · have refused : ∃ c ∈ valueOf environment memoryVariable, isDigit c = false := by
      simpa using digits
    have filled : valueOf environment memoryVariable ≠ [] := by
      obtain ⟨c, member, -⟩ := refused
      exact List.ne_nil_of_mem member
    exact .inl ⟨by simp [size, filled, digits], rfl, refused⟩

end Variables

/-! ### All variables -/

/-- Whether reading the settings ends as it should: with usable settings, or with a fault that names a
variable whose value is refused. -/
def IsSettled (environment : Environment) : Prop :=
  (∃ settings, load environment = .ok settings ∧ settings.IsUsable) ∨
    ∃ key requirement, load environment = .error (.invalid key requirement) ∧
      Refuses environment key requirement ∧
      key.toList <+: (Fault.invalid key requirement).message.toList

theorem key_prefix_message (key : String) (requirement : Requirement) :
    key.toList <+: (Fault.invalid key requirement).message.toList := by
  rw [Fault.message, String.append_assoc, String.toList_append]
  exact List.prefix_append _ _

theorem standard_isProper : standard.executionTimeout.IsProper ∧ standard.startupTimeout.IsProper := by
  decide +kernel

/-- What is read once the two words are known. -/
theorem load_of_words {environment : Environment}
    (named : word environment languageVariable "python" ≠ "")
    (known : word environment telemetryVariable "1" ∈ wordsForOn ++ wordsForOff) :
    load environment = (do
      let executionTimeout ←
        timeout environment executionTimeoutVariable standard.executionTimeout
      let startupTimeout ← timeout environment startupTimeoutVariable standard.startupTimeout
      let memoryMegabytes ← size environment memoryVariable standard.memoryMegabytes
      pure
        { defaultLanguage := word environment languageVariable "python"
          executionTimeout
          interpreter :=
            if (valueOf environment interpreterVariable).isEmpty then none
            else some (.ofList (valueOf environment interpreterVariable))
          startupTimeout, memoryMegabytes
          telemetry := wordsForOn.contains (word environment telemetryVariable "1") }) := by
  simp [load, named, known]

/-- Settings are made of what the variables hold. -/
theorem exists_load_eq_ok {environment : Environment} {execution startup : Seconds} {count : Nat}
    (named : word environment languageVariable "python" ≠ "")
    (known : word environment telemetryVariable "1" ∈ wordsForOn ++ wordsForOff)
    (first : timeout environment executionTimeoutVariable standard.executionTimeout = .ok execution)
    (second : timeout environment startupTimeoutVariable standard.startupTimeout = .ok startup)
    (third : size environment memoryVariable standard.memoryMegabytes = .ok count) :
    ∃ settings, load environment = .ok settings ∧ settings.executionTimeout = execution ∧
      settings.startupTimeout = startup ∧ settings.defaultLanguage ≠ "" := by
  rw [load_of_words named known, first, second, third]
  exact ⟨_, rfl, rfl, rfl, named⟩

/-- Reading the settings ends as it should just when a variable is refused, or both timeouts are finite
and the size can be converted. -/
theorem isSettled_iff (environment : Environment) :
    IsSettled environment ↔
      (∃ key requirement, Refuses environment key requirement) ∨
        (∀ key ∈ timeoutVariables, IsFiniteTimeout environment key) ∧
          IsConvertibleSize environment := by
  have refusing (key : String) (requirement : Requirement)
      (ends : load environment = .error (.invalid key requirement))
      (refused : Refuses environment key requirement) : IsSettled environment ↔
      (∃ key requirement, Refuses environment key requirement) ∨
        (∀ key ∈ timeoutVariables, IsFiniteTimeout environment key) ∧
          IsConvertibleSize environment :=
    ⟨fun _ => .inl ⟨key, requirement, refused⟩,
      fun _ => .inr ⟨key, requirement, ends, refused, key_prefix_message key requirement⟩⟩
  by_cases bare : word environment languageVariable "python" = ""
  · exact refusing _ .language (by simp [load, bare]; rfl) ⟨rfl, bare⟩
  by_cases unknown : word environment telemetryVariable "1" ∉ wordsForOn ++ wordsForOff
  · exact refusing _ .switch (by simp [load, bare, unknown]; rfl) ⟨rfl, unknown⟩
  have known := Decidable.not_not.mp unknown
  rcases @timeout_cases environment executionTimeoutVariable (by decide) _
    standard_isProper.1 with ⟨requirement, ends, refused⟩ | ⟨read, above, execution, first, finite⟩
  · exact refusing _ requirement (by rw [load_of_words bare known, ends]; rfl) refused
  rcases @timeout_cases environment startupTimeoutVariable (by decide) _
    standard_isProper.2 with ⟨requirement, ends, refused⟩ | ⟨read', above', startup, second, finite'⟩
  · exact refusing _ requirement (by rw [load_of_words bare known, first, ends]; rfl) refused
  rcases size_cases environment standard.memoryMegabytes with
    ⟨ends, refused⟩ | ⟨digits, fits, exceeds⟩
  · exact refusing _ .natural (by rw [load_of_words bare known, first, second, ends]; rfl) refused
  -- No variable is refused: what is left is up to the two conditions.
  have accepted : ¬ ∃ key requirement, Refuses environment key requirement := by
    have timed {key : String} (member : key ∈ timeoutVariables) :
        key = executionTimeoutVariable ∨ key = startupTimeoutVariable := by
      simpa [timeoutVariables] using member
    rintro ⟨key, _ | _ | _ | _ | _, refused⟩
    · obtain rfl | rfl := timed refused.1
      · exact read refused
      · exact read' refused
    · obtain rfl | rfl := timed refused.1
      · exact above refused
      · exact above' refused
    · obtain ⟨rfl, -⟩ := id refused
      exact digits refused
    · obtain ⟨rfl, empty⟩ := refused
      exact bare empty
    · obtain ⟨rfl, other⟩ := refused
      exact unknown other
  simp only [accepted, false_or, timeoutVariables, List.forall_mem_cons, ← finite, ← finite']
  by_cases convertible : IsConvertibleSize environment
  · obtain ⟨count, third⟩ := fits convertible
    obtain ⟨settings, loaded, rfl, rfl, language⟩ := exists_load_eq_ok bare known first second third
    rw [IsSettled, loaded]
    constructor
    · rintro (⟨_, ⟨⟩, usable⟩ | ⟨_, _, ⟨⟩, -⟩)
      exact ⟨⟨usable.executionTimeout, usable.startupTimeout, nofun⟩, convertible⟩
    · rintro ⟨⟨proper, proper', -⟩, -⟩
      exact .inl ⟨settings, rfl, proper, proper', language⟩
  · have loaded : load environment = .error .unconvertible := by
      rw [load_of_words bare known, first, second, exceeds convertible]
      rfl
    rw [IsSettled, loaded]
    constructor
    · rintro (⟨_, ⟨⟩, -⟩ | ⟨_, _, ⟨⟩, -⟩)
    · exact fun both => absurd both.2 convertible

/-- The environment in which a single variable is set. -/
def single (key value : String) : Environment :=
  fun name => if name = key then some value else none

set_option maxRecDepth 20000 in
/-- A superscript is a digit. -/
theorem isDigit_superscript : isDigit '²' = true := by
  have table : CharClass.digits = _ := RangeTable.ofText_ofList _
  have found : CharClass.digits.contains 0xb2 = true := by
    rw [table]
    decide +kernel
  have notAscii : isAscii '²' = false := by decide
  have code : '²'.toNat = 0xb2 := by decide
  rw [isDigit, if_neg (by simp [notAscii]), code, found]

set_option maxRecDepth 20000 in
/-- A superscript is no decimal digit. -/
theorem decimalValue?_superscript : decimalValue? '²' = none := by
  have table : CharClass.decimals = _ := RangeTable.ofText_ofList _
  have absent : CharClass.decimals.find? 0xb2 = none := by
    rw [table]
    decide +kernel
  have notAscii : isAscii '²' = false := by decide
  have code : '²'.toNat = 0xb2 := by decide
  rw [decimalValue?, if_neg (by simp [notAscii]), code, absent, Option.map_none]

/-- A size in superscripts passes for digits, and is no number. -/
theorem size_superscript :
    size (single memoryVariable "²") memoryVariable standard.memoryMegabytes =
      .error .unconvertible := by
  have value : valueOf (single memoryVariable "²") memoryVariable = ['²'] := by decide +kernel
  have digits : ['²'].all isDigit = true := by
    rw [List.all_cons, isDigit_superscript, List.all_nil, Bool.and_true]
  have noNumber : naturalOf? ['²'] = none := by
    rw [naturalOf?, if_neg (by decide), List.mapM_cons, decimalValue?_superscript]
    rfl
  rw [size, value, if_neg (by decide), if_pos digits, noNumber]

/-- A superscript is a digit that no number is made of, and infinity is above zero. -/
theorem not_isSettled_single :
    ¬ IsSettled (single memoryVariable "²") ∧ ¬ IsSettled (single executionTimeoutVariable "inf") := by
  constructor
  · have ends : load (single memoryVariable "²") = .error .unconvertible := by
      rw [load_of_words (by decide +kernel) (by decide +kernel), size_superscript]
      rfl
    rw [IsSettled, ends]
    rintro (⟨_, ⟨⟩, -⟩ | ⟨_, _, ⟨⟩, -⟩)
  · have ends : load (single executionTimeoutVariable "inf") =
        .ok { standard with executionTimeout := .fractional .infinity } := rfl
    rw [IsSettled, ends]
    rintro (⟨_, ⟨⟩, usable⟩ | ⟨_, _, ⟨⟩, -⟩)
    exact absurd usable.executionTimeout (by decide +kernel)

end Settings
end AnswerKey
