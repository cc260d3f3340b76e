import AnswerKey.Answer.Normal
import AnswerKey.Grading.Strategy
import AnswerKey.Registry
import AnswerKey.Snippet.Parse

namespace AnswerKey
namespace Audit

/-!
Audits of exercise records: faults of configuration, which are errors, and signs of careless
authoring, which are warnings.  A record is audited as it was written, before it is turned into an
exercise.
-/

open Text

inductive Severity where
  | error
  | warning
  deriving DecidableEq, Repr

def Severity.name : Severity → String
  | error => "error"
  | warning => "warning"

structure Issue where
  severity : Severity
  message : String
  slug : Option String
  field : Option String
  deriving DecidableEq, Repr

/-! ### Slugs -/

def isSlugCharacter (c : Char) : Bool :=
  ('a' ≤ c && c ≤ 'z') || isAsciiDigit c

/-- Runs of small letters and digits with single hyphens between them.  One line feed may follow. -/
def isSlug (text : String) : Bool :=
  let body :=
    match text.toList.reverse with
    | '\n' :: rest => rest.reverse
    | _ => text.toList
  (splitAt '-' body).all fun run => !run.isEmpty && run.all isSlugCharacter

/-! ### One record -/

/-- Whether a text can be read as a module or as an expression. -/
def parses (source : String) : Bool :=
  (Snippet.Tree.parse? .auto source).isSome

/-- Whether a value is an array of texts, and which. -/
def textsOf? : Json → Option (List String)
  | .arr items => items.mapM fun item =>
      match item with
      | .str text => some text
      | _ => none
  | _ => none

/-- Whether a value is one of some texts. -/
def isOneOf (names : List String) : Json → Bool
  | .str text => names.contains text
  | _ => false

/-- An issue without its slug: severity, message and field. -/
abbrev Finding := Severity × String × String

def findingIf (condition : Bool) (severity : Severity) (message field : String) : List Finding :=
  if condition then [(severity, message, field)] else []

/-- The expected answer of a record: a text that is not blank. -/
def expectedOf? (fields : List (String × Json)) : Option String :=
  match Exercise.pick fields Exercise.expectedAnswerKeys with
  | .str text => if (trim text.toList).isEmpty then none else some text
  | _ => none

/-- The strategy by which a record will be graded. -/
def strategyOf (fields : List (String × Json)) : Grading.Strategy :=
  let byExecution := (Exercise.pick fields Exercise.verifyByExecutionKeys).isTruthy
  let isPrediction := isOneOf ["predict"] (Exercise.pick fields Exercise.exerciseTypeKeys)
  (Grading.Strategy.ofJson? (Exercise.pick fields Exercise.gradingStrategyKeys)).getD
    (if isPrediction || byExecution then .execution else .ast)

/-- The language of a record. -/
def languageOf (fields : List (String × Json)) (default : Json) : Json :=
  Exercise.orElse (Exercise.pick fields ["language"]) default

def slugFindings (slug : Option String) : List Finding :=
  match slug with
  | some text => findingIf (!isSlug text) .error "slug must be kebab-case" "slug"
  | none => []

def typeFindings (fields : List (String × Json)) : List Finding :=
  let exerciseType := Exercise.orElse (Exercise.pick fields Exercise.exerciseTypeKeys) (.str "write")
  findingIf (!isOneOf Exercise.knownTypes exerciseType) .error
    ("unknown exercise_type '" ++ exerciseType.text ++ "'") "exercise_type"

def strategyFindings (fields : List (String × Json)) : List Finding :=
  let strategy := Exercise.pick fields Exercise.gradingStrategyKeys
  findingIf (!strategy.isNull && (Grading.Strategy.ofJson? strategy).isNone) .error
    ("unknown grading_strategy '" ++ strategy.text ++ "'") "grading_strategy"

def languageFindings (isRegistered : String → Bool) (language : Json) : List Finding :=
  findingIf (language.isTruthy && !isRegistered language.text) .error
    ("no runtime registered for language '" ++ language.text ++ "'") "language"

def targetFindings (fields : List (String × Json)) : List Finding :=
  let target := Exercise.pick fields Exercise.targetConstructKeys
  let name := (target.field? "type").getD .null
  findingIf (!target.isNull && !isOneOf (Construct.named.map (·.1)) name) .error
    ("unknown target_construct type '" ++ name.text ++ "'") "target_construct"

def executionFindings (fields : List (String × Json)) : List Finding :=
  let runs := strategyOf fields == .execution
  let script := (Exercise.pick fields Exercise.verificationScriptKeys).isTruthy
  let byExecution := (Exercise.pick fields Exercise.verifyByExecutionKeys).isTruthy
  let isPrediction := isOneOf ["predict"] (Exercise.pick fields Exercise.exerciseTypeKeys)
  let code := ((Json.lookup? "code" fields).getD .null).isTruthy
  findingIf (script && !runs) .error
      "verification_script requires grading_strategy 'execution'" "verification_script" ++
    findingIf (runs && isPrediction && !code) .error
      "execution strategy on a predict exercise requires code" "code" ++
    findingIf (runs && !isPrediction && !script && !byExecution) .error
      "execution strategy requires verification_script or verify_by_execution" "grading_strategy"

def acceptedFindings (fields : List (String × Json)) : List Finding :=
  match Exercise.pick fields Exercise.acceptedSolutionsKeys with
  | .null => []
  | accepted =>
      match textsOf? accepted with
      | none =>
          [(.error, "accepted_solutions must be a list of strings", "accepted_solutions")]
      | some solutions =>
          match expectedOf? fields with
          | none => []
          | some expected =>
              (solutions.filter fun text => Answer.code text == Answer.code expected).map fun text =>
                (.warning,
                  "accepted solution duplicates expected_answer: " ++ Quoted.encode text,
                  "accepted_solutions")

/-- Whether a language is the one whose snippets can be parsed. -/
def isParsedLanguage (language : Json) : Bool :=
  lower (trimString (Exercise.orElse language (.str "python")).text) == "python"

def parseFindings (fields : List (String × Json)) (language : Json) : List Finding :=
  match expectedOf? fields with
  | none => []
  | some expected =>
      findingIf
        (strategyOf fields == .ast && isParsedLanguage language && !parses expected) .warning
        "expected_answer does not parse as Python; use 'token' or 'exact'" "expected_answer"

/-- All issues of the fields of a record, in the order in which they are looked for. -/
def fieldIssues (isRegistered : String → Bool) (defaultLanguage : Json)
    (fields : List (String × Json)) : List Issue :=
  let slug :=
    match Json.lookup? "slug" fields with
    | none => none
    | some value => if value.isNull then none else some value.text
  let language := languageOf fields defaultLanguage
  let findings :=
    slugFindings slug ++
      findingIf (expectedOf? fields).isNone .error "expected_answer is required"
        "expected_answer" ++
      typeFindings fields ++ strategyFindings fields ++ languageFindings isRegistered language ++
      targetFindings fields ++ executionFindings fields ++ acceptedFindings fields ++
      parseFindings fields language
  findings.map fun (severity, message, field) => ⟨severity, message, slug, some field⟩

/-- All issues of a record. -/
def issuesOf (isRegistered : String → Bool) (defaultLanguage record : Json) : List Issue :=
  match record with
  | .obj fields => fieldIssues isRegistered defaultLanguage fields
  | _ => [⟨.error, "exercise must be an object", none, none⟩]

/-! ### Many records -/

/-- The records of a payload: those of its field `exercises`, or the payload itself if it is an
array. -/
def recordsOf (payload : Json) : List Json :=
  match payload with
  | .arr items => items
  | _ =>
      match payload.field? "exercises" with
      | some (.arr items) => items
      | _ => []

/-- The text of the slug of a record that has one. -/
def slugOf? (record : Json) : Option String :=
  match record.field? "slug" with
  | none => none
  | some value => if value.isNull then none else some value.text

/-- All issues of some records; a slug must not be one of an earlier record. -/
def issuesFrom (isRegistered : String → Bool) (defaultLanguage : Json) (seen : List String) :
    List Json → List Issue
  | [] => []
  | record :: rest =>
      issuesOf isRegistered defaultLanguage record ++
        match slugOf? record with
        | none => issuesFrom isRegistered defaultLanguage seen rest
        | some slug =>
            (if seen.contains slug then
              [⟨.error, "duplicate slug", some slug, some "slug"⟩] else []) ++
              issuesFrom isRegistered defaultLanguage (slug :: seen) rest

/-- All issues of a payload. -/
def issuesOfPayload (isRegistered : String → Bool) (payload : Json) : List Issue :=
  issuesFrom isRegistered ((payload.field? "language").getD .null) [] (recordsOf payload)

end Audit
end AnswerKey
