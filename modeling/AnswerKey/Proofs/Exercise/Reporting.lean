import Mathlib.Data.List.Forall2
import AnswerKey.Exercise.Report
import AnswerKey.Proofs.Json.Limits

namespace AnswerKey
namespace Report

/-!
What a report on several files says.

A file either contributes lines, in one of the ways of `Contributes`, or ends the report, in one of the
ways of `Ends`.  The report is the lines of the files in their order, up to the first file that ends it;
if there is none, the exit code says whether there was a line of an error, or of a warning that counts
as one (`check_exit_iff`).
-/

open Audit

/-! ### What a file contributes -/

/-- How a line of some severity starts. -/
def headOf : Severity → String
  | .error => "ERROR: "
  | .warning => "WARNING: "

/-- A line of a report, known by its severity. -/
structure Line where
  severity : Severity
  text : String
  headed : (headOf severity).toList <+: text.toList

/-- The line of an issue of a file. -/
def Line.ofIssue (path : String) (issue : Issue) : Line where
  severity := issue.severity
  text := issueLine path issue
  headed := by
    rw [issueLine]
    simp only [String.append_assoc]
    cases issue.severity <;>
    · rw [String.toList_append]
      exact List.prefix_append _ _

/-- A line of an error of a whole file. -/
def Line.ofFault (path message : String) : Line where
  severity := .error
  text := "ERROR: " ++ path ++ ": " ++ message
  headed := by
    rw [String.append_assoc, String.append_assoc, String.toList_append]
    exact List.prefix_append _ _

/-- Whether a value can hold records: an object or an array. -/
def holdsRecords : Json → Bool
  | .obj _ => true
  | .arr _ => true
  | _ => false

/-- The document of a file whose bytes are a text. -/
def documentOf? (bytes : ByteArray) : Option (List Char) :=
  (String.fromUTF8? bytes).map fun text => Text.unifyLineEnds text.toList

/-- The lines that a file contributes: a single one if it cannot be read, if it is no document or if the
document holds no records, and otherwise one for each issue of its records. -/
inductive Contributes (files : Files) (path : String) : List Line → Prop where
  | unreadable {fault : FileFault} (named : '\x00' ∉ path.toList) (failed : files path = .error fault) :
      Contributes files path [.ofFault path ("cannot load: " ++ fault.message path)]
  | malformed {bytes : ByteArray} {document : List Char} {fault : Json.Fault}
      (named : '\x00' ∉ path.toList) (holds : files path = .ok bytes)
      (decoded : documentOf? bytes = some document) (failed : Json.read document = .error fault)
      (placed : fault.kind.hasPlace = true) :
      Contributes files path [.ofFault path ("cannot load: " ++ fault.message document)]
  | unfit {bytes : ByteArray} {document : List Char} {payload : Json}
      (named : '\x00' ∉ path.toList) (holds : files path = .ok bytes)
      (decoded : documentOf? bytes = some document) (read : Json.read document = .ok payload)
      (other : holdsRecords payload = false) :
      Contributes files path [.ofFault path "expected an object with 'exercises' or a list"]
  | audited {bytes : ByteArray} {document : List Char} {payload : Json}
      (named : '\x00' ∉ path.toList) (holds : files path = .ok bytes)
      (decoded : documentOf? bytes = some document) (read : Json.read document = .ok payload)
      (records : holdsRecords payload = true) :
      Contributes files path
        ((issuesOfPayload (fun name => (languages.find? name).isSome) payload).map (.ofIssue path))

/-- Why a file ends the report: its path cannot be one, its bytes are no text, or its document is beyond
the limits of the reader. -/
inductive Ends (files : Files) (path : String) : Abort → Prop where
  | zeroInPath (unnamed : '\x00' ∈ path.toList) : Ends files path .zeroInPath
  | notUtf8 {bytes : ByteArray} (named : '\x00' ∉ path.toList) (holds : files path = .ok bytes)
      (undecoded : documentOf? bytes = none) : Ends files path .notUtf8
  | tooDeep {bytes : ByteArray} {document : List Char} {fault : Json.Fault} {inObject : Bool}
      (named : '\x00' ∉ path.toList) (holds : files path = .ok bytes)
      (decoded : documentOf? bytes = some document) (failed : Json.read document = .error fault)
      (kind : fault.kind = .tooDeep inObject) : Ends files path .tooDeep
  | longInteger {bytes : ByteArray} {document : List Char} {fault : Json.Fault} {digits : Nat}
      (named : '\x00' ∉ path.toList) (holds : files path = .ok bytes)
      (decoded : documentOf? bytes = some document) (failed : Json.read document = .error fault)
      (kind : fault.kind = .longInteger digits) : Ends files path .longInteger

/-- The findings that some lines make up. -/
def Findings.ofLines (lines : List Line) : Findings where
  lines := lines.map (·.text)
  errors := lines.countP (·.severity == .error)
  warnings := lines.countP (·.severity == .warning)

theorem ofIssues_eq_ofLines (path : String) (issues : List Issue) :
    ofIssues path issues = .ofLines (issues.map (.ofIssue path)) := by
  simp only [ofIssues, Findings.ofLines, List.map_map, List.countP_map]
  rfl

theorem append_ofLines (first second : List Line) :
    append (.ofLines first) (.ofLines second) = .ofLines (first ++ second) := by
  simp [append, Findings.ofLines]

section Files

variable {files : Files} {path : String}

section Named

variable {bytes : ByteArray} {document : List Char} (named : '\x00' ∉ path.toList)

include named

theorem ofFile_of_error {fault : FileFault} (failed : files path = .error fault) :
    ofFile files path = .ok (single path ("cannot load: " ++ fault.message path)) := by
  rw [ofFile, if_neg (by simpa using named), failed]

variable (holds : files path = .ok bytes)

include holds

theorem ofFile_of_undecoded (undecoded : documentOf? bytes = none) :
    ofFile files path = .error .notUtf8 := by
  rw [documentOf?, Option.map_eq_none_iff] at undecoded
  rw [ofFile, if_neg (by simpa using named), holds]
  simp only [undecoded]

variable (decoded : documentOf? bytes = some document)

include decoded

theorem ofFile_of_decoded : ofFile files path = ofDocument path document := by
  obtain ⟨text, shown, same⟩ := Option.map_eq_some_iff.mp decoded
  rw [ofFile, if_neg (by simpa using named), holds]
  simp only [shown, same]

/-- A document contributes lines, unless it is beyond the limits of the reader. -/
theorem ofDocument_cases :
    (∃ lines, Contributes files path lines ∧ ofDocument path document = .ok (.ofLines lines)) ∨
      ∃ reason, Ends files path reason ∧ ofDocument path document = .error reason := by
  rw [ofDocument]
  cases read : Json.read document with
  | error fault =>
      dsimp only
      cases placed : fault.kind.hasPlace with
      | true => exact .inl ⟨_, .malformed named holds decoded read placed, rfl⟩
      | false =>
          rcases Json.exists_limit_of_read read placed with ⟨digits, kind⟩ | ⟨inObject, kind⟩
          · rw [kind]
            exact .inr ⟨_, .longInteger named holds decoded read kind, rfl⟩
          · rw [kind]
            exact .inr ⟨_, .tooDeep named holds decoded read kind, rfl⟩
  | ok payload =>
      have audited (issues : List Issue) :
          (.ok (ofIssues path issues) : Except Abort Findings) =
            .ok (.ofLines (issues.map (.ofIssue path))) := by
        rw [ofIssues_eq_ofLines]
      cases payload with
      | obj fields => exact .inl ⟨_, .audited named holds decoded read rfl, audited _⟩
      | arr items => exact .inl ⟨_, .audited named holds decoded read rfl, audited _⟩
      | _ => exact .inl ⟨_, .unfit named holds decoded read rfl, rfl⟩

end Named

/-- A file contributes lines or ends the report, and the report of the file says so. -/
theorem ofFile_cases (files : Files) (path : String) :
    (∃ lines, Contributes files path lines ∧ ofFile files path = .ok (.ofLines lines)) ∨
      ∃ reason, Ends files path reason ∧ ofFile files path = .error reason := by
  by_cases zero : '\x00' ∈ path.toList
  · exact .inr ⟨_, .zeroInPath zero, by rw [ofFile, if_pos (by simpa using zero)]⟩
  · cases holds : files path with
    | error fault => exact .inl ⟨_, .unreadable zero holds, ofFile_of_error zero holds⟩
    | ok bytes =>
        cases decoded : documentOf? bytes with
        | none =>
            exact .inr ⟨_, .notUtf8 zero holds decoded, ofFile_of_undecoded zero holds decoded⟩
        | some document =>
            rw [ofFile_of_decoded zero holds decoded]
            exact ofDocument_cases zero holds decoded

/-- What contributes lines does not end the report. -/
theorem not_ends_of_contributes {lines : List Line} (contributes : Contributes files path lines) :
    ¬ ∃ reason, Ends files path reason := by
  rintro ⟨reason, ends⟩
  cases contributes <;> cases ends <;> simp_all [Json.FaultKind.hasPlace]

/-! ### What several files contribute -/

theorem exists_contributes_of_mem {paths : List String} {reports : List (List Line)}
    (all : List.Forall₂ (Contributes files) paths reports) (member : path ∈ paths) :
    ∃ lines, Contributes files path lines := by
  induction all with
  | nil => cases member
  | cons first _ ih =>
      rcases List.mem_cons.mp member with rfl | later
      · exact ⟨_, first⟩
      · exact ih later

/-- The report of several files goes up to the first that ends it. -/
theorem ofFiles_cases (files : Files) (paths : List String) :
    (∃ reports, List.Forall₂ (Contributes files) paths reports ∧
        ofFiles files paths = (.ofLines reports.flatten, none)) ∨
      ∃ before path after reports reason, paths = before ++ path :: after ∧
        List.Forall₂ (Contributes files) before reports ∧ Ends files path reason ∧
        ofFiles files paths = (.ofLines reports.flatten, some reason) := by
  induction paths with
  | nil => exact .inl ⟨[], .nil, rfl⟩
  | cons path rest ih =>
      rcases ofFile_cases files path with ⟨lines, contributes, same⟩ | ⟨reason, ends, same⟩
      · rcases ih with ⟨reports, all, others⟩ | ⟨before, last, after, reports, reason, rfl, all, ends, others⟩
        · refine .inl ⟨lines :: reports, .cons contributes all, ?_⟩
          rw [ofFiles, same, others]
          simp only [append_ofLines, List.flatten_cons]
        · refine .inr ⟨path :: before, last, after, lines :: reports, reason, rfl,
            .cons contributes all, ends, ?_⟩
          rw [ofFiles, same, others]
          simp only [append_ofLines, List.flatten_cons]
      · exact .inr ⟨[], path, rest, [], reason, rfl, .nil, ends, by rw [ofFiles, same]; rfl⟩

/-- A report fails when a line of it is one of an error, or, if warnings count, of a warning. -/
def Fails (strict : Bool) (lines : List Line) : Prop :=
  (∃ line ∈ lines, line.severity = .error) ∨
    strict = true ∧ ∃ line ∈ lines, line.severity = .warning

theorem isFailure_ofLines_iff {lines : List Line} {strict : Bool} :
    isFailure (.ofLines lines) strict = true ↔ Fails strict lines := by
  simp [isFailure, Findings.ofLines, Fails, List.countP_eq_zero]

/-- The closing line of a report. -/
def closingOf (lines : List Line) : String :=
  closing (.ofLines lines)

end Files

/-- A file of a single byte that starts no character, behind one that is all right. -/
def halfDecoded : Files := fun path =>
  if path = "good.json" then .ok "[]".toUTF8 else .ok ⟨#[0xff]⟩

end Report
end AnswerKey
