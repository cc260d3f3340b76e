import AnswerKey.CommandLine
import AnswerKey.Exercise.Audit
import AnswerKey.Json.Reader

namespace AnswerKey
namespace Report

/-!
Reports on files of exercise records.  Every file contributes its own lines; a file that cannot be
read as a document contributes a single one.  A closing line says that all is well.

Three faults end the report where they arise: a path or a file that cannot be decoded at all, and a
document beyond the limits of the reader.
-/

open Audit

/-- Why a file cannot be opened. -/
inductive FileFault where
  | noSuchFile
  | isADirectory
  | notADirectory
  | permissionDenied
  | nameTooLong
  deriving DecidableEq, Repr

/-- The text of a fault for the file it concerns. -/
def FileFault.message (path : String) (fault : FileFault) : String :=
  let (code, description) :=
    match fault with
    | noSuchFile => (2, "No such file or directory")
    | isADirectory => (21, "Is a directory")
    | notADirectory => (20, "Not a directory")
    | permissionDenied => (13, "Permission denied")
    | nameTooLong => (36, "File name too long")
  "[Errno " ++ toString code ++ "] " ++ description ++ ": " ++ Text.Quoted.encode path

/-- What ends a report early. -/
inductive Abort where
  | notUtf8
  | longInteger
  | tooDeep
  | zeroInPath
  deriving DecidableEq, Repr

/-- What is said about a report that ends early. -/
def Abort.description : Abort → String
  | notUtf8 => "a file is not UTF-8"
  | longInteger => "an integer has too many digits"
  | tooDeep => "a document nests too deep"
  | zeroInPath => "a path contains a zero character"

/-- How files are read. -/
abbrev Files := String → Except FileFault ByteArray

/-- What has been reported so far. -/
structure Findings where
  lines : List String
  errors : Nat
  warnings : Nat
  deriving DecidableEq, Repr

/-- The line of an issue. -/
def issueLine (path : String) (issue : Issue) : String :=
  let slug :=
    match issue.slug with
    | some slug => if slug.isEmpty then "" else " [" ++ slug ++ "]"
    | none => ""
  let field :=
    match issue.field with
    | some field => if field.isEmpty then "" else " " ++ field
    | none => ""
  let head :=
    match issue.severity with
    | .error => "ERROR: "
    | .warning => "WARNING: "
  head ++ path ++ slug ++ field ++ ": " ++ issue.message

/-- The report of a single line about a file. -/
def single (path message : String) : Findings :=
  ⟨["ERROR: " ++ path ++ ": " ++ message], 1, 0⟩

/-- The report of some issues of a file. -/
def ofIssues (path : String) (issues : List Issue) : Findings where
  lines := issues.map (issueLine path)
  errors := issues.countP (·.severity == .error)
  warnings := issues.countP (·.severity == .warning)

/-- The languages that have a runtime in the program. -/
def languages : Registry Unit :=
  Registry.empty.register "python" ()

/-- The report of the document in a file. -/
def ofDocument (path : String) (document : List Char) : Except Abort Findings :=
  match Json.read document with
  | .error fault =>
      if fault.kind.hasPlace then .ok (single path ("cannot load: " ++ fault.message document))
      else
        match fault.kind with
        | .tooDeep _ => .error .tooDeep
        | _ => .error .longInteger
  | .ok payload =>
      match payload with
      | .obj _ => .ok (ofIssues path (issuesOfPayload (fun name => (languages.find? name).isSome)
          payload))
      | .arr _ => .ok (ofIssues path (issuesOfPayload (fun name => (languages.find? name).isSome)
          payload))
      | _ => .ok (single path "expected an object with 'exercises' or a list")

/-- The report of a file. -/
def ofFile (files : Files) (path : String) : Except Abort Findings :=
  if path.toList.contains '\x00' then .error .zeroInPath
  else
    match files path with
    | .error fault => .ok (single path ("cannot load: " ++ fault.message path))
    | .ok bytes =>
        match String.fromUTF8? bytes with
        | none => .error .notUtf8
        | some text => ofDocument path (Text.unifyLineEnds text.toList)

/-- One report behind another. -/
def append (first second : Findings) : Findings :=
  ⟨first.lines ++ second.lines, first.errors + second.errors, first.warnings + second.warnings⟩

/-- The report of some files, and what ended it early. -/
def ofFiles (files : Files) : List String → Findings × Option Abort
  | [] => (⟨[], 0, 0⟩, none)
  | path :: rest =>
      match ofFile files path with
      | .error abort => (⟨[], 0, 0⟩, some abort)
      | .ok report =>
          let (others, abort) := ofFiles files rest
          (append report others, abort)

/-- Whether a report is one of failure. -/
def isFailure (report : Findings) (strict : Bool) : Bool :=
  report.errors ≠ 0 || (strict && report.warnings ≠ 0)

/-- The closing line of a report without failures. -/
def closing (report : Findings) : String :=
  if report.warnings = 0 then "OK" else "OK (" ++ toString report.warnings ++ " warnings)"

/-- How the program ends. -/
inductive Ending where
  | exit (code : Nat)
  | abort (reason : Abort)
  deriving DecidableEq, Repr

structure Outcome where
  output : String
  faults : String
  ending : Ending
  deriving DecidableEq, Repr

/-- Lines as a text, each with its line feed. -/
def textOf (lines : List String) : String :=
  String.join (lines.map (· ++ "\n"))

/-- The outcome of checking some files. -/
def check (files : Files) (paths : List String) (strict : Bool) : Outcome :=
  match ofFiles files paths with
  | (report, some reason) => ⟨textOf report.lines, "", .abort reason⟩
  | (report, none) =>
      if isFailure report strict then ⟨textOf report.lines, "", .exit 1⟩
      else ⟨textOf (report.lines ++ [closing report]), "", .exit 0⟩

/-- The outcome of the program for a command line. -/
def run (files : Files) (arguments : List String) : Outcome :=
  match CommandLine.parse arguments with
  | .error fault => ⟨"", CommandLine.faultText fault, .exit 2⟩
  | .ok .help => ⟨CommandLine.help, "", .exit 0⟩
  | .ok (.check paths strict) => check files paths strict

end Report
end AnswerKey
