import AnswerKey.Exercise.Report

/-!
The program.  It checks the files of exercise records that it is given, prints what is wrong with them,
and says by its exit code whether anything is.
-/

open AnswerKey

/-- The fault that a file could not be opened for. -/
def fileFaultOf : IO.Error → Report.FileFault
  | .permissionDenied _ _ _ => .permissionDenied
  | .inappropriateType _ code _ => if code = 20 then .notADirectory else .isADirectory
  | .invalidArgument _ code _ => if code = 36 then .nameTooLong else .noSuchFile
  | _ => .noSuchFile

/-- Read a file, or know why it could not be read. -/
def readFile (path : String) : IO (String × Except Report.FileFault ByteArray) := do
  match ← (IO.FS.readBinFile path).toBaseIO with
  | .ok bytes => return (path, .ok bytes)
  | .error fault => return (path, .error (fileFaultOf fault))

/-- Every word of the command line may be the name of a file, so all of them are tried beforehand. -/
def main (arguments : List String) : IO UInt32 := do
  let contents ← arguments.mapM readFile
  let files : Report.Files := fun path => (contents.lookup path).getD (.error .noSuchFile)
  let outcome := Report.run files arguments
  IO.print outcome.output
  IO.eprint outcome.faults
  match outcome.ending with
  | .exit code => return code.toUInt32
  | .abort reason =>
      IO.eprintln ("cannot go on: " ++ reason.description)
      return 1
