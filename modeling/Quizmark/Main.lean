import Quizmark.CommandLine.Run

/-!
# The program

Gives the command its arguments, the variables of the process and the file that it asks for, and
writes what it reports.
-/

namespace Quizmark

/-- The variables that settings are read from. -/
def settingNames : List String :=
  ["QSPEC2MDX_SPEC_SUFFIX", "QSPEC2MDX_SPEC_DIR", "QSPEC2MDX_EXAM_MARKERS",
    "QSPEC2MDX_SHARE_HEADING_COUNTER"]

/-- The variables of this process that settings are read from. -/
def processEnvironment : IO Environment := do
  let values ← settingNames.mapM fun name => do return (name, ← IO.getEnv name)
  return fun name => (values.lookup name).join

/-- Reads a file of the system. -/
def readSystemFile (path : String) : IO FileRead := do
  match ← (IO.FS.readBinFile path).toBaseIO with
  | .ok bytes => return .content (bytes.toList.map UInt8.toNat)
  | .error (.noFileOrDirectory ..) => return .missing
  | .error error => return .failed (toString error)

/-- The file that a command line names, as the command looks it up. -/
def namedFile (args : List String) : IO FileRead :=
  match Arguments.read args with
  | .run arguments => readSystemFile (DocPath.simplify arguments.file)
  | _ => return .missing

end Quizmark

open Quizmark in
/-- Runs the command. -/
def main (args : List String) : IO UInt32 := do
  let env ← processEnvironment
  let file ← namedFile args
  match Command.run env (fun _ => file) args with
  | .ok (.usage exit) => return exit.toUInt32
  | .ok (.done report) =>
    report.log.forM fun line => IO.eprintln line
    IO.print report.output
    return report.exit.toUInt32
  | .error error =>
    IO.eprintln error.message
    return 1
