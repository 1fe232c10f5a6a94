import StackProse.CommandLine.Report

/-!
# The command line program

Reads the files that a call names and prints its report.
-/

namespace StackProse.CommandLine

/-- The variable of the environment that sets the call limit. -/
def limitVariable : String := "COGNATE_CALL_STACK_LIMIT"

/-- Reads a file as text. -/
def readText (path : String) : IO (Except AccessError String) := do
  try
    match String.fromUTF8? (← IO.FS.readBinFile path) with
    | some text => return .ok text
    | none => return .error .invalidText
  catch
    | .noFileOrDirectory _ _ _ => return .error .missing
    | .inappropriateType _ 21 _ => return .error .isDirectory
    | .inappropriateType _ _ _ => return .error .notDirectory
    | error => return .error (.other (toString error))

/-- Reads every file that a call names. -/
def readNamed (args : List String) : IO (List (String × Except AccessError String)) := do
  match Invocation.ofArguments? args with
  | none => return []
  | some invocation =>
      (invocation.file :: invocation.options.prelude.toList).mapM fun path => do
        return (path, ← readText path)

end StackProse.CommandLine

open StackProse

/-- Does what the command line says and gives the exit code. -/
def main (args : List String) : IO UInt32 := do
  let files ← CommandLine.readNamed args
  let environment ← IO.getEnv CommandLine.limitVariable
  let read (path : String) := (files.lookup path).getD (.error .missing)
  let report := Report.ofArguments read environment args
  IO.print report.output
  (← IO.getStdout).flush
  IO.eprint report.errors
  return UInt32.ofNat report.code
