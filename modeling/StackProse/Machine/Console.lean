import StackProse.Program.Problem

/-!
# The console

Everything that a program and the checks before it show: printed output, a list of errors and
remarks on the source. A console that does not record shows nothing.
-/

namespace StackProse

/-- What has been shown. -/
structure Console where
  /-- Whether anything is kept. -/
  recording : Bool := true
  /-- The printed text. -/
  output : String := ""
  /-- The style of each printed piece. -/
  styles : Array (Option Style) := #[]
  /-- The list of errors. -/
  errors : Array String := #[]
  /-- Remarks on the source. -/
  diagnostics : Array Diagnostic := #[]
  deriving Inhabited

namespace Console

/-- A console that shows nothing. -/
def silent : Console := { recording := false }

/-- A console without what has been shown so far. -/
def cleared (console : Console) : Console :=
  { recording := console.recording }

/-- Prints a piece of text, and ends the line if asked to. -/
def print (console : Console) (piece : StyledText) (newline : Bool) : Console :=
  if console.recording then
    let output := console.output ++ piece.text
    { console with
      output := if newline then output.push '\n' else output
      styles := console.styles.push piece.style }
  else console

/-- Adds an error to the list. -/
def addError (console : Console) (message : String) : Console :=
  if console.recording then { console with errors := console.errors.push message } else console

/-- Adds a remark on the source. -/
def addDiagnostic (console : Console) (diagnostic : Diagnostic) : Console :=
  if console.recording then
    { console with diagnostics := console.diagnostics.push diagnostic }
  else console

/-- Shows a problem, as an error and as a remark on the source. -/
def report (markup : Markup) (console : Console) (problem : Problem) : Console :=
  (console.addError (problem.message markup)).addDiagnostic problem.diagnostic

/-- Shows problems in order. -/
def reportAll (markup : Markup) (console : Console) (problems : List Problem) : Console :=
  problems.foldl (report markup) console

/-- Whether the list of errors has entries. -/
def hasErrors (console : Console) : Bool :=
  !console.errors.isEmpty

end Console

end StackProse
