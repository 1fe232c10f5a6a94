import StackProse.CommandLine.Invocation
import StackProse.Session.Note

/-!
# Reports

What a call of the command line prints and with which code it ends, as a function of the
arguments, the environment and the files. A run shows the output of the prelude and of the program
and then what is left on the stack. Every trouble is told on the error stream.
-/

namespace StackProse

/-- Why a file cannot be read. -/
inductive AccessError
  | missing
  | notDirectory
  | isDirectory
  | nameTooLong
  | invalidText
  | other (reason : String)
  deriving Repr, DecidableEq, Inhabited

namespace AccessError

/-- The text of the error. -/
def message : AccessError → String
  | missing => "No such file or directory (os error 2)"
  | notDirectory => "Not a directory (os error 20)"
  | isDirectory => "Is a directory (os error 21)"
  | nameTooLong => "File name too long (os error 36)"
  | invalidText => "stream did not contain valid UTF-8"
  | other reason => reason

end AccessError

/-- Why a call does not do what it should. -/
inductive Trouble
  /-- The arguments make no sense. -/
  | usage
  /-- The program file is not named as one. -/
  | extension
  | access (path : String) (error : AccessError)
  | prelude (error : PreludeError)
  /-- The program has problems. -/
  | rejected (notes : List Note) (problems : Nat)
  | failed (path message : String)
  deriving Inhabited

namespace Trouble

/-- The code with which the call ends. -/
def code : Trouble → Nat
  | usage => 2
  | _ => 1

/-- How to call. -/
def usageText : String :=
  "usage: (run | check) FILE [--prelude PATH] [--call-stack-limit N]\n"

/-- The lines of a note. -/
def noteText (note : Note) : String :=
  let place := toString note.offset ++ ".." ++ toString (note.offset + note.length)
  let line := place ++ ": " ++ note.message ++ "\n"
  match note.advice with
  | some advice => line ++ "  help: " ++ advice ++ "\n"
  | none => line

/-- What is told about a trouble. -/
def message (markup : Markup) : Trouble → String
  | usage => usageText
  | extension => "invalid file extension, only .cog files are allowed\n"
  | access path error => "Failed to access " ++ path ++ ": " ++ error.message ++ "\n"
  | prelude error => error.message markup ++ "\n"
  | rejected notes problems =>
      String.join (notes.map noteText) ++ toString problems ++
        " problem(s) found, program not run\n"
  | failed path message => "Runtime error in " ++ path ++ ": " ++ message ++ "\nprogram failed\n"

end Trouble

/-- What a call prints, and its end. -/
structure Report where
  output : String := ""
  trouble : Option Trouble := none
  deriving Inhabited

namespace Report

/-- The marks around names in messages. -/
def markup : Markup := .backquotes

/-- The code with which the call ends. -/
def code (report : Report) : Nat :=
  report.trouble.elim 0 (·.code)

/-- What is told on the error stream. -/
def errors (report : Report) : String :=
  report.trouble.elim "" (·.message markup)

end Report

namespace Invocation

/-- The parts of a path, without those that stay in place. -/
def pathParts (path : String) : List String :=
  (path.splitOn "/").filter fun part => part != "" && part != "."

/-- The ending of the name of a file: what follows the last dot, unless the name starts there. -/
def fileEnding? (path : String) : Option (List Char) :=
  match (pathParts path).getLast? with
  | none => none
  | some name =>
      if name = ".." then none
      else
        let reversed := name.toList.reverse
        match reversed.dropWhile (· != '.') with
        | _ :: _ :: _ => some (reversed.takeWhile (· != '.')).reverse
        | _ => none

/-- Ends a line that the text leaves open. -/
def closeLine (text : String) : String :=
  match text.toList.getLast? with
  | none => text
  | some c => if c = '\n' then text else text.push '\n'

/-- The notes and the number of errors of a session. -/
def rejection (session : Session) : Trouble :=
  let console := session.machine.console
  .rejected (Note.ofConsole console) console.errors.size

/-- Checks or runs a program in a session whose prelude has printed `before`. -/
def perform (invocation : Invocation) (before : String) (session : Session) (source : String) :
    Report :=
  let node := Node.ofSource source.toList
  match invocation.action with
  | .check =>
      let (clean, session) := session.check node
      { output := before, trouble := if clean then none else some (rejection session) }
  | .run =>
      let (outcome, session) := session.run node
      let machine := session.machine
      let shown := closeLine (before ++ machine.console.output)
      let shown :=
        if machine.stack.isEmpty then shown
        else shown ++ machine.heap.stackText machine.stack ++ "\n"
      { output := shown
        trouble := match outcome with
          | .completed | .stopped => none
          | .rejected => some (rejection session)
          | .failed message => some (.failed invocation.file message) }

/-- Reads a file or tells why it cannot be read. -/
def readFile (read : String → Except AccessError String) (path : String) :
    Except Trouble String :=
  match read path with
  | .ok text => .ok text
  | .error error => .error (.access path error)

/-- The call limit: from the options, else from the environment. -/
def limit (invocation : Invocation) (environment : Option String) : Nat :=
  invocation.options.limit.getD (Limit.ofSetting environment)

/-- The source and the prelude of a call. -/
def sources (invocation : Invocation) (read : String → Except AccessError String) :
    Except Trouble (String × String) :=
  if fileEnding? invocation.file = some "cog".toList then do
    let source ← readFile read invocation.file
    let prelude ← match invocation.options.prelude with
      | some path => readFile read path
      | none => .ok preludeSource
    return (source, prelude)
  else .error .extension

/-- What a call does. -/
def report (invocation : Invocation) (read : String → Except AccessError String)
    (environment : Option String) : Report :=
  match invocation.sources read with
  | .error trouble => { trouble := some trouble }
  | .ok (source, prelude) =>
      match Session.start (invocation.limit environment) Report.markup {} prelude.toList
          Pattern.engine with
      | .error (error, session) =>
          { output := session.machine.console.output, trouble := some (.prelude error) }
      | .ok session => invocation.perform session.machine.console.output session source

end Invocation

namespace Report

/-- What a command line does. Files are read by `read`; `environment` is the text that the
environment gives for the call limit. -/
def ofArguments (read : String → Except AccessError String) (environment : Option String)
    (args : List String) : Report :=
  match Invocation.ofArguments? args with
  | none => { trouble := some .usage }
  | some invocation => invocation.report read environment

end Report

end StackProse
