import StackProse.Machine.Evaluate
import StackProse.Program.Assembly
import StackProse.Program.References
import StackProse.Session.Limit
import StackProse.Session.Prelude

/-!
# Sessions

A session runs programs one after the other on one machine. Its prelude is run first; programs
see what the prelude declares. A program with problems is refused and changes nothing but the
console. Before a program runs, the frames that earlier programs left are emptied.
-/

namespace StackProse

/-- Why a prelude cannot be used. -/
inductive PreludeError
  /-- The prelude has problems. -/
  | parse
  /-- The prelude uses words that nothing declares. -/
  | undefined (names : List String)
  /-- The prelude fails. -/
  | execute (fault : Fault)
  /-- The prelude ends the run. -/
  | stopped
  deriving Inhabited

namespace PreludeError

/-- The text of the error. -/
def message (markup : Markup) : PreludeError → String
  | parse => "failed to parse prelude"
  | undefined names => "prelude refers to undefined symbols: " ++ ", ".intercalate names
  | execute fault => "failed to execute prelude: " ++ fault.message markup
  | stopped => "prelude called Stop"

end PreludeError

/-- How a run of a program ends. -/
inductive Outcome
  | completed
  | stopped
  /-- The program has problems and was not run. -/
  | rejected
  | failed (message : String)
  deriving Repr, DecidableEq, Inhabited

namespace Outcome

/-- The name of an outcome. -/
def name : Outcome → String
  | completed => "completed"
  | stopped => "stopped"
  | rejected => "rejected"
  | failed _ => "failed"

/-- Whether a program ran as it should. -/
def isOk : Outcome → Bool
  | completed | stopped => true
  | rejected | failed _ => false

/-- The error that an outcome is, empty if it is none. -/
def error : Outcome → String
  | completed | stopped => ""
  | rejected => "error during parsing"
  | failed message => message

end Outcome

/-- A machine with its settings and its prelude. -/
structure Session where
  limit : Nat := Limit.default
  markup : Markup := .plain
  machine : Machine := {}
  /-- The declarations of the prelude, for the checks before a run. -/
  scope : Scope := []
  /-- The frame of the prelude. -/
  frame : Option FrameId := none

namespace Session

/-- Shows problems on the console. -/
def report (session : Session) (problems : List Problem) : Session :=
  let console := session.machine.console.reportAll session.markup problems
  { session with machine := { session.machine with console := console } }

/-- Clears the console. -/
def cleared (session : Session) : Session :=
  { session with machine := { session.machine with console := session.machine.console.cleared } }

/-- Runs a prelude. If it cannot be used, the session is given back for what the console shows. -/
def load (session : Session) (source : List Char) : Except (PreludeError × Session) Session :=
  let program := Program.ofSource false source
  let session := session.report program.problems
  if program.isRejected then .error (.parse, session)
  else
    let references := program.root.references isVocabulary []
    let session := session.report references.problems
    if !references.isClean then
      .error (.undefined (references.undefined.map (·.name)), session)
    else
      let (ending, machine) :=
        session.machine.evaluate session.limit [] ⟨program.root, none⟩
      let session := { session with machine := machine }
      match ending with
      | .failed fault => .error (.execute fault, session)
      | .stopped => .error (.stopped, session)
      | .finished frame =>
          .ok { session with
            machine := { machine with frames := machine.frames.keep }
            scope := [program.root.declared]
            frame := some frame }

/-- Checks a program. The result is empty if the program is refused. -/
def prepare (session : Session) (node : Node) : Option Block × Session :=
  let program := Program.ofNode true node
  let references := program.root.references isVocabulary session.scope
  let session := session.report (program.problems ++ references.problems)
  (if program.isRejected || !references.isClean then none else some program.root, session)

/-- Checks a program on a clear console, and tells whether it has no problems. -/
def check (session : Session) (node : Node) : Bool × Session :=
  let (root, session) := session.cleared.prepare node
  (root.isSome, session)

/-- The state of the machine before a program runs. -/
def ready (session : Session) : Machine :=
  { session.machine with stack := [], frames := session.machine.frames.release }

/-- Checks a program on a clear console and runs it if it has no problems. What it leaves on the
stack stays on the stack of the machine. -/
def run (session : Session) (node : Node) : Outcome × Session :=
  match session.cleared.prepare node with
  | (none, session) =>
      (.rejected, { session with machine := { session.machine with stack := [] } })
  | (some root, session) =>
      match session.ready.evaluate session.limit [] ⟨root, session.frame⟩ with
      | (.finished _, machine) => (.completed, { session with machine := machine })
      | (.stopped, machine) => (.stopped, { session with machine := machine })
      | (.failed fault, machine) =>
          let message := fault.message session.markup
          let machine := { machine with console := machine.console.addError message }
          (.failed message, { session with machine := machine })

/-- A session with the given settings and prelude, and the given engine for patterns. -/
def start (limit : Nat) (markup : Markup) (console : Console) (prelude : List Char)
    (engine : Engine := Pattern.engine) : Except (PreludeError × Session) Session :=
  load { limit := limit, markup := markup, machine := { console := console, engine := engine } }
    prelude

end Session

end StackProse
