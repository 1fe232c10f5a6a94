import StackProse.Program.Block
import StackProse.Text.Markup

/-!
# Problems found before a program runs

A `Problem` is a cause and a place. It has a short label for its place in the source and a full
message for a list of errors.
-/

namespace StackProse

/-- Why a program is refused. -/
inductive Problem.Cause
  /-- The source lacks a text. -/
  | missing (expected : String)
  /-- A piece of source fits nowhere. -/
  | unexpected (text : String)
  /-- A piece of source cannot be read. -/
  | malformed
  /-- No name follows a declaring word. -/
  | nameExpected (after : Declaration)
  /-- A block declares a name twice. -/
  | shadowed (declaration : Declaration) (name : String)
  /-- Nothing declares a name. -/
  | undefined (name : String)
  deriving Repr, DecidableEq

/-- A problem at a place of the source. -/
structure Problem where
  cause : Problem.Cause
  span : Span
  position : Position
  deriving Repr, DecidableEq

/-- A remark on a piece of source. -/
structure Diagnostic where
  span : Span
  position : Position
  message : String
  deriving Repr, DecidableEq, Inhabited

namespace Problem

/-- The short text for the place of a problem. -/
def label (problem : Problem) : String :=
  match problem.cause with
  | .missing expected => "missing `" ++ expected ++ "`"
  | .unexpected _ => "unexpected token"
  | .malformed => "syntax error"
  | .nameExpected after => "syntax error: identifier expected after " ++ after.keyword
  | .shadowed _ _ => "cannot shadow in the same block"
  | .undefined _ => "undefined symbol"

/-- The full text of a problem. -/
def message (markup : Markup) (problem : Problem) : String :=
  let place := markup.light problem.position.text
  match problem.cause with
  | .missing expected => "missing: " ++ markup.marked expected ++ " " ++ place
  | .unexpected text => "unexpected token: '" ++ markup.marked text ++ "' " ++ place
  | .malformed => "syntax error " ++ place
  | .nameExpected after => "syntax error: identifier expected after " ++ after.keyword
  | .shadowed declaration name =>
      declaration.keyword ++ " " ++ markup.marked name ++ ": cannot shadow in the same block"
  | .undefined name => "undefined symbol " ++ markup.marked name

/-- The remark that shows a problem at its place. -/
def diagnostic (problem : Problem) : Diagnostic :=
  ⟨problem.span, problem.position, problem.label⟩

end Problem

end StackProse
