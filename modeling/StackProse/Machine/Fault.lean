import StackProse.Text.Markup
import StackProse.Value.Basic

/-!
# Faults

A fault ends a run. It has a cause and a trail of the constructs around the place where it arose.
-/

namespace StackProse

/-- Why a run fails. -/
inductive Fault.Cause
  /-- The stack is empty. -/
  | underflow (expected : String)
  /-- The top of the stack is of another kind. -/
  | mismatch (expected : String) (actual : Kind)
  /-- The stack is empty where a word takes several kinds. -/
  | missingOverload (expected : String)
  /-- The top of the stack is of no kind that a word takes. -/
  | noOverload (expected : String) (actual : Kind)
  /-- Nothing is bound to a name. -/
  | unknownSymbol (name : String)
  /-- The declaration of a name has not been run yet. -/
  | usedBeforeDeclaration (name : String)
  /-- Blocks are run too deep inside each other. -/
  | callStackOverflow
  /-- A block is left that is not running. -/
  | escapedBegin
  /-- The top of the stack is not what the program requires. -/
  | assertionFailed (kind : Kind)
  /-- A word has no result. -/
  | failed (reason : String)
  /-- The program fails on purpose. -/
  | user (message : String)
  deriving Repr, DecidableEq, Inhabited

/-- A construct around the place of a fault. -/
inductive Fault.Context
  /-- A word that is being run. -/
  | word (name : String)
  /-- Something else that is being done. -/
  | activity (text : String)
  deriving Repr, DecidableEq, Inhabited

/-- A cause with the constructs around it, the outermost in front. -/
structure Fault where
  cause : Fault.Cause
  trail : List Fault.Context := []
  deriving Repr, DecidableEq, Inhabited

namespace Fault

/-- A fault with one more construct around it. -/
def within (fault : Fault) (context : Context) : Fault :=
  { fault with trail := context :: fault.trail }

namespace Cause

/-- The text of a cause. -/
def message (markup : Markup) : Cause → String
  | underflow expected => "expected " ++ expected
  | mismatch expected actual => "expected " ++ expected ++ ", got " ++ actual.name
  | missingOverload expected => "expected one of [" ++ expected ++ "]"
  | noOverload expected actual =>
      "expected one of [" ++ expected ++ "], got " ++ actual.name
  | unknownSymbol name => "undefined symbol " ++ markup.marked name
  | usedBeforeDeclaration name => markup.marked name ++ " used before declaration"
  | callStackOverflow => "call stack overflowed!"
  | escapedBegin => "cannot exit 'Begin' from outside the 'Begin' block"
  | assertionFailed kind => kind.name ++ " assertion failed"
  | failed reason => reason
  | user message => message

end Cause

/-- The text of a construct. -/
def Context.text (markup : Markup) : Context → String
  | word name => markup.marked name
  | activity text => text

/-- The text of a fault, the outermost construct first. -/
def message (markup : Markup) (fault : Fault) : String :=
  let step (text : String) (context : Context) : String :=
    text ++ "in " ++ context.text markup ++ ": "
  fault.trail.foldl step "" ++ fault.cause.message markup

end Fault

end StackProse
