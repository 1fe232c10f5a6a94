import StackProse.Machine.Engine
import StackProse.Pattern.Search

/-!
# The engine of these patterns

Patterns as an engine that a machine can run with. A refusal has no words here, since its reason is
told by its kind.
-/

namespace StackProse.Pattern

/-- What the code of a pattern matches. -/
def Code.matcher (code : Code) : Matcher where
  isMatch := code.isMatch
  captures? := code.captures?

/-- The engine that compiles patterns to code and searches with it. -/
def engine : Engine where
  compile text := ((compile text).map Code.matcher).mapError fun _ => ""

end StackProse.Pattern
