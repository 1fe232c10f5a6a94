/-!
# Engines for patterns

The machine leaves patterns to an engine. The engine reads a pattern once, or refuses it in words of
its own, and what it has read is then matched against texts. The machine asks nothing else of it, and
whatever it answers, the machine goes on with that.
-/

namespace StackProse

/-- A pattern that has been read. -/
structure Matcher where
  /-- Whether the pattern matches somewhere in a text. -/
  isMatch : List Char → Bool
  /-- The texts of the groups of the first match, in order of their numbers. The text of a group that
  took no part in the match is empty. -/
  captures? : List Char → Option (List (List Char))
  deriving Inhabited

/-- An engine for patterns. -/
structure Engine where
  /-- Reads a pattern, or gives the words in which it is refused. -/
  compile : List Char → Except String Matcher
  deriving Inhabited

end StackProse
