/-!
# Emphasis

Texts shown to a person can carry emphasis. A `Style` is kept with a text; a `Markup` turns the
emphasis of names and places inside messages into characters.
-/

namespace StackProse

/-- How a text is shown. -/
inductive Style
  | marked
  | light
  deriving Repr, DecidableEq, Inhabited

/-- A text with the way it is shown. -/
structure StyledText where
  text : String
  style : Option Style := none
  deriving Repr, DecidableEq, Inhabited

/-- How emphasis is written inside messages. -/
structure Markup where
  /-- Emphasises a name or a piece of source. -/
  marked : String → String
  /-- Sets a place apart from the text around it. -/
  light : String → String

namespace Markup

/-- No emphasis at all. -/
def plain : Markup := ⟨id, id⟩

/-- Emphasis in brackets. -/
def brackets : Markup := ⟨fun text => "[" ++ text ++ "]", fun text => "<" ++ text ++ ">"⟩

/-- Names between backquotes, as on a terminal. -/
def backquotes : Markup := ⟨fun text => "`" ++ text ++ "`", id⟩

end Markup

end StackProse
