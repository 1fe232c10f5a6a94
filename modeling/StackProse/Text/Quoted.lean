/-!
# Quoted text

A backslash and a letter stand for a character inside quotes. `escape` writes each character that
has such a letter with it, and `unescape` reads the letters back; a backslash before any other
character stands for itself.
-/

namespace StackProse.Quoted

/-- The letters that follow a backslash, with what they stand for. -/
def escapes : List (Char × Char) :=
  [('b', '\x08'), ('t', '\t'), ('n', '\n'), ('v', '\x0b'), ('f', '\x0c'), ('r', '\r'),
    ('"', '"'), ('\\', '\\')]

/-- The character that a letter after a backslash stands for. -/
def resolve? (letter : Char) : Option Char :=
  (escapes.find? (·.1 == letter)).map (·.2)

/-- The letter that writes a character after a backslash. -/
def letter? (c : Char) : Option Char :=
  (escapes.find? (·.2 == c)).map (·.1)

/-- The written form of one character. -/
def escapeChar (c : Char) : List Char :=
  match letter? c with
  | some letter => ['\\', letter]
  | none => [c]

/-- The written form of a text, without its quotes. -/
def escape (text : List Char) : List Char :=
  text.flatMap escapeChar

/-- Reads written text behind the reversed text `read`. -/
def unescapeFrom (read : List Char) : List Char → List Char
  | [] => read.reverse
  | ['\\'] => ('\\' :: read).reverse
  | '\\' :: letter :: rest =>
      match resolve? letter with
      | some c => unescapeFrom (c :: read) rest
      | none => unescapeFrom (letter :: '\\' :: read) rest
  | c :: rest => unescapeFrom (c :: read) rest

/-- The text between two quotes. A text that does not both begin and end with a quote of its own
is taken as it is. -/
def inner (literal : List Char) : List Char :=
  match literal with
  | '"' :: rest => if rest.getLast? = some '"' then rest.dropLast else literal
  | _ => literal

/-- The text that a quoted literal stands for. -/
def unescape (literal : List Char) : List Char :=
  unescapeFrom [] (inner literal)

end StackProse.Quoted
