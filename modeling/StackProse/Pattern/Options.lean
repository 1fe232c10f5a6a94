import StackProse.Text.Letter

/-!
# Options and refusals of patterns

What the modules that read a pattern share: the reasons to refuse it, the options in force at a
place of it, and the blanks and comments that an extended pattern may hold.
-/

namespace StackProse.Pattern

/-- Why a pattern is refused. -/
inductive Refusal
  | unclosedGroup
  | unopenedGroup
  | unclosedClass
  | badClassRange
  | badClassItem
  | missingOperand
  | badRepetition
  | badEscape
  | badFlags
  | badGroupName
  | lookAround
  | unknownProperty
  | invalidBytes
  | tooDeep
  | tooLarge
  deriving Repr, DecidableEq

/-- The options in force at a place of a pattern. -/
structure Flags where
  ignoreCase : Bool := false
  multiLine : Bool := false
  dotAll : Bool := false
  swapGreed : Bool := false
  unicode : Bool := true
  extended : Bool := false
  crlf : Bool := false
  deriving Repr, DecidableEq, Inhabited

/-- Turns the option with a letter on or off. -/
def Flags.set? (flags : Flags) (letter : Char) (on : Bool) : Option Flags :=
  match letter with
  | 'i' => some { flags with ignoreCase := on }
  | 'm' => some { flags with multiLine := on }
  | 's' => some { flags with dotAll := on }
  | 'U' => some { flags with swapGreed := on }
  | 'u' => some { flags with unicode := on }
  | 'x' => some { flags with extended := on }
  | 'R' => some { flags with crlf := on }
  | _ => none

/-- A part that has been read, with the text behind it. -/
abbrev Read (α : Type) := α × List Char

/-- A text without the blanks and comments in front, where the pattern is extended. -/
def skipBlanks (flags : Flags) (text : List Char) : List Char :=
  if flags.extended then go text.length text else text
where
  /-- Each round takes at least one character. -/
  go : Nat → List Char → List Char
    | 0, text => text
    | rounds + 1, text =>
        match text.dropWhile Letter.isBlank with
        | '#' :: rest => go rounds (rest.dropWhile (· != '\n'))
        | rest => rest

/-- Reads characters up to a closing brace, without blanks and comments between them. Each round
takes at least one character. -/
def readBraced (flags : Flags) : Nat → List Char → Option (Read (List Char))
  | 0, _ => none
  | rounds + 1, text =>
      match skipBlanks flags text with
      | [] => none
      | '\x7d' :: rest => some ([], rest)
      | c :: rest => (readBraced flags rounds rest).map fun (more, rest) => (c :: more, rest)

end StackProse.Pattern
