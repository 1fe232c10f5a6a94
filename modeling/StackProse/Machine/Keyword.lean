import StackProse.Builtin.Registry

/-!
# Keywords

The words that the machine carries out itself, because they bind names, run blocks, look at the
whole stack or give output. Together with the builtin words they are the vocabulary of the
language.
-/

namespace StackProse

/-- A word that the machine carries out itself. -/
inductive Keyword
  /-- Binds a name to a function. -/
  | define
  /-- Binds a name to a value. -/
  | bind
  /-- Puts a value into a box. -/
  | assign
  /-- Runs a block on a stack of its own and makes a list of what it leaves. -/
  | list
  /-- Runs a block on a stack of its own and makes a table of what it leaves. -/
  | table
  /-- Makes a box. -/
  | box
  /-- Takes the content of a box. -/
  | unbox
  /-- Makes a list of the whole stack. -/
  | stack
  /-- Empties the stack. -/
  | clear
  /-- Fails with a text of the program. -/
  | error
  /-- Ends the run. -/
  | stop
  /-- Runs a block that can be left early. -/
  | begin
  /-- Makes a string of what a value is printed as. -/
  | toText
  /-- Prints a value and ends the line. -/
  | print
  /-- Prints a value. -/
  | put
  /-- Makes a block that tells whether a pattern matches. -/
  | pattern
  /-- Makes a block that takes the groups of a pattern. -/
  | capture
  /-- Tells whether a value is of a kind. -/
  | test (kind : Kind)
  /-- Fails unless the top of the stack is of a kind. -/
  | require (kind : Kind)
  deriving Repr, DecidableEq, Inhabited

/-- The name of a kind as words spell it. -/
def Kind.title : Kind → String
  | number => "Number"
  | symbol => "Symbol"
  | boolean => "Boolean"
  | string => "String"
  | box => "Box"
  | list => "List"
  | table => "Table"
  | block => "Block"
  | identifier => "Identifier"

namespace Keyword

/-- The word of a keyword. -/
def name : Keyword → String
  | define => "Def"
  | bind => "Let"
  | assign => "Set"
  | list => "List"
  | table => "Table"
  | box => "Box"
  | unbox => "Unbox"
  | stack => "Stack"
  | clear => "Clear"
  | error => "Error"
  | stop => "Stop"
  | begin => "Begin"
  | toText => "Show"
  | print => "Print"
  | put => "Put"
  | pattern => "Regex"
  | capture => "Regex-match"
  | test kind => kind.title ++ "?"
  | require kind => kind.title ++ "!"

/-- The keyword of a word. Values of every kind can be tested, but bare names cannot. -/
def ofName? : String → Option Keyword
  | "Def" => some define
  | "Let" => some bind
  | "Set" => some assign
  | "List" => some list
  | "Table" => some table
  | "Box" => some box
  | "Unbox" => some unbox
  | "Stack" => some stack
  | "Clear" => some clear
  | "Error" => some error
  | "Stop" => some stop
  | "Begin" => some begin
  | "Show" => some toText
  | "Print" => some print
  | "Put" => some put
  | "Regex" => some pattern
  | "Regex-match" => some capture
  | "Number?" => some (test .number)
  | "Symbol?" => some (test .symbol)
  | "Boolean?" => some (test .boolean)
  | "String?" => some (test .string)
  | "Box?" => some (test .box)
  | "List?" => some (test .list)
  | "Table?" => some (test .table)
  | "Block?" => some (test .block)
  | "Number!" => some (require .number)
  | "Symbol!" => some (require .symbol)
  | "Boolean!" => some (require .boolean)
  | "String!" => some (require .string)
  | "Box!" => some (require .box)
  | "List!" => some (require .list)
  | "Table!" => some (require .table)
  | "Block!" => some (require .block)
  | _ => none

/-- Whether a keyword takes the name right before it as it is. -/
def takesName : Keyword → Bool
  | define | bind | assign => true
  | _ => false

end Keyword

/-- Whether a word is part of the language. -/
def isVocabulary (name : String) : Bool :=
  (Keyword.ofName? name).isSome || (Builtin.ofName? name).isSome

end StackProse
