import StackProse.Program.Block
import StackProse.Table.Basic
import StackProse.Text.Markup
import StackProse.Text.Units

/-!
# Values

Values are what the stack holds. Numbers, symbols, booleans, strings, lists and tables are plain
data. A box is a reference to a cell of the heap, and a block is code together with the frame in
which it was pushed; both are told apart by identity and not by what they hold. An identifier is a
bare name, on its way to the word that binds it.
-/

namespace StackProse

/-- The number of a cell of the heap. -/
abbrev BoxId := Nat

/-- The number of a frame. -/
abbrev FrameId := Nat

/-- A value of the language. -/
inductive Value
  | number (value : Number)
  | symbol (name : String)
  | boolean (value : Bool)
  | string (units : List UInt16) (style : Option Style)
  | box (id : BoxId)
  /-- A list, the item pushed last in front. -/
  | list (items : List Value)
  | table (entries : Table Value Value)
  | block (code : Block) (frame : Option FrameId)
  | identifier (name : String)
  deriving Inhabited

/-- The kinds of values. -/
inductive Kind
  | number
  | symbol
  | boolean
  | string
  | box
  | list
  | table
  | block
  | identifier
  deriving Repr, DecidableEq, Inhabited

namespace Kind

/-- The name of a kind. -/
def name : Kind → String
  | number => "number"
  | symbol => "symbol"
  | boolean => "boolean"
  | string => "string"
  | box => "box"
  | list => "list"
  | table => "table"
  | block => "block"
  | identifier => "identifier"

/-- Every kind, in the order of values of different kinds. -/
def all : List Kind :=
  [number, symbol, boolean, string, box, list, table, block, identifier]

/-- The kind with a given name. -/
def ofName? (wanted : String) : Option Kind :=
  all.find? (·.name == wanted)

end Kind

namespace Value

/-- The kind of a value. -/
def kind : Value → Kind
  | number _ => .number
  | symbol _ => .symbol
  | boolean _ => .boolean
  | string _ _ => .string
  | box _ => .box
  | list _ => .list
  | table _ => .table
  | block _ _ => .block
  | identifier _ => .identifier

/-- A string without a style. -/
def ofUnits (units : List UInt16) : Value :=
  string units none

/-- The number that is a double. -/
def ofFloat (x : Float) : Value :=
  number (.ofFloat x)

/-- The string of a text. -/
def ofString (text : String) : Value :=
  ofUnits (Units.ofString text)

/-- The value of a literal. -/
def ofLiteral : Literal → Value
  | .number value => number value
  | .string units => ofUnits units
  | .boolean value => boolean value
  | .symbol name => symbol name

/-- The number that a value is. -/
def number? : Value → Option Number
  | number value => some value
  | _ => none

/-- The boolean that a value is. -/
def boolean? : Value → Option Bool
  | boolean value => some value
  | _ => none

/-- The code units of the string that a value is. -/
def units? : Value → Option (List UInt16)
  | string units _ => some units
  | _ => none

/-- The items of the list that a value is. -/
def items? : Value → Option (List Value)
  | list items => some items
  | _ => none

/-- The table that a value is. -/
def table? : Value → Option (Table Value Value)
  | table entries => some entries
  | _ => none

end Value

end StackProse
