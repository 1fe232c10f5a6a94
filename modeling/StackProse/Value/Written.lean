import StackProse.Number.Basic
import StackProse.Text.Quoted
import StackProse.Value.Basic

/-!
# The written form of values

`Heap.printed` gives the text that a value is printed with and `Heap.nested` the text that it has
inside a container, where strings are quoted and symbols carry their backslash. A box is written
with its content in brackets. A box that is met again inside itself is written as three dots, so
writing comes to an end on every heap.
-/

namespace StackProse

namespace Value

/-- The quoted form of a string, behind `out`. -/
def writeQuoted (out : String) (units : List UInt16) : String :=
  (out.push '"' ++ String.ofList (Quoted.escape (Units.toChars units))).push '"'

/-- Writes an entry behind a blank, with a colon between its key and its value. -/
def writeEntry (out : String) (entry : (String → String) × (String → String)) : String :=
  entry.2 ((entry.1 (out.push ' ')).push ':')

mutual

/-- Writes a value inside a container behind `out`; `box` writes the boxes. -/
def write (box : String → BoxId → String) (out : String) : Value → String
  | number value => out ++ Number.text value
  | symbol name => out.push '\\' ++ name
  | boolean value => out ++ (if value then "True" else "False")
  | string units _ => writeQuoted out units
  | .box id => box out id
  | list items => (writeItems box (out.push '(') true items).push ')'
  | table ⟨root, _⟩ =>
      (writers box root).walk.toList.foldl writeEntry (out.push '\x7b') ++ " \x7d"
  | block _ _ => out ++ "(block)"
  | identifier name => out ++ name

/-- Writes the items of a list with blanks between them. -/
def writeItems (box : String → BoxId → String) (out : String) (first : Bool) :
    List Value → String
  | [] => out
  | item :: rest =>
      writeItems box (item.write box (if first then out else out.push ' ')) false rest

/-- The tree of what writes the keys and values. -/
def writers (box : String → BoxId → String) :
    Tree Value Value → Tree (String → String) (String → String)
  | .leaf => .leaf
  | .node level left key value right =>
      .node level (writers box left) (fun out => key.write box out) (fun out => value.write box out)
        (writers box right)

end

end Value

/-- The cells of all boxes. -/
structure Heap where
  cells : Array Value := #[]
  deriving Inhabited

namespace Heap

/-- The content of a box. -/
def get? (heap : Heap) (id : BoxId) : Option Value :=
  heap.cells[id]?

/-- A heap with a new box. -/
def alloc (heap : Heap) (value : Value) : BoxId × Heap :=
  (heap.cells.size, { cells := heap.cells.push value })

/-- The heap in which a box has a new content. -/
def set (heap : Heap) (id : BoxId) (value : Value) : Heap :=
  { cells := heap.cells.setIfInBounds id value }

/-- Writes a box behind `out`, where the boxes in `opened` are being written already. Each box
opened leaves one cell less to open, so `cells` bounds the depth. -/
def writeBox (heap : Heap) (opened : List BoxId) (cells : Nat) (out : String) (id : BoxId) :
    String :=
  match cells with
  | 0 => out ++ "..."
  | cells + 1 =>
      if opened.contains id then out ++ "..."
      else
        match heap.get? id with
        | none => out ++ "..."
        | some content =>
            (content.write (heap.writeBox (id :: opened) cells) (out.push '[')).push ']'

/-- The text of a value inside a container, behind `out`. -/
def writeInside (heap : Heap) (out : String) (value : Value) : String :=
  value.write (heap.writeBox [] (heap.cells.size + 1)) out

/-- The text of a value inside a container. -/
def nested (heap : Heap) (value : Value) : String :=
  heap.writeInside "" value

/-- The text and style with which a value is printed. -/
def printed (heap : Heap) : Value → StyledText
  | .string units style => ⟨Units.toString units, style⟩
  | .symbol name => ⟨name, none⟩
  | .boolean value => ⟨heap.nested (.boolean value), some .marked⟩
  | value => ⟨heap.nested value, none⟩

/-- The kind of a value and its text inside a container. -/
def describe (heap : Heap) (value : Value) : String :=
  value.kind.name ++ "(" ++ heap.nested value ++ ")"

/-- The text of a stack, its bottom first. The stack is given with its top in front. -/
def stackText (heap : Heap) (stack : List Value) : String :=
  let step (state : String × Bool) (value : Value) : String × Bool :=
    (heap.writeInside (if state.2 then state.1 else state.1 ++ ", ") value, false)
  (stack.reverse.foldl step ("[", true)).1.push ']'

end Heap

end StackProse
