import StackProse.Number.Basic
import StackProse.Value.Basic

/-!
# The order of values

All values are ordered. Values of different kinds are ordered by kind. Lists are compared item by
item from the oldest on, tables entry by entry in the order of their keys, each key before its
value; where one ends first it is the smaller. Boxes and blocks are compared by identity, and which
order their identities are in is a parameter.

A `Rank` is what the order looks at: the contents of containers in the order in which they are
compared.
-/

namespace StackProse

/-- An order of the identities of boxes and of blocks: of the numbers of their cells, and of the
places of their codes with the frames. -/
structure Identities where
  box : BoxId → BoxId → Ordering
  block : (Nat × Nat) × Option FrameId → (Nat × Nat) × Option FrameId → Ordering

namespace Identities

/-- The order of frames; no frame comes first. -/
def compareFrames : Option FrameId → Option FrameId → Ordering
  | none, none => .eq
  | none, some _ => .lt
  | some _, none => .gt
  | some a, some b => Ord.compare a b

/-- The order of the places of codes. -/
def compareCodes (a b : Nat × Nat) : Ordering :=
  (Ord.compare a.1 b.1).then (Ord.compare a.2 b.2)

/-- Boxes and blocks in the order in which they are made: boxes by their numbers, blocks by their
codes, and blocks of the same code by their frames. -/
def numbered : Identities where
  box := Ord.compare
  block a b := (compareCodes a.1 b.1).then (compareFrames a.2 b.2)

end Identities

/-- What the order of values looks at. -/
inductive Rank
  | number (value : Number)
  | symbol (name : String)
  | boolean (value : Bool)
  | string (units : List UInt16)
  | box (id : BoxId)
  | list (items : List Rank)
  /-- The keys and values of a table in turns, and its number of entries. -/
  | table (parts : List Rank) (size : Nat)
  | block (code : Nat × Nat) (frame : Option FrameId)
  | identifier (name : String)

namespace Rank

/-- The keys and values of entries in turns. -/
def parts (entries : List (Rank × Rank)) : List Rank :=
  entries.flatMap fun entry => [entry.1, entry.2]

/-- The place of a kind among the kinds. -/
def place : Rank → Nat
  | number _ => 0
  | symbol _ => 1
  | boolean _ => 2
  | string _ => 3
  | box _ => 4
  | list _ => 5
  | table _ _ => 6
  | block _ _ => 7
  | identifier _ => 8

variable (ids : Identities)

mutual

/-- The order of ranks. -/
def compare : Rank → Rank → Ordering
  | number a, number b => Number.compare a b
  | symbol a, symbol b => Ord.compare a b
  | boolean a, boolean b => Ord.compare a b
  | string a, string b => List.compareLex Ord.compare a b
  | box a, box b => ids.box a b
  | list a, list b => (firstDifference a b).then (Ord.compare a.length b.length)
  | table a m, table b n => (firstDifference a b).then (Ord.compare m n)
  | block i a, block j b => ids.block (i, a) (j, b)
  | identifier a, identifier b => Ord.compare a b
  | a, b => Ord.compare a.place b.place

/-- The first difference of two rows of ranks, as far as both of them go. -/
def firstDifference : List Rank → List Rank → Ordering
  | a :: as, b :: bs =>
      match compare a b with
      | .eq => firstDifference as bs
      | .lt => .lt
      | .gt => .gt
  | _, _ => .eq

end

end Rank

namespace Value

mutual

/-- The rank of a value. -/
def rank : Value → Rank
  | number value => .number value
  | symbol name => .symbol name
  | boolean value => .boolean value
  | string units _ => .string units
  | box id => .box id
  | list items => .list (ranksOnto items [])
  | table ⟨root, size⟩ => .table (Rank.parts (ranked root).walk.toList) size
  | block code frame => .block code.place frame
  | identifier name => .identifier name

/-- The ranks of items, oldest first, in front of `rest`. -/
def ranksOnto : List Value → List Rank → List Rank
  | [], rest => rest
  | item :: older, rest => ranksOnto older (item.rank :: rest)

/-- The tree of the ranks of keys and values. -/
def ranked : Tree Value Value → Tree Rank Rank
  | .leaf => .leaf
  | .node level left key value right =>
      .node level (ranked left) key.rank value.rank (ranked right)

end

/-- The order of values for an order of identities. -/
def compareBy (ids : Identities) (a b : Value) : Ordering :=
  a.rank.compare ids b.rank

/-- The order of values. -/
def compare : Value → Value → Ordering :=
  compareBy .numbered

end Value

/-- Tables from values to values, in the order of values. -/
abbrev ValueTable := Table Value Value

namespace ValueTable

/-- The value of a key. -/
def get? (table : ValueTable) (key : Value) : Option Value :=
  Table.get? Value.compare table key

/-- Whether a key has a value. -/
def contains (table : ValueTable) (key : Value) : Bool :=
  Table.contains Value.compare table key

/-- The table with a value for a key. -/
def insert (table : ValueTable) (key value : Value) : ValueTable :=
  Table.insert Value.compare table key value

/-- The table without a key. -/
def erase (table : ValueTable) (key : Value) : ValueTable :=
  Table.erase Value.compare table key

/-- The order of tables. -/
def compare (a b : ValueTable) : Ordering :=
  Value.compare (.table a) (.table b)

end ValueTable

end StackProse
