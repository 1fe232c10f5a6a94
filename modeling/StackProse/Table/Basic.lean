import StackProse.Table.Walk

/-!
# Tables

A table is an ordered map: a balanced search tree with its number of entries. Tables never change;
an operation gives a new table that shares what it can with the old one.
-/

namespace StackProse

/-- An ordered map from `κ` to `ν`. -/
structure Table (κ ν : Type) where
  /-- The tree of the entries. -/
  root : Tree κ ν := .leaf
  /-- The number of entries. -/
  size : Nat := 0
  deriving Repr, Inhabited

namespace Table

variable {κ ν : Type}

/-- The table without entries. -/
def empty : Table κ ν := {}

/-- Whether a table has no entries. -/
def isEmpty (table : Table κ ν) : Bool :=
  table.size == 0

/-- The entries in ascending order of keys, as a walk gives them. -/
def toList (table : Table κ ν) : List (κ × ν) :=
  table.root.walk.toList

/-- The keys in ascending order. -/
def keys (table : Table κ ν) : List κ :=
  table.toList.map (·.1)

/-- The values in ascending order of their keys. -/
def values (table : Table κ ν) : List ν :=
  table.toList.map (·.2)

variable (compare : κ → κ → Ordering)

/-- The value of a key. -/
def get? (table : Table κ ν) (key : κ) : Option ν :=
  table.root.get? compare key

/-- Whether a key has a value. -/
def contains (table : Table κ ν) (key : κ) : Bool :=
  (table.get? compare key).isSome

/-- The table with a value for a key. -/
def insert (table : Table κ ν) (key : κ) (value : ν) : Table κ ν :=
  { root := table.root.insert compare key value
    size := if table.contains compare key then table.size else table.size + 1 }

/-- The table without a key. -/
def erase (table : Table κ ν) (key : κ) : Table κ ν :=
  match table.root.erase? compare key with
  | some root => { root := root, size := table.size - 1 }
  | none => table

end Table

end StackProse
