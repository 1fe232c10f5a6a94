import StackProse.Builtin.Arithmetic
import StackProse.Builtin.Keyed
import StackProse.Builtin.Logic
import StackProse.Builtin.Sequence

/-!
# The registry of builtin words
-/

namespace StackProse.Builtin

/-- Every builtin word. -/
def all : List Builtin :=
  checks ++ arithmetic ++ comparisons ++ connectives ++ lists ++ sequences ++ strings ++ tables

/-- The builtin word with a given name. -/
def ofName? (name : String) : Option Builtin :=
  all.find? (·.name == name)

end StackProse.Builtin
