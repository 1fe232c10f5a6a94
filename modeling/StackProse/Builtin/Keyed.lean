import StackProse.Builtin.Basic
import StackProse.Value.Order

/-!
# Tables

Words on tables. Boxes and blocks cannot be keys, since only their identity is ordered.
-/

namespace StackProse.Builtin

/-- A value that can be a key of a table. -/
def tableKey (value : Value) : Except Failure Value :=
  match value.kind with
  | .box => .error (.unorderedKey .box)
  | .block => .error (.unorderedKey .block)
  | _ => .ok value

/-- The words on tables. -/
def tables : List Builtin := [
  single "Insert" [⟨"key", .any⟩, ⟨"value", .any⟩, ⟨"table", .table⟩] .table
    fun operands => do
      let key ← tableKey (← operands.value 0)
      let table ← operands.table 2
      return .table (ValueTable.insert table key (← operands.value 1)),
  single "Remove" [⟨"key", .any⟩, ⟨"table", .table⟩] .table fun operands => do
    let key ← tableKey (← operands.value 0)
    return .table (ValueTable.erase (← operands.table 1) key),
  single "Has" [⟨"key", .any⟩, ⟨"table", .table⟩] .boolean fun operands => do
    let key ← tableKey (← operands.value 0)
    return .boolean (ValueTable.contains (← operands.table 1) key),
  single "." [⟨"key", .any⟩, ⟨"table", .table⟩] .any fun operands => do
    let key ← tableKey (← operands.value 0)
    match ValueTable.get? (← operands.table 1) key with
    | some value => return value
    | none => throw (.keyNotFound key),
  single "Keys" [⟨"table", .table⟩] .list fun operands => do
    return .list (← operands.table 0).keys,
  single "Values" [⟨"table", .table⟩] .list fun operands => do
    return .list (← operands.table 0).values]

end StackProse.Builtin
