import Mathlib.Data.Set.Basic
import Mathlib.Data.List.Induction
import StackProse.Table.Basic

/-!
# Histories of tables

A table is only ever made from the empty table by entering and removing keys. `Table.ofChanges` is
the table that a row of such changes leads to, so a statement on it is a statement on every table
that a program can hold. `Table.ofChanges_induction` is the way in which such statements are
proved: what the empty table has and every change keeps.
-/

namespace StackProse.Table

variable {κ ν : Type}

/-- One change of a table. -/
inductive Change (κ ν : Type)
  | insert (key : κ) (value : ν)
  | erase (key : κ)

namespace Change

/-- The key that a change is about. -/
def key : Change κ ν → κ
  | insert key _ => key
  | erase key => key

end Change

variable (compare : κ → κ → Ordering)

/-- Makes a change. -/
def change (table : Table κ ν) : Change κ ν → Table κ ν
  | .insert key value => table.insert compare key value
  | .erase key => table.erase compare key

/-- The table that changes lead to, the first of them made on the empty table. -/
def ofChanges (changes : List (Change κ ν)) : Table κ ν :=
  changes.foldl (change compare) empty

@[simp]
theorem ofChanges_nil : ofChanges compare ([] : List (Change κ ν)) = empty :=
  rfl

@[simp]
theorem ofChanges_concat (changes : List (Change κ ν)) (last : Change κ ν) :
    ofChanges compare (changes ++ [last]) = (ofChanges compare changes).change compare last := by
  rw [ofChanges, List.foldl_append]
  rfl

/-- What holds of the empty table and is kept by every change with a key in `keys` holds of every
table that such changes lead to. -/
theorem ofChanges_induction {P : Table κ ν → Prop} {keys : Set κ} (hempty : P empty)
    (hchange : ∀ table, P table → ∀ last : Change κ ν, last.key ∈ keys →
      P (table.change compare last))
    (changes : List (Change κ ν)) (hkeys : ∀ change ∈ changes, change.key ∈ keys) :
    P (ofChanges compare changes) := by
  induction changes using List.reverseRecOn with
  | nil => exact hempty
  | append_singleton changes last ih =>
      rw [ofChanges_concat]
      have hbefore : P (ofChanges compare changes) :=
        ih fun change hmem => hkeys change (List.mem_append_left _ hmem)
      exact hchange _ hbefore last (hkeys last (by simp))

end StackProse.Table
