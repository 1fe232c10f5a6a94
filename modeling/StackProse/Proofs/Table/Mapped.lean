import StackProse.Proofs.Table.Entries

/-!
# Tables with other keys and values

`Tree.mapped` puts other keys and values into a tree and leaves its shape as it is. Nothing but the
answers of the comparison decides what the operations of a table do. So where the new keys compare
as the old ones, an operation on the new tree gives what it gives on the old one, with the new keys
and values.
-/

namespace StackProse

namespace Tree

variable {κ ν κ' ν' : Type}

/-- The tree with another key and value at every node. -/
def mapped (newKey : κ → κ') (newValue : ν → ν') : Tree κ ν → Tree κ' ν'
  | leaf => leaf
  | node level left key value right =>
      node level (left.mapped newKey newValue) (newKey key) (newValue value)
        (right.mapped newKey newValue)

variable (newKey : κ → κ') (newValue : ν → ν')

@[simp]
theorem level_mapped (tree : Tree κ ν) : (tree.mapped newKey newValue).level = tree.level := by
  cases tree <;> rfl

theorem entriesOnto_mapped (tree : Tree κ ν) (rest : List (κ × ν)) :
    (tree.mapped newKey newValue).entriesOnto (rest.map (Prod.map newKey newValue)) =
      (tree.entriesOnto rest).map (Prod.map newKey newValue) := by
  induction tree generalizing rest with
  | leaf => rfl
  | node level left key value right ihLeft ihRight =>
      rw [mapped, entriesOnto, entriesOnto, ihRight, ← ihLeft]
      rfl

theorem toList_mapped (tree : Tree κ ν) :
    (tree.mapped newKey newValue).toList = tree.toList.map (Prod.map newKey newValue) :=
  entriesOnto_mapped newKey newValue tree []

/-- A tree whose keys and values are not changed stays as it is. -/
theorem mapped_eq_self {newKey : κ → κ} {newValue : ν → ν} {tree : Tree κ ν}
    (hkeys : ∀ entry ∈ tree.toList, newKey entry.1 = entry.1)
    (hvalues : ∀ entry ∈ tree.toList, newValue entry.2 = entry.2) :
    tree.mapped newKey newValue = tree := by
  induction tree with
  | leaf => rfl
  | node level left key value right ihLeft ihRight =>
      simp only [toList_node, List.forall_mem_append, List.forall_mem_cons] at hkeys hvalues
      rw [mapped, ihLeft hkeys.1 hvalues.1, ihRight hkeys.2.2 hvalues.2.2, hkeys.2.1, hvalues.2.1]

theorem first?_mapped (tree : Tree κ ν) :
    (tree.mapped newKey newValue).first? = tree.first?.map (Prod.map newKey newValue) := by
  induction tree with
  | leaf => rfl
  | node level left key value right ihLeft _ =>
      rw [mapped, first?, first?, ihLeft]
      cases left.first? <;> rfl

theorem last?_mapped (tree : Tree κ ν) :
    (tree.mapped newKey newValue).last? = tree.last?.map (Prod.map newKey newValue) := by
  induction tree with
  | leaf => rfl
  | node level left key value right _ ihRight =>
      rw [mapped, last?, last?, ihRight]
      cases right.last? <;> rfl

/-! ### Restoring the levels -/

theorem skew_mapped (tree : Tree κ ν) :
    (tree.mapped newKey newValue).skew = tree.skew.mapped newKey newValue := by
  cases tree with
  | leaf => rfl
  | node level left key value right =>
      cases left with
      | leaf => rfl
      | node leftLevel a leftKey leftValue b =>
          simp only [mapped, skew]
          split <;> rfl

theorem split_mapped (tree : Tree κ ν) :
    (tree.mapped newKey newValue).split = tree.split.mapped newKey newValue := by
  cases tree with
  | leaf => rfl
  | node level left key value right =>
      cases right with
      | leaf => rfl
      | node rightLevel b rightKey rightValue c =>
          simp only [mapped, split, level_mapped]
          split <;> rfl

theorem capLevel_mapped (cap : Nat) (tree : Tree κ ν) :
    (tree.mapped newKey newValue).capLevel cap = (tree.capLevel cap).mapped newKey newValue := by
  cases tree <;> rfl

theorem lower_mapped (tree : Tree κ ν) :
    (tree.mapped newKey newValue).lower = tree.lower.mapped newKey newValue := by
  cases tree with
  | leaf => rfl
  | node level left key value right =>
      simp only [mapped, lower, level_mapped, capLevel_mapped]
      split <;> rfl

theorem mapRight_mapped {change : Tree κ ν → Tree κ ν} {change' : Tree κ' ν' → Tree κ' ν'}
    (h : ∀ tree, change' (mapped newKey newValue tree) = (change tree).mapped newKey newValue)
    (tree : Tree κ ν) :
    (tree.mapped newKey newValue).mapRight change' =
      (tree.mapRight change).mapped newKey newValue := by
  cases tree with
  | leaf => rfl
  | node level left key value right => simp only [mapped, mapRight, h]

theorem rebalance_mapped (tree : Tree κ ν) :
    (tree.mapped newKey newValue).rebalance = tree.rebalance.mapped newKey newValue := by
  have hright (right : Tree κ ν) : ((right.mapped newKey newValue).skew.mapRight skew) =
      (right.skew.mapRight skew).mapped newKey newValue := by
    rw [skew_mapped, mapRight_mapped newKey newValue (skew_mapped newKey newValue)]
  simp only [rebalance]
  rw [lower_mapped, skew_mapped, mapRight_mapped newKey newValue hright, split_mapped,
    mapRight_mapped newKey newValue (split_mapped newKey newValue)]

/-! ### Operations -/

section

variable {compare : κ → κ → Ordering} {compare' : κ' → κ' → Ordering}
  {newKey : κ → κ'} (h : ∀ a b, compare' (newKey a) (newKey b) = compare a b)
  (newValue : ν → ν')

include h

theorem get?_mapped (key : κ) (tree : Tree κ ν) :
    (tree.mapped newKey newValue).get? compare' (newKey key) =
      (tree.get? compare key).map newValue := by
  induction tree with
  | leaf => rfl
  | node level left here value right ihLeft ihRight =>
      simp only [mapped, get?, h]
      cases compare key here with
      | lt => exact ihLeft
      | gt => exact ihRight
      | eq => rfl

theorem insert_mapped (key : κ) (value : ν) (tree : Tree κ ν) :
    (tree.mapped newKey newValue).insert compare' (newKey key) (newValue value) =
      (tree.insert compare key value).mapped newKey newValue := by
  induction tree with
  | leaf => rfl
  | node level left here old right ihLeft ihRight =>
      simp only [mapped, insert, h, ← split_mapped, ← skew_mapped]
      cases compare key here with
      | lt => simp only [mapped, ihLeft]
      | gt => simp only [mapped, ihRight]
      | eq => rfl

theorem erase?_mapped (key : κ) (tree : Tree κ ν) :
    (tree.mapped newKey newValue).erase? compare' (newKey key) =
      (tree.erase? compare key).map (mapped newKey newValue) := by
  induction tree generalizing key with
  | leaf => rfl
  | node level left here value right ihLeft ihRight =>
      simp only [mapped, erase?, h]
      cases compare key here with
      | lt =>
          simp only [ihLeft, Option.map_map]
          congr 1
          funext left
          exact rebalance_mapped newKey newValue (node level left here value right)
      | gt =>
          simp only [ihRight, Option.map_map]
          congr 1
          funext right
          exact rebalance_mapped newKey newValue (node level left here value right)
      | eq =>
          simp only [last?_mapped, first?_mapped]
          cases left.last? with
          | some previous =>
              simp only [Option.map_some, Prod.map_fst, Prod.map_snd, ihLeft, Option.map_map]
              congr 1
              funext left
              exact rebalance_mapped newKey newValue (node level left previous.1 previous.2 right)
          | none =>
              cases right.first? with
              | some next =>
                  simp only [Option.map_none, Option.map_some, Prod.map_fst, Prod.map_snd, ihRight,
                    Option.map_map]
                  congr 1
                  funext right
                  exact rebalance_mapped newKey newValue (node level leaf next.1 next.2 right)
              | none => rfl

end

end Tree

namespace Table

variable {κ ν κ' ν' : Type} {compare : κ → κ → Ordering} {compare' : κ' → κ' → Ordering}
  {newKey : κ → κ'} {newValue : ν → ν'}

/-- The table with another key and value in every entry. -/
def mapped (newKey : κ → κ') (newValue : ν → ν') (table : Table κ ν) : Table κ' ν' :=
  ⟨table.root.mapped newKey newValue, table.size⟩

theorem toList_mapped (table : Table κ ν) :
    (table.mapped newKey newValue).toList = table.toList.map (Prod.map newKey newValue) := by
  rw [toList_eq, toList_eq, mapped, Tree.toList_mapped]

theorem keys_mapped (table : Table κ ν) :
    (table.mapped newKey newValue).keys = table.keys.map newKey := by
  rw [keys, keys, toList_mapped, List.map_map, List.map_map]
  rfl

theorem values_mapped (table : Table κ ν) :
    (table.mapped newKey newValue).values = table.values.map newValue := by
  rw [values, values, toList_mapped, List.map_map, List.map_map]
  rfl

theorem mapped_eq_self {newKey : κ → κ} {newValue : ν → ν} {table : Table κ ν}
    (hkeys : ∀ entry ∈ table.toList, newKey entry.1 = entry.1)
    (hvalues : ∀ entry ∈ table.toList, newValue entry.2 = entry.2) :
    table.mapped newKey newValue = table := by
  rw [toList_eq] at hkeys hvalues
  rw [mapped, Tree.mapped_eq_self hkeys hvalues]

variable (h : ∀ a b, compare' (newKey a) (newKey b) = compare a b)

include h

theorem get?_mapped (table : Table κ ν) (key : κ) :
    (table.mapped newKey newValue).get? compare' (newKey key) =
      (table.get? compare key).map newValue :=
  Tree.get?_mapped h newValue key table.root

theorem contains_mapped (table : Table κ ν) (key : κ) :
    (table.mapped newKey newValue).contains compare' (newKey key) = table.contains compare key := by
  rw [contains, get?_mapped h, contains, Option.isSome_map]

theorem insert_mapped (table : Table κ ν) (key : κ) (value : ν) :
    (table.mapped newKey newValue).insert compare' (newKey key) (newValue value) =
      (table.insert compare key value).mapped newKey newValue := by
  rw [insert, contains_mapped h, insert, mapped, mapped, Tree.insert_mapped h newValue]

theorem erase_mapped (table : Table κ ν) (key : κ) :
    (table.mapped newKey newValue).erase compare' (newKey key) =
      (table.erase compare key).mapped newKey newValue := by
  rw [erase, erase, mapped, Tree.erase?_mapped h newValue]
  cases table.root.erase? compare key <;> rfl

end Table

end StackProse
