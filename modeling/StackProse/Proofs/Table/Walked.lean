import StackProse.Table.Basic

/-!
# Walks meet the entries in order

`Tree.toList` says which entries a tree has, and in which order: those on the left, that of the root,
those on the right. A walk does not look at the tree in this way, it takes from its stack one node
after the other. Still it gives these entries and in this order, for every tree: at each step there
are entries ahead of it (`Walk.ahead`), the next one is the first of them (`Walk.next?_eq`), and so all
of them come one by one (`Walk.toList_eq_ahead`).
-/

namespace StackProse

variable {κ ν : Type}

namespace Tree

/-! ### The entries of a tree -/

theorem entriesOnto_eq (tree : Tree κ ν) (rest : List (κ × ν)) :
    tree.entriesOnto rest = tree.toList ++ rest := by
  induction tree generalizing rest with
  | leaf => rfl
  | node level left key value right ihLeft ihRight =>
      simp only [toList, entriesOnto]
      rw [ihLeft, ihLeft (_ :: right.entriesOnto []), ihRight rest, ihRight []]
      simp

@[simp]
theorem toList_leaf : (leaf : Tree κ ν).toList = [] :=
  rfl

@[simp]
theorem toList_node (level : Nat) (left : Tree κ ν) (key : κ) (value : ν) (right : Tree κ ν) :
    (node level left key value right).toList = left.toList ++ (key, value) :: right.toList := by
  rw [toList, entriesOnto, entriesOnto_eq left, entriesOnto_eq right, List.append_nil]

end Tree

namespace Walk

/-! ### The entries ahead of a walk -/

/-- The entries ahead of a walk: of each node gone past its own one and those on its right. -/
def ahead (walk : Walk κ ν) : List (κ × ν) :=
  walk.pending.flatMap fun node => (node.key, node.value) :: node.right.toList

theorem ahead_cons (node : Waypoint κ ν) (walk : Walk κ ν) :
    ahead ⟨node :: walk.pending⟩ = (node.key, node.value) :: node.right.toList ++ walk.ahead :=
  List.flatMap_cons

/-- Going down into a tree puts its entries in front of those ahead. -/
theorem ahead_descend (walk : Walk κ ν) (tree : Tree κ ν) :
    (walk.descend tree).ahead = tree.toList ++ walk.ahead := by
  induction tree generalizing walk with
  | leaf => rfl
  | node level left key value right ihLeft _ =>
      rw [descend, ihLeft, ahead_cons, Tree.toList_node, List.append_assoc]

/-- One step: the next entry is the first one ahead, and the others stay ahead. -/
theorem next?_eq (walk : Walk κ ν) :
    (walk.next? = none ∧ walk.ahead = []) ∨
      ∃ entry later, walk.next? = some (entry, later) ∧ walk.ahead = entry :: later.ahead := by
  obtain ⟨_ | ⟨node, rest⟩⟩ := walk
  · exact .inl ⟨rfl, rfl⟩
  · refine .inr ⟨_, _, rfl, ?_⟩
    rw [ahead_descend, ahead_cons node ⟨rest⟩, List.cons_append]

theorem toList_of_next?_eq_none {walk : Walk κ ν} (h : walk.next? = none) : walk.toList = [] := by
  rw [toList]
  split <;> simp_all

theorem toList_of_next?_eq_some {walk later : Walk κ ν} {entry : κ × ν}
    (h : walk.next? = some (entry, later)) : walk.toList = entry :: later.toList := by
  rw [toList]
  split <;> simp_all

/-- A whole run: the entries ahead come one by one, and no others. -/
theorem toList_eq_ahead (walk : Walk κ ν) : walk.toList = walk.ahead := by
  rcases walk.next?_eq with ⟨hnone, hahead⟩ | ⟨entry, later, hsome, hahead⟩
  · rw [toList_of_next?_eq_none hnone, hahead]
  · have hremaining := remaining_of_next? hsome
    rw [toList_of_next?_eq_some hsome, hahead, toList_eq_ahead later]
termination_by walk.remaining

end Walk

/-- The walk through a tree gives its entries in order, whatever the shape of the tree. -/
theorem Tree.toList_walk (tree : Tree κ ν) : tree.walk.toList = tree.toList := by
  rw [walk, Walk.toList_eq_ahead, Walk.ahead_descend]
  exact List.append_nil _

namespace Table

/-- The entries of a table are those of its tree. -/
theorem toList_eq (table : Table κ ν) : table.toList = table.root.toList :=
  table.root.toList_walk

@[simp]
theorem toList_empty : (empty : Table κ ν).toList = [] :=
  toList_eq empty

end Table

end StackProse
