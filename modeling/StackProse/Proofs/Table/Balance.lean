import Mathlib.Algebra.Group.Nat.Defs
import StackProse.Proofs.Table.Entries
import StackProse.Proofs.Table.Levels

/-!
# The height of tables

A table carries the number of its entries along, and never looks at its tree to find it. Whatever the
comparison answers, that number is the number of nodes: entering a key adds a node exactly where
looking it up finds none, and removing a key takes away one node or leaves everything as it is.

The levels keep the tree low. A tree on a level has at least as many nodes as a full tree of that
height (`Tree.Leveled.two_pow_level_le`), and a path in it meets every level at most twice
(`Tree.Leveled.height_le`). So the paths of a table are at most about twice as long as they have to be.
-/

namespace StackProse

namespace Tree

variable {κ ν : Type}

/-- The number of nodes on the longest path from the root down. -/
def height : Tree κ ν → Nat
  | leaf => 0
  | node _ left _ _ right => max left.height right.height + 1

theorem length_toList (tree : Tree κ ν) : tree.toList.length = tree.size := by
  induction tree with
  | leaf => rfl
  | node level left key value right ihLeft ihRight =>
      rw [toList_node, List.length_append, List.length_cons, ihLeft, ihRight, size, Nat.add_assoc]

/-- Both children stand at least one level below, so a level doubles the number of nodes. -/
theorem Leveled.two_pow_level_le {tree : Tree κ ν} (h : tree.Leveled) :
    2 ^ tree.level ≤ tree.size + 1 := by
  induction tree with
  | leaf => exact le_rfl
  | node level left key value right ihLeft ihRight =>
      obtain ⟨hleft, hright, hbelow, hside, -⟩ := h
      have hlower : left.level ≤ right.level := by omega
      have hdouble : 2 ^ level = 2 ^ left.level + 2 ^ left.level := by
        rw [← hbelow, Nat.pow_succ, Nat.mul_two]
      have hpow : 2 ^ left.level ≤ 2 ^ right.level := Nat.pow_le_pow_right Nat.two_pos hlower
      have hsizeLeft := ihLeft hleft
      have hsizeRight := ihRight hright
      rw [level_node, size]
      omega

/-- A path meets each level at most twice, and the level of the root only once if the right child
stands below it. -/
theorem Leveled.height_le {tree : Tree κ ν} (h : tree.Leveled) :
    tree.height ≤ 2 * tree.level ∧
      (tree.rightLevel < tree.level → tree.height + 1 ≤ 2 * tree.level) := by
  induction tree with
  | leaf => exact ⟨le_rfl, nofun⟩
  | node level left key value right ihLeft ihRight =>
      obtain ⟨hleft, hright, hbelow, hside, hgrand⟩ := h
      obtain ⟨hheightLeft, -⟩ := ihLeft hleft
      obtain ⟨hheightRight, hthin⟩ := ihRight hright
      simp only [height, level_node, rightLevel_node]
      constructor
      · rcases hside with hwide | hnarrow
        · -- a right child on the level of the root has its own right child below
          have hheight := hthin (by rwa [hwide])
          omega
        · omega
      · intro hnarrow
        omega

end Tree

namespace Table

variable {κ ν : Type}

/-- Every table that a program can hold counts the nodes of its tree, so that removing an entry always
has one to take off the count, and its tree is low: the number of nodes on the longest path is at most
twice the logarithm of the number of entries. The comparison may answer anything. -/
theorem counted_and_low (compare : κ → κ → Ordering) (changes : List (Change κ ν)) :
    let table := ofChanges compare changes
    table.size = table.root.size ∧
      (∀ key, (table.root.erase? compare key).isSome →
        (table.erase compare key).size + 1 = table.size) ∧
      2 ^ ((table.root.height + 1) / 2) ≤ table.size + 1 := by
  intro table
  have hsize : table.size = table.root.size := by
    rw [size_ofChanges, toList_eq, Tree.length_toList]
  have hleveled : table.root.Leveled :=
    ofChanges_induction (P := fun table => table.root.Leveled) compare trivial
      (fun _ htable last _ => leveled_change compare htable last) changes
      fun change _ => Set.mem_univ change.key
  refine ⟨hsize, ?_, ?_⟩
  · intro key hkey
    obtain ⟨root, hroot⟩ := Option.isSome_iff_exists.1 hkey
    have hlength := Tree.length_toList_erase? hroot
    rw [Tree.length_toList, Tree.length_toList, ← hsize] at hlength
    simp only [erase, hroot]
    omega
  · have hhalf : (table.root.height + 1) / 2 ≤ table.root.level := by
      have hheight := hleveled.height_le.1
      omega
    calc 2 ^ ((table.root.height + 1) / 2)
        ≤ 2 ^ table.root.level := Nat.pow_le_pow_right Nat.two_pos hhalf
      _ ≤ table.root.size + 1 := hleveled.two_pow_level_le
      _ = table.size + 1 := by rw [hsize]

end Table

end StackProse
