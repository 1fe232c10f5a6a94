import StackProse.Table.Tree

/-!
# Walks through trees

A walk gives the entries of a tree one at a time. On its way down to the left it keeps the nodes that
it goes past; the next entry is that of the node kept last, and from there it goes down into the tree
on the right of that node.
-/

namespace StackProse

/-- A node that a walk has gone past on its way to the left: its entry and the tree on its right. -/
structure Waypoint (κ ν : Type) where
  key : κ
  value : ν
  right : Tree κ ν

/-- A walk through a tree: the nodes gone past, the one kept last in front. -/
structure Walk (κ ν : Type) where
  pending : List (Waypoint κ ν) := []

namespace Walk

variable {κ ν : Type}

/-- Goes down to the left in a tree. -/
def descend (walk : Walk κ ν) : Tree κ ν → Walk κ ν
  | .leaf => walk
  | .node _ left key value right => descend ⟨⟨key, value, right⟩ :: walk.pending⟩ left

/-- The next entry and the walk from there on. -/
def next? (walk : Walk κ ν) : Option ((κ × ν) × Walk κ ν) :=
  match walk.pending with
  | [] => none
  | node :: rest => some ((node.key, node.value), descend ⟨rest⟩ node.right)

/-- The number of entries that are still to come. -/
def remaining (walk : Walk κ ν) : Nat :=
  walk.pending.foldr (fun node count => node.right.size + 1 + count) 0

theorem remaining_cons (node : Waypoint κ ν) (walk : Walk κ ν) :
    remaining ⟨node :: walk.pending⟩ = node.right.size + 1 + walk.remaining :=
  rfl

theorem remaining_descend (walk : Walk κ ν) (tree : Tree κ ν) :
    (walk.descend tree).remaining = tree.size + walk.remaining := by
  induction tree generalizing walk with
  | leaf => rw [descend, Tree.size, Nat.zero_add]
  | node level left key value right ihLeft _ =>
      simp only [descend, ihLeft, remaining_cons, Tree.size]
      omega

theorem remaining_of_next? {walk later : Walk κ ν} {entry : κ × ν}
    (h : walk.next? = some (entry, later)) : walk.remaining = later.remaining + 1 := by
  obtain ⟨_ | ⟨node, rest⟩⟩ := walk
  · contradiction
  · obtain ⟨-, rfl⟩ := Prod.mk.inj (Option.some.inj h)
    rw [remaining_descend, remaining_cons node ⟨rest⟩]
    omega

/-- The entries that are still to come. -/
def toList (walk : Walk κ ν) : List (κ × ν) :=
  match h : walk.next? with
  | none => []
  | some (entry, later) =>
      have := remaining_of_next? h
      entry :: later.toList
termination_by walk.remaining

end Walk

/-- The walk through a whole tree. -/
def Tree.walk {κ ν : Type} (tree : Tree κ ν) : Walk κ ν :=
  Walk.descend {} tree

end StackProse
