/-!
# Balanced search trees

A tree with a level at every node. The levels keep the tree balanced: a left child stands exactly
one level below its parent, a right child on the level of its parent or one below, and a right
child of a right child strictly below its grandparent; an empty tree is on level zero.

`insert` and `erase` search by a comparison of keys and then restore the levels on the way back.
They restore them whatever the comparison answers.
-/

namespace StackProse

/-- A search tree with levels. -/
inductive Tree (κ ν : Type)
  | leaf
  | node (level : Nat) (left : Tree κ ν) (key : κ) (value : ν) (right : Tree κ ν)
  deriving Repr, Inhabited

namespace Tree

variable {κ ν : Type}

/-- The level of a tree. -/
def level : Tree κ ν → Nat
  | leaf => 0
  | node level _ _ _ _ => level

/-- The number of entries. -/
def size : Tree κ ν → Nat
  | leaf => 0
  | node _ left _ _ right => left.size + right.size + 1

/-- The entries in order, in front of `rest`. -/
def entriesOnto : Tree κ ν → List (κ × ν) → List (κ × ν)
  | leaf, rest => rest
  | node _ left key value right, rest =>
      left.entriesOnto ((key, value) :: right.entriesOnto rest)

/-- The entries in order. -/
def toList (tree : Tree κ ν) : List (κ × ν) :=
  tree.entriesOnto []

/-- The first entry. -/
def first? : Tree κ ν → Option (κ × ν)
  | leaf => none
  | node _ left key value _ => left.first?.or (some (key, value))

/-- The last entry. -/
def last? : Tree κ ν → Option (κ × ν)
  | leaf => none
  | node _ _ key value right => right.last?.or (some (key, value))

/-! ### Restoring the levels -/

/-- Turns a left child on the level of its parent into a right child. -/
def skew : Tree κ ν → Tree κ ν
  | node level (node leftLevel a leftKey leftValue b) key value c =>
      if leftLevel = level then
        node leftLevel a leftKey leftValue (node level b key value c)
      else
        node level (node leftLevel a leftKey leftValue b) key value c
  | tree => tree

/-- Lifts the middle of three nodes in a row to the right on one level. -/
def split : Tree κ ν → Tree κ ν
  | node level a key value (node rightLevel b rightKey rightValue c) =>
      if c.level = level then
        node (rightLevel + 1) (node level a key value b) rightKey rightValue c
      else
        node level a key value (node rightLevel b rightKey rightValue c)
  | tree => tree

/-- Puts a tree on the given level if it stands above it. -/
def capLevel (cap : Nat) : Tree κ ν → Tree κ ν
  | leaf => leaf
  | node level left key value right => node (min level cap) left key value right

/-- Lowers a node that stands too far above its children. -/
def lower : Tree κ ν → Tree κ ν
  | leaf => leaf
  | node level left key value right =>
      let fitting := min left.level right.level + 1
      if level ≤ fitting then node level left key value right
      else node fitting left key value (right.capLevel fitting)

/-- Changes the right child. -/
def mapRight (f : Tree κ ν → Tree κ ν) : Tree κ ν → Tree κ ν
  | leaf => leaf
  | node level left key value right => node level left key value (f right)

/-- Restores the levels of a tree after an entry below its root has gone. -/
def rebalance (tree : Tree κ ν) : Tree κ ν :=
  let skewed := tree.lower.skew.mapRight fun right => right.skew.mapRight skew
  skewed.split.mapRight split

/-! ### Operations -/

variable (compare : κ → κ → Ordering)

/-- The value of a key. -/
def get? (key : κ) : Tree κ ν → Option ν
  | leaf => none
  | node _ left here value right =>
      match compare key here with
      | .lt => left.get? key
      | .gt => right.get? key
      | .eq => some value

/-- Enters a value. A key that is there already stays as it is and gets the new value. -/
def insert (key : κ) (value : ν) : Tree κ ν → Tree κ ν
  | leaf => node 1 leaf key value leaf
  | node level left here old right =>
      split <| skew <|
        match compare key here with
        | .lt => node level (left.insert key value) here old right
        | .gt => node level left here old (right.insert key value)
        | .eq => node level left here value right

/-- Removes the entry of a key, and is empty if no entry is removed. An entry with a tree below it
is replaced by its neighbour in that tree, on the left if there is a left one. -/
def erase? (key : κ) : Tree κ ν → Option (Tree κ ν)
  | leaf => none
  | node level left here value right =>
      match compare key here with
      | .lt => (left.erase? key).map fun left => rebalance (node level left here value right)
      | .gt => (right.erase? key).map fun right => rebalance (node level left here value right)
      | .eq =>
          match left.last?, right.first? with
          | some previous, _ =>
              (left.erase? previous.1).map fun left =>
                rebalance (node level left previous.1 previous.2 right)
          | none, some next =>
              (right.erase? next.1).map fun right =>
                rebalance (node level leaf next.1 next.2 right)
          | none, none => some leaf

end Tree

end StackProse
