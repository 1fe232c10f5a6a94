import StackProse.Proofs.Table.Changes

/-!
# The levels of tables

Every tree that tables are made of is `Tree.Leveled`: a left child stands exactly one level below
its parent, a right child on the level of its parent or one below, and a right child of a right
child strictly below its grandparent.

Entering a key can lift a subtree by one level, and removing one can lower it by one. Both are
repaired one node at a time on the way up, and what the repair of a node needs to know of the
subtree below is said by `Tree.InsertLevels` and `Tree.EraseLevels`. Nothing here looks at the
answers of the comparison, so the levels are right for comparisons that are no orders too.
-/

namespace StackProse

namespace Tree

variable {κ ν : Type}

/-- The level of the right child. -/
def rightLevel : Tree κ ν → Nat
  | leaf => 0
  | node _ _ _ _ right => right.level

/-- The rule of the levels, at every node of a tree. -/
def Leveled : Tree κ ν → Prop
  | leaf => True
  | node level left _ _ right =>
      left.Leveled ∧ right.Leveled ∧ left.level + 1 = level ∧
        (right.level = level ∨ right.level + 1 = level) ∧ right.rightLevel < level

@[simp]
theorem level_leaf : (leaf : Tree κ ν).level = 0 :=
  rfl

@[simp]
theorem level_node (level : Nat) (left : Tree κ ν) (key : κ) (value : ν) (right : Tree κ ν) :
    (node level left key value right).level = level :=
  rfl

@[simp]
theorem rightLevel_leaf : (leaf : Tree κ ν).rightLevel = 0 :=
  rfl

@[simp]
theorem rightLevel_node (level : Nat) (left : Tree κ ν) (key : κ) (value : ν)
    (right : Tree κ ν) : (node level left key value right).rightLevel = right.level :=
  rfl

@[simp]
theorem leveled_leaf : (leaf : Tree κ ν).Leveled :=
  trivial

theorem Leveled.rightLevel_le {tree : Tree κ ν} (h : tree.Leveled) :
    tree.rightLevel ≤ tree.level := by
  cases tree with
  | leaf => exact le_rfl
  | node level left key value right =>
      obtain ⟨-, -, -, hside, -⟩ := h
      simp only [rightLevel_node, level_node]
      omega

/-! ### Turning and lifting -/

section Repairs

variable {level leftLevel upper : Nat} {a b c left right : Tree κ ν} {key leftKey rightKey : κ}
  {value leftValue rightValue : ν}

theorem skew_eq_of_level_eq :
    skew (node level (node level a leftKey leftValue b) key value c) =
      node level a leftKey leftValue (node level b key value c) := by
  rw [skew, if_pos rfl]

theorem skew_eq_self_of_level_ne (h : left.level ≠ level) :
    skew (node level left key value right) = node level left key value right := by
  cases left with
  | leaf => rfl
  | node leftLevel a leftKey leftValue b =>
      rw [skew]
      exact if_neg h

theorem split_eq_of_level_eq (h : c.level = level) :
    split (node level a key value (node upper b rightKey rightValue c)) =
      node (upper + 1) (node level a key value b) rightKey rightValue c := by
  rw [split, if_pos h]

theorem split_eq_self_of_level_ne (h : right.rightLevel ≠ level) :
    split (node level left key value right) = node level left key value right := by
  cases right with
  | leaf => rfl
  | node rightLevel b rightKey rightValue c =>
      rw [split]
      exact if_neg h

/-- There is nothing to turn in a tree with right levels. -/
theorem Leveled.skew_eq_self {tree : Tree κ ν} (h : tree.Leveled) : tree.skew = tree := by
  cases tree with
  | leaf => rfl
  | node level left key value right =>
      obtain ⟨-, -, hleft, -, -⟩ := h
      exact skew_eq_self_of_level_ne (by omega)

/-- There is nothing to lift in a tree with right levels. -/
theorem Leveled.split_eq_self {tree : Tree κ ν} (h : tree.Leveled) : tree.split = tree := by
  cases tree with
  | leaf => rfl
  | node level left key value right =>
      obtain ⟨-, -, -, -, hgrand⟩ := h
      exact split_eq_self_of_level_ne (by omega)

theorem mapRight_eq_self {f : Tree κ ν → Tree κ ν} (h : f right = right) :
    (node level left key value right).mapRight f = node level left key value right := by
  rw [mapRight, h]

end Repairs

/-- Turning never moves a tree to another level. -/
@[simp]
theorem level_skew (tree : Tree κ ν) : tree.skew.level = tree.level := by
  unfold skew
  split
  · split
    · assumption
    · rfl
  · rfl

/-- One turn and one lift put a node right whose children have right levels of their own, if the
left child stands too high by at most one level and the right child not at all. The node rises
only where three nodes stand on its level, and has then a right child below it. -/
theorem leveled_split_skew {level : Nat} {left right : Tree κ ν} (key : κ) (value : ν)
    (hleft : left.Leveled) (hright : right.Leveled)
    (hbelow : left.level + 1 = level ∨ left.level = level ∧ left.rightLevel < level)
    (hside : right.level = level ∨ right.level + 1 = level) :
    let repaired := split (skew (node level left key value right))
    repaired.Leveled ∧
      (repaired.level = level ∨
        repaired.level = level + 1 ∧ repaired.rightLevel < repaired.level ∧
          right.level = level ∧ (left.level = level ∨ right.rightLevel = level)) := by
  intro repaired
  have hrightLe := hright.rightLevel_le
  rcases hbelow with hbelow | ⟨hhigh, hthin⟩
  · have hstay : repaired = split (node level left key value right) := by
      simp only [repaired, skew_eq_self_of_level_ne (show left.level ≠ level by omega)]
    by_cases hwide : right.rightLevel = level
    · cases right with
      | leaf => simp only [rightLevel_leaf] at hwide; omega
      | node upper b rightKey rightValue c =>
          obtain ⟨hb, hc, hbelowRight, hsideRight, hgrandRight⟩ := hright
          simp only [level_node, rightLevel_node] at hside hrightLe hwide
          obtain rfl : upper = level := by omega
          have hbLe := hb.rightLevel_le
          have hlow : (node upper left key value b).Leveled :=
            ⟨hleft, hb, hbelow, by omega, by omega⟩
          rw [hstay, split_eq_of_level_eq hwide]
          refine ⟨⟨hlow, hc, rfl, by omega, by omega⟩, Or.inr ⟨rfl, ?_, rfl, Or.inr hwide⟩⟩
          simp only [rightLevel_node, level_node]
          omega
    · rw [hstay, split_eq_self_of_level_ne hwide]
      exact ⟨⟨hleft, hright, hbelow, hside, by omega⟩, Or.inl rfl⟩
  · cases left with
    | leaf => simp only [rightLevel_leaf, level_leaf] at hhigh hthin; omega
    | node upper a leftKey leftValue b =>
        obtain ⟨ha, hb, hbelowLeft, hsideLeft, -⟩ := hleft
        simp only [level_node, rightLevel_node] at hhigh hthin
        obtain rfl := hhigh
        have hbLe := hb.rightLevel_le
        have hturned : repaired =
            split (node upper a leftKey leftValue (node upper b key value right)) := by
          simp only [repaired, skew_eq_of_level_eq]
        by_cases hwide : right.level = upper
        · have hlow : (node upper a leftKey leftValue b).Leveled :=
            ⟨ha, hb, hbelowLeft, hsideLeft, by omega⟩
          rw [hturned, split_eq_of_level_eq hwide]
          refine ⟨⟨hlow, hright, rfl, by omega, by omega⟩,
            Or.inr ⟨rfl, ?_, hwide, Or.inl rfl⟩⟩
          simp only [rightLevel_node, level_node]
          omega
        · rw [hturned, split_eq_self_of_level_ne (by simpa using hwide)]
          have hlow : (node upper b key value right).Leveled :=
            ⟨hb, hright, by omega, hside, by omega⟩
          refine ⟨⟨ha, hlow, hbelowLeft, Or.inl rfl, ?_⟩, Or.inl rfl⟩
          simp only [rightLevel_node]
          omega

/-! ### Entering a key -/

/-- What entering a key does to the levels of a tree: it keeps the level or lifts it by one. Only
a tree with its right child on its own level is lifted, and a lifted tree has its right child
below. -/
def InsertLevels (before after : Tree κ ν) : Prop :=
  after.Leveled ∧
    (after.level = before.level ∨
      after.level = before.level + 1 ∧ after.rightLevel < after.level ∧
        before.rightLevel = before.level)

section Insert

variable {level : Nat} {left left' right right' : Tree κ ν} {key : κ} {value : ν}

/-- A lifted left child has its own right child below it, so one turn and one lift are enough. -/
theorem InsertLevels.repair_left (hnode : (node level left key value right).Leveled)
    (hleft : InsertLevels left left') :
    InsertLevels (node level left key value right)
      (split (skew (node level left' key value right))) := by
  obtain ⟨-, hright, hbelow, hside, -⟩ := hnode
  obtain ⟨hleft', hmove⟩ := hleft
  have hhigh : left'.level + 1 = level ∨ left'.level = level ∧ left'.rightLevel < level := by
    omega
  obtain ⟨hfits, hkept | ⟨hlifted, hthin, hwide, -⟩⟩ :=
    leveled_split_skew key value hleft' hright hhigh hside
  · exact ⟨hfits, Or.inl hkept⟩
  · exact ⟨hfits, Or.inr ⟨hlifted, hthin, hwide⟩⟩

/-- A right child is lifted above the level of its parent only from that level, and then the rule
for grandchildren was broken before. -/
theorem InsertLevels.repair_right (hnode : (node level left key value right).Leveled)
    (hright : InsertLevels right right') :
    InsertLevels (node level left key value right)
      (split (skew (node level left key value right'))) := by
  obtain ⟨hleft, -, hbelow, hside, hgrand⟩ := hnode
  obtain ⟨hright', hmove⟩ := hright
  have hside' : right'.level = level ∨ right'.level + 1 = level := by
    omega
  obtain ⟨hfits, hkept | ⟨hlifted, hthin, hwide, hthree⟩⟩ :=
    leveled_split_skew key value hleft hright' (Or.inl hbelow) hside'
  · exact ⟨hfits, Or.inl hkept⟩
  · have hbefore : right.level = level := by
      omega
    exact ⟨hfits, Or.inr ⟨hlifted, hthin, hbefore⟩⟩

/-- Entering a key keeps the levels right, whatever the comparison answers. -/
theorem Leveled.insertLevels (compare : κ → κ → Ordering) (key : κ) (value : ν)
    {tree : Tree κ ν} (h : tree.Leveled) :
    InsertLevels tree (tree.insert compare key value) := by
  induction tree with
  | leaf =>
      exact ⟨⟨trivial, trivial, rfl, Or.inr rfl, Nat.one_pos⟩,
        Or.inr ⟨rfl, Nat.one_pos, rfl⟩⟩
  | node level left here old right ihLeft ihRight =>
      rw [insert]
      cases compare key here with
      | lt => exact InsertLevels.repair_left h (ihLeft h.1)
      | gt => exact InsertLevels.repair_right h (ihRight h.2.1)
      | eq =>
          have hsame : (node level left here value right).Leveled := h
          simp only [hsame.skew_eq_self, hsame.split_eq_self]
          exact ⟨hsame, Or.inl rfl⟩

end Insert

/-! ### Removing a key -/

/-- What removing a key does to the levels of a tree: it keeps the level or lowers it by one. Where
the level is kept, a right child that stood below the root still does. -/
def EraseLevels (before after : Tree κ ν) : Prop :=
  after.Leveled ∧
    (after.level = before.level ∧
        (before.rightLevel < before.level → after.rightLevel < after.level) ∨
      after.level + 1 = before.level)

section Erase

variable {level low : Nat} {left left' right right' : Tree κ ν} {key here : κ} {value old : ν}

theorem capLevel_eq_self {tree : Tree κ ν} (h : tree.level ≤ low) : tree.capLevel low = tree := by
  cases tree with
  | leaf => rfl
  | node level left key value right =>
      have hmin : min level low = level := Nat.min_eq_left h
      rw [capLevel, hmin]

theorem Leveled.lower_eq_self {tree : Tree κ ν} (h : tree.Leveled) : tree.lower = tree := by
  cases tree with
  | leaf => rfl
  | node level left key value right =>
      obtain ⟨-, -, hbelow, hside, -⟩ := h
      rw [lower]
      exact if_pos (by omega)

/-- A node that stands two levels above a child is lowered by one, and a right child on the level
of the node with it. -/
theorem lower_eq_of_gap (h : min left.level right.level + 1 = low) :
    lower (node (low + 1) left key value right) =
      node low left key value (right.capLevel low) := by
  rw [lower, h]
  exact if_neg (by omega)

/-- The second half of the repair, once the root has been lowered and turned. -/
theorem rebalance_eq {tree : Tree κ ν}
    (h : tree.lower.skew = node level left key value right) :
    tree.rebalance =
      (node level left key value (right.skew.mapRight skew)).split.mapRight split := by
  simp only [rebalance, h, mapRight]

/-- A right child with right levels passes all turns unchanged. -/
theorem Leveled.skew_mapRight_skew_eq_self {tree : Tree κ ν} (h : tree.Leveled) :
    tree.skew.mapRight skew = tree := by
  rw [h.skew_eq_self]
  cases tree with
  | leaf => rfl
  | node level left key value right => exact mapRight_eq_self (h.2.1.skew_eq_self)

/-- There is nothing to repair in a tree with right levels. -/
theorem Leveled.rebalance_eq_self {tree : Tree κ ν} (h : tree.Leveled) :
    tree.rebalance = tree := by
  cases tree with
  | leaf => rfl
  | node level left key value right =>
      have hturned : (node level left key value right).lower.skew =
          node level left key value right := by
        rw [h.lower_eq_self, h.skew_eq_self]
      rw [rebalance_eq hturned, h.2.1.skew_mapRight_skew_eq_self, h.split_eq_self]
      exact mapRight_eq_self (h.2.1.split_eq_self)

/-- Both children stand low enough after the root has been lowered. The root rises again where the
right child brings two nodes on the new level. -/
theorem rebalance_left_gap (hleft : left.Leveled) (hright : right.Leveled)
    (hlow : left.level + 1 = low) (hside : right.level = low) :
    let repaired := rebalance (node (low + 1) left key value right)
    repaired.Leveled ∧
      (repaired.level = low + 1 ∧ repaired.rightLevel < low + 1 ∨ repaired.level = low) := by
  intro repaired
  have hlowered : (node (low + 1) left key value right).lower.skew =
      node low left key value right := by
    rw [lower_eq_of_gap (by omega), capLevel_eq_self (by omega),
      skew_eq_self_of_level_ne (by omega)]
  have hspine : repaired = (node low left key value right).split.mapRight split := by
    simp only [repaired, rebalance_eq hlowered, hright.skew_mapRight_skew_eq_self]
  obtain ⟨hfits, hlevel⟩ :=
    leveled_split_skew key value hleft hright (Or.inl hlow) (Or.inl hside)
  rw [skew_eq_self_of_level_ne (by omega)] at hfits hlevel
  have hdone : repaired = (node low left key value right).split := by
    rw [hspine]
    cases hsplit : (node low left key value right).split with
    | leaf => rfl
    | node upper a rightKey rightValue b =>
        rw [hsplit] at hfits
        exact mapRight_eq_self (hfits.2.1.split_eq_self)
  rw [hdone]
  refine ⟨hfits, ?_⟩
  omega

/-- The right child stood on the level of the root and is lowered with it, which leaves up to six
nodes on the new level. The first lift splits off the root, and the rest of them is again a node
with at most one left child too many. -/
theorem rebalance_left_gap_wide (hleft : left.Leveled) (hright : right.Leveled)
    (hlow : left.level + 1 = low) (hside : right.level = low + 1)
    (hgrand : right.rightLevel < low + 1) :
    let repaired := rebalance (node (low + 1) left key value right)
    repaired.Leveled ∧ repaired.level = low + 1 := by
  intro repaired
  cases right with
  | leaf => simp at hside
  | node upper inner rightKey rightValue c =>
      obtain ⟨hinner, hc, hbelowRight, hsideRight, -⟩ := hright
      simp only [level_node, rightLevel_node] at hside hgrand
      cases inner with
      | leaf => simp only [level_leaf] at hbelowRight; omega
      | node innerLevel x innerKey innerValue y =>
          obtain ⟨hx, hy, hbelowInner, hsideInner, hgrandInner⟩ := hinner
          simp only [level_node] at hbelowRight
          obtain rfl : innerLevel = low := by omega
          have hlowered : (node (innerLevel + 1) left key value
              (node upper (node innerLevel x innerKey innerValue y) rightKey rightValue
                c)).lower.skew =
              node innerLevel left key value
                (node innerLevel (node innerLevel x innerKey innerValue y) rightKey rightValue
                  c) := by
            have hcap : min upper innerLevel = innerLevel := by omega
            rw [lower_eq_of_gap (by simp only [level_node]; omega), capLevel, hcap,
              skew_eq_self_of_level_ne (by omega)]
          -- the root and the two nodes after it are done; what is left is one node to repair
          have hspine : repaired =
              node (innerLevel + 1) (node innerLevel left key value x) innerKey innerValue
                (split (skew (node innerLevel y rightKey rightValue c))) := by
            simp only [repaired, rebalance_eq hlowered, skew_eq_of_level_eq, mapRight]
            rw [split_eq_of_level_eq (by simp)]
          have hbelowRest : y.level + 1 = innerLevel ∨
              y.level = innerLevel ∧ y.rightLevel < innerLevel := by
            omega
          have hsideRest : c.level = innerLevel ∨ c.level + 1 = innerLevel := by
            omega
          obtain ⟨hfits, hlevel⟩ :=
            leveled_split_skew rightKey rightValue hy hc hbelowRest hsideRest
          have hxLe := hx.rightLevel_le
          have hrestLe := hfits.rightLevel_le
          have hlow' : (node innerLevel left key value x).Leveled :=
            ⟨hleft, hx, hlow, by omega, by omega⟩
          rw [hspine]
          exact ⟨⟨hlow', hfits, rfl, by omega, by omega⟩, rfl⟩

/-- The left child stands on the new level of the root and is turned to the right, and its own
right child may follow it. -/
theorem rebalance_right_gap (hleft : left.Leveled) (hright : right.Leveled)
    (hlow : left.level = low) (hside : right.level + 1 = low) :
    let repaired := rebalance (node (low + 1) left key value right)
    repaired.Leveled ∧
      (repaired.level = low + 1 ∧ repaired.rightLevel < low + 1 ∨ repaired.level = low) := by
  intro repaired
  have hrightLe := hright.rightLevel_le
  cases left with
  | leaf => simp only [level_leaf] at hlow; omega
  | node upper a leftKey leftValue b =>
      obtain ⟨ha, hb, hbelow, hsideLeft, hgrand⟩ := hleft
      obtain rfl : upper = low := hlow
      have hlowered : (node (upper + 1) (node upper a leftKey leftValue b) key value
          right).lower.skew = node upper a leftKey leftValue (node upper b key value right) := by
        rw [lower_eq_of_gap (by simp only [level_node]; omega), capLevel_eq_self (by omega),
          skew_eq_of_level_eq]
      by_cases hwide : b.level = upper
      · cases b with
        | leaf => simp only [level_leaf] at hwide; omega
        | node innerLevel c innerKey innerValue d =>
            obtain ⟨hc, hd, hbelowInner, hsideInner, -⟩ := hb
            simp only [level_node, rightLevel_node] at hwide hgrand
            obtain rfl := hwide
            have hcLe := hc.rightLevel_le
            have hright' : (node innerLevel d key value right).Leveled :=
              ⟨hd, hright, by omega, by omega, by omega⟩
            have hleft' : (node innerLevel a leftKey leftValue c).Leveled :=
              ⟨ha, hc, hbelow, by omega, by omega⟩
            have hspine : repaired =
                node (innerLevel + 1) (node innerLevel a leftKey leftValue c) innerKey innerValue
                  (node innerLevel d key value right) := by
              simp only [repaired, rebalance_eq hlowered, skew_eq_of_level_eq, mapRight,
                hright'.skew_eq_self]
              rw [split_eq_of_level_eq (by simp)]
              simp only [hright'.split_eq_self]
            rw [hspine]
            refine ⟨⟨hleft', hright', rfl, Or.inr rfl, ?_⟩, Or.inl ⟨rfl, ?_⟩⟩
            · simp only [rightLevel_node]
              omega
            · simp only [rightLevel_node, level_node]
              omega
      · have hright' : (node upper b key value right).Leveled :=
          ⟨hb, hright, by omega, by omega, by omega⟩
        have hfits : (node upper a leftKey leftValue (node upper b key value right)).Leveled := by
          refine ⟨ha, hright', hbelow, Or.inl rfl, ?_⟩
          simp only [rightLevel_node]
          omega
        have hspine : repaired =
            node upper a leftKey leftValue (node upper b key value right) := by
          simp only [repaired, rebalance_eq hlowered, hright'.skew_mapRight_skew_eq_self,
            hfits.split_eq_self]
          exact mapRight_eq_self hright'.split_eq_self
        rw [hspine]
        exact ⟨hfits, Or.inr rfl⟩

/-- A node is put right after its left child has lost an entry, and with it the node's own entry
may have been replaced. -/
theorem EraseLevels.repair_left (hnode : (node level left here old right).Leveled)
    (hleft : EraseLevels left left') :
    EraseLevels (node level left here old right)
      (rebalance (node level left' key value right)) := by
  obtain ⟨-, hright, hbelow, hside, hgrand⟩ := hnode
  obtain ⟨hleft', ⟨hkept, -⟩ | hlowered⟩ := hleft
  · have hfits : (node level left' key value right).Leveled :=
      ⟨hleft', hright, by omega, hside, hgrand⟩
    rw [hfits.rebalance_eq_self]
    exact ⟨hfits, Or.inl ⟨rfl, id⟩⟩
  · obtain ⟨low, rfl⟩ : ∃ low, level = low + 1 := ⟨left.level, hbelow.symm⟩
    rcases hside with hwide | hnarrow
    · obtain ⟨hfits, hlevel⟩ :=
        rebalance_left_gap_wide hleft' hright (show left'.level + 1 = low by omega) hwide hgrand
      refine ⟨hfits, Or.inl ⟨hlevel, fun hthin => ?_⟩⟩
      simp only [rightLevel_node, level_node] at hthin
      omega
    · obtain ⟨hfits, ⟨hlevel, hthin⟩ | hlevel⟩ :=
        rebalance_left_gap hleft' hright (show left'.level + 1 = low by omega)
          (show right.level = low by omega)
      · exact ⟨hfits, Or.inl ⟨hlevel, fun _ => by rwa [hlevel]⟩⟩
      · exact ⟨hfits, Or.inr (by rw [hlevel, level_node])⟩

/-- A node is put right after its right child has lost an entry. -/
theorem EraseLevels.repair_right (hnode : (node level left here old right).Leveled)
    (hright : EraseLevels right right') :
    EraseLevels (node level left here old right)
      (rebalance (node level left key value right')) := by
  obtain ⟨hleft, -, hbelow, hside, hgrand⟩ := hnode
  obtain ⟨hright', hmove⟩ := hright
  have hrightLe := hright'.rightLevel_le
  by_cases hgap : right'.level + 2 = level
  · obtain ⟨low, rfl⟩ : ∃ low, level = low + 1 := ⟨left.level, hbelow.symm⟩
    obtain ⟨hfits, ⟨hlevel, hthin⟩ | hlevel⟩ :=
      rebalance_right_gap hleft hright' (show left.level = low by omega)
        (show right'.level + 1 = low by omega)
    · exact ⟨hfits, Or.inl ⟨hlevel, fun _ => by rwa [hlevel]⟩⟩
    · exact ⟨hfits, Or.inr (by rw [hlevel, level_node])⟩
  · have hfits : (node level left key value right').Leveled :=
      ⟨hleft, hright', hbelow, by omega, by omega⟩
    rw [hfits.rebalance_eq_self]
    refine ⟨hfits, Or.inl ⟨rfl, fun hthin => ?_⟩⟩
    simp only [rightLevel_node, level_node] at hthin ⊢
    omega

theorem last?_eq_none {tree : Tree κ ν} (h : tree.last? = none) : tree = leaf := by
  cases tree with
  | leaf => rfl
  | node level left key value right => simp [last?] at h

/-- Removing a key keeps the levels right, whatever the comparison answers. -/
theorem Leveled.eraseLevels (compare : κ → κ → Ordering) (key : κ) {tree after : Tree κ ν}
    (h : tree.Leveled) (herase : tree.erase? compare key = some after) :
    EraseLevels tree after := by
  induction tree generalizing key after with
  | leaf => simp [erase?] at herase
  | node level left here old right ihLeft ihRight =>
      rw [erase?] at herase
      cases hcompare : compare key here with
      | lt =>
          simp only [hcompare, Option.map_eq_some_iff] at herase
          obtain ⟨left', hleft', rfl⟩ := herase
          exact EraseLevels.repair_left h (ihLeft key h.1 hleft')
      | gt =>
          simp only [hcompare, Option.map_eq_some_iff] at herase
          obtain ⟨right', hright', rfl⟩ := herase
          exact EraseLevels.repair_right h (ihRight key h.2.1 hright')
      | eq =>
          simp only [hcompare] at herase
          -- the entry of the root goes; a neighbour takes its place if there is one
          cases hlast : left.last? with
          | some previous =>
              simp only [hlast, Option.map_eq_some_iff] at herase
              obtain ⟨left', hleft', rfl⟩ := herase
              exact EraseLevels.repair_left h (ihLeft previous.1 h.1 hleft')
          | none =>
              obtain rfl := last?_eq_none hlast
              cases hfirst : right.first? with
              | some next =>
                  simp only [hlast, hfirst, Option.map_eq_some_iff] at herase
                  obtain ⟨right', hright', rfl⟩ := herase
                  exact EraseLevels.repair_right h (ihRight next.1 h.2.1 hright')
              | none =>
                  simp only [hlast, hfirst, Option.some.injEq] at herase
                  subst herase
                  exact ⟨trivial, Or.inr h.2.2.1⟩

end Erase

end Tree

namespace Table

variable {κ ν : Type}

/-- A change keeps the levels right. -/
theorem leveled_change (compare : κ → κ → Ordering) {table : Table κ ν}
    (h : table.root.Leveled) (last : Change κ ν) : (table.change compare last).root.Leveled := by
  cases last with
  | insert key value => exact (h.insertLevels compare key value).1
  | erase key =>
      rw [change, erase]
      cases herase : table.root.erase? compare key with
      | none => exact h
      | some root => exact (h.eraseLevels compare key herase).1

/-- Every table that a program can hold is leveled, with no assumption on the comparison. -/
theorem leveled_ofChanges (compare : κ → κ → Ordering) (changes : List (Change κ ν)) :
    (ofChanges compare changes).root.Leveled := by
  refine ofChanges_induction (P := fun table => table.root.Leveled) compare trivial ?_ changes
    fun change _ => Set.mem_univ change.key
  intro table htable last _
  exact leveled_change compare htable last

end Table

end StackProse
