import StackProse.Proofs.Program.Statements
import StackProse.Proofs.Source.Formed
import StackProse.Proofs.Source.Grammar

/-!
# Occurrences of words

A word carries the place where it stands. Tokens stand apart, so the identifiers of a tree begin at
different bytes, and no two words of a source are the same: `Node.nodup_words` says so of the whole
tree, and `Node.nodup_words_inRunOrder` of the statements of one block.
-/

namespace StackProse

/-- No two tokens begin at the same byte. -/
theorem Token.nodup_starts (source : List Char) : ((scan source).map (·.start)).Nodup := by
  have hcuts := cuts_scan source
  rw [List.Nodup, List.pairwise_map]
  apply hcuts.ordered.imp_of_mem
  intro first second hfirst _ hordered
  exact Nat.ne_of_lt (Nat.lt_of_lt_of_le (hcuts.start_lt_stop first hfirst) hordered)

namespace Node

/-! ### Nodes below a node -/

/-- The node is an item or a part, as in the tree of a text. -/
def Formed (node : Node) : Prop :=
  node.ItemFormed ∨ node.PartFormed

/-- A formed node is a leaf, or made of formed nodes. -/
theorem Formed.leaf_or_branch {kind : NodeKind} {text : List Char} {span : Span}
    {position : Position} {missing : Bool} {children : List Node}
    (h : (mk kind text span position missing children).Formed) :
    kind.isLeaf ∧ children = [] ∨
      (kind = .block ∨ kind = .statement) ∧ ∀ child ∈ children, child.Formed := by
  rcases h with hitem | hpart
  · rcases hitem.leaf_or_block.2 with ⟨hleaf, hnone, -⟩ | ⟨hblock, hchildren⟩
    · exact Or.inl ⟨hleaf, hnone⟩
    · exact Or.inr ⟨Or.inl hblock, fun child hchild => Or.inr (hchildren child hchild)⟩
  · cases hpart with
    | statement _ hchildren =>
        exact Or.inr ⟨Or.inr rfl, fun child hchild => Or.inl (hchildren child hchild)⟩
    | comment => exact Or.inl ⟨rfl, rfl⟩
    | absent => exact Or.inl ⟨rfl, rfl⟩

mutual

theorem formed_of_mem_walk {inner : Node} :
    ∀ node : Node, node.Formed → inner ∈ node.walk → inner.Formed
  | mk kind text span position missing children, hformed, hinner => by
      rw [walk, List.mem_cons] at hinner
      rcases hinner with rfl | hinner
      · exact hformed
      · rcases hformed.leaf_or_branch with ⟨-, rfl⟩ | ⟨-, hchildren⟩
        · exact absurd hinner List.not_mem_nil
        · exact formed_of_mem_walkAll children hchildren hinner

theorem formed_of_mem_walkAll {inner : Node} :
    ∀ nodes : List Node, (∀ node ∈ nodes, node.Formed) → inner ∈ walkAll nodes → inner.Formed
  | [], _, hinner => absurd hinner List.not_mem_nil
  | node :: rest, hnodes, hinner => by
      rw [List.forall_mem_cons] at hnodes
      rw [walkAll, List.mem_append] at hinner
      rcases hinner with hinner | hinner
      · exact formed_of_mem_walk node hnodes.1 hinner
      · exact formed_of_mem_walkAll rest hnodes.2 hinner

end

/-- The parts of every block of a tree are formed. -/
theorem partFormed_of_mem_blocks {source : List Char} {block : Node}
    (h : block ∈ (ofSource source).blocks) : ∀ part ∈ block.children, part.PartFormed := by
  rw [blocks, walk_eq, List.mem_filter, List.mem_cons] at h
  obtain ⟨rfl | hinner, hisBlock⟩ := h
  · exact formed_ofSource source
  · have hformed : block.Formed :=
      formed_of_mem_walkAll _ (fun part hpart => Or.inr (formed_ofSource source part hpart)) hinner
    obtain ⟨kind, text, span, position, missing, children⟩ := block
    rcases hformed with hitem | hpart
    · rcases hitem.leaf_or_block.2 with ⟨hleaf, -⟩ | ⟨-, hchildren⟩
      · cases kind <;> contradiction
      · exact hchildren
    · cases hpart <;> contradiction

mutual

theorem walk_sublist {inner : Node} :
    ∀ node : Node, inner ∈ node.walk → inner.walk.Sublist node.walk
  | mk kind text span position missing children, hinner => by
      rw [walk, List.mem_cons] at hinner
      rcases hinner with rfl | hinner
      · exact .refl _
      · exact (walk_sublist_walkAll children hinner).cons _

theorem walk_sublist_walkAll {inner : Node} :
    ∀ nodes : List Node, inner ∈ walkAll nodes → inner.walk.Sublist (walkAll nodes)
  | [], hinner => absurd hinner List.not_mem_nil
  | node :: rest, hinner => by
      rw [walkAll, List.mem_append] at hinner
      rcases hinner with hinner | hinner
      · exact (walk_sublist node hinner).trans (List.sublist_append_left _ _)
      · exact (walk_sublist_walkAll rest hinner).trans (List.sublist_append_right _ _)

end

theorem sublist_walkAll (nodes : List Node) : nodes.Sublist (walkAll nodes) := by
  induction nodes with
  | nil => exact .refl _
  | cons node rest ih =>
      rw [walkAll, walk_eq, List.cons_append]
      exact (ih.trans (List.sublist_append_right _ _)).cons_cons _

/-- The parts of a block in a tree are in the tree. -/
theorem mem_walk_of_mem_children {tree block part : Node} (hblock : block ∈ tree.walk)
    (hpart : part ∈ block.children) : part ∈ tree.walk := by
  apply (walk_sublist tree hblock).subset
  rw [walk_eq]
  exact List.mem_cons_of_mem _ ((sublist_walkAll _).subset hpart)

mutual

/-- A tree has errors if a node of the kind is met on the walk through it. -/
theorem hasErrors_iff_walk : ∀ node : Node,
    node.hasErrors = true ↔ ∃ inner ∈ node.walk, inner.kind = .error
  | mk kind text span position missing children => by
      rw [hasErrors, walk, Bool.or_eq_true, beq_iff_eq, anyHasErrors_iff_walkAll children]
      simp only [List.mem_cons, exists_eq_or_imp, Node.kind]

theorem anyHasErrors_iff_walkAll : ∀ nodes : List Node,
    anyHasErrors nodes = true ↔ ∃ inner ∈ walkAll nodes, inner.kind = .error
  | [] => by simp [anyHasErrors, walkAll]
  | node :: rest => by
      rw [anyHasErrors, walkAll, Bool.or_eq_true, hasErrors_iff_walk node,
        anyHasErrors_iff_walkAll rest]
      simp only [List.mem_append, or_and_right, exists_or]

end

/-- The items of the statements of a block are met on the walk through it. -/
theorem items_sublist (parts : List Node) :
    ((parts.filter (·.kind == .statement)).flatMap items).Sublist (walkAll parts) := by
  induction parts with
  | nil => exact .refl _
  | cons part rest ih =>
      have hitems : part.items.Sublist part.walk := by
        rw [walk_eq]
        exact (List.filter_sublist.trans (sublist_walkAll _)).cons _
      rw [walkAll]
      by_cases hkind : part.kind == .statement
      · rw [List.filter_cons, if_pos hkind, List.flatMap_cons]
        exact hitems.append ih
      · rw [List.filter_cons, if_neg hkind]
        exact ih.trans (List.sublist_append_right _ _)

/-! ### Words -/

/-- Where the identifiers among nodes begin. -/
def identifierStarts (nodes : List Node) : List Nat :=
  (nodes.filter (·.kind == .identifier)).map (·.span.start)

theorem identifierStarts_append (first second : List Node) :
    identifierStarts (first ++ second) = identifierStarts first ++ identifierStarts second := by
  rw [identifierStarts, List.filter_append, List.map_append]
  rfl

mutual

/-- The identifiers of a tree are the identifiers among its tokens. -/
theorem identifierStarts_walk : ∀ node : Node, node.Formed →
    identifierStarts node.walk = (node.written.filter (·.kind == .identifier)).map (·.start)
  | mk kind text span position missing children, hformed => by
      rcases hformed.leaf_or_branch with ⟨hleaf, rfl⟩ | ⟨rfl | rfl, hchildren⟩
      · cases kind <;> rfl
      · rw [walk, written, List.filter_cons_of_neg Bool.false_ne_true, List.filter_append,
          List.filter_cons_of_neg Bool.false_ne_true, List.filter_nil, List.append_nil,
          ← identifierStarts_walkAll children hchildren]
        rfl
      · rw [walk, written, ← identifierStarts_walkAll children hchildren]
        rfl

theorem identifierStarts_walkAll : ∀ nodes : List Node, (∀ node ∈ nodes, node.Formed) →
    identifierStarts (walkAll nodes) =
      ((writtenAll nodes).filter (·.kind == .identifier)).map (·.start)
  | [], _ => rfl
  | node :: rest, hnodes => by
      rw [List.forall_mem_cons] at hnodes
      rw [walkAll, writtenAll, identifierStarts_append, List.filter_append, List.map_append,
        identifierStarts_walk node hnodes.1, identifierStarts_walkAll rest hnodes.2]

end

theorem map_start_words (nodes : List Node) :
    (nodes.filterMap word?).map (·.span.start) = identifierStarts nodes := by
  induction nodes with
  | nil => rfl
  | cons node rest ih =>
      by_cases hkind : node.kind = .identifier
      · have hword : node.word? =
            some ⟨String.ofList (Letter.nameForm node.text), node.span, node.position⟩ :=
          if_pos hkind
        rw [List.filterMap_cons_some hword, List.map_cons, ih, identifierStarts, identifierStarts,
          List.filter_cons, if_pos (beq_iff_eq.2 hkind), List.map_cons]
      · rw [List.filterMap_cons_none (word?_eq_none hkind), ih, identifierStarts, identifierStarts,
          List.filter_cons, if_neg (by rwa [beq_iff_eq])]

/-- No two words of a tree without errors are the same. -/
theorem nodup_words {source : List Char} (h : (ofSource source).hasErrors = false) :
    ((ofSource source).walk.filterMap word?).Nodup := by
  have hformed : ∀ node ∈ (ofSource source).children, node.Formed :=
    fun part hpart => Or.inr (formed_ofSource source part hpart)
  have hwritten : writtenAll (ofSource source).children =
      (Token.scan source).filter (·.kind != .semicolon) := (parts_ofSource h).writtenAll_eq
  apply List.Nodup.of_map (·.span.start)
  rw [walk_eq, List.filterMap_cons_none rfl, map_start_words, identifierStarts_walkAll _ hformed,
    hwritten]
  apply List.Nodup.sublist _ (Token.nodup_starts source)
  exact (List.filter_sublist.trans List.filter_sublist).map _

theorem nodup_words_inRunOrder {source : List Char} (h : (ofSource source).hasErrors = false)
    {block : Node} (hblock : block ∈ (ofSource source).walk) :
    (block.inRunOrder.filterMap word?).Nodup := by
  have hperm : block.inRunOrder.Perm (block.statements.flatMap items) :=
    List.Perm.flatMap_left _ fun statement _ => List.reverse_perm _
  have hsublist : (block.statements.flatMap items).Sublist (ofSource source).walk := by
    apply List.Sublist.trans _ (walk_sublist _ hblock)
    rw [walk_eq]
    exact (items_sublist block.children).cons _
  rw [(hperm.filterMap word?).nodup_iff]
  exact List.Nodup.sublist (hsublist.filterMap word?) (nodup_words h)

end Node

end StackProse
