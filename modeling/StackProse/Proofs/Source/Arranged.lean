import StackProse.Source.Node

/-!
# The parts of blocks

In the tree of a source text the parts of a block are statements, with comments and errors between
them: everything else that can be written stands inside a statement. `Node.arranged_ofSource` proves
it for every source text, by what one token preserves and from there over all tokens.
-/

namespace StackProse

namespace Node

/-- A node that can stand between the statements of a block. -/
def IsPart (node : Node) : Prop :=
  node.kind = .statement ∨ node.kind = .comment ∨ node.kind = .error

/-- Every block, at any depth, has statements, comments and errors as its parts. -/
inductive Arranged : Node → Prop
  | mk {kind : NodeKind} {text : List Char} {span : Span} {position : Position} {missing : Bool}
      {children : List Node} : (kind = .block → ∀ child ∈ children, child.IsPart) →
      (∀ child ∈ children, Arranged child) →
      Arranged (.mk kind text span position missing children)

theorem arranged_leaf (kind : NodeKind) (text : List Char) (span : Span) (position : Position) :
    (leaf kind text span position).Arranged :=
  .mk (fun _ => List.forall_mem_nil _) (List.forall_mem_nil _)

end Node

namespace Draft

/-- What has been read of a block so far is arranged. -/
structure Part.Arranged (part : Part) : Prop where
  isPart : ∀ node ∈ part.done, node.IsPart
  done : ∀ node ∈ part.done, node.Arranged
  items : ∀ item ∈ part.items, item.Arranged

/-- All open blocks of a draft are arranged. -/
structure Arranged (draft : Draft) : Prop where
  inner : draft.inner.Arranged
  outer : ∀ opened ∈ draft.outer, opened.2.Arranged

section

variable {part : Part} {item : Node} {starts : List Nat} {draft : Draft}

theorem Part.arranged_empty : Part.Arranged {} :=
  ⟨List.forall_mem_nil _, List.forall_mem_nil _, List.forall_mem_nil _⟩

theorem Part.Arranged.add (h : part.Arranged) (hitem : item.Arranged) : (part.add item).Arranged :=
  ⟨h.isPart, h.done, List.forall_mem_cons.2 ⟨hitem, h.items⟩⟩

/-- A statement that ends becomes a part, and so do comments that stand alone. -/
theorem Part.Arranged.close (h : part.Arranged) : part.close.Arranged := by
  rw [Part.close]
  by_cases hcomments : part.items.all (·.kind == .comment)
  · rw [if_pos hcomments]
    refine ⟨?_, List.forall_mem_append.2 ⟨h.items, h.done⟩, List.forall_mem_nil _⟩
    refine List.forall_mem_append.2 ⟨fun comment hcomment => ?_, h.isPart⟩
    have hkind := List.all_eq_true.1 hcomments comment hcomment
    exact Or.inr (Or.inl (eq_of_beq hkind))
  · rw [if_neg hcomments]
    cases hitems : part.items.reverse with
    | nil => exact ⟨h.isPart, h.done, List.forall_mem_nil _⟩
    | cons first rest =>
        have hstatement : (Part.statementOf first (first :: rest)).Arranged := by
          refine .mk (fun hblock => nomatch hblock) fun child hchild => ?_
          rw [← hitems, List.mem_reverse] at hchild
          exact h.items child hchild
        exact ⟨List.forall_mem_cons.2 ⟨Or.inl rfl, h.isPart⟩,
          List.forall_mem_cons.2 ⟨hstatement, h.done⟩, List.forall_mem_nil _⟩

theorem Part.Arranged.nodes (h : part.Arranged) :
    (∀ node ∈ part.nodes, node.IsPart) ∧ ∀ node ∈ part.nodes, node.Arranged :=
  ⟨fun node hnode => h.close.isPart node (List.mem_reverse.1 hnode),
    fun node hnode => h.close.done node (List.mem_reverse.1 hnode)⟩

theorem arranged_blockOf (opening : Token) (stop : Nat) {children : List Node}
    (hparts : ∀ child ∈ children, child.IsPart) (hchildren : ∀ child ∈ children, child.Arranged) :
    (blockOf starts opening stop children).Arranged :=
  .mk (fun _ => hparts) hchildren

theorem Arranged.add (h : draft.Arranged) (hitem : item.Arranged) : (draft.add item).Arranged :=
  ⟨h.inner.add hitem, h.outer⟩

theorem Arranged.skip (h : draft.Arranged) (skipped : Skipped) (token : Token) :
    (draft.skip starts skipped token).Arranged := by
  unfold Draft.skip
  extract_lets nesting passed
  split
  · exact Arranged.add ⟨h.inner, h.outer⟩ (Node.arranged_leaf _ _ _ _)
  · exact ⟨h.inner, h.outer⟩

/-- A token keeps the draft arranged. -/
theorem Arranged.step (h : draft.Arranged) (token : Token) : (draft.step starts token).Arranged := by
  rw [Draft.step]
  cases draft.skipped with
  | some skipped => exact h.skip skipped token
  | none =>
      dsimp only
      cases token.kind with
      | semicolon => exact ⟨h.inner.close, h.outer⟩
      | opening =>
          dsimp only
          split
          · exact ⟨h.inner, h.outer⟩
          · exact ⟨Part.arranged_empty, List.forall_mem_cons.2 ⟨h.inner, h.outer⟩⟩
      | closing =>
          have houter := h.outer
          dsimp only
          cases hopened : draft.outer with
          | nil => exact h.add (Node.arranged_leaf _ _ _ _)
          | cons opened outer =>
              obtain ⟨opening, around⟩ := opened
              rw [hopened, List.forall_mem_cons] at houter
              have hblock := h.inner.nodes
              exact ⟨houter.1.add (arranged_blockOf _ _ hblock.1 hblock.2), houter.2⟩
      | _ => exact h.add (Node.arranged_leaf _ _ _ _)

theorem Arranged.foldl (h : draft.Arranged) (tokens : List Token) :
    (tokens.foldl (Draft.step starts) draft).Arranged := by
  induction tokens generalizing draft with
  | nil => exact h
  | cons token rest ih => exact ih (h.step token)

/-- Closing what the text leaves open adds missing parentheses, which are errors. -/
theorem arranged_closeAll (stop : Nat) {inner : Part} {outer : List (Token × Part)}
    (hinner : inner.Arranged) (houter : ∀ opened ∈ outer, opened.2.Arranged) :
    (∀ node ∈ closeAll starts stop inner outer, node.IsPart) ∧
      ∀ node ∈ closeAll starts stop inner outer, node.Arranged := by
  induction outer generalizing inner with
  | nil => exact hinner.nodes
  | cons opened outer ih =>
      obtain ⟨opening, around⟩ := opened
      rw [List.forall_mem_cons] at houter
      refine ih (houter.1.add (arranged_blockOf _ _ ?_ ?_)) houter.2
      · refine List.forall_mem_append.2 ⟨hinner.nodes.1, ?_⟩
        exact List.forall_mem_singleton.2 (Or.inr (Or.inr rfl))
      · refine List.forall_mem_append.2 ⟨hinner.nodes.2, List.forall_mem_singleton.2 ?_⟩
        exact .mk (fun _ => List.forall_mem_nil _) (List.forall_mem_nil _)

end

end Draft

/-- The parts of a file are arranged as the parts of a block are. -/
theorem Node.arranged_ofSource (source : List Char) :
    (∀ child ∈ (Node.ofSource source).children, child.IsPart) ∧
      ∀ child ∈ (Node.ofSource source).children, child.Arranged := by
  have hempty : Draft.Arranged {} := ⟨Draft.Part.arranged_empty, List.forall_mem_nil _⟩
  have hdraft : ((Token.scan source).foldl (Draft.step (lineStarts source)) {}).Arranged :=
    hempty.foldl (Token.scan source)
  rw [Node.ofSource]
  dsimp only [Node.branch, Node.children, Draft.finish]
  split
  · exact Draft.arranged_closeAll _ hdraft.inner hdraft.outer
  · exact Draft.arranged_closeAll _ (hdraft.inner.add (Node.arranged_leaf _ _ _ _)) hdraft.outer

end StackProse
