import StackProse.Proofs.Source.Fitting
import StackProse.Proofs.Source.Positions

/-!
# The places of nodes

Every node of a source tree covers a range of the source: the range lies in that of its parent,
siblings come one after the other, and the position of a node is that of its first byte. A node by
itself is `Node.Consistent` then, and `Node.settled_ofSource` proves it for all nodes of the tree of
every source text, whatever errors it has.

While tokens are read, the parts of each open block lie in a row behind its parenthesis, `Node.Row`.
Each token begins at or behind the end of all that has been read and makes the innermost row longer or
turns its end into one node.
-/

namespace StackProse

/-- A range of bytes lies in the source, and the position is that of its first byte. -/
structure LocatedIn (source : List Char) (span : Span) (position : Position) : Prop where
  start_le_stop : span.start ≤ span.stop
  stop_le : span.stop ≤ utf8Length source
  position_eq : position = .counted source span.start

theorem locatedIn_ofOffset {source : List Char} {span : Span} (hstart : span.start ≤ span.stop)
    (hstop : span.stop ≤ utf8Length source) :
    LocatedIn source span (.ofOffset (lineStarts source) span.start) :=
  ⟨hstart, hstop, Position.ofOffset_lineStarts (Nat.le_trans hstart hstop)⟩

namespace Node

/-- Nodes that lie one after the other between two offsets. -/
inductive Row : Nat → Nat → List Node → Prop
  | nil {low high : Nat} : low ≤ high → Row low high []
  | cons {low high : Nat} {node : Node} {rest : List Node} : low ≤ node.span.start →
      node.span.start ≤ node.span.stop → Row node.span.stop high rest → Row low high (node :: rest)

namespace Row

variable {low middle high : Nat} {node : Node} {nodes first second : List Node}

theorem le (h : Row low high nodes) : low ≤ high := by
  induction h with
  | nil hle => exact hle
  | cons hlow hspan _ ih => omega

theorem extend {higher : Nat} (h : Row low high nodes) (hle : high ≤ higher) :
    Row low higher nodes := by
  induction h with
  | nil hle' => exact .nil (Nat.le_trans hle' hle)
  | cons hlow hspan _ ih => exact .cons hlow hspan (ih hle)

theorem append (h : Row low middle first) (hsecond : Row middle high second) :
    Row low high (first ++ second) := by
  induction h with
  | @nil low middle hle =>
      cases hsecond with
      | nil hle' => exact .nil (Nat.le_trans hle hle')
      | cons hlow hspan hrest => exact .cons (Nat.le_trans hle hlow) hspan hrest
  | cons hlow hspan _ ih => exact .cons hlow hspan (ih hsecond)

theorem exists_of_append (h : Row low high (first ++ second)) :
    ∃ middle, Row low middle first ∧ Row middle high second := by
  induction first generalizing low with
  | nil => exact ⟨low, .nil (Nat.le_refl low), h⟩
  | cons node first ih =>
      cases h with
      | cons hlow hspan hrest =>
          obtain ⟨middle, hfirst, hsecond⟩ := ih hrest
          exact ⟨middle, .cons hlow hspan hfirst, hsecond⟩

/-- A row can be made longer by a node behind it. -/
theorem concat (h : Row low high nodes) (hbehind : high ≤ node.span.start)
    (hspan : node.span.start ≤ node.span.stop) : Row low node.span.stop (nodes ++ [node]) :=
  h.append (.cons hbehind hspan (.nil (Nat.le_refl _)))

/-- Every node of a row lies between the two offsets. -/
theorem bounds (h : Row low high nodes) :
    ∀ node ∈ nodes, low ≤ node.span.start ∧ node.span.stop ≤ high := by
  induction h with
  | nil => exact nofun
  | cons hlow hspan hrest ih =>
      have hle := hrest.le
      refine List.forall_mem_cons.2 ⟨⟨hlow, hle⟩, fun node hnode => ?_⟩
      have hbounds := ih node hnode
      omega

/-- The nodes of a row do not overlap. -/
theorem pairwise (h : Row low high nodes) :
    nodes.Pairwise fun first second => first.span.stop ≤ second.span.start := by
  induction h with
  | nil => exact .nil
  | cons _ _ hrest ih => exact .cons (fun node hnode => (hrest.bounds node hnode).1) ih

/-- A row reaches from its first node to its last one. -/
theorem shrink (h : Row low high (node :: nodes)) :
    low ≤ node.span.start ∧ ((node :: nodes).getLastD node).span.stop ≤ high ∧
      Row node.span.start ((node :: nodes).getLastD node).span.stop (node :: nodes) := by
  induction nodes generalizing low node with
  | nil =>
      cases h with
      | cons hlow hspan hrest =>
          exact ⟨hlow, hrest.le, .cons (Nat.le_refl _) hspan (.nil (Nat.le_refl _))⟩
  | cons next rest ih =>
      cases h with
      | cons hlow hspan hrest =>
          obtain ⟨hnext, hhigh, hshrunk⟩ := ih hrest
          refine ⟨hlow, hhigh, .cons (Nat.le_refl _) hspan ?_⟩
          cases hshrunk with
          | cons _ hspan' hrest' => exact .cons hnext hspan' hrest'

end Row

/-- A node lies in the source, its children lie in it one after the other, and its position is that of
its first byte. -/
structure Consistent (source : List Char) (node : Node) : Prop where
  located : LocatedIn source node.span node.position
  inside : ∀ child ∈ node.children,
    node.span.start ≤ child.span.start ∧ child.span.stop ≤ node.span.stop
  apart : node.children.Pairwise fun first second => first.span.stop ≤ second.span.start

/-- A node and all nodes below it are consistent. -/
inductive Settled (source : List Char) : Node → Prop
  | mk {node : Node} : node.Consistent source → (∀ child ∈ node.children, Settled source child) →
      Settled source node

theorem Settled.consistent {source : List Char} {node : Node} (h : node.Settled source) :
    node.Consistent source := by
  cases h
  assumption

theorem Settled.children {source : List Char} {node : Node} (h : node.Settled source) :
    ∀ child ∈ node.children, child.Settled source := by
  cases h
  assumption

/-- A node whose children lie in a row inside of it is settled if they are. -/
theorem settled_of_row {source : List Char} {node : Node} {low high : Nat}
    (hlocated : LocatedIn source node.span node.position) (hrow : Row low high node.children)
    (hlow : node.span.start ≤ low) (hhigh : high ≤ node.span.stop)
    (hchildren : ∀ child ∈ node.children, child.Settled source) : node.Settled source := by
  refine .mk ⟨hlocated, fun child hchild => ?_, hrow.pairwise⟩ hchildren
  have hbounds := hrow.bounds child hchild
  omega

theorem settled_leaf {source : List Char} {kind : NodeKind} {text : List Char} {span : Span}
    {position : Position} (h : LocatedIn source span position) :
    (leaf kind text span position).Settled source :=
  settled_of_row h (.nil h.start_le_stop) (Nat.le_refl _) (Nat.le_refl _) (List.forall_mem_nil _)

end Node

namespace Draft

/-! ### Parts of blocks -/

/-- What has been read of a block lies in a row between two offsets. -/
structure Part.Row (source : List Char) (low high : Nat) (part : Part) : Prop where
  row : Node.Row low high (part.items ++ part.done).reverse
  settled : ∀ node ∈ part.items ++ part.done, node.Settled source

namespace Part

variable {source : List Char} {low high : Nat} {part : Part} {item : Node}

theorem row_empty (hle : low ≤ high) : Row source low high {} :=
  ⟨.nil hle, List.forall_mem_nil _⟩

theorem Row.extend {higher : Nat} (h : part.Row source low high) (hle : high ≤ higher) :
    part.Row source low higher :=
  ⟨h.row.extend hle, h.settled⟩

theorem Row.add (h : part.Row source low high) (hitem : item.Settled source)
    (hbehind : high ≤ item.span.start) : (part.add item).Row source low item.span.stop := by
  refine ⟨?_, List.forall_mem_cons.2 ⟨hitem, h.settled⟩⟩
  have hrow := h.row.concat hbehind hitem.consistent.located.start_le_stop
  rwa [← List.reverse_cons] at hrow

/-- A statement reaches from its first item to its last one. -/
theorem settled_statementOf {first : Node} {rest : List Node}
    (hrow : Node.Row low high (first :: rest))
    (hitems : ∀ item ∈ first :: rest, item.Settled source) :
    (statementOf first (first :: rest)).Settled source := by
  have hfirst := (hitems first List.mem_cons_self).consistent.located
  have hshrunk := hrow.shrink.2.2
  have hlast : (first :: rest).getLastD first ∈ first :: rest := by
    rw [List.getLastD_cons, ← List.getLast_eq_getLastD]
    exact List.getLast_mem (List.cons_ne_nil first rest)
  refine Node.settled_of_row ⟨hshrunk.le, ?_, hfirst.position_eq⟩ hshrunk (Nat.le_refl _)
    (Nat.le_refl _) hitems
  exact (hitems _ hlast).consistent.located.stop_le

theorem Row.close (h : part.Row source low high) : part.close.Row source low high := by
  rw [Part.close]
  by_cases hcomments : part.items.all (·.kind == .comment)
  · rw [if_pos hcomments]
    exact ⟨h.row, h.settled⟩
  · rw [if_neg hcomments]
    have hrow := h.row
    rw [List.reverse_append] at hrow
    obtain ⟨hsettledItems, hsettledDone⟩ := List.forall_mem_append.1 h.settled
    cases hitems : part.items.reverse with
    | nil =>
        rw [hitems, List.append_nil] at hrow
        exact ⟨hrow, hsettledDone⟩
    | cons first rest =>
        rw [hitems] at hrow
        obtain ⟨middle, hdone, hnew⟩ := hrow.exists_of_append
        have hchildren : ∀ item ∈ first :: rest, item.Settled source := by
          rw [← hitems]
          exact fun item hitem => hsettledItems item (List.mem_reverse.1 hitem)
        have hstatement := settled_statementOf hnew hchildren
        obtain ⟨hlow, hhigh, hshrunk⟩ := hnew.shrink
        refine ⟨?_, List.forall_mem_cons.2 ⟨hstatement, hsettledDone⟩⟩
        change Node.Row low high (statementOf first (first :: rest) :: part.done).reverse
        rw [List.reverse_cons]
        exact hdone.append (.cons hlow hshrunk.le (.nil hhigh))

/-- The finished parts lie in a row. -/
theorem Row.nodes (h : part.Row source low high) :
    Node.Row low high part.nodes ∧ ∀ node ∈ part.nodes, node.Settled source := by
  obtain ⟨hrow, hsettled⟩ := h.close
  rw [items_close, List.nil_append] at hrow hsettled
  exact ⟨hrow, fun node hnode => hsettled node (List.mem_reverse.1 hnode)⟩

end Part

/-! ### Drafts -/

/-- The open blocks around a part that begins at an offset. The parts around each of them end where its
parenthesis begins. -/
inductive Opens (source : List Char) : Nat → List (Token × Part) → Prop
  | file : Opens source 0 []
  | block {low : Nat} {opening : Token} {around : Part} {outer : List (Token × Part)} :
      Opens source low outer → around.Row source low opening.span.start →
      Opens source opening.span.stop ((opening, around) :: outer)

/-- All that has been read of the source lies in rows and ends at or before an offset. While a block is
passed over, the innermost row ends where that block begins. -/
structure Drawn (source : List Char) (reached : Nat) (draft : Draft) : Prop where
  reached_le : reached ≤ utf8Length source
  parts : ∃ low, Opens source low draft.outer ∧
    match draft.skipped with
    | none => draft.inner.Row source low reached
    | some skipped => draft.inner.Row source low skipped.opening.start ∧
        skipped.opening.start ≤ skipped.stop ∧ skipped.stop ≤ reached

section

variable {source : List Char} {reached : Nat} {draft : Draft} {token : Token}

theorem settled_leafOf (kind : NodeKind) (hstop : token.span.stop ≤ utf8Length source) :
    (leafOf (lineStarts source) kind token).Settled source :=
  Node.settled_leaf (locatedIn_ofOffset (Nat.le_add_right _ _) hstop)

theorem settled_skippedLeaf {skipped : Skipped} (hstart : skipped.opening.start ≤ skipped.stop)
    (hstop : skipped.stop ≤ utf8Length source) :
    (skippedLeaf (lineStarts source) skipped).Settled source :=
  Node.settled_leaf (locatedIn_ofOffset hstart hstop)

/-- A parenthesis that is missing at the end of the source. -/
theorem settled_absent (source : List Char) :
    (Node.absent [')'] (utf8Length source)
      (.ofOffset (lineStarts source) (utf8Length source))).Settled source :=
  Node.settled_of_row (locatedIn_ofOffset (Nat.le_refl _) (Nat.le_refl _)) (.nil (Nat.le_refl _))
    (Nat.le_refl _) (Nat.le_refl _) (List.forall_mem_nil _)

/-- A block reaches from its opening parenthesis to its end, with its parts behind the parenthesis. -/
theorem settled_blockOf {opening : Token} {high stop : Nat} {children : List Node}
    (hrow : Node.Row opening.span.stop high children) (hhigh : high ≤ stop)
    (hstop : stop ≤ utf8Length source) (hchildren : ∀ child ∈ children, child.Settled source) :
    (blockOf (lineStarts source) opening stop children).Settled source := by
  have hopening : opening.start ≤ opening.span.stop := Nat.le_add_right _ _
  have hle := hrow.le
  refine Node.settled_of_row (locatedIn_ofOffset ?_ hstop) hrow hopening hhigh hchildren
  exact Nat.le_trans hopening (Nat.le_trans hle hhigh)

theorem drawn_of_row {low : Nat} (hskipped : draft.skipped = none)
    (houter : Opens source low draft.outer) (hinner : draft.inner.Row source low reached)
    (hle : reached ≤ utf8Length source) : draft.Drawn source reached := by
  refine ⟨hle, low, houter, ?_⟩
  rw [hskipped]
  exact hinner

theorem Drawn.extend {further : Nat} (h : draft.Drawn source reached) (hle : reached ≤ further)
    (hfurther : further ≤ utf8Length source) : draft.Drawn source further := by
  obtain ⟨-, low, houter, hinner⟩ := h
  refine ⟨hfurther, low, houter, ?_⟩
  cases hskipped : draft.skipped with
  | none =>
      rw [hskipped] at hinner
      exact hinner.extend hle
  | some skipped =>
      rw [hskipped] at hinner
      exact ⟨hinner.1, hinner.2.1, Nat.le_trans hinner.2.2 hle⟩

theorem Drawn.skip {skipped : Skipped} {low : Nat} (houter : Opens source low draft.outer)
    (hinner : draft.inner.Row source low skipped.opening.start)
    (hstart : skipped.opening.start ≤ token.span.stop)
    (hstop : token.span.stop ≤ utf8Length source) :
    (draft.skip (lineStarts source) skipped token).Drawn source token.span.stop := by
  unfold Draft.skip
  extract_lets nesting passed
  have hleaf : (skippedLeaf (lineStarts source) passed).Settled source :=
    settled_skippedLeaf hstart hstop
  refine ⟨hstop, low, ?_⟩
  split
  · exact ⟨houter, hinner.add hleaf (Nat.le_refl _)⟩
  · exact ⟨houter, hinner, hstart, Nat.le_refl _⟩

/-- A token that begins behind what has been read keeps the draft in rows. -/
theorem Drawn.step (h : draft.Drawn source token.span.start)
    (hstop : token.span.stop ≤ utf8Length source) :
    (draft.step (lineStarts source) token).Drawn source token.span.stop := by
  have hspan : token.span.start ≤ token.span.stop := Nat.le_add_right _ _
  obtain ⟨-, low, houter, hinner⟩ := h
  have hleaf {low : Nat} {part : Part} (kind : NodeKind)
      (hpart : part.Row source low token.span.start) :
      (part.add (leafOf (lineStarts source) kind token)).Row source low token.span.stop :=
    hpart.add (settled_leafOf kind hstop) (Nat.le_refl _)
  rw [Draft.step]
  cases hskipped : draft.skipped with
  | some skipped =>
      rw [hskipped] at hinner
      exact Drawn.skip houter hinner.1 (by omega) hstop
  | none =>
      rw [hskipped] at hinner
      dsimp only at hinner ⊢
      cases token.kind with
      | semicolon => exact drawn_of_row rfl houter (hinner.close.extend hspan) hstop
      | opening =>
          dsimp only
          split
          · exact ⟨hstop, low, houter, hinner, hspan, Nat.le_refl _⟩
          · exact drawn_of_row rfl (.block houter hinner) (Part.row_empty (Nat.le_refl _)) hstop
      | closing =>
          dsimp only
          cases hopened : draft.outer with
          | nil => exact drawn_of_row hskipped houter (hleaf _ hinner) hstop
          | cons opened outer =>
              obtain ⟨opening, around⟩ := opened
              rw [hopened] at houter
              cases houter with
              | block houter haround =>
                  have hnodes := hinner.nodes
                  have hblock := settled_blockOf hnodes.1 hspan hstop hnodes.2
                  exact drawn_of_row rfl houter (haround.add hblock (Nat.le_refl _)) hstop
      | _ => exact drawn_of_row hskipped houter (hleaf _ hinner) hstop

/-- All tokens of what is left of the source keep the draft in rows. -/
theorem Drawn.foldl {text : List Char} {tokens : List Token}
    (hcuts : Token.Cuts reached text tokens) (h : draft.Drawn source reached)
    (hend : reached + utf8Length text = utf8Length source) :
    (tokens.foldl (Draft.step (lineStarts source)) draft).Drawn source (utf8Length source) := by
  induction hcuts generalizing draft with
  | done => exact h.extend h.reached_le (Nat.le_refl _)
  | blank hblank hrest ih =>
      rw [utf8Length_cons] at hend
      exact ih (h.extend (by omega) (by omega)) (by omega)
  | @token token rest tokens hlexeme hrest ih =>
      have hstop : token.span.stop + utf8Length rest = utf8Length source := by
        rw [utf8Length_append] at hend
        simp only [Token.span] at hend ⊢
        omega
      exact ih (h.step (by omega)) hstop

/-- Closing what the source leaves open keeps everything in rows. A missing parenthesis takes no room at
the end of its block. -/
theorem row_closeAll {low : Nat} {inner : Part} {outer : List (Token × Part)}
    (houter : Opens source low outer) (hinner : inner.Row source low (utf8Length source)) :
    Node.Row 0 (utf8Length source)
        (closeAll (lineStarts source) (utf8Length source) inner outer) ∧
      ∀ node ∈ closeAll (lineStarts source) (utf8Length source) inner outer,
        node.Settled source := by
  induction houter generalizing inner with
  | file => exact hinner.nodes
  | @block low opening around outer houter haround ih =>
      have habsent := settled_absent source
      obtain ⟨hrow, hsettled⟩ := hinner.nodes
      have hchildren := List.forall_mem_append.2 ⟨hsettled, List.forall_mem_singleton.2 habsent⟩
      have hblock := settled_blockOf (hrow.concat (Nat.le_refl _) (Nat.le_refl _)) (Nat.le_refl _)
        (Nat.le_refl _) hchildren
      rw [closeAll]
      exact ih (haround.add hblock (Nat.le_refl _))

theorem Drawn.finish (h : draft.Drawn source (utf8Length source)) :
    Node.Row 0 (utf8Length source) (draft.finish (lineStarts source) (utf8Length source)) ∧
      ∀ node ∈ draft.finish (lineStarts source) (utf8Length source), node.Settled source := by
  obtain ⟨-, low, houter, hinner⟩ := h
  rw [Draft.finish]
  cases hskipped : draft.skipped with
  | none =>
      rw [hskipped] at hinner
      exact row_closeAll houter hinner
  | some skipped =>
      rw [hskipped] at hinner
      obtain ⟨hinner, hstart, hstop⟩ := hinner
      have hleaf := settled_skippedLeaf hstart hstop
      exact row_closeAll houter ((hinner.add hleaf (Nat.le_refl _)).extend hstop)

end

end Draft

/-- All nodes of the tree of a source text are consistent. -/
theorem Node.settled_ofSource (source : List Char) : (Node.ofSource source).Settled source := by
  have hempty : Draft.Drawn source 0 {} :=
    Draft.drawn_of_row rfl .file (Draft.Part.row_empty (Nat.le_refl _)) (Nat.zero_le _)
  obtain ⟨hrow, hsettled⟩ :=
    (hempty.foldl (Token.cuts_scan source) (Nat.zero_add _)).finish
  exact Node.settled_of_row ⟨Nat.zero_le _, Nat.le_refl _, rfl⟩ hrow (Nat.le_refl _) (Nat.le_refl _)
    hsettled

end StackProse
