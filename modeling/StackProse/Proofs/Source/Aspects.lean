import Mathlib.Data.List.Forall2
import StackProse.Program.Assembly

/-!
# Aspects of source trees

Two source texts can differ in ways that do not matter for the program that they make. An `Aspect` says
what counts in a source tree: how the texts of its leaves are compared, and whether comments and places
are. `Node.seen` is what is seen of a tree under an aspect.

Arranging respects every aspect. Tokens that look alike take drafts that look alike to drafts that
look alike (`Draft.Like.step`), and where comments do not count, a comment makes no difference
(`Draft.Like.comment`).
-/

namespace StackProse

/-- What counts in a source tree. The text of a leaf may be seen in another form, from which the same
is read. -/
structure Aspect where
  /-- Whether comments and places count. -/
  isExact : Bool
  /-- The form in which the text of a leaf is seen. -/
  text : NodeKind → List Char → List Char
  text_nil : ∀ kind, text kind [] = []
  nameForm_text : ∀ written, Letter.nameForm (text .identifier written) = Letter.nameForm written
  literalOf?_text : ∀ kind written,
    Assembly.literalOf? kind (text kind written) = Assembly.literalOf? kind written
  leafProblem_text : ∀ kind written,
    Assembly.leafProblem kind (text kind written) = Assembly.leafProblem kind written

namespace Aspect

variable (aspect : Aspect)

/-- What is seen of a range of bytes. -/
def span (span : Span) : Span :=
  if aspect.isExact then span else {}

/-- What is seen of a position. -/
def position (position : Position) : Position :=
  if aspect.isExact then position else {}

/-- Whether anything is seen of a node. -/
def counts (node : Node) : Bool :=
  aspect.isExact || node.kind != .comment

variable {aspect}

theorem span_congr {first second : Span} (h : aspect.isExact → first = second) :
    aspect.span first = aspect.span second := by
  rw [span, span]
  split
  · rename_i hexact
    rw [h hexact]
  · rfl

theorem position_congr {first second : Position} (h : aspect.isExact → first = second) :
    aspect.position first = aspect.position second := by
  rw [position, position]
  split
  · rename_i hexact
    rw [h hexact]
  · rfl

end Aspect

namespace Node

mutual

/-- What is seen of a node. -/
def seen (aspect : Aspect) : Node → Node
  | mk kind text span position missing children =>
      mk kind (if missing then text else aspect.text kind text) (aspect.span span)
        (aspect.position position) missing (seenAll aspect children)

/-- What is seen of nodes. -/
def seenAll (aspect : Aspect) : List Node → List Node
  | [] => []
  | node :: rest =>
      if aspect.counts node then node.seen aspect :: seenAll aspect rest else seenAll aspect rest

end

variable {aspect : Aspect}

theorem kind_seen (node : Node) : (node.seen aspect).kind = node.kind := by
  cases node
  rfl

theorem span_seen (node : Node) : (node.seen aspect).span = aspect.span node.span := by
  cases node
  rfl

theorem position_seen (node : Node) :
    (node.seen aspect).position = aspect.position node.position := by
  cases node
  rfl

theorem seenAll_eq (nodes : List Node) :
    seenAll aspect nodes = (nodes.filter aspect.counts).map (seen aspect) := by
  induction nodes with
  | nil => rfl
  | cons node rest ih =>
      rw [seenAll, List.filter_cons]
      split
      · rw [ih, List.map_cons]
      · exact ih

theorem seenAll_append (first second : List Node) :
    seenAll aspect (first ++ second) = seenAll aspect first ++ seenAll aspect second := by
  simp only [seenAll_eq, List.filter_append, List.map_append]

theorem seenAll_reverse (nodes : List Node) :
    seenAll aspect nodes.reverse = (seenAll aspect nodes).reverse := by
  simp only [seenAll_eq, List.filter_reverse, List.map_reverse]

theorem seenAll_cons_congr {node other : Node} {nodes others : List Node}
    (hnode : node.seen aspect = other.seen aspect)
    (hnodes : seenAll aspect nodes = seenAll aspect others) :
    seenAll aspect (node :: nodes) = seenAll aspect (other :: others) := by
  have hcounts : aspect.counts node = aspect.counts other := by
    rw [Aspect.counts, Aspect.counts, ← kind_seen node, hnode, kind_seen]
  rw [seenAll, seenAll, hcounts, hnode, hnodes]

/-- There are only comments if there are only comments to be seen. -/
theorem all_comment_seenAll (nodes : List Node) :
    (seenAll aspect nodes).all (·.kind == .comment) = nodes.all (·.kind == .comment) := by
  induction nodes with
  | nil => rfl
  | cons node rest ih =>
      rw [seenAll, List.all_cons]
      split
      · rw [List.all_cons, kind_seen, ih]
      · rename_i hcounts
        rw [ih]
        simp_all [Aspect.counts]

end Node

namespace Draft

variable {aspect : Aspect}

/-! ### Parts of blocks -/

/-- What is seen of the parts of a block. -/
def Part.seen (aspect : Aspect) (part : Part) : Part where
  done := Node.seenAll aspect part.done
  items := Node.seenAll aspect part.items

theorem Part.seen_add {part part' : Part} (hpart : part.seen aspect = part'.seen aspect)
    {item item' : Node} (hitem : item.seen aspect = item'.seen aspect) :
    (part.add item).seen aspect = (part'.add item').seen aspect := by
  obtain ⟨hdone, hitems⟩ := Part.mk.inj hpart
  exact congrArg₂ Part.mk hdone (Node.seenAll_cons_congr hitem hitems)

/-- Nothing is seen of an item that does not count. -/
theorem Part.seen_add_of_not_counts (part : Part) {item : Node} (h : aspect.counts item = false) :
    (part.add item).seen aspect = part.seen aspect := by
  simp only [seen, add, Node.seenAll, h, Bool.false_eq_true, if_false]

/-- What is seen of a statement is the statement of what is seen of its items. -/
theorem Part.seen_statementOf {first head : Node} {items rest : List Node}
    (h : Node.seenAll aspect (first :: items) = head :: rest) :
    (statementOf first (first :: items)).seen aspect = statementOf head (head :: rest) := by
  have hspan : aspect.span ⟨first.span.start, ((first :: items).getLastD first).span.stop⟩ =
      ⟨head.span.start, ((head :: rest).getLastD head).span.stop⟩ ∧
        aspect.position first.position = head.position := by
    rw [Node.seenAll_eq] at h
    by_cases hexact : aspect.isExact
    · have hall : (first :: items).filter aspect.counts = first :: items :=
        List.filter_eq_self.2 fun node _ => by simp [Aspect.counts, hexact]
      rw [hall, List.map_cons] at h
      obtain ⟨rfl, rfl⟩ := List.cons.inj h
      rw [← List.map_cons, List.getLastD_map, Node.span_seen, Node.span_seen, Node.position_seen]
      simp [Aspect.span, hexact]
    · -- nothing is seen of places, also not of those of the items
      have hplace : ∀ node ∈ head :: rest, node.span = {} ∧ node.position = {} := by
        intro node hnode
        rw [← h] at hnode
        obtain ⟨item, -, rfl⟩ := List.mem_map.1 hnode
        simp [Node.span_seen, Node.position_seen, Aspect.span, Aspect.position, hexact]
      have hlast : ((head :: rest).getLastD head).span = {} := by
        rw [List.getLastD_cons]
        exact (hplace _ List.getLastD_mem_cons).1
      obtain ⟨hfirst, hposition⟩ := hplace head List.mem_cons_self
      rw [hlast, hfirst, hposition]
      simp [Aspect.span, Aspect.position, hexact]
  rw [statementOf, statementOf, Node.branch, Node.branch, Node.seen, h, hspan.1, hspan.2,
    if_neg Bool.false_ne_true, aspect.text_nil]

/-- To end a statement respects every aspect. -/
theorem Part.seen_close (part : Part) : part.close.seen aspect = (part.seen aspect).close := by
  have hall : (part.seen aspect).items.all (·.kind == .comment) =
      part.items.all (·.kind == .comment) := Node.all_comment_seenAll _
  rw [close, close, hall]
  by_cases hcomments : part.items.all (·.kind == .comment)
  · rw [if_pos hcomments, if_pos hcomments, seen, Node.seenAll_append]
    rfl
  · rw [if_neg hcomments, if_neg hcomments]
    have hreverse : (part.seen aspect).items.reverse = Node.seenAll aspect part.items.reverse :=
      (Node.seenAll_reverse _).symm
    rw [hreverse]
    cases hitems : part.items.reverse with
    | nil => rfl
    | cons first items =>
        cases hseen : Node.seenAll aspect (first :: items) with
        | nil =>
            -- a statement has an item that is no comment, and the item is seen
            rw [← hall, ← List.all_reverse, hreverse, hitems, hseen] at hcomments
            exact absurd rfl hcomments
        | cons head rest =>
            have hstatement := seen_statementOf hseen
            have hcounts : aspect.counts (statementOf first (first :: items)) = true := by
              simp [Aspect.counts, statementOf, Node.branch, Node.kind]
            simp only [seen, Node.seenAll, hcounts, if_true, hstatement]

theorem Part.seen_nodes (part : Part) :
    Node.seenAll aspect part.nodes = (part.seen aspect).nodes := by
  rw [nodes, nodes, ← seen_close, Node.seenAll_reverse]
  rfl

end Draft

/-! ### Tokens and drafts -/

/-- Two tokens look alike: they have one kind, their texts are seen in the same form, and they stand at
the same place if places count. -/
structure Token.Like (aspect : Aspect) (first second : Token) : Prop where
  kind_eq : first.kind = second.kind
  text_eq : aspect.text (.ofToken first.kind) first.text =
    aspect.text (.ofToken second.kind) second.text
  span_eq : aspect.isExact → first.span = second.span

theorem Token.Like.start_eq {aspect : Aspect} {first second : Token} (h : first.Like aspect second)
    (hexact : aspect.isExact) : first.start = second.start :=
  congrArg Span.start (h.span_eq hexact)

namespace Draft

variable {aspect : Aspect} {first second : Draft} {token other : Token} {starts starts' : List Nat}
  {stop stop' : Nat}

/-- Two blocks that are passed over look alike. -/
structure Skipped.Like (aspect : Aspect) (first second : Skipped) : Prop where
  opening : first.opening.Like aspect second.opening
  kind_eq : first.opening.kind = .opening
  nesting_eq : first.nesting = second.nesting
  stop_eq : aspect.isExact → first.stop = second.stop

/-- Two open blocks look alike, with the parts of the tree around them. -/
structure OpenedLike (aspect : Aspect) (first second : Token × Part) : Prop where
  opening : first.1.Like aspect second.1
  around_eq : first.2.seen aspect = second.2.seen aspect

/-- Two drafts look alike: the same is seen of the parts of all open blocks. A block that is passed over
is not closed yet. -/
structure Like (aspect : Aspect) (first second : Draft) : Prop where
  inner_eq : first.inner.seen aspect = second.inner.seen aspect
  outer : List.Forall₂ (OpenedLike aspect) first.outer second.outer
  skipped : Option.Rel (fun skipped skipped' : Skipped =>
    skipped.Like aspect skipped' ∧ 0 < skipped.nesting) first.skipped second.skipped

section

variable (hstarts : aspect.isExact → starts = starts')

include hstarts

theorem position_ofOffset {offset offset' : Nat} (hoffset : aspect.isExact → offset = offset') :
    aspect.position (.ofOffset starts offset) = aspect.position (.ofOffset starts' offset') :=
  Aspect.position_congr fun hexact => by rw [hstarts hexact, hoffset hexact]

theorem seen_leafOf (htoken : token.Like aspect other) :
    (leafOf starts (.ofToken token.kind) token).seen aspect =
      (leafOf starts' (.ofToken other.kind) other).seen aspect := by
  rw [leafOf, leafOf, Node.leaf, Node.leaf, Node.seen, Node.seen, if_neg Bool.false_ne_true,
    if_neg Bool.false_ne_true, htoken.text_eq, htoken.kind_eq, Aspect.span_congr htoken.span_eq,
    position_ofOffset hstarts htoken.start_eq]

theorem seen_blockOf (htoken : token.Like aspect other) (hstop : aspect.isExact → stop = stop')
    {children children' : List Node}
    (hchildren : Node.seenAll aspect children = Node.seenAll aspect children') :
    (blockOf starts token stop children).seen aspect =
      (blockOf starts' other stop' children').seen aspect := by
  have hspan : aspect.span ⟨token.start, stop⟩ = aspect.span ⟨other.start, stop'⟩ :=
    Aspect.span_congr fun hexact => by rw [htoken.start_eq hexact, hstop hexact]
  rw [blockOf, blockOf, Node.branch, Node.branch, Node.seen, Node.seen, hspan, hchildren,
    position_ofOffset hstarts htoken.start_eq]

theorem seen_skippedLeaf {skipped skipped' : Skipped} (h : skipped.Like aspect skipped') :
    (skippedLeaf starts skipped).seen aspect = (skippedLeaf starts' skipped').seen aspect := by
  have htext : aspect.text .error skipped.opening.text =
      aspect.text .error skipped'.opening.text := by
    have htext := h.opening.text_eq
    rwa [← h.opening.kind_eq, h.kind_eq] at htext
  have hspan : aspect.span ⟨skipped.opening.start, skipped.stop⟩ =
      aspect.span ⟨skipped'.opening.start, skipped'.stop⟩ :=
    Aspect.span_congr fun hexact => by rw [h.opening.start_eq hexact, h.stop_eq hexact]
  rw [skippedLeaf, skippedLeaf, Node.leaf, Node.leaf, Node.seen, Node.seen, hspan,
    position_ofOffset hstarts h.opening.start_eq, if_neg Bool.false_ne_true,
    if_neg Bool.false_ne_true, htext]

end

theorem Like.add (h : first.Like aspect second) {item item' : Node}
    (hitem : item.seen aspect = item'.seen aspect) :
    (first.add item).Like aspect (second.add item') :=
  ⟨Part.seen_add h.inner_eq hitem, h.outer, h.skipped⟩

theorem Like.skip (h : first.Like aspect second) {skipped skipped' : Skipped}
    (hskipped : skipped.Like aspect skipped') (htoken : token.Like aspect other)
    (hstarts : aspect.isExact → starts = starts') :
    (first.skip starts skipped token).Like aspect (second.skip starts' skipped' other) := by
  unfold Draft.skip
  extract_lets nesting passed nesting' passed'
  have hnesting : nesting = nesting' := by
    simp only [nesting, nesting', htoken.kind_eq, hskipped.nesting_eq]
  have hpassed : passed.Like aspect passed' :=
    ⟨hskipped.opening, hskipped.kind_eq, hnesting,
      fun hexact => congrArg Span.stop (htoken.span_eq hexact)⟩
  by_cases hclosed : nesting = 0
  · have hcleared : Like aspect { first with skipped := none } { second with skipped := none } :=
      ⟨h.inner_eq, h.outer, .none⟩
    rw [if_pos hclosed, if_pos (hnesting ▸ hclosed)]
    exact hcleared.add (seen_skippedLeaf hstarts hpassed)
  · rw [if_neg hclosed, if_neg (hnesting ▸ hclosed)]
    exact ⟨h.inner_eq, h.outer, .some ⟨hpassed, Nat.pos_of_ne_zero hclosed⟩⟩

/-- Tokens that look alike take drafts that look alike to drafts that look alike. -/
theorem Like.step (h : first.Like aspect second) (htoken : token.Like aspect other)
    (hstarts : aspect.isExact → starts = starts') :
    (first.step starts token).Like aspect (second.step starts' other) := by
  have hleaf := h.add (seen_leafOf hstarts htoken)
  have hskip {skipped skipped' : Skipped} (hlike : skipped.Like aspect skipped') :=
    h.skip hlike htoken hstarts
  obtain ⟨inner, outer, skipped⟩ := first
  obtain ⟨inner', outer', skipped'⟩ := second
  obtain ⟨hinner, houter, hskipped⟩ := h
  dsimp only at hinner houter hskipped
  rw [Draft.step, Draft.step]
  cases hskipped with
  | some hskipped => exact hskip hskipped.1
  | none =>
      have hstop : aspect.isExact → token.span.stop = other.span.stop :=
        fun hexact => congrArg Span.stop (htoken.span_eq hexact)
      rw [← htoken.kind_eq] at hleaf ⊢
      cases hkind : token.kind with
      | semicolon =>
          refine ⟨?_, houter, .none⟩
          rw [Part.seen_close, Part.seen_close, hinner]
      | opening =>
          dsimp only
          rw [houter.length_eq]
          split
          · exact ⟨hinner, houter, .some ⟨⟨htoken, hkind, rfl, hstop⟩, Nat.one_pos⟩⟩
          · exact ⟨rfl, .cons ⟨htoken, hinner⟩ houter, .none⟩
      | closing =>
          rw [hkind] at hleaf
          cases houter with
          | nil => exact hleaf
          | @cons opened opened' _ _ hopened houter =>
              have hnodes : Node.seenAll aspect inner.nodes = Node.seenAll aspect inner'.nodes := by
                rw [Part.seen_nodes, Part.seen_nodes, hinner]
              have hblock := seen_blockOf hstarts hopened.opening hstop hnodes
              exact ⟨Part.seen_add hopened.around_eq hblock, houter, .none⟩
      | _ =>
          rw [hkind] at hleaf
          exact hleaf

theorem Like.foldl {tokens others : List Token} (h : first.Like aspect second)
    (htokens : List.Forall₂ (Token.Like aspect) tokens others)
    (hstarts : aspect.isExact → starts = starts') :
    (tokens.foldl (Draft.step starts) first).Like aspect
      (others.foldl (Draft.step starts') second) := by
  induction htokens generalizing first second with
  | nil => exact h
  | cons htoken _ ih => exact ih (h.step htoken hstarts)

/-- Where comments do not count, a comment makes no difference. -/
theorem Like.comment (h : first.Like aspect second) (hexact : aspect.isExact = false)
    (hkind : token.kind = .comment) : first.Like aspect (second.step starts token) := by
  have hcounts : aspect.counts (leafOf starts .comment token) = false := by
    rw [Aspect.counts, hexact]
    rfl
  obtain ⟨inner, outer, skipped⟩ := first
  obtain ⟨inner', outer', skipped'⟩ := second
  obtain ⟨hinner, houter, hskipped⟩ := h
  dsimp only at hinner houter hskipped
  rw [Draft.step]
  cases hskipped with
  | none =>
      rw [hkind]
      exact ⟨hinner.trans (inner'.seen_add_of_not_counts hcounts).symm, houter, .none⟩
  | @some skipped skipped' hskipped =>
      have hopen : skipped'.nesting ≠ 0 := hskipped.1.nesting_eq ▸ Nat.ne_of_gt hskipped.2
      have hinexact (hplaces : aspect.isExact) : skipped.stop = token.span.stop := by
        rw [hexact] at hplaces
        contradiction
      simp only [Draft.skip, hkind, hopen, if_false]
      exact ⟨hinner, houter, .some ⟨⟨hskipped.1.opening, hskipped.1.kind_eq,
        hskipped.1.nesting_eq, hinexact⟩, hskipped.2⟩⟩

/-! ### Whole trees -/

theorem seen_absent (hstarts : aspect.isExact → starts = starts')
    (hstop : aspect.isExact → stop = stop') :
    (Node.absent [')'] stop (.ofOffset starts stop)).seen aspect =
      (Node.absent [')'] stop' (.ofOffset starts' stop')).seen aspect := by
  have hspan : aspect.span ⟨stop, stop⟩ = aspect.span ⟨stop', stop'⟩ :=
    Aspect.span_congr fun hexact => by rw [hstop hexact]
  rw [Node.absent, Node.absent, Node.seen, Node.seen, hspan, position_ofOffset hstarts hstop]

theorem seenAll_closeAll {inner inner' : Part} {outer outer' : List (Token × Part)}
    (hinner : inner.seen aspect = inner'.seen aspect)
    (houter : List.Forall₂ (OpenedLike aspect) outer outer')
    (hstarts : aspect.isExact → starts = starts') (hstop : aspect.isExact → stop = stop') :
    Node.seenAll aspect (closeAll starts stop inner outer) =
      Node.seenAll aspect (closeAll starts' stop' inner' outer') := by
  induction houter generalizing inner inner' with
  | nil => rw [closeAll, closeAll, Part.seen_nodes, Part.seen_nodes, hinner]
  | cons hopened _ ih =>
      have hchildren : Node.seenAll aspect
            (inner.nodes ++ [.absent [')'] stop (.ofOffset starts stop)]) =
          Node.seenAll aspect
            (inner'.nodes ++ [.absent [')'] stop' (.ofOffset starts' stop')]) := by
        rw [Node.seenAll_append, Node.seenAll_append, Part.seen_nodes, Part.seen_nodes, hinner,
          Node.seenAll_cons_congr (seen_absent hstarts hstop) rfl]
      have hblock := seen_blockOf hstarts hopened.opening hstop hchildren
      exact ih (Part.seen_add hopened.around_eq hblock)

/-- The same is seen of the trees that drafts become if the drafts look alike. -/
theorem Like.finish (h : first.Like aspect second) (hstarts : aspect.isExact → starts = starts')
    (hstop : aspect.isExact → stop = stop') :
    Node.seenAll aspect (first.finish starts stop) =
      Node.seenAll aspect (second.finish starts' stop') := by
  obtain ⟨inner, outer, skipped⟩ := first
  obtain ⟨inner', outer', skipped'⟩ := second
  obtain ⟨hinner, houter, hskipped⟩ := h
  dsimp only at hinner houter hskipped
  rw [Draft.finish, Draft.finish]
  cases hskipped with
  | none => exact seenAll_closeAll hinner houter hstarts hstop
  | some hskipped =>
      have hleaf := seen_skippedLeaf hstarts hskipped.1
      exact seenAll_closeAll (Part.seen_add hinner hleaf) houter hstarts hstop

theorem like_empty : Like aspect {} {} :=
  ⟨rfl, .nil, .none⟩

end Draft

/-- The same is seen of the trees of two sources if their tokens make drafts that look alike. -/
theorem Node.seen_ofSource {aspect : Aspect} {source other : List Char}
    (hdraft : Draft.Like aspect ((Token.scan source).foldl (Draft.step (lineStarts source)) {})
      ((Token.scan other).foldl (Draft.step (lineStarts other)) {}))
    (hstarts : aspect.isExact → lineStarts source = lineStarts other)
    (hstop : aspect.isExact → utf8Length source = utf8Length other) :
    (ofSource source).seen aspect = (ofSource other).seen aspect := by
  have hspan : aspect.span ⟨0, utf8Length source⟩ = aspect.span ⟨0, utf8Length other⟩ :=
    Aspect.span_congr fun hexact => by rw [hstop hexact]
  rw [ofSource, ofSource, branch, branch, seen, seen, hspan, hdraft.finish hstarts hstop]

end StackProse
