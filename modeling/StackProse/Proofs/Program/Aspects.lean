import StackProse.Proofs.Program.Occurrences
import StackProse.Proofs.Program.Reporting
import StackProse.Proofs.Source.Aspects

/-!
# Aspects of programs

Assembling respects every aspect of source trees: two trees of which the same is seen become programs
that differ at most in places, and in nothing at all where places count
(`Program.seen_ofSource`).

The proof compares the program of a tree with the program of what is seen of it. So there is one tree
to follow at a time, and comments that do not count are dropped on one side only.
-/

namespace StackProse

mutual

/-- An item without the places of words. -/
def Item.unplaced : Item → Item
  | .literal value => .literal value
  | .word word => .word { name := word.name }
  | .block block => .block block.unplaced

/-- A block without the places of its words, nor of the words of the blocks in it. -/
def Block.unplaced : Block → Block
  | .mk index userCode declared body => .mk index userCode declared (Item.unplacedAll body)

/-- Items without the places of words. -/
def Item.unplacedAll : List Item → List Item
  | [] => []
  | item :: rest => item.unplaced :: Item.unplacedAll rest

end

theorem Item.unplacedAll_eq (items : List Item) : unplacedAll items = items.map unplaced := by
  induction items with
  | nil => rfl
  | cons item rest ih => rw [unplacedAll, ih, List.map_cons]

namespace Aspect

variable (aspect : Aspect)

/-- What is seen of a word. -/
def word (word : Word) : Word :=
  ⟨word.name, aspect.span word.span, aspect.position word.position⟩

/-- What is seen of an item. -/
def item (item : Item) : Item :=
  if aspect.isExact then item else item.unplaced

/-- What is seen of a block. -/
def block (block : Block) : Block :=
  if aspect.isExact then block else block.unplaced

/-- What is seen of a problem. -/
def problem (problem : Problem) : Problem :=
  ⟨problem.cause, aspect.span problem.span, aspect.position problem.position⟩

/-- What is seen of what assembling has come to. -/
def assembly (state : Assembly) : Assembly :=
  { state with problems := state.problems.map aspect.problem }

/-- What is seen of a program. -/
def program (program : Program) : Program :=
  ⟨aspect.block program.root, program.problems.map aspect.problem, program.isRejected⟩

variable {aspect}

theorem item_literal (value : Literal) : aspect.item (.literal value) = .literal value := by
  rw [item]
  split <;> rfl

theorem item_word (word : Word) : aspect.item (.word word) = .word (aspect.word word) := by
  rw [item, Aspect.word, span, position]
  split <;> rfl

theorem item_block (block : Block) : aspect.item (.block block) = .block (aspect.block block) := by
  rw [item, Aspect.block]
  split <;> rfl

theorem block_mk (index : Nat) (userCode : Bool) (declared : Declarations) (body : List Item) :
    aspect.block (.mk index userCode declared body) =
      .mk index userCode declared (body.map aspect.item) := by
  by_cases hexact : aspect.isExact
  · have hitem : aspect.item = id := funext fun item => if_pos hexact
    rw [block, if_pos hexact, hitem, List.map_id]
  · have hitem : aspect.item = Item.unplaced := funext fun item => if_neg hexact
    rw [block, if_neg hexact, hitem, Block.unplaced, Item.unplacedAll_eq]

theorem span_span (place : Span) : aspect.span (aspect.span place) = aspect.span place := by
  simp only [span]
  split <;> rfl

theorem position_position (place : Position) :
    aspect.position (aspect.position place) = aspect.position place := by
  simp only [position]
  split <;> rfl

/-- Where places count, all of a program is seen. -/
theorem program_of_isExact (h : aspect.isExact) (program : Program) :
    aspect.program program = program := by
  have hproblem : aspect.problem = id := by
    funext problem
    rw [Aspect.problem, span, position, if_pos h, if_pos h]
    rfl
  rw [Aspect.program, block, if_pos h, hproblem, List.map_id]

/-- Items that look alike are the same literal, words with one name, or blocks that look alike. -/
theorem item_eq_cases {first second : Item} (h : aspect.item first = aspect.item second) :
    (∃ value, first = .literal value ∧ second = .literal value) ∨
      (∃ word word', first = .word word ∧ second = .word word' ∧
        aspect.word word = aspect.word word') ∨
      ∃ block block', first = .block block ∧ second = .block block' := by
  cases first with
  | literal value =>
      cases second with
      | literal value' =>
          rw [item_literal, item_literal] at h
          exact Or.inl ⟨value, rfl, h.symm⟩
      | word word' => rw [item_literal, item_word] at h; contradiction
      | block block' => rw [item_literal, item_block] at h; contradiction
  | word word =>
      cases second with
      | literal value' => rw [item_word, item_literal] at h; contradiction
      | word word' =>
          rw [item_word, item_word] at h
          exact Or.inr (Or.inl ⟨word, word', rfl, rfl, Item.word.inj h⟩)
      | block block' => rw [item_word, item_block] at h; contradiction
  | block block =>
      cases second with
      | literal value' => rw [item_block, item_literal] at h; contradiction
      | word word' => rw [item_block, item_word] at h; contradiction
      | block block' => exact Or.inr (Or.inr ⟨block, block', rfl, rfl⟩)

end Aspect

namespace Assembly

variable {aspect : Aspect}

/-- Two computations look alike: from states that look alike they come to results that match and to
states that look alike. -/
def Alike {α : Type} (aspect : Aspect) (good : α → α → Prop) (first second : Assemble α) : Prop :=
  ∀ state state' : Assembly, aspect.assembly state = aspect.assembly state' →
    good (first state).1 (second state').1 ∧
      aspect.assembly (first state).2 = aspect.assembly (second state').2

namespace Alike

variable {α β : Type} {good : α → α → Prop} {better : β → β → Prop}

theorem pure {result result' : α} (h : good result result') :
    Alike aspect good (Pure.pure result) (Pure.pure result') :=
  fun _ _ hstate => ⟨h, hstate⟩

theorem bind {first second : Assemble α} {next next' : α → Assemble β}
    (h : Alike aspect good first second)
    (hnext : ∀ result result', good result result' →
      Alike aspect better (next result) (next' result')) :
    Alike aspect better (first >>= next) (second >>= next') := by
  intro state state' hstate
  obtain ⟨hresult, hafter⟩ := h state state' hstate
  exact hnext _ _ hresult _ _ hafter

/-- A report about places that look alike, and the mark that follows it. -/
theorem report {cause : Problem.Cause} {span span' : Span} {position position' : Position}
    {next next' : Unit → Assemble β} (hspan : aspect.span span = aspect.span span')
    (hposition : aspect.position position = aspect.position position')
    (hnext : Alike aspect better (next ()) (next' ())) :
    Alike aspect better (Assembly.report cause span position >>= fun _ => refuse >>= next)
      (Assembly.report cause span' position' >>= fun _ => refuse >>= next') := by
  intro state state' hstate
  obtain ⟨hblocks, hproblems, hrefused⟩ := Assembly.mk.inj hstate
  have hproblem : aspect.problem ⟨cause, span, position⟩ =
      aspect.problem ⟨cause, span', position'⟩ := by
    rw [Aspect.problem, Aspect.problem, hspan, hposition]
  refine hnext _ _ ?_
  exact Assembly.mk.injEq .. ▸ ⟨hblocks, congrArg₂ List.cons hproblem hproblems, rfl⟩

theorem reject {cause : Problem.Cause} {span span' : Span} {position position' : Position}
    {next next' : Unit → Assemble β} (hspan : aspect.span span = aspect.span span')
    (hposition : aspect.position position = aspect.position position')
    (hnext : Alike aspect better (next ()) (next' ())) :
    Alike aspect better (Assembly.reject cause span position >>= next)
      (Assembly.reject cause span' position' >>= next') :=
  report hspan hposition hnext

end Alike

theorem alike_freshIndex : Alike aspect Eq freshIndex freshIndex := by
  intro state state' hstate
  obtain ⟨hblocks, hproblems, hrefused⟩ := Assembly.mk.inj hstate
  exact ⟨hblocks, Assembly.mk.injEq .. ▸ ⟨congrArg (· + 1) hblocks, hproblems, hrefused⟩⟩

/-- A statement declares the same names whatever the places of its words. -/
theorem alike_declare (declared : Declarations) {next next' : Option Item} {items items' : List Item}
    (hnext : next.map aspect.item = next'.map aspect.item)
    (hitems : items.map aspect.item = items'.map aspect.item) :
    Alike aspect Eq (declare declared next items) (declare declared next' items') := by
  induction items generalizing declared next next' items' with
  | nil =>
      obtain rfl := List.map_eq_nil_iff.1 hitems.symm
      exact .pure rfl
  | cons item rest ih =>
      obtain ⟨item', rest', rfl, hitem, hrest⟩ := List.map_eq_cons_iff.1 hitems.symm
      have hsome : (some item).map aspect.item = (some item').map aspect.item :=
        congrArg some hitem.symm
      have hgo (declared : Declarations) := ih declared hsome hrest.symm
      rcases Aspect.item_eq_cases hitem.symm with ⟨value, rfl, rfl⟩ | ⟨word, word', rfl, rfl, hword⟩ |
        ⟨block, block', rfl, rfl⟩
      · exact hgo declared
      · obtain ⟨hname, hspan, hposition⟩ := Word.mk.inj hword
        cases hkeyword : Declaration.ofKeyword? word.name with
        | none =>
            simp only [declare, ← hname, hkeyword]
            exact hgo declared
        | some declaration =>
            have hdropped : Alike aspect Eq
                (Pure.pure (declared, false) : Assemble (Declarations × Bool))
                (Pure.pure (declared, false)) :=
              .pure rfl
            cases next with
            | none =>
                obtain rfl := Option.map_eq_none_iff.1 hnext.symm
                simp only [declare, ← hname, hkeyword]
                exact .report hspan hposition hdropped
            | some before =>
                obtain ⟨before', rfl, hbefore⟩ := Option.map_eq_some_iff.1 hnext.symm
                rcases Aspect.item_eq_cases hbefore.symm with ⟨value, rfl, rfl⟩ |
                  ⟨name, name', rfl, rfl, hnames⟩ | ⟨block, block', rfl, rfl⟩
                · simp only [declare, ← hname, hkeyword]
                  exact .report hspan hposition hdropped
                · obtain ⟨hsame, hspanName, hpositionName⟩ := Word.mk.inj hnames
                  simp only [declare, ← hname, hkeyword, ← hsame]
                  split
                  · exact .report hspanName hpositionName (hgo declared)
                  · exact hgo _
                · simp only [declare, ← hname, hkeyword]
                  exact .report hspan hposition hdropped
      · exact hgo declared

/-- Nothing becomes of a comment, and nothing is noted about it. -/
theorem itemOf_of_comment (userCode : Bool) {node : Node} (hformed : node.Formed)
    (hkind : node.kind = .comment) : itemOf userCode node = Pure.pure none := by
  obtain ⟨kind, text, span, position, missing, children⟩ := node
  obtain rfl : kind = .comment := hkind
  have hmissing : missing = false := by
    rcases hformed with hitem | hpart
    · exact hitem.leaf_or_block.1
    · cases hpart
      rfl
  rw [hmissing, itemOf_comment]

mutual

/-- What becomes of a node looks like what becomes of what is seen of it. -/
theorem alike_itemOf (userCode : Bool) : ∀ node : Node, node.Formed →
    Alike aspect (fun item item' => item.map aspect.item = item'.map aspect.item)
      (itemOf userCode node) (itemOf userCode (node.seen aspect))
  | .mk kind text span position missing children, hformed => by
      have hspan := (@Aspect.span_span aspect span).symm
      have hposition := (@Aspect.position_position aspect position).symm
      have hnone : Alike aspect (fun item item' => item.map aspect.item = item'.map aspect.item)
          (Pure.pure none : Assemble (Option Item)) (Pure.pure none) :=
        .pure rfl
      cases missing with
      | true =>
          rw [Node.seen, itemOf_missing, itemOf_missing]
          exact .reject hspan hposition hnone
      | false =>
          cases kind
          case comment =>
            rw [Node.seen, itemOf, itemOf]
            exact hnone
          case identifier =>
            rw [Node.seen, itemOf, itemOf]
            apply Alike.pure
            rw [if_neg Bool.false_ne_true, aspect.nameForm_text, Option.map_some, Option.map_some,
              Aspect.item_word, Aspect.item_word, Aspect.word, Aspect.word, ← hspan, ← hposition]
          case block =>
            have hchildren : ∀ child ∈ children, child.Formed := by
              rcases hformed.leaf_or_branch with ⟨hleaf, -⟩ | ⟨-, hchildren⟩
              · contradiction
              · exact hchildren
            rw [Node.seen, itemOf, itemOf]
            apply Alike.bind alike_freshIndex
            rintro index _ rfl
            apply Alike.bind (alike_partsOf userCode [] rfl children hchildren)
            rintro ⟨declared, body⟩ ⟨declared', body'⟩ ⟨rfl, hbody⟩
            apply Alike.pure
            rw [Option.map_some, Option.map_some, Aspect.item_block, Aspect.item_block,
              Aspect.block_mk, Aspect.block_mk, hbody]
          all_goals
            rw [Node.seen, if_neg Bool.false_ne_true, itemOf, itemOf]
            · rw [if_neg Bool.false_ne_true, if_neg Bool.false_ne_true, aspect.literalOf?_text,
                aspect.leafProblem_text]
              split
              · exact .pure rfl
              · exact .reject hspan hposition hnone
            all_goals exact fun hkind => nomatch hkind

theorem alike_itemsOf (userCode : Bool) {read read' : List Item}
    (hread : read.map aspect.item = read'.map aspect.item) :
    ∀ nodes : List Node, (∀ node ∈ nodes, node.Formed) →
      Alike aspect (fun items items' => items.map aspect.item = items'.map aspect.item)
        (itemsOf userCode read nodes) (itemsOf userCode read' (Node.seenAll aspect nodes))
  | [], _ => .pure hread
  | node :: rest, hnodes => by
      rw [List.forall_mem_cons] at hnodes
      by_cases hcounts : aspect.counts node
      · rw [Node.seenAll, if_pos hcounts, itemsOf, itemsOf]
        apply Alike.bind (alike_itemOf userCode node hnodes.1)
        intro item item' hitem
        cases item with
        | none =>
            obtain rfl := Option.map_eq_none_iff.1 hitem.symm
            exact alike_itemsOf userCode hread rest hnodes.2
        | some item =>
            obtain ⟨item', rfl, hsame⟩ := Option.map_eq_some_iff.1 hitem.symm
            have hmore : (item :: read).map aspect.item = (item' :: read').map aspect.item :=
              congrArg₂ List.cons hsame.symm hread
            exact alike_itemsOf userCode hmore rest hnodes.2
      · have hkind : node.kind = .comment := by simp_all [Aspect.counts]
        rw [Node.seenAll, if_neg hcounts, itemsOf, itemOf_of_comment userCode hnodes.1 hkind]
        exact alike_itemsOf userCode hread rest hnodes.2

theorem alike_partsOf (userCode : Bool) (declared : Declarations) {body body' : List Item}
    (hbody : body.map aspect.item = body'.map aspect.item) :
    ∀ nodes : List Node, (∀ node ∈ nodes, node.Formed) →
      Alike aspect (fun result result' =>
          result.1 = result'.1 ∧ result.2.map aspect.item = result'.2.map aspect.item)
        (partsOf userCode declared body nodes)
        (partsOf userCode declared body' (Node.seenAll aspect nodes))
  | [], _ => by
      have hreverse : body.reverse.map aspect.item = body'.reverse.map aspect.item := by
        rw [List.map_reverse, List.map_reverse, hbody]
      exact .pure ⟨rfl, hreverse⟩
  | .mk kind text span position missing children :: rest, hnodes => by
      rw [List.forall_mem_cons] at hnodes
      by_cases hkind : kind = .statement
      · subst hkind
        have hcounts : aspect.counts (.mk .statement text span position missing children) :=
          Bool.or_true _
        have hchildren : ∀ child ∈ children, child.Formed := by
          rcases hnodes.1.leaf_or_branch with ⟨hleaf, -⟩ | ⟨-, hchildren⟩
          · contradiction
          · exact hchildren
        rw [Node.seenAll, if_pos hcounts, Node.seen, partsOf, partsOf]
        apply Alike.bind (alike_itemsOf userCode rfl children hchildren)
        intro items items' hitems
        apply Alike.bind (alike_declare declared rfl hitems)
        rintro ⟨declared, complete⟩ _ rfl
        refine alike_partsOf userCode declared ?_ rest hnodes.2
        split
        · rw [List.map_append, List.map_append, List.map_reverse, List.map_reverse, hitems, hbody]
        · exact hbody
      · rw [partsOf]
        · by_cases hcounts : aspect.counts (.mk kind text span position missing children)
          · rw [Node.seenAll, if_pos hcounts, Node.seen, partsOf]
            · apply Alike.bind (alike_itemOf userCode _ hnodes.1)
              intro item item' hitem
              cases item with
              | none =>
                  obtain rfl := Option.map_eq_none_iff.1 hitem.symm
                  exact alike_partsOf userCode declared hbody rest hnodes.2
              | some item =>
                  obtain ⟨item', rfl, hsame⟩ := Option.map_eq_some_iff.1 hitem.symm
                  have hmore : (item :: body).map aspect.item = (item' :: body').map aspect.item :=
                    congrArg₂ List.cons hsame.symm hbody
                  exact alike_partsOf userCode declared hmore rest hnodes.2
            · intro _ _ _ _ _ hstatement
              exact hkind (Node.mk.inj hstatement).1
          · have hcomment : kind = .comment := by simp_all [Aspect.counts, Node.kind]
            rw [Node.seenAll, if_neg hcounts, itemOf_of_comment userCode hnodes.1 hcomment]
            exact alike_partsOf userCode declared hbody rest hnodes.2
        · intro _ _ _ _ _ hstatement
          exact hkind (Node.mk.inj hstatement).1

end

end Assembly

namespace Program

variable {aspect : Aspect}

/-- The program of a tree looks like the program of what is seen of the tree. -/
theorem seen_ofNode (userCode : Bool) {node : Node}
    (hformed : ∀ child ∈ node.children, child.Formed) :
    aspect.program (ofNode userCode node) = aspect.program (ofNode userCode (node.seen aspect)) := by
  have hroot : Assembly.Alike aspect (fun root root' => aspect.block root = aspect.block root')
      (Assembly.rootOf userCode node.children)
      (Assembly.rootOf userCode (node.seen aspect).children) := by
    have hchildren : (node.seen aspect).children = Node.seenAll aspect node.children := by
      cases node
      rfl
    rw [hchildren]
    apply Assembly.Alike.bind Assembly.alike_freshIndex
    rintro index _ rfl
    apply Assembly.Alike.bind (Assembly.alike_partsOf userCode [] rfl _ hformed)
    rintro ⟨declared, body⟩ ⟨declared', body'⟩ ⟨rfl, hbody⟩
    apply Assembly.Alike.pure
    rw [Aspect.block_mk, Aspect.block_mk, hbody]
  obtain ⟨hblock, hstate⟩ := hroot {} {} rfl
  obtain ⟨-, hproblems, hrefused⟩ := Assembly.mk.inj hstate
  have hreverse := congrArg List.reverse hproblems
  rw [← List.map_reverse, ← List.map_reverse] at hreverse
  exact Program.mk.injEq .. ▸ ⟨hblock, hreverse, hrefused⟩

/-- Sources make programs that look alike if the same is seen of their trees. -/
theorem seen_ofSource (userCode : Bool) {source other : List Char}
    (h : (Node.ofSource source).seen aspect = (Node.ofSource other).seen aspect) :
    aspect.program (ofSource userCode source) = aspect.program (ofSource userCode other) := by
  have hformed (text : List Char) : ∀ child ∈ (Node.ofSource text).children, child.Formed :=
    fun child hchild => Or.inr (Node.formed_ofSource text child hchild)
  rw [ofSource, ofSource, seen_ofNode userCode (hformed source),
    seen_ofNode userCode (hformed other), h]

end Program

end StackProse
