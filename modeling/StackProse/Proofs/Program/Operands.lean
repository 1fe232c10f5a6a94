import StackProse.Proofs.Machine.Contents
import StackProse.Proofs.Program.Judged
import StackProse.Proofs.Program.Occurrences

/-!
# Words that are named and not looked up

Where a body runs, a word right before `Def`, `Let` or `Set` is not looked up: it is taken as a
name. In the source these are the words right behind one of the three in a statement, and a few more.
For a body goes on from statement to statement, each from its end: what begins a statement comes
right before what ends the next one. `Def` and `Let` never end a statement, as they would lack their
names, but `Set` may, and then it takes the first word of the statement before as a name.

`Program.operands_ofSource` says that there are no others. It compares runs of nodes with runs of
items place by place, which needs that a word stands at one place only (`Node.nodup_words`).
-/

namespace StackProse

/-- The naming words. -/
theorem Keyword.takesName_ofName? (name : String) :
    (ofName? name).any takesName = true ↔ name = "Def" ∨ name = "Let" ∨ name = "Set" := by
  constructor
  · intro h
    cases hname : ofName? name with
    | none =>
        rw [hname] at h
        contradiction
    | some keyword =>
        rw [hname] at h
        rw [← Keyword.name_of_ofName? hname]
        cases keyword with
        | define => exact Or.inl rfl
        | bind => exact Or.inr (Or.inl rfl)
        | assign => exact Or.inr (Or.inr rfl)
        | _ => contradiction
  · intro h
    rcases h with rfl | rfl | rfl
    · decide
    · decide
    · decide

namespace Node

/-- Whether the node is one of the words `Def`, `Let` and `Set`. -/
def isNaming (node : Node) : Bool :=
  node.word?.any fun word => word.name == "Def" || word.name == "Let" || word.name == "Set"

/-- Whether the node is the word `Set`. -/
def isSet (node : Node) : Bool :=
  node.word?.any (·.name == "Set")

/-- The word stands right behind a naming word of the same statement. -/
def FollowsNaming (items : List Node) (word : Word) : Prop :=
  ∃ keyword name, [keyword, name] <:+: items ∧ keyword.isNaming ∧ name.word? = some word

/-- The word begins a statement, and the next statement of the block ends with `Set`. -/
def PrecedesSet (block : Node) (word : Word) : Prop :=
  ∃ first second, [first, second] <:+: block.statements ∧
    first.items.head?.bind word? = some word ∧ second.items.getLast?.any isSet

/-! ### Neighbours in run order -/

/-- Two neighbours stand in one of two rows, or where the one ends and the other begins. -/
theorem pair_infix_append {x y : Node} {first second : List Node} :
    [x, y] <:+: first ++ second ↔ [x, y] <:+: first ∨ [x, y] <:+: second ∨
      (first.getLast? = some x ∧ second.head? = some y) := by
  rw [List.infix_append_iff, ← List.singleton_suffix_iff_getLast?_eq_some,
    ← List.singleton_prefix_iff_head?_eq_some]
  constructor
  · intro h
    rcases h with hfirst | hsecond | ⟨left, right, hpair, hleft, hright⟩
    · exact Or.inl hfirst
    · exact Or.inr (Or.inl hsecond)
    · rcases left with _ | ⟨a, _ | ⟨b, left⟩⟩
      · obtain rfl : [x, y] = right := hpair
        exact Or.inr (Or.inl hright.isInfix)
      · obtain ⟨rfl, rfl⟩ := List.cons.inj hpair
        exact Or.inr (Or.inr ⟨hleft, hright⟩)
      · obtain ⟨rfl, htail⟩ := List.cons.inj hpair
        obtain ⟨rfl, hrest⟩ := List.cons.inj htail
        obtain ⟨rfl, -⟩ := List.append_eq_nil_iff.1 hrest.symm
        exact Or.inl hleft.isInfix
  · intro h
    rcases h with hfirst | hsecond | ⟨hleft, hright⟩
    · exact Or.inl hfirst
    · exact Or.inr (Or.inl hsecond)
    · exact Or.inr (Or.inr ⟨[x], [y], rfl, hleft, hright⟩)

theorem pair_infix_cons {first second statement : Node} {rest : List Node} :
    [first, second] <:+: statement :: rest ↔
      (first = statement ∧ rest.head? = some second) ∨ [first, second] <:+: rest := by
  rw [List.infix_cons_iff, List.cons_prefix_cons, List.singleton_prefix_iff_head?_eq_some]

/-- Neighbours in run order stand side by side in a statement, in the other order, or one begins a
statement and the other ends the next one. -/
theorem pair_infix_reversed {x y : Node} {statements : List Node}
    (hstatements : ∀ statement ∈ statements, statement.items ≠ []) :
    [x, y] <:+: statements.flatMap (·.items.reverse) ↔
      (∃ statement ∈ statements, [y, x] <:+: statement.items) ∨
      ∃ first second, [first, second] <:+: statements ∧ first.items.head? = some x ∧
        second.items.getLast? = some y := by
  induction statements with
  | nil => simp
  | cons statement rest ih =>
      rw [List.forall_mem_cons] at hstatements
      have hown : [x, y] <:+: statement.items.reverse ↔ [y, x] <:+: statement.items :=
        @List.reverse_infix _ [y, x] statement.items
      have hnext : (rest.flatMap (·.items.reverse)).head? =
          rest.head?.bind (·.items.getLast?) := by
        cases rest with
        | nil => rfl
        | cons second more =>
            have hsecond := (List.forall_mem_cons.1 hstatements.2).1
            rw [List.flatMap_cons, List.head?_append_of_ne_nil _ (by simpa using hsecond),
              List.head?_reverse]
            rfl
      rw [List.flatMap_cons, pair_infix_append, hown, ih hstatements.2, List.getLast?_reverse,
        hnext, Option.bind_eq_some_iff]
      constructor
      · intro h
        rcases h with hown | (⟨other, hother, hpair⟩ | ⟨first, second, hpair, hends⟩) |
          ⟨hfirst, second, hsecond, hlast⟩
        · exact Or.inl ⟨statement, List.mem_cons_self, hown⟩
        · exact Or.inl ⟨other, List.mem_cons_of_mem _ hother, hpair⟩
        · exact Or.inr ⟨first, second, pair_infix_cons.2 (Or.inr hpair), hends⟩
        · exact Or.inr ⟨statement, second, pair_infix_cons.2 (Or.inl ⟨rfl, hsecond⟩), hfirst, hlast⟩
      · intro h
        rcases h with ⟨other, hother, hpair⟩ | ⟨first, second, hpair, hfirst, hlast⟩
        · rcases List.mem_cons.1 hother with rfl | hother
          · exact Or.inl hpair
          · exact Or.inr (Or.inl (Or.inl ⟨other, hother, hpair⟩))
        · rcases pair_infix_cons.1 hpair with ⟨rfl, hsecond⟩ | hpair
          · exact Or.inr (Or.inr ⟨hfirst, second, hsecond, hlast⟩)
          · exact Or.inr (Or.inl (Or.inr ⟨first, second, hpair, hfirst, hlast⟩))

/-- A word that stands at one place stands before one thing. -/
theorem eq_of_split {word : Word} {before before' rest rest' : List Node} {node node' : Node}
    (hnodup : ((before ++ node :: rest).filterMap word?).Nodup)
    (hsame : before ++ node :: rest = before' ++ node' :: rest') (hnode : node.word? = some word)
    (hnode' : node'.word? = some word) : rest = rest' := by
  have hapart {left middle right : List Node} {first second : Node}
      (hwords : ((left ++ first :: (middle ++ second :: right)).filterMap word?).Nodup)
      (hfirst : first.word? = some word) (hsecond : second.word? = some word) : False := by
    rw [List.filterMap_append, List.filterMap_cons_some hfirst, List.filterMap_append,
      List.filterMap_cons_some hsecond] at hwords
    exact (List.nodup_cons.1 (List.nodup_append.1 hwords).2.1).1
      (List.mem_append_right _ List.mem_cons_self)
  rcases List.append_eq_append_iff.1 hsame with ⟨gap, hbefore, hrest⟩ | ⟨gap, hbefore, hrest⟩
  · cases gap with
    | nil => exact (List.cons.inj hrest).2
    | cons other gap =>
        obtain ⟨rfl, rfl⟩ := List.cons.inj hrest
        exact (hapart hnodup hnode hnode').elim
  · cases gap with
    | nil => exact (List.cons.inj hrest).2.symm
    | cons other gap =>
        obtain ⟨rfl, rfl⟩ := List.cons.inj hrest
        rw [hsame] at hnodup
        exact (hapart hnodup hnode' hnode).elim

/-! ### Naming words -/

theorem isNaming_of_isSet {node : Node} (h : node.isSet) : node.isNaming := by
  rw [isSet, Option.any_eq_true] at h
  rw [isNaming, Option.any_eq_true]
  obtain ⟨word, hword, hset⟩ := h
  exact ⟨word, hword, Bool.or_eq_true_iff.2 (Or.inr hset)⟩

/-- A naming word that does not lack a name is `Set` where it ends a statement. -/
theorem isSet_of_isNaming {node : Node} {items : List Node} (h : node.isNaming)
    (hlast : items.getLast? = some node) (hnamed : ¬ LacksName items) : node.isSet := by
  rw [isNaming, Option.any_eq_true] at h
  obtain ⟨word, hword, hname⟩ := h
  have hlacks (hdeclares : (Declaration.ofKeyword? word.name).isSome) : LacksName items := by
    refine ⟨node, [], List.singleton_suffix_iff_getLast?_eq_some.2 hlast, ?_, nofun⟩
    rw [declaration?, hword, Option.bind_some]
    exact hdeclares
  simp only [Bool.or_eq_true, beq_iff_eq] at hname
  rcases hname with (hdef | hlet) | hset
  · exact absurd (hlacks (by rw [hdef]; rfl)) hnamed
  · exact absurd (hlacks (by rw [hlet]; rfl)) hnamed
  · rw [isSet, hword]
    exact beq_iff_eq.2 hset

/-! ### Bodies -/

theorem word_mem_iff {nodes : List Node} {items : List Item} (h : List.Forall₂ Becomes nodes items)
    {word : Word} : .word word ∈ items ↔ ∃ node ∈ nodes, node.word? = some word := by
  induction h with
  | nil => simp
  | @cons node item nodes items hitem hitems ih =>
      have hfirst : Item.word word = item ↔ node.word? = some word := by
        cases item with
        | word other =>
            rw [show node.word? = some other from hitem, Item.word.injEq, Option.some.injEq, eq_comm]
        | literal | block =>
            rw [word?_eq_none (hitem.kind_ne nofun)]
            exact iff_of_false nofun nofun
      simp only [List.mem_cons, ih, hfirst, exists_eq_or_imp]

/-- What comes next takes a name if it stands for a naming word. -/
theorem takesNameBefore_iff {nodes : List Node} {items : List Item}
    (h : List.Forall₂ Becomes nodes items) :
    Machine.takesNameBefore items = true ↔ ∃ keyword ∈ nodes.head?, keyword.isNaming := by
  cases h with
  | nil => simp [Machine.takesNameBefore]
  | @cons node item nodes items hitem hitems =>
      have hnaming : Machine.takesNameBefore (item :: items) = true ↔ node.isNaming = true := by
        cases item with
        | word word =>
            rw [isNaming, show node.word? = some word from hitem, Machine.takesNameBefore,
              Keyword.takesName_ofName?]
            simp [or_assoc]
        | literal | block =>
            rw [isNaming, word?_eq_none (hitem.kind_ne nofun)]
            exact Iff.rfl
      simpa using hnaming

/-- Every place of a body that mirrors a block: the word there is taken as a name exactly if a naming
word stands right before it in its statement, or `Set` at the end of the next statement. -/
theorem Mirrors.takesNameBefore_iff {block : Node} {code : Block} (h : block.Mirrors code)
    (hnodup : (block.inRunOrder.filterMap word?).Nodup)
    (hitems : ∀ statement ∈ block.statements, statement.items ≠ [])
    (hnamed : ∀ statement ∈ block.statements, ¬ LacksName statement.items)
    {before rest : List Item} {word : Word} (hbody : code.body = before ++ .word word :: rest) :
    Machine.takesNameBefore rest = true ↔
      (∃ statement ∈ block.statements, FollowsNaming statement.items word) ∨
        block.PrecedesSet word := by
  obtain ⟨nodesBefore, node, nodesRest, hnodes, hnode, hrest⟩ :
      ∃ nodesBefore node nodesRest, block.inRunOrder = nodesBefore ++ node :: nodesRest ∧
        node.word? = some word ∧ List.Forall₂ Becomes nodesRest rest := by
    have hall := h.body
    rw [hbody] at hall
    have hbehind := List.forall₂_drop_append _ _ _ hall
    obtain ⟨node, nodesRest, hnode, hrest, hdrop⟩ := List.forall₂_cons_right_iff.1 hbehind
    refine ⟨block.inRunOrder.take before.length, node, nodesRest, ?_, hnode, hrest⟩
    rw [← hdrop, List.take_append_drop]
  have hplace : (∃ keyword ∈ nodesRest.head?, keyword.isNaming) ↔
      ∃ name keyword, [name, keyword] <:+: block.inRunOrder ∧ name.word? = some word ∧
        keyword.isNaming := by
    constructor
    · intro hnext
      obtain ⟨keyword, hkeyword, hnaming⟩ := hnext
      obtain ⟨more, rfl⟩ := List.head?_eq_some_iff.1 hkeyword
      refine ⟨node, keyword, ⟨nodesBefore, more, ?_⟩, hnode, hnaming⟩
      rw [hnodes, List.append_assoc]
      rfl
    · intro hpair
      obtain ⟨name, keyword, ⟨left, right, hsplit⟩, hname, hnaming⟩ := hpair
      rw [List.append_assoc, hnodes] at hsplit
      rw [hnodes] at hnodup
      have hnext := eq_of_split hnodup hsplit.symm hnode hname
      rw [hnext]
      exact ⟨keyword, rfl, hnaming⟩
  rw [Node.takesNameBefore_iff hrest, hplace]
  constructor
  · intro hpair
    obtain ⟨name, keyword, hpair, hname, hnaming⟩ := hpair
    rcases (pair_infix_reversed hitems).1 hpair with ⟨statement, hstatement, hpair⟩ |
      ⟨first, second, hpair, hfirst, hlast⟩
    · exact Or.inl ⟨statement, hstatement, keyword, name, hpair, hnaming, hname⟩
    · have hsecond : second ∈ block.statements :=
        hpair.subset (List.mem_cons_of_mem _ List.mem_cons_self)
      refine Or.inr ⟨first, second, hpair, ?_, ?_⟩
      · rw [hfirst, Option.bind_some, hname]
      · rw [hlast]
        exact isSet_of_isNaming hnaming hlast (hnamed second hsecond)
  · intro hsource
    rcases hsource with ⟨statement, hstatement, keyword, name, hpair, hnaming, hname⟩ |
      ⟨first, second, hpair, hfirst, hlast⟩
    · exact ⟨name, keyword, (pair_infix_reversed hitems).2 (Or.inl ⟨statement, hstatement, hpair⟩),
        hname, hnaming⟩
    · obtain ⟨name, hhead, hname⟩ := Option.bind_eq_some_iff.1 hfirst
      obtain ⟨keyword, hkeyword, hset⟩ := (Option.any_eq_true _ _).1 hlast
      exact ⟨name, keyword,
        (pair_infix_reversed hitems).2 (Or.inr ⟨first, second, hpair, hhead, hkeyword⟩), hname,
        isNaming_of_isSet hset⟩

/-- Which words of a block are taken as names when its body runs. -/
structure NamesOperands (block : Node) (code : Block) : Prop where
  /-- The words of the body are the identifiers of the statements. -/
  words : ∀ word, .word word ∈ code.body ↔
    ∃ statement ∈ block.statements, ∃ item ∈ statement.items, item.word? = some word
  /-- A word of the body is taken as a name where it stands behind a naming word in its statement, or
  begins a statement before one that `Set` ends. -/
  named : ∀ before word rest, code.body = before ++ .word word :: rest →
    (Machine.takesNameBefore rest = true ↔
      (∃ statement ∈ block.statements, FollowsNaming statement.items word) ∨
        block.PrecedesSet word)

end Node

namespace Program

variable {userCode : Bool} {source : List Char}

theorem namesOperands_of_mirrors (h : (Program.ofSource userCode source).isRejected = false)
    {block : Node} {code : Block} (hblock : block ∈ (Node.ofSource source).blocks)
    (hmirrors : block.Mirrors code) : block.NamesOperands code := by
  have hsound := isRejected_eq_false_iff_sound.1 h
  have hwalk := (List.mem_filter.1 hblock).1
  have herrors : (Node.ofSource source).hasErrors = false := by
    rw [← Bool.not_eq_true, Node.hasErrors_iff_walk]
    intro herror
    obtain ⟨inner, hinner, hkind⟩ := herror
    exact (hsound inner hinner).known hkind
  have hitems : ∀ statement ∈ block.statements, statement.items ≠ [] := by
    intro statement hstatement
    obtain ⟨hpart, hkind⟩ := List.mem_filter.1 hstatement
    cases Node.partFormed_of_mem_blocks hblock statement hpart with
    | statement hsome hchildren =>
        obtain ⟨child, hchild, hcomment⟩ := hsome
        exact List.ne_nil_of_mem (List.mem_filter.2 ⟨hchild, bne_iff_ne.2 hcomment⟩)
    | comment => contradiction
    | absent => contradiction
  have hnamed : ∀ statement ∈ block.statements, ¬ Node.LacksName statement.items := by
    intro statement hstatement
    obtain ⟨hpart, hkind⟩ := List.mem_filter.1 hstatement
    exact (hsound statement (Node.mem_walk_of_mem_children hwalk hpart)).named (eq_of_beq hkind)
  constructor
  · intro word
    rw [Node.word_mem_iff hmirrors.body]
    simp only [Node.inRunOrder, List.mem_flatMap, List.mem_reverse]
    constructor
    · intro hnode
      obtain ⟨node, ⟨statement, hstatement, hmem⟩, hword⟩ := hnode
      exact ⟨statement, hstatement, node, hmem, hword⟩
    · intro hitem
      obtain ⟨statement, hstatement, node, hmem, hword⟩ := hitem
      exact ⟨node, ⟨statement, hstatement, hmem⟩, hword⟩
  · intro before word rest hbody
    exact hmirrors.takesNameBefore_iff (Node.nodup_words_inRunOrder herrors hwalk) hitems hnamed
      hbody

/-- Which words are taken as names and not looked up can be read off the source: those that stand
right behind `Def`, `Let` or `Set` in their statement, comments apart, and those that begin a
statement where the next one of the block ends with `Set`. -/
theorem operands_ofSource (h : (Program.ofSource userCode source).isRejected = false) :
    ∃ codes : List Block,
      codes.Perm (((Program.ofSource userCode source).root.placed []).map (·.1)) ∧
      codes.map (·.index) = List.range codes.length ∧
      List.Forall₂ Node.NamesOperands (Node.ofSource source).blocks codes := by
  obtain ⟨count, codes, hperm, hmirrors, hindex, -⟩ := mirrored_ofSource h []
  refine ⟨codes, hperm, ?_, ?_⟩
  · rw [hindex, List.range_eq_range']
  · have hblocks : ∀ block ∈ (Node.ofSource source).blocks, block ∈ (Node.ofSource source).blocks :=
      fun _ hblock => hblock
    have hboth := (List.forall₂_and_left _ _).2 ⟨hblocks, hmirrors⟩
    apply hboth.imp
    intro block code hpair
    exact namesOperands_of_mirrors h hpair.1 hpair.2

/-- Names behind all three naming words, comments between, in a block and across two statements. -/
theorem operands_ofSource_mixed :
    (Program.ofSource true
        "Let X be Box 1; Def Change (Set the X 2; Stop; Set); Change".toList).isRejected = false ∧
      ∃ codes : List Block,
        codes.Perm (((Program.ofSource true
          "Let X be Box 1; Def Change (Set the X 2; Stop; Set); Change".toList).root.placed
            []).map (·.1)) ∧
        codes.map (·.index) = List.range codes.length ∧
        List.Forall₂ Node.NamesOperands
          (Node.ofSource
            "Let X be Box 1; Def Change (Set the X 2; Stop; Set); Change".toList).blocks codes := by
  have haccepted : (Program.ofSource true
      "Let X be Box 1; Def Change (Set the X 2; Stop; Set); Change".toList).isRejected = false := by
    decide +kernel
  exact ⟨haccepted, operands_ofSource haccepted⟩

/-- `Set` at the end of a statement takes a name from the statement before: the word there is not
looked up, though no naming word of its statement stands before it. -/
theorem set_names_in_statement_before :
    (Program.ofSource true "Stop; Set;".toList).isRejected = false ∧
      ∃ word rest, (Program.ofSource true "Stop; Set;".toList).root.body = .word word :: rest ∧
        word.name = "Stop" ∧ Machine.takesNameBefore rest = true ∧
        ∀ statement ∈ (Node.ofSource "Stop; Set;".toList).walk, statement.kind = .statement →
          ¬ Node.FollowsNaming statement.items word := by
  have hstop : ((Program.ofSource true "Stop; Set;".toList).root.body.head?.bind
      Item.word?).map (·.name) = some "Stop" := by decide +kernel
  have htakes : Machine.takesNameBefore
      (Program.ofSource true "Stop; Set;".toList).root.body.tail = true := by decide +kernel
  have hsingle : (Node.ofSource "Stop; Set;".toList).walk.all
      (fun node => node.kind != .statement || node.items.length == 1) = true := by
    decide +kernel
  refine ⟨by decide +kernel, ?_⟩
  obtain ⟨word, hword, hname⟩ := Option.map_eq_some_iff.1 hstop
  obtain ⟨first, hfirst, hitem⟩ := Option.bind_eq_some_iff.1 hword
  obtain rfl : first = .word word := Item.word?_eq_some_iff.1 hitem
  obtain ⟨rest, hbody⟩ := List.head?_eq_some_iff.1 hfirst
  rw [hbody, List.tail_cons] at htakes
  refine ⟨word, rest, hbody, hname, htakes, ?_⟩
  intro statement hstatement hkind hfollows
  obtain ⟨keyword, name, hpair, -⟩ := hfollows
  have hlength := List.all_eq_true.1 hsingle statement hstatement
  rw [hkind, bne_self_eq_false, Bool.false_or, beq_iff_eq] at hlength
  have htwo := hpair.length_le
  rw [hlength] at htwo
  exact Nat.not_succ_le_self 1 htwo

end Program

end StackProse
