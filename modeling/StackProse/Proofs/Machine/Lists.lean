import StackProse.Proofs.Machine.Expressions
import StackProse.Proofs.Value.Rendered

/-!
# Lists are their own source

The text of a list is a block of literals in parentheses. Behind the word `List` it is a program
that makes the list again: the block runs its literals from the last to the first on a stack of its
own, and the word takes that stack for a list.

`Machine.evaluate_list_source` proves it for every list of truth values, symbols, strings and finite
numbers. It is a round trip through everything that text goes through, and so it rests on one result
from each part: how values are written (`Heap.nested_list`), how the text is arranged
(`Node.children_ofSource_withBlock`), what program that is (`Program.ofSource_withBlock`), and how it
runs.
-/

namespace StackProse

/-! ### The program -/

namespace Assembly

/-- A block becomes an item with what fills it. -/
theorem itemOf_filled_block (userCode : Bool) {spellings : List Spelling}
    (hordinary : ∀ spelling ∈ spellings, spelling.instruction.IsOrdinary) {parts : List Node}
    (h : Lexeme.Fill (spellings.map (·.toLexeme)) parts) (span : Span) (position : Position)
    (state : Assembly) :
    ∃ items, itemOf userCode (.branch .block span position parts) state =
        (some (.block (.mk state.blocks userCode [] items)),
          { state with blocks := state.blocks + 1 }) ∧
      Spelling.Follow spellings.reverse items := by
  obtain ⟨items, hparts, hfollow⟩ :=
    partsOf_fill userCode hordinary h { state with blocks := state.blocks + 1 }
  refine ⟨items, ?_, hfollow⟩
  rw [Node.branch, itemOf]
  simp only [Bool.false_eq_true, if_false, bind, StateT.bind, freshIndex, modifyGet,
    MonadStateOf.modifyGet, StateT.modifyGet, pure, StateT.pure, hparts]

end Assembly

/-- The program of words and a block: the block comes first, and then the words in reverse order. -/
theorem Program.ofSource_withBlock (userCode : Bool) {words : List Spelling}
    (hwords : ∀ word ∈ words, word.instruction.DeclaresNothing) {spellings : List Spelling}
    (hordinary : ∀ spelling ∈ spellings, spelling.instruction.IsOrdinary) :
    ∃ items after,
      Program.ofSource userCode
          (Lexeme.withBlock (words.map (·.toLexeme)) (spellings.map (·.toLexeme))) =
        ⟨.mk (.source 0) userCode [] (.block (.mk (.source 1) userCode [] items) :: after), [], false⟩ ∧
      Spelling.Follow spellings.reverse items ∧ Spelling.Follow words.reverse after := by
  obtain ⟨span, position, leaves, inner, place, parts, hchildren, hleaves, hfill⟩ :=
    Node.children_ofSource_withBlock (words.map (·.toLexeme)) (spellings.map (·.toLexeme))
  rw [List.forall₂_map_left_iff] at hleaves
  obtain ⟨items, hblock, hfollow⟩ :=
    Assembly.itemOf_filled_block userCode hordinary hfill inner place { blocks := 1 }
  obtain ⟨before, hbefore, hall⟩ := Assembly.itemsOf_leaves userCode hleaves
    [.branch .block inner place parts] [] { blocks := 1 }
  have hreverse := List.forall₂_reverse_iff.2 hall
  refine ⟨items, before.reverse, ?_, hfollow, hreverse.flip⟩
  have hitems : Assembly.itemsOf userCode [] (leaves ++ [.branch .block inner place parts])
      { blocks := 1 } = (.block (.mk (.source 1) userCode [] items) :: before.reverse, { blocks := 2 }) := by
    rw [hbefore]
    simp only [Assembly.itemsOf, bind, StateT.bind, hblock, pure, StateT.pure, List.append_nil]
  have hdeclare : Assembly.declare [] none
      (.block (.mk (.source 1) userCode [] items) :: before.reverse) { blocks := 2 } =
        (([], true), { blocks := 2 }) := by
    rw [Assembly.declare]
    · apply Assembly.declare_nothing hreverse
      intro word hword
      exact hwords word (List.mem_reverse.1 hword)
    · simp
  rw [Program.ofSource, Program.ofNode, hchildren, Assembly.rootOf, Node.branch]
  simp only [StateT.run, bind, StateT.bind, Assembly.freshIndex, modifyGet, MonadStateOf.modifyGet,
    StateT.modifyGet, pure, StateT.pure, Assembly.partsOf, hitems, hdeclare]
  simp

/-- The program of a word and a block: the block comes first. -/
theorem Program.ofSource_enclosed (userCode : Bool) {word : Spelling} {name : String}
    (hword : word.instruction = .word name) (hname : Declaration.ofKeyword? name = none)
    {spellings : List Spelling}
    (hordinary : ∀ spelling ∈ spellings, spelling.instruction.IsOrdinary) :
    ∃ items span position,
      Program.ofSource userCode (word.toLexeme.enclosed (spellings.map (·.toLexeme))) =
        ⟨.mk (.source 0) userCode [] [.block (.mk (.source 1) userCode [] items), .word ⟨name, span, position⟩],
          [], false⟩ ∧
      Spelling.Follow spellings.reverse items := by
  have hnothing : ∀ other ∈ [word], other.instruction.DeclaresNothing := by
    rw [List.forall_mem_singleton, hword]
    exact hname
  obtain ⟨items, after, hprogram, hitems, hafter⟩ :=
    Program.ofSource_withBlock userCode hnothing hordinary
  obtain ⟨item, rest, his, hrest, rfl⟩ := List.forall₂_cons_right_iff.1 hafter
  obtain rfl := List.forall₂_nil_right_iff.1 hrest
  rw [hword] at his
  obtain ⟨span, position, rfl⟩ := his
  exact ⟨items, span, position, hprogram, hitems⟩

/-- The word that makes lists. -/
def listWord : Spelling :=
  .ofWord 'L' ['i', 's', 't'] ⟨rfl, rfl⟩ rfl rfl

/-! ### Running it -/

namespace Machine

/-- Literals are put on the stack one by one. -/
theorem runItems_literals (runner : Runner) (scene : Scene) (literals : List Literal)
    (machine : Machine) :
    runItems runner scene (literals.map .literal) machine =
      .ok () { machine with stack := (literals.map .ofLiteral).reverse ++ machine.stack } := by
  induction literals generalizing machine with
  | nil => rfl
  | cons literal literals ih =>
      rw [List.map_cons, runItems_cons]
      refine (ih _).trans ?_
      simp

/-- The items of literals are the literals. -/
theorem follow_literals {spelled : List Literal.Spelled} {items : List Item}
    (h : Spelling.Follow (spelled.map (·.spelling)) items) :
    items = (spelled.map (·.literal)).map .literal := by
  induction spelled generalizing items with
  | nil => exact List.forall₂_nil_right_iff.1 h
  | cons first spelled ih =>
      obtain ⟨item, rest, hfirst, hrest, rfl⟩ := List.forall₂_cons_right_iff.1 h
      obtain rfl : item = .literal first.literal := hfirst
      rw [ih hrest]
      rfl

/-- A block of literals before the word `List` makes a list of their values, the last one first. -/
theorem runItems_list (room : Nat) (scene : Scene) (machine : Machine) (index : Nat)
    (userCode : Bool) (literals : List Literal) (span : Span) (position : Position)
    (hlist : machine.frames.lookup scene.frame "List" = none) :
    runItems (process (room + 1)) scene
        [.block (.mk index userCode [] (literals.map .literal)), .word ⟨"List", span, position⟩]
        machine =
      .ok () { machine with
        stack := .list (literals.map .ofLiteral).reverse :: machine.stack
        frames := (machine.frames.add
          (.ofBlock (.mk index userCode [] (literals.map .literal)) (some scene.frame))).2 } := by
  let block : Block := .mk index userCode [] (literals.map .literal)
  have hdeed : Deed.ofItem scene [] (.word ⟨"List", span, position⟩)
      { machine with stack := .block block (some scene.frame) :: machine.stack } =
        .enter (.list machine.stack) scene.active ⟨block, some scene.frame⟩
          { machine with stack := [] } := by
    change Deed.ofWord scene ⟨"List", span, position⟩ _ = _
    simp only [Deed.ofWord, hlist]
    rfl
  rw [runItems_cons]
  change runItems _ _ [.word _] { machine with
    stack := .block block (some scene.frame) :: machine.stack } = _
  rw [runItems_cons, hdeed, Deed.perform, process_succ]
  simp only [block, Block.body, runItems_literals, List.append_nil]
  rfl

/-- The program of a block of literals before the word `List` finishes, with the list on the stack.
It needs room for the root and for the block. -/
theorem evaluate_list (room : Nat) (active : List BeginId) (outside : Option FrameId)
    (machine : Machine) (userCode : Bool) (literals : List Literal) (span : Span)
    (position : Position)
    (houtside : ∀ frame ∈ outside, machine.frames.lookup frame "List" = none) :
    ∃ frames, machine.evaluate (room + 3) active
        ⟨.mk (.source 0) userCode [] [.block (.mk (.source 1) userCode [] (literals.map .literal)),
          .word ⟨"List", span, position⟩], outside⟩ =
      (.finished machine.frames.all.size, { machine with
        stack := .list (literals.map .ofLiteral).reverse :: machine.stack, frames := frames }) := by
  let block : Block := .mk (.source 1) userCode [] (literals.map .literal)
  let root : Block := .mk (.source 0) userCode [] [.block block, .word ⟨"List", span, position⟩]
  let framed : Machine :=
    { machine with frames := (machine.frames.add (.ofBlock root outside)).2 }
  have hlist : framed.frames.lookup machine.frames.all.size "List" = none :=
    Frames.lookup_add_eq_none rfl houtside
  have hrun := runItems_list room ⟨machine.frames.all.size, userCode, active⟩ framed 1 userCode
    literals span position hlist
  have hroom : room + 3 - 1 = room + 1 + 1 := rfl
  refine ⟨(framed.frames.add (.ofBlock block (some machine.frames.all.size))).2, ?_⟩
  simp only [evaluate, hroom, process_succ, Block.body, Block.userCode]
  rw [hrun]

/-- The text of a list is the source of a program, behind the word that makes lists. The program has
no problems, and to evaluate it adds a single value to the stack, a list that is equal. It may run
inside a frame, if the word is not bound there. -/
theorem evaluate_list_source (heap : Heap) {items : List Value}
    (hitems : ∀ item ∈ items, item.isPlain) (userCode : Bool) {limit : Nat} (hlimit : 2 < limit)
    (active : List BeginId) (outside : Option FrameId) (machine : Machine)
    (houtside : ∀ frame ∈ outside, machine.frames.lookup frame "List" = none) :
    let program := Program.ofSource userCode
      ("List ".toList ++ (heap.nested (.list items)).toList)
    program.problems = [] ∧ program.isRejected = false ∧
      ∃ frames made,
        machine.evaluate limit active ⟨program.root, outside⟩ =
          (.finished machine.frames.all.size,
            { machine with stack := .list made :: machine.stack, frames := frames }) ∧
        Value.compare (.list made) (.list items) = .eq := by
  obtain ⟨spelled, hspells⟩ := Value.exists_spellings hitems
  have hsource : "List ".toList ++ (heap.nested (.list items)).toList =
      listWord.toLexeme.enclosed ((spelled.map (·.spelling)).map (·.toLexeme)) := by
    rw [heap.nested_list hspells, List.map_map]
    rfl
  have hordinary : ∀ spelling ∈ spelled.map (·.spelling), spelling.instruction.IsOrdinary := by
    intro spelling hspelling
    obtain ⟨literal, -, rfl⟩ := List.mem_map.1 hspelling
    trivial
  obtain ⟨body, span, position, hprogram, hfollow⟩ :=
    Program.ofSource_enclosed userCode (show listWord.instruction = .word "List" from rfl) rfl
      hordinary
  rw [← List.map_reverse] at hfollow
  obtain rfl := follow_literals hfollow
  obtain ⟨room, rfl⟩ : ∃ room, limit = room + 3 := ⟨limit - 3, by omega⟩
  obtain ⟨frames, hevaluate⟩ := evaluate_list room active outside machine userCode
    (spelled.reverse.map (·.literal)) span position houtside
  -- The block runs its literals backwards and the list has the last one first: two reversals.
  have hmade : ((spelled.reverse.map (·.literal)).map Value.ofLiteral).reverse =
      spelled.map fun literal => .ofLiteral literal.literal := by
    simp
  rw [hmade] at hevaluate
  rw [hsource, hprogram]
  exact ⟨rfl, rfl, frames, _, hevaluate, Value.compare_list hspells⟩

/-- A list with one item of each kind. The string has a character that is written with a backslash
and one beyond the first plane. -/
def mixedList : List Value :=
  [.number (.ofFloat (-0.1)), .symbol "is-it?", .boolean false,
    .string (Units.ofString "a\n\"😀") none]

theorem evaluate_list_source_mixed :
    ((({} : Heap).nested (.list mixedList)) = "(-0.1 \\is-it? False \"a\\n\\\"😀\")") ∧
      ∃ frames made,
        ({} : Machine).evaluate Limit.default []
            ⟨(Program.ofSource true
              ("List ".toList ++ (({} : Heap).nested (.list mixedList)).toList)).root, none⟩ =
          (.finished 0, { stack := [.list made], frames := frames }) ∧
        Value.compare (.list made) (.list mixedList) = .eq := by
  have hplain : ∀ item ∈ mixedList, item.isPlain := by
    decide +kernel
  refine ⟨by decide +kernel, ?_⟩
  exact (evaluate_list_source {} hplain true (by decide) [] none {} nofun).2.2

end Machine

end StackProse
