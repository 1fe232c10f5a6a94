import StackProse.Proofs.Builtin.Applied
import StackProse.Proofs.Machine.Lists
import StackProse.Proofs.Table.Histories

/-!
# Tables at once and pair by pair

There are two ways to write a table. `Table (k1 v1 k2 v2)` runs a block on a stack of its own and
takes what it leaves two by two. `Insert k1 v1 Insert k2 v2 Table ()` begins with the empty table and
enters one pair after the other. Statements run backwards, and so in both the pair written last is
entered first: they make the same tree, not only tables with the same entries
(`Machine.tables_written_two_ways`). A key that is written more than once has the value of its first
pair, which is the one that is entered last.
-/

namespace StackProse

/-! ### The two sources -/

/-- The word that makes tables. -/
def tableWord : Spelling :=
  .ofWord 'T' ['a', 'b', 'l', 'e'] ⟨rfl, rfl⟩ rfl rfl

/-- The word that enters a pair. -/
def insertWord : Spelling :=
  .ofWord 'I' ['n', 's', 'e', 'r', 't'] ⟨rfl, rfl⟩ rfl rfl

/-- A key and a value as they are written. -/
abbrev WrittenPair := Literal.Spelled × Literal.Spelled

namespace WrittenPair

/-- The key and the value that are written. -/
def entry (pair : WrittenPair) : Value × Value :=
  (.ofLiteral pair.1.literal, .ofLiteral pair.2.literal)

/-- `Table` and a block with all pairs. -/
def atOnce (pairs : List WrittenPair) : List Char :=
  tableWord.toLexeme.enclosed (pairs.flatMap fun pair => [pair.1.lexeme, pair.2.lexeme])

/-- `Insert` before each pair, and an empty table at the end. -/
def oneByOne (pairs : List WrittenPair) : List Char :=
  Lexeme.withBlock (pairs.flatMap (fun pair =>
    [insertWord.toLexeme, pair.1.lexeme, pair.2.lexeme]) ++ [tableWord.toLexeme]) []

/-- Two values for the same symbol, and one for a truth value between them. -/
def repeated : List WrittenPair :=
  [(.symbol ['a'] (by decide) (List.forall_mem_singleton.2 rfl),
      .number ⟨true, ⟨['7'], by decide, List.forall_mem_singleton.2 rfl⟩, none⟩),
    (.boolean ⟨false, 'F', ['a', 'l', 's', 'e'], rfl, rfl⟩, .string []),
    (.symbol ['a'] (by decide) (List.forall_mem_singleton.2 rfl),
      .boolean ⟨false, 'F', ['A', 'L', 'S', 'E'], rfl, rfl⟩)]

example : atOnce repeated = "Table (\\a -7 False \"\" \\a FALSE)".toList := by
  decide

example : oneByOne repeated =
    "Insert \\a -7 Insert False \"\" Insert \\a FALSE Table ()".toList := by
  decide

end WrittenPair

/-! ### The table that pairs make -/

namespace ValueTable

/-- The table of pairs that are entered from the last to the first. -/
def ofPairs (pairs : List (Value × Value)) : ValueTable :=
  pairs.foldr (fun pair table => table.insert pair.1 pair.2) .empty

theorem ofPairs_eq_ofChanges (pairs : List (Value × Value)) :
    ofPairs pairs =
      Table.ofChanges Value.compare (pairs.reverse.map fun pair => .insert pair.1 pair.2) := by
  rw [Table.ofChanges, List.foldl_map, List.foldl_reverse]
  rfl

/-- In a total preorder a key has the value of the first pair with an equal key. -/
theorem get?_ofPairs {keys : Set Value} (htotal : TotalOn keys Value.compare)
    {pairs : List (Value × Value)} (hkeys : ∀ pair ∈ pairs, pair.1 ∈ keys) {key : Value}
    (hkey : key ∈ keys) :
    (ofPairs pairs).get? key =
      (pairs.find? fun pair => Value.compare key pair.1 = .eq).map (·.2) := by
  have hchanges : ∀ change ∈ pairs.reverse.map fun pair => Table.Change.insert pair.1 pair.2,
      change.key ∈ keys := by
    intro change hchange
    obtain ⟨pair, hpair, rfl⟩ := List.mem_map.1 hchange
    exact hkeys pair (List.mem_reverse.1 hpair)
  rw [get?, ofPairs_eq_ofChanges, Table.get?_ofChanges htotal _ hchanges hkey]
  clear hchanges hkeys
  induction pairs with
  | nil => rfl
  | cons pair pairs ih =>
      rw [List.reverse_cons, List.map_append, List.map_singleton, Table.valueAfter_concat, ih,
        List.find?_cons]
      by_cases heq : Value.compare key pair.1 = .eq
      · simp [heq, Table.Change.key, Table.Change.value?]
      · simp [heq, Table.Change.key]

end ValueTable

/-! ### Running the programs -/

namespace WrittenPair

/-- Keys and values in turns, as they are written. -/
def literals (pairs : List WrittenPair) : List Literal.Spelled :=
  pairs.flatMap fun pair => [pair.1, pair.2]

/-- Enters a pair. -/
def enter (table : ValueTable) (pair : WrittenPair) : ValueTable :=
  table.insert pair.entry.1 pair.entry.2

theorem foldl_enter_reverse (pairs : List WrittenPair) :
    pairs.reverse.foldl enter .empty = .ofPairs (pairs.map entry) := by
  rw [List.foldl_reverse, ValueTable.ofPairs, List.foldr_map]
  rfl

end WrittenPair

namespace Machine

open WrittenPair

theorem applies_insert (literal : Literal) (value : Value) (table : ValueTable) :
    Applies "Insert" [.ofLiteral literal, value, .table table]
      (.table (table.insert (.ofLiteral literal) value)) := by
  refine ⟨_, rfl, fun machine below => ?_⟩
  cases literal <;> rfl

/-- Values and keys in turns are entered one after the other. -/
theorem tableOf_literals (pairs : List WrittenPair) (table : ValueTable) :
    tableOf table (pairs.flatMap fun pair => [pair.entry.2, pair.entry.1]) =
      .ok (pairs.foldl enter table) := by
  induction pairs generalizing table with
  | nil => rfl
  | cons pair pairs ih =>
      have hkey : Builtin.tableKey pair.entry.1 = .ok pair.entry.1 := by
        rw [entry]
        cases pair.1.literal <;> rfl
      rw [List.flatMap_cons, List.cons_append, List.cons_append, List.nil_append, tableOf, hkey]
      exact ih _

/-- What the block of all pairs leaves becomes their table. -/
theorem makeTable_literals (pairs : List WrittenPair) (machine : Machine) :
    makeTable ((literals pairs).map fun spelled => .ofLiteral spelled.literal) machine =
      .ok () { machine with
        stack := .table (ValueTable.ofPairs (pairs.map entry)) :: machine.stack } := by
  have heven : ((literals pairs).map fun spelled => Value.ofLiteral spelled.literal).length % 2 = 0 := by
    simp [literals, List.length_flatMap]
  have hreverse : ((literals pairs).map fun spelled => Value.ofLiteral spelled.literal).reverse =
      pairs.reverse.flatMap fun pair => [pair.entry.2, pair.entry.1] := by
    rw [literals, List.map_flatMap, List.reverse_flatMap]
    rfl
  rw [makeTable, hreverse, tableOf_literals, foldl_enter_reverse]
  simp only [heven]
  rfl

/-- A block of pairs before the word `Table` makes their table. -/
theorem runItems_table (room : Nat) {scene : Scene} {machine : Machine} (index : Nat)
    (userCode : Bool) (pairs : List WrittenPair) {word : Word} (hword : word.name = "Table")
    {rest : List Item} (hrest : takesNameBefore rest = false)
    (htable : machine.frames.lookup scene.frame "Table" = none) :
    let block : Block := .mk index userCode []
      (((literals pairs).reverse.map (·.literal)).map .literal)
    runItems (process (room + 1)) scene (.block block :: .word word :: rest) machine =
      runItems (process (room + 1)) scene rest { machine with
        stack := .table (ValueTable.ofPairs (pairs.map entry)) :: machine.stack
        frames := (machine.frames.add (.ofBlock block (some scene.frame))).2 } := by
  intro block
  have hdeed : Deed.ofItem scene rest (.word word)
      { machine with stack := .block block (some scene.frame) :: machine.stack } =
        .enter (.table machine.stack) scene.active ⟨block, some scene.frame⟩
          { machine with stack := [] } := by
    simp only [Deed.ofItem, hrest, Bool.false_eq_true, if_false, Deed.ofWord, hword, htable]
    rfl
  have hleft : (((literals pairs).reverse.map (·.literal)).map Value.ofLiteral).reverse =
      (literals pairs).map fun spelled => .ofLiteral spelled.literal := by
    simp
  rw [runItems_cons]
  change runItems _ _ (.word word :: rest) { machine with
    stack := .block block (some scene.frame) :: machine.stack } = _
  rw [runItems_cons, hdeed, Deed.perform, process_succ]
  simp only [block, Block.body, runItems_literals, List.append_nil, hleft]
  rw [Purpose.resume]
  dsimp only
  rw [makeTable_literals]

/-- The items that enter pairs into a table on the stack. -/
theorem runItems_insertions (runner : Runner) {scene : Scene} {machine : Machine}
    (hinsert : machine.frames.lookup scene.frame "Insert" = none) (pairs : List WrittenPair)
    {items : List Item}
    (hfollow : Spelling.Follow
      (pairs.flatMap fun pair => [pair.2.spelling, pair.1.spelling, insertWord]) items)
    (table : ValueTable) (below : List Value) :
    takesNameBefore items = false ∧
    runItems runner scene items { machine with stack := .table table :: below } =
      .ok () { machine with stack := .table (pairs.foldl enter table) :: below } := by
  induction pairs generalizing items table with
  | nil =>
      obtain rfl := List.forall₂_nil_right_iff.1 hfollow
      exact ⟨rfl, rfl⟩
  | cons pair pairs ih =>
      obtain ⟨value, keyed, hvalue, hkeyed, rfl⟩ := List.forall₂_cons_right_iff.1 hfollow
      obtain ⟨key, inserted, hkey, hinserted, rfl⟩ := List.forall₂_cons_right_iff.1 hkeyed
      obtain ⟨word, after, ⟨span, position, rfl⟩, hafter, rfl⟩ :=
        List.forall₂_cons_right_iff.1 hinserted
      obtain rfl : value = .literal pair.2.literal := hvalue
      obtain rfl : key = .literal pair.1.literal := hkey
      obtain ⟨htakes, hrun⟩ := ih hafter (enter table pair)
      have happlies := (applies_insert pair.1.literal (.ofLiteral pair.2.literal) table).runItems
        runner (show (⟨"Insert", span, position⟩ : Word).name = "Insert" from rfl) htakes hinsert below
      exact ⟨rfl, happlies.trans hrun⟩

/-- A program that declares nothing finishes if its items do. -/
theorem evaluate_of_runItems {room : Nat} {active : List BeginId} {outside : Option FrameId}
    {machine after : Machine} {userCode : Bool} {items : List Item}
    (h : runItems (process room) ⟨machine.frames.all.size, userCode, active⟩ items
      { machine with frames := (machine.frames.add (.ofBlock (.mk (.source 0) userCode [] items) outside)).2 } =
        .ok () after) :
    machine.evaluate (room + 2) active ⟨.mk (.source 0) userCode [] items, outside⟩ =
      (.finished machine.frames.all.size, after) := by
  have hroom : room + 2 - 1 = room + 1 := rfl
  simp only [evaluate, hroom, process_succ, Block.body, Block.userCode, h]

section

variable (pairs : List WrittenPair) (userCode : Bool) (room : Nat) (active : List BeginId)
  (outside : Option FrameId) (machine : Machine)
  (htable : ∀ frame ∈ outside, machine.frames.lookup frame "Table" = none)

include htable

theorem evaluate_atOnce :
    let program := Program.ofSource userCode (atOnce pairs)
    program.isRejected = false ∧ ∃ frames,
      machine.evaluate (room + 3) active ⟨program.root, outside⟩ =
        (.finished machine.frames.all.size, { machine with
          stack := .table (ValueTable.ofPairs (pairs.map entry)) :: machine.stack
          frames := frames }) := by
  have hordinary : ∀ spelling ∈ (literals pairs).map (·.spelling),
      spelling.instruction.IsOrdinary := by
    intro spelling hspelling
    obtain ⟨spelled, -, rfl⟩ := List.mem_map.1 hspelling
    trivial
  obtain ⟨items, span, position, hprogram, hfollow⟩ := Program.ofSource_enclosed userCode
    (show tableWord.instruction = .word "Table" from rfl) rfl hordinary
  rw [← List.map_reverse] at hfollow
  obtain rfl := follow_literals hfollow
  have hsource : atOnce pairs =
      tableWord.toLexeme.enclosed (((literals pairs).map (·.spelling)).map (·.toLexeme)) := by
    rw [atOnce, literals, List.map_map, List.map_flatMap]
    rfl
  rw [hsource, hprogram]
  refine ⟨rfl, _, evaluate_of_runItems (runItems_table room 1 userCode pairs rfl rfl ?_)⟩
  exact Frames.lookup_add_eq_none rfl htable

theorem evaluate_oneByOne
    (hinsert : ∀ frame ∈ outside, machine.frames.lookup frame "Insert" = none) :
    let program := Program.ofSource userCode (oneByOne pairs)
    program.isRejected = false ∧ ∃ frames,
      machine.evaluate (room + 3) active ⟨program.root, outside⟩ =
        (.finished machine.frames.all.size, { machine with
          stack := .table (ValueTable.ofPairs (pairs.map entry)) :: machine.stack
          frames := frames }) := by
  let words : List Spelling :=
    pairs.flatMap (fun pair => [insertWord, pair.1.spelling, pair.2.spelling]) ++ [tableWord]
  have hnothing : ∀ word ∈ words, word.instruction.DeclaresNothing := by
    intro word hword
    rcases List.mem_append.1 hword with hword | hword
    · obtain ⟨pair, -, hword⟩ := List.mem_flatMap.1 hword
      simp only [List.mem_cons, List.not_mem_nil, or_false] at hword
      rcases hword with rfl | rfl | rfl
      · rfl
      · trivial
      · trivial
    · rw [List.mem_singleton.1 hword]
      rfl
  obtain ⟨items, after, hprogram, hitems, hafter⟩ :=
    Program.ofSource_withBlock userCode hnothing (List.forall_mem_nil _)
  obtain rfl := List.forall₂_nil_right_iff.1 hitems
  have hwords : words.reverse = tableWord :: pairs.reverse.flatMap fun pair =>
      [pair.2.spelling, pair.1.spelling, insertWord] := by
    rw [List.reverse_append, List.reverse_flatMap]
    rfl
  rw [hwords] at hafter
  obtain ⟨word, insertions, ⟨span, position, rfl⟩, hinsertions, rfl⟩ :=
    List.forall₂_cons_right_iff.1 hafter
  have hsource : oneByOne pairs = Lexeme.withBlock (words.map (·.toLexeme)) [] := by
    rw [oneByOne, List.map_append, List.map_flatMap]
    rfl
  let root : Block :=
    .mk (.source 0) userCode [] (.block (.mk (.source 1) userCode [] []) :: .word ⟨"Table", span, position⟩ :: insertions)
  have hroot : Program.ofSource userCode (oneByOne pairs) = ⟨root, [], false⟩ := by
    rw [hsource]
    exact hprogram
  -- the names are looked up from the frame of the program, before and after the empty block has run
  let scene : Scene := ⟨machine.frames.all.size, userCode, active⟩
  let framed := (machine.frames.add (.ofBlock root outside)).2
  let later := (framed.add (.ofBlock (.mk (.source 1) userCode [] []) (some scene.frame))).2
  have hlater : later.lookup scene.frame "Insert" = none := by
    rw [Frames.lookup_add_of_lt]
    · exact Frames.lookup_add_eq_none rfl hinsert
    · simp [framed, scene, Frames.add]
  obtain ⟨htakes, hrun⟩ := @runItems_insertions (process (room + 1)) scene
    { machine with frames := later } hlater pairs.reverse insertions hinsertions .empty machine.stack
  rw [foldl_enter_reverse] at hrun
  have hempty := @runItems_table room scene { machine with frames := framed } 1 userCode []
    ⟨"Table", span, position⟩ rfl insertions htakes (Frames.lookup_add_eq_none rfl htable)
  rw [hroot]
  exact ⟨rfl, later, evaluate_of_runItems (hempty.trans hrun)⟩

end

/-- A table may be written at once or pair by pair: both programs finish and push the same tree, for
every row of literal keys and values. They may run inside a frame, if neither of their words is bound
there. Where the order of values is a total preorder on the keys, what is at a key is the value of the
first pair written with an equal one. -/
theorem tables_written_two_ways (pairs : List WrittenPair) (userCode : Bool) {limit : Nat}
    (hlimit : 2 < limit) (active : List BeginId) (outside : Option FrameId) (machine : Machine)
    (htable : ∀ frame ∈ outside, machine.frames.lookup frame "Table" = none)
    (hinsert : ∀ frame ∈ outside, machine.frames.lookup frame "Insert" = none) :
    let whole := Program.ofSource userCode (atOnce pairs)
    let chain := Program.ofSource userCode (oneByOne pairs)
    whole.isRejected = false ∧ chain.isRejected = false ∧
      ∃ (table : ValueTable) (frames others : Frames),
        machine.evaluate limit active ⟨whole.root, outside⟩ =
          (.finished machine.frames.all.size,
            { machine with stack := .table table :: machine.stack, frames := frames }) ∧
        machine.evaluate limit active ⟨chain.root, outside⟩ =
          (.finished machine.frames.all.size,
            { machine with stack := .table table :: machine.stack, frames := others }) ∧
        ∀ keys : Set Value, TotalOn keys Value.compare → (∀ pair ∈ pairs, pair.entry.1 ∈ keys) →
          ∀ key ∈ keys, table.get? key =
            (pairs.find? fun pair => Value.compare key pair.entry.1 = .eq).map (·.entry.2) := by
  obtain ⟨room, rfl⟩ : ∃ room, limit = room + 3 := ⟨limit - 3, by omega⟩
  obtain ⟨hwhole, frames, hframes⟩ :=
    evaluate_atOnce pairs userCode room active outside machine htable
  obtain ⟨hchain, others, hothers⟩ :=
    evaluate_oneByOne pairs userCode room active outside machine htable hinsert
  refine ⟨hwhole, hchain, _, frames, others, hframes, hothers, ?_⟩
  intro keys htotal hkeys key hkey
  rw [ValueTable.get?_ofPairs htotal (List.forall_mem_map.2 hkeys) hkey, List.find?_map,
    Option.map_map]
  rfl

/-- The symbol has the number that is written first, and the texts differ. -/
theorem tables_written_two_ways_repeated :
    ∃ (table : ValueTable) (frames others : Frames),
      ({} : Machine).evaluate 3 [] ⟨(Program.ofSource true (atOnce repeated)).root, none⟩ =
        (.finished 0, { stack := [.table table], frames := frames }) ∧
      ({} : Machine).evaluate 3 [] ⟨(Program.ofSource true (oneByOne repeated)).root, none⟩ =
        (.finished 0, { stack := [.table table], frames := others }) ∧
      TotalOn (Value.overNumbers .numbered ∅) Value.compare ∧
      table.get? (.symbol "a") = some (.number (.ofFloat (-7))) := by
  have htotal : TotalOn (Value.overNumbers .numbered ∅) Value.compare :=
    Value.totalOn_overNumbers Identities.total_numbered (Value.totalOn_numbers nofun)
  have hsymbol (name : String) : Value.symbol name ∈ Value.overNumbers .numbered ∅ :=
    ⟨.symbol name, .symbol name⟩
  have hboolean (value : Bool) : Value.boolean value ∈ Value.overNumbers .numbered ∅ :=
    ⟨.boolean value, .boolean value⟩
  obtain ⟨-, -, table, frames, others, hwhole, hchain, hget⟩ :=
    tables_written_two_ways repeated true (show 2 < 3 by decide) [] none {} nofun nofun
  refine ⟨table, frames, others, hwhole, hchain, htotal, ?_⟩
  have hkeys : ∀ pair ∈ repeated, pair.entry.1 ∈ Value.overNumbers .numbered ∅ := by
    simp only [repeated, List.forall_mem_cons]
    exact ⟨hsymbol _, hboolean _, hsymbol _, List.forall_mem_nil _⟩
  rw [hget _ htotal hkeys _ (hsymbol "a")]
  rfl

end Machine

end StackProse
