import Mathlib.Data.List.Nodup
import Mathlib.Order.Monotone.Basic
import StackProse.Proofs.Table.Mapped
import StackProse.Proofs.Value.Cycles
import StackProse.Proofs.Value.Order

/-!
# Values with other identities

Boxes and blocks are told apart by numbers: of the cell, and of the frame. `Value.rename` gives them
other numbers, at any depth of a value. As long as the new numbers are in the same order as the old
ones, nothing that a program can find out changes: values compare as before
(`Value.compare_rename`), they are written as before on a heap with the same contents
(`Heap.Renames.printed_rename`), and builtin words give what they gave before
(`Builtin.respects_all`).
-/

namespace StackProse

/-- Other numbers for boxes and frames, in the same order. -/
structure Renaming where
  box : BoxId → BoxId
  frame : FrameId → FrameId
  strictMono_box : StrictMono box
  strictMono_frame : StrictMono frame

/-- Every number stays as it is. -/
def Renaming.same : Renaming where
  box := id
  frame := id
  strictMono_box := strictMono_id
  strictMono_frame := strictMono_id

namespace Value

variable (shift : Renaming)

mutual

/-- The value with other numbers. -/
def rename : Value → Value
  | number value => number value
  | symbol name => symbol name
  | boolean value => boolean value
  | string units style => string units style
  | box id => box (shift.box id)
  | list items => list (renameItems items)
  | table ⟨root, size⟩ => table ⟨renameEntries root, size⟩
  | block code frame => block code (frame.map shift.frame)
  | identifier name => identifier name

/-- The items of a list with other numbers. -/
def renameItems : List Value → List Value
  | [] => []
  | item :: rest => item.rename :: renameItems rest

/-- The entries of a table with other numbers. -/
def renameEntries : Tree Value Value → Tree Value Value
  | .leaf => .leaf
  | .node level left key value right =>
      .node level (renameEntries left) key.rename value.rename (renameEntries right)

end

theorem renameItems_eq (items : List Value) : renameItems shift items = items.map (rename shift) := by
  induction items with
  | nil => rfl
  | cons item rest ih => rw [renameItems, ih, List.map_cons]

theorem renameEntries_eq (tree : Tree Value Value) :
    renameEntries shift tree = tree.mapped (rename shift) (rename shift) := by
  induction tree with
  | leaf => rfl
  | node level left key value right ihLeft ihRight =>
      rw [renameEntries, ihLeft, ihRight, Tree.mapped]

@[simp]
theorem rename_list (items : List Value) :
    (list items).rename shift = list (items.map (rename shift)) := by
  rw [rename, renameItems_eq]

/-- The table with other numbers in its keys and values. -/
def renameTable (entries : Table Value Value) : Table Value Value :=
  entries.mapped (rename shift) (rename shift)

@[simp]
theorem rename_table (entries : Table Value Value) :
    (table entries).rename shift = table (renameTable shift entries) := by
  obtain ⟨root, size⟩ := entries
  rw [rename, renameEntries_eq, renameTable, Table.mapped]

@[simp]
theorem kind_rename (value : Value) : (value.rename shift).kind = value.kind := by
  cases value with
  | table entries => rw [rename_table]; rfl
  | _ => rfl

theorem number?_rename (value : Value) : (value.rename shift).number? = value.number? := by
  cases value with
  | table entries => rw [rename_table]; rfl
  | _ => rfl

theorem boolean?_rename (value : Value) : (value.rename shift).boolean? = value.boolean? := by
  cases value with
  | table entries => rw [rename_table]; rfl
  | _ => rfl

theorem units?_rename (value : Value) : (value.rename shift).units? = value.units? := by
  cases value with
  | table entries => rw [rename_table]; rfl
  | _ => rfl

theorem items?_rename (value : Value) :
    (value.rename shift).items? = value.items?.map (·.map (rename shift)) := by
  cases value with
  | list items => rw [rename_list]; rfl
  | table entries => rw [rename_table]; rfl
  | _ => rfl

theorem table?_rename (value : Value) :
    (value.rename shift).table? = value.table?.map (renameTable shift) := by
  cases value with
  | table entries => rw [rename_table]; rfl
  | _ => rfl

@[simp]
theorem rename_ofLiteral (literal : Literal) :
    (ofLiteral literal).rename shift = ofLiteral literal := by
  cases literal <;> rfl

@[simp]
theorem rename_ofUnits (units : List UInt16) : (ofUnits units).rename shift = ofUnits units :=
  rfl

/-- A value keeps its numbers if they are not renamed. -/
theorem rename_same (value : Value) : value.rename .same = value := by
  induction value.madeOf_anything with
  | @list items _ ih =>
      rw [rename_list, List.map_congr_left ih, List.map_id']
  | @table entries _ _ ihKeys ihValues =>
      rw [rename_table, renameTable, Table.mapped_eq_self ihKeys ihValues]
  | @block code frame _ => rw [rename, Renaming.same, Option.map_id_fun, id]
  | number | symbol | boolean | string | box | identifier => rfl

end Value

/-! ### The order of values -/

namespace Rank

variable (shift : Renaming)

mutual

/-- The rank with other numbers. -/
def rename : Rank → Rank
  | number value => number value
  | symbol name => symbol name
  | boolean value => boolean value
  | string units => string units
  | box id => box (shift.box id)
  | list items => list (renameAll items)
  | table parts size => table (renameAll parts) size
  | block code frame => block code (frame.map shift.frame)
  | identifier name => identifier name

/-- Ranks with other numbers. -/
def renameAll : List Rank → List Rank
  | [] => []
  | rank :: rest => rank.rename :: renameAll rest

end

theorem renameAll_eq (ranks : List Rank) : renameAll shift ranks = ranks.map (rename shift) := by
  induction ranks with
  | nil => rfl
  | cons rank rest ih => rw [renameAll, ih, List.map_cons]

theorem length_renameAll (ranks : List Rank) : (renameAll shift ranks).length = ranks.length := by
  rw [renameAll_eq, List.length_map]

theorem compare_apply {change : Nat → Nat} (h : StrictMono change) (m n : Nat) :
    Ord.compare (change m) (change n) = Ord.compare m n := by
  simp [Nat.compare_eq_ite_lt, h.lt_iff_lt]

theorem compareFrames_map (first second : Option FrameId) :
    Identities.compareFrames (first.map shift.frame) (second.map shift.frame) =
      Identities.compareFrames first second := by
  cases first with
  | none => cases second <;> rfl
  | some a =>
      cases second with
      | none => rfl
      | some b => exact compare_apply shift.strictMono_frame a b

mutual

/-- Ranks compare as before. -/
theorem compare_rename : ∀ first second : Rank,
    (first.rename shift).compare .numbered (second.rename shift) =
      first.compare .numbered second
  | .number _, second => by cases second <;> rfl
  | .symbol _, second => by cases second <;> rfl
  | .boolean _, second => by cases second <;> rfl
  | .string _, second => by cases second <;> rfl
  | .box a, second => by
      cases second with
      | box b => exact compare_apply shift.strictMono_box a b
      | _ => rfl
  | .list a, second => by
      cases second with
      | list b =>
          simp only [rename, compare, firstDifference_renameAll a b, length_renameAll]
      | _ => rfl
  | .table a m, second => by
      cases second with
      | table b n => simp only [rename, compare, firstDifference_renameAll a b]
      | _ => rfl
  | .block i a, second => by
      cases second with
      | block j b =>
          simp only [rename, compare, Identities.numbered, compareFrames_map]
      | _ => rfl
  | .identifier _, second => by cases second <;> rfl

/-- Rows of ranks have their first difference where they had it before. -/
theorem firstDifference_renameAll : ∀ first second : List Rank,
    firstDifference .numbered (renameAll shift first) (renameAll shift second) =
      firstDifference .numbered first second
  | [], second => by cases second <;> rfl
  | a :: first, [] => rfl
  | a :: first, b :: second => by
      simp only [renameAll, firstDifference, compare_rename a b,
        firstDifference_renameAll first second]

end

end Rank

namespace Value

variable (shift : Renaming)

theorem rank_rename (value : Value) : (value.rename shift).rank = value.rank.rename shift := by
  induction value.madeOf_anything with
  | @list items _ ih =>
      have hranks : (items.map (rename shift)).map rank = (items.map rank).map (.rename shift) := by
        simpa using ih
      rw [rename_list, rank, rank, Rank.rename, Rank.renameAll_eq, ranksOnto_eq, ranksOnto_eq]
      simpa [List.map_reverse] using hranks
  | @table entries _ _ ihKeys ihValues =>
      rw [rename_table, renameTable, rank_table, rank_table, Rank.rename, Rank.renameAll_eq,
        Table.toList_mapped]
      simp only [List.flatMap_map, List.map_flatMap]
      congr 1
      apply List.flatMap_congr
      intro entry hentry
      simp [ihKeys entry hentry, ihValues entry hentry]
  | number | symbol | boolean | string | box | block | identifier => rfl

/-- Values compare as before. -/
theorem compare_rename (first second : Value) :
    (first.rename shift).compare (second.rename shift) = first.compare second := by
  rw [compare, compareBy, rank_rename, rank_rename, Rank.compare_rename, compareBy]

end Value

namespace ValueTable

variable (shift : Renaming) (table : ValueTable) (key value : Value)

theorem get?_rename : ValueTable.get? (Value.renameTable shift table) (key.rename shift) =
    (table.get? key).map (·.rename shift) :=
  Table.get?_mapped (Value.compare_rename shift) table key

theorem contains_rename : ValueTable.contains (Value.renameTable shift table) (key.rename shift) =
    table.contains key :=
  Table.contains_mapped (Value.compare_rename shift) table key

theorem insert_rename :
    ValueTable.insert (Value.renameTable shift table) (key.rename shift) (value.rename shift) =
      Value.renameTable shift (table.insert key value) :=
  Table.insert_mapped (Value.compare_rename shift) table key value

theorem erase_rename : ValueTable.erase (Value.renameTable shift table) (key.rename shift) =
    Value.renameTable shift (table.erase key) :=
  Table.erase_mapped (Value.compare_rename shift) table key

end ValueTable

/-! ### The written form of values -/

namespace Value

section

variable {shift : Renaming} {box box' : String → BoxId → String}

theorem writeItems_map {items : List Value}
    (h : ∀ item ∈ items, ∀ out, (item.rename shift).write box' out = item.write box out)
    (out : String) (first : Bool) :
    writeItems box' out first (items.map (rename shift)) = writeItems box out first items := by
  induction items generalizing out first with
  | nil => rfl
  | cons item rest ih =>
      rw [List.forall_mem_cons] at h
      rw [List.map_cons, writeItems, writeItems, h.1, ih h.2]

/-- A value is written as before if its boxes are. -/
theorem write_rename (hbox : ∀ out id, box' out (shift.box id) = box out id) (value : Value)
    (out : String) : (value.rename shift).write box' out = value.write box out := by
  induction value.madeOf_anything generalizing out with
  | @list items _ ih => rw [rename_list, write, write, writeItems_map ih]
  | @table entries _ _ ihKeys ihValues =>
      rw [rename_table, renameTable, write_table, write_table, Table.toList_mapped,
        List.foldl_map]
      congr 1
      refine List.foldl_ext _ _ _ fun out entry hentry => ?_
      rw [Prod.map_fst, Prod.map_snd, ihKeys entry hentry, ihValues entry hentry]
  | box id => exact hbox out id
  | number | symbol | boolean | string | block | identifier => rfl

end

end Value

/-- A heap holds under the new numbers what another one holds under the old ones. New boxes will get
numbers that belong together as well. -/
structure Heap.Renames (shift : Renaming) (heap other : Heap) : Prop where
  get? : ∀ id, other.get? (shift.box id) = (heap.get? id).map (·.rename shift)
  next : ∀ count, shift.box (heap.cells.size + count) = other.cells.size + count

namespace Heap

variable {shift : Renaming} {heap other : Heap} {opened : List BoxId} {id : BoxId}

/-- Boxes that are open inside each other while something is written, on both heaps. -/
structure Opened (shift : Renaming) (heap other : Heap) (opened : List BoxId) : Prop where
  nodup : opened.Nodup
  inside : ∀ id ∈ opened, id < heap.cells.size
  inside' : ∀ id ∈ opened.map shift.box, id < other.cells.size

theorem length_le_of_nodup (hnodup : opened.Nodup)
    (hopened : ∀ id ∈ opened, id < heap.cells.size) : opened.length ≤ heap.cells.size := by
  have hsubset : opened ⊆ List.range heap.cells.size := fun id hid =>
    List.mem_range.2 (hopened id hid)
  simpa using (hnodup.subperm hsubset).length_le

/-- There are no more open boxes than boxes. -/
theorem Opened.length_le (h : Opened shift heap other opened) :
    opened.length ≤ heap.cells.size ∧ opened.length ≤ other.cells.size := by
  have hlength := length_le_of_nodup (h.nodup.map shift.strictMono_box.injective) h.inside'
  rw [List.length_map] at hlength
  exact ⟨length_le_of_nodup h.nodup h.inside, hlength⟩

theorem Renames.opened_cons (h : heap.Renames shift other) (hopened : Opened shift heap other opened)
    (hid : id ∉ opened) {content : Value} (hcontent : heap.get? id = some content) :
    Opened shift heap other (id :: opened) := by
  have hcontent' : other.get? (shift.box id) = some (content.rename shift) := by
    rw [h.get?, hcontent]
    rfl
  refine ⟨List.nodup_cons.2 ⟨hid, hopened.nodup⟩, ?_, ?_⟩
  · exact List.forall_mem_cons.2 ⟨(Array.getElem?_eq_some_iff.1 hcontent).1, hopened.inside⟩
  · exact List.forall_mem_cons.2 ⟨(Array.getElem?_eq_some_iff.1 hcontent').1, hopened.inside'⟩

/-- A box is written as before, however many more cells there are: each box is opened at most once
inside of others, and so the bound is never met. -/
theorem Renames.writeBox_rename (h : heap.Renames shift other)
    (hopened : Opened shift heap other opened) {cells cells' : Nat}
    (hcells : heap.cells.size < opened.length + cells)
    (hcells' : other.cells.size < opened.length + cells') (out : String) (id : BoxId) :
    other.writeBox (opened.map shift.box) cells' out (shift.box id) =
      heap.writeBox opened cells out id := by
  have hlength := hopened.length_le
  induction cells generalizing opened cells' out id with
  | zero => omega
  | succ cells ih =>
      cases cells' with
      | zero => omega
      | succ cells' =>
          have hcontains : (opened.map shift.box).contains (shift.box id) = opened.contains id := by
            rw [Bool.eq_iff_iff, List.contains_iff_mem, List.contains_iff_mem,
              List.mem_map_of_injective shift.strictMono_box.injective]
          rw [writeBox, writeBox, hcontains, h.get?]
          by_cases hid : opened.contains id
          · rw [if_pos hid, if_pos hid]
          · rw [if_neg hid, if_neg hid]
            cases hcontent : heap.get? id with
            | none => rfl
            | some content =>
                have hcons := h.opened_cons hopened (mt List.contains_iff_mem.2 hid) hcontent
                have hbox (out : String) (each : BoxId) :
                    other.writeBox (shift.box id :: opened.map shift.box) cells' out
                      (shift.box each) = heap.writeBox (id :: opened) cells out each := by
                  apply ih hcons
                  · rw [List.length_cons]
                    omega
                  · rw [List.length_cons]
                    omega
                  · exact hcons.length_le
                simp only [Option.map_some]
                rw [Value.write_rename hbox]

namespace Renames

theorem writeInside_rename (h : heap.Renames shift other) (out : String) (value : Value) :
    other.writeInside out (value.rename shift) = heap.writeInside out value := by
  have hnone : Opened shift heap other [] := ⟨List.nodup_nil, nofun, nofun⟩
  apply Value.write_rename
  exact h.writeBox_rename hnone (by simp) (by simp)

theorem nested_rename (h : heap.Renames shift other) (value : Value) :
    other.nested (value.rename shift) = heap.nested value :=
  h.writeInside_rename "" value

/-- A value is printed as before. -/
theorem printed_rename (h : heap.Renames shift other) (value : Value) :
    other.printed (value.rename shift) = heap.printed value := by
  have hnested := h.nested_rename value
  cases value with
  | list items =>
      rw [Value.rename_list] at hnested ⊢
      rw [printed, hnested]
      · rfl
      all_goals nofun
  | table entries =>
      rw [Value.rename_table] at hnested ⊢
      rw [printed, hnested]
      · rfl
      all_goals nofun
  | string | symbol => rfl
  | number | boolean | box | block | identifier => exact congrArg (StyledText.mk · _) hnested

/-- A stack is written as before. -/
theorem stackText_rename (h : heap.Renames shift other) (stack : List Value) :
    other.stackText (stack.map (·.rename shift)) = heap.stackText stack := by
  simp only [stackText, ← List.map_reverse, List.foldl_map, h.writeInside_rename]

/-- A new box gets a number that belongs to the one it got before. -/
theorem alloc (h : heap.Renames shift other) (value : Value) :
    (heap.alloc value).2.Renames shift (other.alloc (value.rename shift)).2 ∧
      (other.alloc (value.rename shift)).1 = shift.box (heap.alloc value).1 := by
  have hnext : shift.box heap.cells.size = other.cells.size := h.next 0
  refine ⟨⟨?_, ?_⟩, hnext.symm⟩
  · intro id
    have hid : shift.box id = other.cells.size ↔ id = heap.cells.size := by
      rw [← hnext, shift.strictMono_box.injective.eq_iff]
    have hold := h.get? id
    simp only [Heap.get?, Heap.alloc, Array.getElem?_push, hid] at hold ⊢
    by_cases heq : id = heap.cells.size
    · rw [if_pos heq, if_pos heq]
      rfl
    · rw [if_neg heq, if_neg heq]
      exact hold
  · intro count
    simpa [Heap.alloc, Nat.add_assoc] using h.next (1 + count)

theorem set (h : heap.Renames shift other) (id : BoxId) (value : Value) :
    (heap.set id value).Renames shift (other.set (shift.box id) (value.rename shift)) := by
  have hinside : shift.box id < other.cells.size ↔ id < heap.cells.size := by
    have hnext : shift.box heap.cells.size = other.cells.size := h.next 0
    rw [← hnext, shift.strictMono_box.lt_iff_lt]
  refine ⟨?_, ?_⟩
  · intro each
    have hold := h.get? each
    simp only [Heap.get?, Heap.set, Array.getElem?_setIfInBounds,
      shift.strictMono_box.injective.eq_iff, hinside] at hold ⊢
    by_cases heq : id = each
    · rw [if_pos heq, if_pos heq]
      split <;> rfl
    · rw [if_neg heq, if_neg heq]
      exact hold
  · intro count
    simpa [Heap.set] using h.next count

end Renames

end Heap

/-! ### Builtin words -/

/-- The failure with other numbers. -/
def Failure.rename (shift : Renaming) : Failure → Failure
  | keyNotFound key => keyNotFound (key.rename shift)
  | failure => failure

theorem Heap.Renames.message_rename {shift : Renaming} {heap other : Heap}
    (h : heap.Renames shift other) (failure : Failure) :
    (failure.rename shift).message other = failure.message heap := by
  cases failure with
  | keyNotFound key =>
      show "key " ++ (other.printed (key.rename shift)).text ++ " not found in table" =
        "key " ++ (heap.printed key).text ++ " not found in table"
      rw [h.printed_rename]
  | _ => rfl

/-- Two computations go the same way: their results belong together, or their failures do. -/
inductive Matches (shift : Renaming) {α β : Type} (alike : α → β → Prop) :
    Except Failure α → Except Failure β → Prop
  | ok {result : α} {result' : β} : alike result result' →
      Matches shift alike (.ok result) (.ok result')
  | error (failure : Failure) : Matches shift alike (.error failure) (.error (failure.rename shift))

namespace Matches

variable {shift : Renaming} {α β γ δ : Type} {alike : α → β → Prop} {alike' : γ → δ → Prop}

theorem imp {other : α → β → Prop} {computed : Except Failure α} {computed' : Except Failure β}
    (hcomputed : Matches shift alike computed computed')
    (h : ∀ result result', alike result result' → other result result') :
    Matches shift other computed computed' := by
  cases hcomputed with
  | ok halike => exact .ok (h _ _ halike)
  | error failure => exact .error failure

theorem pure {result : α} {result' : β} (h : alike result result') :
    Matches shift alike (Pure.pure result) (Pure.pure result') :=
  .ok h

/-- A failure without numbers. -/
theorem throw {failure : Failure} (h : failure.rename shift = failure) :
    Matches shift alike (MonadExcept.throw failure) (MonadExcept.throw failure) := by
  have herror : Matches shift alike (.error failure) (.error (failure.rename shift)) :=
    .error failure
  rw [h] at herror
  exact herror

theorem bind {computed : Except Failure α} {computed' : Except Failure β}
    {next : α → Except Failure γ} {next' : β → Except Failure δ}
    (hcomputed : Matches shift alike computed computed')
    (hnext : ∀ result result', alike result result' →
      Matches shift alike' (next result) (next' result')) :
    Matches shift alike' (computed >>= next) (computed' >>= next') := by
  cases hcomputed with
  | ok h => exact hnext _ _ h
  | error failure => exact .error failure

/-- Where both computations go on from the same result. -/
theorem same {computed computed' : Except Failure α} {next : α → Except Failure γ}
    {next' : α → Except Failure δ} (hcomputed : Matches shift Eq computed computed')
    (hnext : ∀ result, Matches shift alike' (next result) (next' result)) :
    Matches shift alike' (computed >>= next) (computed' >>= next') := by
  refine hcomputed.bind ?_
  rintro result _ rfl
  exact hnext result

theorem ite {condition : Prop} [Decidable condition] {yes no : Except Failure α}
    {yes' no' : Except Failure β} (hyes : Matches shift alike yes yes')
    (hno : Matches shift alike no no') :
    Matches shift alike (if condition then yes else no) (if condition then yes' else no') := by
  split
  · exact hyes
  · exact hno

end Matches

/-- A value and what it is with other numbers. -/
def Value.Renamed (shift : Renaming) (value other : Value) : Prop :=
  other = value.rename shift

namespace Operands

variable (shift : Renaming) (operands : Operands) (index : Nat)

/-- Operands with other numbers. -/
def renamed : Operands :=
  operands.map (·.rename shift)

theorem matches_value :
    Matches shift (Value.Renamed shift) (operands.value index)
      ((operands.renamed shift).value index) := by
  rw [value, value, renamed, List.getElem?_map]
  cases operands[index]? with
  | none => exact .error (.missing index)
  | some value => exact .ok rfl

/-- An operand is read in the same way, and what is read of it has the other numbers. -/
theorem matches_read {α : Type} {as? : Value → Option α} {change : α → α}
    (has : ∀ value, as? (value.rename shift) = (as? value).map change) (kind : Kind) :
    Matches shift (fun result result' => result' = change result)
      (operands.read kind as? index) ((operands.renamed shift).read kind as? index) := by
  rw [read, read, renamed, List.getElem?_map]
  cases operands[index]? with
  | none => exact .error (.notA index kind)
  | some value =>
      rw [Option.bind_some, Option.map_some, Option.bind_some, has]
      cases as? value with
      | none => exact .error (.notA index kind)
      | some result => exact .ok rfl

/-- What is read of an operand has no numbers. -/
theorem matches_read_same {α : Type} {as? : Value → Option α}
    (has : ∀ value, as? (value.rename shift) = as? value) (kind : Kind) :
    Matches shift Eq (operands.read kind as? index)
      ((operands.renamed shift).read kind as? index) := by
  have hread : Matches shift (fun result result' => result' = id result)
      (operands.read kind as? index) ((operands.renamed shift).read kind as? index) :=
    matches_read shift operands index (fun value => by rw [has, Option.map_id_fun, id]) kind
  exact hread.imp fun _ _ h => h.symm

theorem matches_number :
    Matches shift Eq (operands.number index) ((operands.renamed shift).number index) := by
  have hread := matches_read_same shift operands index (Value.number?_rename shift) .number
  rw [number, number]
  generalize operands.read .number Value.number? index = first at hread ⊢
  generalize (operands.renamed shift).read .number Value.number? index = second at hread ⊢
  cases hread with
  | ok h => exact .ok (congrArg Number.toFloat h)
  | error failure => exact .error failure

theorem matches_boolean :
    Matches shift Eq (operands.boolean index) ((operands.renamed shift).boolean index) :=
  matches_read_same shift operands index (Value.boolean?_rename shift) .boolean

theorem matches_units :
    Matches shift Eq (operands.units index) ((operands.renamed shift).units index) :=
  matches_read_same shift operands index (Value.units?_rename shift) .string

theorem matches_items :
    Matches shift (fun items items' => items' = items.map (·.rename shift)) (operands.items index)
      ((operands.renamed shift).items index) :=
  matches_read shift operands index (Value.items?_rename shift) .list

theorem matches_table :
    Matches shift (fun table table' => table' = Value.renameTable shift table)
      (operands.table index) ((operands.renamed shift).table index) :=
  matches_read shift operands index (Value.table?_rename shift) .table

end Operands

/-- An operation does the same with other numbers. -/
def Operation.Respects (shift : Renaming) (apply : Operation) : Prop :=
  ∀ operands : Operands,
    Matches shift (Value.Renamed shift) (apply operands) (apply (operands.renamed shift))

namespace Builtin

/-- All operations of a word do the same with other numbers. -/
def Respects (shift : Renaming) (builtin : Builtin) : Prop :=
  ∀ signature ∈ builtin.signatures, Operation.Respects shift signature.apply

variable (shift : Renaming)

variable {shift} in
theorem respects_single {name : String} {params : List Param} {returns : ParamType}
    {apply : Operation} (happly : apply.Respects shift) :
    (single name params returns apply).Respects shift := by
  intro signature hsignature
  obtain rfl : signature = ⟨params, returns, apply⟩ := by
    simpa [single, signatures] using hsignature
  exact happly

variable {shift} in
theorem respects_overloaded {name : String} {overloads : List (Kind × ParamType × Operation)}
    (happly : ∀ overload ∈ overloads, Operation.Respects shift overload.2.2) :
    (overloaded name overloads).Respects shift := by
  intro signature hsignature
  obtain ⟨overload, hoverload, rfl⟩ := List.mem_map.1 hsignature
  exact happly overload hoverload

theorem matches_tableKey (key : Value) :
    Matches shift (Value.Renamed shift) (tableKey key) (tableKey (key.rename shift)) := by
  rw [tableKey, tableKey, Value.kind_rename]
  split
  · exact .error (.unorderedKey .box)
  · exact .error (.unorderedKey .block)
  · exact .ok rfl

theorem matches_finite (x : Float) :
    Matches shift (Value.Renamed shift) (finite x) (finite x) :=
  .ite (.ok rfl) (.error .notFinite)

theorem matches_range (start stop : Float) :
    Matches shift (Value.Renamed shift) (range start stop) (range start stop) := by
  refine .ite (.throw rfl) (.pure ?_)
  rw [Value.Renamed, Value.rename_list, List.map_map]
  rfl

theorem matches_place (x : Float) : Matches shift Eq (place x) (place x) :=
  .ite (.ok rfl) (.error (.invalidIndex x))

theorem matches_substring (units : List UInt16) (start stop : Nat) :
    Matches shift (Value.Renamed shift) (substring units start stop)
      (substring units start stop) :=
  .ite (.throw rfl) (.pure rfl)

theorem matches_readNumber (units : List UInt16) :
    Matches shift (Value.Renamed shift) (readNumber units) (readNumber units) := by
  rw [readNumber]
  split
  · exact .ite (.ok rfl) (.error (.notANumber _))
  · exact .error (.notANumber _)

theorem matches_character (code : Float) :
    Matches shift (Value.Renamed shift) (character code) (character code) :=
  .ite (.ok rfl) (.error (.invalidCharacter code))

/-! ### Every builtin word -/

theorem respects_arithmetic : ∀ builtin ∈ arithmetic, builtin.Respects shift := by
  simp only [arithmetic, List.forall_mem_cons, unary, binary]
  refine ⟨?_, ?_, ?_, ?_, ?_, ?_, ?_, ?_, ?_, ?_, ?_, ?_, ?_, ?_, ?_, ?_, ?_, ?_, ?_,
    List.forall_mem_nil _⟩
  -- numbers are all that is computed with
  all_goals
    refine respects_single fun operands => ?_
    repeat' first
      | exact matches_finite shift _
      | exact .throw rfl
      | refine .ite ?_ ?_
      | refine .same (Operands.matches_number shift operands _) fun _ => ?_

theorem respects_numberTest (name : String) (test : Float → Bool) :
    (numberTest name test).Respects shift := by
  refine respects_single fun operands => .bind (Operands.matches_value shift operands 0) ?_
  rintro value _ rfl
  rw [Value.number?_rename]
  exact .pure rfl

theorem respects_numberCheck (name param : String) (test : Float → Bool) {failure : Failure}
    (hfailure : failure.rename shift = failure) :
    (numberCheck name param test failure).Respects shift :=
  respects_single fun operands => .same (Operands.matches_number shift operands 0) fun _ =>
    .ite (.pure rfl) (.throw hfailure)

theorem respects_checks : ∀ builtin ∈ checks, builtin.Respects shift := by
  simp only [checks, List.forall_mem_cons]
  refine ⟨respects_numberTest shift _ _, respects_numberCheck shift _ _ _ rfl,
    respects_numberTest shift _ _, respects_numberCheck shift _ _ _ rfl,
    respects_single fun operands => ?_, List.forall_mem_nil _⟩
  exact .same (Operands.matches_boolean shift operands 0) fun _ =>
    .ite (Operands.matches_value shift operands 1) (Operands.matches_value shift operands 2)

theorem respects_comparison (name : String) (test : Ordering → Bool) :
    (comparison name test).Respects shift := by
  refine respects_single fun operands => .bind (Operands.matches_value shift operands 1) ?_
  rintro left _ rfl
  refine .bind (Operands.matches_value shift operands 0) ?_
  rintro right _ rfl
  rw [Value.compare_rename]
  exact .pure rfl

theorem respects_comparisons : ∀ builtin ∈ comparisons, builtin.Respects shift := by
  simp [comparisons, respects_comparison]

theorem respects_connectives : ∀ builtin ∈ connectives, builtin.Respects shift := by
  simp only [connectives, List.forall_mem_cons, connective]
  refine ⟨?_, ?_, ?_, ?_, List.forall_mem_nil _⟩
  all_goals
    refine respects_single fun operands => ?_
    repeat' first
      | exact .pure rfl
      | refine .ite ?_ ?_
      | refine .same (Operands.matches_boolean shift operands _) fun _ => ?_

theorem respects_lists : ∀ builtin ∈ lists, builtin.Respects shift := by
  simp only [lists, List.forall_mem_cons]
  refine ⟨respects_single fun operands => ?_, respects_single fun operands => ?_,
    respects_single fun operands => ?_, respects_single fun operands => ?_,
    List.forall_mem_nil _⟩
  · refine .bind (Operands.matches_items shift operands 1) ?_
    rintro items _ rfl
    refine .bind (Operands.matches_value shift operands 0) ?_
    rintro item _ rfl
    exact .pure (Value.rename_list shift (item :: items)).symm
  · exact .pure rfl
  · exact .same (Operands.matches_number shift operands 0) fun start =>
      .same (Operands.matches_number shift operands 1) fun stop => matches_range shift start stop
  · refine .bind (Operands.matches_items shift operands 0) ?_
    rintro items _ rfl
    rw [← List.map_reverse]
    exact .pure (Value.rename_list shift items.reverse).symm

theorem respects_sequences : ∀ builtin ∈ sequences, builtin.Respects shift := by
  simp only [sequences, List.forall_mem_cons]
  refine ⟨respects_overloaded ?_, respects_overloaded ?_, respects_overloaded ?_,
    respects_overloaded ?_, List.forall_mem_nil _⟩
  all_goals
    simp only [List.forall_mem_cons]
    refine ⟨fun operands => .bind (Operands.matches_items shift operands 0) ?_,
      fun operands => .same (Operands.matches_units shift operands 0) fun units => ?_,
      List.forall_mem_nil _⟩
    rintro items _ rfl
  · cases items with
    | nil => exact .throw rfl
    | cons first rest => exact .pure rfl
  · cases units with
    | nil => exact .throw rfl
    | cons first rest => exact .pure rfl
  · cases items with
    | nil => exact .throw rfl
    | cons first rest => exact .pure (Value.rename_list shift rest).symm
  · cases units with
    | nil => exact .throw rfl
    | cons first rest => exact .pure rfl
  · rw [List.length_map]
    exact .pure rfl
  · exact .pure rfl
  · rw [List.isEmpty_map]
    exact .pure rfl
  · exact .pure rfl

theorem respects_textWord (name : String) (change : List Char → List Char) :
    (textWord name change).Respects shift :=
  respects_single fun operands => .same (Operands.matches_units shift operands 0) fun _ => .pure rfl

theorem respects_strings : ∀ builtin ∈ strings, builtin.Respects shift := by
  simp only [strings, List.forall_mem_cons]
  refine ⟨respects_single fun operands => ?_, respects_single fun operands => ?_,
    respects_single fun operands => ?_, respects_textWord shift _ _, respects_textWord shift _ _,
    respects_single fun operands => ?_, respects_single fun operands => ?_,
    respects_single fun operands => ?_, List.forall_mem_nil _⟩
  · exact .same (Operands.matches_units shift operands 0) fun _ =>
      .same (Operands.matches_units shift operands 1) fun _ => .pure rfl
  · exact .same (Operands.matches_units shift operands 2) fun units =>
      .same (Operands.matches_number shift operands 0) fun x =>
      .same (matches_place shift x) fun start =>
      .same (Operands.matches_number shift operands 1) fun y =>
      .same (matches_place shift y) fun stop => matches_substring shift units start stop
  · refine .same (Operands.matches_units shift operands 0) fun separator =>
      .same (Operands.matches_units shift operands 1) fun units => .pure ?_
    rw [Value.Renamed, Value.rename_list, List.map_map]
    rfl
  · refine .same (Operands.matches_units shift operands 0) fun units => ?_
    split
    · exact .pure rfl
    · exact .throw rfl
  · exact .same (Operands.matches_number shift operands 0) fun code => matches_character shift code
  · exact .same (Operands.matches_units shift operands 0) fun units =>
      matches_readNumber shift units

theorem respects_tables : ∀ builtin ∈ tables, builtin.Respects shift := by
  -- every word but the last two reads a key first
  have hkey {α : Type} {alike : α → α → Prop} (operands : Operands)
      {next next' : Value → Except Failure α}
      (hnext : ∀ key, Matches shift alike (next key) (next' (key.rename shift))) :
      Matches shift alike (operands.value 0 >>= fun key => tableKey key >>= next)
        ((operands.renamed shift).value 0 >>= fun key => tableKey key >>= next') := by
    refine .bind (Operands.matches_value shift operands 0) ?_
    rintro value _ rfl
    refine .bind (matches_tableKey shift value) ?_
    rintro key _ rfl
    exact hnext key
  simp only [tables, List.forall_mem_cons]
  refine ⟨respects_single fun operands => hkey operands fun key => ?_,
    respects_single fun operands => hkey operands fun key => ?_,
    respects_single fun operands => hkey operands fun key => ?_,
    respects_single fun operands => hkey operands fun key => ?_,
    respects_single fun operands => ?_, respects_single fun operands => ?_,
    List.forall_mem_nil _⟩
  · refine .bind (Operands.matches_table shift operands 2) ?_
    rintro table _ rfl
    refine .bind (Operands.matches_value shift operands 1) ?_
    rintro value _ rfl
    refine .pure ?_
    rw [Value.Renamed, Value.rename_table, ValueTable.insert_rename]
  · refine .bind (Operands.matches_table shift operands 1) ?_
    rintro table _ rfl
    refine .pure ?_
    rw [Value.Renamed, Value.rename_table, ValueTable.erase_rename]
  · refine .bind (Operands.matches_table shift operands 1) ?_
    rintro table _ rfl
    rw [ValueTable.contains_rename]
    exact .pure rfl
  · refine .bind (Operands.matches_table shift operands 1) ?_
    rintro table _ rfl
    rw [ValueTable.get?_rename]
    cases ValueTable.get? table key with
    | none => exact .error (.keyNotFound key)
    | some value => exact .pure rfl
  · refine .bind (Operands.matches_table shift operands 0) ?_
    rintro table _ rfl
    rw [Value.renameTable, Table.keys_mapped]
    exact .pure (Value.rename_list shift table.keys).symm
  · refine .bind (Operands.matches_table shift operands 0) ?_
    rintro table _ rfl
    rw [Value.renameTable, Table.values_mapped]
    exact .pure (Value.rename_list shift table.values).symm

/-- Every builtin word does the same with other numbers. -/
theorem respects_all : ∀ builtin ∈ all, builtin.Respects shift := by
  simp only [all, List.forall_mem_append]
  exact ⟨⟨⟨⟨⟨⟨⟨respects_checks shift, respects_arithmetic shift⟩, respects_comparisons shift⟩,
    respects_connectives shift⟩, respects_lists shift⟩, respects_sequences shift⟩,
    respects_strings shift⟩, respects_tables shift⟩

theorem respects_of_ofName? {name : String} {builtin : Builtin} (h : ofName? name = some builtin) :
    builtin.Respects shift :=
  respects_all shift builtin (List.mem_of_find?_eq_some h)

end Builtin

end StackProse
