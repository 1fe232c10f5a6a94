import Mathlib.Data.Finset.Card
import Mathlib.Data.Finset.SDiff
import Mathlib.Data.Finset.Range
import StackProse.Proofs.Table.Mapped
import StackProse.Proofs.Value.Contents
import StackProse.Value.Written

/-!
# Writing values that contain themselves

Boxes can be put into themselves, at any depth and by way of others, so what is in reach of a value need
not be a tree. A writer keeps a stack of the boxes that it is inside of. `Heap.Writes` are its rules: a
box on the stack is written as three dots, and any other box is put on the stack, written with its
content in brackets, and taken off again. No rule says how deep this may go.

The rules always come to an end with one result, the text `Heap.textUnder` behind what was there, and with
the stack as it was (`Heap.writes_iff`). Every box that is opened is one box less to open, which is
why the running definition, with its bound on the depth, never meets the bound.
-/

namespace StackProse

/-- A piece of the text of a value: text as it is, a value inside, or a box. -/
inductive Piece
  | text (text : String)
  | value (value : Value)
  | box (id : BoxId)

namespace Piece

/-- The text of a piece, as far as boxes are written by `box`. -/
def writtenBy (box : String → BoxId → String) : Piece → String
  | .text written => written
  | .value inner => inner.write box ""
  | .box id => box "" id

variable (box : String → BoxId → String)

@[simp] theorem writtenBy_text (written : String) : (text written).writtenBy box = written :=
  rfl

@[simp] theorem writtenBy_value (inner : Value) :
    (value inner).writtenBy box = inner.write box "" :=
  rfl

@[simp] theorem writtenBy_box (id : BoxId) : (Piece.box id).writtenBy box = box "" id :=
  rfl

end Piece

namespace Value

/-- The pieces of the text of a value. Items have blanks between them, and entries a blank before and a
colon inside. -/
def pieces : Value → List Piece
  | number value => [.text (Number.text value)]
  | symbol name => [.text ("\\" ++ name)]
  | boolean value => [.text (if value then "True" else "False")]
  | string units _ => [.text ("\"" ++ String.ofList (Quoted.escape (Units.toChars units)) ++ "\"")]
  | .box id => [.box id]
  | list items => .text "(" :: (items.map Piece.value).intersperse (.text " ") ++ [.text ")"]
  | table entries =>
      .text "\x7b" :: entries.toList.flatMap (fun entry =>
        [.text " ", .value entry.1, .text ":", .value entry.2]) ++ [.text " \x7d"]
  | block _ _ => [.text "(block)"]
  | identifier name => [.text name]

section

variable {P : Piece → Prop}

theorem forall_mem_intersperse {pieces : List Piece} {blank : Piece} (hblank : P blank)
    (h : ∀ piece ∈ pieces, P piece) : ∀ piece ∈ pieces.intersperse blank, P piece := by
  induction pieces with
  | nil => exact h
  | cons piece rest ih =>
      cases rest with
      | nil => exact h
      | cons next rest =>
          rw [List.forall_mem_cons] at h
          rw [List.intersperse_cons_cons, List.forall_mem_cons, List.forall_mem_cons]
          exact ⟨h.1, hblank, ih h.2⟩

theorem forall_mem_pieces_list {items : List Value} (htext : ∀ written, P (.text written))
    (h : ∀ item ∈ items, P (.value item)) : ∀ piece ∈ (list items).pieces, P piece := by
  have hitems : ∀ piece ∈ (items.map Piece.value).intersperse (.text " "), P piece :=
    forall_mem_intersperse (htext " ") (List.forall_mem_map.2 h)
  simpa [pieces, or_imp, forall_and, htext] using hitems

theorem forall_mem_pieces_table {entries : Table Value Value} (htext : ∀ written, P (.text written))
    (hkeys : ∀ entry ∈ entries.toList, P (.value entry.1))
    (hvalues : ∀ entry ∈ entries.toList, P (.value entry.2)) :
    ∀ piece ∈ (table entries).pieces, P piece := by
  simp only [pieces, List.cons_append, List.forall_mem_cons, List.forall_mem_append,
    List.forall_mem_flatMap, htext, true_and]
  exact ⟨fun entry hentry => ⟨hkeys entry hentry, hvalues entry hentry, List.forall_mem_nil _⟩,
    List.forall_mem_nil _⟩

end

/-! ### The text of a value in pieces -/

section

variable {box : String → BoxId → String}

theorem writeItems_eq {items : List Value}
    (h : ∀ item ∈ items, ∀ out, item.write box out = out ++ item.write box "") (out : String) :
    writeItems box out true items = out ++
      String.join (((items.map Piece.value).intersperse (.text " ")).map (·.writtenBy box)) := by
  induction items generalizing out with
  | nil => simp [writeItems]
  | cons item rest ih =>
      rw [List.forall_mem_cons] at h
      cases rest with
      | nil => simp [writeItems, h.1 out]
      | cons next rest =>
          -- what follows a blank is written like what comes first
          have hblank : writeItems box (item.write box out) false (next :: rest) =
              writeItems box (item.write box out ++ " ") true (next :: rest) := rfl
          rw [writeItems, if_pos rfl, hblank, ih h.2, h.1 out]
          simp [String.append_assoc]

theorem writers_eq (tree : Tree Value Value) :
    writers box tree =
      tree.mapped (fun key out => key.write box out) fun value out => value.write box out := by
  induction tree with
  | leaf => rfl
  | node level left key value right ihLeft ihRight => rw [writers, ihLeft, ihRight, Tree.mapped]

/-- Tables are written entry by entry, in the order of their keys. -/
theorem write_table (entries : Table Value Value) (out : String) :
    (table entries).write box out =
      entries.toList.foldl (fun out entry =>
        entry.2.write box ((entry.1.write box (out.push ' ')).push ':')) (out.push '\x7b') ++
        " \x7d" := by
  obtain ⟨root, size⟩ := entries
  rw [write, writers_eq, Tree.toList_walk, Tree.toList_mapped, List.foldl_map, Table.toList_eq]
  rfl

theorem foldl_write_eq {entries : List (Value × Value)}
    (hkeys : ∀ entry ∈ entries, ∀ out, entry.1.write box out = out ++ entry.1.write box "")
    (hvalues : ∀ entry ∈ entries, ∀ out, entry.2.write box out = out ++ entry.2.write box "")
    (out : String) :
    entries.foldl (fun out entry =>
        entry.2.write box ((entry.1.write box (out.push ' ')).push ':')) out =
      out ++ String.join ((entries.flatMap fun entry =>
        [.text " ", .value entry.1, .text ":", .value entry.2]).map (Piece.writtenBy box)) := by
  induction entries generalizing out with
  | nil => simp
  | cons entry rest ih =>
      rw [List.forall_mem_cons] at hkeys hvalues
      rw [List.foldl_cons, ih hkeys.2 hvalues.2, hvalues.1, hkeys.1]
      simp [String.push_eq_append, String.append_assoc]

/-- If boxes are written behind what is there, so are values, piece by piece. -/
theorem write_eq_join (hbox : ∀ out id, box out id = out ++ box "" id) (value : Value)
    (out : String) :
    value.write box out = out ++ String.join (value.pieces.map (·.writtenBy box)) := by
  have hbehind {inner : Value}
      (h : ∀ out, inner.write box out = out ++ String.join (inner.pieces.map (·.writtenBy box)))
      (out : String) : inner.write box out = out ++ inner.write box "" := by
    rw [h out, h "", String.empty_append]
  induction value.madeOf_anything generalizing out with
  | list _ ih =>
      rw [write, writeItems_eq fun item hitem => hbehind (ih item hitem)]
      simp [pieces, String.push_eq_append, String.append_assoc]
  | @table entries _ _ ihKeys ihValues =>
      rw [write_table, foldl_write_eq (fun entry hentry => hbehind (ihKeys entry hentry))
        fun entry hentry => hbehind (ihValues entry hentry)]
      simp [pieces, String.push_eq_append, String.append_assoc]
  | box id => simp [write, pieces, hbox out id]
  | string units style =>
      simp [write, writeQuoted, pieces, String.push_eq_append,
        String.append_assoc]
  | symbol name =>
      simp [write, pieces, String.push_eq_append, String.append_assoc]
  | number | boolean | block | identifier => simp [write, pieces]

end

end Value

namespace Heap

variable {heap : Heap} {opened path : List BoxId} {id : BoxId} {content : Value}

/-! ### The bound on the depth -/

/-- The number of boxes that are not open. -/
def shut (heap : Heap) (opened : List BoxId) : Nat :=
  (Finset.range heap.cells.size \ opened.toFinset).card

/-- Opening a box leaves one box less to open. -/
theorem shut_cons_lt (hid : id ∉ opened) (hcontent : heap.get? id = some content) :
    heap.shut (id :: opened) < heap.shut opened := by
  have hcell : id < heap.cells.size := (Array.getElem?_eq_some_iff.1 hcontent).1
  rw [shut, shut, List.toFinset_cons, Finset.sdiff_insert]
  apply Finset.card_erase_lt_of_mem
  simp [hid, hcell]

theorem shut_lt (heap : Heap) (opened : List BoxId) : heap.shut opened < heap.cells.size + 1 := by
  have hcard := Finset.card_le_card
    (Finset.sdiff_subset (s := Finset.range heap.cells.size) (t := opened.toFinset))
  rw [Finset.card_range] at hcard
  exact Nat.lt_succ_of_le hcard

/-- Boxes are written behind what is there. -/
theorem writeBox_eq_append (heap : Heap) (opened : List BoxId) (cells : Nat) (out : String)
    (id : BoxId) :
    heap.writeBox opened cells out id = out ++ heap.writeBox opened cells "" id := by
  induction cells generalizing opened out id with
  | zero => simp [writeBox]
  | succ cells ih =>
      rw [writeBox, writeBox]
      split
      · simp
      · split
        · simp
        · rw [Value.write_eq_join (ih _), Value.write_eq_join (ih _)]
          simp [String.push_eq_append, String.append_assoc]

/-- The bound on the depth does not matter as long as there are fewer boxes to open. -/
theorem writeBox_eq_of_shut_lt {cells cells' : Nat} (hcells : heap.shut opened < cells)
    (hcells' : heap.shut opened < cells') :
    heap.writeBox opened cells = heap.writeBox opened cells' := by
  induction cells generalizing opened cells' with
  | zero => omega
  | succ cells ih =>
      cases cells' with
      | zero => omega
      | succ cells' =>
          funext out id
          rw [writeBox, writeBox]
          split
          · rfl
          · next hid =>
            split
            · rfl
            · next content hcontent =>
              have hless := shut_cons_lt (mt List.contains_iff_mem.2 hid) hcontent
              rw [ih (by omega) (by omega : heap.shut (id :: opened) < cells')]

/-! ### The text of a value inside of open boxes -/

/-- The text of a value where the boxes on the path are open. -/
def textUnder (heap : Heap) (path : List BoxId) (value : Value) : String :=
  value.write (heap.writeBox path (heap.cells.size + 1)) ""

/-- The text of a piece where the boxes on the path are open. -/
def pieceUnder (heap : Heap) (path : List BoxId) : Piece → String
  | .text written => written
  | .value inner => heap.textUnder path inner
  | .box id => heap.textUnder path (.box id)

theorem textUnder_eq_join (heap : Heap) (path : List BoxId) (value : Value) :
    heap.textUnder path value = String.join (value.pieces.map (heap.pieceUnder path)) := by
  rw [textUnder, Value.write_eq_join (heap.writeBox_eq_append path _), String.empty_append]
  refine congrArg String.join (List.map_congr_left fun piece _ => ?_)
  cases piece <;> rfl

theorem writeInside_eq (heap : Heap) (out : String) (value : Value) :
    heap.writeInside out value = out ++ heap.textUnder [] value := by
  have hbox := heap.writeBox_eq_append [] (heap.cells.size + 1)
  rw [writeInside, textUnder, Value.write_eq_join hbox, Value.write_eq_join hbox,
    String.empty_append]

/-- A box on the path is written as three dots. -/
theorem textUnder_box_of_mem (hid : id ∈ path) : heap.textUnder path (.box id) = "..." := by
  rw [textUnder, Value.write, writeBox, if_pos (List.contains_iff_mem.2 hid)]
  rfl

/-- Any other box is written with its content in brackets, with the box on the path. -/
theorem textUnder_box_of_not_mem (hid : id ∉ path) (hcontent : heap.get? id = some content) :
    heap.textUnder path (.box id) = "[" ++ heap.textUnder (id :: path) content ++ "]" := by
  have hless := shut_cons_lt hid hcontent
  have hpath := heap.shut_lt path
  have hcells : heap.writeBox (id :: path) heap.cells.size =
      heap.writeBox (id :: path) (heap.cells.size + 1) :=
    writeBox_eq_of_shut_lt (by omega) (by omega)
  have hbox := heap.writeBox_eq_append (id :: path) (heap.cells.size + 1)
  rw [textUnder, Value.write, writeBox, if_neg (mt List.contains_iff_mem.1 hid), hcontent, hcells,
    textUnder]
  simp only
  rw [Value.write_eq_join hbox, Value.write_eq_join hbox content ""]
  simp [String.push_eq_append, String.append_assoc]

theorem textUnder_box_eq_dots_iff (hcontent : heap.get? id = some content) :
    heap.textUnder path (.box id) = "..." ↔ id ∈ path := by
  refine ⟨fun hdots => ?_, textUnder_box_of_mem⟩
  by_contra hid
  rw [textUnder_box_of_not_mem hid hcontent] at hdots
  simpa using congrArg String.toList hdots

/-! ### The rules of writing -/

/-- What a writer has in hand: the text so far, and the stack of the boxes that it is inside of. -/
structure Writing where
  out : String
  opened : List BoxId

/-- A writer writes the pieces one after the other. -/
inductive Writes (heap : Heap) : Writing → List Piece → Writing → Prop
  | done (state : Writing) : Writes heap state [] state
  | text {out written : String} {opened : List BoxId} {rest : List Piece} {after : Writing} :
      Writes heap ⟨out ++ written, opened⟩ rest after →
      Writes heap ⟨out, opened⟩ (.text written :: rest) after
  | value {state after : Writing} {value : Value} {rest : List Piece} :
      Writes heap state (value.pieces ++ rest) after → Writes heap state (.value value :: rest) after
  | again {out : String} {opened : List BoxId} {id : BoxId} {rest : List Piece} {after : Writing} :
      id ∈ opened → Writes heap ⟨out ++ "...", opened⟩ rest after →
      Writes heap ⟨out, opened⟩ (.box id :: rest) after
  /-- The box is put on the stack for its content, and then the top of the stack is taken off. -/
  | opens {out : String} {opened : List BoxId} {id : BoxId} {content : Value} {inside : Writing}
      {rest : List Piece} {after : Writing} :
      id ∉ opened → heap.get? id = some content →
      Writes heap ⟨out ++ "[", id :: opened⟩ [.value content] inside →
      Writes heap ⟨inside.out ++ "]", inside.opened.tail⟩ rest after →
      Writes heap ⟨out, opened⟩ (.box id :: rest) after

namespace Writes

variable {state between after : Writing} {first second pieces : List Piece}

/-- Writing has one result: the text of the pieces under the stack, and the stack as it was. -/
theorem eq (h : heap.Writes state pieces after) :
    after = ⟨state.out ++ String.join (pieces.map (heap.pieceUnder state.opened)), state.opened⟩ := by
  induction h with
  | done state => simp
  | text _ ih =>
      rw [ih]
      simp [pieceUnder, String.append_assoc]
  | value _ ih =>
      rw [ih, List.map_append, String.join_append, ← textUnder_eq_join]
      simp [pieceUnder]
  | again hid _ ih =>
      rw [ih]
      simp [pieceUnder, textUnder_box_of_mem hid, String.append_assoc]
  | opens hid hcontent _ _ ihInside ih =>
      rw [ih, ihInside]
      simp [pieceUnder, textUnder_box_of_not_mem hid hcontent, String.append_assoc]

theorem append (h : heap.Writes state first between) (hsecond : heap.Writes between second after) :
    heap.Writes state (first ++ second) after := by
  induction h with
  | done => exact hsecond
  | text _ ih => exact .text (ih hsecond)
  | value _ ih =>
      have hrest := ih hsecond
      rw [List.append_assoc] at hrest
      exact .value hrest
  | again hid _ ih => exact .again hid (ih hsecond)
  | opens hid hcontent hinside _ _ ih => exact .opens hid hcontent hinside (ih hsecond)

/-- Pieces that can be written one by one can be written one after the other. -/
theorem exists_of_forall
    (h : ∀ piece ∈ pieces, ∀ out, ∃ after, heap.Writes ⟨out, path⟩ [piece] after) (out : String) :
    ∃ after, heap.Writes ⟨out, path⟩ pieces after := by
  induction pieces generalizing out with
  | nil => exact ⟨_, .done _⟩
  | cons piece rest ih =>
      rw [List.forall_mem_cons] at h
      obtain ⟨between, hpiece⟩ := h.1 out
      obtain rfl := hpiece.eq
      obtain ⟨after, hrest⟩ := ih h.2 _
      exact ⟨after, hpiece.append hrest⟩

end Writes

/-! ### Boxes in reach -/

/-- The value is in reach of another one, by way of the parts of lists and tables and of the contents
of boxes. -/
inductive Reaches (heap : Heap) (value : Value) : Value → Prop
  | here : Reaches heap value value
  | item {items : List Value} {item : Value} :
      Reaches heap value (.list items) → item ∈ items → Reaches heap value item
  | key {entries : Table Value Value} {entry : Value × Value} :
      Reaches heap value (.table entries) → entry ∈ entries.toList → Reaches heap value entry.1
  | entry {entries : Table Value Value} {entry : Value × Value} :
      Reaches heap value (.table entries) → entry ∈ entries.toList → Reaches heap value entry.2
  | content {id : BoxId} {content : Value} :
      Reaches heap value (.box id) → heap.get? id = some content → Reaches heap value content

theorem Reaches.trans {first second third : Value} (h : heap.Reaches first second)
    (hsecond : heap.Reaches second third) : heap.Reaches first third := by
  induction hsecond with
  | here => exact h
  | item _ hmem ih => exact ih.item hmem
  | key _ hmem ih => exact ih.key hmem
  | entry _ hmem ih => exact ih.entry hmem
  | content _ hcontent ih => exact ih.content hcontent

/-- Every box in reach has a content. -/
def Backs (heap : Heap) (value : Value) : Prop :=
  ∀ id, heap.Reaches value (.box id) → (heap.get? id).isSome

theorem Backs.of_reaches {value inner : Value} (h : heap.Backs value)
    (hreaches : heap.Reaches value inner) : heap.Backs inner :=
  fun id hid => h id (hreaches.trans hid)

/-- What a piece shows is in reach. -/
def Shows (heap : Heap) (value : Value) : Piece → Prop
  | .text _ => True
  | .value inner => heap.Reaches value inner
  | .box id => heap.Reaches value (.box id)

theorem shows_pieces {value inner : Value} (h : heap.Reaches value inner) :
    ∀ piece ∈ inner.pieces, heap.Shows value piece := by
  cases inner with
  | list items => exact Value.forall_mem_pieces_list (fun _ => trivial) fun item => h.item
  | table entries =>
      exact Value.forall_mem_pieces_table (fun _ => trivial) (fun entry => h.key) fun entry => h.entry
  | box id => exact List.forall_mem_singleton.2 h
  | _ => exact List.forall_mem_singleton.2 trivial

/-- Writing does not depend on open boxes that are not in reach. -/
theorem Writes.congr_opened {value : Value} {state after : Writing} {pieces : List Piece}
    (h : heap.Writes state pieces after) (hpieces : ∀ piece ∈ pieces, heap.Shows value piece)
    {other : List BoxId}
    (hsame : ∀ id, heap.Reaches value (.box id) → (id ∈ state.opened ↔ id ∈ other)) :
    heap.Writes ⟨state.out, other⟩ pieces ⟨after.out, other⟩ := by
  induction h generalizing other with
  | done state => exact .done _
  | text _ ih => exact .text (ih (List.forall_mem_cons.1 hpieces).2 hsame)
  | value _ ih =>
      obtain ⟨hinner, hrest⟩ := List.forall_mem_cons.1 hpieces
      exact .value (ih (List.forall_mem_append.2 ⟨shows_pieces hinner, hrest⟩) hsame)
  | again hid _ ih =>
      obtain ⟨hbox, hrest⟩ := List.forall_mem_cons.1 hpieces
      exact .again ((hsame _ hbox).1 hid) (ih hrest hsame)
  | @opens out opened id content inside rest after hid hcontent hinside _ ihInside ih =>
      obtain ⟨hbox, hrest⟩ := List.forall_mem_cons.1 hpieces
      have hopened : inside.opened = id :: opened := by rw [hinside.eq]
      have hinner : ∀ each, heap.Reaches value (.box each) →
          (each ∈ id :: opened ↔ each ∈ id :: other) := by
        intro each heach
        rw [List.mem_cons, List.mem_cons, hsame each heach]
      have hwritten := ihInside (List.forall_mem_singleton.2 (hbox.content hcontent)) hinner
      have houter : ∀ each, heap.Reaches value (.box each) →
          (each ∈ inside.opened.tail ↔ each ∈ other) := by
        rw [hopened]
        exact hsame
      exact .opens (mt (hsame id hbox).2 hid) hcontent hwritten (ih hrest houter)

/-! ### Every value can be written -/

theorem exists_writes_value {value : Value}
    (h : ∀ piece ∈ value.pieces, ∀ out, ∃ after, heap.Writes ⟨out, path⟩ [piece] after)
    (out : String) : ∃ after, heap.Writes ⟨out, path⟩ [.value value] after := by
  obtain ⟨after, hwrites⟩ := Writes.exists_of_forall h out
  refine ⟨after, .value ?_⟩
  rwa [List.append_nil]

theorem exists_writes_text (path : List BoxId) (written out : String) :
    ∃ after, heap.Writes ⟨out, path⟩ [.text written] after :=
  ⟨_, .text (.done _)⟩

/-- Writing comes to an end. Inside of a box there are fewer boxes to open, and within the same boxes a
value has only finitely many parts. -/
theorem exists_writes {value : Value} (hbacks : heap.Backs value) (path : List BoxId)
    (out : String) : ∃ after, heap.Writes ⟨out, path⟩ [.value value] after := by
  induction hshut : heap.shut path using Nat.strong_induction_on generalizing path value out with
  | _ boxes ihBoxes =>
      induction value.madeOf_anything generalizing out with
      | list _ ih =>
          refine exists_writes_value (Value.forall_mem_pieces_list (exists_writes_text path) ?_) out
          exact fun item hitem out => ih item hitem (hbacks.of_reaches (.item .here hitem)) out
      | table _ _ ihKeys ihValues =>
          refine exists_writes_value
            (Value.forall_mem_pieces_table (exists_writes_text path) ?_ ?_) out
          · exact fun entry hentry out =>
              ihKeys entry hentry (hbacks.of_reaches (.key .here hentry)) out
          · exact fun entry hentry out =>
              ihValues entry hentry (hbacks.of_reaches (.entry .here hentry)) out
      | box id =>
          by_cases hid : id ∈ path
          · exact ⟨_, .value (.again hid (.done _))⟩
          · obtain ⟨content, hcontent⟩ := Option.isSome_iff_exists.1 (hbacks id .here)
            have hless := shut_cons_lt hid hcontent
            obtain ⟨inside, hinside⟩ := ihBoxes _ (hshut ▸ hless)
              (hbacks.of_reaches (.content .here hcontent)) (id :: path) (out ++ "[") rfl
            exact ⟨_, .value (.opens hid hcontent hinside (.done _))⟩
      | _ => exact ⟨_, .value (.text (.done _))⟩

/-- A value can be written in one way only: behind what is there comes its text under the boxes that are
open, and these are the same afterwards. -/
theorem writes_iff {value : Value} (hbacks : heap.Backs value) (path : List BoxId) (out : String)
    (after : Writing) :
    heap.Writes ⟨out, path⟩ [.value value] after ↔
      after = ⟨out ++ heap.textUnder path value, path⟩ := by
  have hresult {after : Writing} (h : heap.Writes ⟨out, path⟩ [.value value] after) :
      after = ⟨out ++ heap.textUnder path value, path⟩ := by
    rw [h.eq]
    simp [pieceUnder]
  refine ⟨hresult, ?_⟩
  rintro rfl
  obtain ⟨after, hwrites⟩ := exists_writes hbacks path out
  rwa [hresult hwrites] at hwrites

/-- Open boxes that are not in reach do not matter to the text of a value. -/
theorem textUnder_eq_of_not_reaches {value : Value} (hbacks : heap.Backs value)
    (hpath : ∀ id ∈ path, ¬ heap.Reaches value (.box id)) :
    heap.textUnder path value = heap.textUnder [] value := by
  have hwrites := (writes_iff hbacks path "" _).2 rfl
  have halone := hwrites.congr_opened (List.forall_mem_singleton.2 .here)
    (fun id hid => iff_of_false (fun hmem => hpath id hmem hid) List.not_mem_nil)
  simpa using congrArg Writing.out ((writes_iff hbacks [] "" _).1 halone)

/-- Writing comes to an end on every heap and marks exactly the cycles. Whatever boxes are open and
however boxes refer to each other, a value that has a content for every box in its reach is written in
exactly one way, with the open boxes as they were afterwards, and the running definition gives that
text. A value in it is written piece by piece under the same open boxes. A box in it is three dots
if and only if it is open already, and is its content in brackets otherwise; so where none of the
open boxes is in reach, a value is written out in full, as it is on its own. -/
theorem writing_marks_cycles (heap : Heap) (value : Value) (hbacks : heap.Backs value) :
    (∀ path out after, heap.Writes ⟨out, path⟩ [.value value] after ↔
        after = ⟨out ++ heap.textUnder path value, path⟩) ∧
      (∀ out, heap.writeInside out value = out ++ heap.textUnder [] value) ∧
      (∀ path inner, heap.Reaches value inner →
        heap.textUnder path inner = String.join (inner.pieces.map (heap.pieceUnder path))) ∧
      (∀ path id, heap.Reaches value (.box id) →
        (heap.textUnder path (.box id) = "..." ↔ id ∈ path) ∧
          (id ∉ path → ∃ content, heap.get? id = some content ∧
            heap.textUnder path (.box id) = "[" ++ heap.textUnder (id :: path) content ++ "]")) ∧
      ∀ path inner, heap.Reaches value inner →
        (∀ id ∈ path, ¬ heap.Reaches inner (.box id)) →
        heap.textUnder path inner = heap.textUnder [] inner := by
  refine ⟨writes_iff hbacks, fun out => heap.writeInside_eq out value,
    fun path inner _ => heap.textUnder_eq_join path inner, ?_, ?_⟩
  · intro path id hid
    obtain ⟨content, hcontent⟩ := Option.isSome_iff_exists.1 (hbacks id hid)
    exact ⟨textUnder_box_eq_dots_iff hcontent,
      fun hnot => ⟨content, hcontent, textUnder_box_of_not_mem hnot hcontent⟩⟩
  · intro path inner hinner hpath
    exact textUnder_eq_of_not_reaches (hbacks.of_reaches hinner) hpath

/-- The first box contains a list with the box itself, and the second box twice. The second box contains
a boolean. -/
def knot : Heap :=
  ⟨#[.list [.box 0, .box 1, .box 1], .boolean true]⟩

theorem writing_marks_cycles_knot :
    knot.Backs (.box 0) ∧
      knot.Writes ⟨"", []⟩ [.value (.box 0)] ⟨"[(... [True] [True])]", []⟩ ∧
      knot.writeInside "" (.box 0) = "[(... [True] [True])]" ∧
      knot.textUnder [0] (.box 0) = "..." ∧
      knot.textUnder [0] (.box 1) = knot.textUnder [] (.box 1) := by
  have hreach {inner : Value} (h : knot.Reaches (.box 0) inner) :
      inner = .box 0 ∨ inner = .list [.box 0, .box 1, .box 1] ∨ inner = .box 1 ∨
        inner = .boolean true := by
    induction h with
    | here => exact .inl rfl
    | @item items item _ hmem ih =>
        rcases ih with h | h | h | h <;> cases h
        have hboxes : item = .box 0 ∨ item = .box 1 := by simpa using hmem
        exact hboxes.elim .inl fun h => .inr (.inr (.inl h))
    | key _ _ ih | entry _ _ ih => rcases ih with h | h | h | h <;> cases h
    | content _ hcontent ih =>
        rcases ih with h | h | h | h <;> cases h
        · exact .inr (.inl (Option.some.inj hcontent).symm)
        · exact .inr (.inr (.inr (Option.some.inj hcontent).symm))
  have hshared {inner : Value} (h : knot.Reaches (.box 1) inner) :
      inner = .box 1 ∨ inner = .boolean true := by
    induction h with
    | here => exact .inl rfl
    | item _ _ ih | key _ _ ih | entry _ _ ih => rcases ih with h | h <;> cases h
    | content _ hcontent ih =>
        rcases ih with h | h <;> cases h
        exact .inr (Option.some.inj hcontent).symm
  have hbacks : knot.Backs (.box 0) := by
    intro id hid
    rcases hreach hid with h | h | h | h <;> cases h <;> rfl
  have hlist : knot.Reaches (.box 0) (.list [.box 0, .box 1, .box 1]) := .content .here rfl
  obtain ⟨hwrites, -, -, hmarks, hfull⟩ := writing_marks_cycles knot (.box 0) hbacks
  refine ⟨hbacks, (hwrites [] "" _).2 ?_, by decide +kernel,
    (hmarks [0] 0 .here).1.2 (by simp), hfull [0] (.box 1) (hlist.item (by simp)) ?_⟩
  · have htext : "[(... [True] [True])]" = "" ++ knot.textUnder [] (.box 0) := by decide +kernel
    rw [htext]
  · simp only [List.forall_mem_singleton]
    intro hzero
    rcases hshared hzero with h | h <;> cases h

end Heap

end StackProse
