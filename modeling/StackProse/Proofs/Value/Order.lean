import Mathlib.Data.List.Basic
import StackProse.Proofs.Number.Closeness
import StackProse.Proofs.Table.Mapped
import StackProse.Proofs.Value.Contents

/-!
# The order of values is as good as the order of numbers

Containers are compared by what they hold, so the order of values is a total preorder wherever the
order of the numbers in them is one: for every set of numbers on which comparing numbers is a total
preorder and every total preorder of the identities of boxes and blocks, `Value.compareBy` is a
total preorder on the values over these numbers. Lists are in the lexicographic order of their
items and tables in that of their entries.

The numbers decide everything. On all numbers their order is not transitive, since numbers that
are close count as equal, and so the order of values is not transitive either.
-/

namespace StackProse

/-! ### Total preorders from others -/

namespace TotalOn

variable {κ ι : Type} {keys : Set κ} {compare : κ → κ → Ordering}

/-- A lawful comparison is a total preorder on all keys. -/
theorem of_transCmp (compare : κ → κ → Ordering) [Std.TransCmp compare] (keys : Set κ) :
    TotalOn keys compare where
  swap _ _ _ _ := Std.OrientedCmp.eq_swap
  refl _ _ := Std.ReflCmp.compare_self
  trans _ _ _ _ _ _ := Std.TransCmp.isLE_trans

theorem transCmp (h : TotalOn keys compare) :
    Std.TransCmp fun first second : keys => compare first second where
  eq_swap {a b} := h.swap b b.2 a a.2
  isLE_trans {a b c} := h.trans a a.2 b b.2 c c.2

/-- Keys that stand for others and compare like them are as well ordered as these. -/
theorem transfer (h : TotalOn keys compare) {others : Set ι} {compareOthers : ι → ι → Ordering}
    (StandsFor : ι → κ → Prop) (hmem : ∀ a ∈ others, ∃ x ∈ keys, StandsFor a x)
    (hcompare : ∀ a b x y, StandsFor a x → StandsFor b y → compareOthers a b = compare x y) :
    TotalOn others compareOthers where
  swap a ha b hb := by
    obtain ⟨x, hx, hax⟩ := hmem a ha
    obtain ⟨y, hy, hby⟩ := hmem b hb
    rw [hcompare b a y x hby hax, hcompare a b x y hax hby]
    exact h.swap x hx y hy
  refl a ha := by
    obtain ⟨x, hx, hax⟩ := hmem a ha
    rw [hcompare a a x x hax hax]
    exact h.refl x hx
  trans a ha b hb c hc := by
    obtain ⟨x, hx, hax⟩ := hmem a ha
    obtain ⟨y, hy, hby⟩ := hmem b hb
    obtain ⟨z, hz, hcz⟩ := hmem c hc
    rw [hcompare a b x y hax hby, hcompare b c y z hby hcz, hcompare a c x z hax hcz]
    exact h.trans x hx y hy z hz

/-- Where keys of different kinds compare by the places of their kinds, it is enough that every
kind is well ordered. -/
theorem of_places (place : κ → Nat)
    (hplace : ∀ a b, place a ≠ place b → compare a b = Ord.compare (place a) (place b))
    (hkind : ∀ key ∈ keys, TotalOn {a | a ∈ keys ∧ place a = place key} compare) :
    TotalOn keys compare := by
  have hle {a b : κ} (hab : (compare a b).isLE) : place a ≤ place b := by
    by_cases hsame : place a = place b
    · exact hsame.le
    · rw [hplace a b hsame] at hab
      exact Nat.isLE_compare.1 hab
  refine ⟨fun a ha b hb => ?_, fun a ha => (hkind a ha).refl a ⟨ha, rfl⟩,
    fun a ha b hb c hc hab hbc => ?_⟩
  · by_cases hsame : place b = place a
    · exact (hkind a ha).swap a ⟨ha, rfl⟩ b ⟨hb, hsame⟩
    · rw [hplace b a hsame, hplace a b (Ne.symm hsame)]
      exact Std.OrientedOrd.eq_swap
  · by_cases hsame : place c = place a
    · have hmiddle : place b = place a := le_antisymm ((hle hbc).trans_eq hsame) (hle hab)
      exact (hkind a ha).trans a ⟨ha, rfl⟩ b ⟨hb, hmiddle⟩ c ⟨hc, hsame⟩ hab hbc
    · rw [hplace a c (Ne.symm hsame)]
      exact Nat.isLE_compare.2 ((hle hab).trans (hle hbc))

theorem compareLex_map_val (first second : List keys) :
    List.compareLex compare (first.map Subtype.val) (second.map Subtype.val) =
      List.compareLex (fun a b : keys => compare a b) first second := by
  induction first generalizing second with
  | nil => cases second <;> rfl
  | cons a first ih =>
      cases second with
      | nil => rfl
      | cons b second =>
          simp only [List.map_cons, List.compareLex_cons_cons, ih]

/-- Rows of keys in lexicographic order are as well ordered as the keys. -/
theorem compareLex (h : TotalOn keys compare) :
    TotalOn {row | ∀ key ∈ row, key ∈ keys} (List.compareLex compare) := by
  have hlawful := h.transCmp
  have hrows := of_transCmp (List.compareLex fun a b : keys => compare a b) Set.univ
  apply hrows.transfer fun row keyed => row = keyed.map Subtype.val
  · intro row hrow
    exact ⟨row.attachWith _ hrow, trivial, (List.attachWith_map_subtype_val hrow).symm⟩
  · rintro _ _ first second rfl rfl
    exact compareLex_map_val first second

end TotalOn

/-! ### The order of ranks -/

/-- The identities of boxes and of blocks are in total preorders. -/
structure Identities.Total (ids : Identities) : Prop where
  box : TotalOn Set.univ ids.box
  block : TotalOn Set.univ ids.block

namespace Rank

variable {ids : Identities} {numbers : Set Number}

/-- The numbers of a rank are among the given ones, and its tables count their entries. -/
inductive Sound (numbers : Set Number) : Rank → Prop
  | number {value : Number} : value ∈ numbers → Sound numbers (.number value)
  | symbol (name : String) : Sound numbers (.symbol name)
  | boolean (value : Bool) : Sound numbers (.boolean value)
  | string (units : List UInt16) : Sound numbers (.string units)
  | box (id : BoxId) : Sound numbers (.box id)
  | list {items : List Rank} : (∀ item ∈ items, Sound numbers item) → Sound numbers (.list items)
  | table {parts : List Rank} {size : Nat} : (∀ part ∈ parts, Sound numbers part) →
      parts.length = 2 * size → Sound numbers (.table parts size)
  | block (code : Nat × Nat) (frame : Option FrameId) : Sound numbers (.block code frame)
  | identifier (name : String) : Sound numbers (.identifier name)

theorem compare_of_place_ne {a b : Rank} (h : a.place ≠ b.place) :
    compare ids a b = Ord.compare a.place b.place := by
  cases a <;> cases b <;> simp_all [place, compare]

/-- The first difference, and else the lengths: this is the lexicographic order. -/
theorem firstDifference_then_length (a b : List Rank) :
    (firstDifference ids a b).then (Ord.compare a.length b.length) =
      List.compareLex (compare ids) a b := by
  induction a generalizing b with
  | nil => cases b <;> simp [firstDifference, List.compareLex, Nat.compare_eq_ite_lt]
  | cons first a ih =>
      cases b with
      | nil => simp [firstDifference, List.compareLex, Nat.compare_eq_ite_lt]
      | cons second b =>
          rw [firstDifference, List.compareLex_cons_cons, ← ih]
          cases compare ids first second <;> simp [Nat.compare_eq_ite_lt]

theorem compare_double (m n : Nat) : Ord.compare (2 * m) (2 * n) = Ord.compare m n := by
  simp [Nat.compare_eq_ite_lt]

/-- Ranks of one make are as well ordered as what they are made from. -/
theorem totalOn_made {α : Type} {contents : Set α} {compareContents : α → α → Ordering}
    (h : TotalOn contents compareContents) (make : α → Rank)
    (hmake : ∀ x y, compare ids (make x) (make y) = compareContents x y) {ranks : Set Rank}
    (hranks : ∀ rank ∈ ranks, ∃ x ∈ contents, rank = make x) : TotalOn ranks (compare ids) := by
  apply h.transfer (fun rank x => rank = make x) hranks
  rintro _ _ x y rfl rfl
  exact hmake x y

/-- Sound ranks of bounded size are well ordered. Items and parts are smaller than what they are
in, so that rows of them are well ordered one bound before. -/
theorem totalOn_bounded (hids : ids.Total) (hnumbers : TotalOn numbers Number.compare)
    (bound : Nat) : TotalOn {rank | Sound numbers rank ∧ sizeOf rank < bound} (compare ids) := by
  induction bound with
  | zero => exact ⟨by simp, by simp, by simp⟩
  | succ bound ih =>
      apply TotalOn.of_places place fun a b => compare_of_place_ne
      intro kind _
      cases kind with
      | number =>
          apply totalOn_made hnumbers .number (by simp [compare])
          rintro rank ⟨⟨hrank, -⟩, hplace⟩
          cases hrank <;> simp_all [place]
      | symbol =>
          apply totalOn_made (.of_transCmp Ord.compare .univ) .symbol (by simp [compare])
          rintro rank ⟨⟨hrank, -⟩, hplace⟩
          cases hrank <;> simp_all [place]
      | boolean =>
          apply totalOn_made (.of_transCmp Ord.compare .univ) .boolean (by simp [compare])
          rintro rank ⟨⟨hrank, -⟩, hplace⟩
          cases hrank <;> simp_all [place]
      | string =>
          apply totalOn_made (.of_transCmp (List.compareLex Ord.compare) .univ) .string
            (by simp [compare])
          rintro rank ⟨⟨hrank, -⟩, hplace⟩
          cases hrank <;> simp_all [place]
      | box =>
          apply totalOn_made hids.box .box (by simp [compare])
          rintro rank ⟨⟨hrank, -⟩, hplace⟩
          cases hrank <;> simp_all [place]
      | list =>
          apply totalOn_made ih.compareLex .list (by simp [compare, firstDifference_then_length])
          rintro rank ⟨⟨hrank, hsize⟩, hplace⟩
          cases hrank with
          | @list items hitems =>
              refine ⟨items, fun item hitem => ⟨hitems item hitem, ?_⟩, rfl⟩
              have hitem := List.sizeOf_lt_of_mem hitem
              simp only [list.sizeOf_spec] at hsize
              omega
          | _ => cases hplace
      | table =>
          -- the number of entries follows from the number of parts
          apply ih.compareLex.transfer fun rank parts =>
            ∃ size, rank = .table parts size ∧ parts.length = 2 * size
          · rintro rank ⟨⟨hrank, hsize⟩, hplace⟩
            cases hrank with
            | @table parts size hparts hlength =>
                refine ⟨parts, fun part hpart => ⟨hparts part hpart, ?_⟩, size, rfl, hlength⟩
                have hpart := List.sizeOf_lt_of_mem hpart
                simp only [table.sizeOf_spec] at hsize
                omega
            | _ => cases hplace
          · rintro _ _ parts parts' ⟨size, rfl, hlength⟩ ⟨size', rfl, hlength'⟩
            rw [compare, ← firstDifference_then_length, hlength, hlength', compare_double]
      | block =>
          apply totalOn_made hids.block (fun identity => .block identity.1 identity.2)
            (by simp [compare])
          rintro rank ⟨⟨hrank, -⟩, hplace⟩
          cases hrank <;> simp_all [place]
      | identifier =>
          apply totalOn_made (.of_transCmp Ord.compare .univ) .identifier (by simp [compare])
          rintro rank ⟨⟨hrank, -⟩, hplace⟩
          cases hrank <;> simp_all [place]

/-- Over well ordered numbers and identities, sound ranks are well ordered. -/
theorem totalOn_sound (hids : ids.Total) (hnumbers : TotalOn numbers Number.compare) :
    TotalOn {rank | Sound numbers rank} (compare ids) := by
  have hbounded := totalOn_bounded hids hnumbers
  refine ⟨fun a ha b hb => ?_, fun a ha => ?_, fun a ha b hb c hc => ?_⟩
  · exact (hbounded (sizeOf a + sizeOf b + 1)).swap a ⟨ha, by omega⟩ b ⟨hb, by omega⟩
  · exact (hbounded (sizeOf a + 1)).refl a ⟨ha, by omega⟩
  · exact (hbounded (sizeOf a + sizeOf b + sizeOf c + 1)).trans a ⟨ha, by omega⟩ b ⟨hb, by omega⟩
      c ⟨hc, by omega⟩

end Rank

/-! ### The order of values -/

/-- The given numbers and all blocks. -/
def Ingredients.ofNumbers (numbers : Set Number) : Ingredients :=
  ⟨(· ∈ numbers), fun _ => True⟩

theorem Identities.total_numbered : Identities.numbered.Total where
  box := .of_transCmp Ord.compare .univ
  block := by
    have hframes (a b : Option FrameId) : compareFrames a b = Ord.compare a b := by
      cases a <;> cases b <;> rfl
    have hlex := TotalOn.of_transCmp
      (compareLex (compareOn fun id : (Nat × Nat) × Option FrameId => id.1.1)
        (compareLex (compareOn fun id => id.1.2) (compareOn fun id => id.2))) .univ
    apply hlex.transfer fun a b => a = b
    · exact fun a _ => ⟨a, trivial, rfl⟩
    · rintro _ _ x y rfl rfl
      simp only [numbered, compareCodes, hframes, Ordering.then_assoc]
      rfl

namespace Value

variable {ids : Identities} {numbers : Set Number}

/-- Every table in a value, at any depth, has come from the empty table by entering and removing
keys. -/
inductive Grown (compare : Value → Value → Ordering) : Value → Prop
  | number (value : Number) : Grown compare (.number value)
  | symbol (name : String) : Grown compare (.symbol name)
  | boolean (value : Bool) : Grown compare (.boolean value)
  | string (units : List UInt16) (style : Option Style) : Grown compare (.string units style)
  | box (id : BoxId) : Grown compare (.box id)
  | list {items : List Value} : (∀ item ∈ items, Grown compare item) → Grown compare (.list items)
  | table (changes : List (Table.Change Value Value)) :
      (∀ entry ∈ (Table.ofChanges compare changes).toList, Grown compare entry.1) →
      (∀ entry ∈ (Table.ofChanges compare changes).toList, Grown compare entry.2) →
      Grown compare (.table (Table.ofChanges compare changes))
  | block (code : Block) (frame : Option FrameId) : Grown compare (.block code frame)
  | identifier (name : String) : Grown compare (.identifier name)

/-- The values whose numbers are among the given ones, at any depth, and whose tables have been
made by changes. -/
def overNumbers (ids : Identities) (numbers : Set Number) : Set Value :=
  {value | value.MadeOf (.ofNumbers numbers) ∧ value.Grown (compareBy ids)}

/-- The order of entries: by their keys, and by their values where the keys are equal. -/
def compareEntries (ids : Identities) (first second : Value × Value) : Ordering :=
  (compareBy ids first.1 second.1).then (compareBy ids first.2 second.2)

theorem ranksOnto_eq (items : List Value) (rest : List Rank) :
    ranksOnto items rest = items.reverse.map rank ++ rest := by
  induction items generalizing rest with
  | nil => rfl
  | cons item older ih => rw [ranksOnto, ih]; simp

theorem ranked_eq (tree : Tree Value Value) : ranked tree = tree.mapped rank rank := by
  induction tree with
  | leaf => rfl
  | node level left key value right ihLeft ihRight => rw [ranked, ihLeft, ihRight, Tree.mapped]

/-- What is compared of a table are the ranks of its entries. -/
theorem rank_table (entries : Table Value Value) :
    (table entries).rank =
      .table (entries.toList.flatMap fun entry => [entry.1.rank, entry.2.rank]) entries.size := by
  obtain ⟨root, size⟩ := entries
  rw [rank, ranked_eq, Tree.toList_walk, Tree.toList_mapped, Rank.parts, List.flatMap_map,
    Table.toList_eq]
  rfl

theorem compareLex_map_rank (first second : List Value) :
    List.compareLex (Rank.compare ids) (first.map rank) (second.map rank) =
      List.compareLex (compareBy ids) first second := by
  induction first generalizing second with
  | nil => cases second <;> rfl
  | cons a first ih =>
      cases second with
      | nil => rfl
      | cons b second => simp only [List.map_cons, List.compareLex_cons_cons, ih, compareBy]

theorem compareLex_parts (first second : List (Value × Value)) :
    List.compareLex (Rank.compare ids)
        (first.flatMap fun entry => [entry.1.rank, entry.2.rank])
        (second.flatMap fun entry => [entry.1.rank, entry.2.rank]) =
      List.compareLex (compareEntries ids) first second := by
  induction first generalizing second with
  | nil => cases second <;> rfl
  | cons a first ih =>
      cases second with
      | nil => rfl
      | cons b second =>
          simp only [List.flatMap_cons, List.cons_append, List.nil_append,
            List.compareLex_cons_cons, ih, compareEntries, compareBy, Ordering.then_assoc]

/-- Lists are in the lexicographic order of their items, oldest first. -/
theorem compareBy_list (a b : List Value) :
    compareBy ids (.list a) (.list b) = List.compareLex (compareBy ids) a.reverse b.reverse := by
  simp only [compareBy, rank, ranksOnto_eq, List.append_nil, Rank.compare,
    Rank.firstDifference_then_length, compareLex_map_rank]

theorem length_parts (entries : List (Value × Value)) :
    (entries.flatMap fun entry => [entry.1.rank, entry.2.rank]).length = 2 * entries.length := by
  induction entries with
  | nil => rfl
  | cons entry entries ih => simp [ih]; omega

/-- Tables that count their entries are in the lexicographic order of these. -/
theorem compareBy_table {a b : Table Value Value} (ha : a.size = a.toList.length)
    (hb : b.size = b.toList.length) :
    compareBy ids (.table a) (.table b) =
      List.compareLex (compareEntries ids) a.toList b.toList := by
  rw [← compareLex_parts, ← Rank.firstDifference_then_length, length_parts, length_parts,
    Rank.compare_double, ← ha, ← hb]
  simp only [compareBy, rank_table, Rank.compare]

/-- Values over some numbers have sound ranks. -/
theorem sound_rank {value : Value} {compare : Value → Value → Ordering}
    (hmade : value.MadeOf (.ofNumbers numbers)) (hgrown : value.Grown compare) :
    value.rank.Sound numbers := by
  induction hgrown with
  | number value =>
      rw [rank]
      exact .number (madeOf_number_iff.1 hmade)
  | symbol name => rw [rank]; exact .symbol name
  | boolean value => rw [rank]; exact .boolean value
  | string units style => rw [rank]; exact .string units
  | box id => rw [rank]; exact .box id
  | list _ ih =>
      rw [madeOf_list_iff] at hmade
      rw [rank, ranksOnto_eq, List.append_nil]
      apply Rank.Sound.list
      intro item hitem
      obtain ⟨value, hvalue, rfl⟩ := List.mem_map.1 hitem
      have hvalue := List.mem_reverse.1 hvalue
      exact ih value hvalue (hmade value hvalue)
  | table changes _ _ ihKeys ihValues =>
      rw [madeOf_table_iff] at hmade
      rw [rank_table]
      apply Rank.Sound.table
      · intro part hpart
        obtain ⟨entry, hentry, hpart⟩ := List.mem_flatMap.1 hpart
        obtain ⟨hkey, hvalue⟩ := hmade entry hentry
        rcases List.mem_pair.1 hpart with rfl | rfl
        · exact ihKeys entry hentry hkey
        · exact ihValues entry hentry hvalue
      · rw [length_parts, Table.size_ofChanges]
  | block code frame => rw [rank]; exact .block code.place frame
  | identifier name => rw [rank]; exact .identifier name

/-- Where the order of numbers is transitive it is a total preorder. -/
theorem totalOn_numbers (h : ∀ x ∈ numbers, ∀ y ∈ numbers, ∀ z ∈ numbers,
    (Number.compare x y).isLE → (Number.compare y z).isLE → (Number.compare x z).isLE) :
    TotalOn numbers Number.compare :=
  ⟨fun x _ y _ => Number.compare_swap x y, fun x _ => Number.compare_self x, h⟩

/-- Over well ordered numbers and identities, values are well ordered. -/
theorem totalOn_overNumbers (hids : ids.Total) (hnumbers : TotalOn numbers Number.compare) :
    TotalOn (overNumbers ids numbers) (compareBy ids) := by
  apply (Rank.totalOn_sound hids hnumbers).transfer fun value rank => value.rank = rank
  · intro value hvalue
    exact ⟨value.rank, sound_rank hvalue.1 hvalue.2, rfl⟩
  · rintro a b _ _ rfl rfl
    rfl

/-- The order of numbers lifts to containers. For every set of numbers on which it is a total
preorder, and every total preorder of identities, the order of values is a total preorder on all
values over these numbers; lists are in the lexicographic order of their items, oldest first, and
tables in the lexicographic order of their entries, keys before values. -/
theorem order_lifts_to_containers (hids : ids.Total) (hnumbers : TotalOn numbers Number.compare) :
    TotalOn (overNumbers ids numbers) (compareBy ids) ∧
      (∀ a b : List Value, compareBy ids (.list a) (.list b) =
        List.compareLex (compareBy ids) a.reverse b.reverse) ∧
      ∀ a b : List (Table.Change Value Value),
        let first := Table.ofChanges (compareBy ids) a
        let second := Table.ofChanges (compareBy ids) b
        compareBy ids (.table first) (.table second) =
          List.compareLex (compareEntries ids) first.toList second.toList := by
  refine ⟨totalOn_overNumbers hids hnumbers, compareBy_list, fun a b => ?_⟩
  exact compareBy_table (Table.size_ofChanges _ a) (Table.size_ofChanges _ b)

/-- Two numbers that are not close to each other. -/
def apart : List Number :=
  [.ofFloat 1, .ofFloat 2.5]

/-- A list of a number and of a table whose key is a list. -/
def nested : Value :=
  .list [.ofFloat 2.5,
    .table (Table.ofChanges (compareBy .numbered) [.insert (.list [.ofFloat 1]) (.ofFloat 2.5)])]

theorem order_lifts_to_containers_nested :
    TotalOn {n | n ∈ apart} Number.compare ∧ nested ∈ overNumbers .numbered {n | n ∈ apart} ∧
      TotalOn (overNumbers .numbered {n | n ∈ apart}) (compareBy .numbered) ∧
      compareBy .numbered nested (.list [.ofFloat 1]) = .gt := by
  have htrans : ∀ x ∈ apart, ∀ y ∈ apart, ∀ z ∈ apart,
      (Number.compare x y).isLE → (Number.compare y z).isLE → (Number.compare x z).isLE := by
    decide +kernel
  have hapart := totalOn_numbers htrans
  have hone : (Value.ofFloat 1).MadeOf (.ofNumbers {n | n ∈ apart}) := .number (.head _)
  have htwo : (Value.ofFloat 2.5).MadeOf (.ofNumbers {n | n ∈ apart}) :=
    .number (.tail _ (.head _))
  refine ⟨hapart, ⟨?_, ?_⟩, (order_lifts_to_containers Identities.total_numbered hapart).1, ?_⟩
  · simp [nested, hone, htwo, Table.ofChanges, Table.change, Table.insert, Table.toList_eq,
      Table.empty, Tree.insert]
  · apply Grown.list
    intro item hitem
    rcases List.mem_pair.1 hitem with rfl | rfl
    · exact .number _
    · apply Grown.table <;> rw [Table.toList_eq]
      · rintro _ (_ | ⟨_, ⟨⟩⟩)
        exact .list (by simp [ofFloat, Grown.number])
      · rintro _ (_ | ⟨_, ⟨⟩⟩)
        exact .number _
  · decide +kernel

/-- The order of values over a set of numbers is transitive exactly if the order of these numbers
is. -/
theorem compare_trans_iff (numbers : Set Number) :
    (∀ a ∈ overNumbers .numbered numbers, ∀ b ∈ overNumbers .numbered numbers,
      ∀ c ∈ overNumbers .numbered numbers,
        (compare a b).isLE → (compare b c).isLE → (compare a c).isLE) ↔
      ∀ x ∈ numbers, ∀ y ∈ numbers, ∀ z ∈ numbers,
        (Number.compare x y).isLE → (Number.compare y z).isLE → (Number.compare x z).isLE := by
  constructor
  · intro h x hx y hy z hz hxy hyz
    have hmem (n : Number) (hn : n ∈ numbers) : Value.number n ∈ overNumbers .numbered numbers :=
      ⟨.number hn, .number n⟩
    have hcompare (m n : Number) : compare (.number m) (.number n) = Number.compare m n := by
      simp only [compare, compareBy, rank, Rank.compare]
    simp only [← hcompare] at hxy hyz ⊢
    exact h _ (hmem x hx) _ (hmem y hy) _ (hmem z hz) hxy hyz
  · intro h
    exact (totalOn_overNumbers Identities.total_numbered (totalOn_numbers h)).trans

/-- Number literals can be so close that each of two counts as equal to a third one between them
and the larger one still counts as larger. -/
theorem compare_not_transitive :
    ∃ x y z : Number, Number.read? "1.000000000000008".toList = some x ∧
      Number.read? "1.000000000000004".toList = some y ∧ Number.read? "1".toList = some z ∧
      (compare (.number x) (.number y)).isLE ∧ (compare (.number y) (.number z)).isLE ∧
      ¬ (compare (.number x) (.number z)).isLE :=
  ⟨⟨0x3ff0000000000024⟩, ⟨0x3ff0000000000012⟩, ⟨0x3ff0000000000000⟩, by decide +kernel⟩

end Value

end StackProse
