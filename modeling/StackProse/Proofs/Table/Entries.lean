import StackProse.Proofs.Table.Changes
import StackProse.Proofs.Table.Walked
import StackProse.Value.Order

/-!
# The entries of tables

A key cuts the entries of a table into those below it, at most one that is equal to it, and those
above it: `Entries.below`, `Entries.at?` and `Entries.above`. This module says what the operations
of a table do in these terms. Reading gives the value of the entry in the middle, entering sets it
and keeps the key that is there, and removing takes the middle out.

All of it holds as far as the comparison is a total preorder on the keys in use, `TotalOn`. The
turns and lifts that keep the levels right move no entry, so they do not show here.
-/

namespace StackProse

/-- The comparison is a total preorder on the given keys: comparing the other way around gives the
reverse answer, every key is equal to itself, and being at most as large is transitive. -/
structure TotalOn {κ : Type} (keys : Set κ) (compare : κ → κ → Ordering) : Prop where
  swap : ∀ a ∈ keys, ∀ b ∈ keys, compare b a = (compare a b).swap
  refl : ∀ a ∈ keys, compare a a = .eq
  trans : ∀ a ∈ keys, ∀ b ∈ keys, ∀ c ∈ keys,
    (compare a b).isLE → (compare b c).isLE → (compare a c).isLE

namespace TotalOn

variable {κ : Type} {keys : Set κ} {compare : κ → κ → Ordering}

theorem gt_iff_lt (h : TotalOn keys compare) {a b : κ} (ha : a ∈ keys) (hb : b ∈ keys) :
    compare a b = .gt ↔ compare b a = .lt := by
  rw [h.swap b hb a ha]
  exact Ordering.swap_eq_gt

theorem isLE_of_not_lt (h : TotalOn keys compare) {a b : κ} (ha : a ∈ keys) (hb : b ∈ keys)
    (hab : compare a b ≠ .lt) : (compare b a).isLE := by
  rw [h.swap a ha b hb]
  cases hcase : compare a b with
  | lt => exact absurd hcase hab
  | eq => rfl
  | gt => rfl

/-- A key below another one is below everything that is at least as large as that one. -/
theorem lt_of_lt_of_le (h : TotalOn keys compare) {a b c : κ} (ha : a ∈ keys) (hb : b ∈ keys)
    (hc : c ∈ keys) (hab : compare a b = .lt) (hbc : (compare b c).isLE) :
    compare a c = .lt := by
  by_contra hac
  have hba := h.trans b hb c hc a ha hbc (h.isLE_of_not_lt ha hc hac)
  rw [h.swap a ha b hb, hab] at hba
  exact absurd hba (by decide)

/-- What is at most as large as a key is below everything above that key. -/
theorem lt_of_le_of_lt (h : TotalOn keys compare) {a b c : κ} (ha : a ∈ keys) (hb : b ∈ keys)
    (hc : c ∈ keys) (hab : (compare a b).isLE) (hbc : compare b c = .lt) :
    compare a c = .lt := by
  by_contra hac
  have hcb := h.trans c hc a ha b hb (h.isLE_of_not_lt ha hc hac) hab
  rw [h.swap b hb c hc, hbc] at hcb
  exact absurd hcb (by decide)

end TotalOn

namespace Entries

variable {κ ν : Type}

/-- The entries with smaller keys. -/
def below (compare : κ → κ → Ordering) (key : κ) (entries : List (κ × ν)) : List (κ × ν) :=
  entries.filter fun entry => compare key entry.1 = .gt

/-- The entry with an equal key. -/
def at? (compare : κ → κ → Ordering) (key : κ) (entries : List (κ × ν)) : Option (κ × ν) :=
  entries.find? fun entry => compare key entry.1 = .eq

/-- The entries with larger keys. -/
def above (compare : κ → κ → Ordering) (key : κ) (entries : List (κ × ν)) : List (κ × ν) :=
  entries.filter fun entry => compare key entry.1 = .lt

/-- The keys ascend strictly. -/
def Ascending (compare : κ → κ → Ordering) (entries : List (κ × ν)) : Prop :=
  entries.Pairwise fun first second => compare first.1 second.1 = .lt

/-- The keys ascend strictly and are of the given ones. -/
structure Ordered (keys : Set κ) (compare : κ → κ → Ordering) (entries : List (κ × ν)) : Prop where
  ascending : Ascending compare entries
  keys_mem : ∀ entry ∈ entries, entry.1 ∈ keys

variable {keys : Set κ} {compare : κ → κ → Ordering} {key here : κ} {value : ν}
  {left right entries : List (κ × ν)}

theorem ordered_nil : Ordered keys compare ([] : List (κ × ν)) :=
  ⟨List.Pairwise.nil, by simp⟩

/-- Entries are ordered around one of them if they are on both sides and the sides are separated
by its key. -/
theorem ordered_around :
    Ordered keys compare (left ++ (here, value) :: right) ↔
      (Ordered keys compare left ∧ Ordered keys compare right ∧ here ∈ keys) ∧
        (∀ entry ∈ left, compare entry.1 here = .lt) ∧
        (∀ entry ∈ right, compare here entry.1 = .lt) ∧
        ∀ first ∈ left, ∀ second ∈ right, compare first.1 second.1 = .lt := by
  constructor
  · rintro ⟨hascending, hmem⟩
    rw [Ascending, List.pairwise_append, List.pairwise_cons] at hascending
    obtain ⟨hleft, ⟨hhere, hright⟩, hacross⟩ := hascending
    refine ⟨⟨⟨hleft, fun entry h => hmem entry (by simp [h])⟩,
      ⟨hright, fun entry h => hmem entry (by simp [h])⟩, hmem (here, value) (by simp)⟩,
      fun entry h => hacross entry h (here, value) (by simp), hhere,
      fun first hfirst second hsecond => hacross first hfirst second (by simp [hsecond])⟩
  · rintro ⟨⟨hleft, hright, hhere⟩, hbefore, hafter, hacross⟩
    refine ⟨?_, ?_⟩
    · rw [Ascending, List.pairwise_append, List.pairwise_cons]
      refine ⟨hleft.ascending, ⟨hafter, hright.ascending⟩, fun first hfirst second hsecond => ?_⟩
      rcases List.mem_cons.1 hsecond with rfl | hsecond
      · exact hbefore first hfirst
      · exact hacross first hfirst second hsecond
    · intro entry hentry
      rcases List.mem_append.1 hentry with hentry | hentry
      · exact hleft.keys_mem entry hentry
      · rcases List.mem_cons.1 hentry with rfl | hentry
        · exact hhere
        · exact hright.keys_mem entry hentry

/-! ### Cutting entries at a key -/

/-- A key below all entries. -/
theorem cut_of_forall_lt (h : ∀ entry ∈ entries, compare key entry.1 = .lt) :
    below compare key entries = [] ∧ at? compare key entries = none ∧
      above compare key entries = entries := by
  refine ⟨?_, ?_, ?_⟩
  · exact List.filter_eq_nil_iff.2 fun entry hentry => by simp [h entry hentry]
  · exact List.find?_eq_none.2 fun entry hentry => by simp [h entry hentry]
  · exact List.filter_eq_self.2 fun entry hentry => by simp [h entry hentry]

/-- A key above all entries. -/
theorem cut_of_forall_gt (h : ∀ entry ∈ entries, compare key entry.1 = .gt) :
    below compare key entries = entries ∧ at? compare key entries = none ∧
      above compare key entries = [] := by
  refine ⟨?_, ?_, ?_⟩
  · exact List.filter_eq_self.2 fun entry hentry => by simp [h entry hentry]
  · exact List.find?_eq_none.2 fun entry hentry => by simp [h entry hentry]
  · exact List.filter_eq_nil_iff.2 fun entry hentry => by simp [h entry hentry]

/-- A key on the left of an entry cuts the entries on the left of it. -/
theorem cut_around_of_lt (htotal : TotalOn keys compare)
    (hordered : Ordered keys compare (left ++ (here, value) :: right)) (hkey : key ∈ keys)
    (hlt : compare key here = .lt) :
    below compare key (left ++ (here, value) :: right) = below compare key left ∧
      at? compare key (left ++ (here, value) :: right) = at? compare key left ∧
      above compare key (left ++ (here, value) :: right) =
        above compare key left ++ (here, value) :: right := by
  obtain ⟨⟨-, hright, hhere⟩, -, hafter, -⟩ := ordered_around.1 hordered
  have hrest : ∀ entry ∈ (here, value) :: right, compare key entry.1 = .lt := by
    intro entry hentry
    rcases List.mem_cons.1 hentry with rfl | hentry
    · exact hlt
    · refine htotal.lt_of_le_of_lt hkey hhere (hright.keys_mem entry hentry) ?_
        (hafter entry hentry)
      rw [hlt]
      rfl
  obtain ⟨hbelow, hat, habove⟩ := cut_of_forall_lt hrest
  simp only [below, at?, above] at hbelow hat habove ⊢
  rw [List.filter_append, List.find?_append, List.filter_append, hbelow, hat, habove]
  simp

/-- A key on the right of an entry cuts the entries on the right of it. -/
theorem cut_around_of_gt (htotal : TotalOn keys compare)
    (hordered : Ordered keys compare (left ++ (here, value) :: right)) (hkey : key ∈ keys)
    (hgt : compare key here = .gt) :
    below compare key (left ++ (here, value) :: right) =
        left ++ (here, value) :: below compare key right ∧
      at? compare key (left ++ (here, value) :: right) = at? compare key right ∧
      above compare key (left ++ (here, value) :: right) = above compare key right := by
  obtain ⟨⟨hleft, -, hhere⟩, hbefore, -, -⟩ := ordered_around.1 hordered
  have hlt : compare here key = .lt := (htotal.gt_iff_lt hkey hhere).1 hgt
  have hfirst : ∀ entry ∈ left, compare key entry.1 = .gt := by
    intro entry hentry
    have hmem := hleft.keys_mem entry hentry
    rw [htotal.gt_iff_lt hkey hmem]
    exact htotal.lt_of_lt_of_le hmem hhere hkey (hbefore entry hentry) (by rw [hlt]; rfl)
  obtain ⟨hbelow, hat, habove⟩ := cut_of_forall_gt hfirst
  simp only [below, at?, above] at hbelow hat habove ⊢
  rw [List.filter_append, List.find?_append, List.filter_append, hbelow, hat, habove]
  simp [hgt]

/-- A key equal to that of an entry cuts the entries there. -/
theorem cut_around_of_eq (htotal : TotalOn keys compare)
    (hordered : Ordered keys compare (left ++ (here, value) :: right)) (hkey : key ∈ keys)
    (heq : compare key here = .eq) :
    below compare key (left ++ (here, value) :: right) = left ∧
      at? compare key (left ++ (here, value) :: right) = some (here, value) ∧
      above compare key (left ++ (here, value) :: right) = right := by
  obtain ⟨⟨hleft, hright, hhere⟩, hbefore, hafter, -⟩ := ordered_around.1 hordered
  have hle : (compare key here).isLE := by rw [heq]; rfl
  have hge : (compare here key).isLE := by rw [htotal.swap key hkey here hhere, heq]; rfl
  have hfirst : ∀ entry ∈ left, compare key entry.1 = .gt := by
    intro entry hentry
    have hmem := hleft.keys_mem entry hentry
    rw [htotal.gt_iff_lt hkey hmem]
    exact htotal.lt_of_lt_of_le hmem hhere hkey (hbefore entry hentry) hge
  have hrest : ∀ entry ∈ right, compare key entry.1 = .lt := fun entry hentry =>
    htotal.lt_of_le_of_lt hkey hhere (hright.keys_mem entry hentry) hle (hafter entry hentry)
  obtain ⟨hbelowLeft, hatLeft, haboveLeft⟩ := cut_of_forall_gt hfirst
  obtain ⟨hbelowRight, -, haboveRight⟩ := cut_of_forall_lt hrest
  simp only [below, at?, above] at hbelowLeft hatLeft haboveLeft hbelowRight haboveRight ⊢
  rw [List.filter_append, List.find?_append, List.filter_append, hbelowLeft, hatLeft, haboveLeft]
  simp [heq, hbelowRight, haboveRight]

/-- Cutting at a key loses no entry and keeps their order. -/
theorem below_append_at?_append_above (htotal : TotalOn keys compare)
    (hordered : Ordered keys compare entries) (hkey : key ∈ keys) :
    below compare key entries ++ (at? compare key entries).toList ++ above compare key entries =
      entries := by
  induction entries with
  | nil => rfl
  | cons entry rest ih =>
      obtain ⟨here, value⟩ := entry
      have haround : Ordered keys compare ([] ++ (here, value) :: rest) := hordered
      rw [show (here, value) :: rest = [] ++ (here, value) :: rest from rfl]
      cases hcompare : compare key here with
      | lt =>
          obtain ⟨hbelow, hat, habove⟩ := cut_around_of_lt htotal haround hkey hcompare
          rw [hbelow, hat, habove]
          rfl
      | gt =>
          obtain ⟨hbelow, hat, habove⟩ := cut_around_of_gt htotal haround hkey hcompare
          have hrest : Ordered keys compare rest := (ordered_around.1 haround).1.2.1
          rw [hbelow, hat, habove]
          simpa using ih hrest
      | eq =>
          obtain ⟨hbelow, hat, habove⟩ := cut_around_of_eq htotal haround hkey hcompare
          rw [hbelow, hat, habove]
          rfl

theorem length_cut (htotal : TotalOn keys compare) (hordered : Ordered keys compare entries)
    (hkey : key ∈ keys) :
    (below compare key entries).length + (at? compare key entries).toList.length +
      (above compare key entries).length = entries.length := by
  have hlength := congrArg List.length (below_append_at?_append_above htotal hordered hkey)
  rwa [List.length_append, List.length_append] at hlength

/-- Entries stay ordered when the entry at a key is set. -/
theorem Ordered.set_at (htotal : TotalOn keys compare) (hordered : Ordered keys compare entries)
    (hkey : key ∈ keys) (value : ν) :
    Ordered keys compare
      (below compare key entries ++
        (((at? compare key entries).map (·.1)).getD key, value) :: above compare key entries) := by
  have hcut := below_append_at?_append_above htotal hordered hkey
  cases hat : at? compare key entries with
  | some entry =>
      obtain ⟨here, old⟩ := entry
      rw [hat] at hcut
      have haround : Ordered keys compare
          (below compare key entries ++ (here, old) :: above compare key entries) := by
        rw [← hcut] at hordered
        simpa using hordered
      exact ordered_around.2 (ordered_around.1 haround)
  | none =>
      rw [hat, Option.toList_none, List.append_nil] at hcut
      have hboth : Ordered keys compare
          (below compare key entries ++ above compare key entries) := by
        rwa [hcut]
      have hpairs := List.pairwise_append.1 hboth.ascending
      refine ordered_around.2 ⟨⟨⟨hpairs.1, ?_⟩, ⟨hpairs.2.1, ?_⟩, hkey⟩, ?_, ?_, hpairs.2.2⟩
      · exact fun entry h => hboth.keys_mem entry (List.mem_append_left _ h)
      · exact fun entry h => hboth.keys_mem entry (List.mem_append_right _ h)
      · intro entry hentry
        have hmem := hboth.keys_mem entry (List.mem_append_left _ hentry)
        have hgt : compare key entry.1 = .gt := by simpa using (List.mem_filter.1 hentry).2
        exact (htotal.gt_iff_lt hkey hmem).1 hgt
      · intro entry hentry
        simpa using (List.mem_filter.1 hentry).2

/-- Entries stay ordered when the entry at a key is taken out. -/
theorem Ordered.drop_at (htotal : TotalOn keys compare) (hordered : Ordered keys compare entries)
    (hkey : key ∈ keys) :
    Ordered keys compare (below compare key entries ++ above compare key entries) := by
  have hcut := below_append_at?_append_above htotal hordered hkey
  have hsublist : (below compare key entries ++ above compare key entries).Sublist entries := by
    conv_rhs => rw [← hcut, List.append_assoc]
    exact (List.Sublist.refl _).append (List.sublist_append_right _ _)
  exact ⟨hordered.ascending.sublist hsublist,
    fun entry hentry => hordered.keys_mem entry (hsublist.subset hentry)⟩

end Entries

namespace Tree

variable {κ ν : Type}

/-! ### The entries of trees -/

@[simp]
theorem toList_skew (tree : Tree κ ν) : tree.skew.toList = tree.toList := by
  unfold skew
  split
  · split <;> simp
  · rfl

@[simp]
theorem toList_split (tree : Tree κ ν) : tree.split.toList = tree.toList := by
  unfold split
  split
  · split <;> simp
  · rfl

@[simp]
theorem toList_capLevel (cap : Nat) (tree : Tree κ ν) :
    (tree.capLevel cap).toList = tree.toList := by
  cases tree <;> simp [capLevel]

@[simp]
theorem toList_lower (tree : Tree κ ν) : tree.lower.toList = tree.toList := by
  cases tree with
  | leaf => rfl
  | node level left key value right =>
      rw [lower]
      split <;> simp

theorem toList_mapRight {f : Tree κ ν → Tree κ ν} (h : ∀ tree, (f tree).toList = tree.toList)
    (tree : Tree κ ν) : (tree.mapRight f).toList = tree.toList := by
  cases tree <;> simp [mapRight, h]

/-- Restoring the levels moves no entry. -/
@[simp]
theorem toList_rebalance (tree : Tree κ ν) : tree.rebalance.toList = tree.toList := by
  have hinner (right : Tree κ ν) : (right.skew.mapRight skew).toList = right.toList := by
    rw [toList_mapRight toList_skew, toList_skew]
  simp only [rebalance]
  rw [toList_mapRight toList_split, toList_split, toList_mapRight hinner, toList_skew,
    toList_lower]

theorem last?_eq_getLast? (tree : Tree κ ν) : tree.last? = tree.toList.getLast? := by
  induction tree with
  | leaf => rfl
  | node level left key value right _ ihRight =>
      rw [last?, ihRight, toList_node, List.getLast?_append, List.getLast?_cons]
      cases right.toList.getLast? <;> rfl

theorem first?_eq_head? (tree : Tree κ ν) : tree.first? = tree.toList.head? := by
  induction tree with
  | leaf => rfl
  | node level left key value right ihLeft _ =>
      rw [first?, ihLeft, toList_node, List.head?_append]
      rfl

/-! ### Whatever the comparison answers -/

section Membership

variable {compare : κ → κ → Ordering} {key : κ} {value : ν} {tree : Tree κ ν} {entry : κ × ν}

theorem mem_toList_of_get? (h : tree.get? compare key = some value) :
    ∃ entry ∈ tree.toList, entry.2 = value := by
  induction tree with
  | leaf => simp [get?] at h
  | node level left here old right ihLeft ihRight =>
      rw [get?] at h
      rw [toList_node]
      cases hcompare : compare key here with
      | lt =>
          obtain ⟨entry, hentry, hvalue⟩ := ihLeft (by simpa only [hcompare] using h)
          exact ⟨entry, List.mem_append_left _ hentry, hvalue⟩
      | gt =>
          obtain ⟨entry, hentry, hvalue⟩ := ihRight (by simpa only [hcompare] using h)
          exact ⟨entry, List.mem_append_right _ (List.mem_cons_of_mem _ hentry), hvalue⟩
      | eq =>
          refine ⟨(here, old), List.mem_append_right _ List.mem_cons_self, ?_⟩
          simpa [hcompare] using h

/-- An entry after a value has been entered has its key and its value from there or from before. -/
theorem mem_toList_insert (h : entry ∈ (tree.insert compare key value).toList) :
    (entry.1 = key ∨ ∃ old ∈ tree.toList, old.1 = entry.1) ∧
      (entry.2 = value ∨ ∃ old ∈ tree.toList, old.2 = entry.2) := by
  induction tree with
  | leaf =>
      obtain rfl : entry = (key, value) := by simpa [insert] using h
      exact ⟨Or.inl rfl, Or.inl rfl⟩
  | node level left here old right ihLeft ihRight =>
      rw [insert, toList_split, toList_skew] at h
      have hold (other : κ × ν) (hother : other ∈ (node level left here old right).toList) :
          (other.1 = key ∨ ∃ old' ∈ (node level left here old right).toList, old'.1 = other.1) ∧
            (other.2 = value ∨
              ∃ old' ∈ (node level left here old right).toList, old'.2 = other.2) :=
        ⟨Or.inr ⟨other, hother, rfl⟩, Or.inr ⟨other, hother, rfl⟩⟩
      rw [toList_node] at hold ⊢
      cases hcompare : compare key here with
      | lt =>
          simp only [hcompare, toList_node] at h
          rcases List.mem_append.1 h with h | h
          · obtain ⟨hkey, hvalue⟩ := ihLeft h
            exact ⟨hkey.imp_right fun ⟨e, he, h⟩ => ⟨e, List.mem_append_left _ he, h⟩,
              hvalue.imp_right fun ⟨e, he, h⟩ => ⟨e, List.mem_append_left _ he, h⟩⟩
          · exact hold entry (List.mem_append_right _ h)
      | gt =>
          simp only [hcompare, toList_node] at h
          rcases List.mem_append.1 h with h | h
          · exact hold entry (List.mem_append_left _ h)
          · rcases List.mem_cons.1 h with rfl | h
            · exact hold _ (List.mem_append_right _ List.mem_cons_self)
            · obtain ⟨hkey, hvalue⟩ := ihRight h
              have hlift (e : κ × ν) (he : e ∈ right.toList) :
                  e ∈ left.toList ++ (here, old) :: right.toList :=
                List.mem_append_right _ (List.mem_cons_of_mem _ he)
              exact ⟨hkey.imp_right fun ⟨e, he, h⟩ => ⟨e, hlift e he, h⟩,
                hvalue.imp_right fun ⟨e, he, h⟩ => ⟨e, hlift e he, h⟩⟩
      | eq =>
          simp only [hcompare, toList_node] at h
          rcases List.mem_append.1 h with h | h
          · exact hold entry (List.mem_append_left _ h)
          · rcases List.mem_cons.1 h with rfl | h
            · refine ⟨Or.inr ⟨(here, old), ?_, rfl⟩, Or.inl rfl⟩
              exact List.mem_append_right _ List.mem_cons_self
            · exact hold entry (List.mem_append_right _ (List.mem_cons_of_mem _ h))

/-- An entry takes the place of another one, between some of the entries around it. -/
theorem around_subset {left left' right right' : List (κ × ν)} {here entry : κ × ν}
    (hleft : left' ⊆ left) (hright : right' ⊆ right) (hentry : entry ∈ left ++ here :: right) :
    left' ++ entry :: right' ⊆ left ++ here :: right := by
  apply List.append_subset.2
  constructor
  · exact List.subset_append_of_subset_left _ hleft
  · apply List.cons_subset.2
    constructor
    · exact hentry
    · exact List.subset_append_of_subset_right _ (List.subset_cons_of_subset _ hright)

/-- Removing a key makes no new entry. -/
theorem toList_erase?_subset {after : Tree κ ν} (h : tree.erase? compare key = some after) :
    after.toList ⊆ tree.toList := by
  induction tree generalizing key after with
  | leaf => simp [erase?] at h
  | node level left here old right ihLeft ihRight =>
      rw [erase?] at h
      rw [toList_node]
      have hhere : (here, old) ∈ left.toList ++ (here, old) :: right.toList := by simp
      cases hcompare : compare key here with
      | lt =>
          simp only [hcompare, Option.map_eq_some_iff] at h
          obtain ⟨left', hleft', rfl⟩ := h
          rw [toList_rebalance, toList_node]
          exact around_subset (ihLeft hleft') (List.Subset.refl _) hhere
      | gt =>
          simp only [hcompare, Option.map_eq_some_iff] at h
          obtain ⟨right', hright', rfl⟩ := h
          rw [toList_rebalance, toList_node]
          exact around_subset (List.Subset.refl _) (ihRight hright') hhere
      | eq =>
          simp only [hcompare] at h
          cases hlast : left.last? with
          | some previous =>
              simp only [hlast, Option.map_eq_some_iff] at h
              obtain ⟨left', hleft', rfl⟩ := h
              rw [last?_eq_getLast?] at hlast
              rw [toList_rebalance, toList_node]
              apply around_subset (ihLeft hleft') (List.Subset.refl _)
              exact List.mem_append_left _ (List.mem_of_getLast? hlast)
          | none =>
              cases hfirst : right.first? with
              | some next =>
                  simp only [hlast, hfirst, Option.map_eq_some_iff] at h
                  obtain ⟨right', hright', rfl⟩ := h
                  rw [last?_eq_getLast?, List.getLast?_eq_none_iff] at hlast
                  rw [first?_eq_head?] at hfirst
                  rw [toList_rebalance, toList_node, toList_leaf, ← hlast]
                  apply around_subset (List.Subset.refl _) (ihRight hright')
                  exact List.mem_append_right _
                    (List.mem_cons_of_mem _ (List.mem_of_head? hfirst))
              | none =>
                  simp only [hlast, hfirst, Option.some.injEq] at h
                  subst h
                  exact List.nil_subset _

/-- Entering a value adds an entry exactly where the key has none. -/
theorem length_toList_insert :
    (tree.insert compare key value).toList.length =
      if (tree.get? compare key).isSome then tree.toList.length else tree.toList.length + 1 := by
  induction tree with
  | leaf => rfl
  | node level left here old right ihLeft ihRight =>
      rw [insert, toList_split, toList_skew, get?]
      cases compare key here with
      | lt =>
          simp only [toList_node, List.length_append, List.length_cons, ihLeft]
          split <;> omega
      | gt =>
          simp only [toList_node, List.length_append, List.length_cons, ihRight]
          split <;> omega
      | eq => simp

/-- Removing a key takes one entry out, if it takes out any. -/
theorem length_toList_erase? {after : Tree κ ν} (h : tree.erase? compare key = some after) :
    after.toList.length + 1 = tree.toList.length := by
  induction tree generalizing key after with
  | leaf => simp [erase?] at h
  | node level left here old right ihLeft ihRight =>
      rw [erase?] at h
      rw [toList_node, List.length_append, List.length_cons]
      cases hcompare : compare key here with
      | lt =>
          simp only [hcompare, Option.map_eq_some_iff] at h
          obtain ⟨left', hleft', rfl⟩ := h
          rw [toList_rebalance, toList_node, List.length_append, List.length_cons, ← ihLeft hleft']
          omega
      | gt =>
          simp only [hcompare, Option.map_eq_some_iff] at h
          obtain ⟨right', hright', rfl⟩ := h
          rw [toList_rebalance, toList_node, List.length_append, List.length_cons,
            ← ihRight hright']
          omega
      | eq =>
          simp only [hcompare] at h
          cases hlast : left.last? with
          | some previous =>
              simp only [hlast, Option.map_eq_some_iff] at h
              obtain ⟨left', hleft', rfl⟩ := h
              rw [toList_rebalance, toList_node, List.length_append, List.length_cons,
                ← ihLeft hleft']
              omega
          | none =>
              rw [last?_eq_getLast?, List.getLast?_eq_none_iff] at hlast
              rw [hlast]
              cases hfirst : right.first? with
              | some next =>
                  simp only [last?_eq_getLast?, hlast, List.getLast?_nil, hfirst,
                    Option.map_eq_some_iff] at h
                  obtain ⟨right', hright', rfl⟩ := h
                  rw [toList_rebalance, toList_node, toList_leaf, List.length_append,
                    List.length_cons, ← ihRight hright']
                  rfl
              | none =>
                  simp only [last?_eq_getLast?, hlast, List.getLast?_nil, hfirst,
                    Option.some.injEq] at h
                  rw [first?_eq_head?, List.head?_eq_none_iff] at hfirst
                  subst h
                  rw [hfirst]
                  rfl

/-- What a tree holds is smaller than the tree. -/
theorem sizeOf_lt_of_mem_toList [SizeOf κ] [SizeOf ν] (h : entry ∈ tree.toList) :
    sizeOf entry.1 < sizeOf tree ∧ sizeOf entry.2 < sizeOf tree := by
  induction tree with
  | leaf => exact absurd h List.not_mem_nil
  | node level left here value right ihLeft ihRight =>
      rw [toList_node] at h
      simp only [Tree.node.sizeOf_spec]
      rcases List.mem_append.1 h with h | h
      · obtain ⟨hkey, hvalue⟩ := ihLeft h
        omega
      · rcases List.mem_cons.1 h with rfl | h
        · dsimp only
          omega
        · obtain ⟨hkey, hvalue⟩ := ihRight h
          omega

end Membership

section Operations

open Entries

variable {keys : Set κ} {compare : κ → κ → Ordering} {key : κ} {tree : Tree κ ν}

/-- Reading a key gives the value of the entry that is equal to it. -/
theorem get?_eq_at? (htotal : TotalOn keys compare)
    (hordered : Ordered keys compare tree.toList) (hkey : key ∈ keys) :
    tree.get? compare key = (at? compare key tree.toList).map (·.2) := by
  induction tree with
  | leaf => rfl
  | node level left here value right ihLeft ihRight =>
      rw [toList_node] at hordered ⊢
      obtain ⟨⟨hleft, hright, -⟩, -⟩ := ordered_around.1 hordered
      rw [get?]
      cases hcompare : compare key here with
      | lt => rw [(cut_around_of_lt htotal hordered hkey hcompare).2.1, ← ihLeft hleft]
      | gt => rw [(cut_around_of_gt htotal hordered hkey hcompare).2.1, ← ihRight hright]
      | eq =>
          rw [(cut_around_of_eq htotal hordered hkey hcompare).2.1]
          rfl

/-- Entering a value sets the entry that is equal to the key, which keeps its own key, or else
puts a new entry where the key cuts the entries. -/
theorem toList_insert (htotal : TotalOn keys compare)
    (hordered : Ordered keys compare tree.toList) (hkey : key ∈ keys) (value : ν) :
    (tree.insert compare key value).toList =
      below compare key tree.toList ++
        (((at? compare key tree.toList).map (·.1)).getD key, value) ::
          above compare key tree.toList := by
  induction tree with
  | leaf => rfl
  | node level left here old right ihLeft ihRight =>
      rw [toList_node] at hordered ⊢
      obtain ⟨⟨hleft, hright, -⟩, -⟩ := ordered_around.1 hordered
      rw [insert, toList_split, toList_skew]
      cases hcompare : compare key here with
      | lt =>
          obtain ⟨hbelow, hat, habove⟩ := cut_around_of_lt htotal hordered hkey hcompare
          rw [hbelow, hat, habove, toList_node, ihLeft hleft]
          simp
      | gt =>
          obtain ⟨hbelow, hat, habove⟩ := cut_around_of_gt htotal hordered hkey hcompare
          rw [hbelow, hat, habove, toList_node, ihRight hright]
          simp
      | eq =>
          obtain ⟨hbelow, hat, habove⟩ := cut_around_of_eq htotal hordered hkey hcompare
          rw [hbelow, hat, habove, toList_node]
          rfl

section Erase

variable {level : Nat} {here : κ} {value : ν}

theorem map_toList_rebalance_left (erased : Option (Tree κ ν)) (right : Tree κ ν) :
    (erased.map fun left => rebalance (node level left here value right)).map toList =
      (erased.map toList).map (· ++ (here, value) :: right.toList) := by
  cases erased <;> simp

theorem map_toList_rebalance_right (left : Tree κ ν) (erased : Option (Tree κ ν)) :
    (erased.map fun right => rebalance (node level left here value right)).map toList =
      (erased.map toList).map (left.toList ++ (here, value) :: ·) := by
  cases erased <;> simp

/-- Removing a key takes out the entry that is equal to it and no other one, and there is no
result if there is no such entry. -/
theorem map_toList_erase? (htotal : TotalOn keys compare)
    (hordered : Ordered keys compare tree.toList) (hkey : key ∈ keys) :
    (tree.erase? compare key).map toList =
      (at? compare key tree.toList).map fun _ =>
        below compare key tree.toList ++ above compare key tree.toList := by
  induction tree generalizing key with
  | leaf => rfl
  | node level left here value right ihLeft ihRight =>
      rw [toList_node] at hordered ⊢
      obtain ⟨⟨hleft, hright, -⟩, -⟩ := ordered_around.1 hordered
      rw [erase?]
      cases hcompare : compare key here with
      | lt =>
          obtain ⟨hbelow, hat, habove⟩ := cut_around_of_lt htotal hordered hkey hcompare
          simp only [map_toList_rebalance_left, ihLeft hleft hkey, hbelow, hat, habove]
          simp [Function.comp_def]
      | gt =>
          obtain ⟨hbelow, hat, habove⟩ := cut_around_of_gt htotal hordered hkey hcompare
          simp only [map_toList_rebalance_right, ihRight hright hkey, hbelow, hat, habove]
          simp [Function.comp_def]
      | eq =>
          obtain ⟨hbelow, hat, habove⟩ := cut_around_of_eq htotal hordered hkey hcompare
          simp only [hbelow, hat, habove, Option.map_some]
          -- a neighbour is looked up by its own key, which cuts its tree at its end
          cases hlast : left.last? with
          | some previous =>
              have hend := hlast
              rw [last?_eq_getLast?, List.getLast?_eq_some_iff] at hend
              obtain ⟨init, hinit⟩ := hend
              have hprevious : previous.1 ∈ keys := hleft.keys_mem previous (by simp [hinit])
              have haround : Ordered keys compare (init ++ (previous.1, previous.2) :: []) := by
                rwa [hinit] at hleft
              obtain ⟨hbelow', hat', habove'⟩ :=
                cut_around_of_eq htotal haround hprevious (htotal.refl _ hprevious)
              simp only [map_toList_rebalance_left, ihLeft hleft hprevious, hinit, hbelow', hat',
                habove']
              simp
          | none =>
              cases hfirst : right.first? with
              | some next =>
                  have hbegin := hfirst
                  rw [first?_eq_head?, List.head?_eq_some_iff] at hbegin
                  obtain ⟨rest, hrest⟩ := hbegin
                  have hnext : next.1 ∈ keys := hright.keys_mem next (by simp [hrest])
                  have haround : Ordered keys compare ([] ++ (next.1, next.2) :: rest) := by
                    rwa [hrest] at hright
                  obtain ⟨hbelow', hat', habove'⟩ :=
                    cut_around_of_eq htotal haround hnext (htotal.refl _ hnext)
                  rw [last?_eq_getLast?, List.getLast?_eq_none_iff] at hlast
                  simp only [List.nil_append] at hbelow' hat' habove'
                  simp only [map_toList_rebalance_right, ihRight hright hnext, hrest, hbelow',
                    hat', habove', hlast]
                  simp
              | none =>
                  rw [last?_eq_getLast?, List.getLast?_eq_none_iff] at hlast
                  rw [first?_eq_head?, List.head?_eq_none_iff] at hfirst
                  simp [hlast, hfirst]

end Erase

end Operations

end Tree

namespace Table

open Entries

variable {κ ν : Type} {keys : Set κ} {compare : κ → κ → Ordering} {key : κ} {table : Table κ ν}

/-- The entries are ordered and counted. -/
structure Kept (keys : Set κ) (compare : κ → κ → Ordering) (table : Table κ ν) : Prop where
  ordered : Ordered keys compare table.toList
  size_eq : table.size = table.toList.length

/-- A table counts its entries, whatever the comparison answers and whatever changes have led to
it. -/
theorem size_ofChanges (compare : κ → κ → Ordering) (changes : List (Change κ ν)) :
    (ofChanges compare changes).size = (ofChanges compare changes).toList.length := by
  refine ofChanges_induction (P := fun table : Table κ ν => table.size = table.toList.length)
    compare (by rw [toList_empty]; rfl) ?_ changes fun _ _ => Set.mem_univ _
  intro table hsize last _
  cases last with
  | insert key value =>
      rw [change, insert, toList_eq, Tree.length_toList_insert]
      simp only [contains, get?, hsize, toList_eq]
  | erase key =>
      rw [change, erase]
      cases herase : table.root.erase? compare key with
      | none => exact hsize
      | some root =>
          have hlength := Tree.length_toList_erase? herase
          simp only [toList_eq] at hsize ⊢
          omega

variable (htotal : TotalOn keys compare)

include htotal

theorem get?_eq (hordered : Ordered keys compare table.toList) (hkey : key ∈ keys) :
    table.get? compare key = (at? compare key table.toList).map (·.2) := by
  rw [toList_eq] at hordered ⊢
  exact Tree.get?_eq_at? htotal hordered hkey

theorem contains_eq (hordered : Ordered keys compare table.toList) (hkey : key ∈ keys) :
    table.contains compare key = (at? compare key table.toList).isSome := by
  rw [contains, get?_eq htotal hordered hkey, Option.isSome_map]

theorem toList_insert (hordered : Ordered keys compare table.toList) (hkey : key ∈ keys)
    (value : ν) :
    (table.insert compare key value).toList =
      below compare key table.toList ++
        (((at? compare key table.toList).map (·.1)).getD key, value) ::
          above compare key table.toList := by
  rw [toList_eq] at hordered
  rw [toList_eq, toList_eq]
  exact Tree.toList_insert htotal hordered hkey value

/-- Removing a key takes its entry out, and changes nothing where there is none. -/
theorem erase_eq (hordered : Ordered keys compare table.toList) (hkey : key ∈ keys) :
    (table.erase compare key).toList =
        below compare key table.toList ++ above compare key table.toList ∧
      (table.erase compare key).size =
        table.size - (at? compare key table.toList).toList.length ∧
      (at? compare key table.toList = none → table.erase compare key = table) := by
  have hcut := below_append_at?_append_above htotal hordered hkey
  have herased : (table.root.erase? compare key).map Tree.toList =
      (at? compare key table.toList).map fun _ =>
        below compare key table.toList ++ above compare key table.toList := by
    rw [toList_eq] at hordered ⊢
    exact Tree.map_toList_erase? htotal hordered hkey
  rw [erase]
  cases hat : at? compare key table.toList with
  | none =>
      rw [hat, Option.map_none, Option.map_eq_none_iff] at herased
      rw [hat, Option.toList_none, List.append_nil] at hcut
      simp only [herased]
      exact ⟨hcut.symm, rfl, fun _ => trivial⟩
  | some entry =>
      rw [hat, Option.map_some, Option.map_eq_some_iff] at herased
      obtain ⟨root, hroot, hentries⟩ := herased
      simp only [hroot]
      exact ⟨(toList_eq _).trans hentries, rfl, fun h => absurd h (Option.some_ne_none entry)⟩

theorem Kept.insert (hkept : Kept keys compare table) (hkey : key ∈ keys) (value : ν) :
    Kept keys compare (table.insert compare key value) := by
  obtain ⟨hordered, hsize⟩ := hkept
  refine ⟨?_, ?_⟩
  · rw [toList_insert htotal hordered hkey]
    exact hordered.set_at htotal hkey value
  · rw [toList_insert htotal hordered hkey, Table.insert, contains_eq htotal hordered hkey,
      List.length_append, List.length_cons]
    have hlength := length_cut htotal hordered hkey
    cases hat : at? compare key table.toList with
    | none =>
        simp only [hat, Option.toList_none, List.length_nil] at hlength
        simp only [Option.isSome_none, Bool.false_eq_true, if_false]
        omega
    | some entry =>
        simp only [hat, Option.toList_some, List.length_singleton] at hlength
        simp only [Option.isSome_some, if_true]
        omega

theorem Kept.erase (hkept : Kept keys compare table) (hkey : key ∈ keys) :
    Kept keys compare (table.erase compare key) := by
  obtain ⟨hordered, hsize⟩ := hkept
  obtain ⟨hentries, hcount, -⟩ := erase_eq htotal hordered hkey
  have hlength := length_cut htotal hordered hkey
  refine ⟨?_, ?_⟩
  · rw [hentries]
    exact hordered.drop_at htotal hkey
  · rw [hentries, hcount, List.length_append]
    omega

/-- Changes with keys on which the comparison is a total preorder keep the entries of a table
ordered and counted. -/
theorem kept_ofChanges (changes : List (Change κ ν))
    (hkeys : ∀ change ∈ changes, change.key ∈ keys) :
    Kept keys compare (ofChanges compare changes) := by
  refine ofChanges_induction (P := Kept keys compare) compare ?_ ?_ changes hkeys
  · constructor <;> rw [toList_empty]
    · exact ordered_nil
    · rfl
  · intro table hkept last hlast
    cases last with
    | insert key value => exact hkept.insert htotal hlast value
    | erase key => exact hkept.erase htotal hlast

/-- A table is a sorted association list. Whatever changes have led to it, its entries ascend
strictly and are counted; and every key cuts them into smaller ones, at most one that is equal and
larger ones, so that reading answers from the one in the middle, entering sets it and keeps its
key, or adds it, and removing takes exactly that one out. -/
theorem refines_entries (changes : List (Change κ ν))
    (hkeys : ∀ change ∈ changes, change.key ∈ keys) :
    let table := ofChanges compare changes
    Ascending compare table.toList ∧ table.size = table.toList.length ∧
      ∀ key ∈ keys,
        let before := below compare key table.toList
        let middle := at? compare key table.toList
        let after := above compare key table.toList
        table.toList = before ++ middle.toList ++ after ∧
          table.get? compare key = middle.map (·.2) ∧
          table.contains compare key = middle.isSome ∧
          (∀ value, (table.insert compare key value).toList =
            before ++ ((middle.map (·.1)).getD key, value) :: after) ∧
          (table.erase compare key).toList = before ++ after ∧
          (middle = none → table.erase compare key = table) := by
  intro table
  obtain ⟨hordered, hsize⟩ := kept_ofChanges htotal changes hkeys
  refine ⟨hordered.ascending, hsize, fun key hkey => ?_⟩
  obtain ⟨hentries, -, habsent⟩ := erase_eq htotal hordered hkey
  exact ⟨(below_append_at?_append_above htotal hordered hkey).symm,
    get?_eq htotal hordered hkey, contains_eq htotal hordered hkey,
    toList_insert htotal hordered hkey, hentries, habsent⟩

end Table

/-- The order of values is a total preorder on booleans. -/
theorem totalOn_booleans : TotalOn (Set.range Value.boolean) Value.compare where
  swap := by
    rintro _ ⟨a, rfl⟩ _ ⟨b, rfl⟩
    cases a <;> cases b <;> rfl
  refl := by
    rintro _ ⟨a, rfl⟩
    cases a <;> rfl
  trans := by
    rintro _ ⟨a, rfl⟩ _ ⟨b, rfl⟩ _ ⟨c, rfl⟩
    cases a <;> cases b <;> cases c <;> decide

/-- Two keys are entered, one of them twice, and the other one is removed again. -/
def booleanChanges : List (Table.Change Value Value) :=
  [.insert (.boolean true) (.symbol "a"), .insert (.boolean false) (.symbol "b"),
    .insert (.boolean true) (.symbol "c"), .erase (.boolean false)]

theorem refines_entries_booleans :
    let table := Table.ofChanges Value.compare booleanChanges
    Entries.Ascending Value.compare table.toList ∧ table.size = table.toList.length ∧
      table.get? Value.compare (.boolean true) =
        (Entries.at? Value.compare (.boolean true) table.toList).map (·.2) ∧
      table.get? Value.compare (.boolean true) = some (.symbol "c") := by
  have hkeys : ∀ change ∈ booleanChanges, change.key ∈ Set.range Value.boolean := by
    simp [booleanChanges, Table.Change.key]
  have hrefines := Table.refines_entries totalOn_booleans booleanChanges hkeys
  exact ⟨hrefines.1, hrefines.2.1, (hrefines.2.2 (.boolean true) ⟨true, rfl⟩).2.1, rfl⟩

end StackProse
