import StackProse.Proofs.Table.Entries
import StackProse.Proofs.Value.Order

/-!
# The order of tables and their histories

A row of changes leaves at a key what the last change of that key says: `Table.valueAfter`. The
shape of the tree that it leads to depends on the order of the changes and on keys that are gone, and
so do the keys themselves, since an entry keeps the key that it was made with. None of this is seen by
the order of tables.

The argument has three steps. The order meets the entries of a tree on a walk, and whatever the shape
of the tree, the walk gives them in the order of their keys (`Tree.toList_walk`). What is read from a
table is what its changes have left (`Table.get?_ofChanges`). And entries in strict order that answer
alike at every key are alike one by one (`Entries.rel_iff_forall₂`), so they have no difference for the
lexicographic order to find.
-/

namespace StackProse

namespace TotalOn

variable {κ : Type} {keys : Set κ} {compare : κ → κ → Ordering} {a b c : κ}

/-- Equal keys compare alike with every key. -/
theorem congr_left (h : TotalOn keys compare) (ha : a ∈ keys) (hb : b ∈ keys) (hc : c ∈ keys)
    (hab : compare a b = .eq) : compare a c = compare b c := by
  exact @Std.TransCmp.congr_left keys _ h.transCmp ⟨a, ha⟩ ⟨b, hb⟩ ⟨c, hc⟩ hab

theorem congr_right (h : TotalOn keys compare) (ha : a ∈ keys) (hb : b ∈ keys) (hc : c ∈ keys)
    (hbc : compare b c = .eq) : compare a b = compare a c := by
  rw [h.swap b hb a ha, h.swap c hc a ha, h.congr_left hb hc ha hbc]

end TotalOn

namespace Entries

variable {κ ν : Type} {keys : Set κ} {compare : κ → κ → Ordering} {key here : κ} {value : ν}
  {first second left middle right entries : List (κ × ν)}

theorem at?_cons_of_eq {entry : κ × ν} (h : compare key entry.1 = .eq) :
    at? compare key (entry :: entries) = some entry :=
  List.find?_cons_of_pos (by simpa using h)

theorem at?_cons_of_ne {entry : κ × ν} (h : compare key entry.1 ≠ .eq) :
    at? compare key (entry :: entries) = at? compare key entries :=
  List.find?_cons_of_neg (by simpa using h)

/-- Entries with other keys do not matter to what is at a key. -/
theorem at?_append_of_ne (h : ∀ entry ∈ middle, compare key entry.1 ≠ .eq) :
    at? compare key (left ++ middle ++ right) = at? compare key (left ++ right) := by
  have hmiddle : at? compare key middle = none := List.find?_eq_none.2 (by simpa using h)
  simp only [at?] at hmiddle ⊢
  rw [List.find?_append, List.find?_append, List.find?_append, hmiddle, Option.or_none]

/-- The entry at a key has an equal key. -/
theorem compare_of_at?_eq_some {entry : κ × ν} (h : at? compare key entries = some entry) :
    compare key entry.1 = .eq := by
  simpa using List.find?_some h

/-- Setting the entry at a key leaves an equal key there: the one of the entry, or that key. -/
theorem kept_key (htotal : TotalOn keys compare) (hordered : Ordered keys compare entries)
    (hkey : key ∈ keys) :
    ((at? compare key entries).map (·.1)).getD key ∈ keys ∧
      compare key (((at? compare key entries).map (·.1)).getD key) = .eq := by
  cases hat : at? compare key entries with
  | none => exact ⟨hkey, htotal.refl key hkey⟩
  | some entry =>
      exact ⟨hordered.keys_mem entry (List.mem_of_find?_eq_some hat), compare_of_at?_eq_some hat⟩

/-- What is at a key does not depend on what is at another one. -/
theorem at?_cut_of_ne (htotal : TotalOn keys compare) (hordered : Ordered keys compare entries)
    (hkey : key ∈ keys) (hhere : here ∈ keys) (hne : compare key here ≠ .eq) :
    at? compare key (below compare here entries ++ above compare here entries) =
      at? compare key entries := by
  conv_rhs => rw [← below_append_at?_append_above htotal hordered hhere]
  refine (at?_append_of_ne fun entry hentry => ?_).symm
  have hat := Option.mem_toList.1 hentry
  have hmem := hordered.keys_mem entry (List.mem_of_find?_eq_some hat)
  rwa [← htotal.congr_right hkey hhere hmem (compare_of_at?_eq_some hat)]

/-- Nothing is left at a key, nor at equal ones, when its entry is taken out. -/
theorem at?_cut_of_eq (htotal : TotalOn keys compare) (hordered : Ordered keys compare entries)
    (hkey : key ∈ keys) (hhere : here ∈ keys) (heq : compare key here = .eq) :
    at? compare key (below compare here entries ++ above compare here entries) = none := by
  refine List.find?_eq_none.2 fun entry hentry => ?_
  have hcut : entry ∈ entries ∧ compare here entry.1 ≠ .eq := by
    rcases List.mem_append.1 hentry with hentry | hentry
    · obtain ⟨hmem, hgt⟩ := List.mem_filter.1 hentry
      exact ⟨hmem, by simp [of_decide_eq_true hgt]⟩
    · obtain ⟨hmem, hlt⟩ := List.mem_filter.1 hentry
      exact ⟨hmem, by simp [of_decide_eq_true hlt]⟩
  rw [htotal.congr_left hkey hhere (hordered.keys_mem entry hcut.1) heq]
  simpa using hcut.2

/-! ### Entries that answer alike -/

/-- A key below the first of some entries in strict order is below all of them. -/
theorem forall_lt_of_lt (htotal : TotalOn keys compare) {entry : κ × ν}
    (hordered : Ordered keys compare (entry :: entries)) (hkey : key ∈ keys)
    (hlt : compare key entry.1 = .lt) : ∀ other ∈ entry :: entries, compare key other.1 = .lt := by
  have hentry := hordered.keys_mem entry (by simp)
  have habove := (List.pairwise_cons.1 hordered.ascending).1
  intro other hother
  rcases List.mem_cons.1 hother with rfl | hother
  · exact hlt
  · have hmem := hordered.keys_mem other (by simp [hother])
    exact htotal.lt_of_le_of_lt hkey hentry hmem (by rw [hlt]; rfl) (habove other hother)

theorem Ordered.of_cons {entry : κ × ν} (hordered : Ordered keys compare (entry :: entries)) :
    Ordered keys compare entries :=
  ⟨hordered.ascending.of_cons, fun other hother => hordered.keys_mem other (by simp [hother])⟩

/-- Nothing but the first entry is at the first key. -/
theorem at?_eq_none_of_first (htotal : TotalOn keys compare) {entry : κ × ν}
    (hordered : Ordered keys compare (entry :: entries)) (hkey : key ∈ keys)
    (heq : compare key entry.1 = .eq) : at? compare key entries = none := by
  have hentry := hordered.keys_mem entry (by simp)
  have habove := (List.pairwise_cons.1 hordered.ascending).1
  have hlt : ∀ other ∈ entries, compare key other.1 = .lt := by
    intro other hother
    have hmem := hordered.of_cons.keys_mem other hother
    rw [htotal.congr_left hkey hentry hmem heq]
    exact habove other hother
  exact (cut_of_forall_lt hlt).2.1

section

variable (htotal : TotalOn keys compare) {same : ν → ν → Prop}

include htotal

/-- Entries that answer alike begin with equal keys, since the smaller one of them would be missing
on the other side. -/
theorem compare_eq_of_rel {a b : κ × ν} (hfirst : Ordered keys compare (a :: first))
    (hsecond : Ordered keys compare (b :: second))
    (halike : ∀ key ∈ keys, Option.Rel same ((at? compare key (a :: first)).map (·.2))
      ((at? compare key (b :: second)).map (·.2))) :
    compare a.1 b.1 = .eq ∧ same a.2 b.2 := by
  have ha : a.1 ∈ keys := hfirst.keys_mem a (by simp)
  have hb : b.1 ∈ keys := hsecond.keys_mem b (by simp)
  have hata := halike a.1 ha
  have hatb := halike b.1 hb
  rw [at?_cons_of_eq (htotal.refl _ ha)] at hata
  rw [at?_cons_of_eq (htotal.refl _ hb)] at hatb
  cases hcompare : compare a.1 b.1 with
  | lt =>
      have hmissing := (cut_of_forall_lt (forall_lt_of_lt htotal hsecond ha hcompare)).2.1
      rw [hmissing] at hata
      nomatch hata
  | gt =>
      have hlt := (htotal.gt_iff_lt ha hb).1 hcompare
      have hmissing := (cut_of_forall_lt (forall_lt_of_lt htotal hfirst hb hlt)).2.1
      rw [hmissing] at hatb
      nomatch hatb
  | eq =>
      rw [at?_cons_of_eq hcompare] at hata
      cases hata with
      | some hsame => exact ⟨rfl, hsame⟩

theorem forall₂_of_rel (hfirst : Ordered keys compare first) (hsecond : Ordered keys compare second)
    (halike : ∀ key ∈ keys, Option.Rel same ((at? compare key first).map (·.2))
      ((at? compare key second).map (·.2))) :
    List.Forall₂ (fun a b => compare a.1 b.1 = .eq ∧ same a.2 b.2) first second := by
  induction first generalizing second with
  | nil =>
      cases second with
      | nil => exact .nil
      | cons b second =>
          have hb := hsecond.keys_mem b (by simp)
          have hat := halike b.1 hb
          rw [at?_cons_of_eq (htotal.refl _ hb)] at hat
          nomatch hat
  | cons a first ih =>
      have ha := hfirst.keys_mem a (by simp)
      cases second with
      | nil =>
          have hat := halike a.1 ha
          rw [at?_cons_of_eq (htotal.refl _ ha)] at hat
          nomatch hat
      | cons b second =>
          have hb := hsecond.keys_mem b (by simp)
          have hheads := compare_eq_of_rel htotal hfirst hsecond halike
          refine .cons hheads (ih hfirst.of_cons hsecond.of_cons ?_)
          intro key hkey
          have hkeys := htotal.congr_right hkey ha hb hheads.1
          by_cases heq : compare key a.1 = .eq
          · rw [at?_eq_none_of_first htotal hfirst hkey heq,
              at?_eq_none_of_first htotal hsecond hkey (hkeys ▸ heq)]
            exact .none
          · have hat := halike key hkey
            rwa [at?_cons_of_ne heq, at?_cons_of_ne (hkeys ▸ heq)] at hat

theorem rel_of_forall₂ (hfirst : Ordered keys compare first)
    (hsecond : Ordered keys compare second)
    (h : List.Forall₂ (fun a b => compare a.1 b.1 = .eq ∧ same a.2 b.2) first second)
    {key : κ} (hkey : key ∈ keys) :
    Option.Rel same ((at? compare key first).map (·.2)) ((at? compare key second).map (·.2)) := by
  induction h with
  | nil => exact .none
  | @cons a b first second hheads _ ih =>
      have hkeys := htotal.congr_right hkey (hfirst.keys_mem a (by simp))
        (hsecond.keys_mem b (by simp)) hheads.1
      by_cases heq : compare key a.1 = .eq
      · rw [at?_cons_of_eq heq, at?_cons_of_eq (hkeys ▸ heq)]
        exact .some hheads.2
      · rw [at?_cons_of_ne heq, at?_cons_of_ne (hkeys ▸ heq)]
        exact ih hfirst.of_cons hsecond.of_cons

/-- Entries in strict order answer alike at every key exactly if they are alike one by one: they have
equal keys, and the values stand in the given relation. -/
theorem rel_iff_forall₂ (same : ν → ν → Prop) (hfirst : Ordered keys compare first)
    (hsecond : Ordered keys compare second) :
    (∀ key ∈ keys, Option.Rel same ((at? compare key first).map (·.2))
        ((at? compare key second).map (·.2))) ↔
      List.Forall₂ (fun a b => compare a.1 b.1 = .eq ∧ same a.2 b.2) first second :=
  ⟨forall₂_of_rel htotal hfirst hsecond,
    fun h _ hkey => rel_of_forall₂ htotal hfirst hsecond h hkey⟩

end

end Entries

namespace Table

open Entries

variable {κ ν : Type} {keys : Set κ} {compare : κ → κ → Ordering}

/-- The value that a change leaves at its key. -/
def Change.value? : Change κ ν → Option ν
  | insert _ value => some value
  | erase _ => none

/-- The value that changes leave at a key: what the last change of an equal key has left there. -/
def valueAfter (compare : κ → κ → Ordering) (changes : List (Change κ ν)) (key : κ) : Option ν :=
  changes.foldl (fun value change => if compare key change.key = .eq then change.value? else value)
    none

theorem valueAfter_concat (changes : List (Change κ ν)) (last : Change κ ν) (key : κ) :
    valueAfter compare (changes ++ [last]) key =
      if compare key last.key = .eq then last.value? else valueAfter compare changes key := by
  rw [valueAfter, List.foldl_append]
  rfl

section

variable (htotal : TotalOn keys compare) {table : Table κ ν} {key : κ}

include htotal

/-- A change decides what is at its key and at equal ones. -/
theorem get?_change_of_eq (hkept : Kept keys compare table) {last : Change κ ν}
    (hlast : last.key ∈ keys) (hkey : key ∈ keys) (heq : compare key last.key = .eq) :
    (table.change compare last).get? compare key = last.value? := by
  have hordered := hkept.ordered
  cases last with
  | insert other value =>
      simp only [Change.key] at hlast heq
      obtain ⟨hmem, hsame⟩ := kept_key htotal hordered hlast
      rw [change, get?_eq htotal (hkept.insert htotal hlast value).ordered hkey,
        toList_insert htotal hordered hlast]
      have hcut := cut_around_of_eq htotal (hordered.set_at htotal hlast value) hkey
        (by rwa [← htotal.congr_right hkey hlast hmem hsame])
      rw [hcut.2.1]
      rfl
  | erase other =>
      simp only [Change.key] at hlast heq
      rw [change, get?_eq htotal (hkept.erase htotal hlast).ordered hkey,
        (erase_eq htotal hordered hlast).1, at?_cut_of_eq htotal hordered hkey hlast heq]
      rfl

/-- A change does not matter to other keys. -/
theorem get?_change_of_ne (hkept : Kept keys compare table) {last : Change κ ν}
    (hlast : last.key ∈ keys) (hkey : key ∈ keys) (hne : compare key last.key ≠ .eq) :
    (table.change compare last).get? compare key = table.get? compare key := by
  have hordered := hkept.ordered
  have hcut := at?_cut_of_ne htotal hordered hkey hlast hne
  rw [get?_eq htotal hordered hkey, ← hcut]
  cases last with
  | insert other value =>
      simp only [Change.key] at hlast hne ⊢
      obtain ⟨hmem, hsame⟩ := kept_key htotal hordered hlast
      rw [change, get?_eq htotal (hkept.insert htotal hlast value).ordered hkey,
        toList_insert htotal hordered hlast, List.append_cons, at?_append_of_ne]
      intro entry hentry
      rw [List.mem_singleton.1 hentry, ← htotal.congr_right hkey hlast hmem hsame]
      exact hne
  | erase other =>
      simp only [Change.key] at hlast hne ⊢
      rw [change, get?_eq htotal (hkept.erase htotal hlast).ordered hkey,
        (erase_eq htotal hordered hlast).1]

/-- What is read from a table is what its changes have left. -/
theorem get?_ofChanges (changes : List (Change κ ν)) (hkeys : ∀ change ∈ changes, change.key ∈ keys)
    (hkey : key ∈ keys) :
    (ofChanges compare changes).get? compare key = valueAfter compare changes key := by
  induction changes using List.reverseRecOn with
  | nil => rfl
  | append_singleton changes last ih =>
      have hbefore : ∀ change ∈ changes, change.key ∈ keys :=
        fun change hmem => hkeys change (List.mem_append_left _ hmem)
      have hkept := kept_ofChanges htotal changes hbefore
      have hlast : last.key ∈ keys := hkeys last (by simp)
      rw [ofChanges_concat, valueAfter_concat]
      split
      · next heq => exact get?_change_of_eq htotal hkept hlast hkey heq
      · next hne => rw [get?_change_of_ne htotal hkept hlast hkey hne, ih hbefore]

end

end Table

/-! ### The order of tables -/

/-- The lexicographic order finds no difference exactly if there is none one by one. -/
theorem compareLex_eq_iff_forall₂ {α : Type} {compare : α → α → Ordering} {first second : List α} :
    List.compareLex compare first second = .eq ↔
      List.Forall₂ (fun a b => compare a b = .eq) first second := by
  induction first generalizing second with
  | nil => cases second <;> simp [List.compareLex_nil_nil, List.compareLex_nil_cons]
  | cons a first ih =>
      cases second with
      | nil => simp [List.compareLex_cons_nil]
      | cons b second =>
          rw [List.compareLex_cons_cons, Ordering.then_eq_eq, ih, List.forall₂_cons]

namespace Value

open Table

variable {ids : Identities} {keys : Set Value}

/-- Tables that count their entries are equal exactly if their keys and values are equal one by one,
in the order of the keys. -/
theorem compareBy_table_eq_iff {first second : Table Value Value}
    (hfirst : first.size = first.toList.length) (hsecond : second.size = second.toList.length) :
    compareBy ids (.table first) (.table second) = .eq ↔
      List.Forall₂ (fun a b => compareBy ids a.1 b.1 = .eq ∧ compareBy ids a.2 b.2 = .eq)
        first.toList second.toList := by
  rw [compareBy_table hfirst hsecond, compareLex_eq_iff_forall₂]
  simp only [compareEntries, Ordering.then_eq_eq]

/-- The order of tables looks at what changes have left, and at nothing else. Where the order of
values is a total preorder on the keys, two tables are equal exactly if at every key either both
histories leave nothing or both leave a value, and these are equal; and equal tables have as many
entries as each other, with equal keys and values one by one in ascending order. -/
theorem tables_compare_by_contents (htotal : TotalOn keys (compareBy ids))
    (changes others : List (Change Value Value)) (hchanges : ∀ change ∈ changes, change.key ∈ keys)
    (hothers : ∀ change ∈ others, change.key ∈ keys) :
    let first := ofChanges (compareBy ids) changes
    let second := ofChanges (compareBy ids) others
    (compareBy ids (.table first) (.table second) = .eq ↔
        ∀ key ∈ keys, Option.Rel (fun a b => compareBy ids a b = .eq)
          (valueAfter (compareBy ids) changes key) (valueAfter (compareBy ids) others key)) ∧
      (compareBy ids (.table first) (.table second) = .eq →
        first.size = second.size ∧
          Entries.Ascending (compareBy ids) first.toList ∧
          Entries.Ascending (compareBy ids) second.toList ∧
          List.Forall₂ (fun a b => compareBy ids a.1 b.1 = .eq ∧ compareBy ids a.2 b.2 = .eq)
            first.toList second.toList) := by
  intro first second
  have hfirst := kept_ofChanges htotal changes hchanges
  have hsecond := kept_ofChanges htotal others hothers
  have hpairs : compareBy ids (.table first) (.table second) = .eq ↔ _ :=
    compareBy_table_eq_iff hfirst.size_eq hsecond.size_eq
  constructor
  · have halike := Entries.rel_iff_forall₂ htotal (fun a b => compareBy ids a b = .eq)
      hfirst.ordered hsecond.ordered
    apply (hpairs.trans halike.symm).trans
    refine forall₂_congr fun key hkey => ?_
    rw [← get?_ofChanges htotal changes hchanges hkey, ← get?_ofChanges htotal others hothers hkey,
      get?_eq htotal hfirst.ordered hkey, get?_eq htotal hsecond.ordered hkey]
  · intro hequal
    have hentries := hpairs.1 hequal
    refine ⟨?_, hfirst.ordered.ascending, hsecond.ordered.ascending, hentries⟩
    rw [hfirst.size_eq, hsecond.size_eq, hentries.length_eq]

/-- Four keys, entered in ascending order. -/
def straight : List (Change Value Value) :=
  ["a", "b", "c", "d"].map fun name => .insert (.symbol name) (.boolean true)

/-- The same four keys in another order, one of them with another value at first, beside a fifth one
that is removed again. -/
def winding : List (Change Value Value) :=
  [.insert (.symbol "a") (.boolean true), .insert (.symbol "c") (.boolean false),
    .insert (.symbol "e") (.boolean true), .insert (.symbol "b") (.boolean true),
    .insert (.symbol "d") (.boolean true), .erase (.symbol "e"),
    .insert (.symbol "c") (.boolean true)]

theorem tables_compare_by_contents_winding :
    (ofChanges compare straight).root ≠ (ofChanges compare winding).root ∧
      ValueTable.compare (ofChanges compare straight) (ofChanges compare winding) = .eq ∧
      (ofChanges compare straight).size = (ofChanges compare winding).size ∧
      Option.Rel (fun a b => compare a b = .eq)
        (valueAfter compare straight (.symbol "e")) (valueAfter compare winding (.symbol "e")) := by
  have htotal : TotalOn (overNumbers .numbered ∅) (compareBy .numbered) :=
    totalOn_overNumbers Identities.total_numbered (totalOn_numbers nofun)
  have hsymbol (name : String) : symbol name ∈ overNumbers .numbered ∅ :=
    ⟨.symbol name, .symbol name⟩
  have hcontents := tables_compare_by_contents htotal straight winding
    (by simp [straight, Change.key, hsymbol]) (by simp [winding, Change.key, hsymbol])
  have hequal : ValueTable.compare (ofChanges compare straight) (ofChanges compare winding) = .eq := by
    decide +kernel
  refine ⟨?_, hequal, (hcontents.2 hequal).1, hcontents.1.1 hequal _ (hsymbol "e")⟩
  -- the trees have different nodes on the left of their roots
  intro hroots
  have hleft := congrArg
    (fun tree => Tree.casesOn (motive := fun _ => Nat) tree 0 fun _ left _ _ _ => left.size) hroots
  exact absurd hleft (by decide +kernel)

end Value

end StackProse
