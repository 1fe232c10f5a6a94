import Mathlib.Data.List.Infix
import StackProse.Proofs.Builtin.Applied

/-!
# Cutting strings into pieces

`Split` reads a string from left to right and cuts it wherever the separator comes next. `Builtin.Cuts`
states this as rules, without the places that a cut still has to pass over, and
`Builtin.cuts_splitFrom` proves that the loop keeps to them.

Joining the pieces with the separator undoes the cuts. That no separator is left inside of a piece is
less plain, since separators can overlap each other and a cut is made at the first of them only. What
carries the proof is that a separator has been looked for at every place of the piece at hand
(`Cuts.Tested`).
-/

namespace StackProse

namespace Builtin

/-- Cutting units at a separator gives the pieces, where `piece` has been read of the first one. -/
inductive Cuts (separator : List UInt16) : List UInt16 → List UInt16 → List (List UInt16) → Prop
  /-- The last piece ends with the units. -/
  | last (piece : List UInt16) : Cuts separator piece [] [piece]
  /-- The separator comes next and ends the piece. -/
  | cut {piece rest : List UInt16} {pieces : List (List UInt16)} :
      Cuts separator [] rest pieces → Cuts separator piece (separator ++ rest) (piece :: pieces)
  /-- The separator does not come next, so the next unit belongs to the piece. -/
  | pass {piece rest : List UInt16} {unit : UInt16} {pieces : List (List UInt16)} :
      ¬ separator <+: unit :: rest → Cuts separator (piece ++ [unit]) rest pieces →
      Cuts separator piece (unit :: rest) pieces

variable {separator : List UInt16}

/-- Units of a separator that are passed over might as well not be there. -/
theorem splitFrom_skip (piece : List UInt16) (found : List (List UInt16)) (skip : Nat)
    (units : List UInt16) :
    splitFrom separator piece found skip units =
      splitFrom separator piece found 0 (units.drop skip) := by
  induction units generalizing skip with
  | nil => simp [splitFrom]
  | cons unit rest ih =>
      cases skip with
      | zero => rfl
      | succ skip => exact ih skip

/-- Where the separator comes next, the piece at hand is done. -/
theorem splitFrom_append (hne : separator ≠ []) (piece : List UInt16) (found : List (List UInt16))
    (rest : List UInt16) :
    splitFrom separator piece found 0 (separator ++ rest) =
      splitFrom separator [] (piece.reverse :: found) 0 rest := by
  cases separator with
  | nil => exact absurd rfl hne
  | cons first others =>
      have hbegins : (first :: others).isPrefixOf (first :: (others ++ rest)) = true :=
        List.isPrefixOf_iff_prefix.2 (List.prefix_append (first :: others) rest)
      rw [List.cons_append, splitFrom, if_pos hbegins, splitFrom_skip, List.length_cons,
        Nat.add_sub_cancel, List.drop_left]

/-- The loop keeps to the rules. It holds the piece at hand backwards, and so the pieces before. -/
theorem cuts_splitFrom (hne : separator ≠ []) (piece : List UInt16) (found : List (List UInt16))
    (units : List UInt16) :
    ∃ pieces, splitFrom separator piece found 0 units = found.reverse ++ pieces ∧
      Cuts separator piece.reverse units pieces := by
  -- A cut goes on behind the whole separator, so the induction is on the number of units.
  induction hlength : units.length using Nat.strong_induction_on generalizing piece found units with
  | _ length ih =>
      by_cases hnext : separator <+: units
      · obtain ⟨rest, rfl⟩ := hnext
        have hshorter : rest.length < length := by
          rw [← hlength, List.length_append]
          exact Nat.lt_add_of_pos_left (List.length_pos_iff.2 hne)
        obtain ⟨pieces, hsplit, hcuts⟩ := ih _ hshorter [] (piece.reverse :: found) rest rfl
        refine ⟨piece.reverse :: pieces, ?_, .cut hcuts⟩
        rw [splitFrom_append hne, hsplit, List.reverse_cons, List.append_assoc,
          List.singleton_append]
      · cases units with
        | nil => exact ⟨[piece.reverse], by simp [splitFrom], .last _⟩
        | cons unit rest =>
            have hshorter : rest.length < length := by
              rw [← hlength]
              exact Nat.lt_succ_self _
            obtain ⟨pieces, hsplit, hcuts⟩ := ih _ hshorter (unit :: piece) found rest rfl
            rw [List.reverse_cons] at hcuts
            refine ⟨pieces, ?_, .pass hnext hcuts⟩
            rw [splitFrom, if_neg (by rwa [List.isPrefixOf_iff_prefix]), hsplit]

theorem cuts_split (hne : separator ≠ []) (units : List UInt16) :
    Cuts separator [] units (split separator units) := by
  obtain ⟨pieces, hsplit, hcuts⟩ := cuts_splitFrom hne [] [] units
  rw [split, if_neg (by simpa using hne), hsplit]
  exact hcuts

namespace Cuts

variable {piece units : List UInt16} {pieces : List (List UInt16)}

theorem ne_nil (h : Cuts separator piece units pieces) : pieces ≠ [] := by
  induction h with
  | last | cut => exact List.cons_ne_nil _ _
  | pass _ _ ih => exact ih

/-- Joining undoes cutting. -/
theorem intercalate_eq (h : Cuts separator piece units pieces) :
    separator.intercalate pieces = piece ++ units := by
  induction h with
  | last piece => rw [List.intercalate_singleton, List.append_nil]
  | cut hcuts ih =>
      rw [List.intercalate_cons_of_ne_nil hcuts.ne_nil, ih, List.nil_append, List.append_assoc]
  | pass _ _ ih => rw [ih, List.append_assoc, List.singleton_append]

/-- A separator has been looked for at every place of the piece, with the units behind it in view. -/
def Tested (separator piece units : List UInt16) : Prop :=
  ∀ later, later <:+ piece → later ≠ [] → ¬ separator <+: later ++ units

theorem tested_nil (separator units : List UInt16) : Tested separator [] units :=
  fun _ hsuffix hlater => absurd (List.suffix_nil.1 hsuffix) hlater

theorem Tested.not_infix (htested : Tested separator piece units) (hne : separator ≠ []) :
    ¬ separator <:+: piece := by
  intro hinfix
  obtain ⟨later, hbegins, hsuffix⟩ := List.infix_iff_prefix_suffix.1 hinfix
  have hlater : later ≠ [] := fun hnil => hne (List.prefix_nil.1 (hnil ▸ hbegins))
  exact htested later hsuffix hlater (hbegins.trans (List.prefix_append _ _))

/-- The unit that a piece goes on with adds one place, its own. -/
theorem Tested.concat {unit : UInt16} (htested : Tested separator piece (unit :: units))
    (hnext : ¬ separator <+: unit :: units) : Tested separator (piece ++ [unit]) units := by
  intro later hsuffix hlater
  obtain rfl | ⟨before, rfl, hbefore⟩ := List.suffix_concat_iff.1 hsuffix
  · exact absurd rfl hlater
  · rw [List.append_assoc, List.singleton_append]
    by_cases hnil : before = []
    · rw [hnil]
      exact hnext
    · exact htested before hbefore hnil

/-- No piece has the separator inside. -/
theorem not_infix (h : Cuts separator piece units pieces) (hne : separator ≠ [])
    (htested : Tested separator piece units) : ∀ piece ∈ pieces, ¬ separator <:+: piece := by
  induction h with
  | last piece => exact List.forall_mem_singleton.2 (htested.not_infix hne)
  | cut _ ih => exact List.forall_mem_cons.2 ⟨htested.not_infix hne, ih (tested_nil _ _)⟩
  | pass hnext _ ih => exact ih (htested.concat hnext)

end Cuts

/-- Joining with nothing in between puts single units together again. -/
theorem intercalate_units (units : List UInt16) :
    List.intercalate [] (units.map fun unit => [unit]) = units := by
  induction units with
  | nil => rfl
  | cons unit rest ih =>
      cases rest with
      | nil => rfl
      | cons next rest =>
          rw [List.map_cons, List.intercalate_cons_of_ne_nil (by simp), ih]
          rfl

-- Of separators that overlap the first one counts.
example : split [7, 7] [7, 7, 7, 1, 7, 7] = [[], [7, 1], []] := by
  decide

end Builtin

namespace Machine

theorem applies_split (separator units : List UInt16) (style other : Option Style) :
    Applies "Split" [.string separator style, .string units other]
      (.list ((Builtin.split separator units).map .ofUnits)) :=
  ⟨_, rfl, fun _ _ => rfl⟩

/-- The pieces of a string, taken from the first to the last and joined with the separator between
them, are the string again. A separator that is not empty leaves at least one piece and none that
has it inside; the empty separator leaves the single units. -/
theorem split_undone_by_joining (separator units : List UInt16) (style other : Option Style) :
    ∃ result pieces, Applies "Split" [.string separator style, .string units other] result ∧
      Lists result (pieces.map .ofUnits) ∧ separator.intercalate pieces = units ∧
      (separator ≠ [] → pieces ≠ [] ∧ ∀ piece ∈ pieces, ¬ separator <:+: piece) ∧
      (separator = [] → pieces = units.map fun unit => [unit]) := by
  refine ⟨_, Builtin.split separator units, applies_split separator units style other,
    lists_list _, ?_⟩
  by_cases hempty : separator = []
  · have hsplit : Builtin.split separator units = units.map fun unit => [unit] := by
      rw [Builtin.split, if_pos (List.isEmpty_iff.2 hempty)]
    refine ⟨?_, fun hne => absurd hempty hne, fun _ => hsplit⟩
    rw [hsplit, hempty, Builtin.intercalate_units]
  · have hcuts := Builtin.cuts_split hempty units
    refine ⟨?_, fun _ => ⟨hcuts.ne_nil, ?_⟩, fun hnil => absurd hnil hempty⟩
    · rw [hcuts.intercalate_eq, List.nil_append]
    · exact hcuts.not_infix hempty (Builtin.Cuts.tested_nil _ _)

end Machine

end StackProse
