import Mathlib
import StackProse.Text.Letter

/-!
# Texts that differ in case

The case mappings of texts look at more than single letters, but they give the same for two texts that
differ in the case of the letters from A to Z (`Letter.lowerText_map_toLower`). For names the first
letter has to be the same (`Letter.nameForm_lowerTail`).
-/

namespace StackProse.Letter

/-- What is the same for each of the 26 capitals and its small letter does not depend on case. -/
theorem apply_toLower {α : Type} {f : Char → α}
    (h : ∀ n ∈ List.range' 'A'.toNat 26, f (Char.ofNat n).toLower = f (Char.ofNat n)) (c : Char) :
    f c.toLower = f c := by
  by_cases hupper : c.isUpper
  · have hrange : 'A'.val ≤ c.val ∧ c.val ≤ 'Z'.val := of_decide_eq_true hupper
    have hmem : c.toNat ∈ List.range' 'A'.toNat 26 :=
      List.mem_range'_1.2 ⟨hrange.1, Nat.lt_succ_of_le hrange.2⟩
    rw [← c.ofNat_toNat]
    exact h c.toNat hmem
  · rw [Char.toLower_eq_of_not_isUpper hupper]

/-- A character that is no letter has one case only. -/
theorem toLower_eq_iff {c other : Char} (h : other.isAlpha = false) : c.toLower = other ↔ c = other := by
  by_cases hupper : c.isUpper
  · have halpha : c.isAlpha = true := by rw [Char.isAlpha, hupper, Bool.true_or]
    refine ⟨?_, ?_⟩
    · rintro rfl
      rw [Char.isAlpha_toLower_eq_isAlpha, halpha] at h
      contradiction
    · rintro rfl
      rw [halpha] at h
      contradiction
  · rw [Char.toLower_eq_of_not_isUpper hupper]

/-! ### Lowercase forms -/

theorem lower_toLower (c : Char) : lower c.toLower = lower c :=
  apply_toLower (by decide) c

theorem isCased_toLower (c : Char) : isCased c.toLower = isCased c :=
  apply_toLower (by decide +kernel) c

/-- No letter is passed over when the surroundings of another are looked at. -/
theorem isIgnorable_of_isAlpha {c : Char} (h : c.isAlpha) : isIgnorable c = false := by
  have hletter : 65 ≤ c.toNat ∧ c.toNat ≤ 90 ∨ 97 ≤ c.toNat ∧ c.toNat ≤ 122 := by
    simpa [Char.isAlpha, Char.isUpper, Char.isLower, UInt32.le_iff_toNat_le] using h
  have hranges : ∀ range ∈ CaseData.ignorableRanges,
      range.2 < 65 ∨ 90 < range.1 ∧ range.2 < 97 ∨ 122 < range.1 := by
    decide +kernel
  rw [isIgnorable, inRanges, List.any_eq_false]
  intro range hrange hinside
  simp only [Bool.and_eq_true, decide_eq_true_eq] at hinside
  have houtside := hranges range hrange
  omega

theorem isIgnorable_toLower (c : Char) : isIgnorable c.toLower = isIgnorable c := by
  by_cases hupper : c.isUpper
  · have halpha : c.isAlpha := by rw [Char.isAlpha, hupper, Bool.true_or]
    rw [isIgnorable_of_isAlpha halpha,
      isIgnorable_of_isAlpha (c.isAlpha_toLower_eq_isAlpha.trans halpha)]
  · rw [Char.toLower_eq_of_not_isUpper hupper]

theorem meetsCased_map_toLower (text : List Char) :
    meetsCased (text.map Char.toLower) = meetsCased text := by
  have hignorable : isIgnorable ∘ Char.toLower = isIgnorable := funext isIgnorable_toLower
  rw [meetsCased, meetsCased, List.dropWhile_map, hignorable, List.head?_map, Option.any_map]
  simp only [isCased_toLower]

theorem lowerTextFrom_map_toLower (before done text : List Char) :
    lowerTextFrom (before.map Char.toLower) done (text.map Char.toLower) =
      lowerTextFrom before done text := by
  induction text generalizing before done with
  | nil => rfl
  | cons c rest ih =>
      have hsigma : c.toLower = 'Σ' ↔ c = 'Σ' := toLower_eq_iff rfl
      rw [List.map_cons, lowerTextFrom, lowerTextFrom]
      simp only [hsigma, meetsCased_map_toLower, lower_toLower]
      exact ih (c :: before) _

/-- The lowercase form of a text does not depend on the case of its letters. -/
theorem lowerText_map_toLower (text : List Char) :
    lowerText (text.map Char.toLower) = lowerText text :=
  lowerTextFrom_map_toLower [] [] text

/-! ### Names -/

/-- A text with small letters behind its first character. -/
def lowerTail : List Char → List Char
  | [] => []
  | first :: rest => first :: rest.map Char.toLower

/-- The name form does not depend on the case of letters behind the first. -/
theorem nameForm_lowerTail (text : List Char) : nameForm (lowerTail text) = nameForm text := by
  cases text with
  | nil => rfl
  | cons first rest =>
      have hlower : (fun c : Char => lower c.toLower) = lower := funext lower_toLower
      rw [lowerTail, nameForm, nameForm, List.flatMap_map, hlower]

theorem lowerTail_eq {text other : List Char}
    (hletters : text.map Char.toLower = other.map Char.toLower) (hhead : text.head? = other.head?) :
    lowerTail text = lowerTail other := by
  cases text with
  | nil =>
      obtain rfl := List.map_eq_nil_iff.1 hletters.symm
      rfl
  | cons first rest =>
      obtain ⟨first', rest', rfl, -, hrest⟩ := List.map_eq_cons_iff.1 hletters.symm
      obtain rfl := Option.some.inj hhead
      rw [lowerTail, lowerTail, hrest]

end StackProse.Letter
