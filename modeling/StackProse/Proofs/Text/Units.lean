import Mathlib
import StackProse.Text.Units

/-!
# Decoding and encoding code units

Where no surrogate has lost its partner, decoding loses nothing: encoding the characters gives back
the units (`Units.ofChars_toChars`). Every unit becomes a character of its own, and two halves of a
pair become one character beyond the first plane.

Encoding never loses anything, since no character is a surrogate: decoding the units gives back the
characters (`Units.toChars_ofChars`).
-/

namespace StackProse.Units

theorem isLeading_iff (unit : UInt16) :
    isLeading unit = true ↔ 0xD800 ≤ unit.toNat ∧ unit.toNat < 0xDC00 := by
  simp [isLeading, UInt16.le_iff_toNat_le, UInt16.lt_iff_toNat_lt]

theorem isTrailing_iff (unit : UInt16) :
    isTrailing unit = true ↔ 0xDC00 ≤ unit.toNat ∧ unit.toNat < 0xE000 := by
  simp [isTrailing, UInt16.le_iff_toNat_le, UInt16.lt_iff_toNat_lt]

/-- A unit that is no half of a pair is the unit of its character. -/
theorem ofChar_single {unit : UInt16} (hleading : isLeading unit = false)
    (htrailing : isTrailing unit = false) : ofChar (single unit) = [unit] := by
  have hlt := unit.toNat_lt
  have hvalid : unit.toNat.isValidChar := by
    rw [← Bool.not_eq_true, isLeading_iff] at hleading
    rw [← Bool.not_eq_true, isTrailing_iff] at htrailing
    rw [Nat.isValidChar]
    omega
  have hsingle : single unit = Char.ofNat unit.toNat := by
    rw [single, hleading, htrailing]
    rfl
  rw [hsingle, ofChar, Char.toNat_ofNat, if_pos hvalid, if_pos hlt, UInt16.ofNat_toNat]

/-- Two halves of a pair are the units of their character. -/
theorem ofChar_pair {leading trailing : UInt16} (hleading : isLeading leading = true)
    (htrailing : isTrailing trailing = true) :
    ofChar (pair leading trailing) = [leading, trailing] := by
  rw [isLeading_iff] at hleading
  rw [isTrailing_iff] at htrailing
  have hvalid : Nat.isValidChar
      (0x10000 + (leading.toNat - 0xD800) * 0x400 + (trailing.toNat - 0xDC00)) := by
    rw [Nat.isValidChar]
    omega
  rw [pair, ofChar, Char.toNat_ofNat, if_pos hvalid, if_neg (by omega)]
  have hfirst : 0xD800 + (0x10000 + (leading.toNat - 0xD800) * 0x400 +
      (trailing.toNat - 0xDC00) - 0x10000) / 0x400 = leading.toNat := by
    omega
  have hsecond : 0xDC00 + (0x10000 + (leading.toNat - 0xD800) * 0x400 +
      (trailing.toNat - 0xDC00) - 0x10000) % 0x400 = trailing.toNat := by
    omega
  rw [hfirst, hsecond, UInt16.ofNat_toNat, UInt16.ofNat_toNat]

theorem ofChars_reverse_cons (c : Char) (read : List Char) (units : List UInt16) :
    ofChars (c :: read).reverse ++ units = ofChars read.reverse ++ (ofChar c ++ units) := by
  simp [ofChars]

theorem ofChars_toCharsFrom {units : List UInt16} (h : hasLoneSurrogate units = false)
    (read : List Char) : ofChars (toCharsFrom read units) = ofChars read.reverse ++ units := by
  fun_induction toCharsFrom read units with
  | case1 read => exact (List.append_nil _).symm
  | case2 read unit =>
      obtain ⟨hleading, htrailing⟩ := Bool.or_eq_false_iff.1 h
      have happend := ofChars_reverse_cons (single unit) read []
      rw [List.append_nil, List.append_nil, ofChar_single hleading htrailing] at happend
      exact happend
  | case3 read first second rest hpair ih =>
      rw [hasLoneSurrogate, if_pos hpair] at h
      obtain ⟨hleading, htrailing⟩ := Bool.and_eq_true_iff.1 hpair
      rw [ih h, ofChars_reverse_cons, ofChar_pair hleading htrailing]
      rfl
  | case4 read first second rest hpair ih =>
      rw [hasLoneSurrogate, if_neg hpair, Bool.or_eq_false_iff, Bool.or_eq_false_iff] at h
      rw [ih h.2, ofChars_reverse_cons, ofChar_single h.1.1 h.1.2]
      rfl

/-- Encoding what has been decoded gives back the units, unless a surrogate has lost its partner. -/
theorem ofChars_toChars {units : List UInt16} (h : hasLoneSurrogate units = false) :
    ofChars (toChars units) = units :=
  ofChars_toCharsFrom h []

/-! ### Characters -/

/-- A character of the first plane is the character of its unit. -/
theorem toCharsFrom_ofNat {c : Char} (hc : c.toNat < 0x10000) (read : List Char)
    (rest : List UInt16) :
    toCharsFrom read (UInt16.ofNat c.toNat :: rest) = toCharsFrom (c :: read) rest := by
  have hnat : (UInt16.ofNat c.toNat).toNat = c.toNat := UInt16.toNat_ofNat_of_lt hc
  have hvalid : c.toNat.isValidChar := c.valid
  rw [Nat.isValidChar] at hvalid
  have hleading : isLeading (UInt16.ofNat c.toNat) = false := by
    rw [← Bool.not_eq_true, isLeading_iff, hnat]
    omega
  have htrailing : isTrailing (UInt16.ofNat c.toNat) = false := by
    rw [← Bool.not_eq_true, isTrailing_iff, hnat]
    omega
  have hsingle : single (UInt16.ofNat c.toNat) = c := by
    rw [single, hleading, htrailing, hnat]
    exact Char.ofNat_toNat c
  cases rest with
  | nil => simp only [toCharsFrom, hsingle]
  | cons second rest =>
      rw [toCharsFrom, hleading, Bool.false_and, if_neg Bool.false_ne_true, hsingle]

/-- The halves of a pair that encodes a character make the character. -/
theorem pair_halves {c : Char} (hc : 0x10000 ≤ c.toNat) :
    let leading := UInt16.ofNat (0xD800 + (c.toNat - 0x10000) / 0x400)
    let trailing := UInt16.ofNat (0xDC00 + (c.toNat - 0x10000) % 0x400)
    isLeading leading = true ∧ isTrailing trailing = true ∧ pair leading trailing = c := by
  intro leading trailing
  have hvalid : c.toNat.isValidChar := c.valid
  rw [Nat.isValidChar] at hvalid
  have hleading : leading.toNat = 0xD800 + (c.toNat - 0x10000) / 0x400 :=
    UInt16.toNat_ofNat_of_lt (by rw [UInt16.size]; omega)
  have htrailing : trailing.toNat = 0xDC00 + (c.toNat - 0x10000) % 0x400 :=
    UInt16.toNat_ofNat_of_lt (by rw [UInt16.size]; omega)
  refine ⟨?_, ?_, ?_⟩
  · rw [isLeading_iff, hleading]
    omega
  · rw [isTrailing_iff, htrailing]
    omega
  · have hnat : 0x10000 + (leading.toNat - 0xD800) * 0x400 + (trailing.toNat - 0xDC00) =
        c.toNat := by
      omega
    rw [pair, hnat]
    exact Char.ofNat_toNat c

/-- The units of a character are decoded as the character. -/
theorem toCharsFrom_ofChar (c : Char) (read : List Char) (rest : List UInt16) :
    toCharsFrom read (ofChar c ++ rest) = toCharsFrom (c :: read) rest := by
  by_cases hc : c.toNat < 0x10000
  · rw [ofChar, if_pos hc, List.singleton_append]
    exact toCharsFrom_ofNat hc read rest
  · obtain ⟨hleading, htrailing, hpair⟩ := pair_halves (Nat.le_of_not_lt hc)
    rw [ofChar, if_neg hc, List.cons_append, List.singleton_append, toCharsFrom, hleading,
      htrailing, Bool.and_self, if_pos rfl, hpair]

theorem toCharsFrom_ofChars (text read : List Char) :
    toCharsFrom read (ofChars text) = read.reverse ++ text := by
  induction text generalizing read with
  | nil => exact (List.append_nil _).symm
  | cons c text ih =>
      rw [ofChars, List.flatMap_cons, toCharsFrom_ofChar, ← ofChars, ih, List.reverse_cons,
        List.append_assoc, List.singleton_append]

/-- Decoding what has been encoded gives back the characters. -/
theorem toChars_ofChars (text : List Char) : toChars (ofChars text) = text :=
  toCharsFrom_ofChars text []

theorem toString_ofString (text : String) : toString (ofString text) = text := by
  rw [toString, ofString, toChars_ofChars, String.ofList_toList]

end StackProse.Units
