import Mathlib
import StackProse.Number.Basic

/-!
# Comparing numbers the other way around

Numbers that are close to each other count as equal, and closeness is measured in doubles: the
distance of two numbers, rounded, against a fraction of the larger one. This module proves that the
measure does not depend on which number comes first, for all doubles, so that comparing two numbers
the other way around gives the reverse answer.

Nothing here says that closeness is transitive; it is not.
-/

namespace StackProse.Number

open Float.Model UnpackedFloat

/-! ### Magnitudes of doubles -/

/-- The magnitude of an encoding does not depend on its sign. -/
theorem abs_unpack_packComponents {format : Format} (sign other : Sign)
    (exponent : BitVec format.exponentBits)
    (mantissa : BitVec format.mantissaBitsWithoutImplicit) :
    (UnpackedFloat.unpack format (packComponents format sign exponent mantissa)).abs =
      (UnpackedFloat.unpack format (packComponents format other exponent mantissa)).abs := by
  simp only [UnpackedFloat.unpack, unpackExponent_packComponents, unpackMantissa_packComponents,
    unpackSign_packComponents]
  split
  · split <;> rfl
  · split
    · split <;> rfl
    · rfl

/-- Doubles of the same magnitude are encoded with the same magnitude. -/
theorem abs_unpack_pack (format : Format) {x y : UnpackedFloat} (h : x.abs = y.abs) :
    (UnpackedFloat.unpack format (UnpackedFloat.pack format x)).abs =
      (UnpackedFloat.unpack format (UnpackedFloat.pack format y)).abs := by
  cases x <;> cases y <;> simp only [UnpackedFloat.abs, reduceCtorEq, finite.injEq] at h
  case notANumber.notANumber => rfl
  case infinity.infinity sign other =>
    exact abs_unpack_packComponents sign other _ _
  case zero.zero sign other =>
    exact abs_unpack_packComponents sign other _ _
  case finite.finite sign m e hm other m' e' hm' =>
    obtain ⟨-, rfl, rfl⟩ := h
    simp only [UnpackedFloat.pack]
    split
    · exact abs_unpack_packComponents sign other _ _
    · split <;> exact abs_unpack_packComponents sign other _ _

theorem abs_round (format : Format) (sign other : Sign) (mantissa : Nat) (exponent : Int) :
    (UnpackedFloat.round format sign mantissa exponent).abs =
      (UnpackedFloat.round format other mantissa exponent).abs := by
  simp only [UnpackedFloat.round, roundWithAccuracy]
  split <;> rfl

theorem abs_normalize_neg (format : Format) (mantissa exponent : Int) (sign : Sign) :
    (UnpackedFloat.normalize format (-mantissa) exponent sign).abs =
      (UnpackedFloat.normalize format mantissa exponent sign).abs := by
  simp only [UnpackedFloat.normalize]
  rcases lt_trichotomy mantissa 0 with hlt | rfl | hgt
  · rw [compare_gt_iff_gt.2 (Int.neg_pos_of_neg hlt), compare_lt_iff_lt.2 hlt]
    exact abs_round format _ _ _ _
  · rfl
  · rw [compare_lt_iff_lt.2 (Int.neg_neg_of_pos hgt), compare_gt_iff_gt.2 hgt, neg_neg]
    exact abs_round format _ _ _ _

/-- The two differences of doubles are of the same magnitude, before they are encoded. -/
theorem abs_unpacked_sub_comm (format : Format) (x y : UnpackedFloat) :
    (UnpackedFloat.sub format x y).abs = (UnpackedFloat.sub format y x).abs := by
  cases x <;> cases y
  case infinity.infinity sign other => cases sign <;> cases other <;> rfl
  case zero.zero sign other => cases sign <;> cases other <;> rfl
  case finite.finite sign m e hm other m' e' hm' =>
    simp only [UnpackedFloat.sub]
    rw [min_comm e' e, ← neg_sub, abs_normalize_neg]
  all_goals rfl

theorem abs_sub_comm (a b : Float) : (a - b).abs = (b - a).abs := by
  have hunpacked := abs_unpack_pack .binary64
    (abs_unpacked_sub_comm .binary64 a.toModel.unpack b.toModel.unpack)
  exact congrArg (fun x => Float.ofModel (Float.Model.pack x)) hunpacked

/-- Unpacking an encoding without its sign gives the magnitude. -/
theorem unpack_unsigned {format : Format} (bits : BitVec format.numBits) :
    UnpackedFloat.unpack format
        (packComponents format .positive (unpackExponent bits) (unpackMantissa bits)) =
      (UnpackedFloat.unpack format bits).abs := by
  simp only [UnpackedFloat.unpack, unpackExponent_packComponents, unpackMantissa_packComponents,
    unpackSign_packComponents, Sign.ofBitVec_toBitVec]
  split
  · split <;> rfl
  · split
    · split <;> rfl
    · rfl

/-- Encoding loses nothing of what has been decoded. -/
theorem unpack_pack_unpack (bits : BitVec Format.binary64.numBits) :
    UnpackedFloat.unpack .binary64
        (UnpackedFloat.pack .binary64 (UnpackedFloat.unpack .binary64 bits)) =
      UnpackedFloat.unpack .binary64 bits := by
  rw [pack_unpack bits]
  split
  · rename_i hnan
    simp only [isNaNBits, decide_eq_true_eq] at hnan
    rw [unpack_packedNaN, UnpackedFloat.unpack]
    simp only [hnan.1, hnan.2, if_true, if_false]
  · rfl

theorem unpack_abs (a : Float) : a.abs.toModel.unpack = a.toModel.unpack.abs := by
  change UnpackedFloat.unpack .binary64 (UnpackedFloat.pack .binary64
    (UnpackedFloat.unpack .binary64 a.toModel.toBits.toBitVec).abs) =
      (UnpackedFloat.unpack .binary64 a.toModel.toBits.toBitVec).abs
  rw [← unpack_unsigned, unpack_pack_unpack]

/-! ### Doubles in the other order -/

theorem unpacked_compare_swap (x y : UnpackedFloat) :
    y.compare x = (x.compare y).map Ordering.swap := by
  cases x <;> cases y
  case infinity.infinity sign other => cases sign <;> cases other <;> rfl
  case infinity.zero sign _ => cases sign <;> rfl
  case infinity.finite sign _ _ _ _ => cases sign <;> rfl
  case zero.infinity _ sign => cases sign <;> rfl
  case finite.infinity _ _ _ _ sign => cases sign <;> rfl
  case zero.finite _ sign _ _ _ => cases sign <;> rfl
  case finite.zero sign _ _ _ _ => cases sign <;> rfl
  case finite.finite sign m e hm other m' e' hm' =>
    have hswap : (Ord.compare e' e).then (Ord.compare m' m) =
        ((Ord.compare e e').then (Ord.compare m m')).swap := by
      rw [Ordering.swap_then, ← Std.OrientedOrd.eq_swap, ← Std.OrientedOrd.eq_swap]
    cases sign <;> cases other <;>
      simp only [UnpackedFloat.compare, Option.map_some, hswap, Ordering.swap_swap] <;> rfl
  all_goals rfl

theorem beq_comm (a b : Float) : (a == b) = (b == a) := by
  change (a.toModel.unpack.compare b.toModel.unpack == some .eq) =
    (b.toModel.unpack.compare a.toModel.unpack == some .eq)
  rw [unpacked_compare_swap a.toModel.unpack b.toModel.unpack]
  cases a.toModel.unpack.compare b.toModel.unpack with
  | none => rfl
  | some ordering => cases ordering <;> rfl

/-- Two magnitudes that compare as equal are the same. -/
theorem abs_eq_of_compare {a b : Float}
    (h : a.toModel.unpack.abs.compare b.toModel.unpack.abs = some .eq) : a.abs = b.abs := by
  have hbeq : a.toModel.unpack.abs.beq b.toModel.unpack.abs := by
    rw [UnpackedFloat.beq, h]
    rfl
  have hpositive (x : UnpackedFloat) : x.abs ≠ .zero .negative := by
    cases x <;> simp [UnpackedFloat.abs]
  obtain ⟨-, -, hcases⟩ := (beq_iff_ne_notANumber_and_eq _ _).1 hbeq
  rcases hcases with hequal | ⟨-, hzero⟩ | ⟨hzero, -⟩
  · exact congrArg (fun x => Float.ofModel (Float.Model.pack x)) hequal
  · exact absurd hzero (hpositive _)
  · exact absurd hzero (hpositive _)

/-- The larger of two magnitudes does not depend on which comes first, as far as both are
numbers. -/
theorem larger_comm {a b : Float}
    (h : a.toModel.unpack.abs.compare b.toModel.unpack.abs ≠ none) :
    larger a.abs b.abs = larger b.abs a.abs := by
  have hlt (x y : Float) : x.abs < y.abs ↔
      x.toModel.unpack.abs.compare y.toModel.unpack.abs = some .lt := by
    rw [← unpack_abs, ← unpack_abs]
    change decide (x.abs.toModel < y.abs.toModel) = true ↔ _
    rw [decide_eq_true_eq]
    change (x.abs.toModel.unpack.compare y.abs.toModel.unpack == some .lt) = true ↔ _
    rw [beq_iff_eq]
  simp only [larger, hlt]
  rw [unpacked_compare_swap a.toModel.unpack.abs b.toModel.unpack.abs]
  cases hcompare : a.toModel.unpack.abs.compare b.toModel.unpack.abs with
  | none => exact absurd hcompare h
  | some ordering =>
      cases ordering with
      | lt => rfl
      | gt => rfl
      | eq => simp [abs_eq_of_compare hcompare]

/-! ### Closeness and the order of numbers -/

theorem notANumber_of_compare_abs {x y : UnpackedFloat} (h : x.abs.compare y.abs = none) :
    x = .notANumber ∨ y = .notANumber := by
  cases x <;> cases y <;> simp [UnpackedFloat.abs, UnpackedFloat.compare] at h ⊢

theorem sub_notANumber (format : Format) (x : UnpackedFloat) :
    UnpackedFloat.sub format x .notANumber = .notANumber := by
  cases x <;> rfl

/-- The distance to what is no number is at most nothing. -/
theorem not_abs_sub_le {a b : Float}
    (h : a.toModel.unpack = .notANumber ∨ b.toModel.unpack = .notANumber) (bound : Float) :
    ¬ (a - b).abs ≤ bound := by
  have hsub : UnpackedFloat.sub .binary64 a.toModel.unpack b.toModel.unpack = .notANumber := by
    rcases h with h | h
    · rw [h]
      rfl
    · rw [h, sub_notANumber]
  have hdistance : (a - b).abs.toModel.unpack = .notANumber := by
    rw [unpack_abs]
    change (UnpackedFloat.unpack .binary64 (UnpackedFloat.pack .binary64
      (UnpackedFloat.sub .binary64 a.toModel.unpack b.toModel.unpack))).abs = _
    rw [hsub]
    exact congrArg UnpackedFloat.abs unpack_packedNaN
  change ¬ decide ((a - b).abs.toModel ≤ bound.toModel) = true
  rw [decide_eq_true_eq]
  change ¬ ((a - b).abs.toModel.unpack.compare bound.toModel.unpack).any (·.isLE) = true
  rw [hdistance]
  simp [UnpackedFloat.compare]

theorem isCloseTo_comm (a b : Float) : isCloseTo a b = isCloseTo b a := by
  unfold isCloseTo
  rw [beq_comm a b]
  cases hcompare : a.toModel.unpack.abs.compare b.toModel.unpack.abs with
  | none =>
      have hnan := notANumber_of_compare_abs hcompare
      rw [decide_eq_false (not_abs_sub_le hnan _), decide_eq_false (not_abs_sub_le hnan.symm _)]
  | some ordering => rw [abs_sub_comm a b, larger_comm (by rw [hcompare]; exact nofun)]

/-- Comparing two numbers the other way around gives the reverse answer. -/
theorem compare_swap (a b : Number) : compare b a = (compare a b).swap := by
  have hcomm : b.isClose a = a.isClose b := isCloseTo_comm _ _
  unfold compare
  rw [hcomm]
  by_cases hclose : a.isClose b
  · rw [if_pos hclose, if_pos hclose]
    rfl
  · rw [if_neg hclose, if_neg hclose]
    exact Std.OrientedOrd.eq_swap

/-- Every number is equal to itself, NaN too. -/
theorem compare_self (a : Number) : compare a a = .eq := by
  unfold compare
  split
  · rfl
  · exact Std.ReflOrd.compare_self

end StackProse.Number
