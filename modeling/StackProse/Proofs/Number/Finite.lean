import Mathlib
import StackProse.Number.Basic

/-!
# Sums that stay finite

A double overflows when it is rounded to an exponent that is too large. This module bounds the exponent
that rounding gives by the magnitude that is rounded, and concludes that a count is always finite
(`Number.isFinite_ofCount`) and that a finite number stays finite when a count is added to it
(`Number.isFinite_add_ofCount`). The largest double is no exception: a count is a machine word, and that
is far less than half the gap behind it.
-/

namespace StackProse.Number

open Float.Model UnpackedFloat

/-- The magnitude that a mantissa and an exponent stand for. -/
def scaled (mantissa : Nat) (exponent : Int) : ℚ :=
  mantissa * 2 ^ exponent

/-- A double is finite, and its exponent is at most `bound`. -/
def Fits (bound : Int) : UnpackedFloat → Prop
  | .notANumber => False
  | .infinity _ => False
  | .zero _ => True
  | .finite _ _ exponent _ => exponent ≤ bound

theorem Fits.isFinite {bound : Int} {x : UnpackedFloat} (h : Fits bound x) : x.isFinite = true := by
  cases x with
  | notANumber | infinity => exact h.elim
  | zero | finite => rfl

/-- The magnitude stays below the halfway point behind the largest double whose exponent is `bound`. -/
def Small (bound : Int) (magnitude : ℚ) : Prop :=
  magnitude + 2 ^ (bound - 1) < 2 ^ (bound + 53)

variable {mantissa : Nat} {exponent bound : Int}

theorem scaled_shiftLeft (mantissa : Nat) (exponent : Int) (shift : Nat) :
    scaled (mantissa <<< shift) (exponent - shift) = scaled mantissa exponent := by
  rw [scaled, scaled, Nat.shiftLeft_eq, zpow_sub₀ two_ne_zero, zpow_natCast, Nat.cast_mul,
    Nat.cast_pow, Nat.cast_ofNat]
  field_simp

theorem Small.lt {magnitude : ℚ} (h : Small bound magnitude) : magnitude < 2 ^ (bound + 53) :=
  (lt_add_of_pos_right _ (zpow_pos two_pos _)).trans h

theorem Small.of_le {magnitude less : ℚ} (h : Small bound magnitude) (hle : less ≤ magnitude) :
    Small bound less :=
  (add_le_add_left hle _).trans_lt h

/-! ### Rounding -/

theorem mantissa_shiftRight (extended : ExtendedMantissa) (shift : Nat) :
    (extended >>> shift).mantissa = extended.mantissa / 2 ^ shift := by
  induction shift with
  | zero => exact (Nat.div_one _).symm
  | succ shift ih =>
      change (extended >>> shift).mantissa / 2 = _
      rw [ih, Nat.div_div_eq_div_mul, Nat.pow_succ]

/-- Rounding after a shift is rounding to the nearest half. -/
theorem two_mul_roundedMantissa_le (extended : ExtendedMantissa) :
    2 * extended.shiftRightOne.roundedMantissa ≤ extended.mantissa + 1 := by
  obtain ⟨mantissa, roundBit, stickyBit⟩ := extended
  have hparity := Nat.mod_two_eq_zero_or_one mantissa
  cases hsticky : roundBit || stickyBit <;> rcases hparity with hbit | hbit <;>
    simp [ExtendedMantissa.shiftRightOne, ExtendedMantissa.roundedMantissa,
      ExtendedMantissa.accuracy, Accuracy.roundToNearestEven, hsticky, hbit] <;> omega

/-- Rounding adds at most half a unit in the last place that is kept. -/
theorem pow_mul_roundedMantissa_le (mantissa shift : Nat) :
    2 ^ (shift + 1) *
        (ExtendedMantissa.ofMantissaAndAccuracy mantissa .exact >>> shift).roundedMantissa ≤
      2 * mantissa + 2 ^ shift := by
  cases shift with
  | zero => exact Nat.le_add_right _ _
  | succ shift =>
      have hhalf := two_mul_roundedMantissa_le
        (ExtendedMantissa.ofMantissaAndAccuracy mantissa .exact >>> shift)
      rw [mantissa_shiftRight] at hhalf
      have hfloor : 2 ^ shift * (mantissa / 2 ^ shift) ≤ mantissa := Nat.mul_div_le _ _
      calc 2 ^ (shift + 1 + 1) * (ExtendedMantissa.ofMantissaAndAccuracy mantissa .exact >>>
              (shift + 1)).roundedMantissa
          = 2 ^ (shift + 1) * (2 * (ExtendedMantissa.ofMantissaAndAccuracy mantissa .exact >>>
              (shift + 1)).roundedMantissa) := by
            rw [Nat.pow_succ, Nat.mul_assoc]
        _ ≤ 2 ^ (shift + 1) * (mantissa / 2 ^ shift + 1) := Nat.mul_le_mul_left _ hhalf
        _ = 2 * (2 ^ shift * (mantissa / 2 ^ shift)) + 2 ^ (shift + 1) := by ring
        _ ≤ 2 * mantissa + 2 ^ (shift + 1) := by omega

/-- The same for magnitudes. -/
theorem scaled_roundedMantissa_le (mantissa : Nat) (exponent : Int) (shift : Nat) :
    scaled (ExtendedMantissa.ofMantissaAndAccuracy mantissa .exact >>> shift).roundedMantissa
        (exponent + shift) ≤
      scaled mantissa exponent + 2 ^ (exponent + shift - 1) := by
  have hrounded : (2 : ℚ) ^ (shift + 1) *
      (ExtendedMantissa.ofMantissaAndAccuracy mantissa .exact >>> shift).roundedMantissa ≤
        2 * mantissa + 2 ^ shift := by
    exact_mod_cast pow_mul_roundedMantissa_le mantissa shift
  have hunit : (0 : ℚ) < 2 ^ exponent := zpow_pos two_pos _
  rw [scaled, scaled, zpow_sub_one₀ two_ne_zero, zpow_add₀ two_ne_zero, zpow_natCast]
  rw [pow_succ] at hrounded
  nlinarith [mul_le_mul_of_nonneg_right hrounded hunit.le]

/-- What is rounded gets no larger exponent than its magnitude asks for. -/
theorem targetExponent_le (hmantissa : mantissa ≠ 0)
    (hsmall : scaled mantissa exponent < 2 ^ (bound + 53)) (hbound : -1074 ≤ bound) :
    Format.binary64.targetExponent (totalExponent mantissa exponent) ≤ bound := by
  have hlog : (2 : ℚ) ^ (mantissa.log2 + exponent : Int) ≤ scaled mantissa exponent := by
    rw [zpow_add₀ two_ne_zero, zpow_natCast, scaled]
    have hpow : (2 : ℚ) ^ mantissa.log2 ≤ mantissa := by
      exact_mod_cast Nat.log2_self_le hmantissa
    exact mul_le_mul_of_nonneg_right hpow (zpow_pos two_pos _).le
  have hless := (zpow_lt_zpow_iff_right₀ one_lt_two).1 (hlog.trans_lt hsmall)
  have hminimum : Format.binary64.minExponent = -1074 := by decide
  have hbits : Format.binary64.mantissaBits = 53 := by decide
  rw [Format.targetExponent, totalExponent, hminimum, hbits]
  omega

/-- A shift to the exponent that is asked for. -/
theorem exponent_shift_le (hmantissa : mantissa ≠ 0) (hexponent : exponent ≤ bound)
    (hsmall : scaled mantissa exponent < 2 ^ (bound + 53)) (hbound : -1074 ≤ bound) :
    (shiftToTargetExponent .binary64 mantissa exponent .exact).2 ≤ bound := by
  have htarget := targetExponent_le hmantissa hsmall hbound
  simp only [shiftToTargetExponent, shiftToExponent]
  omega

theorem mantissa_shift_zero (exponent : Int) :
    (shiftToTargetExponent .binary64 0 exponent .exact).1.mantissa = 0 := by
  simp only [shiftToTargetExponent, shiftToExponent, mantissa_shiftRight]
  exact Nat.zero_div _

theorem fits_roundWithAccuracy (sign : Sign) (hmantissa : mantissa ≠ 0) (hexponent : exponent ≤ bound)
    (hsmall : Small bound (scaled mantissa exponent)) (hbound : -1074 ≤ bound) :
    Fits bound (roundWithAccuracy .binary64 sign mantissa exponent .exact) := by
  have hfirst := exponent_shift_le hmantissa hexponent hsmall.lt hbound
  have hrounded : scaled (shiftToTargetExponent .binary64 mantissa exponent .exact).1.roundedMantissa
      (shiftToTargetExponent .binary64 mantissa exponent .exact).2 < 2 ^ (bound + 53) := by
    calc _ ≤ scaled mantissa exponent +
          2 ^ ((shiftToTargetExponent .binary64 mantissa exponent .exact).2 - 1) :=
        scaled_roundedMantissa_le mantissa exponent _
      _ ≤ scaled mantissa exponent + 2 ^ (bound - 1) := by
        gcongr
        exact one_le_two
      _ < 2 ^ (bound + 53) := hsmall
  rw [roundWithAccuracy]
  generalize shiftToTargetExponent .binary64 mantissa exponent .exact = shifted at hfirst hrounded ⊢
  dsimp only
  split
  · trivial
  · rename_i hkept
    -- a mantissa that is rounded to zero stays zero
    have hne : shifted.1.roundedMantissa ≠ 0 := by
      intro hzero
      rw [hzero] at hkept
      exact hkept (mantissa_shift_zero _)
    exact exponent_shift_le hne hfirst hrounded hbound

theorem fits_round (sign : Sign) (hmantissa : mantissa ≠ 0)
    (hsmall : Small bound (scaled mantissa exponent)) (hbound : -1074 ≤ bound) :
    Fits bound (UnpackedFloat.round .binary64 sign mantissa exponent) := by
  have htarget := targetExponent_le hmantissa hsmall.lt hbound
  rw [UnpackedFloat.round]
  refine fits_roundWithAccuracy sign ?_ ?_ ?_ hbound
  · rw [Nat.shiftLeft_eq]
    exact Nat.mul_ne_zero hmantissa (Nat.two_pow_pos _).ne'
  · omega
  · rw [scaled_shiftLeft]
    exact hsmall

theorem fits_normalize {whole : Int} (sign : Sign)
    (hsmall : Small bound (scaled whole.natAbs exponent)) (hbound : -1074 ≤ bound) :
    Fits bound (normalize .binary64 whole exponent sign) := by
  simp only [UnpackedFloat.normalize]
  rcases lt_trichotomy whole 0 with hlt | rfl | hgt
  · rw [compare_lt_iff_lt.2 hlt]
    have habs : (-whole).toNat = whole.natAbs := by omega
    rw [← habs] at hsmall
    exact fits_round _ (by omega) hsmall hbound
  · trivial
  · rw [compare_gt_iff_gt.2 hgt]
    have habs : whole.toNat = whole.natAbs := by omega
    rw [← habs] at hsmall
    exact fits_round _ (by omega) hsmall hbound

/-! ### Encoding -/

theorem fits_unpack_packComponents (sign : Sign) (field : Nat) (fraction : BitVec 52)
    (hfield : field < 2047) (hlow : -1074 ≤ bound) (hhigh : (field : Int) - 1075 ≤ bound) :
    Fits bound (UnpackedFloat.unpack .binary64
      (packComponents .binary64 sign (BitVec.ofNat 11 field) fraction)) := by
  have hcode : (BitVec.ofNat 11 field).toNat = field := by
    rw [BitVec.toNat_ofNat, Nat.mod_eq_of_lt (by omega)]
  have hne : BitVec.ofNat 11 field ≠ -1#11 := by
    intro heq
    rw [heq] at hcode
    have hlast : (-1#11 : BitVec 11).toNat = 2047 := by decide
    omega
  simp only [UnpackedFloat.unpack, unpackExponent_packComponents, unpackMantissa_packComponents]
  rw [if_neg hne]
  split
  · rename_i hzero
    split
    · trivial
    · change ((BitVec.ofNat 11 field).toNat : Int) - (1023 + 52) + 1 ≤ bound
      rw [hzero]
      exact hlow
  · change ((BitVec.ofNat 11 field).toNat : Int) - (1023 + 52) ≤ bound
    rw [hcode]
    exact hhigh

/-- A double that is not too large is still finite when it has been encoded. -/
theorem fits_unpack_pack {x : UnpackedFloat} (h : Fits bound x) (hlow : -1074 ≤ bound)
    (hhigh : bound ≤ 971) :
    Fits bound (UnpackedFloat.unpack .binary64 (UnpackedFloat.pack .binary64 x)) := by
  cases x with
  | notANumber | infinity => exact h.elim
  | zero sign => exact fits_unpack_packComponents sign 0 0#52 (by decide) hlow (by omega)
  | finite sign mantissa exponent hpos =>
      change exponent ≤ bound at h
      have hbias : (Format.binary64.exponentBias : Int) = 1023 := by decide
      simp only [UnpackedFloat.pack, hbias]
      rw [if_neg (by omega)]
      split
      · exact fits_unpack_packComponents sign _ _ (by omega) hlow (by omega)
      · exact fits_unpack_packComponents sign 0 _ (by decide) hlow (by omega)

/-- Doubles have a mantissa of 53 bits and an exponent of at most 971. -/
theorem unpack_bounds {bits : BitVec Format.binary64.numBits} {sign : Sign} {hpos : 0 < mantissa}
    (h : UnpackedFloat.unpack .binary64 bits = .finite sign mantissa exponent hpos) :
    mantissa < 2 ^ 53 ∧ exponent ≤ 971 := by
  have hfraction : (unpackMantissa bits).toNat < 2 ^ 52 := (unpackMantissa bits).isLt
  simp only [UnpackedFloat.unpack] at h
  split at h
  · split at h <;> contradiction
  · rename_i hne
    have hfield : (unpackExponent bits).toNat < 2047 := by
      have hcode : (unpackExponent bits).toNat < 2048 := (unpackExponent bits).isLt
      have hlast : (unpackExponent bits).toNat ≠ 2047 := fun heq => hne (BitVec.eq_of_toNat_eq heq)
      omega
    have hbias : (Format.binary64.exponentBias : Int) = 1023 := by decide
    rw [hbias] at h
    split at h
    · rename_i hzero
      rw [hzero] at h
      split at h
      · contradiction
      · injection h with _ hmantissa hexponent
        rw [← hmantissa, ← hexponent]
        exact ⟨hfraction.trans (by decide), by decide⟩
    · injection h with _ hmantissa hexponent
      constructor
      · rw [← hmantissa]
        exact (1#1 ++ unpackMantissa bits).isLt
      · omega

theorem fits_of_isFinite {x : Float} (h : x.isFinite = true) : Fits 971 x.toModel.unpack := by
  have hfinite : x.toModel.unpack.isFinite = true := h
  cases hunpack : x.toModel.unpack with
  | notANumber | infinity =>
      rw [hunpack] at hfinite
      contradiction
  | zero => trivial
  | finite sign mantissa exponent hpos => exact (unpack_bounds hunpack).2

/-! ### Sums -/

theorem scaled_le (hmantissa : mantissa < 2 ^ 53) (hexponent : exponent ≤ bound) :
    scaled mantissa exponent ≤ (2 ^ 53 - 1) * 2 ^ bound := by
  have hcast : (mantissa : ℚ) ≤ 2 ^ 53 - 1 := by
    rw [le_sub_iff_add_le]
    exact_mod_cast hmantissa
  rw [scaled]
  gcongr
  exact one_le_two

theorem scaled_natAbs_add_le (sign other : Sign) (first second : Nat) (exponent : Int) :
    scaled (sign.apply first + other.apply second).natAbs exponent ≤
      scaled first exponent + scaled second exponent := by
  have habs : (sign.apply first + other.apply second).natAbs ≤ first + second := by
    cases sign <;> cases other <;> simp only [Sign.apply] <;> omega
  rw [scaled, scaled, scaled, ← add_mul]
  gcongr
  exact_mod_cast habs

theorem scaled_decreaseExponent {target : Int} (mantissa : Nat) (h : target ≤ exponent) :
    scaled (decreaseExponent mantissa exponent target).1 target = scaled mantissa exponent := by
  obtain ⟨shift, rfl⟩ := Int.le.dest h
  have hshift : (target + shift - target).toNat = shift := by omega
  rw [← scaled_shiftLeft mantissa _ shift, add_sub_cancel_right]
  simp only [decreaseExponent, hshift]

/-- The largest double and the largest count. -/
theorem small_largest_add :
    Small 971 ((2 ^ 53 - 1) * 2 ^ (971 : Int) + (2 ^ 53 - 1) * 2 ^ (12 : Int)) := by
  have hcount : ((2 : ℚ) ^ 53 - 1) * 2 ^ (12 : Int) < 2 ^ (970 : Int) := by
    calc ((2 : ℚ) ^ 53 - 1) * 2 ^ (12 : Int) < 2 ^ (65 : Int) := by norm_num
      _ ≤ 2 ^ (970 : Int) := zpow_le_zpow_right₀ one_le_two (by decide)
  have hunit : (2 : ℚ) ^ (971 : Int) = 2 * 2 ^ (970 : Int) := zpow_one_add₀ two_ne_zero 970
  have htop : (2 : ℚ) ^ ((971 : Int) + 53) = 2 ^ (971 : Int) * 2 ^ (53 : Int) :=
    zpow_add₀ two_ne_zero _ _
  rw [Small, htop, hunit]
  change _ + (2 : ℚ) ^ (970 : Int) < _
  generalize (2 : ℚ) ^ (970 : Int) = half at hcount ⊢
  norm_num at hcount ⊢
  linarith

/-- A double of the size of a count does not make another one overflow. -/
theorem fits_add {a b : Float} (ha : Fits 971 a.toModel.unpack) (hb : Fits 12 b.toModel.unpack) :
    Fits 971 (UnpackedFloat.add .binary64 a.toModel.unpack b.toModel.unpack) := by
  cases hfirst : a.toModel.unpack with
  | notANumber | infinity => exact (hfirst ▸ ha).elim
  | zero sign =>
      cases hsecond : b.toModel.unpack with
      | notANumber | infinity => exact (hsecond ▸ hb).elim
      | zero other => cases sign <;> cases other <;> trivial
      | finite other mantissa exponent hpos => exact (unpack_bounds hsecond).2
  | finite sign mantissa exponent hpos =>
      obtain ⟨hmantissa, hexponent⟩ := unpack_bounds hfirst
      cases hsecond : b.toModel.unpack with
      | notANumber | infinity => exact (hsecond ▸ hb).elim
      | zero other => exact hexponent
      | finite other mantissa' exponent' hpos' =>
          have hexponent' : exponent' ≤ 12 := by
            rw [hsecond] at hb
            exact hb
          refine fits_normalize _ (small_largest_add.of_le ?_) (by decide)
          calc _ ≤ scaled (decreaseExponent mantissa exponent (min exponent exponent')).1 _ +
                scaled (decreaseExponent mantissa' exponent' (min exponent exponent')).1 _ :=
              scaled_natAbs_add_le _ _ _ _ _
            _ = scaled mantissa exponent + scaled mantissa' exponent' := by
              rw [scaled_decreaseExponent mantissa (min_le_left _ _),
                scaled_decreaseExponent mantissa' (min_le_right _ _)]
            _ ≤ _ := add_le_add (scaled_le hmantissa hexponent)
              (scaled_le (unpack_bounds hsecond).1 hexponent')

theorem fits_ofCount (count : Nat) : Fits 12 (ofCount count).toModel.unpack := by
  refine fits_unpack_pack ?_ (by decide) (by decide)
  refine fits_normalize _ ?_ (by decide)
  have hword : ((UInt64.ofNat count).toNat : ℚ) < 2 ^ 64 := by
    exact_mod_cast (UInt64.ofNat count).toNat_lt
  rw [Int.natAbs_natCast, Small, scaled]
  generalize ((UInt64.ofNat count).toNat : ℚ) = word at hword ⊢
  norm_num at hword ⊢
  linarith

/-- Counts are finite. -/
theorem isFinite_ofCount (count : Nat) : (ofCount count).isFinite = true :=
  (fits_ofCount count).isFinite

/-- A finite number stays finite when a count is added to it. -/
theorem isFinite_add_ofCount {x : Float} (h : x.isFinite = true) (count : Nat) :
    (x + ofCount count).isFinite = true :=
  (fits_unpack_pack (fits_add (fits_of_isFinite h) (fits_ofCount count)) (by decide)
    (by decide)).isFinite

end StackProse.Number
