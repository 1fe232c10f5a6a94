import Mathlib
import StackProse.Number.Binary

/-!
# Rounding to doubles

A positive double is `mantissa * 2 ^ exponent`, and the numbers that are rounded to it are those
between the halfway points to its neighbours (`Binary.Rounds`). At a power of two the lower
neighbour is nearer. The halfway points themselves belong to the double with the even mantissa.

`Binary.nearestBits_eq` says that the encoding of the double nearest to a quotient is the encoding
of the double to which the quotient is rounded. There are only two ways to get there: the quotient
has the exponent of the double, or it lies just below a power of two and has the one before.
-/

namespace StackProse.Binary

/-! ### Quotients -/

/-- A quotient is rounded to the natural number that is at most half away, and if it is just half
away, to the even one. -/
theorem roundDiv_eq {num den near : Nat} (hden : 0 < den)
    (hlow : (near : ℚ) - 1 / 2 ≤ num / den) (hhigh : (num : ℚ) / den ≤ near + 1 / 2)
    (htie : near % 2 = 1 → (near : ℚ) - 1 / 2 < num / den ∧ (num : ℚ) / den < near + 1 / 2) :
    roundDiv num den = near := by
  have hpos : (0 : ℚ) < den := Nat.cast_pos.2 hden
  rw [le_div_iff₀ hpos] at hlow
  rw [div_le_iff₀ hpos] at hhigh
  rw [lt_div_iff₀ hpos, div_lt_iff₀ hpos] at htie
  -- the same bounds for twice the numbers, which are whole
  have hlow : 2 * (den * near) ≤ 2 * num + den := by
    have : (2 * (den * near) : ℚ) ≤ 2 * num + den := by linarith
    exact_mod_cast this
  have hhigh : 2 * num ≤ 2 * (den * near) + den := by
    have : (2 * num : ℚ) ≤ 2 * (den * near) + den := by linarith
    exact_mod_cast this
  have htie : near % 2 = 1 →
      2 * (den * near) < 2 * num + den ∧ 2 * num < 2 * (den * near) + den := by
    intro hodd
    obtain ⟨hlt, hgt⟩ := htie hodd
    have hlt : (2 * (den * near) : ℚ) < 2 * num + den := by linarith
    have hgt : (2 * num : ℚ) < 2 * (den * near) + den := by linarith
    exact ⟨by exact_mod_cast hlt, by exact_mod_cast hgt⟩
  have hdiv := Nat.div_add_mod num den
  have hmod := Nat.mod_lt num hden
  rw [roundDiv]
  generalize num / den = quotient at hdiv ⊢
  generalize num % den = rest at hdiv hmod ⊢
  have hle : quotient ≤ near := by
    by_contra hgt
    have := Nat.mul_le_mul_left den (not_le.1 hgt)
    rw [Nat.mul_succ] at this
    omega
  have hge : near ≤ quotient + 1 := by
    by_contra hlt
    have := Nat.mul_le_mul_left den (not_le.1 hlt)
    rw [Nat.mul_succ, Nat.mul_succ] at this
    omega
  rcases Nat.eq_or_lt_of_le hle with rfl | hlt
  · have : (decide (2 * rest < den) || (2 * rest == den && quotient % 2 == 0)) = true := by
      simp only [Bool.or_eq_true, decide_eq_true_eq, Bool.and_eq_true, beq_iff_eq]
      omega
    rw [if_pos this]
  · obtain rfl : near = quotient + 1 := by omega
    rw [Nat.mul_succ] at hlow hhigh htie
    have : ¬ (decide (2 * rest < den) || (2 * rest == den && quotient % 2 == 0)) = true := by
      simp only [Bool.or_eq_true, decide_eq_true_eq, Bool.and_eq_true, beq_iff_eq]
      omega
    rw [if_neg this]

theorem unscale_pos (num : Nat) {den : Nat} (hden : 0 < den) (exponent : Int) :
    0 < (unscale num den exponent).2 := by
  rw [unscale]
  split
  · exact hden
  · exact Nat.mul_pos hden (Nat.pow_pos (by decide))

/-- A power with an integer for its exponent is a quotient of whole numbers, one of them being 1. -/
theorem zpow_eq_div {base : ℚ} (hbase : base ≠ 0) (exponent : Int) :
    base ^ exponent = base ^ exponent.toNat / base ^ (-exponent).toNat := by
  rw [← zpow_natCast, ← zpow_natCast, ← zpow_sub₀ hbase]
  congr 1
  omega

/-- Scaling divides by a power of two. -/
theorem unscale_div (num den : Nat) (exponent : Int) :
    ((unscale num den exponent).1 : ℚ) / (unscale num den exponent).2 =
      num / den / 2 ^ exponent := by
  rw [unscale, zpow_eq_div two_ne_zero]
  by_cases hneg : exponent < 0
  · rw [if_pos hneg, Int.toNat_of_nonpos hneg.le, pow_zero]
    push_cast [Nat.pow_eq]
    field_simp
  · rw [if_neg hneg, Int.toNat_of_nonpos (by omega : -exponent ≤ 0), pow_zero]
    push_cast [Nat.pow_eq]
    field_simp

/-! ### Exponents -/

/-- What the exponent of a quotient is: the mantissa has at most 53 bits, and it has as many unless
the exponent is the least. -/
structure IsExponent (exponent : Int) (value : ℚ) : Prop where
  le : minExponent ≤ exponent
  lt : value < 2 ^ 53 * 2 ^ exponent
  normal : exponent = minExponent ∨ 2 ^ 52 * 2 ^ exponent ≤ value

/-- The bit lengths of a quotient's parts give its size up to a factor of four. -/
theorem quotient_bounds {num den : Nat} (hnum : 0 < num) (hden : 0 < den) :
    (2 : ℚ) ^ 52 * 2 ^ ((num.log2 : Int) - den.log2 - 53) < num / den ∧
      (num / den : ℚ) < 2 ^ 54 * 2 ^ ((num.log2 : Int) - den.log2 - 53) := by
  have hnumLow : (2 : ℚ) ^ num.log2 ≤ num := by exact_mod_cast Nat.log2_self_le hnum.ne'
  have hnumHigh : (num : ℚ) < 2 ^ (num.log2 + 1) := by exact_mod_cast Nat.lt_log2_self
  have hdenLow : (2 : ℚ) ^ den.log2 ≤ den := by exact_mod_cast Nat.log2_self_le hden.ne'
  have hdenHigh : (den : ℚ) < 2 ^ (den.log2 + 1) := by exact_mod_cast Nat.lt_log2_self
  have hpos : (0 : ℚ) < den := Nat.cast_pos.2 hden
  have htwo : (2 : ℚ) ≠ 0 := two_ne_zero
  have hlow : (2 : ℚ) ^ 52 * 2 ^ ((num.log2 : Int) - den.log2 - 53) =
      2 ^ num.log2 / 2 ^ (den.log2 + 1) := by
    rw [eq_div_iff (by positivity)]
    simp only [← zpow_natCast, ← zpow_add₀ htwo]
    congr 1
    push_cast
    ring
  have hhigh : (2 : ℚ) ^ 54 * 2 ^ ((num.log2 : Int) - den.log2 - 53) =
      2 ^ (num.log2 + 1) / 2 ^ den.log2 := by
    rw [eq_div_iff (by positivity)]
    simp only [← zpow_natCast, ← zpow_add₀ htwo]
    congr 1
    push_cast
    ring
  rw [hlow, hhigh]
  constructor
  · calc (2 : ℚ) ^ num.log2 / 2 ^ (den.log2 + 1)
        < 2 ^ num.log2 / den := by gcongr
      _ ≤ num / den := by gcongr
  · calc (num : ℚ) / den
        < 2 ^ (num.log2 + 1) / den := by gcongr
      _ ≤ 2 ^ (num.log2 + 1) / 2 ^ den.log2 := by gcongr

theorem isExponent_exponentOf {num den : Nat} (hnum : 0 < num) (hden : 0 < den) :
    IsExponent (exponentOf num den) (num / den) := by
  let low : Int := (num.log2 : Int) - den.log2 - 53
  have hbounds := quotient_bounds hnum hden
  have hpos : (0 : ℚ) < (unscale num den low).2 := Nat.cast_pos.2 (unscale_pos num hden low)
  have hfits : 2 * fractionCount ≤ (unscale num den low).1 / (unscale num den low).2 ↔
      2 ^ 53 * 2 ^ low ≤ (num / den : ℚ) := by
    have hscaled := unscale_div num den low
    rw [Nat.le_div_iff_mul_le (unscale_pos num hden low), ← le_div_iff₀ (by positivity), ← hscaled,
      le_div_iff₀ hpos]
    norm_cast
  have hstep : (2 : ℚ) ^ (low + 1) = 2 * 2 ^ low := by
    rw [zpow_add₀ two_ne_zero, zpow_one, mul_comm]
  -- the exponent before it is kept above the least one
  have hfitting (fitting : Int) (hlt : (num / den : ℚ) < 2 ^ 53 * 2 ^ fitting)
      (hle : 2 ^ 52 * 2 ^ fitting ≤ (num / den : ℚ)) :
      IsExponent (if fitting < minExponent then minExponent else fitting) (num / den) := by
    by_cases hsmall : fitting < minExponent
    · rw [if_pos hsmall]
      refine ⟨le_rfl, hlt.trans_le ?_, Or.inl rfl⟩
      gcongr
      norm_num
    · rw [if_neg hsmall]
      exact ⟨not_lt.1 hsmall, hlt, Or.inr hle⟩
  by_cases hbig : 2 ^ 53 * 2 ^ low ≤ (num / den : ℚ)
  · have heq : exponentOf num den =
        if low + 1 < minExponent then minExponent else low + 1 := by
      rw [exponentOf, if_pos (hfits.2 hbig)]
    rw [heq]
    apply hfitting
    · rw [hstep]
      linarith [hbounds.2]
    · rw [hstep]
      linarith
  · have heq : exponentOf num den = if low < minExponent then minExponent else low := by
      rw [exponentOf, if_neg (mt hfits.1 hbig)]
    rw [heq]
    exact hfitting low (not_le.1 hbig) hbounds.1.le

/-! ### Doubles -/

/-- The parts are those of a positive finite double. -/
structure IsPositive (x : Binary) : Prop where
  pos : 0 < x.mantissa
  lt : x.mantissa < 2 * fractionCount
  le : minExponent ≤ x.exponent
  /-- Only the smallest doubles have less than 53 bits. -/
  normal : x.exponent = minExponent ∨ fractionCount ≤ x.mantissa

theorem IsPositive.mantissa_add_one_le {x : Binary} (hx : x.IsPositive) :
    (x.mantissa : ℚ) + 1 ≤ 2 ^ 53 := by
  have hlt := hx.lt
  rw [fractionCount] at hlt
  exact_mod_cast hlt

/-- The encoding of a positive finite double. -/
def code (x : Binary) : Nat :=
  (x.exponent - minExponent).toNat * fractionCount + x.mantissa

/-- Whether the lower neighbour is nearer than the upper one. -/
def IsNarrow (x : Binary) : Prop :=
  x.mantissa = fractionCount ∧ minExponent < x.exponent

instance (x : Binary) : Decidable x.IsNarrow :=
  inferInstanceAs (Decidable (_ ∧ _))

/-- How far it is to the lower halfway point, in units of the last place. -/
def gap (x : Binary) : ℚ :=
  if x.IsNarrow then 1 / 4 else 1 / 2

/-- The number is rounded to the double. -/
structure Rounds (x : Binary) (value : ℚ) : Prop where
  low_le : (x.mantissa - x.gap) * 2 ^ x.exponent ≤ value
  le_high : value ≤ (x.mantissa + 1 / 2) * 2 ^ x.exponent
  /-- The halfway points belong to the even mantissas. -/
  odd : x.mantissa % 2 = 1 →
    (x.mantissa - x.gap) * 2 ^ x.exponent < value ∧
      value < (x.mantissa + 1 / 2) * 2 ^ x.exponent

theorem fractionCount_eq : (fractionCount : ℚ) = 2 ^ 52 := by
  norm_num [fractionCount]

theorem gap_le (x : Binary) : x.gap ≤ 1 / 2 := by
  rw [gap]
  split <;> norm_num

theorem Rounds.pos {x : Binary} {value : ℚ} (h : x.Rounds value) (hx : x.IsPositive) :
    0 < value := by
  have hone : (1 : ℚ) ≤ x.mantissa := by exact_mod_cast hx.pos
  have hlow : (0 : ℚ) < (x.mantissa - x.gap) * 2 ^ x.exponent :=
    mul_pos (by linarith [x.gap_le]) (by positivity)
  exact hlow.trans_le h.low_le

/-- A number that is rounded to a double has its exponent, or it lies just below a power of two and
has the one before. -/
theorem Rounds.exponent_cases {x : Binary} {value : ℚ} {exponent : Int} (h : x.Rounds value)
    (hx : x.IsPositive) (hexponent : IsExponent exponent value) :
    exponent = x.exponent ∨ exponent = x.exponent - 1 ∧ x.IsNarrow := by
  have hunit : (0 : ℚ) < 2 ^ x.exponent := by positivity
  have hmono {a b : Int} (hab : a ≤ b) : (2 : ℚ) ^ a ≤ 2 ^ b := zpow_le_zpow_right₀ one_le_two hab
  have hbefore : (2 : ℚ) ^ (x.exponent - 1) = 2 ^ x.exponent / 2 := zpow_sub_one₀ two_ne_zero _
  rcases lt_trichotomy exponent x.exponent with hless | heq | hmore
  · -- the number lies below the numbers with the exponent of the double
    right
    have hlow := h.low_le
    have hlt := hexponent.lt
    have hnormal : fractionCount ≤ x.mantissa :=
      hx.normal.resolve_left (hexponent.le.trans_lt hless).ne'
    have hpow := hmono (Int.le_sub_one_of_lt hless)
    have hnear : x.mantissa = fractionCount := by
      have hgap := mul_le_mul_of_nonneg_right x.gap_le hunit.le
      have hhalf : ((x.mantissa : ℚ) - 1 / 2) * 2 ^ x.exponent < 2 ^ 52 * 2 ^ x.exponent := by
        linarith
      have hupper := lt_of_mul_lt_mul_right hhalf hunit.le
      have hupper : (x.mantissa : ℚ) < fractionCount + 1 := by
        rw [fractionCount_eq]
        linarith
      have : x.mantissa < fractionCount + 1 := by exact_mod_cast hupper
      omega
    have hnarrow : x.IsNarrow := ⟨hnear, hexponent.le.trans_lt hless⟩
    refine ⟨?_, hnarrow⟩
    by_contra hne
    have hpow := hmono (show exponent ≤ x.exponent - 1 - 1 by omega)
    rw [zpow_sub_one₀ two_ne_zero, hbefore] at hpow
    rw [gap, if_pos hnarrow, hnear, fractionCount_eq] at hlow
    linarith
  · exact Or.inl heq
  · -- the number lies above the numbers with the exponent of the double
    exfalso
    have hlow := hexponent.normal.resolve_left (hx.le.trans_lt hmore).ne'
    have hpow := hmono (show x.exponent + 1 ≤ exponent from hmore)
    rw [zpow_add_one₀ two_ne_zero] at hpow
    have hhigh := h.le_high
    have := mul_le_mul_of_nonneg_right hx.mantissa_add_one_le hunit.le
    linarith

/-- The double nearest to a quotient is the one to which the quotient is rounded. -/
theorem nearestBits_eq {x : Binary} (hx : x.IsPositive) (hfinite : x.code < infinityBits)
    {num den : Nat} (hden : 0 < den) (h : x.Rounds (num / den)) :
    nearestBits num den = x.code := by
  have hunit : (0 : ℚ) < 2 ^ x.exponent := by positivity
  have hgap := x.gap_le
  have hnum : 0 < num := by
    by_contra hzero
    obtain rfl : num = 0 := by omega
    have hpos := h.pos hx
    rw [Nat.cast_zero, zero_div] at hpos
    exact lt_irrefl _ hpos
  have hexponent := isExponent_exponentOf hnum hden
  have hscaled := unscale_div num den (exponentOf num den)
  have hpos := unscale_pos num hden (exponentOf num den)
  have hcode (mantissa : Nat)
      (hmantissa : roundDiv (unscale num den (exponentOf num den)).1
        (unscale num den (exponentOf num den)).2 = mantissa)
      (heq : (exponentOf num den - minExponent).toNat * fractionCount + mantissa = x.code) :
      nearestBits num den = x.code := by
    rw [nearestBits, if_neg hnum.ne']
    dsimp only
    rw [hmantissa, heq, if_neg (not_le.2 hfinite)]
  rcases h.exponent_cases hx hexponent with hsame | ⟨hbefore, hnarrow⟩
  · have hhalf : ((x.mantissa : ℚ) - 1 / 2) * 2 ^ x.exponent ≤
        (x.mantissa - x.gap) * 2 ^ x.exponent := by
      gcongr
    apply hcode x.mantissa
    · apply roundDiv_eq hpos
      · rw [hscaled, hsame, le_div_iff₀ hunit]
        exact hhalf.trans h.low_le
      · rw [hscaled, hsame, div_le_iff₀ hunit]
        exact h.le_high
      · intro hodd
        rw [hscaled, hsame, lt_div_iff₀ hunit, div_lt_iff₀ hunit]
        exact ⟨hhalf.trans_lt (h.odd hodd).1, (h.odd hodd).2⟩
    · rw [hsame, code]
  · -- the mantissa is rounded up to the next power of two
    have hpow : (2 : ℚ) ^ x.exponent = 2 ^ (x.exponent - 1) * 2 := by
      rw [← zpow_add_one₀ two_ne_zero, Int.sub_add_cancel]
    have hlow := h.low_le
    have hlt := hexponent.lt
    rw [gap, if_pos hnarrow, hnarrow.1, fractionCount_eq, hpow] at hlow
    rw [hbefore] at hlt hscaled
    apply hcode (2 * fractionCount)
    · apply roundDiv_eq hpos
      · rw [hbefore, hscaled, le_div_iff₀ (by positivity)]
        push_cast [fractionCount_eq]
        linarith
      · rw [hbefore, hscaled, div_le_iff₀ (by positivity)]
        push_cast [fractionCount_eq]
        have : (0 : ℚ) < 2 ^ (x.exponent - 1) := by positivity
        linarith
      · intro hodd
        exact absurd hodd (by decide)
    · have hexponent := hnarrow.2
      rw [hbefore, code, hnarrow.1]
      simp only [minExponent, fractionCount] at hexponent ⊢
      omega

end StackProse.Binary
