import Mathlib
import StackProse.Number.Decimal
import StackProse.Proofs.Number.Rounding

/-!
# The fewest digits

`Decimal.shortest` looks for a decimal between the halfway points around a double, on one grid after
the other. This module proves that it finds one: on the grid of seventeen digits at the latest, for
that grid is finer than the doubles are (`Neighbourhood.onGrid?_isSome`). So the decimal is rounded
to the double that it was made from (`Decimal.rounds_shortest`).
-/

namespace StackProse

namespace Decimal

/-! ### Digits -/

theorem valueOf_eq (digits : List Char) : valueOf digits = Nat.ofDigitChars 10 digits 0 :=
  rfl

theorem valueOf_digitsOf (n : Nat) : valueOf (digitsOf n) = n :=
  Nat.ofDigitChars_ten_toDigits

theorem valueOf_append_zeros (digits : List Char) (zeros : Nat) :
    valueOf (digits ++ List.replicate zeros '0') = valueOf digits * 10 ^ zeros := by
  rw [valueOf_eq, Nat.ofDigitChars_append, Nat.ofDigitChars_replicate_zero, mul_comm]
  rfl

theorem valueOf_zeros_append (zeros : Nat) (digits : List Char) :
    valueOf (List.replicate zeros '0' ++ digits) = valueOf digits := by
  rw [valueOf_eq, Nat.ofDigitChars_append, Nat.ofDigitChars_replicate_zero, mul_zero]
  rfl

theorem lt_pow_digitCount (n : Nat) : n < 10 ^ digitCount n := by
  rw [digitCount]
  split
  · rename_i hzero
    rw [hzero]
    decide
  · exact (Nat.length_toDigits_le_iff (by decide) Nat.length_toDigits_pos).1 le_rfl

theorem pow_digitCount_le {n : Nat} (hn : 0 < n) : 10 ^ (digitCount n - 1) ≤ n := by
  rw [digitCount, if_neg hn.ne']
  by_contra hlt
  rw [not_le] at hlt
  have hpos : 0 < (digitsOf n).length := Nat.length_toDigits_pos
  rcases Nat.eq_zero_or_pos ((digitsOf n).length - 1) with hzero | hmore
  · rw [hzero, pow_zero] at hlt
    omega
  · have hle := (Nat.length_toDigits_le_iff (by decide) hmore).2 hlt
    rw [← digitsOf] at hle
    omega

theorem digitCount_pos {n : Nat} (hn : 0 < n) : 0 < digitCount n := by
  rw [digitCount, if_neg hn.ne']
  exact Nat.length_toDigits_pos

/-- The place of the point is not too far to the left. -/
theorem pow_pointOf_le {num den : Nat} (hnum : 0 < num) (hden : 0 < den) :
    (10 : ℚ) ^ (pointOf num den - 1) ≤ num / den := by
  have hpos : (0 : ℚ) < den := Nat.cast_pos.2 hden
  rw [pointOf]
  by_cases hle : den ≤ num
  · have hquotient : 0 < num / den := Nat.div_pos hle hden
    have hcount := digitCount_pos hquotient
    have hpoint : (digitCount (num / den) : Int) - 1 = (digitCount (num / den) - 1 : Nat) := by
      omega
    rw [if_pos hle, hpoint, zpow_natCast]
    calc (10 : ℚ) ^ (digitCount (num / den) - 1)
        ≤ (num / den : Nat) := by exact_mod_cast pow_digitCount_le hquotient
      _ ≤ num / den := Nat.cast_div_le
  · have hbound : den ≤ 10 ^ digitCount ((den - 1) / num) * num := by
      have := (Nat.div_lt_iff_lt_mul hnum).1 (lt_pow_digitCount ((den - 1) / num))
      omega
    have hpoint : (1 - digitCount ((den - 1) / num) : Int) - 1 =
        -(digitCount ((den - 1) / num) : Int) := by
      omega
    rw [if_neg hle, hpoint, zpow_neg, zpow_natCast, le_div_iff₀ hpos,
      inv_mul_le_iff₀ (by positivity)]
    exact_mod_cast hbound

/-! ### Neighbourhoods -/

variable {x : Binary}

namespace Neighbourhood

variable {n : Neighbourhood}

/-- The bounds of the neighbourhood are those of the numbers that are rounded to the double. -/
structure Surrounds (n : Neighbourhood) (x : Binary) : Prop where
  den_pos : 0 < n.den
  low : (n.low : ℚ) / n.den = (x.mantissa - x.gap) * 2 ^ x.exponent
  value : (n.value : ℚ) / n.den = x.mantissa * 2 ^ x.exponent
  high : (n.high : ℚ) / n.den = (x.mantissa + 1 / 2) * 2 ^ x.exponent
  closed : n.closed = true ↔ x.mantissa % 2 = 0

/-- One number comes before the other, or is the same where the halfway points count. -/
def Before (n : Neighbourhood) (first second : ℚ) : Prop :=
  if n.closed then first ≤ second else first < second

theorem Before.le {first second : ℚ} (h : n.Before first second) : first ≤ second := by
  rw [Before] at h
  split at h
  · exact h
  · exact h.le

theorem le_of_not_before {first second : ℚ} (h : ¬ n.Before first second) : second ≤ first := by
  rw [Before] at h
  split at h
  · exact (not_le.1 h).le
  · exact not_lt.1 h

/-- The lower neighbour is chosen only if it hits, and so is the upper one. -/
theorem choice_cases {lowHits highHits nearer : Prop} [Decidable highHits]
    [Decidable (lowHits ∧ ¬ (highHits ∧ nearer))] {below above : Nat} :
    let choice := if lowHits ∧ ¬ (highHits ∧ nearer) then some below
      else if highHits then some above else none
    choice = some below ∧ lowHits ∨ choice = some above ∧ highHits ∨
      choice = none ∧ ¬ lowHits ∧ ¬ highHits := by
  dsimp only
  by_cases hlow : lowHits ∧ ¬ (highHits ∧ nearer)
  · rw [if_pos hlow]
    exact Or.inl ⟨rfl, hlow.1⟩
  · rw [if_neg hlow]
    by_cases hhigh : highHits
    · rw [if_pos hhigh]
      exact Or.inr (Or.inl ⟨rfl, hhigh⟩)
    · rw [if_neg hhigh]
      refine Or.inr (Or.inr ⟨rfl, ?_, hhigh⟩)
      intro hhits
      exact hlow ⟨hhits, fun hboth => hhigh hboth.1⟩

section

variable (hden : 0 < n.den) (place : Int) (index bound : Nat)

include hden

/-- To compare a decimal with a bound, both are multiplied until they are whole. -/
theorem grid_le :
    index * (n.den * Nat.pow 10 place.toNat) ≤ bound * Nat.pow 10 (-place).toNat ↔
      (index * 10 ^ place : ℚ) ≤ bound / n.den := by
  have hpos : (0 : ℚ) < n.den := Nat.cast_pos.2 hden
  rw [Binary.zpow_eq_div (by norm_num), le_div_iff₀ hpos, mul_div_assoc', div_mul_eq_mul_div,
    div_le_iff₀ (by positivity), mul_right_comm, mul_assoc]
  norm_cast

theorem le_grid :
    bound * Nat.pow 10 (-place).toNat ≤ index * (n.den * Nat.pow 10 place.toNat) ↔
      (bound / n.den : ℚ) ≤ index * 10 ^ place := by
  have hpos : (0 : ℚ) < n.den := Nat.cast_pos.2 hden
  rw [Binary.zpow_eq_div (by norm_num), div_le_iff₀ hpos, mul_div_assoc', div_mul_eq_mul_div,
    le_div_iff₀ (by positivity), mul_right_comm, mul_assoc]
  norm_cast

/-- What is found on a grid: one of the neighbours of the value, if it lies between the halfway
points, and nothing if neither does. -/
theorem onGrid?_cases (point : Int) (count : Nat) :
    ∃ below : Nat, (below * 10 ^ (point - count) : ℚ) ≤ n.value / n.den ∧
      (n.value / n.den : ℚ) ≤ (below + 1 : Nat) * 10 ^ (point - count) ∧
      (n.onGrid? point count = some below ∧
          n.Before (n.low / n.den) (below * 10 ^ (point - count)) ∨
        n.onGrid? point count = some (below + 1) ∧
          n.Before ((below + 1 : Nat) * 10 ^ (point - count)) (n.high / n.den) ∨
        n.onGrid? point count = none ∧
          ¬ n.Before (n.low / n.den) (below * 10 ^ (point - count)) ∧
          ¬ n.Before ((below + 1 : Nat) * 10 ^ (point - count)) (n.high / n.den)) := by
  let unit := n.den * Nat.pow 10 (point - count).toNat
  let scale := Nat.pow 10 (-(point - count)).toNat
  let below := n.value * scale / unit
  have hunit : 0 < unit := Nat.mul_pos hden (Nat.pow_pos (by decide))
  have hbelow : below * unit ≤ n.value * scale := Nat.div_mul_le_self _ _
  have habove : n.value * scale ≤ (below + 1) * unit :=
    ((Nat.div_lt_iff_lt_mul hunit).1 (Nat.lt_succ_self _)).le
  have hlow : (if n.closed then n.low * scale ≤ below * unit else n.low * scale < below * unit) ↔
      n.Before (n.low / n.den) (below * 10 ^ (point - count)) := by
    rw [Before]
    split
    · exact le_grid hden _ _ _
    · rw [← not_le, ← not_le, grid_le hden]
  have hhigh : (if n.closed then (below + 1) * unit ≤ n.high * scale
        else (below + 1) * unit < n.high * scale) ↔
      n.Before ((below + 1 : Nat) * 10 ^ (point - count)) (n.high / n.den) := by
    rw [Before]
    split
    · exact grid_le hden _ _ _
    · rw [← not_le, ← not_le, le_grid hden]
  refine ⟨below, (grid_le hden _ _ _).1 hbelow, (le_grid hden _ _ _).1 habove, ?_⟩
  rw [← hlow, ← hhigh]
  exact choice_cases

end

/-- What is found on a grid is rounded to the double. -/
theorem Surrounds.rounds_onGrid? (hn : n.Surrounds x) {point : Int} {count found : Nat}
    (h : n.onGrid? point count = some found) :
    x.Rounds (found * 10 ^ (point - count)) := by
  have hden : (0 : ℚ) < n.den := Nat.cast_pos.2 hn.den_pos
  have hunit : (0 : ℚ) < 2 ^ x.exponent := by positivity
  have hgap : 0 < x.gap := by
    rw [Binary.gap]
    split <;> norm_num
  have hlow : (n.low / n.den : ℚ) < n.value / n.den := by
    rw [hn.low, hn.value]
    gcongr
    linarith
  have hhigh : (n.value / n.den : ℚ) < n.high / n.den := by
    rw [hn.high, hn.value]
    gcongr
    linarith
  have hopen (hodd : x.mantissa % 2 = 1) {first second : ℚ} (hbefore : n.Before first second) :
      first < second := by
    have hclosed : ¬ n.closed = true := by
      rw [hn.closed, hodd]
      decide
    rw [Before, if_neg hclosed] at hbefore
    exact hbefore
  obtain ⟨below, hbelow, habove, hcases⟩ := onGrid?_cases hn.den_pos point count
  rw [h] at hcases
  rcases hcases with ⟨hfound, hbefore⟩ | ⟨hfound, hbefore⟩ | ⟨hfound, -⟩
  · obtain rfl := Option.some.inj hfound
    refine ⟨?_, ?_, ?_⟩
    · rw [← hn.low]
      exact hbefore.le
    · rw [← hn.high]
      exact (hbelow.trans_lt hhigh).le
    · intro hodd
      rw [← hn.low, ← hn.high]
      exact ⟨hopen hodd hbefore, hbelow.trans_lt hhigh⟩
  · obtain rfl := Option.some.inj hfound
    refine ⟨?_, ?_, ?_⟩
    · rw [← hn.low]
      exact (hlow.trans_le habove).le
    · rw [← hn.high]
      exact hbefore.le
    · intro hodd
      rw [← hn.low, ← hn.high]
      exact ⟨hlow.trans_le habove, hopen hodd hbefore⟩
  · contradiction

/-- A grid that has no decimal of the neighbourhood is wider than the neighbourhood. -/
theorem onGrid?_eq_none (hden : 0 < n.den) {point : Int} {count : Nat}
    (h : n.onGrid? point count = none) :
    (n.high / n.den : ℚ) - n.low / n.den ≤ 10 ^ (point - count) := by
  obtain ⟨below, -, -, hcases⟩ := onGrid?_cases hden point count
  rcases hcases with ⟨hfound, -⟩ | ⟨hfound, -⟩ | ⟨-, hlow, hhigh⟩
  · rw [h] at hfound
    contradiction
  · rw [h] at hfound
    contradiction
  · have hlow := le_of_not_before hlow
    have hhigh := le_of_not_before hhigh
    push_cast at hhigh
    linarith

/-- Seventeen digits are enough: on that grid one of the neighbours of the value is found. -/
theorem Surrounds.onGrid?_isSome (hn : n.Surrounds x) (hx : x.IsPositive) {point : Int}
    (hpoint : (10 : ℚ) ^ (point - 1) ≤ n.value / n.den) :
    (n.onGrid? point 17).isSome := by
  by_contra hnone
  have hwide := onGrid?_eq_none hn.den_pos (Option.not_isSome_iff_eq_none.1 hnone)
  have hunit : (0 : ℚ) < 2 ^ x.exponent := by positivity
  have hplace : (10 : ℚ) ^ (point - (17 : Nat)) = 10 ^ (point - 1) / 10 ^ 16 := by
    rw [← zpow_natCast, ← zpow_sub₀ (by norm_num)]
    congr 1
    push_cast
    ring
  rw [hn.value] at hpoint
  rw [hn.high, hn.low, hplace] at hwide
  have hsteps : (1 / 2 + x.gap) * 2 ^ x.exponent ≤ x.mantissa / 10 ^ 16 * 2 ^ x.exponent := by
    linarith
  have hsteps := le_of_mul_le_mul_right hsteps hunit
  rw [Binary.gap] at hsteps
  split at hsteps
  · rename_i hnarrow
    rw [hnarrow.1, Binary.fractionCount_eq] at hsteps
    norm_num at hsteps
  · linarith [hx.mantissa_add_one_le]

/-- The search ends on a grid with a decimal of the neighbourhood, if there is one to come. -/
theorem onGrid?_search {point : Int} {count fuel last : Nat} (hfirst : count ≤ last)
    (hlast : last < count + fuel) (hsome : (n.onGrid? point last).isSome) :
    n.onGrid? point (n.search point count fuel).2 = some (n.search point count fuel).1 := by
  induction fuel generalizing count with
  | zero => omega
  | succ fuel ih =>
      rw [search]
      cases hfound : n.onGrid? point count with
      | some found => exact hfound
      | none =>
          have hne : count ≠ last := by
            rintro rfl
            rw [hfound] at hsome
            contradiction
          exact ih (by omega) (by omega)

end Neighbourhood

theorem surrounds_neighbourhood (hx : x.IsPositive) : (neighbourhood x).Surrounds x := by
  have hpow : ((2 ^ (x.exponent - 2).toNat : Nat) : ℚ) / (2 ^ (-(x.exponent - 2)).toNat : Nat) =
      2 ^ x.exponent / 4 := by
    have hfour : (2 : ℚ) ^ x.exponent / 4 = 2 ^ (x.exponent - 2) := by
      rw [zpow_sub₀ two_ne_zero]
      norm_num
    rw [hfour, Binary.zpow_eq_div two_ne_zero]
    norm_cast
  have hscale (quarters : Nat) :
      ((quarters * 2 ^ (x.exponent - 2).toNat : Nat) : ℚ) / (2 ^ (-(x.exponent - 2)).toNat : Nat) =
        quarters / 4 * 2 ^ x.exponent := by
    rw [Nat.cast_mul, mul_div_assoc, hpow]
    ring
  constructor
  · exact Nat.pow_pos (by decide)
  · refine (hscale _).trans ?_
    have hpos := hx.pos
    by_cases hnarrow : x.IsNarrow
    · rw [Binary.gap, if_pos hnarrow, if_pos (show _ ∧ _ from hnarrow),
        Nat.cast_sub (by omega)]
      push_cast
      ring
    · rw [Binary.gap, if_neg hnarrow, if_neg (show ¬ (_ ∧ _) from hnarrow),
        Nat.cast_sub (by omega)]
      push_cast
      ring
  · refine (hscale (4 * x.mantissa)).trans ?_
    push_cast
    ring
  · refine (hscale (4 * x.mantissa + 2)).trans ?_
    push_cast
    ring
  · exact beq_iff_eq

/-- The number that a decimal writes. -/
def value (d : Decimal) : ℚ :=
  valueOf d.digits * 10 ^ (d.point - d.digits.length)

/-- What is cut off at the end of the digits are zeros. -/
theorem exists_zeros (digits : List Char) :
    ∃ zeros, digits =
      (digits.reverse.dropWhile (· == '0')).reverse ++ List.replicate zeros '0' := by
  have hzeros : ∀ c ∈ digits.reverse.takeWhile (· == '0'), c = '0' := by
    intro c hc
    simpa using List.mem_takeWhile_imp hc
  refine ⟨(digits.reverse.takeWhile (· == '0')).length, ?_⟩
  have hreplicate := List.eq_replicate_of_mem hzeros
  calc digits
      = (digits.reverse.takeWhile (· == '0') ++ digits.reverse.dropWhile (· == '0')).reverse := by
        rw [List.takeWhile_append_dropWhile, List.reverse_reverse]
    _ = (digits.reverse.dropWhile (· == '0')).reverse ++
          List.replicate (digits.reverse.takeWhile (· == '0')).length '0' := by
        rw [List.reverse_append, ← List.reverse_replicate, ← hreplicate]

theorem valueOf_trimmed (found : Nat) (place : Int) :
    (valueOf ((digitsOf found).reverse.dropWhile (· == '0')).reverse : ℚ) *
        10 ^ (place + ((digitsOf found).length -
          ((digitsOf found).reverse.dropWhile (· == '0')).reverse.length)) =
      found * 10 ^ place := by
  obtain ⟨zeros, hzeros⟩ := exists_zeros (digitsOf found)
  have hvalue := valueOf_digitsOf found
  generalize (List.dropWhile (· == '0') (digitsOf found).reverse).reverse = trimmed at hzeros ⊢
  rw [hzeros, valueOf_append_zeros] at hvalue
  rw [hzeros, ← hvalue, List.length_append, List.length_replicate]
  push_cast
  rw [add_sub_cancel_left, zpow_add₀ (by norm_num), zpow_natCast]
  ring

/-- The shortest digits read back as the double. -/
theorem rounds_shortest (hx : x.IsPositive) : x.Rounds (shortest x).value := by
  have hn := surrounds_neighbourhood hx
  have hpos : 0 < (neighbourhood x).value :=
    Nat.mul_pos (Nat.mul_pos (by decide) hx.pos) (Nat.pow_pos (by decide))
  have hsome := hn.onGrid?_isSome hx (pow_pointOf_le hpos hn.den_pos)
  have hfound := Neighbourhood.onGrid?_search (show 1 ≤ 17 by decide) (show 17 < 1 + 17 by decide)
    hsome
  have hrounds := hn.rounds_onGrid? hfound
  rw [← valueOf_trimmed] at hrounds
  rw [value, shortest]
  dsimp only
  convert hrounds using 3
  ring

end Decimal

end StackProse
