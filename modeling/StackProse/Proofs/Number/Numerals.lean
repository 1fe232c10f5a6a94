import Mathlib
import StackProse.Proofs.Number.Closeness
import StackProse.Proofs.Number.Shortest
import StackProse.Proofs.Source.Spelling

/-!
# Numbers as numerals

The text of a finite number is a numeral: a sign or none, digits, and a point with more digits or
none. What is read from it is a number that counts as equal (`Number.exists_numeral`). Only zero can
change at all, since both zeros are written without a sign.

A double that is not zero is written with digits that are rounded to it (`Decimal.rounds_shortest`),
and reading rounds (`Binary.nearestBits_eq`). What is left to prove here is that the positional text
writes the same decimal, and that the encoding of a double can be taken apart and put together.
-/

namespace StackProse

open Float.Model UnpackedFloat

namespace Decimal

/-! ### Reading -/

variable {x : Binary}

theorem two_zpow_lt : (2 : ℚ) ^ (1200 : Int) < 10 ^ (400 : Int) := by
  have height : (2 : ℚ) ^ (1200 : Int) = 8 ^ (400 : Int) := by
    rw [show (8 : ℚ) = 2 ^ (3 : Int) by norm_num, ← zpow_mul]
    rfl
  rw [height]
  exact zpow_lt_zpow_left₀ (by norm_num) (by norm_num) (by norm_num)

/-- Doubles are far from where a decimal is taken for zero or for infinite. -/
theorem rounds_bounds (hx : x.IsPositive) (hfinite : x.code < Binary.infinityBits) {value : ℚ}
    (h : x.Rounds value) : (10 : ℚ) ^ (-400 : Int) < value ∧ value < 10 ^ (400 : Int) := by
  have hgap := x.gap_le
  have hone : (1 : ℚ) ≤ x.mantissa := by exact_mod_cast hx.pos
  have hmantissa := hx.mantissa_add_one_le
  have hmono {a b : Int} (hab : a ≤ b) : (2 : ℚ) ^ a ≤ 2 ^ b := zpow_le_zpow_right₀ one_le_two hab
  constructor
  · calc (10 : ℚ) ^ (-400 : Int)
        < 2 ^ (-1200 : Int) := by
          rw [zpow_neg, zpow_neg]
          exact inv_strictAnti₀ (by positivity) two_zpow_lt
      _ ≤ 2 ^ (Binary.minExponent - 1) := hmono (by decide)
      _ = 1 / 2 * 2 ^ Binary.minExponent := by
        rw [zpow_sub_one₀ two_ne_zero]
        ring
      _ ≤ (x.mantissa - x.gap) * 2 ^ x.exponent := by
        have hle := hmono hx.le
        have hhalf : 1 / 2 ≤ (x.mantissa : ℚ) - x.gap := by linarith
        exact mul_le_mul hhalf hle (by positivity) (by linarith)
      _ ≤ value := h.low_le
  · have hexponent : x.exponent ≤ 972 := by
      simp only [Binary.code, Binary.infinityBits, Binary.fractionCount, Binary.minExponent]
        at hfinite
      omega
    calc value
        ≤ (x.mantissa + 1 / 2) * 2 ^ x.exponent := h.le_high
      _ ≤ 2 ^ 53 * 2 ^ (972 : Int) := by
        have hle := hmono hexponent
        have hhalf : (x.mantissa : ℚ) + 1 / 2 ≤ 2 ^ 53 := by linarith
        exact mul_le_mul hhalf hle (by positivity) (by norm_num)
      _ = 2 ^ (1025 : Int) := by
        rw [← zpow_natCast, ← zpow_add₀ two_ne_zero]
        rfl
      _ ≤ 2 ^ (1200 : Int) := hmono (by decide)
      _ < 10 ^ (400 : Int) := two_zpow_lt

/-- The digits of a decimal's mantissa say how large the decimal is, up to a factor of ten. -/
theorem size_bounds {mantissa : Nat} (hpos : 0 < mantissa) (exponent : Int) :
    (10 : ℚ) ^ ((digitCount mantissa : Int) + exponent - 1) ≤ mantissa * 10 ^ exponent ∧
      (mantissa * 10 ^ exponent : ℚ) < 10 ^ ((digitCount mantissa : Int) + exponent) := by
  have hten : (10 : ℚ) ≠ 0 := by norm_num
  have hcount := digitCount_pos hpos
  have hlow : (10 : ℚ) ^ (digitCount mantissa - 1) ≤ mantissa := by
    exact_mod_cast pow_digitCount_le hpos
  have hhigh : (mantissa : ℚ) < 10 ^ digitCount mantissa := by
    exact_mod_cast lt_pow_digitCount mantissa
  have hplace : (digitCount mantissa : Int) + exponent - 1 =
      (digitCount mantissa - 1 : Nat) + exponent := by
    omega
  rw [hplace, zpow_add₀ hten, zpow_add₀ hten, zpow_natCast, zpow_natCast]
  constructor
  · gcongr
  · gcongr

/-- A decimal that is rounded to a double is read as the double. -/
theorem nearest_eq (hx : x.IsPositive) (hfinite : x.code < Binary.infinityBits) {mantissa : Nat}
    {exponent : Int} (h : x.Rounds (mantissa * 10 ^ exponent)) :
    nearest mantissa exponent = x.code := by
  have hten : (1 : ℚ) < 10 := by norm_num
  have hpos : 0 < mantissa := by
    by_contra hzero
    obtain rfl : mantissa = 0 := by omega
    have hvalue := h.pos hx
    rw [Nat.cast_zero, zero_mul] at hvalue
    exact lt_irrefl _ hvalue
  obtain ⟨hlow, hhigh⟩ := rounds_bounds hx hfinite h
  obtain ⟨hleast, hmost⟩ := size_bounds hpos exponent
  have hsmall : -400 < (digitCount mantissa : Int) + exponent :=
    (zpow_lt_zpow_iff_right₀ hten).1 (hlow.trans hmost)
  have hlarge : (digitCount mantissa : Int) + exponent - 1 < 400 :=
    (zpow_lt_zpow_iff_right₀ hten).1 (hleast.trans_lt hhigh)
  rw [nearest, if_neg (by simp only [Bool.or_eq_true, decide_eq_true_eq]; omega), if_neg (by omega)]
  rw [Binary.zpow_eq_div (by norm_num)] at h
  split
  · rename_i hneg
    apply Binary.nearestBits_eq hx hfinite (Nat.pow_pos (by decide))
    rw [Int.toNat_of_nonpos hneg.le, pow_zero, mul_one_div] at h
    push_cast [Nat.pow_eq]
    exact h
  · rename_i hneg
    apply Binary.nearestBits_eq hx hfinite (by decide)
    rw [Int.toNat_of_nonpos (by omega : -exponent ≤ 0), pow_zero, div_one] at h
    push_cast [Nat.pow_eq]
    rw [div_one]
    exact h

/-! ### Positional text -/

theorem isDigit_shortest (x : Binary) : ∀ c ∈ (shortest x).digits, c.isDigit := by
  intro c hc
  have hmem := (List.dropWhile_suffix _).subset (List.mem_reverse.1 hc)
  exact Nat.isDigit_of_mem_toDigits (by decide) (by decide) (List.mem_reverse.1 hmem)

theorem digits_shortest_ne_nil (hx : x.IsPositive) : (shortest x).digits ≠ [] := by
  intro hnil
  have hvalue : (shortest x).value = 0 := by
    rw [value, hnil]
    exact zero_mul _
  exact ((rounds_shortest hx).pos hx).ne' hvalue

theorem isDigit_zeros (zeros : Nat) : ∀ c ∈ List.replicate zeros '0', c.isDigit := by
  intro c hc
  rw [List.eq_of_mem_replicate hc]
  decide

/-- The positional text of digits is a numeral with their value. The point stands before the digits,
behind them or among them. -/
theorem exists_numeral (d : Decimal) (hne : d.digits ≠ []) (hdigits : ∀ c ∈ d.digits, c.isDigit)
    (negative : Bool) :
    ∃ numeral : Numeral, numeral.negative = negative ∧ numeral.magnitude = d.positional ∧
      (valueOf (numeral.whole.text ++ numeral.decimals) *
        10 ^ (0 - numeral.decimals.length : Int) : ℚ) = d.value := by
  rw [positional]
  by_cases hbefore : d.point ≤ 0
  · let zeros := List.replicate (-d.point).toNat '0'
    let numeral : Numeral :=
      { negative := negative
        whole := ⟨['0'], nofun, List.forall_mem_singleton.2 rfl⟩
        fraction := some ⟨zeros ++ d.digits, by simp [hne],
          List.forall_mem_append.2 ⟨isDigit_zeros _, hdigits⟩⟩ }
    rw [if_pos hbefore]
    refine ⟨numeral, rfl, rfl, ?_⟩
    have hvalue : valueOf (numeral.whole.text ++ numeral.decimals) = valueOf d.digits :=
      valueOf_zeros_append ((-d.point).toNat + 1) d.digits
    have hlength : numeral.decimals.length = (-d.point).toNat + d.digits.length := by
      simp [numeral, Numeral.decimals, zeros]
    rw [hvalue, hlength, value]
    congr 2
    omega
  · rw [if_neg hbefore]
    dsimp only
    by_cases hbehind : d.digits.length ≤ d.point.toNat
    · let numeral : Numeral :=
        { negative := negative
          whole := ⟨d.digits ++ List.replicate (d.point.toNat - d.digits.length) '0',
            by simp [hne], List.forall_mem_append.2 ⟨hdigits, isDigit_zeros _⟩⟩
          fraction := none }
      rw [if_pos hbehind]
      refine ⟨numeral, rfl, List.append_nil _, ?_⟩
      have hvalue : valueOf (numeral.whole.text ++ numeral.decimals) =
          valueOf d.digits * 10 ^ (d.point.toNat - d.digits.length) := by
        rw [← valueOf_append_zeros]
        exact congrArg valueOf (List.append_nil _)
      have hlength : numeral.decimals.length = 0 := rfl
      have hpoint : d.point - d.digits.length = (d.point.toNat - d.digits.length : Nat) := by omega
      rw [hvalue, hlength, value, hpoint, zpow_natCast]
      push_cast
      exact mul_one _
    · have hpoint : 0 < d.point.toNat ∧ d.point.toNat < d.digits.length := by omega
      let numeral : Numeral :=
        { negative := negative
          whole := ⟨d.digits.take d.point.toNat, by simp [hne, hpoint.1.ne'],
            fun c hc => hdigits c (List.mem_of_mem_take hc)⟩
          fraction := some ⟨d.digits.drop d.point.toNat, by simpa using hpoint.2,
            fun c hc => hdigits c (List.mem_of_mem_drop hc)⟩ }
      rw [if_neg hbehind]
      refine ⟨numeral, rfl, rfl, ?_⟩
      have hvalue : valueOf (numeral.whole.text ++ numeral.decimals) = valueOf d.digits :=
        congrArg valueOf (List.take_append_drop _ _)
      have hlength : numeral.decimals.length = d.digits.length - d.point.toNat :=
        List.length_drop
      rw [hvalue, hlength, value]
      congr 2
      omega

end Decimal

/-! ### Encodings -/

namespace Binary

/-- The exponent field of an encoding. -/
theorem toNat_unpackExponent (bits : BitVec Format.binary64.numBits) :
    (unpackExponent bits).toNat = bits.toNat % signBit / fractionCount := by
  have hfield : (unpackExponent bits).toNat = bits.toNat / 2 ^ 52 % 2 ^ 11 := by
    rw [unpackExponent, BitVec.toNat_cast, BitVec.extractLsb_toNat, Nat.shiftRight_eq_div_pow]
    rfl
  rw [hfield, signBit, fractionCount]
  omega

theorem magnitude_lt {x : Float} (h : x.isFinite = true) :
    x.toBits.toNat % signBit < infinityBits := by
  by_contra hlarge
  have hexponent : @unpackExponent .binary64 x.toBits.toBitVec = -1#11 := by
    apply BitVec.eq_of_toNat_eq
    have hbits := x.toBits.toNat_lt
    rw [toNat_unpackExponent]
    change x.toBits.toNat % signBit / fractionCount = 2047
    simp only [signBit, fractionCount, infinityBits] at hlarge ⊢
    omega
  have hunpack : (UnpackedFloat.unpack .binary64 x.toBits.toBitVec).isFinite = true := h
  rw [UnpackedFloat.unpack] at hunpack
  dsimp only at hunpack
  rw [if_pos hexponent] at hunpack
  split at hunpack <;> contradiction

theorem code_ofFloat (x : Float) : (ofFloat x).code = x.toBits.toNat % signBit := by
  rw [code, ofFloat]
  dsimp only
  split
  · simp only [fractionCount, minExponent] at *
    omega
  · simp only [fractionCount, minExponent] at *
    omega

theorem signed_code (x : Float) : signed (ofFloat x).negative (ofFloat x).code = x.toBits := by
  have hbits := x.toBits.toNat_lt
  have hwhole : (if (ofFloat x).negative then signBit + x.toBits.toNat % signBit
      else x.toBits.toNat % signBit) = x.toBits.toNat := by
    rw [ofFloat]
    dsimp only
    by_cases hnegative : signBit ≤ x.toBits.toNat
    · rw [decide_eq_true hnegative, if_pos rfl]
      rw [signBit] at hnegative ⊢
      omega
    · rw [decide_eq_false hnegative, if_neg Bool.false_ne_true]
      exact Nat.mod_eq_of_lt (not_le.1 hnegative)
  rw [code_ofFloat, signed, hwhole, UInt64.ofNat_toNat]

/-- A double without a magnitude is one of the zeros. -/
theorem beq_zero {x : Float} (h : x.toBits.toNat % signBit = 0) : (x == 0) = true := by
  have hbits := x.toBits.toNat_lt
  have hcases : x.toBits = 0 ∨ x.toBits = 0x8000000000000000 := by
    rw [← UInt64.toNat_inj, ← UInt64.toNat_inj]
    change x.toBits.toNat = 0 ∨ x.toBits.toNat = 0x8000000000000000
    rw [signBit] at h
    omega
  rw [← Float.ofBits_toBits x]
  rcases hcases with hbits | hbits
  · rw [hbits]
    decide
  · rw [hbits]
    decide

theorem isPositive_ofFloat {x : Float} (hzero : (x == 0) = false) : (ofFloat x).IsPositive := by
  have hmagnitude : x.toBits.toNat % signBit ≠ 0 := by
    intro hnone
    rw [beq_zero hnone] at hzero
    contradiction
  constructor
  · rw [ofFloat]
    dsimp only
    split <;> rw [fractionCount] at * <;> omega
  · rw [ofFloat]
    dsimp only
    split <;> rw [fractionCount] at * <;> omega
  · rw [ofFloat]
    dsimp only
    split <;> omega
  · rw [ofFloat]
    dsimp only
    split
    · exact Or.inl rfl
    · exact Or.inr (Nat.le_add_left _ _)

end Binary

namespace Number

theorem beq_self {x : Float} (h : x.isFinite = true) : (x == x) = true := by
  change (x.toModel.unpack.compare x.toModel.unpack == some .eq) = true
  have hfinite : x.toModel.unpack.isFinite = true := h
  generalize x.toModel.unpack = unpacked at hfinite ⊢
  cases unpacked with
  | notANumber => contradiction
  | infinity sign => contradiction
  | zero sign => rfl
  | finite sign mantissa exponent hpos =>
      cases sign <;> simp [UnpackedFloat.compare]

theorem isNaN_isInf_of_isFinite {x : Float} (h : x.isFinite = true) :
    x.isNaN = false ∧ x.isInf = false := by
  have hfinite : x.toModel.unpack.isFinite = true := h
  change x.toModel.unpack.isNaN = false ∧ x.toModel.unpack.isInf = false
  generalize x.toModel.unpack = unpacked at hfinite ⊢
  cases unpacked with
  | notANumber => contradiction
  | infinity sign => contradiction
  | zero sign => exact ⟨rfl, rfl⟩
  | finite sign mantissa exponent hpos => exact ⟨rfl, rfl⟩

theorem text_of_isFinite {number : Number} (h : number.toFloat.isFinite = true) :
    number.text.toList =
      if number.toFloat == 0 then ['0'] else Decimal.finiteText number.toFloat := by
  obtain ⟨hnan, hinf⟩ := isNaN_isInf_of_isFinite h
  rw [text, floatText, hnan, hinf, if_neg Bool.false_ne_true, if_neg Bool.false_ne_true]
  split
  · rfl
  · exact String.toList_ofList

/-- The text of a finite number is a numeral that is read as an equal number. -/
theorem exists_numeral {number : Number} (h : number.toFloat.isFinite = true) :
    ∃ numeral : Numeral, number.text.toList = numeral.text ∧
      compare numeral.number number = .eq := by
  rw [text_of_isFinite h]
  cases hzero : number.toFloat == 0 with
  | true =>
      refine ⟨⟨false, ⟨['0'], nofun, List.forall_mem_singleton.2 rfl⟩, none⟩, rfl, ?_⟩
      have hclose : isClose ⟨0⟩ number = true := by
        rw [isClose, isCloseTo, beq_comm]
        exact Bool.or_eq_true_iff.2 (Or.inl hzero)
      exact if_pos hclose
  | false =>
      have hx := Binary.isPositive_ofFloat hzero
      have hfinite : (Binary.ofFloat number.toFloat).code < Binary.infinityBits := by
        rw [Binary.code_ofFloat]
        exact Binary.magnitude_lt h
      obtain ⟨numeral, hnegative, hmagnitude, hvalue⟩ :=
        (Decimal.shortest (Binary.ofFloat number.toFloat)).exists_numeral
          (Decimal.digits_shortest_ne_nil hx) (Decimal.isDigit_shortest _)
          (Binary.ofFloat number.toFloat).negative
      refine ⟨numeral, ?_, ?_⟩
      · rw [Numeral.text, hnegative, hmagnitude, if_neg Bool.false_ne_true, Decimal.finiteText,
          if_neg hx.pos.ne']
      · have hrounds := Decimal.rounds_shortest hx
        rw [← hvalue] at hrounds
        have hnumber : numeral.number = ⟨number.toFloat.toBits⟩ := by
          rw [Numeral.number, hnegative, Decimal.nearest_eq hx hfinite hrounds,
            Binary.signed_code]
        have hclose : isClose numeral.number number = true := by
          rw [hnumber, isClose, toFloat, Float.ofBits_toBits, isCloseTo, beq_self h]
          rfl
        exact if_pos hclose

end Number

end StackProse
