/-!
# Double-precision numbers as exact integers

A finite double is a sign and a magnitude `mantissa * 2 ^ exponent`. This module takes doubles
apart and puts them together: `Binary.ofFloat` reads the parts off the encoding, and
`nearestBits` is the encoding of the double nearest to a quotient of natural numbers, a tie going
to the even mantissa. On top of these stand the exact remainder and the total order of
encodings.
-/

namespace StackProse

/-- The sign and magnitude of a finite double. -/
structure Binary where
  negative : Bool
  mantissa : Nat
  exponent : Int
  deriving Repr, DecidableEq, Inhabited

namespace Binary

/-- The number of mantissas with the same exponent: doubles hold 52 bits of fraction. -/
def fractionCount : Nat := 0x10000000000000

/-- The exponent of the smallest doubles. -/
def minExponent : Int := -1074

/-- The encoding of positive infinity. -/
def infinityBits : Nat := 0x7FF0000000000000

/-- The encoding of NaN without a sign. -/
def nanBits : Nat := 0x7FF8000000000000

/-- The place of the sign bit. -/
def signBit : Nat := 0x8000000000000000

/-- The parts of a double, read off its encoding. Infinities and NaN have no meaningful parts. -/
def ofFloat (x : Float) : Binary :=
  let bits := x.toBits.toNat
  let magnitude := bits % signBit
  let level := magnitude / fractionCount
  let fraction := magnitude % fractionCount
  { negative := signBit ≤ bits
    mantissa := if level = 0 then fraction else fraction + fractionCount
    exponent := if level = 0 then minExponent else minExponent + (level - 1 : Nat) }

/-- `num / den` rounded to a natural number, a tie going to the even one. -/
def roundDiv (num den : Nat) : Nat :=
  let quotient := num / den
  let rest := 2 * (num % den)
  if rest < den || (rest == den && quotient % 2 == 0) then quotient else quotient + 1

/-- `num / den / 2 ^ exponent` as a quotient of natural numbers. -/
def unscale (num den : Nat) (exponent : Int) : Nat × Nat :=
  if exponent < 0 then (num * Nat.pow 2 (-exponent).toNat, den)
  else (num, den * Nat.pow 2 exponent.toNat)

/-- The exponent at which the mantissa of `num / den` has 53 bits, or the smallest one. -/
def exponentOf (num den : Nat) : Int :=
  let low : Int := (num.log2 : Int) - den.log2 - 53
  let scaled := unscale num den low
  let fitting := if 2 * fractionCount ≤ scaled.1 / scaled.2 then low + 1 else low
  if fitting < minExponent then minExponent else fitting

/-- The encoding of the double nearest to `num / den`, where `den` is positive. Magnitudes beyond
the largest double become infinite. -/
def nearestBits (num den : Nat) : Nat :=
  if num = 0 then 0
  else
    let exponent := exponentOf num den
    let scaled := unscale num den exponent
    let bits := (exponent - minExponent).toNat * fractionCount + roundDiv scaled.1 scaled.2
    if infinityBits ≤ bits then infinityBits else bits

/-- The encoding with a given sign and magnitude. -/
def signed (negative : Bool) (magnitude : Nat) : UInt64 :=
  UInt64.ofNat (if negative then signBit + magnitude else magnitude)

/-- The remainder of the division of `x` by `y` with the quotient cut toward zero, where both are
finite and `y` is not zero. It is exact and has the sign of `x`. -/
def finiteRemainder (x y : Float) : Float :=
  let a := ofFloat x
  let b := ofFloat y
  let exponent := min a.exponent b.exponent
  let rest := a.mantissa * Nat.pow 2 (a.exponent - exponent).toNat %
    (b.mantissa * Nat.pow 2 (b.exponent - exponent).toNat)
  let scaled := unscale rest 1 (-exponent)
  Float.ofBits (signed a.negative (nearestBits scaled.1 scaled.2))

/-- The remainder of `x` by `y`. An infinite divisor leaves `x` as it is, and where there is no
remainder the result is NaN. -/
def remainder (x y : Float) : Float :=
  if x.isNaN || y.isNaN || x.isInf || y == 0 then 0.0 / 0.0
  else if y.isInf then x
  else finiteRemainder x y

/-- The place of a double in the total order of encodings: negative numbers below positive ones,
`-0` below `0`, and NaN beyond the infinity of its sign. -/
def orderKey (bits : UInt64) : Int :=
  if bits.toNat < signBit then bits.toNat else (signBit : Int) - bits.toNat - 1

end Binary

end StackProse
