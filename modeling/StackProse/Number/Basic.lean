import StackProse.Number.Decimal

/-!
# Numbers of the language

Numbers are doubles, kept by their encoding, so that NaN has a sign too. Two numbers count as equal
when they differ by no more than a small fraction of the larger one, so that rounding in a chain
of computations does not show; numbers that are not equal in this sense are ordered by their
encodings. The equality is reflexive and symmetric, except at NaN, and not transitive.
-/

namespace StackProse

/-- A number: the encoding of a double. -/
structure Number where
  bits : UInt64
  deriving Repr, DecidableEq, Inhabited

namespace Number

/-- The number that is a double. -/
def ofFloat (x : Float) : Number :=
  ⟨x.toBits⟩

/-- The double that is a number. -/
def toFloat (number : Number) : Float :=
  Float.ofBits number.bits

/-- The number nearest to what a text writes. -/
def read? (text : List Char) : Option Number :=
  (Decimal.read? text).map Number.mk

/-- Numbers this close to each other, relative to the larger one, count as equal. -/
def tolerance : Float := 5e-15

/-- The double nearest to a count. Counts are machine words. -/
def ofCount (count : Nat) : Float :=
  (UInt64.ofNat count).toFloat

/-- The larger of two doubles. -/
def larger (a b : Float) : Float :=
  if a < b then b else a

/-- Equality of doubles up to rounding. -/
def isCloseTo (a b : Float) : Bool :=
  a == b || (a - b).abs ≤ tolerance * larger a.abs b.abs

/-- Equality up to rounding. -/
def isClose (a b : Number) : Bool :=
  isCloseTo a.toFloat b.toFloat

/-- The order of numbers. -/
def compare (a b : Number) : Ordering :=
  if isClose a b then .eq
  else Ord.compare (Binary.orderKey a.bits) (Binary.orderKey b.bits)

/-- Whether a double is finite and whole. -/
def isInteger (x : Float) : Bool :=
  x.isFinite && x.floor == x

/-- The text of a double. Both zeros are written alike. -/
def floatText (x : Float) : String :=
  if x.isNaN then "NaN"
  else if x.isInf then (if x < 0 then "-Infinity" else "Infinity")
  else if x == 0 then "0"
  else String.ofList (Decimal.finiteText x)

/-- The text of a number. -/
def text (number : Number) : String :=
  floatText number.toFloat

/-- The full text of a number, with the sign of zero. -/
def exactText (number : Number) : String :=
  Decimal.exactText number.toFloat

end Number

end StackProse
