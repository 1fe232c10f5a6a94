import StackProse.Number.Binary

/-!
# Decimal text of numbers

`Decimal.shortest` gives the fewest decimal digits that read back as the same double: for each
number of digits it looks at the two neighbours of the value on that decimal grid, and it stops
at the first grid of which one lies between the halfway points to the adjacent doubles.
`Decimal.positional` writes digits without an exponent, and `Decimal.read?` reads decimal text
into the encoding of a double, with correct rounding.
-/

namespace StackProse

/-- The digits of a positive number: the value is `0.d₁d₂d₃… * 10 ^ point`. -/
structure Decimal where
  digits : List Char
  point : Int
  deriving Repr, DecidableEq, Inhabited

namespace Decimal

/-- The decimal digits of a natural number. -/
def digitsOf (n : Nat) : List Char :=
  Nat.toDigits 10 n

/-- The number of decimal digits of a natural number, none for zero. -/
def digitCount (n : Nat) : Nat :=
  if n = 0 then 0 else (digitsOf n).length

/-- The least `p` with `num / den < 10 ^ p`, where both are positive. -/
def pointOf (num den : Nat) : Int :=
  if den ≤ num then digitCount (num / den) else 1 - (digitCount ((den - 1) / num) : Int)

/-- A positive double as a quotient, with the halfway points to its neighbours, all in quarters
of its last binary place. -/
structure Neighbourhood where
  /-- The lower halfway point. -/
  low : Nat
  /-- The value itself. -/
  value : Nat
  /-- The upper halfway point. -/
  high : Nat
  /-- The common denominator. -/
  den : Nat
  /-- Whether the halfway points read back as the value too. -/
  closed : Bool

/-- The neighbourhood of a positive double. At a power of two the lower neighbour is nearer. -/
def neighbourhood (x : Binary) : Neighbourhood :=
  let quarter := x.exponent - 2
  let up := Nat.pow 2 quarter.toNat
  let narrow := x.mantissa = Binary.fractionCount ∧ Binary.minExponent < x.exponent
  { low := (4 * x.mantissa - if narrow then 1 else 2) * up
    value := 4 * x.mantissa * up
    high := (4 * x.mantissa + 2) * up
    den := Nat.pow 2 (-quarter).toNat
    closed := x.mantissa % 2 == 0 }

namespace Neighbourhood

/-- The decimal of `count` digits that lies nearest to the value and reads back as it, if there is
one. Its last digit stands at the place `10 ^ (point - count)`. Of two equally near ones the
greater is taken. -/
def onGrid? (n : Neighbourhood) (point : Int) (count : Nat) : Option Nat :=
  let place := point - count
  let unit := n.den * Nat.pow 10 place.toNat
  let scale := Nat.pow 10 (-place).toNat
  let below := n.value * scale / unit
  let above := below + 1
  let lowHits :=
    if n.closed then n.low * scale ≤ below * unit else n.low * scale < below * unit
  let highHits :=
    if n.closed then above * unit ≤ n.high * scale else above * unit < n.high * scale
  let aboveIsNearer := above * unit - n.value * scale ≤ n.value * scale - below * unit
  if lowHits ∧ ¬ (highHits ∧ aboveIsNearer) then some below
  else if highHits then some above
  else none

/-- The first grid with at least `count` digits that has a decimal of the neighbourhood, among the
next `fuel` grids. Seventeen digits tell all doubles apart. -/
def search (n : Neighbourhood) (point : Int) (count : Nat) : Nat → Nat × Nat
  | 0 =>
      let place := point - count
      (n.value * Nat.pow 10 (-place).toNat / (n.den * Nat.pow 10 place.toNat), count)
  | fuel + 1 =>
      match n.onGrid? point count with
      | some found => (found, count)
      | none => n.search point (count + 1) fuel

end Neighbourhood

/-- The fewest digits that read back as the given positive double. -/
def shortest (x : Binary) : Decimal :=
  let n := neighbourhood x
  let point := pointOf n.value n.den
  let found := n.search point 1 17
  let digits := digitsOf found.1
  { digits := (digits.reverse.dropWhile (· == '0')).reverse
    point := point + ((digits.length : Int) - found.2) }

/-- The text of a decimal without an exponent. -/
def positional (d : Decimal) : List Char :=
  if d.point ≤ 0 then
    '0' :: '.' :: (List.replicate (-d.point).toNat '0' ++ d.digits)
  else
    let whole := d.point.toNat
    if d.digits.length ≤ whole then
      d.digits ++ List.replicate (whole - d.digits.length) '0'
    else
      d.digits.take whole ++ '.' :: d.digits.drop whole

/-- The positional text of a finite double. Zero keeps its sign. -/
def finiteText (x : Float) : List Char :=
  let parts := Binary.ofFloat x
  let magnitude := if parts.mantissa = 0 then ['0'] else (shortest parts).positional
  if parts.negative then '-' :: magnitude else magnitude

/-- The full text of a double: the shortest digits that read back, `-0` for negative zero, and
the short names of the infinities. -/
def exactText (x : Float) : String :=
  if x.isNaN then "NaN"
  else if x.isInf then (if x < 0 then "-inf" else "inf")
  else String.ofList (finiteText x)

/-! ### Reading -/

/-- The value of a row of decimal digits. -/
def valueOf (digits : List Char) : Nat :=
  digits.foldl (fun value c => 10 * value + (c.toNat - '0'.toNat)) 0

/-- The encoding of the double nearest to `mantissa * 10 ^ exponent`. Exponents far outside the
range of doubles are settled without large powers. -/
def nearest (mantissa : Nat) (exponent : Int) : Nat :=
  let point : Int := digitCount mantissa + exponent
  if mantissa = 0 || point < -400 then 0
  else if 400 < point then Binary.infinityBits
  else if exponent < 0 then Binary.nearestBits mantissa (Nat.pow 10 (-exponent).toNat)
  else Binary.nearestBits (mantissa * Nat.pow 10 exponent.toNat) 1

/-- An exponent: a sign or none, and at least one digit. -/
def readExponent? (text : List Char) : Option Int :=
  match text with
  | '-' :: digits => if isNumeral digits then some (-(valueOf digits : Int)) else none
  | '+' :: digits => if isNumeral digits then some (valueOf digits) else none
  | digits => if isNumeral digits then some (valueOf digits) else none
where
  /-- A row of at least one digit. -/
  isNumeral (digits : List Char) : Bool :=
    !digits.isEmpty && digits.all Char.isDigit

/-- The magnitude of digits with an optional point among or around them and an optional exponent
after them. At least one digit has to stand before the exponent. -/
def readMagnitude? (text : List Char) : Option Nat :=
  let whole := text.takeWhile Char.isDigit
  let afterWhole := text.dropWhile Char.isDigit
  let fraction :=
    match afterWhole with
    | '.' :: rest => rest.takeWhile Char.isDigit
    | _ => []
  let afterFraction :=
    match afterWhole with
    | '.' :: rest => rest.dropWhile Char.isDigit
    | rest => rest
  let exponent? :=
    match afterFraction with
    | [] => some 0
    | 'e' :: rest => readExponent? rest
    | 'E' :: rest => readExponent? rest
    | _ => none
  if whole.isEmpty && fraction.isEmpty then none
  else exponent?.map fun exponent =>
    nearest (valueOf (whole ++ fraction)) (exponent - fraction.length)

/-- The encoded magnitude of a text without a sign: a decimal, or the name of infinity or of NaN in
any case. -/
def readUnsigned? (text : List Char) : Option Nat :=
  let lower := text.map Char.toLower
  if lower == "inf".toList || lower == "infinity".toList then some Binary.infinityBits
  else if lower == "nan".toList then some Binary.nanBits
  else readMagnitude? text

/-- The encoding of the double nearest to the number that the text writes. -/
def read? (text : List Char) : Option UInt64 :=
  match text with
  | '-' :: rest => (readUnsigned? rest).map (Binary.signed true)
  | '+' :: rest => (readUnsigned? rest).map (Binary.signed false)
  | rest => (readUnsigned? rest).map (Binary.signed false)

end Decimal

end StackProse
