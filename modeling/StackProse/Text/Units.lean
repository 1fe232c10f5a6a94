/-!
# Text as code units

Strings of the language are sequences of 16-bit code units, and a program can cut them anywhere.
`Units.ofChars` encodes characters, those beyond the first plane as a pair of surrogates, and
`Units.toChars` decodes, with the replacement character for every surrogate that has lost its
partner.
-/

namespace StackProse.Units

/-- The code units of one character. -/
def ofChar (c : Char) : List UInt16 :=
  let n := c.toNat
  if n < 0x10000 then [UInt16.ofNat n]
  else [UInt16.ofNat (0xD800 + (n - 0x10000) / 0x400),
    UInt16.ofNat (0xDC00 + (n - 0x10000) % 0x400)]

/-- The code units of a text. -/
def ofChars (text : List Char) : List UInt16 :=
  text.flatMap ofChar

/-- The code units of a text. -/
def ofString (text : String) : List UInt16 :=
  ofChars text.toList

/-- The first half of a pair. -/
def isLeading (unit : UInt16) : Bool :=
  0xD800 ≤ unit && unit < 0xDC00

/-- The second half of a pair. -/
def isTrailing (unit : UInt16) : Bool :=
  0xDC00 ≤ unit && unit < 0xE000

/-- The character that two halves make. -/
def pair (leading trailing : UInt16) : Char :=
  Char.ofNat (0x10000 + (leading.toNat - 0xD800) * 0x400 + (trailing.toNat - 0xDC00))

/-- What stands for a surrogate without its partner. -/
def replacement : Char := '�'

/-- The character of a unit that is not the first half of a pair. -/
def single (unit : UInt16) : Char :=
  if isLeading unit || isTrailing unit then replacement else Char.ofNat unit.toNat

/-- Decodes units behind the reversed text `read`. -/
def toCharsFrom (read : List Char) : List UInt16 → List Char
  | [] => read.reverse
  | [unit] => (single unit :: read).reverse
  | first :: second :: rest =>
      if isLeading first && isTrailing second then
        toCharsFrom (pair first second :: read) rest
      else
        toCharsFrom (single first :: read) (second :: rest)

/-- The characters of a sequence of units. -/
def toChars (units : List UInt16) : List Char :=
  toCharsFrom [] units

/-- The text of a sequence of units. -/
def toString (units : List UInt16) : String :=
  String.ofList (toChars units)

/-- Whether some surrogate has lost its partner. -/
def hasLoneSurrogate : List UInt16 → Bool
  | [] => false
  | [unit] => isLeading unit || isTrailing unit
  | first :: second :: rest =>
      if isLeading first && isTrailing second then hasLoneSurrogate rest
      else isLeading first || isTrailing first || hasLoneSurrogate (second :: rest)

end StackProse.Units
