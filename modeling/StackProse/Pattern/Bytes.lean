/-!
# Ranges of characters as bytes

The characters of a range are encoded by sequences of one to four bytes. A range is cut into
pieces in which every byte runs through a range of its own, independently of the others; so each
piece is given by one range for every byte.
-/

namespace StackProse.Pattern.Bytes

/-- The bytes that encode a code point. -/
def encode (point : Nat) : List Nat :=
  if point < 0x80 then [point]
  else if point < 0x800 then [0xC0 + point / 64, 0x80 + point % 64]
  else if point < 0x10000 then
    [0xE0 + point / 4096, 0x80 + point / 64 % 64, 0x80 + point % 64]
  else
    [0xF0 + point / 262144, 0x80 + point / 4096 % 64, 0x80 + point / 64 % 64, 0x80 + point % 64]

/-- Cuts a range before a code point. -/
def cutBefore (point : Nat) (range : Nat × Nat) : List (Nat × Nat) :=
  if range.1 < point && point ≤ range.2 then [(range.1, point - 1), (point, range.2)] else [range]

/-- Cuts the surrogate code points out of a range. -/
def cutSurrogates (range : Nat × Nat) : List (Nat × Nat) :=
  if range.1 < 0xE000 && 0xD7FF < range.2 then
    [(range.1, 0xD7FF), (0xE000, range.2)].filter fun piece => piece.1 ≤ piece.2
  else [range]

/-- Cuts a range that goes through several blocks of `size` code points into the whole blocks and
what lies before and behind them. -/
def cutBlocks (size : Nat) (range : Nat × Nat) : List (Nat × Nat) :=
  if range.1 / size = range.2 / size then [range]
  else
    let first := (range.1 + size - 1) / size * size
    let next := (range.2 + 1) / size * size
    [(range.1, first - 1), (first, next - 1), (next, range.2)].filter fun piece =>
      piece.1 ≤ piece.2

/-- The pieces of a range whose encodings have the same length. -/
def sameLength (range : Nat × Nat) : List (Nat × Nat) :=
  cutSurrogates range |>.flatMap (cutBefore 0x80) |>.flatMap (cutBefore 0x800)
    |>.flatMap (cutBefore 0x10000)

/-- The pieces of a range in which every byte has a range of its own. -/
def pieces (range : Nat × Nat) : List (Nat × Nat) :=
  (sameLength range).flatMap fun piece =>
    if piece.2 < 0x80 then [piece]
    else cutBlocks 64 piece |>.flatMap (cutBlocks 4096) |>.flatMap (cutBlocks 262144)

/-- The ranges of bytes for the pieces of a range of code points. -/
def sequences (range : Nat × Nat) : List (List (Nat × Nat)) :=
  (pieces range).map fun piece => (encode piece.1).zip (encode piece.2)

end StackProse.Pattern.Bytes
