/-!
# Sets of characters

A set of characters is a list of ranges of code points, in ascending order and with gaps between
them. Surrogate code points are no characters, so the complement leaves them out. Tables of ranges
are written as text: hexadecimal code points, alone or as `first-last`, with blanks between.
-/

namespace StackProse

/-- A set of characters, as ascending ranges of code points that do not touch. -/
structure CharSet where
  ranges : List (Nat × Nat)
  deriving Repr, DecidableEq, Inhabited

namespace CharSet

/-- Puts a range behind ascending ranges, given in reverse. -/
def appendRange (done : List (Nat × Nat)) (range : Nat × Nat) : List (Nat × Nat) :=
  match done with
  | [] => [range]
  | last :: before =>
      if range.1 ≤ last.2 + 1 then (last.1, max last.2 range.2) :: before
      else range :: last :: before

/-- The set of all characters in some ranges. -/
def ofRanges (ranges : List (Nat × Nat)) : CharSet :=
  let sorted := ranges.mergeSort fun a b => a.1 ≤ b.1
  ⟨(sorted.foldl appendRange []).reverse⟩

/-- No character. -/
def empty : CharSet := ⟨[]⟩

/-- Every character. -/
def all : CharSet := ⟨[(0, 0xD7FF), (0xE000, 0x10FFFF)]⟩

/-- The characters of ASCII. -/
def ascii : CharSet := ⟨[(0, 127)]⟩

/-- One character. -/
def single (c : Char) : CharSet := ⟨[(c.toNat, c.toNat)]⟩

/-- The characters from `first` to `last`. -/
def range (first last : Char) : CharSet := ofRanges [(first.toNat, last.toNat)]

/-- Whether a code point is in the set. -/
def containsPoint (set : CharSet) (point : Nat) : Bool :=
  set.ranges.any fun range => range.1 ≤ point && point ≤ range.2

/-- Whether a character is in the set. -/
def contains (set : CharSet) (c : Char) : Bool :=
  set.containsPoint c.toNat

/-- Whether the set has no characters. -/
def isEmpty (set : CharSet) : Bool :=
  set.ranges.isEmpty

/-- The only character of the set. -/
def single? (set : CharSet) : Option Char :=
  match set.ranges with
  | [(first, last)] => if first = last then some (Char.ofNat first) else none
  | _ => none

/-- The characters of either set. -/
def union (a b : CharSet) : CharSet :=
  ofRanges (a.ranges ++ b.ranges)

/-- The ranges in which ascending ranges meet. Every round leaves the range that ends first. -/
def meet : Nat → List (Nat × Nat) → List (Nat × Nat) → List (Nat × Nat)
  | 0, _, _ => []
  | _, [], _ => []
  | _, _, [] => []
  | rounds + 1, x :: xs, y :: ys =>
      let first := max x.1 y.1
      let last := min x.2 y.2
      let rest := if x.2 ≤ y.2 then meet rounds xs (y :: ys) else meet rounds (x :: xs) ys
      if first ≤ last then (first, last) :: rest else rest

/-- The characters of both sets. -/
def inter (a b : CharSet) : CharSet :=
  ⟨meet (a.ranges.length + b.ranges.length) a.ranges b.ranges⟩

/-- The gaps from `next` on between ascending ranges. -/
def gapsFrom (next : Nat) : List (Nat × Nat) → List (Nat × Nat)
  | [] => if next ≤ 0x10FFFF then [(next, 0x10FFFF)] else []
  | range :: rest =>
      if next < range.1 then (next, range.1 - 1) :: gapsFrom (range.2 + 1) rest
      else gapsFrom (range.2 + 1) rest

/-- The characters that are not in the set. -/
def compl (set : CharSet) : CharSet :=
  inter all ⟨gapsFrom 0 set.ranges⟩

/-- The characters of the first set that are not in the second. -/
def diff (a b : CharSet) : CharSet :=
  inter a b.compl

/-- The characters of exactly one of two sets. -/
def symmDiff (a b : CharSet) : CharSet :=
  union (diff a b) (diff b a)

/-- Whether all characters of the set are ASCII. -/
def isAscii (set : CharSet) : Bool :=
  set.ranges.all (·.2 < 128)

/-! ### Tables -/

/-- A table of ranges that is being read: the ranges read, newest first, the beginning of the range
that is being read, and the value of the digits read since, if there are any. -/
structure Scan where
  done : List (Nat × Nat) := []
  first : Option Nat := none
  point : Option Nat := none

/-- The value of a hexadecimal digit. -/
def digitValue (c : Char) : Nat :=
  if c.isDigit then c.toNat - '0'.toNat else c.toNat - 'a'.toNat + 10

namespace Scan

/-- Ends the range that is being read. -/
def close (scan : Scan) : Scan :=
  match scan.point with
  | some point => ⟨(scan.first.getD point, point) :: scan.done, none, none⟩
  | none => scan

/-- Takes up the next character of a table. -/
def push (scan : Scan) (c : Char) : Scan :=
  if c = ' ' || c = '\n' then scan.close
  else if c = '-' then { scan with first := scan.point, point := none }
  else { scan with point := some (16 * scan.point.getD 0 + digitValue c) }

end Scan

/-- The ranges of a table, in order. -/
def readRanges (table : String) : List (Nat × Nat) :=
  (table.foldl Scan.push {}).close.done.reverse

/-- The characters of a table. -/
def ofText (table : String) : CharSet :=
  ofRanges (readRanges table)

end CharSet

end StackProse
