import StackProse.Text.Letter

/-!
# The call limit

How deep blocks may run inside each other can be set from outside, by a text with a positive
number. Any other text is passed over.
-/

namespace StackProse.Limit

/-- The limit if none is set. -/
def default : Nat := 3000

/-- The largest number that a text can give. -/
def maxCount : Nat := 0xFFFFFFFFFFFFFFFF

/-- Reads a natural number of machine size: digits, with a plus sign in front or without. -/
def readCount? (text : List Char) : Option Nat :=
  let digits := match text with
    | '+' :: digits => digits
    | digits => digits
  if digits.isEmpty || !digits.all Char.isDigit then none
  else
    let value := digits.foldl (fun value c => 10 * value + (c.toNat - '0'.toNat)) 0
    if value ≤ maxCount then some value else none

/-- The limit that a text sets. -/
def ofSetting? (text : String) : Option Nat :=
  (readCount? (Letter.trim text.toList)).filter (0 < ·)

/-- The limit under a setting. -/
def ofSetting (setting : Option String) : Nat :=
  (setting.bind ofSetting?).getD default

end StackProse.Limit
