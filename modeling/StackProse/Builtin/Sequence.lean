import StackProse.Builtin.Basic
import StackProse.Text.Letter

/-!
# Lists and strings

Words on lists and on strings. A list is read from the item pushed last, so that item is its
first. Strings are read by code units, and their places count from zero.
-/

namespace StackProse.Builtin

/-- Ranges are no longer than this. -/
def maxRangeLength : Float := 16777216

/-- The numbers from `start` on, in steps of one, that stay below `stop`. -/
def range (start stop : Float) : Except Failure Value :=
  let count := (stop - start).ceil
  if count.isNaN || maxRangeLength < count then throw (.rangeTooLong start stop)
  else
    let places := List.range (Number.larger count 0).toUInt64.toNat
    return .list (places.map fun place => .ofFloat (start + Number.ofCount place))

/-- A place in a string. -/
def place (x : Float) : Except Failure Nat :=
  if Number.isInteger x && 0 ≤ x then .ok x.toUInt64.toNat else .error (.invalidIndex x)

/-- The units from place `start` to place `stop`, both included. -/
def substring (units : List UInt16) (start stop : Nat) : Except Failure Value :=
  if stop < start || units.length ≤ stop then throw (.outOfBounds start stop units.length)
  else return .ofUnits ((units.drop start).take (stop + 1 - start))

/-- Cuts units at every occurrence of a separator that is not empty. The piece that is being read
is given in reverse, and so are the pieces `found` before it; `skip` units of an occurrence are
still to be passed over. -/
def splitFrom (separator piece : List UInt16) (found : List (List UInt16)) (skip : Nat) :
    List UInt16 → List (List UInt16)
  | [] => (piece.reverse :: found).reverse
  | unit :: rest =>
      match skip with
      | skip + 1 => splitFrom separator piece found skip rest
      | 0 =>
          if separator.isPrefixOf (unit :: rest) then
            splitFrom separator [] (piece.reverse :: found) (separator.length - 1) rest
          else
            splitFrom separator (unit :: piece) found 0 rest

/-- Cuts units at every occurrence of a separator. The empty separator cuts everywhere. -/
def split (separator units : List UInt16) : List (List UInt16) :=
  if separator.isEmpty then units.map ([·]) else splitFrom separator [] [] 0 units

/-- The number that a text writes, which has to be finite. -/
def readNumber (units : List UInt16) : Except Failure Value :=
  let text := Units.toChars units
  match Number.read? (Letter.trim text) with
  | some x =>
      if x.toFloat.isFinite then .ok (.number x)
      else .error (.notANumber (String.ofList text))
  | none => .error (.notANumber (String.ofList text))

/-- The string of the one code unit with a given number. -/
def character (code : Float) : Except Failure Value :=
  if Number.isInteger code && 0 ≤ code && code ≤ 65535 then
    .ok (.ofUnits [UInt16.ofNat code.toUInt64.toNat])
  else .error (.invalidCharacter code)

/-- A word that changes the text of a string. -/
def textWord (name : String) (change : List Char → List Char) : Builtin :=
  single name [⟨"string", .string⟩] .string fun operands => do
    return .ofUnits (Units.ofChars (change (Units.toChars (← operands.units 0))))

/-- The words on lists. -/
def lists : List Builtin := [
  single "Push" [⟨"item to push", .any⟩, ⟨"list to push to", .list⟩] .list fun operands => do
    let items ← operands.items 1
    return .list ((← operands.value 0) :: items),
  single "Empty" [] .list fun _ => return .list [],
  single "Range" [⟨"start", .number⟩, ⟨"end", .number⟩] .list fun operands => do
    range (← operands.number 0) (← operands.number 1),
  single "Reverse" [⟨"list", .list⟩] .list fun operands => do
    return .list (← operands.items 0).reverse]

/-- The words that take a list or a string. -/
def sequences : List Builtin := [
  overloaded "First" [
    (.list, .any, fun operands => do
      match ← operands.items 0 with
      | [] => throw .firstOfEmptyList
      | first :: _ => return first),
    (.string, .string, fun operands => do
      match ← operands.units 0 with
      | [] => throw .firstOfEmptyString
      | first :: _ => return .ofUnits [first])],
  overloaded "Rest" [
    (.list, .list, fun operands => do
      match ← operands.items 0 with
      | [] => throw .restOfEmptyList
      | _ :: rest => return .list rest),
    (.string, .string, fun operands => do
      match ← operands.units 0 with
      | [] => throw .restOfEmptyString
      | _ :: rest => return .ofUnits rest)],
  overloaded "Length" [
    (.list, .number, fun operands => do
      return .ofFloat (Number.ofCount (← operands.items 0).length)),
    (.string, .number, fun operands => do
      return .ofFloat (Number.ofCount (← operands.units 0).length))],
  overloaded "Empty?" [
    (.list, .boolean, fun operands => do
      return .boolean (← operands.items 0).isEmpty),
    (.string, .boolean, fun operands => do
      return .boolean (← operands.units 0).isEmpty)]]

/-- The words on strings. -/
def strings : List Builtin := [
  single "Join" [⟨"string", .string⟩, ⟨"string", .string⟩] .string fun operands => do
    let first ← operands.units 0
    let second ← operands.units 1
    return .ofUnits (first ++ second),
  single "Substring" [⟨"start", .number⟩, ⟨"end", .number⟩, ⟨"string", .string⟩] .string
    fun operands => do
      let units ← operands.units 2
      let start ← place (← operands.number 0)
      let stop ← place (← operands.number 1)
      substring units start stop,
  single "Split" [⟨"separator", .string⟩, ⟨"string", .string⟩] .list fun operands => do
    let separator ← operands.units 0
    let units ← operands.units 1
    return .list ((split separator units).map .ofUnits),
  textWord "Uppercase" Letter.upperText,
  textWord "Lowercase" Letter.lowerText,
  single "Ordinal" [⟨"character", .string⟩] .number fun operands => do
    match ← operands.units 0 with
    | [unit] => return .ofFloat (Number.ofCount unit.toNat)
    | _ => throw .notOneCharacter,
  single "Character" [⟨"ordinal", .number⟩] .string fun operands => do
    character (← operands.number 0),
  single "Number" [⟨"string", .string⟩] .number fun operands => do
    readNumber (← operands.units 0)]

end StackProse.Builtin
