import StackProse.Builtin.Basic
import StackProse.Value.Order

/-!
# Comparison, logic and checks

Words that answer with a boolean, the checks that let a number pass or fail, and the choice
between two values. A comparison asks about the operand written second: `< 3 X` asks whether `X`
is below three.
-/

namespace StackProse.Builtin

/-- A word that compares two values. -/
def comparison (name : String) (test : Ordering → Bool) : Builtin :=
  single name [⟨"operand", .any⟩, ⟨"operand", .any⟩] .boolean fun operands => do
    let left ← operands.value 1
    let right ← operands.value 0
    return .boolean (test (left.compare right))

/-- A word on two booleans. -/
def connective (name : String) (apply : Operation) : Builtin :=
  single name [⟨"operand", .boolean⟩, ⟨"operand", .boolean⟩] .boolean apply

/-- A word that asks something about a number, and answers no for any other value. -/
def numberTest (name : String) (test : Float → Bool) : Builtin :=
  single name [⟨"value", .any⟩] .boolean fun operands => do
    return .boolean ((← operands.value 0).number?.any (test ·.toFloat))

/-- A word that lets a number pass if it has a property. -/
def numberCheck (name param : String) (test : Float → Bool) (failure : Failure) : Builtin :=
  single name [⟨param, .number⟩] .number fun operands => do
    let x ← operands.number 0
    if test x then return .ofFloat x else throw failure

/-- The checks of numbers and the choice between two values. -/
def checks : List Builtin := [
  numberTest "Zero?" (· == 0),
  numberCheck "Zero!" "zero" (· == 0) .notZero,
  numberTest "Integer?" Number.isInteger,
  numberCheck "Integer!" "integer" Number.isInteger .notInteger,
  single "If" [⟨"condition", .boolean⟩, ⟨"'then' clause", .any⟩, ⟨"'else' clause", .any⟩] .any
    fun operands => do
      if ← operands.boolean 0 then operands.value 1 else operands.value 2]

/-- Comparisons. -/
def comparisons : List Builtin := [
  comparison "==" Ordering.isEq,
  comparison "!=" Ordering.isNe,
  comparison "<" Ordering.isLT,
  comparison ">" Ordering.isGT,
  comparison "<=" Ordering.isLE,
  comparison ">=" Ordering.isGE]

/-- Logic. -/
def connectives : List Builtin := [
  single "Not" [⟨"operand", .boolean⟩] .boolean fun operands => do
    return .boolean !(← operands.boolean 0),
  connective "And" fun operands => do
    if ← operands.boolean 0 then return .boolean (← operands.boolean 1)
    else return .boolean false,
  connective "Or" fun operands => do
    if ← operands.boolean 0 then return .boolean true
    else return .boolean (← operands.boolean 1),
  connective "Xor" fun operands => do
    let a ← operands.boolean 0
    let b ← operands.boolean 1
    return .boolean (a != b)]

end StackProse.Builtin
