import StackProse.Builtin.Basic

/-!
# Arithmetic

Words on numbers. The operand written second is the one that is subtracted from, divided or
reduced. A word whose result would not be finite fails instead.
-/

namespace StackProse.Builtin

/-- A number that has to be finite. -/
def finite (x : Float) : Except Failure Value :=
  if x.isFinite then .ok (.ofFloat x) else .error .notFinite

/-- A word on one number. -/
def unary (name : String) (apply : Float → Except Failure Value) : Builtin :=
  single name [⟨"operand", .number⟩] .number fun operands => do
    apply (← operands.number 0)

/-- A word on two numbers. -/
def binary (name : String) (apply : Operation) : Builtin :=
  single name [⟨"operand", .number⟩, ⟨"operand", .number⟩] .number apply

/-- Whether a number lies between `-1` and `1`. -/
def inUnitInterval (x : Float) : Bool :=
  -1 ≤ x && x ≤ 1

/-- The words on numbers. -/
def arithmetic : List Builtin := [
  binary "+" fun operands => do
    finite ((← operands.number 0) + (← operands.number 1)),
  binary "-" fun operands => do
    finite ((← operands.number 1) - (← operands.number 0)),
  binary "*" fun operands => do
    finite ((← operands.number 0) * (← operands.number 1)),
  binary "/" fun operands => do
    let divisor ← operands.number 0
    if divisor == 0 then throw .divisionByZero
    finite ((← operands.number 1) / divisor),
  binary "Modulo" fun operands => do
    let divisor ← operands.number 0
    if divisor == 0 then throw .moduloByZero
    finite (Binary.remainder (← operands.number 1) divisor),
  unary "Sqrt" fun x => if x < 0 then throw .negativeRoot else finite x.sqrt,
  unary "Ln" fun x => if x ≤ 0 then throw .nonPositiveLog else finite x.log,
  single "Log" [⟨"base", .number⟩, ⟨"operand", .number⟩] .number fun operands => do
    let base ← operands.number 0
    let x ← operands.number 1
    if base ≤ 0 || base == 1 then throw .invalidBase
    else if x ≤ 0 then throw .nonPositiveLog
    else finite (x.log / base.log),
  unary "Exp" fun x => finite x.exp,
  unary "Sin" fun x => finite x.sin,
  unary "Cos" fun x => finite x.cos,
  unary "Tan" fun x => finite x.tan,
  unary "Asin" fun x => if inUnitInterval x then finite x.asin else throw .asinRange,
  unary "Acos" fun x => if inUnitInterval x then finite x.acos else throw .acosRange,
  unary "Atan" fun x => finite x.atan,
  unary "Floor" fun x => finite x.floor,
  unary "Ceiling" fun x => finite x.ceil,
  unary "Round" fun x => finite x.round,
  unary "Abs" fun x => finite x.abs]

end StackProse.Builtin
