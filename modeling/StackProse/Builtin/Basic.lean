import StackProse.Number.Basic
import StackProse.Value.Written

/-!
# Builtin words

A builtin word takes operands from the stack, computes, and pushes one result. Its signature names
the operands in the order in which they are written and gives their types. A word can have several
signatures, told apart by the type of the first operand.

A computation reads its operands by their index and fails with a `Failure` where it has no result.
It checks the kinds of its operands itself, so it is total on every list of operands.
-/

namespace StackProse

/-- What an operand or a result has to be. -/
inductive ParamType
  | any
  | kind (kind : Kind)
  deriving Repr, DecidableEq, Inhabited

namespace ParamType

/-- Whether a value is of the type. -/
def accepts : ParamType → Value → Bool
  | any, _ => true
  | kind wanted, value => value.kind == wanted

/-- The name of a type. -/
def name : ParamType → String
  | any => "any"
  | kind wanted => wanted.name

/-- The type of numbers. -/
abbrev number : ParamType := kind .number

/-- The type of booleans. -/
abbrev boolean : ParamType := kind .boolean

/-- The type of strings. -/
abbrev string : ParamType := kind .string

/-- The type of lists. -/
abbrev list : ParamType := kind .list

/-- The type of tables. -/
abbrev table : ParamType := kind .table

end ParamType

/-- An operand of a builtin word. -/
structure Param where
  name : String
  type : ParamType
  deriving Repr, DecidableEq, Inhabited

/-- Why a builtin word has no result. -/
inductive Failure
  | notA (index : Nat) (kind : Kind)
  | missing (index : Nat)
  | notZero
  | notInteger
  | divisionByZero
  | moduloByZero
  | negativeRoot
  | nonPositiveLog
  | invalidBase
  | asinRange
  | acosRange
  | notFinite
  | rangeTooLong (start stop : Float)
  | firstOfEmptyList
  | firstOfEmptyString
  | restOfEmptyList
  | restOfEmptyString
  | invalidIndex (index : Float)
  | outOfBounds (start stop length : Nat)
  | notOneCharacter
  | invalidCharacter (code : Float)
  | notANumber (text : String)
  | unorderedKey (kind : Kind)
  | keyNotFound (key : Value)

namespace Failure

/-- The text of a failure. Only the key of a table is looked up in the heap. -/
def message (heap : Heap) : Failure → String
  | notA index kind => "operand " ++ toString index ++ " is not a " ++ kind.name
  | missing index => "operand " ++ toString index ++ " is missing"
  | notZero => "zero assertion failed"
  | notInteger => "integer assertion failed"
  | divisionByZero => "division by zero"
  | moduloByZero => "modulo by zero"
  | negativeRoot => "sqrt of a negative number"
  | nonPositiveLog => "log of a non-positive number"
  | invalidBase => "invalid logarithm base"
  | asinRange => "asin argument out of range"
  | acosRange => "acos argument out of range"
  | notFinite => "result is not a finite number"
  | rangeTooLong start stop =>
      "range from " ++ Number.floatText start ++ " to " ++ Number.floatText stop ++ " is too long"
  | firstOfEmptyList => "attempt to get first item of empty list"
  | firstOfEmptyString => "attempt to get first character of empty string"
  | restOfEmptyList => "attempt to get rest of empty list"
  | restOfEmptyString => "attempt to get rest of empty string"
  | invalidIndex index => Decimal.exactText index ++ " is not a valid index"
  | outOfBounds start stop length =>
      "range " ++ toString start ++ ".." ++ toString stop ++
        " out of bounds for string of length " ++ toString length
  | notOneCharacter => "expected a string of exactly one character"
  | invalidCharacter code => Decimal.exactText code ++ " is not a valid character code"
  | notANumber text => "cannot parse \"" ++ text ++ "\" as a number"
  | unorderedKey kind => "cannot use a " ++ kind.name ++ " as a table key"
  | keyNotFound key => "key " ++ (heap.printed key).text ++ " not found in table"

end Failure

/-- The operands of a builtin word, the one written first in front. -/
abbrev Operands := List Value

namespace Operands

/-- The operand at an index, whatever its kind. -/
def value (operands : Operands) (index : Nat) : Except Failure Value :=
  match operands[index]? with
  | some value => .ok value
  | none => .error (.missing index)

/-- The operand at an index, read as a value of a kind. -/
def read {α : Type} (kind : Kind) (as? : Value → Option α) (operands : Operands) (index : Nat) :
    Except Failure α :=
  match operands[index]?.bind as? with
  | some result => .ok result
  | none => .error (.notA index kind)

/-- The number at an index, as a double. -/
def number (operands : Operands) (index : Nat) : Except Failure Float :=
  (operands.read .number Value.number? index).map Number.toFloat

/-- The boolean at an index. -/
def boolean : Operands → Nat → Except Failure Bool :=
  read .boolean Value.boolean?

/-- The code units of the string at an index. -/
def units : Operands → Nat → Except Failure (List UInt16) :=
  read .string Value.units?

/-- The items of the list at an index. -/
def items : Operands → Nat → Except Failure (List Value) :=
  read .list Value.items?

/-- The table at an index. -/
def table : Operands → Nat → Except Failure (Table Value Value) :=
  read .table Value.table?

end Operands

/-- A computation on operands. -/
abbrev Operation := Operands → Except Failure Value

/-- The operands and the result of a builtin word, and how the result is computed. -/
structure Signature where
  params : List Param
  returns : ParamType
  apply : Operation

/-- A builtin word. -/
structure Builtin where
  name : String
  /-- The signature, or several of them to choose from by the first operand. -/
  choice : Signature ⊕ List Signature

namespace Builtin

/-- All signatures of a word. -/
def signatures (builtin : Builtin) : List Signature :=
  match builtin.choice with
  | .inl signature => [signature]
  | .inr overloads => overloads

/-- The types that the first operand may have. -/
def firstTypes (builtin : Builtin) : List String :=
  builtin.signatures.filterMap fun signature => signature.params.head?.map (·.type.name)

/-- A word with one signature. -/
def single (name : String) (params : List Param) (returns : ParamType) (apply : Operation) :
    Builtin :=
  ⟨name, .inl ⟨params, returns, apply⟩⟩

/-- A word with a signature for each kind of its only operand. -/
def overloaded (name : String) (overloads : List (Kind × ParamType × Operation)) : Builtin :=
  ⟨name, .inr <| overloads.map fun (kind, returns, apply) =>
    ⟨[⟨kind.name, .kind kind⟩], returns, apply⟩⟩

end Builtin

end StackProse
