import StackProse.Number.Basic
import StackProse.Source.Span

/-!
# Blocks

A program is a block: a row of items that are run from left to right. An item pushes a literal,
pushes a nested block, or is a word to look up. The operands of a word stand before it, so running
needs no lookahead but one: a word right before a naming word is not looked up but named.

A block also lists the names that it declares. Names are looked up through the chain of enclosing
blocks, a `Scope`.
-/

namespace StackProse

/-- What a declared name stands for. -/
inductive Declaration
  | function
  | value
  deriving Repr, DecidableEq, Inhabited

namespace Declaration

/-- The word that declares. -/
def keyword : Declaration → String
  | function => "Def"
  | value => "Let"

/-- The declaration that a word makes. -/
def ofKeyword? (word : String) : Option Declaration :=
  if word = "Def" then some function
  else if word = "Let" then some value
  else none

end Declaration

/-- A value written in the source. -/
inductive Literal
  | number (value : Number)
  | string (units : List UInt16)
  | boolean (value : Bool)
  | symbol (name : String)
  deriving Inhabited

/-- A word of the source: its name and where it stands. -/
structure Word where
  name : String
  span : Span := {}
  position : Position := {}
  deriving Repr, DecidableEq, Inhabited

/-- The names that a block declares, each at most once. -/
abbrev Declarations := List (String × Declaration)

/-- Which code a block is. -/
inductive CodeId
  /-- A block that stands in no source, since the machine makes it itself. -/
  | made (index : Nat)
  /-- A block of a source, by its number there. -/
  | source (index : Nat)
  deriving Repr, DecidableEq, Inhabited

/-- The number of a code among those like it. -/
def CodeId.index : CodeId → Nat
  | made index | source index => index

instance : Coe Nat CodeId := ⟨.source⟩

mutual

/-- One step of a block. -/
inductive Item
  | literal (value : Literal)
  | word (word : Word)
  | block (block : Block)

/-- A block: which code it is, whether a user wrote it, the names it declares and its items. -/
inductive Block
  | mk (id : CodeId) (userCode : Bool) (declared : Declarations) (body : List Item)

end

instance : Inhabited Block := ⟨.mk default false [] []⟩

instance : Inhabited Item := ⟨.block default⟩

namespace Block

/-- Which code the block is. -/
def id : Block → CodeId
  | mk id _ _ _ => id

/-- The number of the block among the blocks of its source. -/
def index (block : Block) : Nat :=
  block.id.index

/-- Whether mistakes in the block are shown at their place in the source. -/
def userCode : Block → Bool
  | mk _ userCode _ _ => userCode

/-- The place of the code among all codes. The machine has its own ones first, then come those of the
prelude and then those of a user, each in the order of their numbers. -/
def place (block : Block) : Nat × Nat :=
  match block.id, block.userCode with
  | .made index, _ => (0, index)
  | .source index, false => (1, index)
  | .source index, true => (2, index)

/-- The names that the block declares. -/
def declared : Block → Declarations
  | mk _ _ declared _ => declared

/-- The items, in the order in which they run. -/
def body : Block → List Item
  | mk _ _ _ body => body

end Block

/-- The declarations of the blocks around a place, innermost first. -/
abbrev Scope := List Declarations

namespace Scope

/-- The innermost declaration of a name. -/
def find? (scope : Scope) (name : String) : Option Declaration :=
  scope.findSome? (·.lookup name)

end Scope

end StackProse
