import StackProse.Program.Problem
import StackProse.Source.Node
import StackProse.Text.Letter
import StackProse.Text.Quoted
import StackProse.Text.Units

/-!
# From source trees to blocks

`Program.ofNode` turns a source tree into nested blocks. The items of each statement are put in
reverse order, so that operands come before the word that takes them; statements keep their
order. A name right after a declaring word is declared by the block.

Whatever is wrong with the tree is reported as a problem and left out, and assembling goes on. Apart
from the reports there is a mark on a program that has to be refused.
-/

namespace StackProse

/-- The outcome of assembling: the outermost block and the problems in the order found. A program
that is rejected is never run by a session. -/
structure Program where
  root : Block
  problems : List Problem
  /-- Whether the program has to be refused. -/
  isRejected : Bool

/-- What assembling has come to so far. -/
structure Assembly where
  /-- The number of blocks begun. -/
  blocks : Nat := 0
  /-- The problems found, newest first. -/
  problems : List Problem := []
  /-- Whether the program has to be refused. -/
  refused : Bool := false

namespace Assembly

/-- A computation that numbers blocks and reports problems. -/
abbrev Assemble := StateM Assembly

/-- Reports a problem. -/
def report (cause : Problem.Cause) (span : Span) (position : Position) : Assemble Unit :=
  modify fun state => { state with problems := ⟨cause, span, position⟩ :: state.problems }

/-- Has the program refused. -/
def refuse : Assemble Unit :=
  modify fun state => { state with refused := true }

/-- Reports a problem and has the program refused for it. -/
def reject (cause : Problem.Cause) (span : Span) (position : Position) : Assemble Unit := do
  report cause span position
  refuse

/-- The number of the next block. -/
def freshIndex : Assemble Nat :=
  modifyGet fun state => (state.blocks, { state with blocks := state.blocks + 1 })

/-- The name of a symbol: its text without the backslash, in lowercase. -/
def symbolName (text : List Char) : String :=
  match text with
  | '\\' :: name => String.ofList (Letter.lowerText name)
  | name => String.ofList (Letter.lowerText name)

/-- The literal that a leaf stands for; none where the leaf is no literal or cannot be read. -/
def literalOf? (kind : NodeKind) (text : List Char) : Option Literal :=
  match kind with
  | .number => (Number.read? text).map .number
  | .string => some (.string (Units.ofChars (Quoted.unescape text)))
  | .boolean => some (.boolean (Token.isWordIgnoringCase "true" text))
  | .symbol => some (.symbol (symbolName text))
  | _ => none

/-- The problem with a leaf that is no literal. -/
def leafProblem (kind : NodeKind) (text : List Char) : Problem.Cause :=
  if kind = .error ∧ text ≠ [] then .unexpected (String.ofList text) else .malformed

/-- Enters the names that a statement declares. The items come in reverse order, with the item
after them in the source in `next`. The result is empty if a declaring word lacks its name: the
statement is then dropped, though the names found so far stay declared. -/
def declare (declared : Declarations) (next : Option Item) :
    List Item → Assemble (Declarations × Bool)
  | [] => return (declared, true)
  | .word keyword :: rest =>
      match Declaration.ofKeyword? keyword.name, next with
      | none, _ => declare declared (some (.word keyword)) rest
      | some declaration, some (.word name) => do
          if (declared.lookup name.name).isSome then
            report (.shadowed declaration name.name) name.span name.position
            refuse
            declare declared (some (.word keyword)) rest
          else
            declare (declared ++ [(name.name, declaration)]) (some (.word keyword)) rest
      | some declaration, _ => do
          report (.nameExpected declaration) keyword.span keyword.position
          refuse
          return (declared, false)
  | item :: rest => declare declared (some item) rest

mutual

/-- The item that a node becomes. Comments become none. -/
def itemOf (userCode : Bool) : Node → Assemble (Option Item)
  | .mk kind text span position missing children =>
      if missing then do
        reject (.missing (String.ofList text)) span position
        return none
      else
        match kind with
        | .comment => return none
        | .identifier =>
            return some (.word ⟨String.ofList (Letter.nameForm text), span, position⟩)
        | .block => do
            let index ← freshIndex
            let (declared, body) ← partsOf userCode [] [] children
            return some (.block (.mk index userCode declared body))
        | kind =>
            match literalOf? kind text with
            | some literal => return some (.literal literal)
            | none => do
                reject (leafProblem kind text) span position
                return none

/-- The items that nodes become, newest first, in front of those already `read`. -/
def itemsOf (userCode : Bool) (read : List Item) : List Node → Assemble (List Item)
  | [] => return read
  | node :: rest => do
      match ← itemOf userCode node with
      | some item => itemsOf userCode (item :: read) rest
      | none => itemsOf userCode read rest

/-- The declarations and the body of a block with the given parts. The body of the parts before
them is given newest first. -/
def partsOf (userCode : Bool) (declared : Declarations) (body : List Item) :
    List Node → Assemble (Declarations × List Item)
  | [] => return (declared, body.reverse)
  | .mk .statement _ _ _ _ children :: rest => do
      let items ← itemsOf userCode [] children
      let (declared, complete) ← declare declared none items
      partsOf userCode declared (if complete then items.reverse ++ body else body) rest
  | node :: rest => do
      match ← itemOf userCode node with
      | some item => partsOf userCode declared (item :: body) rest
      | none => partsOf userCode declared body rest

end

/-- The outermost block of a file with the given parts. -/
def rootOf (userCode : Bool) (parts : List Node) : Assemble Block := do
  let index ← freshIndex
  let (declared, body) ← partsOf userCode [] [] parts
  return .mk index userCode declared body

end Assembly

/-- The program of a source tree. -/
def Program.ofNode (userCode : Bool) (node : Node) : Program :=
  let (root, state) := (Assembly.rootOf userCode node.children).run {}
  ⟨root, state.problems.reverse, state.refused⟩

/-- The program of a source text. -/
def Program.ofSource (userCode : Bool) (source : List Char) : Program :=
  .ofNode userCode (.ofSource source)

end StackProse
