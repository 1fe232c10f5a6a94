import StackProse.Source.Token

/-!
# Source trees

`Node.ofSource` arranges the tokens of a source text into a tree of statements and blocks.
Arranging never fails. What does not fit the grammar stays in the tree as an `error` node: a
token that no rule knows, a closing parenthesis without a block to close, a block that nests too
deeply, and, where the text ends inside a block, a missing closing parenthesis.

The tree is built by one pass over the tokens. A `Draft` holds the blocks that are still open,
so the pass is a fold and needs no recursion into nested blocks.
-/

namespace StackProse

/-- What a node of the tree stands for. -/
inductive NodeKind
  | sourceFile
  | statement
  | block
  | identifier
  | number
  | string
  | boolean
  | symbol
  | comment
  | error
  deriving Repr, DecidableEq, Inhabited

namespace NodeKind

/-- The name of a kind of node. -/
def name : NodeKind → String
  | sourceFile => "source_file"
  | statement => "statement"
  | block => "block"
  | identifier => "identifier"
  | number => "number"
  | string => "string"
  | boolean => "boolean"
  | symbol => "symbol"
  | comment => "comment"
  | error => "ERROR"

/-- Every kind of node. -/
def all : List NodeKind :=
  [sourceFile, statement, block, identifier, number, string, boolean, symbol, comment, error]

/-- The kind with a given name. -/
def ofName? (wanted : String) : Option NodeKind :=
  all.find? (·.name == wanted)

/-- The kind of the leaf that a token becomes. Tokens that are no leaves of their own are
errors where they have to become one. -/
def ofToken : TokenKind → NodeKind
  | .identifier => identifier
  | .number => number
  | .string => string
  | .boolean => boolean
  | .symbol => symbol
  | .comment => comment
  | .semicolon | .opening | .closing | .unknown => error

end NodeKind

/-- A node of the source tree. Leaves have a text, branches have children. A missing node
stands for a text that was expected at its place. -/
inductive Node
  | mk (kind : NodeKind) (text : List Char) (span : Span) (position : Position) (missing : Bool)
      (children : List Node)
  deriving Repr, Inhabited

namespace Node

/-- What the node stands for. -/
def kind : Node → NodeKind
  | mk kind _ _ _ _ _ => kind

/-- The source text of a leaf, and nothing for a branch. -/
def text : Node → List Char
  | mk _ text _ _ _ _ => text

/-- The bytes covered. -/
def span : Node → Span
  | mk _ _ span _ _ _ => span

/-- The position of the first byte covered. -/
def position : Node → Position
  | mk _ _ _ position _ _ => position

/-- Whether the node stands for a text that was expected and not found. -/
def missing : Node → Bool
  | mk _ _ _ _ missing _ => missing

/-- The parts of a branch, in source order. -/
def children : Node → List Node
  | mk _ _ _ _ _ children => children

/-- A node with a text and no parts. -/
def leaf (kind : NodeKind) (text : List Char) (span : Span) (position : Position) : Node :=
  mk kind text span position false []

/-- A node with parts and no text. -/
def branch (kind : NodeKind) (span : Span) (position : Position) (children : List Node) : Node :=
  mk kind [] span position false children

/-- The expected text `expected`, which the source lacks at `offset`. -/
def absent (expected : List Char) (offset : Nat) (position : Position) : Node :=
  mk .error expected ⟨offset, offset⟩ position true []

mutual

/-- Whether the node or a node below it is an error. -/
def hasErrors : Node → Bool
  | mk kind _ _ _ _ children => kind == .error || anyHasErrors children

/-- Whether one of the nodes has an error. -/
def anyHasErrors : List Node → Bool
  | [] => false
  | node :: rest => node.hasErrors || anyHasErrors rest

end

end Node

/-! ### Building the tree -/

/-- The parts of a file or block that is being read, newest first. -/
structure Draft.Part where
  /-- The finished statements and the comments between them. -/
  done : List Node := []
  /-- The items of the statement that is being read. -/
  items : List Node := []
  deriving Inhabited

/-- A block that nests too deeply, while its tokens are passed over. -/
structure Draft.Skipped where
  /-- The parenthesis that opened the block. -/
  opening : Token
  /-- The number of parentheses open inside it, with its own. -/
  nesting : Nat
  /-- The end of the last token passed over. -/
  stop : Nat
  deriving Inhabited

/-- A tree in the making. -/
structure Draft where
  /-- The innermost open block, or the file. -/
  inner : Draft.Part := {}
  /-- The parentheses of the open blocks, each with the part of the tree around its block,
  innermost first. -/
  outer : List (Token × Draft.Part) := []
  /-- The block that is being passed over, if there is one. -/
  skipped : Option Draft.Skipped := none
  deriving Inhabited

namespace Draft

/-- Blocks may nest this deep. -/
def maxDepth : Nat := 1000

namespace Part

/-- Adds an item to the statement that is being read. -/
def add (part : Part) (item : Node) : Part :=
  { part with items := item :: part.items }

/-- The statement made of the given items, which spans from the first to the last. -/
def statementOf (first : Node) (items : List Node) : Node :=
  .branch .statement ⟨first.span.start, (items.getLastD first).span.stop⟩ first.position items

/-- Ends the statement that is being read. Comments alone make no statement. -/
def close (part : Part) : Part :=
  if part.items.all (·.kind == .comment) then
    { done := part.items ++ part.done }
  else
    match part.items.reverse with
    | [] => { done := part.done }
    | first :: rest => { done := statementOf first (first :: rest) :: part.done }

/-- The finished parts in source order. -/
def nodes (part : Part) : List Node :=
  part.close.done.reverse

end Part

variable (starts : List Nat)

/-- The leaf that a token becomes. -/
def leafOf (kind : NodeKind) (token : Token) : Node :=
  .leaf kind token.text token.span (.ofOffset starts token.start)

/-- The block opened by `opening` that ends at `stop`. -/
def blockOf (opening : Token) (stop : Nat) (children : List Node) : Node :=
  .branch .block ⟨opening.start, stop⟩ (.ofOffset starts opening.start) children

/-- The error that a block passed over leaves in the tree. -/
def skippedLeaf (skipped : Skipped) : Node :=
  .leaf .error skipped.opening.text ⟨skipped.opening.start, skipped.stop⟩
    (.ofOffset starts skipped.opening.start)

/-- Adds an item to the statement that is being read. -/
def add (draft : Draft) (item : Node) : Draft :=
  { draft with inner := draft.inner.add item }

/-- Passes over a token of a block that nests too deeply. -/
def skip (draft : Draft) (skipped : Skipped) (token : Token) : Draft :=
  let nesting :=
    match token.kind with
    | .opening => skipped.nesting + 1
    | .closing => skipped.nesting - 1
    | _ => skipped.nesting
  let skipped := { skipped with nesting := nesting, stop := token.span.stop }
  if nesting = 0 then
    add { draft with skipped := none } (skippedLeaf starts skipped)
  else
    { draft with skipped := some skipped }

/-- Takes up one token. -/
def step (draft : Draft) (token : Token) : Draft :=
  match draft.skipped with
  | some skipped => draft.skip starts skipped token
  | none =>
      match token.kind with
      | .semicolon => { draft with inner := draft.inner.close }
      | .opening =>
          if maxDepth ≤ draft.outer.length then
            { draft with skipped := some ⟨token, 1, token.span.stop⟩ }
          else
            { draft with inner := {}, outer := (token, draft.inner) :: draft.outer }
      | .closing =>
          match draft.outer with
          | [] => draft.add (leafOf starts .error token)
          | (opening, around) :: outer =>
              let block := blockOf starts opening token.span.stop draft.inner.nodes
              { draft with inner := around.add block, outer := outer }
      | kind => draft.add (leafOf starts (.ofToken kind) token)

/-- Closes the blocks that the text leaves open at its end. Each of them gets a missing
parenthesis as its last part. -/
def closeAll (stop : Nat) (inner : Part) : List (Token × Part) → List Node
  | [] => inner.nodes
  | (opening, around) :: outer =>
      let absent := Node.absent [')'] stop (.ofOffset starts stop)
      let block := blockOf starts opening stop (inner.nodes ++ [absent])
      closeAll stop (around.add block) outer

/-- The parts of the file whose text ends at `stop`. -/
def finish (draft : Draft) (stop : Nat) : List Node :=
  match draft.skipped with
  | none => closeAll starts stop draft.inner draft.outer
  | some skipped =>
      closeAll starts stop (draft.inner.add (skippedLeaf starts skipped)) draft.outer

end Draft

/-- The tree of a source text. -/
def Node.ofSource (source : List Char) : Node :=
  let starts := lineStarts source
  let stop := utf8Length source
  let draft := (Token.scan source).foldl (Draft.step starts) {}
  .branch .sourceFile ⟨0, stop⟩ {} (draft.finish starts stop)

end StackProse
