import StackProse.Machine.Basic
import StackProse.Machine.Keyword

/-!
# Words that run no blocks

How the machine carries out builtin words, the keywords that run no blocks, and the blocks that
patterns become.
-/

namespace StackProse.Machine

/-! ### Builtin words -/

/-- Pops the operands for parameters and adds them to those taken already. -/
def popOperands (taken : Operands) : List Param → Run Operands
  | [] => return taken.reverse
  | param :: rest => do
      let value ← pop param.name
      if param.type.accepts value then popOperands (value :: taken) rest
      else fail (.mismatch param.type.name value.kind)

/-- Chooses a signature by the first operand. The operand is popped and given along. -/
def chooseOverload (builtin : Builtin) (overloads : List Signature) :
    Run (Signature × Value) := fun machine =>
  let expected := ", ".intercalate builtin.firstTypes
  match machine.stack with
  | [] => .error (.fault ⟨.missingOverload expected, []⟩) machine
  | first :: rest =>
      let machine := { machine with stack := rest }
      match overloads.find? (·.params.head?.any (·.type.accepts first)) with
      | some signature => .ok (signature, first) machine
      | none => .error (.fault ⟨.noOverload expected first.kind, []⟩) machine

/-- Computes the result of a builtin word and pushes it. -/
def applySignature (name : String) (signature : Signature) (operands : Operands) : Run Unit := do
  match signature.apply operands with
  | .ok result => push result
  | .error failure => do
      let reason := failure.message (← get).heap
      throw (.fault ⟨.failed reason, [.word name]⟩)

/-- Carries out a builtin word. -/
def runBuiltin (builtin : Builtin) : Run Unit := do
  match builtin.choice with
  | .inl signature => do
      let operands ← popOperands [] signature.params
      applySignature builtin.name signature operands
  | .inr overloads => do
      let (signature, first) ← chooseOverload builtin overloads
      let operands ← popOperands [first] (signature.params.drop 1)
      applySignature builtin.name signature operands

/-! ### Patterns -/

/-- The name to which leaving a block is bound. -/
def escapeName : String := "\x23exit-begin"

/-- The name to which matching a pattern is bound. -/
def matcherName : String := "#apply-regex"

/-- A block with a single word, which the machine makes itself. -/
def wordBlock (name : String) : Block :=
  .mk (.made ([escapeName, matcherName].idxOf name)) false [] [.word { name := name }]

/-- Pushes a block that does what `binding` says. The block has a frame of its own. -/
def pushBound (name : String) (binding : Binding) : Run Unit := do
  let frame ← addFrame { bindings := [(name, binding)] }
  push (.block (wordBlock name) (some frame))

/-- Makes a block of a pattern. -/
def makeMatcher (captures : Bool) : Run Unit := do
  let text ← popAs "regex string" .string text?
  if text.isEmpty then fail (.failed "empty regex is invalid")
  match (← get).engine.compile text with
  | .ok pattern => pushBound matcherName (.matcher pattern captures)
  | .error reason => fail (.failed ("regex compile error: " ++ reason))

/-- Matches a pattern against a string. With `captures` the groups are pushed, the first one on
top, and then whether the pattern matches. -/
def applyMatcher (pattern : Matcher) (captures : Bool) : Run Unit := do
  let text ← popAs "string" .string text?
  if captures then
    match pattern.captures? text with
    | some groups => do
        let values := groups.map fun group => Value.ofUnits (Units.ofChars group)
        modify fun machine => { machine with stack := .boolean true :: (values ++ machine.stack) }
    | none => push (.boolean false)
  else push (.boolean (pattern.isMatch text))

/-! ### Keywords -/

/-- The box that a name is bound to. -/
def boxNamed (frame : FrameId) (name : String) : Run BoxId := do
  match ← lookup frame name with
  | some (.value (.box id)) => return id
  | some (.value other) => fail (.mismatch Kind.box.name other.kind)
  | some (.pending _) => fail (.usedBeforeDeclaration name)
  | some _ => fail (.mismatch Kind.box.name .block)
  | none => fail (.unknownSymbol name)

/-- Pops a box, or the name of one. -/
def popBox (frame : FrameId) : Run BoxId := do
  match ← pop "box" with
  | .identifier name => boxNamed frame name
  | .box id => return id
  | other => fail (.mismatch Kind.box.name other.kind)

/-- Pops a value and prints it. -/
def printTop (newline : Bool) : Run Unit := do
  let value ← pop "value"
  modify fun machine =>
    { machine with console := machine.console.print (machine.heap.printed value) newline }

/-- Makes a box of the top of the stack. -/
def makeBox : Run Unit := do
  let value ← pop "value"
  modify fun machine =>
    let (id, heap) := machine.heap.alloc value
    { machine with heap := heap, stack := .box id :: machine.stack }

/-- Replaces a box by its content. -/
def openBox : Run Unit := do
  let id ← popAs "box" .box box?
  match (← get).heap.get? id with
  | some value => push value
  | none => fail (.underflow "value")

/-- Replaces a value by a string of what it is printed as. -/
def showTop : Run Unit := do
  let value ← pop "value"
  let printed := (← get).heap.printed value
  push (.string (Units.ofString printed.text) printed.style)

/-- Fails unless the top of the stack is of a kind. -/
def requireKind (kind : Kind) : Run Unit := do
  match (← get).stack with
  | [] => fail (.underflow "value")
  | value :: _ => if value.kind != kind then fail (.assertionFailed kind)

/-- Fails with a text of the program. -/
def raise : Run Unit := do
  let text ← within (.word Keyword.error.name) (popAs "error message" .string text?)
  fail (.user (String.ofList text))

/-- Carries out a keyword that neither runs a block nor ends the run on purpose, in a frame. The
other keywords do nothing here. -/
def runPlain (frame : FrameId) : Keyword → Run Unit
  | .define => do
      let name ← popAs "identifier" .identifier name?
      let body ← popClosure "function body"
      bind frame name (.function body)
  | .bind => do
      let name ← popAs "identifier" .identifier name?
      let value ← pop "value to set"
      bind frame name (.value value)
  | .assign => do
      let id ← popBox frame
      let value ← pop "value to set"
      modify fun machine => { machine with heap := machine.heap.set id value }
  | .box => makeBox
  | .unbox => openBox
  | .stack => modify fun machine =>
      { machine with stack := .list machine.stack :: machine.stack }
  | .clear => modify fun machine => { machine with stack := [] }
  | .toText => showTop
  | .print => printTop true
  | .put => printTop false
  | .pattern => makeMatcher false
  | .capture => makeMatcher true
  | .test kind => do
      let value ← pop "value"
      push (.boolean (value.kind == kind))
  | .require kind => requireKind kind
  | .list | .table | .error | .stop | .begin => return ()

end StackProse.Machine
