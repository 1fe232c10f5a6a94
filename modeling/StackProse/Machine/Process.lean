import StackProse.Machine.Words

/-!
# Running blocks

A block runs its items from left to right in a frame of its own. Blocks run other blocks, and the
number of blocks that may run inside each other is limited. That limit is what makes running a
total function: `process` descends on the room that is left for further blocks, and each block is
a finite row of items. Loops of the language are blocks that run themselves.

What runs the items of one block is written over the way in which it runs other blocks, so that
the two recursions stay apart.
-/

namespace StackProse.Machine

/-- Where the items of a block run: the frame of the block, whether a user wrote it, and the
numbers of the blocks around it that can be left early, the innermost first. -/
structure Scene where
  frame : FrameId
  userCode : Bool
  active : List BeginId

/-- How other blocks are run: with the numbers of the blocks that can be left, and giving the
frame in which the block has run. -/
abbrev Runner := List BeginId → Closure → Run FrameId

/-- What an early end of a block becomes outside of a construct. Leaving a block that does not run
any more is a fault. -/
def leave (context : Fault.Context) (active : List BeginId) : Exit → Exit
  | .fault fault => .fault (fault.within context)
  | .stop => .stop
  | .escape id =>
      if active.contains id then .escape id else .fault ⟨.escapedBegin, [context]⟩

/-- Runs a block inside the construct `name`. -/
def call (runner : Runner) (name : String) (active : List BeginId) (closure : Closure) :
    Run Unit := fun machine =>
  match runner active closure machine with
  | .ok _ machine => .ok () machine
  | .error exit machine => .error (leave (.word name) active exit) machine

/-- Pops a block for the construct `name`. -/
def popBlockFor (name : String) : Run Closure :=
  within (.word name) (popClosure "block")

/-- Runs a block inside the construct `name` on a stack of its own, and gives what the block leaves
there. The stack outside is not touched. -/
def collect (runner : Runner) (name : String) (active : List BeginId) (closure : Closure) :
    Run (List Value) := fun machine =>
  match call runner name active closure { machine with stack := [] } with
  | .ok _ inner => .ok inner.stack { inner with stack := machine.stack }
  | .error exit inner => .error exit { inner with stack := machine.stack }

/-- The table of values and keys in turns. -/
def tableOf (table : Table Value Value) : List Value → Except Failure (Table Value Value)
  | value :: key :: rest => do
      let key ← Builtin.tableKey key
      tableOf (ValueTable.insert table key value) rest
  | _ => return table

/-- Runs a block and makes a list of what it leaves. -/
def runList (runner : Runner) (active : List BeginId) : Run Unit := do
  let block ← popBlockFor Keyword.list.name
  let items ← collect runner Keyword.list.name active block
  push (.list items)

/-- Runs a block and makes a table of what it leaves. -/
def runTable (runner : Runner) (active : List BeginId) : Run Unit := do
  let block ← popBlockFor Keyword.table.name
  let items ← collect runner Keyword.table.name active block
  within (.word Keyword.table.name) do
    if items.length % 2 ≠ 0 then fail (.failed "Table initializer must be key-value pairs")
    match tableOf .empty items.reverse with
    | .ok table => push (.table table)
    | .error failure => do fail (.failed (failure.message (← get).heap))

/-- The number for a new run of a block that can be left early. -/
def freshBegin : Run BeginId :=
  modifyGet fun machine => (machine.begins + 1, { machine with begins := machine.begins + 1 })

/-- Runs a block that can be left early. The block that leaves it is pushed before. -/
def runBegin (runner : Runner) (active : List BeginId) : Run Unit := do
  let block ← popBlockFor Keyword.begin.name
  let id ← freshBegin
  pushBound escapeName (.escape id)
  fun machine =>
    match runner (id :: active) block machine with
    | .ok _ machine => .ok () machine
    | .error (.escape left) machine =>
        if left = id then .ok () machine
        else .error (leave (.word Keyword.begin.name) active (.escape left)) machine
    | .error exit machine => .error (leave (.word Keyword.begin.name) active exit) machine

/-- Carries out a keyword. -/
def runKeyword (runner : Runner) (scene : Scene) (keyword : Keyword) : Run Unit :=
  match keyword with
  | .begin => runBegin runner scene.active
  | .list => runList runner scene.active
  | .table => runTable runner scene.active
  | .stop => throw .stop
  | .error => raise
  | keyword => within (.word keyword.name) (runPlain scene.frame keyword)

/-- Fails because a name is used before its declaration has run, and shows the place of a word
that a user wrote. -/
def failPending (scene : Scene) (word : Word) : Run Unit := do
  if scene.userCode then
    let diagnostic := ⟨word.span, word.position, "variable used before declaration"⟩
    modify fun machine => { machine with console := machine.console.addDiagnostic diagnostic }
  fail (.usedBeforeDeclaration word.name)

/-- Carries out a word that calls no function: a word of the language, or else a name bound to a
value. -/
def runVocabulary (runner : Runner) (scene : Scene) (name : String) (bound : Option Value) :
    Run Unit :=
  match Keyword.ofName? name with
  | some keyword => runKeyword runner scene keyword
  | none =>
      match Builtin.ofName? name with
      | some builtin => runBuiltin builtin
      | none =>
          match bound with
          | some value => push value
          | none => fail (.unknownSymbol name)

/-- Carries out a word. -/
def runWord (runner : Runner) (scene : Scene) (word : Word) : Run Unit := do
  match ← lookup scene.frame word.name with
  | some (.pending _) => failPending scene word
  | some (.function closure) => call runner word.name scene.active closure
  | some (.escape id) => throw (.escape id)
  | some (.matcher pattern captures) =>
      let activity := if captures then "matching regex" else "applying regex"
      within (.activity activity) (applyMatcher pattern captures)
  | some (.value value) => runVocabulary runner scene word.name (some value)
  | none => runVocabulary runner scene word.name none

/-- Whether the first of the items takes the name before it as it is. -/
def takesNameBefore : List Item → Bool
  | .word next :: _ => (Keyword.ofName? next.name).any Keyword.takesName
  | _ => false

/-- Runs items from left to right. -/
def runItems (runner : Runner) (scene : Scene) : List Item → Run Unit
  | [] => return ()
  | .literal value :: rest => do
      push (.ofLiteral value)
      runItems runner scene rest
  | .block block :: rest => do
      push (.block block (some scene.frame))
      runItems runner scene rest
  | .word word :: rest => do
      if takesNameBefore rest then push (.identifier word.name) else runWord runner scene word
      runItems runner scene rest

/-- Runs a block where there is room for `room` blocks inside each other, and gives the frame in
which it has run. -/
def process : Nat → Runner
  | 0, _, _ => fail .callStackOverflow
  | room + 1, active, closure => do
      let frame ← addFrame (.ofBlock closure.code closure.frame)
      runItems (process room) ⟨frame, closure.code.userCode, active⟩ closure.code.body
      return frame

end StackProse.Machine
