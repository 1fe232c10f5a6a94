import StackProse.Machine.Console
import StackProse.Machine.Fault
import StackProse.Machine.Frames
import StackProse.Pattern.Engine
import StackProse.Value.Written

/-!
# The machine

The state that a program works on, and the ways in which a run of a block can end before its end:
with a fault, by ending the whole run, or by leaving a block early. None of them undoes what has
been done to the state.
-/

namespace StackProse

/-- The state of the machine. -/
structure Machine where
  /-- The stack, its top in front. -/
  stack : List Value := []
  heap : Heap := {}
  frames : Frames := {}
  /-- The number of blocks run so far that can be left early. -/
  begins : Nat := 0
  console : Console := {}
  /-- What reads patterns. -/
  engine : Engine := Pattern.engine
  deriving Inhabited

/-- How a run of a block ends before its end. -/
inductive Exit
  | fault (fault : Fault)
  /-- The whole run ends. -/
  | stop
  /-- The block with the given number is left. -/
  | escape (id : BeginId)
  deriving Inhabited

/-- A computation on the machine that can end early. -/
abbrev Run := EStateM Exit Machine

namespace Machine

/-- Fails. -/
def fail {α : Type} (cause : Fault.Cause) : Run α :=
  throw (.fault ⟨cause, []⟩)

/-- Names a construct in the faults of a computation. -/
def within {α : Type} (context : Fault.Context) (run : Run α) : Run α := fun machine =>
  match run machine with
  | .ok result machine => .ok result machine
  | .error (.fault fault) machine => .error (.fault (fault.within context)) machine
  | .error exit machine => .error exit machine

/-- Pushes a value. -/
def push (value : Value) : Run Unit :=
  modify fun machine => { machine with stack := value :: machine.stack }

/-- Pops a value, which faults name `expected`. -/
def pop (expected : String) : Run Value := fun machine =>
  match machine.stack with
  | [] => .error (.fault ⟨.underflow expected, []⟩) machine
  | value :: rest => .ok value { machine with stack := rest }

/-- Pops a value of a kind. A value of another kind is popped too. -/
def popAs {α : Type} (expected : String) (kind : Kind) (as? : Value → Option α) : Run α := do
  let value ← pop expected
  match as? value with
  | some result => return result
  | none => fail (.mismatch kind.name value.kind)

/-- The closure that a value is. -/
def closure? : Value → Option Closure
  | .block code frame => some ⟨code, frame⟩
  | _ => none

/-- The bare name that a value is. -/
def name? : Value → Option String
  | .identifier name => some name
  | _ => none

/-- The box that a value is. -/
def box? : Value → Option BoxId
  | .box id => some id
  | _ => none

/-- The text of the string that a value is. -/
def text? (value : Value) : Option (List Char) :=
  value.units?.map Units.toChars

/-- Pops a block. -/
def popClosure (expected : String) : Run Closure :=
  popAs expected .block closure?

/-- Adds a frame. -/
def addFrame (frame : Frame) : Run FrameId :=
  modifyGet fun machine =>
    let (id, frames) := machine.frames.add frame
    (id, { machine with frames := frames })

/-- Binds a name in a frame. -/
def bind (frame : FrameId) (name : String) (binding : Binding) : Run Unit :=
  modify fun machine => { machine with frames := machine.frames.bind frame name binding }

/-- The binding of a name, seen from a frame. -/
def lookup (frame : FrameId) (name : String) : Run (Option Binding) := do
  return (← get).frames.lookup frame name

end Machine

end StackProse
