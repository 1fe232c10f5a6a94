import StackProse.Machine.Process

/-!
# Evaluation

`Machine.evaluate` runs a block from outside of all blocks, under a limit on how many blocks may
run inside each other.
-/

namespace StackProse

/-- How an evaluation ends. -/
inductive Ending
  /-- The block came to its end, in the given frame. -/
  | finished (frame : FrameId)
  /-- The program ended the run. -/
  | stopped
  | failed (fault : Fault)
  deriving Inhabited

namespace Ending

/-- The fault of an evaluation that failed. -/
def fault? : Ending → Option Fault
  | failed fault => some fault
  | _ => none

/-- The frame of an evaluation that came to its end. -/
def frame? : Ending → Option FrameId
  | finished frame => some frame
  | _ => none

/-- Whether the program ended the run. -/
def isStopped : Ending → Bool
  | stopped => true
  | _ => false

end Ending

namespace Machine

/-- The ending that an early end of the outermost block is. Leaving a block that does not run any
more is a fault. -/
def endingOf : Exit → Ending
  | .fault fault => .failed fault
  | .stop => .stopped
  | .escape _ => .failed ⟨.escapedBegin, []⟩

/-- Runs a block on the machine, inside of the blocks `active` that can be left early. Fewer than
`limit` blocks may run inside each other. -/
def evaluate (limit : Nat) (active : List BeginId) (closure : Closure) (machine : Machine) :
    Ending × Machine :=
  match process (limit - 1) active closure machine with
  | .ok frame machine => (.finished frame, machine)
  | .error exit machine => (endingOf exit, machine)

end Machine

end StackProse
