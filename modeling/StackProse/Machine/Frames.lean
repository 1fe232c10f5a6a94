import StackProse.Machine.Engine
import StackProse.Value.Basic

/-!
# Frames

A frame holds the bindings of one run of a block. Names are looked up from the frame outward
through its parents. A frame is made after its parent, so the number of the parent is smaller and
looking up comes to an end.

Frames are settled in groups: `keep` lets all frames made so far stay as they are, and `release`
empties those made since the frames were settled last. Frames are never removed, since blocks can
still refer to them.
-/

namespace StackProse

/-- The number of a run of a block that can be left early. -/
abbrev BeginId := Nat

/-- Code with the frame in which it was pushed. -/
structure Closure where
  code : Block
  frame : Option FrameId
  deriving Inhabited

/-- What a name is bound to. -/
inductive Binding
  /-- A declaration that has not been run yet. -/
  | pending (declaration : Declaration)
  | function (closure : Closure)
  | value (value : Value)
  /-- Leaving a block early. -/
  | escape (id : BeginId)
  /-- Matching a pattern, and taking its groups if `captures`. -/
  | matcher (pattern : Matcher) (captures : Bool)
  deriving Inhabited

/-- The bindings of one run of a block. -/
structure Frame where
  bindings : List (String × Binding) := []
  parent : Option FrameId := none
  deriving Inhabited

namespace Frame

/-- Changes the binding of a name in a list of bindings, or adds one. -/
def bindIn (name : String) (binding : Binding) :
    List (String × Binding) → List (String × Binding)
  | [] => [(name, binding)]
  | (other, old) :: rest =>
      if other = name then (name, binding) :: rest else (other, old) :: bindIn name binding rest

/-- Binds a name. -/
def bind (frame : Frame) (name : String) (binding : Binding) : Frame :=
  { frame with bindings := bindIn name binding frame.bindings }

/-- The frame without its bindings. -/
def emptied (frame : Frame) : Frame :=
  { frame with bindings := [] }

/-- The frame of a block that begins to run: all its declarations are pending. -/
def ofBlock (block : Block) (parent : Option FrameId) : Frame :=
  { bindings := block.declared.map fun (name, declaration) => (name, .pending declaration)
    parent := parent }

end Frame

/-- All frames, by their numbers. -/
structure Frames where
  all : Array Frame := #[]
  /-- The number of the first frame that is not settled. -/
  settled : Nat := 0
  /-- The number of settled frames that were kept. -/
  kept : Nat := 0
  deriving Inhabited

namespace Frames

/-- Adds a frame. -/
def add (frames : Frames) (frame : Frame) : FrameId × Frames :=
  (frames.all.size, { frames with all := frames.all.push frame })

/-- Binds a name in a frame. -/
def bind (frames : Frames) (id : FrameId) (name : String) (binding : Binding) : Frames :=
  { frames with all := frames.all.modify id (·.bind name binding) }

/-- The parent of a frame. -/
def parent? (frames : Frames) (id : FrameId) : Option FrameId :=
  frames.all[id]?.bind (·.parent)

/-- The innermost binding of a name, seen from a frame. -/
def lookup (frames : Frames) (id : FrameId) (name : String) : Option Binding :=
  match frames.all[id]? with
  | none => none
  | some frame =>
      match frame.bindings.lookup name with
      | some binding => some binding
      | none =>
          match frame.parent with
          | none => none
          | some parent => if parent < id then frames.lookup parent name else none
termination_by id

/-- Keeps all frames made so far. -/
def keep (frames : Frames) : Frames :=
  { frames with
    settled := frames.all.size
    kept := frames.kept + (frames.all.size - frames.settled) }

/-- Empties the frames from number `id` on, `count` of them. -/
def emptyFrom (all : Array Frame) (id : FrameId) : Nat → Array Frame
  | 0 => all
  | count + 1 => emptyFrom (all.modify id Frame.emptied) (id + 1) count

/-- Empties the frames that are not settled. -/
def release (frames : Frames) : Frames :=
  { frames with
    all := emptyFrom frames.all frames.settled (frames.all.size - frames.settled)
    settled := frames.all.size }

/-- The number of frames that have not been released. -/
def live (frames : Frames) : Nat :=
  frames.kept + (frames.all.size - frames.settled)

end Frames

end StackProse
