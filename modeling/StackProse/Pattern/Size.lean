import StackProse.Pattern.Bytes
import StackProse.Pattern.Expr

/-!
# The size of patterns

A pattern may be as large as the automaton over bytes that would search for it may be. Two automata
count, one that reads a text forward and one that reads it backward; each of them is laid out
state by state, in the same order for all copies of a repeated expression, and must not take more
bytes than `maxBytes`. This module lays out no states. It counts them, with the ways and links
that lead from state to state.

Sets of characters beyond ASCII take most of the space. Their states are shared as far as a table
of bounded size remembers them, so the count follows what such a table holds.
-/

namespace StackProse.Pattern

/-- The number of states laid out so far, and the bytes of their ways and links. -/
structure Tally where
  states : Nat := 0
  extra : Nat := 0
  deriving Repr, DecidableEq, Inhabited

namespace Tally

/-- The bytes of a state. -/
def stateBytes : Nat := 32

/-- The bytes of a link, which leads on for a range of bytes. -/
def linkBytes : Nat := 8

/-- The bytes of a way, which leads on without reading. -/
def wayBytes : Nat := 4

/-- Automata may take this many bytes: ten mebibytes. -/
def maxBytes : Nat := 10485760

/-- The bytes of all states. -/
def bytes (tally : Tally) : Nat :=
  tally.states * stateBytes + tally.extra

end Tally

/-- A count that ends as soon as the automaton is too large. -/
abbrev Sizing (α : Type) := StateT Tally Option α

namespace Sizing

/-- Counts states together with some bytes of ways and links. -/
def add (states extra : Nat) : Sizing Unit := fun tally =>
  let tally := { states := tally.states + states, extra := tally.extra + extra }
  if tally.bytes ≤ Tally.maxBytes then some ((), tally) else none

/-- Counts one state and gives its number. -/
def state (extra : Nat) : Sizing Nat := fun tally =>
  match add 1 extra tally with
  | some (_, after) => some (tally.states, after)
  | none => none

/-- Counts one more way. -/
def way : Sizing Unit := add 0 Tally.wayBytes

end Sizing

/-- What the last state of an expression leads on by. Leaving a fork takes one more way. -/
inductive Outlet
  | plain
  | fork
  deriving Repr, DecidableEq

open Sizing

/-- Leads on from the last state of an expression. -/
def Outlet.leave : Outlet → Sizing Unit
  | plain => pure ()
  | fork => way

/-! ### Sets of characters -/

/-- A link for a range of bytes to the state with a number. -/
structure Link where
  first : Nat
  last : Nat
  target : Nat
  deriving Repr, DecidableEq

/-- A number that tells lists of numbers apart with few exceptions. -/
def digest (numbers : List Nat) : UInt64 :=
  numbers.foldl (fun hash number => (hash ^^^ number.toUInt64) * 1099511628211)
    14695981039346656037

/-- A table with a fixed number of places. What is put down in a place replaces what was there. -/
structure Slots (κ : Type) where
  places : Array (Option (κ × Nat))

namespace Slots

variable {κ : Type} [DecidableEq κ]

/-- A table with nothing in it. -/
def empty (size : Nat) : Slots κ :=
  ⟨Array.replicate size none⟩

/-- The place for a digest. -/
def place (slots : Slots κ) (hash : UInt64) : Nat :=
  hash.toNat % slots.places.size

/-- The number put down for a key, if it is still there. -/
def find? (slots : Slots κ) (hash : UInt64) (key : κ) : Option Nat :=
  match slots.places[slots.place hash]? with
  | some (some (known, number)) => if known = key then some number else none
  | _ => none

/-- Puts down the number for a key. -/
def put (slots : Slots κ) (hash : UInt64) (key : κ) (number : Nat) : Slots κ :=
  ⟨slots.places.setIfInBounds (slots.place hash) (some (key, number))⟩

end Slots

/-- A state in the making: its links that are complete, newest first, and the range of bytes of the
link that is not. -/
structure Stem where
  links : List Link := []
  range : Option (Nat × Nat) := none

/-- Completes the last link of a state. -/
def Stem.close (stem : Stem) (target : Nat) : Stem :=
  match stem.range with
  | some (first, last) => ⟨⟨first, last, target⟩ :: stem.links, none⟩
  | none => stem

/-- The states of a set that is being counted. -/
structure Trunk where
  /-- The states laid out that can be shared. -/
  known : Slots (List Link)
  /-- The states on the way to the last sequence of bytes, the deepest first. -/
  stems : List Stem

namespace Trunk

/-- The state with some links, which is counted unless it is known. -/
def settle (known : Slots (List Link)) (links : List Link) : Sizing (Nat × Slots (List Link)) := do
  let links := links.reverse
  let hash := digest (links.flatMap fun link => [link.first, link.last, link.target])
  match known.find? hash links with
  | some number => return (number, known)
  | none =>
      let number ← state (Tally.linkBytes * links.length)
      return (number, known.put hash links number)

/-- Settles `count` of the deepest states, each of which the one above leads to, and completes the
link of the next one. -/
def settleDeepest (target : Nat) (known : Slots (List Link)) :
    List Stem → Nat → Sizing Trunk
  | [], _ => return ⟨known, []⟩
  | stem :: stems, 0 => return ⟨known, stem.close target :: stems⟩
  | stem :: stems, count + 1 => do
      let (number, known) ← settle known (stem.close target).links
      settleDeepest number known stems count

/-- How many states in front have the ranges of a sequence open, given the topmost first. -/
def shared : List (Nat × Nat) → List Stem → Nat
  | range :: ranges, stem :: stems =>
      if stem.range = some range then shared ranges stems + 1 else 0
  | _, _ => 0

/-- Opens the ranges of a sequence below the deepest state. -/
def grow (ranges : List (Nat × Nat)) (stems : List Stem) : List Stem :=
  match ranges, stems with
  | range :: ranges, stem :: stems =>
      ranges.foldl (fun stems range => ⟨[], some range⟩ :: stems)
        ({ stem with range := some range } :: stems)
  | _, stems => stems

/-- Takes up a sequence of ranges of bytes. -/
def push (target : Nat) (trunk : Trunk) (ranges : List (Nat × Nat)) : Sizing Trunk := do
  let kept := shared ranges trunk.stems.reverse
  let trunk ← settleDeepest target trunk.known trunk.stems (trunk.stems.length - 1 - kept)
  return { trunk with stems := grow (ranges.drop kept) trunk.stems }

/-- Takes up sequences one after the other. -/
def pushAll (target : Nat) (trunk : Trunk) : List (List (Nat × Nat)) → Sizing Trunk
  | [] => return trunk
  | ranges :: rest => do
      let trunk ← trunk.push target ranges
      trunk.pushAll target rest

end Trunk

/-- The sequences of ranges of bytes for a set. -/
def byteSequences (chars : CharSet) : List (List (Nat × Nat)) :=
  chars.ranges.flatMap Bytes.sequences

/-- Counts the states of a set of ASCII characters. -/
def sizeAscii (chars : CharSet) : Sizing Outlet := do
  add 2 (Tally.linkBytes * chars.ranges.length)
  return .plain

/-- Counts the states of a set for reading forward: equal ends of sequences are shared. -/
def sizeForward (chars : CharSet) : Sizing Outlet := do
  let target ← state 0
  let trunk ← Trunk.pushAll target ⟨.empty 10000, [{}]⟩ (byteSequences chars)
  let _ ← Trunk.settleDeepest target trunk.known trunk.stems trunk.stems.length
  return .plain

/-- Counts the states of a sequence for reading backward, from the state `source` on. -/
def sizeBackwardSequence (known : Slots (Nat × Nat × Nat)) (source : Nat) :
    List (Nat × Nat) → Sizing (Slots (Nat × Nat × Nat))
  | [] => do
      way
      return known
  | (first, last) :: rest => do
      let key := (source, first, last)
      let hash := digest [source, first, last]
      match known.find? hash key with
      | some number => sizeBackwardSequence known number rest
      | none =>
          let number ← state 0
          sizeBackwardSequence (known.put hash key number) number rest

/-- Counts the states of sequences for reading backward. -/
def sizeBackwardSequences (known : Slots (Nat × Nat × Nat)) (source : Nat) :
    List (List (Nat × Nat)) → Sizing Unit
  | [] => return ()
  | ranges :: rest => do
      let known ← sizeBackwardSequence known source ranges
      sizeBackwardSequences known source rest

/-- Counts the states of a set for reading backward: equal beginnings of sequences are shared. -/
def sizeBackward (chars : CharSet) : Sizing Outlet := do
  let _ ← state 0
  let source ← state 0
  sizeBackwardSequences (.empty 1000) source (byteSequences chars)
  return .plain

/-! ### Choices between literals -/

/-- The ways to go on in a choice between literals, by their next byte. Where a literal ends, the
ways found so far are set apart from those that come later, because a literal that ends comes
before later ones that go on. -/
inductive Trie
  | node (before : List (List (Nat × Trie))) (ways : List (Nat × Trie))

namespace Trie

/-- Whether nothing goes on. -/
def isLeaf : Trie → Bool
  | node before ways => before.all List.isEmpty && ways.isEmpty

/-- The trie of nothing. -/
def empty : Trie := node [] []

/-- Replaces what a byte leads to. -/
def set (byte : Nat) (trie : Trie) : List (Nat × Trie) → List (Nat × Trie)
  | [] => [(byte, trie)]
  | (other, kept) :: rest =>
      if other = byte then (byte, trie) :: rest else (other, kept) :: set byte trie rest

/-- Adds a literal. -/
def insert : List Nat → Trie → Trie
  | [], node before ways =>
      if (node before ways).isLeaf && !before.isEmpty then node before ways
      else node (ways :: before) []
  | byte :: rest, node before ways =>
      node before (set byte (insert rest ((ways.lookup byte).getD empty)) ways)

/-- The states and bytes for the ways of one part: one state, with links if there are several
ways, and a way to it. -/
def partSize (ways : List (Nat × Trie)) : Nat × Nat :=
  match ways with
  | [] => (0, 0)
  | [_] => (1, Tally.wayBytes)
  | ways => (1, Tally.wayBytes + Tally.linkBytes * ways.length)

mutual

/-- The states and bytes of a trie that goes on. -/
def size : Trie → Nat × Nat
  | node before ways =>
      let (states, extra) := partSize ways
      let (moreStates, moreExtra) := sizeParts before
      let (belowStates, belowExtra) := sizeBelow ways
      (1 + states + moreStates + belowStates,
        Tally.wayBytes * before.length + extra + moreExtra + belowExtra)

/-- The states and bytes of parts. -/
def sizeParts : List (List (Nat × Trie)) → Nat × Nat
  | [] => (0, 0)
  | ways :: rest =>
      let (states, extra) := partSize ways
      let (moreStates, moreExtra) := sizeParts rest
      let (belowStates, belowExtra) := sizeBelow ways
      (states + moreStates + belowStates, extra + moreExtra + belowExtra)

/-- The states and bytes of what ways lead to. -/
def sizeBelow : List (Nat × Trie) → Nat × Nat
  | [] => (0, 0)
  | (_, trie) :: rest =>
      let (states, extra) := if trie.isLeaf then (0, 0) else trie.size
      let (moreStates, moreExtra) := sizeBelow rest
      (states + moreStates, extra + moreExtra)

end

end Trie

/-- The bytes of literals, if all expressions are literals. -/
def literalBytes? (exprs : List Expr) : Option (List (List Nat)) :=
  exprs.mapM fun expr =>
    match expr with
    | .literal text => some (text.flatMap fun c => Bytes.encode c.toNat)
    | _ => none

/-- Counts the states of a choice between literals. -/
def sizeLiterals (backward : Bool) (literals : List (List Nat)) : Sizing Outlet := do
  let words := if backward then literals.map List.reverse else literals
  let (states, extra) := (words.foldl (fun trie word => trie.insert word) Trie.empty).size
  add (1 + states) extra
  return .plain

/-! ### Expressions -/

/-- Counts `count` more copies behind an expression. -/
def sizeCopies (body : Sizing Outlet) (outlet : Outlet) : Nat → Sizing Outlet
  | 0 => return outlet
  | count + 1 => do
      let next ← body
      outlet.leave
      sizeCopies body next count

/-- Counts exactly `count` copies, one after the other. -/
def sizeExactly (body : Sizing Outlet) : Nat → Sizing Outlet
  | 0 => do
      add 1 0
      return .plain
  | count + 1 => do
      let first ← body
      sizeCopies body first count

/-- Counts `count` copies that can be left out together with those behind them. -/
def sizeOptional (body : Sizing Outlet) (outlet : Outlet) : Nat → Sizing Outlet
  | 0 => return outlet
  | count + 1 => do
      add 1 (2 * Tally.wayBytes)
      let next ← body
      outlet.leave
      sizeOptional body next count

/-- Counts a repetition without an upper bound. -/
def sizeUnbounded (least : Nat) (takesSomething : Bool) (body : Sizing Outlet) :
    Sizing Outlet :=
  match least with
  | 0 =>
      if takesSomething then do
        add 1 Tally.wayBytes
        let outlet ← body
        outlet.leave
        return .fork
      else do
        let outlet ← body
        outlet.leave
        add 3 (4 * Tally.wayBytes)
        return .plain
  | 1 => do
      let outlet ← body
      outlet.leave
      add 1 Tally.wayBytes
      return .fork
  | least => do
      let before ← sizeExactly body (least - 1)
      let outlet ← body
      before.leave
      outlet.leave
      add 1 Tally.wayBytes
      return .fork

/-- Counts a repetition. -/
def sizeRepetition (least : Nat) (most : Option Nat) (takesSomething : Bool)
    (body : Sizing Outlet) : Sizing Outlet :=
  match most with
  | none => sizeUnbounded least takesSomething body
  | some most =>
      if least = 0 && most = 1 then do
        add 1 (2 * Tally.wayBytes)
        let outlet ← body
        outlet.leave
        add 1 0
        return .plain
      else if least = most then sizeExactly body least
      else do
        let outlet ← sizeExactly body least
        add 1 0
        let outlet ← sizeOptional body outlet (most - least)
        outlet.leave
        return .plain

namespace Expr

mutual

/-- Counts the states of an expression. Groups are remembered when a text is read forward. -/
def size (backward : Bool) : Expr → Sizing Outlet
  | empty => do
      add 1 0
      return .plain
  | assertion _ => do
      add 1 0
      return .plain
  | literal text => do
      add (text.flatMap fun c => Bytes.encode c.toNat).length 0
      return .plain
  | set chars =>
      if chars.isAscii then sizeAscii chars
      else if backward then sizeBackward chars
      else sizeForward chars
  | repetition least most _ expr =>
      sizeRepetition least most expr.takesSomething (expr.size backward)
  | capture _ expr =>
      if backward then expr.size backward
      else do
        add 1 0
        let outlet ← expr.size backward
        outlet.leave
        add 1 0
        return .plain
  | sequence exprs => sizeSequence backward exprs
  | choice exprs =>
      match literalBytes? exprs with
      | some literals => sizeLiterals backward literals
      | none => sizeChoice backward exprs

/-- Counts expressions one after the other, the last one first when a text is read backward. -/
def sizeSequence (backward : Bool) : List Expr → Sizing Outlet
  | [] => do
      add 1 0
      return .plain
  | [expr] => expr.size backward
  | expr :: rest =>
      if backward then do
        let later ← sizeSequence backward rest
        let outlet ← expr.size backward
        later.leave
        return outlet
      else do
        let first ← expr.size backward
        let outlet ← sizeSequence backward rest
        first.leave
        return outlet

/-- Counts expressions side by side. The fork between them comes behind the first two. -/
def sizeChoice (backward : Bool) : List Expr → Sizing Outlet
  | [] => do
      add 1 0
      return .plain
  | [expr] => expr.size backward
  | first :: second :: rest => do
      let outlet ← first.size backward
      let other ← second.size backward
      add 2 (2 * Tally.wayBytes)
      outlet.leave
      other.leave
      sizeBranches backward rest
      return .plain

/-- Counts further expressions side by side. -/
def sizeBranches (backward : Bool) : List Expr → Sizing Unit
  | [] => return ()
  | expr :: rest => do
      let outlet ← expr.size backward
      way
      outlet.leave
      sizeBranches backward rest

end

/-- Counts the automaton of an expression. Unless the expression asks for the end of the text where
reading begins, a loop in front passes over any bytes. -/
def sizeAutomaton (backward : Bool) (expr : Expr) : Sizing Unit := do
  if if backward then expr.asksForEnd else expr.asksForStart then add 1 0
  else add 3 (Tally.linkBytes + 2 * Tally.wayBytes)
  let outlet ← (capture 0 expr).size backward
  outlet.leave
  add 1 0

/-- Whether both automata of an expression are small enough. -/
def fits (expr : Expr) : Bool :=
  ((expr.sizeAutomaton false) {}).isSome && ((expr.sizeAutomaton true) {}).isSome

end Expr

end StackProse.Pattern
