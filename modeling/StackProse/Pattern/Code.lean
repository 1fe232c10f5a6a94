import StackProse.Pattern.Expr

/-!
# Pattern code

An expression is compiled to a list of steps that a search can take. The steps of an expression
are laid out in front of a place to go on at, so compiling goes from the end of an expression to
its beginning. Where a step offers two ways, the first one is preferred.
-/

namespace StackProse.Pattern

/-- A step of a search. -/
inductive Step
  /-- The pattern has matched. -/
  | accept
  /-- Takes a character of the set. -/
  | take (chars : CharSet) (next : Nat)
  /-- Goes on where the condition holds. -/
  | check (test : Assertion) (next : Nat)
  /-- Remembers the place under a number. -/
  | mark (slot : Nat) (next : Nat)
  /-- Tries the first way, then the second. -/
  | fork (first second : Nat)
  deriving Inhabited

/-- The steps laid out so far. -/
abbrev Steps := Array Step

namespace Steps

/-- Lays out a step and gives its place. -/
def emit (steps : Steps) (step : Step) : Nat × Steps :=
  (steps.size, steps.push step)

/-- Lays out the characters of a text in front of `next`. -/
def emitText (text : List Char) (next : Nat) (steps : Steps) : Nat × Steps :=
  text.foldr (fun c (next, steps) => steps.emit (.take (.single c) next)) (next, steps)

/-- A choice between going on at `body` and leaving for `next`; staying is preferred if
`greedy`. -/
def loopFork (greedy : Bool) (body next : Nat) : Step :=
  if greedy then .fork body next else .fork next body

/-- Lays out a loop that passes through its body at least once, in front of `next`. The body is
laid out in front of the step that closes the loop. -/
def emitLoop (greedy : Bool) (next : Nat) (body : Nat → Steps → Nat × Steps) (steps : Steps) :
    Nat × Steps :=
  let closing := steps.size
  let (start, steps) := body closing (steps.push .accept)
  (start, steps.setIfInBounds closing (loopFork greedy start next))

/-- Lays out up to `count` further rounds in front of `next`, each of which can be left out
together with those after it. `inner` is where the last of them goes on. -/
def emitOptional (greedy : Bool) (next : Nat) (body : Nat → Steps → Nat × Steps) (inner : Nat)
    (steps : Steps) : Nat → Nat × Steps
  | 0 => (inner, steps)
  | count + 1 =>
      let (start, steps) := body inner steps
      let (fork, steps) := steps.emit (loopFork greedy start next)
      emitOptional greedy next body fork steps count

/-- Lays out exactly `count` rounds in front of `next`. -/
def emitTimes (body : Nat → Steps → Nat × Steps) (next : Nat) (steps : Steps) : Nat → Nat × Steps
  | 0 => (next, steps)
  | count + 1 =>
      let (start, steps) := body next steps
      emitTimes body start steps count

/-- Lays out a repetition in front of `next`. A loop that may be left out altogether is a loop with
one more choice in front, so that a round without a character never comes before the rounds that
take one. -/
def emitRepetition (least : Nat) (most : Option Nat) (greedy : Bool)
    (body : Nat → Steps → Nat × Steps) (next : Nat) (steps : Steps) : Nat × Steps :=
  match most with
  | some most =>
      let (inner, steps) := emitOptional greedy next body next steps (most - least)
      emitTimes body inner steps least
  | none =>
      let (start, steps) := emitLoop greedy next body steps
      if least = 0 then steps.emit (loopFork greedy start next)
      else emitTimes body start steps (least - 1)

end Steps

namespace Expr

mutual

/-- Lays out an expression in front of `next`. -/
def emit : Expr → Nat → Steps → Nat × Steps
  | empty, next, steps => (next, steps)
  | literal text, next, steps => steps.emitText text next
  | set chars, next, steps => steps.emit (.take chars next)
  | assertion test, next, steps => steps.emit (.check test next)
  | repetition least most greedy expr, next, steps =>
      steps.emitRepetition least most greedy (fun next steps => expr.emit next steps) next
  | capture index expr, next, steps =>
      let (stop, steps) := steps.emit (.mark (2 * index + 1) next)
      let (start, steps) := expr.emit stop steps
      steps.emit (.mark (2 * index) start)
  | sequence exprs, next, steps => emitSequence exprs next steps
  | choice exprs, next, steps => emitChoice exprs next steps

/-- Lays out expressions one after the other in front of `next`. -/
def emitSequence : List Expr → Nat → Steps → Nat × Steps
  | [], next, steps => (next, steps)
  | expr :: rest, next, steps =>
      let (after, steps) := emitSequence rest next steps
      expr.emit after steps

/-- Lays out expressions side by side in front of `next`. -/
def emitChoice : List Expr → Nat → Steps → Nat × Steps
  | [], next, steps => (next, steps)
  | [expr], next, steps => expr.emit next steps
  | expr :: rest, next, steps =>
      let (others, steps) := emitChoice rest next steps
      let (start, steps) := expr.emit next steps
      steps.emit (.fork start others)

end

end Expr

/-- A pattern that is ready to be searched for. -/
structure Code where
  steps : Steps
  /-- The place of the first step. -/
  start : Nat
  /-- The number of groups that are remembered. -/
  groups : Nat
  deriving Inhabited

namespace Code

/-- The highest number among the remembered groups of the steps. -/
def groupsOf (steps : Steps) : Nat :=
  steps.foldl (fun groups step =>
    match step with
    | .mark slot _ => max groups (slot / 2)
    | _ => groups) 0

/-- The code of an expression. -/
def ofExpr (expr : Expr) : Code :=
  let (start, steps) := expr.emit 0 #[.accept]
  ⟨steps, start, groupsOf steps⟩

end Code

end StackProse.Pattern
