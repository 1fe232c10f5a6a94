import StackProse.Character.CharSet

/-!
# Pattern expressions

The expressions that patterns are made of, after all options have been worked into them. Sequences,
choices and repetitions are put together by `inSequence`, `inChoice` and `repeated`, which keep
them simple: neighbouring literals are one literal, a choice between characters is a set, and what
all branches of a choice begin with stands in front of the choice.
-/

namespace StackProse.Pattern

/-- A condition on a place of the text. -/
inductive Assertion
  | textStart
  | textEnd
  /-- After a line break or at the start; `crlf` makes a carriage return a line break too. -/
  | lineStart (crlf : Bool)
  /-- Before a line break or at the end. -/
  | lineEnd (crlf : Bool)
  /-- Between a character of a word and another one. -/
  | wordBoundary (unicode : Bool)
  | notWordBoundary (unicode : Bool)
  | wordStart (unicode : Bool)
  | wordEnd (unicode : Bool)
  /-- Not after a character of a word. -/
  | wordStartHalf (unicode : Bool)
  /-- Not before a character of a word. -/
  | wordEndHalf (unicode : Bool)
  deriving Repr, DecidableEq, Inhabited

/-- A pattern expression. -/
inductive Expr
  | empty
  /-- The characters of a text, one after the other. -/
  | literal (text : List Char)
  /-- One character of a set. -/
  | set (chars : CharSet)
  | assertion (test : Assertion)
  /-- At least `least` and at most `most` times, as often as possible if `greedy`. -/
  | repetition (least : Nat) (most : Option Nat) (greedy : Bool) (expr : Expr)
  /-- A group that is remembered under a number. -/
  | capture (index : Nat) (expr : Expr)
  | sequence (exprs : List Expr)
  /-- The first of the expressions that leads to a match. -/
  | choice (exprs : List Expr)
  deriving Inhabited

namespace Expr

mutual

/-- Whether two expressions are the same. -/
def same : Expr → Expr → Bool
  | empty, empty => true
  | literal a, literal b => a == b
  | set a, set b => a == b
  | assertion a, assertion b => a == b
  | repetition least most greedy a, repetition least' most' greedy' b =>
      least == least' && most == most' && greedy == greedy' && a.same b
  | capture i a, capture j b => i == j && a.same b
  | sequence a, sequence b => sameAll a b
  | choice a, choice b => sameAll a b
  | _, _ => false

/-- Whether expressions are the same one by one. -/
def sameAll : List Expr → List Expr → Bool
  | [], [] => true
  | a :: as, b :: bs => a.same b && sameAll as bs
  | _, _ => false

end

/-! ### Lengths -/

mutual

/-- The least number of characters that an expression takes. There is none if some part of the
expression is a set without characters. -/
def leastLength? : Expr → Option Nat
  | empty | assertion _ => some 0
  | literal text => some text.length
  | set chars => if chars.isEmpty then none else some 1
  | repetition least _ _ expr => expr.leastLength?.map (least * ·)
  | capture _ expr => expr.leastLength?
  | sequence exprs => leastLengths? exprs |>.map List.sum
  | choice exprs => leastLengths? exprs |>.bind List.min?

/-- The least lengths of all expressions. -/
def leastLengths? : List Expr → Option (List Nat)
  | [] => some []
  | expr :: rest => do return (← expr.leastLength?) :: (← leastLengths? rest)

end

mutual

/-- The greatest number of characters that an expression takes. There is none if the expression has
no bound or some part of it is a set without characters. -/
def greatestLength? : Expr → Option Nat
  | empty | assertion _ => some 0
  | literal text => some text.length
  | set chars => if chars.isEmpty then none else some 1
  | repetition _ most _ expr => do return (← most) * (← expr.greatestLength?)
  | capture _ expr => expr.greatestLength?
  | sequence exprs => greatestLengths? exprs |>.map List.sum
  | choice exprs => greatestLengths? exprs |>.bind List.max?

/-- The greatest lengths of all expressions. -/
def greatestLengths? : List Expr → Option (List Nat)
  | [] => some []
  | expr :: rest => do return (← expr.greatestLength?) :: (← greatestLengths? rest)

end

/-- Whether an expression never takes a character. -/
def takesNothing (expr : Expr) : Bool :=
  expr.greatestLength? == some 0

/-- Whether an expression always takes a character. -/
def takesSomething (expr : Expr) : Bool :=
  match expr.leastLength? with
  | some length => 0 < length
  | none => false

/-! ### The ends of the text -/

mutual

/-- Whether an expression asks for the start of the text in front. -/
def asksForStart : Expr → Bool
  | assertion test => test == .textStart
  | repetition least _ _ expr => 0 < least && expr.asksForStart
  | capture _ expr => expr.asksForStart
  | sequence exprs => someAskForStart exprs
  | choice exprs => allAskForStart exprs
  | empty | literal _ | set _ => false

/-- Whether one of the expressions up to the first that takes characters asks for the start. -/
def someAskForStart : List Expr → Bool
  | [] => false
  | expr :: rest => expr.asksForStart || (expr.takesNothing && someAskForStart rest)

/-- Whether all of the expressions ask for the start. -/
def allAskForStart : List Expr → Bool
  | [] => true
  | expr :: rest => expr.asksForStart && allAskForStart rest

end

mutual

/-- Whether an expression asks for the end of the text behind. -/
def asksForEnd : Expr → Bool
  | assertion test => test == .textEnd
  | repetition least _ _ expr => 0 < least && expr.asksForEnd
  | capture _ expr => expr.asksForEnd
  | sequence exprs => someAskForEnd exprs
  | choice exprs => allAskForEnd exprs
  | empty | literal _ | set _ => false

/-- Whether one of the expressions from the last that takes characters on asks for the end. -/
def someAskForEnd : List Expr → Bool
  | [] => false
  | expr :: rest => someAskForEnd rest || (rest.all takesNothing && expr.asksForEnd)

/-- Whether all of the expressions ask for the end. -/
def allAskForEnd : List Expr → Bool
  | [] => true
  | expr :: rest => expr.asksForEnd && allAskForEnd rest

end

/-! ### Putting expressions together -/

/-- The expression for one character of a set. -/
def ofSet (chars : CharSet) : Expr :=
  match chars.single? with
  | some c => literal [c]
  | none => set chars

/-- A repetition. What takes no characters is never repeated more than once. -/
def repeated (least : Nat) (most : Option Nat) (greedy : Bool) (expr : Expr) : Expr :=
  let least := if expr.takesNothing then min least 1 else least
  let most := if expr.takesNothing then some (min (most.getD 1) 1) else most
  if most = some 0 then empty
  else if least = 1 && most = some 1 then expr
  else repetition least most greedy expr

/-- The expressions that stand one after the other in an expression. -/
def parts : Expr → List Expr
  | empty => []
  | sequence exprs => exprs
  | expr => [expr]

/-- Makes one literal of neighbouring literals. -/
def joinLiterals : List Expr → List Expr
  | [] => []
  | literal text :: rest =>
      match joinLiterals rest with
      | literal more :: rest => literal (text ++ more) :: rest
      | rest => literal text :: rest
  | expr :: rest => expr :: joinLiterals rest

/-- Expressions one after the other. -/
def inSequence (exprs : List Expr) : Expr :=
  match joinLiterals (exprs.flatMap parts) with
  | [] => empty
  | [expr] => expr
  | exprs => sequence exprs

/-- The expressions that stand side by side in an expression. -/
def branches : Expr → List Expr
  | choice exprs => exprs
  | expr => [expr]

/-- The characters of expressions that are literals of one character. -/
def singleChars? (exprs : List Expr) : Option (List Char) :=
  exprs.mapM fun expr =>
    match expr with
    | literal [c] => some c
    | _ => none

/-- The sets of expressions that are sets. -/
def charSets? (exprs : List Expr) : Option (List CharSet) :=
  exprs.mapM fun expr =>
    match expr with
    | set chars => some chars
    | _ => none

/-- The parts of expressions that are sequences. -/
def sequences? (exprs : List Expr) : Option (List (List Expr)) :=
  exprs.mapM fun expr =>
    match expr with
    | sequence parts => some parts
    | _ => none

/-- What two sequences have in common in front. -/
def commonFront : List Expr → List Expr → List Expr
  | a :: as, b :: bs => if a.same b then a :: commonFront as bs else []
  | _, _ => []

/-- What the branches of a choice begin with, and the branches without it. -/
def commonFront? (exprs : List Expr) : Option (List Expr × List (List Expr)) :=
  match sequences? exprs with
  | some (first :: rest) =>
      match rest.foldl commonFront first with
      | [] => none
      | front => some (front, (first :: rest).map (·.drop front.length))
  | _ => none

/-- Branches side by side that have nothing in common in front. -/
def sideBySide (exprs : List Expr) : Expr :=
  match exprs with
  | [expr] => expr
  | exprs =>
      match singleChars? exprs, charSets? exprs with
      | some chars, _ => ofSet (.ofRanges (chars.map fun c => (c.toNat, c.toNat)))
      | none, some sets => ofSet (.ofRanges (sets.flatMap CharSet.ranges))
      | none, none => choice exprs

/-- Expressions side by side. -/
def inChoice (exprs : List Expr) : Expr :=
  let exprs := exprs.flatMap branches
  match commonFront? exprs with
  | some (front, ends) =>
      if exprs.length ≤ 1 then sideBySide exprs
      else inSequence (front ++ [sideBySide ((ends.map inSequence).flatMap branches)])
  | none => sideBySide exprs

end Expr

end StackProse.Pattern
