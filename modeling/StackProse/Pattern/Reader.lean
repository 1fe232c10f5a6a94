import StackProse.Pattern.Bracket
import StackProse.Pattern.GroupName
import StackProse.Pattern.Size

/-!
# Reading patterns

`Reader.read` turns the text of a pattern into an expression, or refuses it. The text is read in
one pass; open groups are kept on a stack. Options such as `(?i)` hold up to the end of the group
around them and are worked into the sets and conditions that follow. Every part is kept with the
depth to which its text nests, because simpler expressions nest less deeply than what was written.
-/

namespace StackProse.Pattern.Reader

/-! ### Repetition -/

/-- Reads decimal digits with the blanks between them. Each round takes one digit. -/
def readDecimal (flags : Flags) : Nat → List Char → Read (List Char)
  | 0, text => ([], text)
  | rounds + 1, text =>
      match text with
      | c :: rest =>
          if c.isDigit then
            let (more, rest) := readDecimal flags rounds (skipBlanks flags rest)
            (c :: more, rest)
          else ([], text)
      | [] => ([], [])

/-- Passes over blanks, and over comments behind them where the pattern is extended. Each round
takes one blank. -/
def passBlanks (flags : Flags) : Nat → List Char → List Char
  | 0, text => text
  | rounds + 1, text =>
      match text with
      | c :: rest =>
          if Letter.isBlank c then passBlanks flags rounds (skipBlanks flags rest) else text
      | [] => []

/-- Reads a decimal number with blanks around it. -/
def readCount (flags : Flags) (text : List Char) : Except Refusal (Read (Option Nat)) :=
  let text := text.dropWhile Letter.isBlank
  let (digits, rest) := readDecimal flags text.length text
  let value := digits.foldl (fun value c => 10 * value + (c.toNat - '0'.toNat)) 0
  if 0xFFFFFFFF < value then .error .badRepetition
  else .ok (if digits.isEmpty then none else some value, passBlanks flags rest.length rest)

/-- Reads the bounds of a counted repetition behind the opening brace. -/
def readBounds (flags : Flags) (text : List Char) : Except Refusal (Read (Nat × Option Nat)) := do
  let (least?, rest) ← readCount flags (skipBlanks flags text)
  let some least := least? | throw .badRepetition
  match rest with
  | '\x7d' :: after => return ((least, some least), after)
  | ',' :: rest =>
      match skipBlanks flags rest with
      | '\x7d' :: after => return ((least, none), after)
      | rest =>
          let (most?, rest) ← readCount flags rest
          let some most := most? | throw .badRepetition
          match rest with
          | '\x7d' :: after =>
              if most < least then throw .badRepetition
              return ((least, some most), after)
          | _ => throw .badRepetition
  | _ => throw .badRepetition

/-! ### Groups -/

/-- Reads the option letters of a group. They end before a colon or a closing parenthesis. -/
def readFlags (flags : Flags) (seen : List Char) (negating : Bool) (lastIsDash : Bool) :
    List Char → Except Refusal (Read (Flags × Bool))
  | [] => .error .unclosedGroup
  | ':' :: rest =>
      if lastIsDash then .error .badFlags else .ok ((flags, !seen.isEmpty), ':' :: rest)
  | ')' :: rest =>
      if lastIsDash then .error .badFlags else .ok ((flags, !seen.isEmpty), ')' :: rest)
  | '-' :: rest =>
      if negating then .error .badFlags else readFlags flags ('-' :: seen) true true rest
  | c :: rest =>
      if seen.contains c then .error .badFlags
      else
        match flags.set? c (!negating) with
        | some flags => readFlags flags (c :: seen) negating false rest
        | none => .error .badFlags

/-- Reads the name of a group behind its opening sign. -/
def readName (text : List Char) : Except Refusal (Read (List Char)) :=
  let name := text.takeWhile (· != '>')
  match name, text.drop name.length with
  | first :: more, _ :: rest =>
      if GroupName.starts first && more.all GroupName.continues then .ok (name, rest)
      else .error .badGroupName
  | _, _ => .error .badGroupName

/-- A part of a pattern: its expression, and the depth to which its text nests. -/
structure Item where
  expr : Expr
  depth : Nat := 0

namespace Item

/-- The depth of several items together: several are one level deeper than the deepest. -/
def depthOf (items : List Item) : Nat :=
  let deepest := items.foldl (fun depth item => max depth item.depth) 0
  if 1 < items.length then deepest + 1 else deepest

/-- Items one after the other, given newest first. -/
def inSequence (items : List Item) : Item :=
  ⟨.inSequence (items.reverse.map expr), depthOf items⟩

/-- Items side by side, given newest first. -/
def inChoice (items : List Item) : Item :=
  match items with
  | [item] => item
  | items => ⟨.inChoice (items.reverse.map expr), depthOf items⟩

end Item

/-- The part of a pattern outside of a group that is being read. -/
structure Level where
  /-- The number of the group, if it is remembered. -/
  index : Option Nat
  /-- The options outside of the group. -/
  flags : Flags
  branches : List Item
  parts : List Item

/-- A pattern in the making. -/
structure Draft where
  flags : Flags := {}
  /-- The number of the last group. -/
  groups : Nat := 0
  names : List (List Char) := []
  outer : List Level := []
  /-- The complete branches of the innermost group, newest first. -/
  branches : List Item := []
  /-- The parts of the branch that is being read, newest first. -/
  parts : List Item := []
  /-- Whether a repetition has something to repeat. -/
  repeatable : Bool := false

namespace Draft

/-- Adds a part. -/
def add (draft : Draft) (expr : Expr) (depth : Nat) : Draft :=
  { draft with parts := ⟨expr, depth⟩ :: draft.parts, repeatable := true }

/-- What the innermost group matches. -/
def inner (draft : Draft) : Item :=
  .inChoice (.inSequence draft.parts :: draft.branches)

/-- Begins a group. -/
def openGroup (draft : Draft) (index : Option Nat) (flags : Flags) : Draft :=
  { draft with
    flags := flags
    outer := ⟨index, draft.flags, draft.branches, draft.parts⟩ :: draft.outer
    branches := []
    parts := []
    repeatable := false }

/-- Begins a group that is remembered. -/
def openCapture (draft : Draft) : Draft :=
  { draft.openGroup (some (draft.groups + 1)) draft.flags with groups := draft.groups + 1 }

/-- Begins a group with a name. -/
def openNamed (draft : Draft) (text : List Char) : Except Refusal (Read Draft) := do
  let (name, rest) ← readName text
  if draft.names.contains name then throw .badGroupName
  return ({ draft.openCapture with names := name :: draft.names }, rest)

/-- Changes the options. The change counts as a part that takes nothing and cannot be repeated. -/
def setFlags (draft : Draft) (flags : Flags) : Draft :=
  { draft with flags := flags, parts := ⟨.empty, 0⟩ :: draft.parts, repeatable := false }

/-- Reads the beginning of a group behind its parenthesis. -/
def readOpening (draft : Draft) (text : List Char) : Except Refusal (Read Draft) :=
  match skipBlanks draft.flags text with
  | '?' :: '=' :: _ | '?' :: '!' :: _ | '?' :: '<' :: '=' :: _ | '?' :: '<' :: '!' :: _ =>
      .error .lookAround
  | '?' :: 'P' :: '<' :: rest => draft.openNamed rest
  | '?' :: '<' :: rest => draft.openNamed rest
  | '?' :: rest => do
      let ((flags, any), rest) ← readFlags draft.flags [] false false rest
      match rest with
      | ':' :: rest => return (draft.openGroup none flags, rest)
      | _ :: rest =>
          if !any then throw .missingOperand
          return (draft.setFlags flags, rest)
      | [] => throw .unclosedGroup
  | rest => .ok (draft.openCapture, rest)

/-- Ends the innermost group. -/
def closeGroup (draft : Draft) : Except Refusal Draft :=
  match draft.outer with
  | [] => .error .unopenedGroup
  | level :: outer =>
      let inner := draft.inner
      let expr := match level.index with
        | some index => Expr.capture index inner.expr
        | none => inner.expr
      .ok { draft with
        flags := level.flags
        outer := outer
        branches := level.branches
        parts := ⟨expr, inner.depth + 1⟩ :: level.parts
        repeatable := true }

/-- Begins a new branch. -/
def nextBranch (draft : Draft) : Draft :=
  { draft with
    branches := .inSequence draft.parts :: draft.branches
    parts := []
    repeatable := false }

/-- Repeats the last part, as seldom as possible if a question mark follows. -/
def repeatLast (draft : Draft) (least : Nat) (most : Option Nat) (text : List Char) :
    Except Refusal (Read Draft) :=
  match draft.repeatable, draft.parts with
  | true, last :: before =>
      let (lazy, rest) := match text with
        | '?' :: rest => (true, rest)
        | rest => (false, rest)
      let greedy := lazy == draft.flags.swapGreed
      let expr := last.expr.repeated least most greedy
      .ok ({ draft with parts := ⟨expr, last.depth + 1⟩ :: before }, rest)
  | _, _ => .error .missingOperand

/-- The expression of an atom under the options in force. -/
def atomExpr (flags : Flags) : Atom → Except Refusal Expr
  | .literal c => .ok (.ofSet (flags.fold (.single c)))
  | .byte c =>
      if !flags.unicode && 128 ≤ c.toNat then .error .invalidBytes
      else .ok (.ofSet (flags.fold (.single c)))
  | .set chars => .ok (.ofSet chars)
  | .assertion test => .ok (.assertion test)

/-- What a dot stands for. -/
def dot (flags : Flags) : Except Refusal Expr :=
  if !flags.unicode then .error .invalidBytes
  else if flags.dotAll then .ok (.set .all)
  else if flags.crlf then .ok (.set (CharSet.compl ⟨[(10, 10), (13, 13)]⟩))
  else .ok (.set (CharSet.compl ⟨[(10, 10)]⟩))

/-- Takes up the next piece of a pattern. -/
def step (draft : Draft) (c : Char) (rest : List Char) : Except Refusal (Read Draft) :=
  match c with
  | '(' => draft.readOpening rest
  | ')' => draft.closeGroup.map (·, rest)
  | '|' => .ok (draft.nextBranch, rest)
  | '[' => do
      let ((set, depth), rest) ← Bracket.read draft.flags rest
      return (draft.add (.ofSet set) depth, rest)
  | '?' => draft.repeatLast 0 (some 1) rest
  | '*' => draft.repeatLast 0 none rest
  | '+' => draft.repeatLast 1 none rest
  | '\x7b' => do
      if !draft.repeatable then throw .missingOperand
      let ((least, most), rest) ← readBounds draft.flags rest
      draft.repeatLast least most (skipBlanks draft.flags rest)
  | '.' => do return (draft.add (← dot draft.flags) 0, rest)
  | '^' =>
      let assertion := if draft.flags.multiLine then .lineStart draft.flags.crlf else .textStart
      .ok (draft.add (.assertion assertion) 0, rest)
  | '$' =>
      let assertion := if draft.flags.multiLine then .lineEnd draft.flags.crlf else .textEnd
      .ok (draft.add (.assertion assertion) 0, rest)
  | '\\' => do
      let (atom, rest) ← Escape.read draft.flags rest
      return (draft.add (← atomExpr draft.flags atom) 0, rest)
  | c => do return (draft.add (← atomExpr draft.flags (.literal c)) 0, rest)

/-- Takes up the rest of a pattern. Each round takes at least one character. -/
def steps (draft : Draft) (text : List Char) : Nat → Except Refusal Draft
  | 0 => .ok draft
  | rounds + 1 =>
      match skipBlanks draft.flags text with
      | [] => .ok draft
      | c :: rest => do
          let (draft, rest) ← draft.step c rest
          draft.steps rest rounds

end Draft

/-- Patterns may nest this deep. -/
def maxNesting : Nat := 250

/-- Reads a pattern. -/
def read (text : List Char) : Except Refusal Expr := do
  let draft ← Draft.steps {} text (text.length + 1)
  if !draft.outer.isEmpty then throw .unclosedGroup
  let item := draft.inner
  if maxNesting < item.depth then throw .tooDeep
  if !item.expr.fits then throw .tooLarge
  return item.expr

end StackProse.Pattern.Reader
