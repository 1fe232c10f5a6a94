import StackProse.Pattern.Escape

/-!
# Classes in brackets

A class in brackets is a set of characters, written as a list of characters, ranges, escapes and
further classes. Such lists can be intersected, subtracted and compared. Besides the set, reading
a class gives the depth to which it nests.
-/

namespace StackProse.Pattern.Bracket

/-- How two parts of a class are combined. -/
inductive Operator
  | inter
  | diff
  | symmDiff

/-- The ASCII sets that have a name of their own inside brackets. -/
def namedSet? : String → Option CharSet
  | "alnum" => some ⟨[(48, 57), (65, 90), (97, 122)]⟩
  | "alpha" => some ⟨[(65, 90), (97, 122)]⟩
  | "ascii" => some ⟨[(0, 127)]⟩
  | "blank" => some ⟨[(9, 9), (32, 32)]⟩
  | "cntrl" => some ⟨[(0, 31), (127, 127)]⟩
  | "digit" => some ⟨[(48, 57)]⟩
  | "graph" => some ⟨[(33, 126)]⟩
  | "lower" => some ⟨[(97, 122)]⟩
  | "print" => some ⟨[(32, 126)]⟩
  | "punct" => some ⟨[(33, 47), (58, 64), (91, 96), (123, 126)]⟩
  | "space" => some ⟨[(9, 13), (32, 32)]⟩
  | "upper" => some ⟨[(65, 90)]⟩
  | "word" => some ⟨[(48, 57), (65, 90), (95, 95), (97, 122)]⟩
  | "xdigit" => some ⟨[(48, 57), (65, 70), (97, 102)]⟩
  | _ => none

/-- The set of a class that is complete: case variants are added, then the complement is taken.
Without `unicode` it must hold nothing but ASCII. -/
def finish (flags : Flags) (negated : Bool) (set : CharSet) : Except Refusal CharSet :=
  let set := flags.fold set
  let set := if negated then set.compl else set
  if flags.unicode || set.isAscii then .ok set else .error .invalidBytes

/-- A set that has a name, such as `[:alpha:]`, behind its first bracket, and whether its
complement is meant. -/
def namedClass? (text : List Char) : Option (Read (CharSet × Bool)) :=
  match text with
  | ':' :: rest =>
      let (negated, rest) := match rest with
        | '^' :: rest => (true, rest)
        | rest => (false, rest)
      let name := rest.takeWhile (· != ':')
      match rest.drop name.length, namedSet? (String.ofList name) with
      | ':' :: ']' :: after, some set => some ((set, negated), after)
      | _, _ => none
  | _ => none

/-- Reads one item of a class. -/
def readAtom (flags : Flags) (text : List Char) : Except Refusal (Read Atom) :=
  match text with
  | [] => .error .unclosedClass
  | '\\' :: rest => Escape.read flags rest
  | c :: rest => .ok (.literal c, rest)

/-- The character that an item of a class is. Without `unicode` it must be ASCII. -/
def charOf (flags : Flags) : Atom → Except Refusal Char
  | .literal c | .byte c =>
      if flags.unicode || c.toNat < 128 then .ok c else .error .invalidBytes
  | _ => .error .badClassItem

/-- The set of an item of a class. -/
def setOf (flags : Flags) : Atom → Except Refusal CharSet
  | .set set => .ok set
  | atom => (charOf flags atom).map CharSet.single

/-- The first character that is neither a blank nor, if no comment has begun, the sign of a
comment. -/
def firstMark? (comment : Bool) : List Char → Option Char
  | [] => none
  | c :: rest =>
      if Letter.isBlank c then firstMark? comment rest
      else if c == '#' && !comment then firstMark? true rest
      else some c

/-- The character behind a dash that decides what the dash means. In an extended pattern blanks are
passed over, and the sign of a comment, but not the comment. -/
def behindDash? (flags : Flags) (text : List Char) : Option Char :=
  if flags.extended then (firstMark? false text).or text.head? else text.head?

/-- Reads an item or a range of a class. -/
def readRange (flags : Flags) (text : List Char) : Except Refusal (Read CharSet) := do
  let (first, rest) ← readAtom flags text
  let rest := skipBlanks flags rest
  match rest with
  | [] => throw .unclosedClass
  | '-' :: behind =>
      match behindDash? flags behind with
      | some ']' | some '-' => return (← setOf flags first, rest)
      | _ =>
          let (last, rest) ← readAtom flags (skipBlanks flags behind)
          let first ← charOf flags first
          let last ← charOf flags last
          if last < first then throw .badClassRange
          return (.range first last, rest)
  | _ => return (← setOf flags first, rest)

/-- The parts of a class that is being read. -/
structure Draft where
  negated : Bool
  /-- What stands before the last operator, its depth, and the operator. -/
  before : Option (CharSet × Nat × Operator) := none
  /-- The set of the items read since then. -/
  part : CharSet := .empty
  /-- The number of these items. -/
  count : Nat := 0
  /-- The depth of the deepest of these items. -/
  depth : Nat := 0

namespace Draft

/-- Adds an item. -/
def add (draft : Draft) (set : CharSet) (depth : Nat) : Draft :=
  { draft with
    part := draft.part.union set
    count := draft.count + 1
    depth := max draft.depth depth }

/-- The depth of the items since the last operator. Several items are one level deeper. -/
def partDepth (draft : Draft) : Nat :=
  if 1 < draft.count then draft.depth + 1 else draft.depth

/-- The set and the depth of all that has been read. -/
def combine (flags : Flags) (draft : Draft) : CharSet × Nat :=
  match draft.before with
  | none => (draft.part, draft.partDepth)
  | some (left, depth, operator) =>
      let left := flags.fold left
      let right := flags.fold draft.part
      let set := match operator with
        | .inter => left.inter right
        | .diff => left.diff right
        | .symmDiff => left.symmDiff right
      (set, max depth draft.partDepth + 1)

/-- Goes on behind an operator. -/
def operate (flags : Flags) (draft : Draft) (operator : Operator) : Draft :=
  let (set, depth) := draft.combine flags
  { draft with before := some (set, depth, operator), part := .empty, count := 0, depth := 0 }

end Draft

/-- Reads the dashes that stand for themselves in front of a class. Each round takes one. -/
def readDashes (flags : Flags) (draft : Draft) : Nat → List Char → Read Draft
  | rounds + 1, '-' :: rest =>
      readDashes flags (draft.add (.single '-') 0) rounds (skipBlanks flags rest)
  | _, text => (draft, text)

/-- Reads the beginning of a class behind its bracket: the sign of the complement, dashes, and a
bracket that stands for itself. -/
def readOpening (flags : Flags) (text : List Char) : Read Draft :=
  let text := skipBlanks flags text
  let (negated, text) := match text with
    | '^' :: rest => (true, skipBlanks flags rest)
    | text => (false, text)
  let (draft, text) := readDashes flags ⟨negated, none, .empty, 0, 0⟩ text.length text
  match draft.count, text with
  | 0, ']' :: rest => (draft.add (.single ']') 0, rest)
  | _, text => (draft, text)

/-- Reads a class up to its closing bracket. The classes around it are kept in `outer`, innermost
first. Each round takes at least one character. -/
def readBody (flags : Flags) (outer : List Draft) (draft : Draft) (text : List Char) :
    Nat → Except Refusal (Read (CharSet × Nat))
  | 0 => .error .unclosedClass
  | rounds + 1 =>
      match skipBlanks flags text with
      | [] => .error .unclosedClass
      | '[' :: rest =>
          match namedClass? rest with
          | some ((set, negated), after) => do
              let set ← finish flags negated set
              readBody flags outer (draft.add set 0) after rounds
          | none =>
              let (inner, after) := readOpening flags rest
              readBody flags (draft :: outer) inner after rounds
      | ']' :: rest => do
          let (set, depth) := draft.combine flags
          let set ← finish flags draft.negated set
          match outer with
          | [] => return ((set, depth + 1), rest)
          | around :: outer => readBody flags outer (around.add set (depth + 1)) rest rounds
      | '&' :: '&' :: rest => readBody flags outer (draft.operate flags .inter) rest rounds
      | '-' :: '-' :: rest => readBody flags outer (draft.operate flags .diff) rest rounds
      | '~' :: '~' :: rest => readBody flags outer (draft.operate flags .symmDiff) rest rounds
      | text => do
          let (set, after) ← readRange flags text
          readBody flags outer (draft.add set 0) after rounds

/-- Reads a class behind its opening bracket: its set and its depth. -/
def read (flags : Flags) (text : List Char) : Except Refusal (Read (CharSet × Nat)) :=
  let (draft, rest) := readOpening flags text
  readBody flags [] draft rest (rest.length + 1)

end StackProse.Pattern.Bracket
