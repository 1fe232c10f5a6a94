import StackProse.Character.Folding
import StackProse.Character.Query
import StackProse.Pattern.Expr
import StackProse.Pattern.Options

/-!
# Escapes

A backslash gives the character behind it another meaning: a character that cannot be typed, a set
of characters, or a condition on a place. In an extended pattern blanks and comments may stand
inside an escape too.
-/

namespace StackProse.Pattern

/-- A part of a pattern that stands for one character or for a place. -/
inductive Atom
  | literal (c : Char)
  /-- A byte written by two hexadecimal digits. -/
  | byte (c : Char)
  | set (chars : CharSet)
  | assertion (test : Assertion)

/-- The set with all case variants, where case is ignored. -/
def Flags.fold (flags : Flags) (set : CharSet) : CharSet :=
  if flags.ignoreCase then set.ignoreCase flags.unicode else set

namespace Escape

/-! ### Characters by number -/

/-- The value of a hexadecimal digit. -/
def hexValue? (c : Char) : Option Nat :=
  if c.isDigit then some (c.toNat - '0'.toNat)
  else if 'a' ≤ c && c ≤ 'f' then some (c.toNat - 'a'.toNat + 10)
  else if 'A' ≤ c && c ≤ 'F' then some (c.toNat - 'A'.toNat + 10)
  else none

/-- The character with a code point written by hexadecimal digits. -/
def hexChar? (digits : List Char) : Option Char := do
  let values ← digits.mapM hexValue?
  if values.isEmpty then none
  let point := values.foldl (fun point value => 16 * point + value) 0
  if point < 0xD800 || (0xE000 ≤ point && point ≤ 0x10FFFF) then some (Char.ofNat point) else none

/-- Reads a number of characters, without the blanks and comments before each of them. -/
def readDigits (flags : Flags) : Nat → List Char → Option (Read (List Char))
  | 0, text => some ([], text)
  | count + 1, text =>
      match skipBlanks flags text with
      | [] => none
      | c :: rest => (readDigits flags count rest).map fun (more, rest) => (c :: more, rest)

/-- Reads the digits of a hexadecimal escape: in braces, or exactly `count` of them. -/
def hexEscape (flags : Flags) (count : Nat) (text : List Char) : Except Refusal (Read Atom) :=
  match skipBlanks flags text with
  | '\x7b' :: rest =>
      match readBraced flags (rest.length + 1) rest with
      | some (digits, rest) =>
          match hexChar? digits with
          | some c => .ok (.literal c, rest)
          | none => .error .badEscape
      | none => .error .badEscape
  | rest =>
      match readDigits flags count rest with
      | some (digits, rest) =>
          match hexChar? digits with
          | some c => .ok (if count = 2 then .byte c else .literal c, rest)
          | none => .error .badEscape
      | none => .error .badEscape

/-! ### Sets -/

/-- The set that a name stands for, or its complement. Case variants are added first. -/
def propertySet (flags : Flags) (negated : Bool) (name : List Char) : Except Refusal Atom :=
  if !flags.unicode then .error .invalidBytes
  else
    match CharSet.query? name with
    | none => .error .unknownProperty
    | some set => .ok (.set (if negated then (flags.fold set).compl else flags.fold set))

/-- Reads the name of a property: in braces, or one character. -/
def propertyEscape (flags : Flags) (negated : Bool) (text : List Char) :
    Except Refusal (Read Atom) :=
  match skipBlanks flags text with
  | [] | '\\' :: _ => .error .badEscape
  | '\x7b' :: rest =>
      match readBraced flags (rest.length + 1) rest with
      | some (name, rest) => (propertySet flags negated name).map (·, rest)
      | none => .error .badEscape
  | c :: rest => (propertySet flags negated [c]).map (·, rest)

/-- Decimal digits. -/
def digits (unicode : Bool) : CharSet :=
  if unicode then .decimalDigits else ⟨[(48, 57)]⟩

/-- Blanks. -/
def blanks (unicode : Bool) : CharSet :=
  if unicode then .blanks else ⟨[(9, 13), (32, 32)]⟩

/-- The characters of words. -/
def wordCharacters (unicode : Bool) : CharSet :=
  if unicode then .wordCharacters else ⟨[(48, 57), (65, 90), (95, 95), (97, 122)]⟩

/-- One of the short named sets, or its complement. -/
def namedSet (flags : Flags) (negated : Bool) (set : Bool → CharSet) : Except Refusal Atom :=
  if !negated then .ok (.set (set flags.unicode))
  else if flags.unicode then .ok (.set (set true).compl)
  else .error .invalidBytes

/-! ### Places -/

/-- Whether a character may stand in the name of a condition on words. -/
def isBoundaryLetter (c : Char) : Bool :=
  c.isAlpha || c == '-'

/-- The condition on words with a name. -/
def boundary? (unicode : Bool) (name : String) : Option Assertion :=
  match name with
  | "start" => some (.wordStart unicode)
  | "end" => some (.wordEnd unicode)
  | "start-half" => some (.wordStartHalf unicode)
  | "end-half" => some (.wordEndHalf unicode)
  | _ => none

/-- Reads a condition behind `\b`. A brace that begins no name counts a repetition. -/
def boundaryEscape (flags : Flags) (text : List Char) : Except Refusal (Read Atom) :=
  let plain : Except Refusal (Read Atom) := .ok (.assertion (.wordBoundary flags.unicode), text)
  match text with
  | '\x7b' :: rest =>
      match skipBlanks flags rest with
      | [] => .error .badEscape
      | c :: _ =>
          if !isBoundaryLetter c then plain
          else
            match readBraced flags (rest.length + 1) rest with
            | none => .error .badEscape
            | some (name, rest) =>
                match boundary? flags.unicode (String.ofList name) with
                | some assertion => .ok (.assertion assertion, rest)
                | none => .error .badEscape
  | _ => plain

/-! ### All escapes -/

/-- The characters that stand for themselves behind a backslash. -/
def isEscapable (c : Char) : Bool :=
  c.toNat < 128 && !c.isAlphanum && c != '<' && c != '>'

/-- Reads what follows a backslash. -/
def read (flags : Flags) (text : List Char) : Except Refusal (Read Atom) :=
  match text with
  | [] => .error .badEscape
  | c :: rest =>
      match c with
      | 'd' => (namedSet flags false digits).map (·, rest)
      | 'D' => (namedSet flags true digits).map (·, rest)
      | 's' => (namedSet flags false blanks).map (·, rest)
      | 'S' => (namedSet flags true blanks).map (·, rest)
      | 'w' => (namedSet flags false wordCharacters).map (·, rest)
      | 'W' => (namedSet flags true wordCharacters).map (·, rest)
      | 'p' => propertyEscape flags false rest
      | 'P' => propertyEscape flags true rest
      | 'x' => hexEscape flags 2 rest
      | 'u' => hexEscape flags 4 rest
      | 'U' => hexEscape flags 8 rest
      | 'a' => .ok (.literal '\x07', rest)
      | 'f' => .ok (.literal '\x0c', rest)
      | 't' => .ok (.literal '\t', rest)
      | 'n' => .ok (.literal '\n', rest)
      | 'r' => .ok (.literal '\r', rest)
      | 'v' => .ok (.literal '\x0b', rest)
      | 'A' => .ok (.assertion .textStart, rest)
      | 'z' => .ok (.assertion .textEnd, rest)
      | 'b' => boundaryEscape flags rest
      | 'B' => .ok (.assertion (.notWordBoundary flags.unicode), rest)
      | '<' => .ok (.assertion (.wordStart flags.unicode), rest)
      | '>' => .ok (.assertion (.wordEnd flags.unicode), rest)
      | c => if isEscapable c then .ok (.literal c, rest) else .error .badEscape

end Escape

end StackProse.Pattern
