import StackProse.Pattern.Code
import StackProse.Pattern.Reader

/-!
# Searching for patterns

A search tries the places of a text from left to right and follows the steps of the pattern from
each of them, the preferred way first. No step is tried twice at the same place: what has failed
there once fails there always, whatever has been remembered on the way. So a search takes time
proportional to the length of the text and to the number of steps.
-/

namespace StackProse.Pattern

/-- The places remembered on the way, by number. -/
abbrev Marks := List (Nat × Nat)

/-- A step to be tried at a place of the text. -/
structure Trial where
  step : Nat
  place : Nat
  marks : Marks
  deriving Inhabited

namespace Code

/-- Whether the character at a place belongs to a word. -/
def isWordAt (unicode : Bool) (text : Array Char) (place : Nat) : Bool :=
  match text[place]? with
  | some c => (Escape.wordCharacters unicode).contains c
  | none => false

/-- Whether the character before a place belongs to a word. -/
def isWordBefore (unicode : Bool) (text : Array Char) (place : Nat) : Bool :=
  match place with
  | 0 => false
  | before + 1 => isWordAt unicode text before

/-- Whether a condition holds at a place. -/
def holds (text : Array Char) (place : Nat) : Assertion → Bool
  | .textStart => place == 0
  | .textEnd => place == text.size
  | .lineStart crlf =>
      match place with
      | 0 => true
      | before + 1 =>
          text[before]? == some '\n' ||
            (crlf && text[before]? == some '\r' && text[place]? != some '\n')
  | .lineEnd crlf =>
      place == text.size ||
        (text[place]? == some '\n' &&
          !(crlf && place != 0 && text[place - 1]? == some '\r')) ||
        (crlf && text[place]? == some '\r')
  | .wordBoundary unicode => isWordBefore unicode text place != isWordAt unicode text place
  | .notWordBoundary unicode => isWordBefore unicode text place == isWordAt unicode text place
  | .wordStart unicode => !isWordBefore unicode text place && isWordAt unicode text place
  | .wordEnd unicode => isWordBefore unicode text place && !isWordAt unicode text place
  | .wordStartHalf unicode => !isWordBefore unicode text place
  | .wordEndHalf unicode => !isWordAt unicode text place

/-- The trials that follow a step, the preferred one in front. The second part tells whether the
pattern has matched. -/
def follow (text : Array Char) (trial : Trial) : Step → List Trial × Bool
  | .accept => ([], true)
  | .take set next =>
      match text[trial.place]? with
      | some c => (if set.contains c then [⟨next, trial.place + 1, trial.marks⟩] else [], false)
      | none => ([], false)
  | .check assertion next =>
      (if holds text trial.place assertion then [{ trial with step := next }] else [], false)
  | .mark slot next =>
      ([⟨next, trial.place, (slot, trial.place) :: trial.marks⟩], false)
  | .fork first second => ([{ trial with step := first }, { trial with step := second }], false)

/-- Tries the trials in order. `tried` tells which steps have been tried at which places; every
round takes one trial. -/
def explore (code : Code) (text : Array Char) (tried : Array Bool) (trials : List Trial) :
    Nat → Option Marks × Array Bool
  | 0 => (none, tried)
  | rounds + 1 =>
      match trials with
      | [] => (none, tried)
      | trial :: rest =>
          let key := trial.place * code.steps.size + trial.step
          if tried.getD key true then explore code text tried rest rounds
          else
            match code.steps[trial.step]? with
            | none => explore code text tried rest rounds
            | some step =>
                let (following, matched) := follow text trial step
                if matched then (some trial.marks, tried)
                else
                  explore code text (tried.setIfInBounds key true) (following ++ rest) rounds

/-- Tries the next `count` places of the text from `place` on. -/
def searchFrom (code : Code) (text : Array Char) (tried : Array Bool) (place : Nat) :
    Nat → Option Marks
  | 0 => none
  | count + 1 =>
      let rounds := 2 * code.steps.size * (text.size + 1) + 2
      match code.explore text tried [⟨code.start, place, []⟩] rounds with
      | (some marks, _) => some marks
      | (none, tried) => code.searchFrom text tried (place + 1) count

/-- The places remembered by the first match in a text. -/
def search (code : Code) (text : Array Char) : Option Marks :=
  code.searchFrom text (Array.replicate (code.steps.size * (text.size + 1)) false) 0
    (text.size + 1)

/-- Whether the pattern matches somewhere in a text. -/
def isMatch (code : Code) (text : List Char) : Bool :=
  (code.search text.toArray).isSome

/-- The text of a group; empty if the group took no part in the match. -/
def groupText (text : List Char) (marks : Marks) (index : Nat) : List Char :=
  match marks.lookup (2 * index), marks.lookup (2 * index + 1) with
  | some start, some stop => (text.drop start).take (stop - start)
  | _, _ => []

/-- The texts of the remembered groups of the first match, in order of their numbers. -/
def captures? (code : Code) (text : List Char) : Option (List (List Char)) :=
  (code.search text.toArray).map fun marks =>
    (List.range code.groups).map fun index => groupText text marks (index + 1)

end Code

/-- The code of a pattern. -/
def compile (text : List Char) : Except Refusal Code :=
  (Reader.read text).map Code.ofExpr

end StackProse.Pattern
