import StackProse.Text.CaseData

/-!
# Letter case and blanks

Case mappings of characters and of whole texts. A mapping can give several characters. In a whole
text the Greek capital sigma becomes the final small form at the end of a word and the ordinary
one elsewhere; character by character it always becomes the ordinary one.
-/

namespace StackProse.Letter

/-- Whether `n` lies in one of the ranges. -/
def inRanges (ranges : List (Nat × Nat)) (n : Nat) : Bool :=
  ranges.any fun range => range.1 ≤ n && n ≤ range.2

/-- The character that one of the runs gives for `n`, or `n` itself. -/
def shiftBy (runs : List CaseData.Run) (n : Nat) : Nat :=
  match runs.find? fun run =>
      run.first ≤ n && n ≤ run.last && (n - run.first) % run.step == 0 with
  | some run => (n + run.shift).toNat
  | none => n

/-- The mapping given by runs and by single sequences. -/
def mapWith (runs : List CaseData.Run) (sequences : List (Nat × List Nat)) (c : Char) :
    List Char :=
  match sequences.find? (·.1 == c.toNat) with
  | some sequence => sequence.2.map Char.ofNat
  | none => [Char.ofNat (shiftBy runs c.toNat)]

/-- The uppercase form of a character. -/
def upper (c : Char) : List Char :=
  if c.toNat < 128 then [c.toUpper]
  else mapWith CaseData.upperRuns CaseData.upperSequences c

/-- The lowercase form of a character. -/
def lower (c : Char) : List Char :=
  if c.toNat < 128 then [c.toLower]
  else mapWith CaseData.lowerRuns CaseData.lowerSequences c

/-- Whether a character has case and counts when the surroundings of a letter are looked at. -/
def isCased (c : Char) : Bool :=
  inRanges CaseData.casedRanges c.toNat

/-- Whether a character is passed over when the surroundings of a letter are looked at. -/
def isIgnorable (c : Char) : Bool :=
  inRanges CaseData.ignorableRanges c.toNat

/-- Whether the first character that is not passed over has case. -/
def meetsCased (text : List Char) : Bool :=
  (text.dropWhile isIgnorable).head?.any isCased

/-- The uppercase form of a text. -/
def upperText (text : List Char) : List Char :=
  text.flatMap upper

/-- The lowercase form of a text, behind the reversed text `before` and the reversed result
`done`. -/
def lowerTextFrom (before done : List Char) : List Char → List Char
  | [] => done.reverse
  | c :: rest =>
      let mapped :=
        if c = 'Σ' then (if meetsCased before && !meetsCased rest then ['ς'] else ['σ'])
        else lower c
      lowerTextFrom (c :: before) (mapped.reverse ++ done) rest

/-- The lowercase form of a text. -/
def lowerText (text : List Char) : List Char :=
  lowerTextFrom [] [] text

/-- The form of a word under which names are known: the first character in uppercase and the
others in lowercase, each taken by itself. -/
def nameForm (text : List Char) : List Char :=
  match text with
  | [] => []
  | first :: rest => upper first ++ rest.flatMap lower

/-- The characters that count as blank at the ends of a text. -/
def isBlank (c : Char) : Bool :=
  inRanges [(0x9, 0xD), (0x20, 0x20), (0x85, 0x85), (0xA0, 0xA0), (0x1680, 0x1680),
    (0x2000, 0x200A), (0x2028, 0x2029), (0x202F, 0x202F), (0x205F, 0x205F), (0x3000, 0x3000)]
    c.toNat

/-- A text without the blanks at its ends. -/
def trim (text : List Char) : List Char :=
  ((text.dropWhile isBlank).reverse.dropWhile isBlank).reverse

end StackProse.Letter
