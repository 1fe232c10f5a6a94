/-!
# Places in a source text

A source text is a list of characters, and places in it are byte offsets into its UTF-8 form.
A `Span` is a half-open range of offsets. A `Position` is a zero-based row and a column that
counts bytes from the start of the row; `Position.ofOffset` finds it from the offsets at which
the lines begin.
-/

namespace StackProse

/-- The number of bytes that the UTF-8 form of a text takes. -/
def utf8Length (text : List Char) : Nat :=
  text.foldl (fun size c => size + c.utf8Size) 0

/-- A half-open range of byte offsets. -/
structure Span where
  /-- The first byte covered. -/
  start : Nat := 0
  /-- The first byte after the range. -/
  stop : Nat := 0
  deriving Repr, DecidableEq, Inhabited

namespace Span

/-- The number of bytes covered; a range that ends before it starts covers none. -/
def length (span : Span) : Nat :=
  span.stop - span.start

/-- Whether the range covers no byte. -/
def isEmpty (span : Span) : Bool :=
  span.length == 0

end Span

/-- A zero-based row and a zero-based column in bytes. -/
structure Position where
  /-- The number of line breaks before the place. -/
  row : Nat := 0
  /-- The number of bytes since the last line break. -/
  column : Nat := 0
  deriving Repr, DecidableEq, Inhabited

/-- The offsets just after each line break of a text that begins at `offset`. -/
def lineStartsFrom (offset : Nat) : List Char → List Nat
  | [] => []
  | c :: rest =>
      let next := offset + c.utf8Size
      if c = '\n' then next :: lineStartsFrom next rest else lineStartsFrom next rest

/-- The offsets at which the lines of a text begin, in ascending order. -/
def lineStarts (source : List Char) : List Nat :=
  0 :: lineStartsFrom 0 source

namespace Position

/-- The position of a byte offset among lines that begin at `starts`. Offsets inside a character
and past the end of the text have positions too. -/
def ofOffset (starts : List Nat) (offset : Nat) : Position :=
  let reached := starts.takeWhile (· ≤ offset)
  { row := reached.length - 1
    column := offset - reached.getLastD 0 }

/-- The written form of a position. -/
def text (position : Position) : String :=
  "(" ++ toString position.row ++ ", " ++ toString position.column ++ ")"

end Position

end StackProse
