import StackProse.Proofs.Source.Spelling
import StackProse.Proofs.Source.Tiling

/-!
# Quotations

Three loops have to agree on where a quoted text ends and on what it says: the one that writes a text
with backslashes, the one that looks for the closing quote, and the one that reads the backslashes
back. They agree through the pieces of a quoted text. Writing makes one piece of each character
(`Quoted.written_pieceOf`), the closing quote is the first one that is not inside a piece, and a piece
stands for the character it was made of (`Quoted.meaning_pieces`).
-/

namespace StackProse.Quoted

/-! ### Characters as pieces -/

theorem resolve?_of_letter? {c letter : Char} (h : letter? c = some letter) :
    resolve? letter = some c := by
  have hall : ∀ escape ∈ escapes, resolve? escape.1 = some escape.2 := by decide
  obtain ⟨escape, hfind, rfl⟩ := Option.map_eq_some_iff.1 h
  have hc := List.find?_some hfind
  rw [hall escape (List.mem_of_find?_eq_some hfind), eq_of_beq hc]

theorem ne_of_letter?_eq_none {c : Char} (h : letter? c = none) : c ≠ '"' ∧ c ≠ '\\' := by
  constructor
  · rintro rfl
    exact absurd h (by decide)
  · rintro rfl
    exact absurd h (by decide)

/-- The piece that a character is written as. -/
def pieceOf (c : Char) : Piece :=
  match h : letter? c with
  | some letter => .escaped letter
  | none => .plain c (ne_of_letter?_eq_none h).1 (ne_of_letter?_eq_none h).2

theorem text_pieceOf (c : Char) : (pieceOf c).text = escapeChar c := by
  rw [pieceOf, escapeChar]
  split
  · rename_i letter h
    simp [h, Piece.text]
  · rename_i h
    simp [h, Piece.text]

theorem meaning_pieceOf (c : Char) : (pieceOf c).meaning = [c] := by
  rw [pieceOf]
  split
  · rename_i letter h
    rw [Piece.meaning, resolve?_of_letter? h]
    rfl
  · rfl

/-! ### Texts as rows of pieces -/

theorem written_pieceOf (text : List Char) :
    written (text.map pieceOf) = '"' :: escape text ++ ['"'] := by
  have htext : (text.map pieceOf).flatMap Piece.text = escape text := by
    rw [List.flatMap_map, escape]
    exact congrArg (List.flatMap · text) (funext text_pieceOf)
  rw [written, htext]

theorem meaning_pieces (text : List Char) :
    (text.map pieceOf).flatMap Piece.meaning = text := by
  rw [List.flatMap_map]
  calc text.flatMap (fun c => (pieceOf c).meaning)
    _ = text.flatMap fun c => [c] := congrArg (List.flatMap · text) (funext meaning_pieceOf)
    _ = text := List.flatMap_singleton' text

/-- A text in quotes, written with backslashes, is the first token of every source that begins with
it, whatever follows: a string that has all of the quotation and nothing else as its text. What follows
is read as if it stood alone, and the text that is read from the token is the one that was written. -/
theorem quotation_is_read_back (text rest : List Char) :
    let quotation := '"' :: escape text ++ ['"']
    Token.scan (quotation ++ rest) =
        ⟨.string, quotation, 0⟩ :: Token.scanFrom (utf8Length quotation) rest [] ∧
      unescape quotation = text := by
  intro quotation
  have hwritten : written (text.map pieceOf) = quotation := written_pieceOf text
  constructor
  · obtain ⟨tokens, hrest, hscans⟩ := Token.scans_scanFrom (utf8Length quotation) rest []
    let token : Token := ⟨.string, quotation, 0⟩
    have hlexeme : Token.lexeme (token.text ++ rest) = (token.kind, token.text.length) := by
      rw [show token.text = quotation from rfl, ← hwritten]
      exact lexeme_written _ rest
    have hhead : ∀ c ∈ token.text.head?, Token.isBlank c = false := by
      rintro c ⟨⟩
      rfl
    have hstop : token.span.stop = utf8Length quotation := Nat.zero_add _
    have hscan : Token.Scans 0 (quotation ++ rest) (token :: tokens) :=
      .token hhead hlexeme (hstop ▸ hscans)
    rw [hscan.scan_eq, hrest]
    rfl
  · rw [← hwritten, unescape_written, meaning_pieces]

end StackProse.Quoted
