import Mathlib
import StackProse.Proofs.Source.Spaced

/-!
# How literals and words are spelled

The grammar of what a statement is made of, apart from blocks: numerals, quoted strings, truth
words, symbols, and words of letters or of operator characters. Each is given by its parts, so that
every value of these types is a correct spelling, and each gets two facts: its text stands alone as
a token (`Token.StandsAlone`), and the literal that is read from it is the one it stands for.
-/

namespace StackProse

namespace Token

/-! ### What the lexical rules take -/

theorem run_append {p : Char → Bool} {text rest : List Char} (htext : ∀ c ∈ text, p c)
    (hrest : ∀ c ∈ rest.head?, p c = false) : run p (text ++ rest) = text.length := by
  rw [run]
  induction text with
  | nil =>
      cases rest with
      | nil => rfl
      | cons c rest => simp [hrest c rfl]
  | cons c text ih =>
      obtain ⟨hc, htext⟩ := List.forall_mem_cons.1 htext
      simp [hc, ih htext]

theorem runOne_append {p : Char → Bool} {text rest : List Char} (hne : text ≠ [])
    (htext : ∀ c ∈ text, p c) (hrest : ∀ c ∈ rest.head?, p c = false) :
    runOne p (text ++ rest) = some text.length := by
  rw [runOne, run_append htext hrest, if_neg (by simpa using hne)]

theorem runOne_eq_none {p : Char → Bool} {rest : List Char}
    (hrest : ∀ c ∈ rest.head?, p c = false) : runOne p rest = none := by
  have hrun := run_append (List.forall_mem_nil _) hrest
  rw [List.nil_append, List.length_nil] at hrun
  rw [runOne, if_pos hrun]

/-- A character that is no blank or parenthesis does not come first in what stands apart. -/
theorem Apart.not_head {p : Char → Bool} {rest : List Char} (hrest : Apart rest)
    (hblank : p ' ' = false) (hclosing : p ')' = false) : ∀ c ∈ rest.head?, p c = false := by
  intro c hc
  rcases hrest c hc with rfl | rfl
  · exact hblank
  · exact hclosing

variable {c : Char} {text : List Char}

theorem lineComment_of_ne (h : c ≠ '~') : lineComment (c :: text) = none := by
  unfold lineComment
  split
  · simp_all
  · rfl

theorem enclosedComment_of_ne (h : c ≠ '~') : enclosedComment (c :: text) = none := by
  unfold enclosedComment
  split
  · simp_all
  · rfl

theorem stringLiteral_of_ne (h : c ≠ '"') : stringLiteral (c :: text) = none := by
  unfold stringLiteral
  split
  · simp_all
  · rfl

theorem closingQuote_of_ne {taken : Nat} (hquote : c ≠ '"') (hbackslash : c ≠ '\\') :
    closingQuote taken (c :: text) = closingQuote (taken + 1) text := by
  rw [closingQuote]
  all_goals simp_all

theorem symbol_of_ne (h : c ≠ '\\') : symbol (c :: text) = none := by
  unfold symbol
  split
  · simp_all
  · rfl

theorem number_of_ne (h : c ≠ '-') : number (c :: text) = unsignedNumber (c :: text) := by
  unfold number
  split
  · simp_all
  · rfl

theorem unsignedNumber_eq_none (h : ∀ c ∈ text.head?, c.isDigit = false) :
    unsignedNumber text = none := by
  rw [unsignedNumber, runOne_eq_none h, Option.map_none]

theorem spoiledNumber_eq_none (h : number text = none) : spoiledNumber text = none := by
  rw [spoiledNumber, h]
  rfl

end Token

/-! ### Numerals -/

theorem ne_of_isDigit {c other : Char} (hc : c.isDigit) (hother : other.isDigit = false) :
    c ≠ other := by
  rintro rfl
  rw [hother] at hc
  exact absurd hc (by decide)

theorem toLower_of_isDigit {c : Char} (h : c.isDigit) : c.toLower = c := by
  simp only [Char.isDigit, Bool.and_eq_true, decide_eq_true_eq] at h
  rw [Char.toLower, dif_neg]
  rintro ⟨hupper, -⟩
  exact absurd (UInt32.le_trans hupper h.2) (by decide)

/-- A row of digits, at least one. -/
structure Digits where
  text : List Char
  ne_nil : text ≠ []
  isDigit : ∀ c ∈ text, c.isDigit

/-- A number as it is written: a sign or none, digits, and a point with more digits or none. -/
structure Numeral where
  negative : Bool
  whole : Digits
  fraction : Option Digits

namespace Numeral

variable (numeral : Numeral)

/-- The digits after the point. -/
def decimals : List Char :=
  numeral.fraction.elim [] Digits.text

/-- The point and the digits after it. -/
def tail : List Char :=
  numeral.fraction.elim [] fun digits => '.' :: digits.text

/-- The text without the sign. -/
def magnitude : List Char :=
  numeral.whole.text ++ numeral.tail

def text : List Char :=
  if numeral.negative then '-' :: numeral.magnitude else numeral.magnitude

/-- The double nearest to the digits, with the point where it stands. -/
def number : Number :=
  ⟨Binary.signed numeral.negative
    (Decimal.nearest (Decimal.valueOf (numeral.whole.text ++ numeral.decimals))
      (0 - numeral.decimals.length))⟩

theorem magnitude_head : ∃ c text, numeral.magnitude = c :: text ∧ c.isDigit := by
  rw [magnitude]
  cases hwhole : numeral.whole.text with
  | nil => exact absurd hwhole numeral.whole.ne_nil
  | cons c text =>
      have hdigit := numeral.whole.isDigit c (by simp [hwhole])
      exact ⟨c, text ++ numeral.tail, rfl, hdigit⟩

theorem tail_not_digit {rest : List Char} (hrest : Token.Apart rest) :
    ∀ c ∈ (numeral.tail ++ rest).head?, c.isDigit = false := by
  rw [tail]
  cases numeral.fraction with
  | none => exact hrest.not_head rfl rfl
  | some digits =>
      rintro c ⟨⟩
      rfl

theorem fraction_tail {rest : List Char} (hrest : Token.Apart rest) :
    Token.fraction (numeral.tail ++ rest) = numeral.tail.length := by
  rw [tail]
  cases numeral.fraction with
  | none =>
      cases rest with
      | nil => rfl
      | cons c rest => rcases hrest c rfl with rfl | rfl <;> rfl
  | some digits =>
      have hrun := Token.run_append digits.isDigit (hrest.not_head (p := Char.isDigit) rfl rfl)
      have hpos := List.length_pos_iff.2 digits.ne_nil
      simp only [Option.elim_some, List.cons_append, Token.fraction, hrun, List.length_cons]
      rw [if_neg (by omega)]

theorem unsignedNumber_magnitude {rest : List Char} (hrest : Token.Apart rest) :
    Token.unsignedNumber (numeral.magnitude ++ rest) = some numeral.magnitude.length := by
  rw [magnitude, List.append_assoc, Token.unsignedNumber,
    Token.runOne_append numeral.whole.ne_nil numeral.whole.isDigit (numeral.tail_not_digit hrest),
    Option.map_some, List.drop_left, numeral.fraction_tail hrest, List.length_append]

theorem number_text {rest : List Char} (hrest : Token.Apart rest) :
    Token.number (numeral.text ++ rest) = some numeral.text.length := by
  have hmagnitude := numeral.unsignedNumber_magnitude hrest
  rw [text]
  by_cases hnegative : numeral.negative
  · rw [if_pos hnegative, List.cons_append, Token.number, hmagnitude]
    rfl
  · rw [if_neg hnegative]
    obtain ⟨c, more, hhead, hdigit⟩ := numeral.magnitude_head
    rw [hhead] at hmagnitude ⊢
    rw [List.cons_append] at hmagnitude ⊢
    rw [Token.number_of_ne (ne_of_isDigit hdigit rfl), hmagnitude]

/-- The first character is a digit or the sign. -/
theorem text_head : ∃ c text, numeral.text = c :: text ∧ (c = '-' ∨ c.isDigit) := by
  rw [text]
  by_cases hnegative : numeral.negative
  · rw [if_pos hnegative]
    exact ⟨_, _, rfl, Or.inl rfl⟩
  · rw [if_neg hnegative]
    obtain ⟨c, more, hhead, hdigit⟩ := numeral.magnitude_head
    exact ⟨c, more, hhead, Or.inr hdigit⟩

theorem standsAlone : Token.StandsAlone .number numeral.text := by
  obtain ⟨c, more, hhead, hc⟩ := numeral.text_head
  have hne (other : Char) (hminus : other ≠ '-') (hdigit : other.isDigit = false) : c ≠ other := by
    rintro rfl
    rcases hc with hc | hc
    · exact hminus hc
    · rw [hdigit] at hc
      exact absurd hc (by decide)
  constructor
  · refine ⟨c, by rw [hhead]; rfl, ?_⟩
    simp [Token.isBlank, hne]
  · intro rest hrest
    have hnumber := numeral.number_text hrest
    have hspoiled : Token.spoiledNumber (numeral.text ++ rest) = none := by
      rw [Token.spoiledNumber, hnumber, Option.bind_eq_bind, Option.bind_some, List.drop_left,
        Token.runOne_eq_none (hrest.not_head rfl rfl)]
      rfl
    rw [hhead, List.cons_append] at hnumber hspoiled ⊢
    simp only [Token.lexeme, Token.lineComment_of_ne (hne '~' (by decide) (by decide)),
      Token.enclosedComment_of_ne (hne '~' (by decide) (by decide)),
      Token.stringLiteral_of_ne (hne '"' (by decide) (by decide)), hspoiled, hnumber]

theorem readMagnitude?_magnitude :
    Decimal.readMagnitude? numeral.magnitude =
      some (Decimal.nearest (Decimal.valueOf (numeral.whole.text ++ numeral.decimals))
        (0 - numeral.decimals.length)) := by
  have hwhole : numeral.whole.text.isEmpty = false := by simpa using numeral.whole.ne_nil
  rw [Decimal.readMagnitude?, magnitude, tail, decimals,
    List.takeWhile_append_of_pos numeral.whole.isDigit,
    List.dropWhile_append_of_pos numeral.whole.isDigit]
  cases numeral.fraction with
  | none => simp [hwhole]
  | some digits =>
      have htake : digits.text.takeWhile Char.isDigit = digits.text :=
        List.takeWhile_eq_self_iff.2 digits.isDigit
      have hdrop : digits.text.dropWhile Char.isDigit = [] :=
        List.dropWhile_eq_nil_iff.2 digits.isDigit
      have hpoint : Char.isDigit '.' = false := rfl
      simp [hwhole, htake, hdrop, hpoint]

/-- Digits are not the name of anything. -/
theorem readUnsigned?_magnitude :
    Decimal.readUnsigned? numeral.magnitude = Decimal.readMagnitude? numeral.magnitude := by
  obtain ⟨c, more, hhead, hdigit⟩ := numeral.magnitude_head
  have hlower (other : Char) (hother : other.isDigit = false) : c.toLower ≠ other := by
    rw [toLower_of_isDigit hdigit]
    exact ne_of_isDigit hdigit hother
  rw [Decimal.readUnsigned?, hhead]
  simp [hlower]

/-- What is read from a numeral is its number. -/
theorem read?_text : Number.read? numeral.text = some numeral.number := by
  have hread := numeral.readUnsigned?_magnitude
  rw [readMagnitude?_magnitude] at hread
  rw [Number.read?, text, number]
  by_cases hnegative : numeral.negative
  · rw [if_pos hnegative, Decimal.read?, hread, hnegative]
    rfl
  · obtain ⟨c, more, hhead, hdigit⟩ := numeral.magnitude_head
    rw [if_neg hnegative, Decimal.read?, hread]
    · simp [hnegative]
    · rintro rest hminus
      rw [hhead, List.cons.injEq] at hminus
      exact ne_of_isDigit hdigit rfl hminus.1
    · rintro rest hplus
      rw [hhead, List.cons.injEq] at hplus
      exact ne_of_isDigit hdigit rfl hplus.1

end Numeral

/-! ### Quoted strings -/

/-- What a quoted text is made of: a character as it is, or one behind a backslash. -/
inductive Quoted.Piece
  | plain (c : Char) (hquote : c ≠ '"') (hbackslash : c ≠ '\\')
  | escaped (letter : Char)

namespace Quoted

/-- The written form of a piece. -/
def Piece.text : Piece → List Char
  | plain c _ _ => [c]
  | escaped letter => ['\\', letter]

/-- What a piece stands for. A backslash before a letter without a meaning stands for itself. -/
def Piece.meaning : Piece → List Char
  | plain c _ _ => [c]
  | escaped letter => (resolve? letter).elim ['\\', letter] fun c => [c]

variable (pieces : List Piece)

/-- The written form of a quoted text. -/
def written : List Char :=
  '"' :: pieces.flatMap Piece.text ++ ['"']

theorem closingQuote_pieces (taken : Nat) (rest : List Char) :
    Token.closingQuote taken (pieces.flatMap Piece.text ++ '"' :: rest) =
      some (taken + (pieces.flatMap Piece.text).length + 1) := by
  induction pieces generalizing taken with
  | nil => rfl
  | cons piece pieces ih =>
      cases piece with
      | plain c hquote hbackslash =>
          simp only [List.flatMap_cons, Piece.text, List.cons_append, List.nil_append,
            List.length_cons]
          rw [Token.closingQuote_of_ne hquote hbackslash, ih]
          congr 1
          omega
      | escaped letter =>
          simp only [List.flatMap_cons, Piece.text, List.cons_append, List.nil_append,
            List.length_cons]
          rw [Token.closingQuote, ih]
          congr 1
          omega

/-- A quoted text is a token of its own, whatever follows. -/
theorem lexeme_written (rest : List Char) :
    Token.lexeme (written pieces ++ rest) = (.string, (written pieces).length) := by
  rw [written, List.append_assoc, List.singleton_append, List.cons_append]
  have hstring : Token.stringLiteral ('"' :: (pieces.flatMap Piece.text ++ '"' :: rest)) =
      some ('"' :: pieces.flatMap Piece.text ++ ['"']).length := by
    rw [Token.stringLiteral, closingQuote_pieces, List.length_append, List.length_cons,
      Nat.add_comm 1]
    rfl
  simp only [Token.lexeme, Token.lineComment_of_ne (show '"' ≠ '~' by decide),
    Token.enclosedComment_of_ne (show '"' ≠ '~' by decide), hstring]

theorem standsAlone_written : Token.StandsAlone .string (written pieces) :=
  ⟨⟨'"', rfl, rfl⟩, fun rest _ => lexeme_written pieces rest⟩

theorem unescapeFrom_pieces (read : List Char) :
    unescapeFrom read (pieces.flatMap Piece.text) =
      read.reverse ++ pieces.flatMap Piece.meaning := by
  induction pieces generalizing read with
  | nil => simp [unescapeFrom]
  | cons piece pieces ih =>
      cases piece with
      | plain c hquote hbackslash =>
          simp only [List.flatMap_cons, Piece.text, Piece.meaning, List.cons_append,
            List.nil_append]
          rw [unescapeFrom, ih, List.reverse_cons, List.append_assoc, List.singleton_append]
          all_goals simp_all
      | escaped letter =>
          simp only [List.flatMap_cons, Piece.text, Piece.meaning, List.cons_append,
            List.nil_append]
          rw [unescapeFrom]
          cases resolve? letter <;> simp [ih]

/-- What is read from a quoted text is what its pieces stand for. -/
theorem unescape_written : unescape (written pieces) = pieces.flatMap Piece.meaning := by
  have hinner : inner (written pieces) = pieces.flatMap Piece.text := by
    simp [inner, written]
  rw [unescape, hinner, unescapeFrom_pieces, List.reverse_nil, List.nil_append]

end Quoted

/-! ### Words, truth words and symbols -/

namespace Token

/-- Capitals are neither digits nor small letters. -/
theorem classes_of_isUpper {c : Char} (h : c.isUpper) : c.isDigit = false ∧ c.isLower = false := by
  simp only [Char.isUpper, decide_eq_true_eq] at h
  constructor
  · rw [Bool.eq_false_iff]
    intro hdigit
    simp only [Char.isDigit, Bool.and_eq_true, decide_eq_true_eq] at hdigit
    exact absurd (UInt32.le_trans h.1 hdigit.2) (by decide)
  · rw [Bool.eq_false_iff]
    intro hlower
    simp only [Char.isLower, Bool.and_eq_true, decide_eq_true_eq] at hlower
    exact absurd (UInt32.le_trans hlower.1 h.2) (by decide)

theorem isDigit_of_isAlpha {c : Char} (h : c.isAlpha) : c.isDigit = false := by
  simp only [Char.isAlpha, Char.isUpper, Char.isLower, Bool.or_eq_true, Bool.and_eq_true,
    decide_eq_true_eq] at h
  rw [Bool.eq_false_iff]
  intro hdigit
  simp only [Char.isDigit, Bool.and_eq_true, decide_eq_true_eq] at hdigit
  rcases h with hupper | hlower
  · exact absurd (UInt32.le_trans hupper.1 hdigit.2) (by decide)
  · exact absurd (UInt32.le_trans hlower.1 hdigit.2) (by decide)

theorem ne_of_isAlpha {c other : Char} (hc : c.isAlpha) (hother : other.isAlpha = false) :
    c ≠ other := by
  rintro rfl
  rw [hother] at hc
  exact absurd hc (by decide)

theorem isBlank_of_isAlpha {c : Char} (h : c.isAlpha) : isBlank c = false := by
  simp [isBlank, ne_of_isAlpha h]

/-- A letter and the word characters behind it are read as a word. -/
theorem lexeme_word {first : Char} {text rest : List Char} (hfirst : first.isAlpha)
    (htext : ∀ c ∈ text, isWordChar c) (hrest : ∀ c ∈ rest.head?, isWordChar c = false) :
    lexeme (first :: text ++ rest) = (wordKind (first :: text), (first :: text).length) := by
  have hne (other : Char) (hother : other.isAlpha = false) : first ≠ other :=
    ne_of_isAlpha hfirst hother
  have hnumber : number (first :: (text ++ rest)) = none := by
    rw [number_of_ne (hne '-' rfl), unsignedNumber_eq_none]
    rintro c ⟨⟩
    exact isDigit_of_isAlpha hfirst
  have hword : word (first :: (text ++ rest)) = some (text.length + 1) := by
    rw [word, if_pos hfirst, run_append htext hrest]
  have htake : (first :: (text ++ rest)).take (text.length + 1) = first :: text := by simp
  simp only [List.cons_append, lexeme, lineComment_of_ne (hne '~' rfl),
    enclosedComment_of_ne (hne '~' rfl), stringLiteral_of_ne (hne '"' rfl),
    spoiledNumber_eq_none hnumber, hnumber, symbol_of_ne (hne '\\' rfl), hword, htake,
    List.length_cons]

/-- A capital with more characters of words behind it. -/
theorem standsAlone_word {first : Char} {text : List Char} (hfirst : first.isUpper)
    (htext : ∀ c ∈ text, isWordChar c) :
    StandsAlone (wordKind (first :: text)) (first :: text) := by
  have halpha : first.isAlpha := by rw [Char.isAlpha, hfirst, Bool.true_or]
  constructor
  · exact ⟨first, rfl, isBlank_of_isAlpha halpha⟩
  · intro rest hrest
    exact lexeme_word halpha htext (hrest.not_head rfl rfl)

/-- Operator characters are neither digits nor letters nor blanks. -/
theorem classes_of_isOperatorChar {c : Char} (h : isOperatorChar c) :
    c.isDigit = false ∧ c.isAlpha = false ∧ isBlank c = false := by
  simp only [isOperatorChar, Bool.or_eq_true, beq_iff_eq] at h
  rcases h with (((((((((rfl | rfl) | rfl) | rfl) | rfl) | rfl) | rfl) | rfl) | rfl) | rfl) <;>
    decide

/-- A row of operator characters. -/
theorem standsAlone_operator {first : Char} {text : List Char} (hfirst : isOperatorChar first)
    (htext : ∀ c ∈ text, isOperatorChar c) : StandsAlone .identifier (first :: text) := by
  obtain ⟨hdigit, halpha, hblank⟩ := classes_of_isOperatorChar hfirst
  have hne (other : Char) (hother : isOperatorChar other = false) : first ≠ other := by
    rintro rfl
    rw [hother] at hfirst
    exact absurd hfirst (by decide)
  constructor
  · exact ⟨first, rfl, hblank⟩
  · intro rest hrest
    -- a sign is followed by no digit, so it is no number
    have hdigits : ∀ c ∈ (text ++ rest).head?, c.isDigit = false := by
      cases text with
      | nil => exact hrest.not_head rfl rfl
      | cons second text =>
          rintro c ⟨⟩
          exact (classes_of_isOperatorChar (htext second List.mem_cons_self)).1
    have hnumber : number (first :: (text ++ rest)) = none := by
      by_cases hminus : first = '-'
      · rw [hminus, number, unsignedNumber_eq_none hdigits, Option.map_none]
      · rw [number_of_ne hminus, unsignedNumber_eq_none]
        rintro c ⟨⟩
        exact hdigit
    have hword : word (first :: (text ++ rest)) = none := by
      rw [word, halpha]
      rfl
    have hrun := runOne_append (List.cons_ne_nil first text)
      (List.forall_mem_cons.2 ⟨hfirst, htext⟩) (hrest.not_head (p := isOperatorChar) rfl rfl)
    rw [List.cons_append] at hrun ⊢
    simp only [lexeme, lineComment_of_ne (hne '~' rfl),
      enclosedComment_of_ne (hne '~' rfl), stringLiteral_of_ne (hne '"' rfl),
      spoiledNumber_eq_none hnumber, hnumber, symbol_of_ne (hne '\\' rfl), hword, hrun]

/-- A backslash with characters of words behind it. -/
theorem standsAlone_symbol {name : List Char} (hne : name ≠ [])
    (hname : ∀ c ∈ name, isWordChar c) : StandsAlone .symbol ('\\' :: name) := by
  refine ⟨⟨'\\', rfl, rfl⟩, fun rest hrest => ?_⟩
  have hnumber : number ('\\' :: (name ++ rest)) = none := by
    rw [number_of_ne (by decide), unsignedNumber_eq_none]
    rintro c ⟨⟩
    rfl
  have hsymbol : symbol ('\\' :: (name ++ rest)) = some (name.length + 1) := by
    rw [symbol, runOne_append hne hname (hrest.not_head rfl rfl), Option.map_some]
  simp only [List.cons_append, lexeme, lineComment_of_ne (show '\\' ≠ '~' by decide),
    enclosedComment_of_ne (show '\\' ≠ '~' by decide),
    stringLiteral_of_ne (show '\\' ≠ '"' by decide), spoiledNumber_eq_none hnumber, hnumber,
    hsymbol, List.length_cons]

end Token

/-- A truth word: its letters in any case, but the first one a capital. -/
structure TruthWord where
  value : Bool
  first : Char
  rest : List Char
  isUpper : first.isUpper
  spells : (first :: rest).map Char.toLower = (toString value).toList

namespace TruthWord

variable (word : TruthWord)

theorem isAlpha_of_isAlpha_toLower {c : Char} (h : c.toLower.isAlpha) : c.isAlpha := by
  unfold Char.toLower at h
  split at h
  · rename_i hupper
    simp only [Char.isAlpha, Char.isUpper, Bool.or_eq_true, decide_eq_true_eq]
    exact Or.inl hupper
  · exact h

theorem isWordChar_rest : ∀ c ∈ word.rest, Token.isWordChar c := by
  intro c hc
  have hlower : c.toLower ∈ (toString word.value).toList := by
    rw [← word.spells]
    exact List.mem_map_of_mem (List.mem_cons_of_mem _ hc)
  have hletters : (toString word.value).toList.all Char.isAlpha = true := by
    cases word.value <;> decide
  have halpha := isAlpha_of_isAlpha_toLower (List.all_eq_true.1 hletters _ hlower)
  simp [Token.isWordChar, Char.isAlphanum, halpha]

theorem isWordIgnoringCase_true :
    Token.isWordIgnoringCase "true" (word.first :: word.rest) = word.value := by
  rw [Token.isWordIgnoringCase, word.spells]
  cases word.value <;> decide

theorem standsAlone : Token.StandsAlone .boolean (word.first :: word.rest) := by
  have hkind : Token.wordKind (word.first :: word.rest) = .boolean := by
    have hlower := (Token.classes_of_isUpper word.isUpper).2
    have htruth : (Token.isWordIgnoringCase "true" (word.first :: word.rest) ||
        Token.isWordIgnoringCase "false" (word.first :: word.rest)) = true := by
      rw [Token.isWordIgnoringCase, Token.isWordIgnoringCase, word.spells]
      cases word.value <;> decide
    simp [Token.wordKind, hlower, htruth]
  rw [← hkind]
  exact Token.standsAlone_word word.isUpper word.isWordChar_rest

end TruthWord

/-- A literal as it is written. -/
inductive Literal.Spelled
  | number (numeral : Numeral)
  | string (pieces : List Quoted.Piece)
  | boolean (word : TruthWord)
  | symbol (name : List Char) (hne : name ≠ []) (hname : ∀ c ∈ name, Token.isWordChar c)

namespace Literal.Spelled

def kind : Spelled → TokenKind
  | number _ => .number
  | string _ => .string
  | boolean _ => .boolean
  | symbol _ _ _ => .symbol

def text : Spelled → List Char
  | number numeral => numeral.text
  | string pieces => Quoted.written pieces
  | boolean word => word.first :: word.rest
  | symbol name _ _ => '\\' :: name

/-- The literal that is written. -/
def literal : Spelled → Literal
  | number numeral => .number numeral.number
  | string pieces => .string (Units.ofChars (pieces.flatMap Quoted.Piece.meaning))
  | boolean word => .boolean word.value
  | symbol name _ _ => .symbol (String.ofList (Letter.lowerText name))

theorem standsAlone : ∀ spelled : Spelled, Token.StandsAlone spelled.kind spelled.text
  | number numeral => numeral.standsAlone
  | string pieces => Quoted.standsAlone_written pieces
  | boolean word => word.standsAlone
  | symbol _ hne hname => Token.standsAlone_symbol hne hname

/-- The literal that is read is the one that is written. -/
theorem literalOf?_text : ∀ spelled : Spelled,
    Assembly.literalOf? (.ofToken spelled.kind) spelled.text = some spelled.literal
  | number numeral => by
      rw [kind, text, literal]
      simp only [NodeKind.ofToken, Assembly.literalOf?, numeral.read?_text, Option.map_some]
  | string pieces => by
      rw [kind, text, literal]
      simp only [NodeKind.ofToken, Assembly.literalOf?, Quoted.unescape_written]
  | boolean word => by
      rw [kind, text, literal]
      simp only [NodeKind.ofToken, Assembly.literalOf?, word.isWordIgnoringCase_true]
  | symbol _ _ _ => rfl

/-- The lexeme of a literal. -/
def lexeme (spelled : Spelled) : Lexeme where
  kind := spelled.kind
  text := spelled.text
  isItem := by cases spelled <;> rfl
  alone := spelled.standsAlone

end Literal.Spelled

end StackProse
