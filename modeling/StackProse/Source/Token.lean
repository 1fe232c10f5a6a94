import StackProse.Source.Span

/-!
# Tokens

`Token.scan` cuts a source text into tokens. Each lexical rule answers how many characters it
takes at the head of a text, so a token's text is always a prefix of what was left and nothing
but blanks is ever dropped between tokens. Where no rule applies the text is not refused: a
token of kind `unknown` takes it up.

Words that begin with a lowercase letter are prose and count as comments.
-/

namespace StackProse

/-- What a token stands for. -/
inductive TokenKind
  | identifier
  | number
  | string
  | boolean
  | symbol
  | comment
  | semicolon
  | opening
  | closing
  | unknown
  deriving Repr, DecidableEq, Inhabited

/-- A piece of source text with its meaning and the byte offset where it begins. -/
structure Token where
  kind : TokenKind
  text : List Char
  start : Nat
  deriving Repr, DecidableEq, Inhabited

namespace Token

/-- The bytes that a token covers. -/
def span (token : Token) : Span :=
  ⟨token.start, token.start + utf8Length token.text⟩

/-- The characters that separate tokens. -/
def isBlank (c : Char) : Bool :=
  c == ' ' || c == '\t' || c == '\r' || c == '\n'

/-- The characters that continue a word or a symbol. -/
def isWordChar (c : Char) : Bool :=
  c.isAlphanum || c == '-' || c == '?' || c == '!' || c == '\'' || c == '_'

/-- The characters that operators are made of. -/
def isOperatorChar (c : Char) : Bool :=
  c == '+' || c == '-' || c == '*' || c == '/' || c == '<' || c == '>' || c == '=' ||
    c == '!' || c == '.' || c == '^'

/-- The characters that spoil a number when they follow it directly. -/
def spoilsNumber (c : Char) : Bool :=
  c.isAlphanum || c == '_'

/-- The length of the longest head of a text whose characters all satisfy `p`. -/
def run (p : Char → Bool) (text : List Char) : Nat :=
  (text.takeWhile p).length

/-- Like `run`, but at least one character has to satisfy `p`. -/
def runOne (p : Char → Bool) (text : List Char) : Option Nat :=
  if run p text = 0 then none else some (run p text)

/-! ### Lexical rules

Each rule answers the number of characters that it takes at the head of the text. -/

/-- Two tildes and the rest of the line, without its line break. -/
def lineComment : List Char → Option Nat
  | '~' :: '~' :: rest => some (2 + run (· != '\n') rest)
  | _ => none

/-- Everything between two tildes, over any number of lines. -/
def enclosedComment : List Char → Option Nat
  | '~' :: rest =>
      let size := run (· != '~') rest
      if size < rest.length then some (size + 2) else none
  | _ => none

/-- The number of characters up to and with the closing quote, added to `taken`. A backslash
takes the character after it along. -/
def closingQuote (taken : Nat) : List Char → Option Nat
  | [] => none
  | '"' :: _ => some (taken + 1)
  | '\\' :: [] => none
  | '\\' :: _ :: rest => closingQuote (taken + 2) rest
  | _ :: rest => closingQuote (taken + 1) rest

/-- A quoted string. -/
def stringLiteral : List Char → Option Nat
  | '"' :: rest => closingQuote 1 rest
  | _ => none

/-- The fraction of a number: a point and at least one digit, or nothing. -/
def fraction : List Char → Nat
  | '.' :: rest => if run Char.isDigit rest = 0 then 0 else run Char.isDigit rest + 1
  | _ => 0

/-- Digits with an optional fraction. -/
def unsignedNumber (text : List Char) : Option Nat :=
  (runOne Char.isDigit text).map fun size => size + fraction (text.drop size)

/-- Digits with an optional sign before and an optional fraction after them. -/
def number : List Char → Option Nat
  | '-' :: rest => (unsignedNumber rest).map (· + 1)
  | text => unsignedNumber text

/-- A number that runs straight into letters. -/
def spoiledNumber (text : List Char) : Option Nat := do
  let size ← number text
  let more ← runOne spoilsNumber (text.drop size)
  return size + more

/-- A backslash and at least one word character. -/
def symbol : List Char → Option Nat
  | '\\' :: rest => (runOne isWordChar rest).map (· + 1)
  | _ => none

/-- A letter and any number of word characters. -/
def word : List Char → Option Nat
  | c :: rest => if c.isAlpha then some (run isWordChar rest + 1) else none
  | [] => none

/-- The single character `c`. -/
def single (c : Char) : List Char → Option Nat
  | first :: _ => if first = c then some 1 else none
  | [] => none

/-- Whether a word, read without regard to case, is the lowercase word `lower`. -/
def isWordIgnoringCase (lower : String) (text : List Char) : Bool :=
  text.map Char.toLower == lower.toList

/-- A word is prose, a boolean or an identifier. -/
def wordKind (text : List Char) : TokenKind :=
  if text.head?.any Char.isLower then .comment
  else if isWordIgnoringCase "true" text || isWordIgnoringCase "false" text then .boolean
  else .identifier

/-- What is taken where no rule applies: an unfinished string or comment takes the whole rest,
anything else one character. -/
def unknownLength : List Char → Nat
  | '"' :: rest => rest.length + 1
  | '~' :: rest => rest.length + 1
  | _ => 1

/-- The kind of the first token of a text that does not begin with a blank, and the number of
characters it takes. The first rule that applies wins. -/
def lexeme (text : List Char) : TokenKind × Nat :=
  if let some size := lineComment text then (.comment, size)
  else if let some size := enclosedComment text then (.comment, size)
  else if let some size := stringLiteral text then (.string, size)
  else if let some size := spoiledNumber text then (.unknown, size)
  else if let some size := number text then (.number, size)
  else if let some size := symbol text then (.symbol, size)
  else if let some size := word text then (wordKind (text.take size), size)
  else if let some size := runOne isOperatorChar text then (.identifier, size)
  else if let some size := single ';' text then (.semicolon, size)
  else if let some size := single '(' text then (.opening, size)
  else if let some size := single ')' text then (.closing, size)
  else (.unknown, unknownLength text)

/-! ### Every rule takes something -/

theorem runOne_pos {p : Char → Bool} {text : List Char} {size : Nat}
    (h : runOne p text = some size) : 0 < size := by
  unfold runOne at h
  split at h
  · contradiction
  · cases h
    omega

theorem lineComment_pos {text : List Char} {size : Nat} (h : lineComment text = some size) :
    0 < size := by
  unfold lineComment at h
  split at h
  · cases h
    omega
  · contradiction

theorem enclosedComment_pos {text : List Char} {size : Nat}
    (h : enclosedComment text = some size) : 0 < size := by
  unfold enclosedComment at h
  split at h
  · dsimp only at h
    split at h
    · cases h
      omega
    · contradiction
  · contradiction

theorem le_closingQuote {taken size : Nat} {text : List Char}
    (h : closingQuote taken text = some size) : taken < size := by
  fun_induction closingQuote taken text <;> grind

theorem stringLiteral_pos {text : List Char} {size : Nat}
    (h : stringLiteral text = some size) : 0 < size := by
  unfold stringLiteral at h
  split at h
  · have := le_closingQuote h
    omega
  · contradiction

theorem unsignedNumber_pos {text : List Char} {size : Nat}
    (h : unsignedNumber text = some size) : 0 < size := by
  obtain ⟨digits, hdigits, rfl⟩ := Option.map_eq_some_iff.1 h
  have := runOne_pos hdigits
  omega

theorem number_pos {text : List Char} {size : Nat} (h : number text = some size) :
    0 < size := by
  unfold number at h
  split at h
  · obtain ⟨rest, -, rfl⟩ := Option.map_eq_some_iff.1 h
    omega
  · exact unsignedNumber_pos h

theorem spoiledNumber_pos {text : List Char} {size : Nat}
    (h : spoiledNumber text = some size) : 0 < size := by
  simp only [spoiledNumber, Option.bind_eq_bind, Option.pure_def, Option.bind_eq_some_iff,
    Option.some.injEq] at h
  obtain ⟨digits, hdigits, more, -, rfl⟩ := h
  have := number_pos hdigits
  omega

theorem symbol_pos {text : List Char} {size : Nat} (h : symbol text = some size) :
    0 < size := by
  unfold symbol at h
  split at h
  · obtain ⟨rest, -, rfl⟩ := Option.map_eq_some_iff.1 h
    omega
  · contradiction

theorem word_pos {text : List Char} {size : Nat} (h : word text = some size) : 0 < size := by
  unfold word at h
  split at h
  · split at h
    · cases h
      omega
    · contradiction
  · contradiction

theorem single_pos {c : Char} {text : List Char} {size : Nat}
    (h : single c text = some size) : 0 < size := by
  unfold single at h
  split at h
  · split at h
    · cases h
      omega
    · contradiction
  · contradiction

theorem unknownLength_pos (text : List Char) : 0 < unknownLength text := by
  unfold unknownLength
  split <;> omega

/-- Every token takes at least one character, so scanning comes to an end. -/
theorem lexeme_pos (text : List Char) : 0 < (lexeme text).2 := by
  unfold lexeme
  repeat' split
  all_goals first
    | exact lineComment_pos (by assumption)
    | exact enclosedComment_pos (by assumption)
    | exact stringLiteral_pos (by assumption)
    | exact spoiledNumber_pos (by assumption)
    | exact number_pos (by assumption)
    | exact symbol_pos (by assumption)
    | exact word_pos (by assumption)
    | exact runOne_pos (by assumption)
    | exact single_pos (by assumption)
    | exact unknownLength_pos _

/-! ### Scanning -/

/-- Scans a text that begins at byte `offset`, in front of the reversed list `found` of the
tokens before it. -/
def scanFrom (offset : Nat) (text : List Char) (found : List Token) : List Token :=
  match text with
  | [] => found.reverse
  | c :: rest =>
      if isBlank c then scanFrom (offset + c.utf8Size) rest found
      else
        let first := lexeme (c :: rest)
        let taken := (c :: rest).take first.2
        scanFrom (offset + utf8Length taken) ((c :: rest).drop first.2)
          (⟨first.1, taken, offset⟩ :: found)
termination_by text.length
decreasing_by
  · simp
  · have hpos := lexeme_pos (c :: rest)
    simp only [List.length_drop, List.length_cons]
    omega

/-- The tokens of a source text, in order. -/
def scan (source : List Char) : List Token :=
  scanFrom 0 source []

end Token

end StackProse
