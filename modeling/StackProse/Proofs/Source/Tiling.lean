import Mathlib.Data.List.Induction
import StackProse.Source.Token

/-!
# Tokens tile their source

Nothing but blanks is lost when a text is cut into tokens. `Token.Cuts` says how a text falls apart:
a blank, or a token that the lexical rules take at the head of what is left, and then the rest. From
it follow the facts about bytes in `Token.Tiles`: tokens cover separate ranges in ascending order,
what a token covers is its text, and what no token covers is blank.

A rule must not take more than there is, or a token would be shorter than its lexeme says
(`Token.lexeme_le`).
-/

namespace StackProse

/-! ### Bytes -/

/-- The UTF-8 form of a text. -/
def utf8Bytes (text : List Char) : List UInt8 :=
  text.flatMap String.utf8EncodeChar

theorem utf8Bytes_append (first second : List Char) :
    utf8Bytes (first ++ second) = utf8Bytes first ++ utf8Bytes second :=
  List.flatMap_append

theorem length_utf8Bytes (text : List Char) : (utf8Bytes text).length = utf8Length text := by
  -- A length is summed up from the left, so the last character is the one to take off.
  induction text using List.reverseRecOn with
  | nil => rfl
  | append_singleton text c ih =>
      have hlast : utf8Length (text ++ [c]) = utf8Length text + c.utf8Size := by
        simp only [utf8Length, List.foldl_append, List.foldl_cons, List.foldl_nil]
      rw [utf8Bytes_append, List.length_append, ih, hlast]
      simp [utf8Bytes]

theorem utf8Length_append (first second : List Char) :
    utf8Length (first ++ second) = utf8Length first + utf8Length second := by
  simp only [← length_utf8Bytes, utf8Bytes_append, List.length_append]

theorem utf8Length_cons (c : Char) (text : List Char) :
    utf8Length (c :: text) = c.utf8Size + utf8Length text := by
  have hone : utf8Length [c] = c.utf8Size := Nat.zero_add _
  rw [← List.singleton_append, utf8Length_append, hone]

theorem utf8Length_pos {text : List Char} (h : text ≠ []) : 0 < utf8Length text := by
  cases text with
  | nil => contradiction
  | cons c rest =>
      have hc := c.utf8Size_pos
      rw [utf8Length_cons]
      omega

theorem utf8Length_take_lt {text : List Char} {place : Nat} (h : place < text.length) :
    utf8Length (text.take place) < utf8Length text := by
  have hrest : 0 < utf8Length (text.drop place) := by
    apply utf8Length_pos
    rw [Ne, List.drop_eq_nil_iff]
    exact Nat.not_le_of_gt h
  have hsplit := utf8Length_append (text.take place) (text.drop place)
  rw [List.take_append_drop] at hsplit
  omega

namespace Token

/-! ### No rule takes more than there is -/

theorem run_le (p : Char → Bool) (text : List Char) : run p text ≤ text.length :=
  (List.takeWhile_prefix p).length_le

theorem runOne_le {p : Char → Bool} {text : List Char} {size : Nat}
    (h : runOne p text = some size) : size ≤ text.length := by
  unfold runOne at h
  split at h
  · contradiction
  · cases h
    exact run_le p text

theorem lineComment_le {text : List Char} {size : Nat} (h : lineComment text = some size) :
    size ≤ text.length := by
  unfold lineComment at h
  split at h
  · rename_i rest
    cases h
    have hrun := run_le (· != '\n') rest
    simp only [List.length_cons]
    omega
  · contradiction

theorem enclosedComment_le {text : List Char} {size : Nat}
    (h : enclosedComment text = some size) : size ≤ text.length := by
  unfold enclosedComment at h
  split at h
  · dsimp only at h
    split at h
    · cases h
      simp only [List.length_cons]
      omega
    · contradiction
  · contradiction

theorem closingQuote_le {taken size : Nat} {text : List Char}
    (h : closingQuote taken text = some size) : size ≤ taken + text.length := by
  fun_induction closingQuote taken text <;> grind

theorem stringLiteral_le {text : List Char} {size : Nat}
    (h : stringLiteral text = some size) : size ≤ text.length := by
  unfold stringLiteral at h
  split at h
  · have hquote := closingQuote_le h
    rw [List.length_cons]
    omega
  · contradiction

theorem fraction_le (text : List Char) : fraction text ≤ text.length := by
  unfold fraction
  split
  · rename_i rest
    have hrun := run_le Char.isDigit rest
    rw [List.length_cons]
    split <;> omega
  · exact Nat.zero_le _

theorem unsignedNumber_le {text : List Char} {size : Nat}
    (h : unsignedNumber text = some size) : size ≤ text.length := by
  obtain ⟨digits, hdigits, rfl⟩ := Option.map_eq_some_iff.1 h
  have hrun := runOne_le hdigits
  have hfraction := fraction_le (text.drop digits)
  rw [List.length_drop] at hfraction
  omega

theorem number_le {text : List Char} {size : Nat} (h : number text = some size) :
    size ≤ text.length := by
  unfold number at h
  split at h
  · obtain ⟨digits, hdigits, rfl⟩ := Option.map_eq_some_iff.1 h
    exact Nat.succ_le_succ (unsignedNumber_le hdigits)
  · exact unsignedNumber_le h

theorem spoiledNumber_le {text : List Char} {size : Nat}
    (h : spoiledNumber text = some size) : size ≤ text.length := by
  simp only [spoiledNumber, Option.bind_eq_bind, Option.pure_def, Option.bind_eq_some_iff,
    Option.some.injEq] at h
  obtain ⟨digits, hdigits, more, hmore, rfl⟩ := h
  have hnumber := number_le hdigits
  have hrun := runOne_le hmore
  rw [List.length_drop] at hrun
  omega

theorem symbol_le {text : List Char} {size : Nat} (h : symbol text = some size) :
    size ≤ text.length := by
  unfold symbol at h
  split at h
  · obtain ⟨letters, hletters, rfl⟩ := Option.map_eq_some_iff.1 h
    exact Nat.succ_le_succ (runOne_le hletters)
  · contradiction

theorem word_le {text : List Char} {size : Nat} (h : word text = some size) :
    size ≤ text.length := by
  unfold word at h
  split at h
  · split at h
    · cases h
      exact Nat.succ_le_succ (run_le _ _)
    · contradiction
  · contradiction

theorem single_le {c : Char} {text : List Char} {size : Nat}
    (h : single c text = some size) : size ≤ text.length := by
  unfold single at h
  split at h
  · split at h
    · cases h
      exact Nat.succ_le_succ (Nat.zero_le _)
    · contradiction
  · contradiction

theorem unknownLength_le (c : Char) (rest : List Char) :
    unknownLength (c :: rest) ≤ (c :: rest).length := by
  unfold unknownLength
  split
  · rename_i heq
    exact Nat.le_of_eq (congrArg List.length heq).symm
  · rename_i heq
    exact Nat.le_of_eq (congrArg List.length heq).symm
  · exact Nat.succ_le_succ (Nat.zero_le _)

theorem lexeme_le (c : Char) (rest : List Char) :
    (lexeme (c :: rest)).2 ≤ (c :: rest).length := by
  unfold lexeme
  repeat' split
  all_goals first
    | exact lineComment_le (by assumption)
    | exact enclosedComment_le (by assumption)
    | exact stringLiteral_le (by assumption)
    | exact spoiledNumber_le (by assumption)
    | exact number_le (by assumption)
    | exact symbol_le (by assumption)
    | exact word_le (by assumption)
    | exact runOne_le (by assumption)
    | exact single_le (by assumption)
    | exact unknownLength_le _ _

/-- A token that the rules take has a text. -/
theorem length_pos_of_lexeme {text rest : List Char} {kind : TokenKind}
    (h : lexeme (text ++ rest) = (kind, text.length)) : 0 < text.length := by
  have hpos := lexeme_pos (text ++ rest)
  rwa [h] at hpos

/-! ### Reading a text -/

/-- A text that begins at byte `offset` is read as the tokens: blanks are passed over, and where there
is no blank the lexical rules take the next token. -/
inductive Scans : Nat → List Char → List Token → Prop
  | done {offset : Nat} : Scans offset [] []
  | blank {offset : Nat} {c : Char} {rest : List Char} {tokens : List Token} : isBlank c →
      Scans (offset + c.utf8Size) rest tokens → Scans offset (c :: rest) tokens
  | token {token : Token} {rest : List Char} {tokens : List Token} :
      (∀ c ∈ token.text.head?, isBlank c = false) →
      lexeme (token.text ++ rest) = (token.kind, token.text.length) →
      Scans token.span.stop rest tokens →
      Scans token.span.start (token.text ++ rest) (token :: tokens)

theorem scans_scanFrom (offset : Nat) (text : List Char) (found : List Token) :
    ∃ tokens, scanFrom offset text found = found.reverse ++ tokens ∧ Scans offset text tokens := by
  fun_induction scanFrom offset text found with
  | case1 offset found => exact ⟨[], (List.append_nil _).symm, .done⟩
  | case2 offset found c rest hblank ih =>
      obtain ⟨tokens, hscan, hscans⟩ := ih
      exact ⟨tokens, hscan, .blank hblank hscans⟩
  | case3 offset found c rest hblank first taken ih =>
      obtain ⟨tokens, hscan, hscans⟩ := ih
      let token : Token := ⟨first.1, taken, offset⟩
      have hparts : token.text ++ (c :: rest).drop first.2 = c :: rest :=
        List.take_append_drop _ _
      have htaken : token.text.length = first.2 :=
        List.length_take_of_le (lexeme_le c rest)
      have hhead : ∀ d ∈ token.text.head?, isBlank d = false := by
        intro d hd
        have htext : token.text.head? = (c :: rest).head? := by
          rw [List.head?_take, if_neg (Nat.ne_of_gt (lexeme_pos _))]
        obtain rfl : c = d := by simpa [htext] using hd
        exact (Bool.not_eq_true _).mp hblank
      have hlexeme : lexeme (token.text ++ (c :: rest).drop first.2) =
          (token.kind, token.text.length) := by
        rw [hparts, htaken]
      refine ⟨token :: tokens, ?_, ?_⟩
      · rw [hscan, List.reverse_cons, List.append_assoc, List.singleton_append]
      · rw [← hparts]
        exact .token hhead hlexeme hscans

theorem scans_scan (source : List Char) : Scans 0 source (scan source) := by
  obtain ⟨tokens, hscan, hscans⟩ := scans_scanFrom 0 source []
  rw [scan, hscan]
  exact hscans

/-- A text can be read in one way only. -/
theorem Scans.scanFrom_eq {offset : Nat} {text : List Char} {tokens : List Token}
    (h : Scans offset text tokens) (found : List Token) :
    scanFrom offset text found = found.reverse ++ tokens := by
  induction h generalizing found with
  | done => rw [scanFrom, List.append_nil]
  | blank hblank _ ih => rw [scanFrom, if_pos hblank, ih]
  | @token token rest tokens hhead hlexeme _ ih =>
      obtain ⟨c, text, htext⟩ := List.exists_cons_of_length_pos (length_pos_of_lexeme hlexeme)
      have hblank : ¬ isBlank c := by
        rw [hhead c (by rw [htext]; rfl)]
        exact Bool.false_ne_true
      have hfirst : lexeme (c :: (text ++ rest)) = (token.kind, token.text.length) := by
        rw [← List.cons_append, ← htext, hlexeme]
      rw [htext, List.cons_append, scanFrom, if_neg hblank, hfirst, ← List.cons_append, ← htext]
      simp only [List.take_left, List.drop_left]
      refine (ih (token :: found)).trans ?_
      rw [List.reverse_cons, List.append_assoc, List.singleton_append]

theorem Scans.scan_eq {source : List Char} {tokens : List Token} (h : Scans 0 source tokens) :
    scan source = tokens :=
  h.scanFrom_eq []

/-! ### Cutting a text -/

/-- A text that begins at byte `offset` falls apart into the tokens and blanks between them. Each
token is what the lexical rules take at the head of what is left. -/
inductive Cuts : Nat → List Char → List Token → Prop
  | done {offset : Nat} : Cuts offset [] []
  | blank {offset : Nat} {c : Char} {rest : List Char} {tokens : List Token} : isBlank c →
      Cuts (offset + c.utf8Size) rest tokens → Cuts offset (c :: rest) tokens
  | token {token : Token} {rest : List Char} {tokens : List Token} :
      lexeme (token.text ++ rest) = (token.kind, token.text.length) →
      Cuts token.span.stop rest tokens → Cuts token.span.start (token.text ++ rest) (token :: tokens)

theorem Scans.cuts {offset : Nat} {text : List Char} {tokens : List Token}
    (h : Scans offset text tokens) : Cuts offset text tokens := by
  induction h with
  | done => exact .done
  | blank hblank _ ih => exact .blank hblank ih
  | token _ hlexeme _ ih => exact .token hlexeme ih

theorem cuts_scan (source : List Char) : Cuts 0 source (scan source) :=
  (scans_scan source).cuts

namespace Cuts

variable {offset : Nat} {text : List Char} {tokens : List Token}

theorem start_lt_stop (h : Cuts offset text tokens) :
    ∀ token ∈ tokens, token.span.start < token.span.stop := by
  induction h with
  | done => exact nofun
  | blank hblank hrest ih => exact ih
  | @token token rest tokens hlexeme hrest ih =>
      have hbytes := utf8Length_pos (List.ne_nil_of_length_pos (length_pos_of_lexeme hlexeme))
      rw [List.forall_mem_cons]
      exact ⟨Nat.lt_add_of_pos_right hbytes, ih⟩

theorem le_start (h : Cuts offset text tokens) : ∀ token ∈ tokens, offset ≤ token.span.start := by
  induction h with
  | done => exact nofun
  | blank hblank hrest ih =>
      intro token htoken
      exact Nat.le_trans (Nat.le_add_right _ _) (ih token htoken)
  | token hlexeme hrest ih =>
      rw [List.forall_mem_cons]
      refine ⟨Nat.le_refl _, ?_⟩
      intro later hlater
      exact Nat.le_trans (Nat.le_add_right _ _) (ih later hlater)

theorem ordered (h : Cuts offset text tokens) :
    tokens.Pairwise fun first second => first.span.stop ≤ second.span.start := by
  induction h with
  | done => exact .nil
  | blank hblank hrest ih => exact ih
  | token hlexeme hrest ih => exact .cons hrest.le_start ih

theorem exists_around (h : Cuts offset text tokens) :
    ∀ token ∈ tokens, ∃ before after, text = before ++ (token.text ++ after) ∧
      token.span.start = offset + utf8Length before ∧
      lexeme (token.text ++ after) = (token.kind, token.text.length) := by
  induction h with
  | done => exact nofun
  | @blank offset c rest tokens hblank hrest ih =>
      intro token htoken
      obtain ⟨before, after, hparts, hstart, hlexeme⟩ := ih token htoken
      refine ⟨c :: before, after, ?_, ?_, hlexeme⟩
      · rw [hparts, List.cons_append]
      · rw [hstart, utf8Length_cons, Nat.add_assoc]
  | @token first rest tokens hlexeme hrest ih =>
      rw [List.forall_mem_cons]
      refine ⟨⟨[], rest, rfl, rfl, hlexeme⟩, ?_⟩
      intro token htoken
      obtain ⟨before, after, hparts, hstart, hlexeme⟩ := ih token htoken
      refine ⟨first.text ++ before, after, ?_, ?_, hlexeme⟩
      · rw [hparts, List.append_assoc]
      · rw [hstart, utf8Length_append, span, Nat.add_assoc]

end Cuts

/-! ### Tiling a text -/

/-- The bytes of space, tab, carriage return and line feed. -/
def blankBytes : List UInt8 :=
  [0x20, 0x09, 0x0d, 0x0a]

theorem utf8EncodeChar_of_isBlank {c : Char} (h : isBlank c) :
    ∃ byte ∈ blankBytes, String.utf8EncodeChar c = [byte] := by
  simp only [isBlank, Bool.or_eq_true, beq_iff_eq] at h
  rcases h with ((rfl | rfl) | rfl) | rfl
  · exact ⟨0x20, by decide, by decide⟩
  · exact ⟨0x09, by decide, by decide⟩
  · exact ⟨0x0d, by decide, by decide⟩
  · exact ⟨0x0a, by decide, by decide⟩

theorem Cuts.mem_blankBytes {offset : Nat} {text : List Char} {tokens : List Token}
    (h : Cuts offset text tokens) {place : Nat} {byte : UInt8}
    (hbyte : (utf8Bytes text)[place]? = some byte)
    (houtside : ∀ token ∈ tokens,
      offset + place < token.span.start ∨ token.span.stop ≤ offset + place) :
    byte ∈ blankBytes := by
  induction h generalizing place with
  | done => contradiction
  | @blank offset c rest tokens hblank hrest ih =>
      obtain ⟨first, hfirst, hencoded⟩ := utf8EncodeChar_of_isBlank hblank
      have hsize : c.utf8Size = 1 := by
        rw [← String.length_utf8EncodeChar, hencoded]
        rfl
      have hbytes : utf8Bytes (c :: rest) = first :: utf8Bytes rest := by
        rw [utf8Bytes, List.flatMap_cons, hencoded]
        rfl
      rw [hbytes] at hbyte
      cases place with
      | zero =>
          cases hbyte
          exact hfirst
      | succ place =>
          apply ih hbyte
          rw [hsize, Nat.add_assoc, Nat.add_comm 1 place]
          exact houtside
  | @token first rest tokens hlexeme hrest ih =>
      rw [List.forall_mem_cons] at houtside
      have hbehind : utf8Length first.text ≤ place := by
        have hfirst := houtside.1
        simp only [span] at hfirst
        omega
      rw [utf8Bytes_append, List.getElem?_append_right (by rwa [length_utf8Bytes]),
        length_utf8Bytes] at hbyte
      apply ih hbyte
      have hplace : first.span.stop + (place - utf8Length first.text) = first.span.start + place := by
        simp only [span]
        omega
      rw [hplace]
      exact houtside.2

/-- A token stands in a text with its first byte and the byte behind its last one at the boundaries
of characters, and it is what the lexical rules take there. -/
def StandsIn (source : List Char) (token : Token) : Prop :=
  ∃ before after, source = before ++ token.text ++ after ∧
    token.span.start = utf8Length before ∧
    token.span.stop = utf8Length (before ++ token.text) ∧
    lexeme (token.text ++ after) = (token.kind, token.text.length)

/-- Tokens and blanks cover a text, each byte once. -/
structure Tiles (source : List Char) (tokens : List Token) : Prop where
  nonempty : ∀ token ∈ tokens, token.span.start < token.span.stop
  ordered : tokens.Pairwise fun first second => first.span.stop ≤ second.span.start
  standsIn : ∀ token ∈ tokens, token.StandsIn source
  bytes : ∀ token ∈ tokens,
    ((utf8Bytes source).take token.span.stop).drop token.span.start = utf8Bytes token.text
  blank : ∀ place byte, (utf8Bytes source)[place]? = some byte →
    (∀ token ∈ tokens, place < token.span.start ∨ token.span.stop ≤ place) → byte ∈ blankBytes

theorem Cuts.standsIn {source : List Char} {tokens : List Token} (h : Cuts 0 source tokens) :
    ∀ token ∈ tokens, token.StandsIn source := by
  intro token htoken
  obtain ⟨before, after, hparts, hstart, hlexeme⟩ := h.exists_around token htoken
  rw [Nat.zero_add] at hstart
  refine ⟨before, after, ?_, hstart, ?_, hlexeme⟩
  · rw [hparts, List.append_assoc]
  · rw [utf8Length_append, ← hstart, span]

theorem StandsIn.bytes_eq {source : List Char} {token : Token} (h : token.StandsIn source) :
    ((utf8Bytes source).take token.span.stop).drop token.span.start = utf8Bytes token.text := by
  obtain ⟨before, after, rfl, hstart, hstop, -⟩ := h
  rw [hstart, hstop, ← length_utf8Bytes before, ← length_utf8Bytes (before ++ token.text),
    utf8Bytes_append (before ++ token.text) after, List.take_left, utf8Bytes_append,
    List.drop_left]

/-- The tokens of every source text tile it: they cover separate ranges of bytes in ascending order,
each covers exactly its text, and every byte that none of them covers is blank. -/
theorem tiles_scan (source : List Char) : Tiles source (scan source) := by
  have hcuts := cuts_scan source
  refine ⟨hcuts.start_lt_stop, hcuts.ordered, hcuts.standsIn, ?_, ?_⟩
  · intro token htoken
    exact (hcuts.standsIn token htoken).bytes_eq
  · intro place byte hbyte houtside
    apply hcuts.mem_blankBytes hbyte
    rw [Nat.zero_add]
    exact houtside

end Token

end StackProse
