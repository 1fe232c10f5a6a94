import StackProse.Proofs.Source.Aspects
import StackProse.Proofs.Source.Spelling
import StackProse.Proofs.Source.Tiling

/-!
# Prose between tokens

A line break behind a token changes nothing about how the token is read, unless it is an unfinished string
or comment (`Token.lexeme_break`). So a word of prose on a line of its own, put between the tokens of a
text, leaves the other tokens as they are: `Token.scan_insert`.
-/

namespace StackProse

namespace Token

variable {c : Char} {p : Char → Bool} {text after : List Char} {size taken : Nat}

/-! ### Rules up to a line break -/

theorem run_append_eq (p : Char → Bool) (text rest : List Char) :
    run p (text ++ rest) =
      if run p text = text.length then text.length + run p rest else run p text := by
  rw [run, List.takeWhile_append, run, run]
  split
  · rw [List.length_append]
  · rfl

/-- A run that ends in a text ends at the same place with a line break behind the text. -/
theorem run_break (hp : p '\n' = false) (h : run p (text ++ after) ≤ text.length) (more : List Char) :
    run p (text ++ '\n' :: more) = run p (text ++ after) := by
  rw [run_append_eq] at h
  rw [run_append_eq, run_append_eq]
  split
  · rename_i hall
    have hbreak : run p ('\n' :: more) = 0 := by
      rw [run, List.takeWhile_cons, hp]
      rfl
    rw [if_pos hall] at h
    omega
  · rfl

/-- A rule does not apply, or takes no more than the text. -/
def Within (text : List Char) (taken : Option Nat) : Prop :=
  ∀ size ∈ taken, size ≤ text.length

theorem within_none (text : List Char) : Within text none :=
  nofun

theorem within_some : Within text (some size) ↔ size ≤ text.length :=
  ⟨fun h => h size rfl, fun h _ hsize => Option.some.inj hsize ▸ h⟩

theorem runOne_break (hp : p '\n' = false) (h : Within text (runOne p (text ++ after)))
    (more : List Char) : runOne p (text ++ '\n' :: more) = runOne p (text ++ after) := by
  have hrun : run p (text ++ after) ≤ text.length := by
    by_cases hzero : run p (text ++ after) = 0
    · rw [hzero]
      exact Nat.zero_le _
    · rwa [runOne, if_neg hzero, within_some] at h
  rw [runOne, runOne, run_break hp hrun]

theorem fraction_break (h : fraction (text ++ after) ≤ text.length) (more : List Char) :
    fraction (text ++ '\n' :: more) = fraction (text ++ after) := by
  cases text with
  | nil =>
      rw [Nat.eq_zero_of_le_zero h]
      rfl
  | cons c text =>
      by_cases hc : c = '.'
      · subst hc
        have hrun : run Char.isDigit (text ++ after) ≤ text.length := by
          simp only [List.cons_append, fraction, List.length_cons] at h
          split at h
          · omega
          · omega
        simp only [List.cons_append, fraction, run_break rfl hrun]
      · simp [fraction, hc]

theorem unsignedNumber_break (h : Within text (unsignedNumber (text ++ after))) (more : List Char) :
    unsignedNumber (text ++ '\n' :: more) = unsignedNumber (text ++ after) := by
  rw [unsignedNumber] at h ⊢
  cases hrun : runOne Char.isDigit (text ++ after) with
  | none =>
      have hfits : Within text (runOne Char.isDigit (text ++ after)) := hrun ▸ within_none text
      rw [unsignedNumber, runOne_break rfl hfits, hrun]
      rfl
  | some size =>
      rw [hrun, Option.map_some, within_some] at h
      have hdigits : size ≤ text.length := Nat.le_of_add_right_le h
      have hfits : Within text (runOne Char.isDigit (text ++ after)) := hrun ▸ within_some.2 hdigits
      have hfraction : fraction (text.drop size ++ after) ≤ (text.drop size).length := by
        rw [List.drop_append_of_le_length hdigits] at h
        rw [List.length_drop]
        omega
      rw [unsignedNumber, runOne_break rfl hfits, hrun, Option.map_some, Option.map_some,
        List.drop_append_of_le_length hdigits, List.drop_append_of_le_length hdigits,
        fraction_break hfraction]

theorem within_map_succ {taken : Option Nat} :
    Within (c :: text) (taken.map (· + 1)) ↔ Within text taken := by
  cases taken with
  | none => exact iff_of_true (within_none _) (within_none _)
  | some size => rw [Option.map_some, within_some, within_some, List.length_cons, Nat.succ_le_succ_iff]

theorem number_break (h : Within (c :: text) (number (c :: text ++ after))) (more : List Char) :
    number (c :: text ++ '\n' :: more) = number (c :: text ++ after) := by
  by_cases hc : c = '-'
  · subst hc
    rw [List.cons_append, number, within_map_succ] at h
    rw [List.cons_append, List.cons_append, number, number, unsignedNumber_break h]
  · rw [List.cons_append, number_of_ne hc] at h
    rw [List.cons_append, List.cons_append, number_of_ne hc, number_of_ne hc]
    exact unsignedNumber_break h more

/-- A number that is not spoiled is not spoiled by a line break. -/
theorem spoiledNumber_break (hnumber : number (c :: text ++ after) = some size)
    (hsize : size ≤ (c :: text).length) (h : spoiledNumber (c :: text ++ after) = none)
    (more : List Char) : spoiledNumber (c :: text ++ '\n' :: more) = none := by
  have hnext : number (c :: text ++ '\n' :: more) = some size := by
    rw [number_break (hnumber ▸ within_some.2 hsize), hnumber]
  have hnone : runOne spoilsNumber ((c :: text).drop size ++ after) = none := by
    rw [← List.drop_append_of_le_length hsize]
    simpa only [spoiledNumber, hnumber, Option.bind_eq_bind, Option.bind_some, Option.pure_def,
      Option.bind_eq_none_iff, reduceCtorEq, imp_false, ← Option.eq_none_iff_forall_ne_some] using h
  have hbreak := runOne_break rfl (hnone ▸ within_none _) more
  rw [spoiledNumber, hnext, Option.bind_eq_bind, Option.bind_some,
    List.drop_append_of_le_length hsize, hbreak, hnone]
  rfl

theorem symbol_break (h : Within (c :: text) (symbol (c :: text ++ after))) (more : List Char) :
    symbol (c :: text ++ '\n' :: more) = symbol (c :: text ++ after) := by
  by_cases hc : c = '\\'
  · subst hc
    rw [List.cons_append, symbol, within_map_succ] at h
    rw [List.cons_append, List.cons_append, symbol, symbol, runOne_break rfl h]
  · rw [List.cons_append, List.cons_append, symbol_of_ne hc, symbol_of_ne hc]

theorem word_break (h : Within (c :: text) (word (c :: text ++ after))) (more : List Char) :
    word (c :: text ++ '\n' :: more) = word (c :: text ++ after) := by
  rw [List.cons_append, List.cons_append, word, word] at *
  split
  · rename_i hc
    rw [if_pos hc, within_some, List.length_cons, Nat.succ_le_succ_iff] at h
    rw [run_break rfl h]
  · rfl

theorem lineComment_break (h : Within (c :: text) (lineComment (c :: text ++ after)))
    (more : List Char) :
    lineComment (c :: text ++ '\n' :: more) = lineComment (c :: text ++ after) := by
  by_cases hc : c = '~'
  · subst hc
    cases text with
    | nil =>
        cases after with
        | nil => rfl
        | cons d after =>
            by_cases hd : d = '~'
            · -- a line comment takes two tildes at least, which do not fit
              subst hd
              rw [List.cons_append, List.nil_append, lineComment, within_some, List.length_singleton] at h
              omega
            · simp [lineComment, hd]
    | cons d text =>
        by_cases hd : d = '~'
        · subst hd
          rw [List.cons_append, List.cons_append, lineComment, within_some, List.length_cons,
            List.length_cons] at h
          have hrun : run (· != '\n') (text ++ after) ≤ text.length := by omega
          simp only [List.cons_append, lineComment, run_break rfl hrun]
        · simp [lineComment, hd]
  · rw [List.cons_append, List.cons_append, lineComment_of_ne hc, lineComment_of_ne hc]

/-! ### Closed comments and strings -/

/-- A run that ends before a text does ends there, whatever comes after the text. -/
theorem run_eq_of_lt (h : run p (text ++ after) < text.length) (other : List Char) :
    run p (text ++ other) = run p (text ++ after) := by
  rw [run_append_eq] at h
  rw [run_append_eq, run_append_eq]
  split
  · rename_i hall
    rw [if_pos hall] at h
    omega
  · rfl

theorem enclosedComment_append (h : enclosedComment (text ++ after) = some size)
    (hsize : size ≤ text.length) (other : List Char) : enclosedComment (text ++ other) = some size := by
  cases text with
  | nil => exact absurd hsize (Nat.not_le_of_gt (enclosedComment_pos h))
  | cons c text =>
      by_cases hc : c = '~'
      · subst hc
        simp only [List.cons_append, enclosedComment] at h ⊢
        split at h
        · obtain rfl := Option.some.inj h
          have hrun : run (· != '~') (text ++ after) < text.length := Nat.lt_of_succ_lt_succ hsize
          rw [run_eq_of_lt hrun, if_pos]
          exact Nat.lt_of_lt_of_le hrun (List.length_append ▸ Nat.le_add_right _ _)
        · contradiction
      · rw [List.cons_append, enclosedComment_of_ne hc] at h
        contradiction

theorem closingQuote_append (other : List Char) :
    ∀ (taken : Nat) (text : List Char), closingQuote taken (text ++ after) = some size →
      size ≤ taken + text.length → closingQuote taken (text ++ other) = some size
  | taken, [], h, hsize => absurd hsize (Nat.not_le_of_gt (le_closingQuote h))
  | taken, c :: text, h, hsize => by
      rw [List.length_cons] at hsize
      by_cases hquote : c = '"'
      · subst hquote
        exact h
      · by_cases hbackslash : c = '\\'
        · subst hbackslash
          cases text with
          | nil =>
              -- the character that the backslash takes along does not fit
              cases after with
              | nil => contradiction
              | cons d after =>
                  have hlt : taken + 2 < size := le_closingQuote h
                  rw [List.length_nil] at hsize
                  omega
          | cons d text =>
              rw [List.length_cons] at hsize
              exact closingQuote_append other (taken + 2) text h (by omega)
        · rw [List.cons_append, closingQuote_of_ne hquote hbackslash] at h ⊢
          exact closingQuote_append other (taken + 1) text h (by omega)

theorem stringLiteral_append (h : stringLiteral (text ++ after) = some size)
    (hsize : size ≤ text.length) (other : List Char) : stringLiteral (text ++ other) = some size := by
  cases text with
  | nil => exact absurd hsize (Nat.not_le_of_gt (stringLiteral_pos h))
  | cons c text =>
      by_cases hc : c = '"'
      · subst hc
        rw [List.cons_append, stringLiteral] at h ⊢
        exact closingQuote_append other 1 text h (Nat.add_comm _ _ ▸ hsize)
      · rw [List.cons_append, stringLiteral_of_ne hc] at h
        contradiction

/-! ### Tokens up to a line break -/

variable {kind : TokenKind} {rest : List Char}

theorem lexeme_tilde (hline : lineComment ('~' :: rest) = none)
    (henclosed : enclosedComment ('~' :: rest) = none) : (lexeme ('~' :: rest)).1 = .unknown := by
  rw [lexeme, hline, henclosed]
  rfl

theorem lexeme_quote (hstring : stringLiteral ('"' :: rest) = none) :
    (lexeme ('"' :: rest)).1 = .unknown := by
  rw [lexeme, hstring]
  rfl

/-- A comment that is closed, or ends with its line, is read in the same way with a line break behind. -/
theorem lexeme_break_tilde (h : lexeme ('~' :: text ++ after) = (kind, size))
    (hkind : kind ≠ .unknown) (hsize : size ≤ ('~' :: text).length) (more : List Char) :
    lexeme ('~' :: text ++ '\n' :: more) = (kind, size) := by
  cases hline : lineComment ('~' :: text ++ after) with
  | some taken =>
      rw [lexeme, hline] at h
      obtain ⟨rfl, rfl⟩ := Prod.mk.inj h
      rw [lexeme, lineComment_break (hline ▸ within_some.2 hsize), hline]
  | none =>
      cases henclosed : enclosedComment ('~' :: text ++ after) with
      | some taken =>
          rw [lexeme, hline, henclosed] at h
          obtain ⟨rfl, rfl⟩ := Prod.mk.inj h
          rw [lexeme, lineComment_break (hline ▸ within_none _), hline,
            enclosedComment_append henclosed hsize]
      | none =>
          have hunknown : (lexeme ('~' :: text ++ after)).1 = .unknown := lexeme_tilde hline henclosed
          rw [h] at hunknown
          exact absurd hunknown hkind

/-- A string that is closed is read in the same way whatever comes behind. -/
theorem lexeme_append_quote (h : lexeme ('"' :: text ++ after) = (kind, size))
    (hkind : kind ≠ .unknown) (hsize : size ≤ ('"' :: text).length) (other : List Char) :
    lexeme ('"' :: text ++ other) = (kind, size) := by
  cases hstring : stringLiteral ('"' :: text ++ after) with
  | some taken =>
      have hother (rest : List Char) (hrest : stringLiteral ('"' :: text ++ rest) = some taken) :
          lexeme ('"' :: text ++ rest) = (.string, taken) := by
        rw [lexeme, hrest]
        rfl
      rw [hother after hstring] at h
      obtain ⟨rfl, rfl⟩ := Prod.mk.inj h
      exact hother other (stringLiteral_append hstring hsize other)
  | none =>
      have hunknown : (lexeme ('"' :: text ++ after)).1 = .unknown := lexeme_quote hstring
      rw [h] at hunknown
      exact absurd hunknown hkind

/-- Comments begin with a tilde and strings with a quote. -/
theorem opens_nothing (htilde : c ≠ '~') (hquote : c ≠ '"') (text rest : List Char) :
    lineComment (c :: text ++ rest) = none ∧ enclosedComment (c :: text ++ rest) = none ∧
      stringLiteral (c :: text ++ rest) = none :=
  ⟨lineComment_of_ne htilde, enclosedComment_of_ne htilde, stringLiteral_of_ne hquote⟩

/-- A token that is no number, comment or string is read in the same way with a line break behind. -/
theorem lexeme_break_plain (hnumber : number (c :: text ++ after) = none) (htilde : c ≠ '~')
    (hquote : c ≠ '"') (h : lexeme (c :: text ++ after) = (kind, size)) (hkind : kind ≠ .unknown)
    (hsize : size ≤ (c :: text).length) (more : List Char) :
    lexeme (c :: text ++ '\n' :: more) = (kind, size) := by
  have hnext : number (c :: text ++ '\n' :: more) = none := by
    rw [number_break (hnumber ▸ within_none _), hnumber]
  have htake (rest : List Char) (taken : Nat) (htaken : taken ≤ (c :: text).length) :
      (c :: text ++ rest).take taken = (c :: text).take taken :=
    List.take_append_of_le_length htaken
  have hsingle (d : Char) (rest : List Char) : single d (c :: text ++ rest) = single d [c] := rfl
  simp only [lexeme, opens_nothing htilde hquote, spoiledNumber_eq_none hnumber, hnumber,
    spoiledNumber_eq_none hnext, hnext, hsingle] at h ⊢
  cases hsymbol : symbol (c :: text ++ after) with
  | some taken =>
      simp only [hsymbol] at h
      obtain ⟨rfl, rfl⟩ := Prod.mk.inj h
      simp only [symbol_break (hsymbol ▸ within_some.2 hsize), hsymbol]
  | none =>
      simp only [symbol_break (hsymbol ▸ within_none _), hsymbol] at h ⊢
      cases hword : word (c :: text ++ after) with
      | some taken =>
          simp only [hword] at h
          obtain ⟨rfl, rfl⟩ := Prod.mk.inj h
          simp only [word_break (hword ▸ within_some.2 hsize), hword, htake _ _ hsize]
      | none =>
          simp only [word_break (hword ▸ within_none _), hword] at h ⊢
          cases hoperator : runOne isOperatorChar (c :: text ++ after) with
          | some taken =>
              simp only [hoperator] at h
              obtain ⟨rfl, rfl⟩ := Prod.mk.inj h
              simp only [runOne_break rfl (hoperator ▸ within_some.2 hsize), hoperator]
          | none =>
              -- what is left is decided by the first character
              simp only [runOne_break rfl (hoperator ▸ within_none _), hoperator] at h ⊢
              cases hsemicolon : single ';' [c] <;> cases hopening : single '(' [c] <;>
                cases hclosing : single ')' [c] <;>
                simp only [hsemicolon, hopening, hclosing] at h ⊢
              all_goals first
                | exact h
                | exact absurd (Prod.mk.inj h).1.symm hkind

/-- A number that is not spoiled is read in the same way with a line break behind. -/
theorem lexeme_break_number (hnumber : number (c :: text ++ after) = some taken) (htilde : c ≠ '~')
    (hquote : c ≠ '"') (h : lexeme (c :: text ++ after) = (kind, size)) (hkind : kind ≠ .unknown)
    (hsize : size ≤ (c :: text).length) (more : List Char) :
    lexeme (c :: text ++ '\n' :: more) = (kind, size) := by
  simp only [lexeme, opens_nothing htilde hquote, hnumber] at h ⊢
  cases hspoiled : spoiledNumber (c :: text ++ after) with
  | some spoiled =>
      simp only [hspoiled] at h
      exact absurd (Prod.mk.inj h).1.symm hkind
  | none =>
      simp only [hspoiled] at h
      obtain ⟨rfl, rfl⟩ := Prod.mk.inj h
      simp only [spoiledNumber_break hnumber hsize hspoiled,
        number_break (hnumber ▸ within_some.2 hsize), hnumber]

/-- A token that is not unknown is read in the same way with a line break behind it. -/
theorem lexeme_break (h : lexeme (text ++ after) = (kind, size)) (hkind : kind ≠ .unknown)
    (hsize : size ≤ text.length) (more : List Char) :
    lexeme (text ++ '\n' :: more) = (kind, size) := by
  obtain _ | ⟨c, text⟩ := text
  · have hpos := lexeme_pos ([] ++ after)
    rw [h] at hpos
    exact absurd hsize (Nat.not_le_of_gt hpos)
  by_cases htilde : c = '~'
  · subst htilde
    exact lexeme_break_tilde h hkind hsize more
  by_cases hquote : c = '"'
  · subst hquote
    exact lexeme_append_quote h hkind hsize _
  cases hnumber : number (c :: text ++ after) with
  | some taken => exact lexeme_break_number hnumber htilde hquote h hkind hsize more
  | none => exact lexeme_break_plain hnumber htilde hquote h hkind hsize more

/-! ### Lines between tokens -/

/-- The token `distance` bytes later. -/
def shift (distance : Nat) (token : Token) : Token :=
  { token with start := token.start + distance }

theorem Scans.shift {offset : Nat} {tokens : List Token} (h : Scans offset text tokens)
    (distance : Nat) : Scans (offset + distance) text (tokens.map (Token.shift distance)) := by
  induction h with
  | done => exact .done
  | blank hblank _ ih =>
      rw [Nat.add_right_comm] at ih
      exact .blank hblank ih
  | @token token rest tokens hhead hlexeme _ ih =>
      have hstop : token.span.stop + distance = (token.shift distance).span.stop :=
        Nat.add_right_comm _ _ _
      rw [hstop] at ih
      exact @Scans.token (token.shift distance) rest _ hhead hlexeme ih

/-- A place in a text between tokens: the beginning of the text or its end, or where a token begins or
ends. -/
def Between (tokens : List Token) (offset : Nat) (before after : List Char) : Prop :=
  before = [] ∨ after = [] ∨ ∃ token ∈ tokens,
    offset + utf8Length before = token.span.start ∨ offset + utf8Length before = token.span.stop

/-- A byte of a source is a boundary: the source begins or ends there, or a token does. -/
def IsBoundary (source : List Char) (offset : Nat) : Prop :=
  offset = 0 ∨ offset = utf8Length source ∨
    ∃ token ∈ scan source, offset = token.span.start ∨ offset = token.span.stop

instance (source : List Char) (offset : Nat) : Decidable (IsBoundary source offset) :=
  inferInstanceAs (Decidable (_ ∨ _))

variable {offset : Nat} {before : List Char} {tokens : List Token}

theorem IsBoundary.between (h : IsBoundary (before ++ after) (utf8Length before)) :
    Between (scan (before ++ after)) 0 before after := by
  have hnil (text : List Char) (hzero : utf8Length text = 0) : text = [] := by
    by_contra hne
    exact Nat.ne_of_gt (utf8Length_pos hne) hzero
  rcases h with hstart | hstop | htoken
  · exact Or.inl (hnil before hstart)
  · rw [utf8Length_append] at hstop
    exact Or.inr (Or.inl (hnil after (by omega)))
  · rw [Between, Nat.zero_add]
    exact Or.inr (Or.inr htoken)

theorem exists_append_of_utf8Length_le (htext : before ++ after = text ++ rest)
    (h : utf8Length text ≤ utf8Length before) : ∃ middle, before = text ++ middle ∧
      rest = middle ++ after := by
  rcases List.append_eq_append_iff.1 htext with ⟨more, rfl, rfl⟩ | ⟨middle, rfl, rfl⟩
  · obtain rfl : more = [] := by
      by_contra hne
      have hpos := utf8Length_pos hne
      rw [utf8Length_append] at h
      omega
    exact ⟨[], by simp, rfl⟩
  · exact ⟨middle, rfl, rfl⟩

/-- A place between tokens is not inside the first token. -/
theorem Between.behind {token : Token} (h : Between (token :: tokens) token.span.start before after)
    (hne : before ≠ []) (htext : before ++ after = token.text ++ rest)
    (hscans : Scans token.span.stop rest tokens) :
    ∃ middle, before = token.text ++ middle ∧ rest = middle ++ after ∧
      Between tokens token.span.stop middle after := by
  rcases h.resolve_left hne with rfl | ⟨found, hfound, hplace⟩
  · rw [List.append_nil] at htext
    exact ⟨rest, htext, (List.append_nil _).symm, Or.inr (Or.inl rfl)⟩
  · rw [List.mem_cons] at hfound
    have hpos := utf8Length_pos hne
    have hlater (hmem : found ∈ tokens) : token.span.stop ≤ found.span.start ∧
        found.span.start < found.span.stop :=
      ⟨hscans.cuts.le_start found hmem, hscans.cuts.start_lt_stop found hmem⟩
    have hbytes : utf8Length token.text ≤ utf8Length before := by
      rcases hfound with rfl | hmem
      · simp only [span] at hplace
        omega
      · have hordered := hlater hmem
        simp only [span] at hplace hordered
        omega
    obtain ⟨middle, rfl, rfl⟩ := exists_append_of_utf8Length_le htext hbytes
    rw [utf8Length_append] at hplace hpos
    refine ⟨middle, rfl, rfl, ?_⟩
    rcases hfound with rfl | hmem
    · left
      by_contra hmiddle
      have hmiddlePos := utf8Length_pos hmiddle
      simp only [span] at hplace
      omega
    · right
      right
      rw [← Nat.add_assoc] at hplace
      exact ⟨found, hmem, hplace⟩

/-- The tokens fall apart into those of the text before and those of the text after, and with a line
break and other text in place of what comes after, the tokens before stay as they are. -/
def BreaksAt (offset : Nat) (before after : List Char) (tokens : List Token) : Prop :=
  ∃ first second, tokens = first ++ second ∧ Scans (offset + utf8Length before) after second ∧
    ∀ more others, Scans (offset + utf8Length before + 1) more others →
      Scans offset (before ++ '\n' :: more) (first ++ others)

theorem breaksAt_start (h : Scans offset after tokens) : BreaksAt offset [] after tokens :=
  ⟨[], tokens, rfl, h, fun _ _ hmore => .blank rfl hmore⟩

theorem BreaksAt.blank (h : BreaksAt (offset + c.utf8Size) before after tokens) (hblank : isBlank c) :
    BreaksAt offset (c :: before) after tokens := by
  obtain ⟨first, second, htokens, hsecond, hmore⟩ := h
  rw [BreaksAt, utf8Length_cons, ← Nat.add_assoc]
  exact ⟨first, second, htokens, hsecond, fun more others h => .blank hblank (hmore more others h)⟩

theorem BreaksAt.token {token : Token} (h : BreaksAt token.span.stop before after tokens)
    (hhead : ∀ c ∈ token.text.head?, isBlank c = false)
    (hlexeme : lexeme (token.text ++ (before ++ after)) = (token.kind, token.text.length))
    (hkind : token.kind ≠ .unknown) :
    BreaksAt token.span.start (token.text ++ before) after (token :: tokens) := by
  obtain ⟨first, second, rfl, hsecond, hmore⟩ := h
  have hplace : token.span.stop + utf8Length before =
      token.span.start + utf8Length (token.text ++ before) := by
    rw [utf8Length_append, ← Nat.add_assoc]
    rfl
  rw [hplace] at hsecond hmore
  refine ⟨token :: first, second, rfl, hsecond, fun more others h => ?_⟩
  rw [List.append_assoc]
  refine .token hhead ?_ (hmore more others h)
  rw [← List.append_assoc] at hlexeme ⊢
  exact lexeme_break hlexeme hkind (List.length_append ▸ Nat.le_add_right _ _) more

/-- A text can be taken apart at any place between tokens. -/
theorem Scans.breaksAt (h : Scans offset (before ++ after) tokens)
    (hknown : ∀ token ∈ tokens, token.kind ≠ .unknown)
    (hbetween : Between tokens offset before after) : BreaksAt offset before after tokens := by
  generalize htext : before ++ after = text at h
  induction h generalizing before with
  | done =>
      obtain ⟨rfl, rfl⟩ := List.append_eq_nil_iff.1 htext
      exact breaksAt_start .done
  | @blank offset c rest tokens hblank hrest ih =>
      cases before with
      | nil =>
          obtain rfl := htext
          exact breaksAt_start (.blank hblank hrest)
      | cons d before =>
          obtain ⟨rfl, rfl⟩ := List.cons.inj htext
          have hbehind := hbetween.resolve_left (List.cons_ne_nil _ _)
          rw [utf8Length_cons, ← Nat.add_assoc] at hbehind
          exact (ih hknown (Or.inr hbehind) rfl).blank hblank
  | @token token rest tokens hhead hlexeme hrest ih =>
      rw [List.forall_mem_cons] at hknown
      by_cases hne : before = []
      · subst hne
        obtain rfl := htext
        exact breaksAt_start (.token hhead hlexeme hrest)
      · obtain ⟨middle, rfl, rfl, hmiddle⟩ := hbetween.behind hne htext hrest
        exact (ih hknown.2 hmiddle rfl).token hhead hlexeme hknown.1

/-! ### Words of prose -/

variable {first : Char} {letters : List Char}

theorem isAlpha_of_isLower (h : first.isLower) : first.isAlpha := by
  rw [Char.isAlpha, h, Bool.or_true]

/-- A small letter and the word characters behind it are a comment. -/
theorem lexeme_prose (hfirst : first.isLower) (hletters : ∀ c ∈ letters, isWordChar c)
    (more : List Char) :
    lexeme (first :: letters ++ '\n' :: more) = (.comment, (first :: letters).length) := by
  have hkind : wordKind (first :: letters) = .comment := if_pos hfirst
  have hbreak : ∀ c ∈ ('\n' :: more).head?, isWordChar c = false := by
    rintro c ⟨⟩
    rfl
  rw [lexeme_word (isAlpha_of_isLower hfirst) hletters hbreak, hkind]

/-- A word of prose on a line of its own, put between the tokens of a text, is one more token. The tokens
before it stay as they are, and those behind it move on. -/
theorem scan_insert (hknown : ∀ token ∈ scan (before ++ after), token.kind ≠ .unknown)
    (hbetween : Between (scan (before ++ after)) 0 before after) (hfirst : first.isLower)
    (hletters : ∀ c ∈ letters, isWordChar c) :
    ∃ leading trailing, scan (before ++ after) = leading ++ trailing ∧
      scan (before ++ '\n' :: (first :: letters ++ '\n' :: after)) =
        leading ++ ⟨.comment, first :: letters, utf8Length before + 1⟩ ::
          trailing.map (shift (utf8Length (first :: letters) + 2)) := by
  obtain ⟨leading, trailing, htokens, htrailing, hmore⟩ :=
    (scans_scan (before ++ after)).breaksAt hknown hbetween
  rw [Nat.zero_add] at htrailing hmore
  let word : Token := ⟨.comment, first :: letters, utf8Length before + 1⟩
  have hblank : ∀ c ∈ word.text.head?, isBlank c = false := by
    rintro c ⟨⟩
    exact isBlank_of_isAlpha (isAlpha_of_isLower hfirst)
  have hstop : utf8Length before + (utf8Length (first :: letters) + 2) =
      word.span.stop + '\n'.utf8Size := by
    change _ = utf8Length before + 1 + utf8Length (first :: letters) + 1
    omega
  have hbehind := htrailing.shift (utf8Length (first :: letters) + 2)
  rw [hstop] at hbehind
  have hword := @Scans.token word ('\n' :: after) _ hblank (lexeme_prose hfirst hletters after)
    (.blank rfl hbehind)
  exact ⟨leading, trailing, htokens, (hmore _ _ hword).scan_eq⟩

end Token

/-! ### Trees without prose -/

/-- Source trees without comments and places. -/
def Aspect.content : Aspect where
  isExact := false
  text _ written := written
  text_nil _ := rfl
  nameForm_text _ := rfl
  literalOf?_text _ _ := rfl
  leafProblem_text _ _ := rfl

theorem Token.like_content {token other : Token} (hkind : token.kind = other.kind)
    (htext : token.text = other.text) : token.Like .content other :=
  ⟨hkind, htext, nofun⟩

/-- A word of prose between the tokens of a source leaves its tree as it is, but for comments and
places. -/
theorem Node.seen_insert {before after letters : List Char} {first : Char}
    (hknown : ∀ token ∈ Token.scan (before ++ after), token.kind ≠ .unknown)
    (hbetween : Token.Between (Token.scan (before ++ after)) 0 before after) (hfirst : first.isLower)
    (hletters : ∀ c ∈ letters, Token.isWordChar c) :
    (ofSource (before ++ after)).seen .content =
      (ofSource (before ++ '\n' :: (first :: letters ++ '\n' :: after))).seen .content := by
  obtain ⟨leading, trailing, hplain, htold⟩ :=
    Token.scan_insert hknown hbetween hfirst hletters
  apply Node.seen_ofSource
  · rw [hplain, htold, List.foldl_append, List.foldl_append, List.foldl_cons]
    have hleading : List.Forall₂ (Token.Like .content) leading leading :=
      List.forall₂_same.2 fun _ _ => Token.like_content rfl rfl
    have htrailing : List.Forall₂ (Token.Like .content) trailing
        (trailing.map (Token.shift (utf8Length (first :: letters) + 2))) :=
      List.forall₂_map_right_iff.2 (List.forall₂_same.2 fun _ _ => Token.like_content rfl rfl)
    refine Draft.Like.foldl (Draft.Like.comment ?_ rfl rfl) htrailing nofun
    exact Draft.like_empty.foldl hleading nofun
  · nofun
  · nofun

end StackProse
