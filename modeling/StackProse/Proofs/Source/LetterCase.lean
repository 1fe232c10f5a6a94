import StackProse.Proofs.Source.Aspects
import StackProse.Proofs.Source.Spelling
import StackProse.Proofs.Source.Tiling
import StackProse.Proofs.Text.LetterCase

/-!
# Letter case in source texts

The lexical rules do not look at case, apart from the first letter of a word (`Token.lexeme_eq`), and
nothing that is read from an identifier, a truth word or a symbol depends on the case of letters where it
is ignored (`Aspect.letterCase`).

`Token.Recased` says that two texts differ in the case of such letters only. Their tokens then look
alike, one by one and at the same places (`Token.Recased.scans`).
-/

namespace StackProse

/-! ### Rules that ignore case -/

namespace Token

variable {text other : List Char}

/-- What a rule answers does not depend on the case of letters. -/
def IgnoresCase {α : Type} (rule : List Char → α) : Prop :=
  ∀ text, rule (text.map Char.toLower) = rule text

theorem IgnoresCase.eq {α : Type} {rule : List Char → α} (h : IgnoresCase rule)
    (hletters : text.map Char.toLower = other.map Char.toLower) : rule text = rule other := by
  rw [← h text, hletters, h other]

theorem length_eq_of_letters (hletters : text.map Char.toLower = other.map Char.toLower) :
    text.length = other.length := by
  simpa only [List.length_map] using congrArg List.length hletters

/-- Past the end of the texts there is nothing to compare. -/
theorem lt_length_of_ne (hletters : text.map Char.toLower = other.map Char.toLower) {place : Nat}
    (hne : text[place]? ≠ other[place]?) : place < text.length := by
  by_contra hout
  have hlength := length_eq_of_letters hletters
  apply hne
  rw [List.getElem?_eq_none (Nat.le_of_not_lt hout),
    List.getElem?_eq_none (hlength ▸ Nat.le_of_not_lt hout)]

theorem ignoresCase_run {p : Char → Bool} (hp : ∀ c : Char, p c.toLower = p c) :
    IgnoresCase (run p) := by
  intro text
  have hcomp : p ∘ Char.toLower = p := funext hp
  rw [run, run, List.takeWhile_map, hcomp, List.length_map]

theorem ignoresCase_runOne {p : Char → Bool} (hp : ∀ c : Char, p c.toLower = p c) :
    IgnoresCase (runOne p) := by
  intro text
  rw [runOne, runOne, ignoresCase_run hp]

theorem isDigit_toLower (c : Char) : c.toLower.isDigit = c.isDigit :=
  Letter.apply_toLower (f := Char.isDigit) (by decide) c

theorem isWordChar_toLower (c : Char) : isWordChar c.toLower = isWordChar c :=
  Letter.apply_toLower (by decide) c

theorem isOperatorChar_toLower (c : Char) : isOperatorChar c.toLower = isOperatorChar c :=
  Letter.apply_toLower (by decide) c

theorem spoilsNumber_toLower (c : Char) : spoilsNumber c.toLower = spoilsNumber c :=
  Letter.apply_toLower (by decide) c

theorem ne_toLower {other : Char} (h : other.isAlpha = false) (c : Char) :
    (c.toLower != other) = (c != other) := by
  rw [Bool.eq_iff_iff, bne_iff_ne, bne_iff_ne, Ne, Ne, Letter.toLower_eq_iff h]

theorem ignoresCase_lineComment : IgnoresCase lineComment := by
  intro text
  have htilde (c : Char) : c.toLower = '~' ↔ c = '~' := Letter.toLower_eq_iff rfl
  match text with
  | [] => rfl
  | [c] => by_cases hc : c = '~' <;> simp [lineComment, hc, htilde]
  | c :: d :: rest =>
      have hrun := ignoresCase_run (p := (· != '\n')) (ne_toLower rfl) rest
      by_cases hc : c = '~' <;> by_cases hd : d = '~' <;>
        simp [lineComment, hc, hd, htilde, hrun]

theorem ignoresCase_enclosedComment : IgnoresCase enclosedComment := by
  intro text
  have htilde (c : Char) : c.toLower = '~' ↔ c = '~' := Letter.toLower_eq_iff rfl
  cases text with
  | nil => rfl
  | cons c rest =>
      have hrun := ignoresCase_run (p := (· != '~')) (ne_toLower rfl) rest
      by_cases hc : c = '~' <;> simp [enclosedComment, hc, htilde, hrun]

theorem ignoresCase_closingQuote (taken : Nat) : IgnoresCase (closingQuote taken) := by
  intro text
  have hquote (c : Char) : c.toLower = '"' ↔ c = '"' := Letter.toLower_eq_iff rfl
  have hslash (c : Char) : c.toLower = '\\' ↔ c = '\\' := Letter.toLower_eq_iff rfl
  fun_induction closingQuote taken text with
  | case1 | case2 | case3 => rfl
  | case4 taken c rest ih => exact ih
  | case5 taken c rest hopen hlone hpair ih =>
      have hne : c ≠ '\\' := by
        intro hc
        cases rest with
        | nil => exact hlone hc rfl
        | cons d rest => exact hpair d rest hc rfl
      rw [List.map_cons, closingQuote_of_ne (mt (hquote c).1 hopen) (mt (hslash c).1 hne), ih]

theorem ignoresCase_stringLiteral : IgnoresCase stringLiteral := by
  intro text
  have hquote (c : Char) : c.toLower = '"' ↔ c = '"' := Letter.toLower_eq_iff rfl
  cases text with
  | nil => rfl
  | cons c rest =>
      have hclosing := ignoresCase_closingQuote 1 rest
      by_cases hc : c = '"' <;> simp [stringLiteral, hc, hquote, hclosing]

theorem ignoresCase_fraction : IgnoresCase fraction := by
  intro text
  have hpoint (c : Char) : c.toLower = '.' ↔ c = '.' := Letter.toLower_eq_iff rfl
  cases text with
  | nil => rfl
  | cons c rest =>
      have hrun := ignoresCase_run isDigit_toLower rest
      by_cases hc : c = '.' <;> simp [fraction, hc, hpoint, hrun]

theorem ignoresCase_unsignedNumber : IgnoresCase unsignedNumber := by
  intro text
  rw [unsignedNumber, unsignedNumber, ignoresCase_runOne isDigit_toLower]
  simp only [← List.map_drop, ignoresCase_fraction _]

theorem ignoresCase_number : IgnoresCase number := by
  intro text
  have hminus (c : Char) : c.toLower = '-' ↔ c = '-' := Letter.toLower_eq_iff rfl
  cases text with
  | nil => rfl
  | cons c rest =>
      have hrest := ignoresCase_unsignedNumber rest
      have hall := ignoresCase_unsignedNumber (c :: rest)
      by_cases hc : c = '-' <;> simp_all [number]

theorem ignoresCase_spoiledNumber : IgnoresCase spoiledNumber := by
  intro text
  rw [spoiledNumber, spoiledNumber, ignoresCase_number]
  simp only [← List.map_drop, ignoresCase_runOne spoilsNumber_toLower _]

theorem ignoresCase_symbol : IgnoresCase symbol := by
  intro text
  have hslash (c : Char) : c.toLower = '\\' ↔ c = '\\' := Letter.toLower_eq_iff rfl
  cases text with
  | nil => rfl
  | cons c rest =>
      have hrun := ignoresCase_runOne isWordChar_toLower rest
      by_cases hc : c = '\\' <;> simp [symbol, hc, hslash, hrun]

theorem ignoresCase_word : IgnoresCase word := by
  intro text
  cases text with
  | nil => rfl
  | cons c rest =>
      rw [List.map_cons, word, word, Char.isAlpha_toLower_eq_isAlpha,
        ignoresCase_run isWordChar_toLower rest]

theorem ignoresCase_single {c : Char} (h : c.isAlpha = false) : IgnoresCase (single c) := by
  intro text
  cases text with
  | nil => rfl
  | cons first rest =>
      simp only [List.map_cons, single, Letter.toLower_eq_iff h]

theorem ignoresCase_unknownLength : IgnoresCase unknownLength := by
  intro text
  have hquote (c : Char) : c.toLower = '"' ↔ c = '"' := Letter.toLower_eq_iff rfl
  have htilde (c : Char) : c.toLower = '~' ↔ c = '~' := Letter.toLower_eq_iff rfl
  cases text with
  | nil => rfl
  | cons c rest =>
      by_cases hc : c = '"' <;> by_cases hd : c = '~' <;>
        simp_all [unknownLength]

theorem ignoresCase_isWordIgnoringCase (lower : String) :
    IgnoresCase (isWordIgnoringCase lower) := by
  intro text
  have hcomp : Char.toLower ∘ Char.toLower = Char.toLower :=
    funext Char.toLower_toLower_eq_toLower
  rw [isWordIgnoringCase, isWordIgnoringCase, List.map_map, hcomp]

/-- A word is prose or not by its first letter, whatever the case of the others. -/
theorem wordKind_eq (hletters : text.map Char.toLower = other.map Char.toLower)
    (hhead : text.head? = other.head?) : wordKind text = wordKind other := by
  rw [wordKind, wordKind, hhead, (ignoresCase_isWordIgnoringCase "true").eq hletters,
    (ignoresCase_isWordIgnoringCase "false").eq hletters]

/-- Texts that begin with the same character and differ in case only begin with the same token, but for
the case of its letters. -/
theorem lexeme_eq (hletters : text.map Char.toLower = other.map Char.toLower)
    (hhead : text.head? = other.head?) : lexeme text = lexeme other := by
  have hword (size : Nat) : wordKind (text.take size) = wordKind (other.take size) := by
    apply wordKind_eq
    · rw [List.map_take, List.map_take, hletters]
    · rw [List.head?_take, List.head?_take, hhead]
  have hsingle {c : Char} (h : c.isAlpha = false) : single c text = single c other :=
    (ignoresCase_single h).eq hletters
  simp only [lexeme, ignoresCase_lineComment.eq hletters, ignoresCase_enclosedComment.eq hletters,
    ignoresCase_stringLiteral.eq hletters, ignoresCase_spoiledNumber.eq hletters,
    ignoresCase_number.eq hletters, ignoresCase_symbol.eq hletters, ignoresCase_word.eq hletters,
    (ignoresCase_runOne isOperatorChar_toLower).eq hletters, @hsingle ';' rfl, @hsingle '(' rfl,
    @hsingle ')' rfl, ignoresCase_unknownLength.eq hletters, hword]

/-- A symbol begins with a backslash. -/
theorem head_of_symbol (h : (lexeme text).1 = .symbol) : text.head? = some '\\' := by
  by_contra hne
  have hsymbol : symbol text = none := by
    cases text with
    | nil => rfl
    | cons c rest => exact symbol_of_ne fun hc => hne (congrArg some hc)
  have hword (size : Nat) : wordKind (text.take size) ≠ .symbol := by
    rw [wordKind]
    repeat' split
    all_goals decide
  refine absurd h ?_
  unfold lexeme
  repeat' split
  all_goals first
    | exact hword _
    | simp_all only [reduceCtorEq, not_false_eq_true]

end Token

/-! ### Places -/

theorem utf8Size_toLower (c : Char) : c.toLower.utf8Size = c.utf8Size :=
  Letter.apply_toLower (f := Char.utf8Size) (by decide) c

theorem ignoresCase_utf8Length : Token.IgnoresCase utf8Length := by
  intro text
  induction text with
  | nil => rfl
  | cons c rest ih => rw [List.map_cons, utf8Length_cons, utf8Length_cons, utf8Size_toLower, ih]

theorem ignoresCase_lineStarts : Token.IgnoresCase lineStarts := by
  have hfrom (offset : Nat) : Token.IgnoresCase (lineStartsFrom offset) := by
    intro text
    induction text generalizing offset with
    | nil => rfl
    | cons c rest ih =>
        have hbreak : c.toLower = '\n' ↔ c = '\n' := Letter.toLower_eq_iff rfl
        simp only [List.map_cons, lineStartsFrom, hbreak, utf8Size_toLower, ih]
  intro text
  rw [lineStarts, lineStarts, hfrom]

/-! ### What is read -/

theorem ignoresCase_symbolName : Token.IgnoresCase Assembly.symbolName := by
  intro text
  have hslash (c : Char) : c.toLower = '\\' ↔ c = '\\' := Letter.toLower_eq_iff rfl
  cases text with
  | nil => rfl
  | cons c rest =>
      have hrest := Letter.lowerText_map_toLower rest
      have hall := Letter.lowerText_map_toLower (c :: rest)
      by_cases hc : c = '\\' <;> simp_all [Assembly.symbolName]

/-- Source trees without regard to the case of letters in symbols and truth words, and of letters behind
the first in identifiers. All else counts. -/
def Aspect.letterCase : Aspect where
  isExact := true
  text
    | .identifier, written => Letter.lowerTail written
    | .boolean, written => written.map Char.toLower
    | .symbol, written => written.map Char.toLower
    | _, written => written
  text_nil kind := by cases kind <;> rfl
  nameForm_text := Letter.nameForm_lowerTail
  literalOf?_text kind written := by
    cases kind with
    | boolean =>
        simp only [Assembly.literalOf?, Token.ignoresCase_isWordIgnoringCase "true" written]
    | symbol => simp only [Assembly.literalOf?, ignoresCase_symbolName written]
    | _ => rfl
  leafProblem_text kind written := by cases kind <;> rfl

/-! ### Texts in other letter case -/

namespace Token

/-- The case of a letter at a byte is ignored: the letter stands in a symbol, or in an identifier or a
truth word behind the first character. -/
def IgnoresCaseAt (token : Token) (offset : Nat) : Prop :=
  token.span.start ≤ offset ∧ offset < token.span.stop ∧
    (token.kind = .symbol ∨
      (token.kind = .identifier ∨ token.kind = .boolean) ∧ offset ≠ token.span.start)

instance (token : Token) (offset : Nat) : Decidable (token.IgnoresCaseAt offset) :=
  inferInstanceAs (Decidable (_ ∧ _))

/-- Two texts that begin at byte `offset` differ in the case of letters only, and only where the tokens of
the first ignore it. -/
structure Recased (tokens : List Token) (offset : Nat) (text other : List Char) : Prop where
  letters : text.map Char.toLower = other.map Char.toLower
  ignored : ∀ place, text[place]? ≠ other[place]? →
    ∃ token ∈ tokens, token.IgnoresCaseAt (offset + utf8Length (text.take place))

instance (tokens : List Token) (offset : Nat) (text other : List Char) :
    Decidable (Recased tokens offset text other) :=
  decidable_of_iff (text.map Char.toLower = other.map Char.toLower ∧
      ∀ place < text.length, text[place]? ≠ other[place]? →
        ∃ token ∈ tokens, token.IgnoresCaseAt (offset + utf8Length (text.take place)))
    ⟨fun ⟨hletters, hignored⟩ =>
        ⟨hletters, fun place hne => hignored place (lt_length_of_ne hletters hne) hne⟩,
      fun h => ⟨h.letters, fun place _ => h.ignored place⟩⟩

variable {tokens : List Token} {offset : Nat} {text other rest : List Char}

/-- Blanks are the same in other letter case, as no token stands there. -/
theorem Recased.blank {c : Char} (h : Recased tokens offset (c :: text) other)
    (hlater : ∀ token ∈ tokens, offset + c.utf8Size ≤ token.span.start) :
    ∃ rest, other = c :: rest ∧ Recased tokens (offset + c.utf8Size) text rest := by
  obtain ⟨first, rest, rfl, -, hletters⟩ := List.map_eq_cons_iff.1 h.letters.symm
  have hfirst : c = first := by
    by_contra hne
    obtain ⟨token, htoken, hstart, -⟩ := h.ignored 0 fun heq => hne (Option.some.inj heq)
    have hstop := Nat.le_trans (hlater token htoken) hstart
    exact absurd (Nat.le_of_add_le_add_left hstop) (Nat.not_le_of_gt c.utf8Size_pos)
  subst hfirst
  refine ⟨rest, rfl, hletters.symm, ?_⟩
  intro place hne
  have hignored := h.ignored (place + 1) hne
  rwa [List.take_succ_cons, utf8Length_cons, ← Nat.add_assoc] at hignored

/-- The first token in other letter case, and the rest. -/
theorem Recased.token {token : Token}
    (h : Recased (token :: tokens) token.span.start (token.text ++ rest) other)
    (hlater : ∀ later ∈ tokens, token.span.stop ≤ later.span.start) :
    ∃ written after, other = written ++ after ∧
      Recased [token] token.span.start token.text written ∧
      Recased tokens token.span.stop rest after := by
  have hletters := h.letters
  rw [List.map_append] at hletters
  obtain ⟨written, after, rfl, hwritten, hafter⟩ := List.map_eq_append_iff.1 hletters.symm
  have hlength : written.length = token.text.length := length_eq_of_letters hwritten
  refine ⟨written, after, rfl, ⟨hwritten.symm, ?_⟩, hafter.symm, ?_⟩
  · intro place hne
    have hplace := lt_length_of_ne hwritten.symm hne
    have hbytes := utf8Length_take_lt hplace
    obtain ⟨found, hfound, hignores⟩ := h.ignored place (by
      rwa [List.getElem?_append_left hplace, List.getElem?_append_left (hlength ▸ hplace)])
    rw [List.take_append_of_le_length (Nat.le_of_lt hplace)] at hignores
    rcases List.mem_cons.1 hfound with rfl | hfound
    · exact ⟨found, List.mem_singleton_self _, hignores⟩
    · -- a later token begins behind this place
      have hstart := hignores.1
      have hstop := hlater found hfound
      simp only [Token.span] at hstart hstop
      omega
  · intro place hne
    obtain ⟨found, hfound, hignores⟩ := h.ignored (token.text.length + place) (by
      rwa [List.getElem?_append_right (Nat.le_add_right _ _), Nat.add_sub_cancel_left,
        List.getElem?_append_right (hlength ▸ Nat.le_add_right _ _), hlength,
        Nat.add_sub_cancel_left])
    rw [List.take_length_add_append, utf8Length_append, ← Nat.add_assoc] at hignores
    rcases List.mem_cons.1 hfound with rfl | hfound
    · -- the token ends before this place
      exact absurd hignores.2.1 (Nat.not_lt_of_ge (Nat.le_add_right _ _))
    · exact ⟨found, hfound, hignores⟩

/-- A token in other letter case begins with the same character, also a symbol, which begins with no
letter. -/
theorem Recased.head_eq {token : Token} {written : List Char}
    (h : Recased [token] token.span.start token.text written)
    (hlexeme : lexeme (token.text ++ rest) = (token.kind, token.text.length)) :
    token.text.head? = written.head? := by
  by_contra hne
  have hzero : token.text[0]? ≠ written[0]? := by
    rwa [← List.head?_eq_getElem?, ← List.head?_eq_getElem?]
  obtain ⟨found, hfound, -, -, hkind⟩ := h.ignored 0 hzero
  obtain rfl := List.mem_singleton.1 hfound
  rcases hkind with hsymbol | ⟨-, hbehind⟩
  · have hslash : found.text.head? = some '\\' := by
      have hhead := head_of_symbol (congrArg Prod.fst hlexeme |>.trans hsymbol)
      rwa [List.head?_append_of_ne_nil _ (List.ne_nil_of_length_pos (length_pos_of_lexeme hlexeme))]
        at hhead
    have hletters := congrArg List.head? h.letters
    rw [List.head?_map, List.head?_map, hslash] at hletters
    obtain ⟨c, hc, hlower⟩ := Option.map_eq_some_iff.1 hletters.symm
    rw [Letter.toLower_eq_iff rfl] at hlower
    exact hne (by rw [hslash, hc, hlower]; rfl)
  · exact hbehind rfl

/-- A token in other letter case looks like the token, without regard to case. -/
theorem Recased.like {token : Token} {written : List Char}
    (h : Recased [token] token.span.start token.text written)
    (hhead : token.text.head? = written.head?) :
    token.Like .letterCase ⟨token.kind, written, token.start⟩ := by
  have hsame (hkind : ¬ (token.kind = .symbol ∨ token.kind = .identifier ∨ token.kind = .boolean)) :
      token.text = written := by
    apply List.ext_getElem?
    intro place
    by_contra hne
    obtain ⟨found, hfound, -, -, hignores⟩ := h.ignored place hne
    obtain rfl := List.mem_singleton.1 hfound
    exact hkind (hignores.imp_right And.left)
  constructor
  · rfl
  · cases hkind : token.kind with
    | identifier => exact Letter.lowerTail_eq h.letters hhead
    | boolean => exact h.letters
    | symbol => exact h.letters
    | _ => rw [hsame (by rw [hkind]; decide)]
  · intro _
    rw [span, span, ignoresCase_utf8Length.eq h.letters]

/-- In other letter case a text is read as tokens that look alike. -/
theorem Recased.scans (hscans : Scans offset text tokens) (h : Recased tokens offset text other) :
    ∃ others, Scans offset other others ∧ List.Forall₂ (Token.Like .letterCase) tokens others := by
  induction hscans generalizing other with
  | done =>
      obtain rfl := List.map_eq_nil_iff.1 h.letters.symm
      exact ⟨[], .done, .nil⟩
  | blank hblank hrest ih =>
      obtain ⟨rest, rfl, hrecased⟩ := h.blank hrest.cuts.le_start
      obtain ⟨others, hothers, hlike⟩ := ih hrecased
      exact ⟨others, .blank hblank hothers, hlike⟩
  | @token token rest tokens hfirst hlexeme hrest ih =>
      obtain ⟨written, after, rfl, hwritten, hafter⟩ := h.token hrest.cuts.le_start
      have hhead := hwritten.head_eq hlexeme
      have hlike := hwritten.like hhead
      obtain ⟨others, hothers, hlikes⟩ := ih hafter
      let recased : Token := ⟨token.kind, written, token.start⟩
      have hlength : token.text.length = written.length := length_eq_of_letters hwritten.letters
      have hne : token.text ≠ [] := List.ne_nil_of_length_pos (length_pos_of_lexeme hlexeme)
      have hbegin : (token.text ++ rest).head? = (written ++ after).head? := by
        rw [List.head?_append_of_ne_nil _ hne, hhead, List.head?_append_of_ne_nil]
        rwa [← List.length_pos_iff, ← hlength, List.length_pos_iff]
      have hsame : lexeme (recased.text ++ after) = (recased.kind, recased.text.length) := by
        rw [← lexeme_eq h.letters hbegin, hlexeme, hlength]
      refine ⟨recased :: others, .token (hhead ▸ hfirst) hsame ?_, .cons hlike hlikes⟩
      rw [← hlike.span_eq rfl]
      exact hothers

end Token

end StackProse
