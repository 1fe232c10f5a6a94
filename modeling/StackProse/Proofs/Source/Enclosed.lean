import StackProse.Proofs.Source.Spelling

/-!
# Words and a block

This module follows a text like `Push 4 List (1 2 3)` through scanning and arranging: words and
literals, and behind them a block in parentheses with blanks between its tokens. A parenthesis needs
no blank around it, so the last token of the block stands directly before the closing one. The tree is
a single statement with the words and the block as its items (`Node.children_ofSource_withBlock`).
-/

namespace StackProse

/-- Words, and behind them a block with the given tokens. -/
def Lexeme.withBlock (words lexemes : List Lexeme) : List Char :=
  Lexeme.spaced words ++ ' ' :: '(' :: (Lexeme.spaced lexemes ++ [')'])

/-- A word, and behind it a block with the given tokens. -/
def Lexeme.enclosed (word : Lexeme) (lexemes : List Lexeme) : List Char :=
  withBlock [word] lexemes

namespace Token

/-- An opening parenthesis is a token of its own, whatever follows. -/
theorem lexeme_opening (rest : List Char) : lexeme ('(' :: rest) = (.opening, 1) := by
  have hnumber : number ('(' :: rest) = none := by
    rw [number_of_ne (by decide), unsignedNumber_eq_none]
    rintro c ⟨⟩
    rfl
  have hoperator : runOne isOperatorChar ('(' :: rest) = none := by
    apply runOne_eq_none
    rintro c ⟨⟩
    rfl
  simp only [lexeme, lineComment_of_ne (show '(' ≠ '~' by decide),
    enclosedComment_of_ne (show '(' ≠ '~' by decide),
    stringLiteral_of_ne (show '(' ≠ '"' by decide), spoiledNumber_eq_none hnumber, hnumber,
    symbol_of_ne (show '(' ≠ '\\' by decide), hoperator]
  rfl

theorem scanFrom_opening (offset : Nat) (rest : List Char) (found : List Token) :
    scanFrom offset ('(' :: rest) found =
      scanFrom (offset + 1) rest (⟨.opening, ['('], offset⟩ :: found) := by
  rw [scanFrom, if_neg (by decide), lexeme_opening]
  rfl

theorem scanFrom_closing (offset : Nat) (found : List Token) :
    scanFrom offset [')'] found = (⟨.closing, [')'], offset⟩ :: found).reverse := by
  have hlexeme : lexeme [')'] = (.closing, 1) := by decide
  rw [scanFrom, if_neg (by decide), hlexeme]
  change scanFrom _ [] _ = _
  rw [scanFrom]
  rfl

/-- The tokens of words and a block. -/
theorem scan_withBlock (words lexemes : List Lexeme) :
    ∃ before opening closing tokens,
      scan (Lexeme.withBlock words lexemes) = before ++ opening :: (tokens ++ [closing]) ∧
      List.Forall₂ Lexeme.Names words before ∧ opening.kind = .opening ∧
      closing.kind = .closing ∧ List.Forall₂ Lexeme.Names lexemes tokens := by
  obtain ⟨before, blank, hbefore, hwords⟩ := scanFrom_spaced words
    (apart_blank ('(' :: (Lexeme.spaced lexemes ++ [')']))) 0 []
  let offset := blank + ' '.utf8Size
  obtain ⟨tokens, later, htokens, hnames⟩ := scanFrom_spaced lexemes (apart_closing []) (offset + 1)
    (⟨.opening, ['('], offset⟩ :: (before.reverse ++ []))
  refine ⟨before, ⟨.opening, ['('], offset⟩, ⟨.closing, [')'], later⟩, tokens, ?_, hwords, rfl, rfl,
    hnames⟩
  rw [scan, Lexeme.withBlock, hbefore, scanFrom, if_pos (show isBlank ' ' = true from rfl),
    scanFrom_opening, htokens, scanFrom_closing]
  simp

end Token

namespace Draft

variable {starts : List Nat}

theorem step_opening {draft : Draft} {token : Token} (hskipped : draft.skipped = none)
    (hkind : token.kind = .opening) (hshallow : draft.outer.length < maxDepth) :
    draft.step starts token =
      { draft with inner := {}, outer := (token, draft.inner) :: draft.outer } := by
  rw [step, hskipped, hkind]
  exact if_neg (Nat.not_le.2 hshallow)

theorem step_closing {draft : Draft} {token opening : Token} {around : Part}
    {outer : List (Token × Part)} (hskipped : draft.skipped = none) (hkind : token.kind = .closing)
    (houter : draft.outer = (opening, around) :: outer) :
    draft.step starts token =
      { draft with
        inner := around.add (blockOf starts opening token.span.stop draft.inner.nodes)
        outer := outer } := by
  rw [step, hskipped, hkind, houter]

end Draft

/-- The tree of words and a block: a statement with all of them as its items. -/
theorem Node.children_ofSource_withBlock (words lexemes : List Lexeme) :
    ∃ span position leaves inner place parts,
      (Node.ofSource (Lexeme.withBlock words lexemes)).children =
        [.branch .statement span position (leaves ++ [.branch .block inner place parts])] ∧
      List.Forall₂ Lexeme.Shows words leaves ∧ Lexeme.Fill lexemes parts := by
  obtain ⟨before, opening, closing, tokens, hscan, hwords, hopening, hclosing, hnames⟩ :=
    Token.scan_withBlock words lexemes
  let starts := lineStarts (Lexeme.withBlock words lexemes)
  let leaves := before.map fun token => Draft.leafOf starts (.ofToken token.kind) token
  let block := Draft.blockOf starts opening closing.span.stop (Draft.Part.nodes
    { items := (tokens.map fun token =>
      Draft.leafOf starts (.ofToken token.kind) token).reverse })
  have hkinds := Lexeme.forall_isItem hwords
  have hdraft : (Node.ofSource (Lexeme.withBlock words lexemes)).children =
      Draft.Part.nodes { items := (leaves ++ [block]).reverse } := by
    change Draft.finish _ ((Token.scan _).foldl _ {}) _ = _
    rw [hscan, List.foldl_append, Draft.foldl_step_items rfl hkinds, List.foldl_cons,
      Draft.step_opening rfl hopening (by exact Nat.succ_pos 999), List.foldl_append,
      Draft.foldl_step_items rfl (Lexeme.forall_isItem hnames), List.foldl_cons,
      Draft.step_closing rfl hclosing rfl, List.append_nil, List.append_nil, List.reverse_append]
    rfl
  have hstatement : ∃ span position, Draft.Part.nodes { items := (leaves ++ [block]).reverse } =
      [.branch .statement span position (leaves ++ [block])] := by
    cases hbefore : leaves with
    | nil => exact ⟨_, _, @Draft.nodes_items block [] nofun⟩
    | cons first others =>
        refine ⟨_, _, @Draft.nodes_items first (others ++ [block]) ?_⟩
        obtain ⟨token, htoken, rfl⟩ :=
          List.mem_map.1 (show first ∈ leaves from hbefore ▸ List.mem_cons_self)
        exact NodeKind.ofToken_ne_comment (hkinds token htoken)
  obtain ⟨span, position, hstatement⟩ := hstatement
  exact ⟨span, position, leaves, _, _, _, hdraft.trans hstatement, Draft.shows_leaves hwords,
    Draft.fill_nodes hnames⟩

end StackProse
