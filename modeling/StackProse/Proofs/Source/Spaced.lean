import Mathlib.Data.List.Forall2
import StackProse.Program.Assembly

/-!
# Texts with blanks between their tokens

Where a token stands apart from the next one, how it is read does not depend on what comes later.
This module follows a text of such tokens through scanning and arranging: `Token.scan_spaced` gives
its tokens, and `Node.fill_ofSource_spaced` its tree, a single statement with a leaf for each
token.

Which texts can stand apart is said by the lexical rules one by one, at the end.
-/

namespace StackProse

/-- Tokens of this kind are items of statements. -/
def TokenKind.isItem : TokenKind → Bool
  | identifier | number | string | boolean | symbol => true
  | comment | semicolon | opening | closing | unknown => false

namespace Token

/-- A blank, a closing parenthesis or nothing comes first. -/
def Apart (text : List Char) : Prop :=
  ∀ c ∈ text.head?, c = ' ' ∨ c = ')'

theorem apart_nil : Apart [] := nofun

theorem apart_blank (text : List Char) : Apart (' ' :: text) := by
  rintro c ⟨⟩
  exact Or.inl rfl

theorem apart_closing (text : List Char) : Apart (')' :: text) := by
  rintro c ⟨⟩
  exact Or.inr rfl

/-- Wherever the text stands apart from what follows it, it is read as one token of the kind. -/
structure StandsAlone (kind : TokenKind) (text : List Char) : Prop where
  head : ∃ c ∈ text.head?, isBlank c = false
  lexeme_eq : ∀ rest, Apart rest → lexeme (text ++ rest) = (kind, text.length)

end Token

/-- A text that is read as an item of the given kind. -/
structure Lexeme where
  kind : TokenKind
  text : List Char
  isItem : kind.isItem
  alone : Token.StandsAlone kind text

namespace Lexeme

/-- The texts one after the other, with a blank between any two. -/
def spaced : List Lexeme → List Char
  | [] => []
  | [last] => last.text
  | first :: second :: rest => first.text ++ ' ' :: spaced (second :: rest)

theorem spaced_cons (first : Lexeme) (rest : List Lexeme) :
    spaced (first :: rest) = first.text ++ rest.flatMap fun lexeme => ' ' :: lexeme.text := by
  induction rest generalizing first with
  | nil => exact (List.append_nil _).symm
  | cons second rest ih => rw [spaced, ih, List.flatMap_cons, List.cons_append]

/-- The token has this text and kind. -/
def Names (lexeme : Lexeme) (token : Token) : Prop :=
  token.kind = lexeme.kind ∧ token.text = lexeme.text

/-- The node is a leaf with this text and kind. -/
def Shows (lexeme : Lexeme) (node : Node) : Prop :=
  ∃ span position, node = .leaf (.ofToken lexeme.kind) lexeme.text span position

/-- The lexemes are all there is in a block or a file with these parts: a single statement with a
leaf for each of them, or nothing at all. -/
def Fill (lexemes : List Lexeme) (parts : List Node) : Prop :=
  lexemes = [] ∧ parts = [] ∨
    ∃ span position leaves, parts = [.branch .statement span position leaves] ∧
      List.Forall₂ Shows lexemes leaves

end Lexeme

namespace Token

/-- A lexeme that stands apart is the next token. -/
theorem scanFrom_lexeme (lexeme : Lexeme) {rest : List Char} (hrest : Apart rest) (offset : Nat)
    (found : List Token) :
    scanFrom offset (lexeme.text ++ rest) found =
      scanFrom (offset + utf8Length lexeme.text) rest
        (⟨lexeme.kind, lexeme.text, offset⟩ :: found) := by
  obtain ⟨kind, text, -, ⟨c, hc, hblank⟩, hlexeme⟩ := lexeme
  cases text with
  | nil => simp at hc
  | cons first text =>
      obtain rfl : first = c := by simpa using hc
      have hlexeme := hlexeme rest hrest
      rw [List.cons_append] at hlexeme
      rw [List.cons_append, scanFrom, if_neg (by simp [hblank]), hlexeme, ← List.cons_append]
      simp only [List.take_left, List.drop_left]

/-- The tokens of a spaced text come before those of what follows. -/
theorem scanFrom_spaced (lexemes : List Lexeme) {rest : List Char} (hrest : Apart rest)
    (offset : Nat) (found : List Token) :
    ∃ tokens later, scanFrom offset (Lexeme.spaced lexemes ++ rest) found =
        scanFrom later rest (tokens.reverse ++ found) ∧
      List.Forall₂ Lexeme.Names lexemes tokens := by
  induction lexemes using Lexeme.spaced.induct generalizing offset found with
  | case1 => exact ⟨[], offset, rfl, .nil⟩
  | case2 last =>
      exact ⟨[⟨last.kind, last.text, offset⟩], _, scanFrom_lexeme last hrest offset found,
        .cons ⟨rfl, rfl⟩ .nil⟩
  | case3 first second others ih =>
      rw [Lexeme.spaced, List.append_assoc, List.cons_append,
        scanFrom_lexeme first (apart_blank _), scanFrom, if_pos (show isBlank ' ' = true from rfl)]
      obtain ⟨tokens, later, htokens, hnames⟩ := ih _ (⟨first.kind, first.text, offset⟩ :: found)
      refine ⟨⟨first.kind, first.text, offset⟩ :: tokens, later, ?_, .cons ⟨rfl, rfl⟩ hnames⟩
      rw [htokens, List.reverse_cons, List.append_assoc, List.singleton_append]

theorem scan_spaced (lexemes : List Lexeme) :
    List.Forall₂ Lexeme.Names lexemes (scan (Lexeme.spaced lexemes)) := by
  obtain ⟨tokens, later, htokens, hnames⟩ := scanFrom_spaced lexemes apart_nil 0 []
  rw [List.append_nil, List.append_nil] at htokens
  rw [scan, htokens, scanFrom, List.reverse_reverse]
  exact hnames

end Token

theorem Lexeme.forall_isItem {lexemes : List Lexeme} {tokens : List Token}
    (h : List.Forall₂ Lexeme.Names lexemes tokens) : ∀ token ∈ tokens, token.kind.isItem := by
  induction h with
  | nil => exact List.forall_mem_nil _
  | @cons lexeme token _ _ hname _ ih =>
      rw [List.forall_mem_cons]
      exact ⟨hname.1 ▸ lexeme.isItem, ih⟩

/-! ### Arranging -/

namespace Draft

variable {starts : List Nat}

/-- A token that is an item is added to the statement that is being read. -/
theorem step_item {draft : Draft} {token : Token} (hskipped : draft.skipped = none)
    (hkind : token.kind.isItem) :
    draft.step starts token = draft.add (leafOf starts (.ofToken token.kind) token) := by
  obtain ⟨kind, text, start⟩ := token
  rw [step, hskipped]
  cases kind with
  | identifier | number | string | boolean | symbol => rfl
  | comment | semicolon | opening | closing | unknown => contradiction

/-- Tokens that are items are added to the statement that is being read. -/
theorem foldl_step_items {draft : Draft} (hskipped : draft.skipped = none) {tokens : List Token}
    (hkinds : ∀ token ∈ tokens, token.kind.isItem) :
    tokens.foldl (step starts) draft =
      { draft with inner := { draft.inner with items := (tokens.map fun token =>
          leafOf starts (.ofToken token.kind) token).reverse ++ draft.inner.items } } := by
  induction tokens generalizing draft with
  | nil => rfl
  | cons token tokens ih =>
      obtain ⟨hkind, hkinds⟩ := List.forall_mem_cons.1 hkinds
      have hadded : (draft.add (leafOf starts (.ofToken token.kind) token)).skipped = none :=
        hskipped
      rw [List.foldl_cons, step_item hskipped hkind, ih hadded hkinds]
      simp [add, Part.add]

/-- Items that are not only comments are a single statement where the text ends. -/
theorem nodes_items {first : Node} {items : List Node} (hfirst : first.kind ≠ .comment) :
    Part.nodes { items := (first :: items).reverse } =
      [Part.statementOf first (first :: items)] := by
  have hcomment : ((first :: items).reverse.all (·.kind == .comment)) = false := by
    simp [hfirst]
  simp only [Part.nodes, Part.close, hcomment, Bool.false_eq_true, if_false,
    List.reverse_reverse]
  rfl

end Draft

theorem NodeKind.ofToken_ne_comment {kind : TokenKind} (h : kind.isItem) :
    NodeKind.ofToken kind ≠ .comment := by
  cases kind with
  | comment => exact absurd h (by decide)
  | _ => exact nofun

/-- The leaves of lexemes show them. -/
theorem Draft.shows_leaves {starts : List Nat} {lexemes : List Lexeme} {tokens : List Token}
    (h : List.Forall₂ Lexeme.Names lexemes tokens) :
    List.Forall₂ Lexeme.Shows lexemes
      (tokens.map fun token => leafOf starts (.ofToken token.kind) token) := by
  rw [List.forall₂_map_right_iff]
  apply h.imp
  intro lexeme token ⟨hkind, htext⟩
  exact ⟨token.span, .ofOffset starts token.start, by rw [leafOf, hkind, htext]⟩

/-- The leaves of lexemes are the parts of the block that ends behind them. -/
theorem Draft.fill_nodes {starts : List Nat} {lexemes : List Lexeme} {tokens : List Token}
    (h : List.Forall₂ Lexeme.Names lexemes tokens) :
    Lexeme.Fill lexemes (Draft.Part.nodes { items := (tokens.map fun token =>
      leafOf starts (.ofToken token.kind) token).reverse }) := by
  have hkinds := Lexeme.forall_isItem h
  have hshows := @Draft.shows_leaves starts lexemes tokens h
  cases tokens with
  | nil => exact Or.inl ⟨List.forall₂_nil_right_iff.1 h, rfl⟩
  | cons first tokens =>
      have hfirst := NodeKind.ofToken_ne_comment (hkinds first List.mem_cons_self)
      exact Or.inr ⟨_, _, _, Draft.nodes_items hfirst, hshows⟩

/-- The tree of a spaced text: one statement with a leaf for each of the lexemes. -/
theorem Node.fill_ofSource_spaced (lexemes : List Lexeme) :
    Lexeme.Fill lexemes (Node.ofSource (Lexeme.spaced lexemes)).children := by
  have hnames := Token.scan_spaced lexemes
  let starts := lineStarts (Lexeme.spaced lexemes)
  have hdraft : (Node.ofSource (Lexeme.spaced lexemes)).children =
      Draft.Part.nodes { items := ((Token.scan (Lexeme.spaced lexemes)).map fun token =>
        Draft.leafOf starts (.ofToken token.kind) token).reverse } := by
    change Draft.finish _ ((Token.scan _).foldl _ {}) _ = _
    rw [Draft.foldl_step_items rfl (Lexeme.forall_isItem hnames), List.append_nil]
    rfl
  rw [hdraft]
  exact Draft.fill_nodes hnames

end StackProse
