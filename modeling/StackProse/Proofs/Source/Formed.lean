import StackProse.Proofs.Source.Spelling
import StackProse.Proofs.Source.Tiling
import StackProse.Source.Node

/-!
# What trees are made of

The tree of a source text, with errors or without, has few shapes in it. The parts of a block are
statements, comments between them, and at the end a missing parenthesis. A statement is made of
leaves and blocks, and not of comments only. A leaf has no parts, a number can be read, and an error
has a text, as all tokens have. `Node.formed_ofSource` proves it for every source text, by what one
token preserves and from there over all tokens.
-/

namespace StackProse

namespace Token

/-! ### Readable tokens -/

/-- A token has a text, and if it is a number, the text can be read as one. -/
structure Readable (token : Token) : Prop where
  ne_nil : token.text ≠ []
  number : token.kind = .number → (Number.read? token.text).isSome

theorem take_run (p : Char → Bool) (text : List Char) :
    text.take (run p text) = text.takeWhile p :=
  (List.prefix_iff_eq_take.1 (List.takeWhile_prefix p)).symm

/-- Digits that are taken at the head of a text. -/
theorem exists_digits {text : List Char} (h : run Char.isDigit text ≠ 0) :
    ∃ digits : Digits, text.take (run Char.isDigit text) = digits.text := by
  have hne : text.takeWhile Char.isDigit ≠ [] := by
    intro hnil
    rw [run, hnil] at h
    exact h rfl
  refine ⟨⟨text.takeWhile Char.isDigit, hne, ?_⟩, take_run _ _⟩
  intro c hc
  exact List.mem_takeWhile_imp hc

theorem exists_fraction (text : List Char) :
    ∃ decimals : Option Digits,
      text.take (fraction text) = decimals.elim [] fun digits => '.' :: digits.text := by
  unfold fraction
  split
  · rename_i rest
    split
    · exact ⟨none, rfl⟩
    · rename_i hrun
      obtain ⟨digits, hdigits⟩ := exists_digits hrun
      exact ⟨some digits, congrArg ('.' :: ·) hdigits⟩
  · exact ⟨none, rfl⟩

theorem exists_magnitude {text : List Char} {size : Nat} (h : unsignedNumber text = some size)
    (negative : Bool) :
    ∃ numeral : Numeral, numeral.negative = negative ∧ text.take size = numeral.magnitude := by
  obtain ⟨taken, htaken, rfl⟩ := Option.map_eq_some_iff.1 h
  unfold runOne at htaken
  split at htaken
  · contradiction
  · rename_i hrun
    obtain rfl := Option.some.inj htaken
    obtain ⟨whole, hwhole⟩ := exists_digits hrun
    obtain ⟨decimals, hdecimals⟩ := exists_fraction (text.drop (run Char.isDigit text))
    refine ⟨⟨negative, whole, decimals⟩, rfl, ?_⟩
    rw [List.take_add, hwhole, hdecimals]
    rfl

/-- The number rule takes numerals. -/
theorem exists_numeral {text : List Char} {size : Nat} (h : number text = some size) :
    ∃ numeral : Numeral, text.take size = numeral.text := by
  unfold number at h
  split at h
  · obtain ⟨taken, htaken, rfl⟩ := Option.map_eq_some_iff.1 h
    obtain ⟨numeral, hnegative, hmagnitude⟩ := exists_magnitude htaken true
    refine ⟨numeral, ?_⟩
    rw [List.take_succ_cons, hmagnitude, Numeral.text, if_pos hnegative]
  · obtain ⟨numeral, hnegative, hmagnitude⟩ := exists_magnitude h false
    refine ⟨numeral, ?_⟩
    rw [hmagnitude, Numeral.text, hnegative, if_neg Bool.false_ne_true]

theorem number_of_lexeme {text : List Char} {size : Nat} (h : lexeme text = (.number, size)) :
    number text = some size := by
  have hword (taken : Nat) : wordKind (text.take taken) ≠ .number := by
    unfold wordKind
    repeat' split
    all_goals exact nofun
  unfold lexeme at h
  repeat' split at h
  all_goals simp_all

theorem readable_scan (source : List Char) : ∀ token ∈ scan source, token.Readable := by
  intro token htoken
  obtain ⟨before, after, -, -, hlexeme⟩ := (cuts_scan source).exists_around token htoken
  constructor
  · have hpos := lexeme_pos (token.text ++ after)
    rw [hlexeme] at hpos
    exact List.ne_nil_of_length_pos hpos
  · intro hkind
    rw [hkind] at hlexeme
    obtain ⟨numeral, hnumeral⟩ := exists_numeral (number_of_lexeme hlexeme)
    rw [List.take_left] at hnumeral
    rw [hnumeral, numeral.read?_text]
    rfl

end Token

/-! ### Trees -/

namespace NodeKind

/-- Whether nodes of the kind have a text and no parts. -/
def isLeaf : NodeKind → Bool
  | sourceFile | statement | block => false
  | identifier | number | string | boolean | symbol | comment | error => true

theorem isLeaf_ofToken (kind : TokenKind) : (ofToken kind).isLeaf = true := by
  cases kind <;> rfl

end NodeKind

namespace Node

mutual

/-- What a statement is made of. -/
inductive ItemFormed : Node → Prop
  | leaf {kind : NodeKind} {text : List Char} {span : Span} {position : Position} :
      kind.isLeaf → (kind = .number → (Number.read? text).isSome) → text ≠ [] →
      ItemFormed (.leaf kind text span position)
  | block {span : Span} {position : Position} {children : List Node} :
      (∀ child ∈ children, PartFormed child) → ItemFormed (.branch .block span position children)

/-- What a block or a file is made of. -/
inductive PartFormed : Node → Prop
  | statement {span : Span} {position : Position} {children : List Node} :
      (∃ child ∈ children, child.kind ≠ .comment) → (∀ child ∈ children, ItemFormed child) →
      PartFormed (.branch .statement span position children)
  | comment {text : List Char} {span : Span} {position : Position} :
      PartFormed (.leaf .comment text span position)
  | absent {expected : List Char} {offset : Nat} {position : Position} :
      PartFormed (.absent expected offset position)

end

/-- An item is a leaf or a block. -/
theorem ItemFormed.leaf_or_block {kind : NodeKind} {text : List Char} {span : Span}
    {position : Position} {missing : Bool} {children : List Node}
    (h : (mk kind text span position missing children).ItemFormed) :
    missing = false ∧
      (kind.isLeaf ∧ children = [] ∧ (kind = .number → (Number.read? text).isSome) ∧ text ≠ [] ∨
        kind = .block ∧ ∀ child ∈ children, child.PartFormed) := by
  cases h with
  | leaf hleaf hnumber hne => exact ⟨rfl, Or.inl ⟨hleaf, rfl, hnumber, hne⟩⟩
  | block hchildren => exact ⟨rfl, Or.inr ⟨rfl, hchildren⟩⟩

/-- Comments that stand alone are parts. -/
theorem ItemFormed.part_of_comment {node : Node} (h : node.ItemFormed) (hkind : node.kind = .comment) :
    node.PartFormed := by
  cases h with
  | leaf hleaf hnumber hne =>
      obtain rfl := hkind
      exact .comment
  | block hchildren => contradiction

end Node

namespace Draft

/-- What has been read of a block is formed. -/
structure Part.Formed (part : Part) : Prop where
  done : ∀ node ∈ part.done, node.PartFormed
  items : ∀ item ∈ part.items, item.ItemFormed

/-- All open blocks of a draft are formed, and a block that is passed over has a text. -/
structure Formed (draft : Draft) : Prop where
  inner : draft.inner.Formed
  outer : ∀ opened ∈ draft.outer, opened.2.Formed
  skipped : ∀ skipped ∈ draft.skipped, skipped.opening.text ≠ []

section

variable {part : Part} {item : Node} {starts : List Nat} {draft : Draft} {token : Token}

theorem Part.formed_empty : Part.Formed {} :=
  ⟨List.forall_mem_nil _, List.forall_mem_nil _⟩

theorem Part.Formed.add (h : part.Formed) (hitem : item.ItemFormed) : (part.add item).Formed :=
  ⟨h.done, List.forall_mem_cons.2 ⟨hitem, h.items⟩⟩

theorem Part.Formed.close (h : part.Formed) : part.close.Formed := by
  rw [Part.close]
  by_cases hcomments : part.items.all (·.kind == .comment)
  · rw [if_pos hcomments]
    constructor
    · rw [List.forall_mem_append]
      refine ⟨?_, h.done⟩
      intro comment hcomment
      have hkind := List.all_eq_true.1 hcomments comment hcomment
      exact (h.items comment hcomment).part_of_comment (eq_of_beq hkind)
    · exact List.forall_mem_nil _
  · rw [if_neg hcomments]
    cases hitems : part.items.reverse with
    | nil => exact ⟨h.done, List.forall_mem_nil _⟩
    | cons first rest =>
        have hstatement : (Part.statementOf first (first :: rest)).PartFormed := by
          rw [Part.statementOf, ← hitems]
          apply Node.PartFormed.statement
          · simpa using hcomments
          · intro child hchild
            exact h.items child (List.mem_reverse.1 hchild)
        exact ⟨List.forall_mem_cons.2 ⟨hstatement, h.done⟩, List.forall_mem_nil _⟩

theorem Part.Formed.nodes (h : part.Formed) : ∀ node ∈ part.nodes, node.PartFormed := by
  intro node hnode
  exact h.close.done node (List.mem_reverse.1 hnode)

theorem itemFormed_leafOf (htoken : token.Readable) {kind : NodeKind} (hleaf : kind.isLeaf)
    (hnumber : kind = .number → token.kind = .number) :
    (leafOf starts kind token).ItemFormed := by
  apply Node.ItemFormed.leaf hleaf ?_ htoken.ne_nil
  intro hkind
  exact htoken.number (hnumber hkind)

theorem itemFormed_skippedLeaf {skipped : Skipped} (h : skipped.opening.text ≠ []) :
    (skippedLeaf starts skipped).ItemFormed :=
  .leaf rfl nofun h

theorem Formed.add (h : draft.Formed) (hitem : item.ItemFormed) : (draft.add item).Formed :=
  ⟨h.inner.add hitem, h.outer, h.skipped⟩

theorem Formed.skip (h : draft.Formed) {skipped : Skipped} (hskipped : skipped.opening.text ≠ [])
    (token : Token) : (draft.skip starts skipped token).Formed := by
  unfold Draft.skip
  extract_lets nesting passed
  have hpassed : passed.opening.text ≠ [] := hskipped
  split
  · exact Formed.add ⟨h.inner, h.outer, nofun⟩ (itemFormed_skippedLeaf hpassed)
  · refine ⟨h.inner, h.outer, ?_⟩
    intro other hother
    obtain rfl := Option.some.inj hother
    exact hpassed

/-- A token keeps the draft formed. -/
theorem Formed.step (h : draft.Formed) (htoken : token.Readable) :
    (draft.step starts token).Formed := by
  have hadd {kind : NodeKind} (hleaf : kind.isLeaf)
      (hnumber : kind = .number → token.kind = .number) :
      (draft.add (leafOf starts kind token)).Formed :=
    h.add (itemFormed_leafOf htoken hleaf hnumber)
  have hnone : ∀ skipped : Skipped, none = some skipped → skipped.opening.text ≠ [] := by simp
  rw [Draft.step]
  cases hskipped : draft.skipped with
  | some skipped => exact h.skip (h.skipped skipped hskipped) token
  | none =>
      dsimp only
      cases hkind : token.kind with
      | semicolon => exact ⟨h.inner.close, h.outer, hnone⟩
      | opening =>
          dsimp only
          split
          · refine ⟨h.inner, h.outer, ?_⟩
            intro other hother
            obtain rfl := Option.some.inj hother
            exact htoken.ne_nil
          · exact ⟨Part.formed_empty, List.forall_mem_cons.2 ⟨h.inner, h.outer⟩, hnone⟩
      | closing =>
          have houter := h.outer
          dsimp only
          cases hopened : draft.outer with
          | nil => exact hadd rfl (by simp)
          | cons opened outer =>
              obtain ⟨opening, around⟩ := opened
              rw [hopened, List.forall_mem_cons] at houter
              exact ⟨houter.1.add (.block h.inner.nodes), houter.2, hnone⟩
      | _ => exact hadd (NodeKind.isLeaf_ofToken _) (by simp [NodeKind.ofToken, hkind])

theorem Formed.foldl (h : draft.Formed) {tokens : List Token}
    (htokens : ∀ token ∈ tokens, token.Readable) :
    (tokens.foldl (Draft.step starts) draft).Formed := by
  induction tokens generalizing draft with
  | nil => exact h
  | cons token rest ih =>
      rw [List.forall_mem_cons] at htokens
      exact ih (h.step htokens.1) htokens.2

/-- Closing what the text leaves open adds missing parentheses. -/
theorem formed_closeAll (stop : Nat) {inner : Part} {outer : List (Token × Part)}
    (hinner : inner.Formed) (houter : ∀ opened ∈ outer, opened.2.Formed) :
    ∀ node ∈ closeAll starts stop inner outer, node.PartFormed := by
  induction outer generalizing inner with
  | nil => exact hinner.nodes
  | cons opened outer ih =>
      obtain ⟨opening, around⟩ := opened
      rw [List.forall_mem_cons] at houter
      refine ih (houter.1.add (.block ?_)) houter.2
      rw [List.forall_mem_append]
      exact ⟨hinner.nodes, List.forall_mem_singleton.2 .absent⟩

end

end Draft

/-- The parts of a file are formed, whatever the file says. -/
theorem Node.formed_ofSource (source : List Char) :
    ∀ child ∈ (Node.ofSource source).children, child.PartFormed := by
  have hempty : Draft.Formed {} := ⟨Draft.Part.formed_empty, List.forall_mem_nil _, nofun⟩
  have hdraft : ((Token.scan source).foldl (Draft.step (lineStarts source)) {}).Formed :=
    hempty.foldl (Token.readable_scan source)
  rw [Node.ofSource]
  dsimp only [Node.branch, Node.children, Draft.finish]
  cases hskipped : ((Token.scan source).foldl (Draft.step (lineStarts source)) {}).skipped with
  | none => exact Draft.formed_closeAll _ hdraft.inner hdraft.outer
  | some skipped =>
      have htext := hdraft.skipped skipped hskipped
      exact Draft.formed_closeAll _ (hdraft.inner.add (Draft.itemFormed_skippedLeaf htext))
        hdraft.outer

end StackProse
