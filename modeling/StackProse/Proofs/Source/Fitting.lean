import Mathlib.Algebra.Order.Ring.Int
import Mathlib.Data.List.Induction
import StackProse.Source.Node

/-!
# Tokens that fit

Arranging answers for every text, and what does not fit the grammar stays in the tree as an error.
This module says which tokens those are, without regard to trees. Tokens fit if every one of them
is known, if no parenthesis closes a block that is not open, and if no block is deeper than blocks
may nest (`Token.Fits`).

`Draft.hasErrors_step` says which tokens spoil a draft, and `Draft.hasErrors_foldl_step` that a
draft is not spoiled exactly if its tokens fit. The text may still end inside a block:
`Node.hasErrors_ofSource_iff_fits` gives the condition for the whole tree.
-/

namespace StackProse

namespace Token

/-! ### Parentheses -/

/-- The number of blocks that are open behind the tokens. Where parentheses close more than was
opened it is negative. -/
def opened (tokens : List Token) : Int :=
  (tokens.countP (·.kind == .opening) : Int) - tokens.countP (·.kind == .closing)

/-- The parentheses match. -/
structure Balanced (tokens : List Token) : Prop where
  /-- A parenthesis closes only where a block is open. -/
  nonneg : ∀ head, head <+: tokens → 0 ≤ opened head
  /-- No block stays open. -/
  opened_eq : opened tokens = 0

/-- A parenthesis opens a block that is deeper than blocks may nest. -/
def NestsTooDeep (tokens : List Token) : Prop :=
  ∃ before parenthesis, before ++ [parenthesis] <+: tokens ∧ parenthesis.kind = .opening ∧
    Draft.maxDepth < opened (before ++ [parenthesis])

/-- The tokens can be the beginning of a text without errors. -/
structure Fits (tokens : List Token) : Prop where
  known : ∀ token ∈ tokens, token.kind ≠ .unknown
  nonneg : ∀ head, head <+: tokens → 0 ≤ opened head
  shallow : ¬ NestsTooDeep tokens

variable {tokens : List Token} {token : Token}

theorem opened_append (first second : List Token) :
    opened (first ++ second) = opened first + opened second := by
  simp only [opened, List.countP_append, Nat.cast_add]
  omega

theorem opened_singleton (token : Token) :
    opened [token] =
      match token.kind with
      | .opening => 1
      | .closing => -1
      | _ => 0 := by
  cases hkind : token.kind <;> simp [opened, hkind]

theorem fits_nil : Fits [] where
  known := List.forall_mem_nil _
  nonneg := by
    intro head hhead
    rw [List.prefix_nil.1 hhead]
    decide
  shallow := by
    rintro ⟨before, parenthesis, hprefix, -⟩
    exact absurd (List.prefix_nil.1 hprefix) (by simp)

/-- One more token fits if it is known, closes what is open and opens nothing too deep. -/
theorem fits_append_singleton :
    Fits (tokens ++ [token]) ↔ Fits tokens ∧ token.kind ≠ .unknown ∧
      0 ≤ opened (tokens ++ [token]) ∧
      (token.kind = .opening → opened (tokens ++ [token]) ≤ Draft.maxDepth) := by
  constructor
  · intro h
    refine ⟨⟨?_, ?_, ?_⟩, ?_, h.nonneg _ List.prefix_rfl, ?_⟩
    · intro other hother
      exact h.known other (List.mem_append_left _ hother)
    · intro head hhead
      exact h.nonneg head (hhead.trans (List.prefix_append _ _))
    · rintro ⟨before, parenthesis, hprefix, hdeep⟩
      exact h.shallow ⟨before, parenthesis, hprefix.trans (List.prefix_append _ _), hdeep⟩
    · exact h.known token (List.mem_append_right _ List.mem_cons_self)
    · intro hopening
      by_contra hdeep
      exact h.shallow ⟨tokens, token, List.prefix_rfl, hopening, not_le.1 hdeep⟩
  · rintro ⟨h, hknown, hnonneg, hshallow⟩
    refine ⟨?_, ?_, ?_⟩
    · exact List.forall_mem_append.2 ⟨h.known, List.forall_mem_singleton.2 hknown⟩
    · intro head hhead
      rcases List.prefix_concat_iff.1 hhead with rfl | hhead
      · exact hnonneg
      · exact h.nonneg head hhead
    · rintro ⟨before, parenthesis, hprefix, hopening, hdeep⟩
      rcases List.prefix_concat_iff.1 hprefix with hall | hprefix
      · obtain rfl : parenthesis = token := List.singleton_inj.1 (List.append_inj' hall rfl).2
        rw [hall] at hdeep
        exact absurd hdeep (not_lt.2 (hshallow hopening))
      · exact h.shallow ⟨before, parenthesis, hprefix, hopening, hdeep⟩

end Token

/-! ### Errors in a draft -/

namespace Node

theorem anyHasErrors_eq_any (nodes : List Node) : anyHasErrors nodes = nodes.any hasErrors := by
  induction nodes with
  | nil => rfl
  | cons node rest ih => rw [anyHasErrors, ih, List.any_cons]

theorem hasErrors_branch (kind : NodeKind) (span : Span) (position : Position)
    (children : List Node) :
    (branch kind span position children).hasErrors =
      (kind == .error || children.any hasErrors) := by
  rw [branch, hasErrors, anyHasErrors_eq_any]

theorem hasErrors_leaf (kind : NodeKind) (text : List Char) (span : Span) (position : Position) :
    (leaf kind text span position).hasErrors = (kind == .error) := by
  rw [leaf, hasErrors, anyHasErrors, Bool.or_false]

end Node

namespace Draft

/-- Whether there is an error in what has been read of a block. -/
def Part.hasErrors (part : Part) : Bool :=
  part.done.any (·.hasErrors) || part.items.any (·.hasErrors)

/-- Whether there is an error in what has been read, or will be because of it. -/
def hasErrors (draft : Draft) : Bool :=
  draft.skipped.isSome || draft.inner.hasErrors || draft.outer.any (·.2.hasErrors)

/-- Whether a token cannot be taken up without an error. -/
def refuses (draft : Draft) (token : Token) : Bool :=
  match token.kind with
  | .unknown => true
  | .opening => maxDepth ≤ draft.outer.length
  | .closing => draft.outer.isEmpty
  | _ => false

variable {starts : List Nat}

theorem Part.hasErrors_add (part : Part) (item : Node) :
    (part.add item).hasErrors = (item.hasErrors || part.hasErrors) := by
  simp [add, hasErrors, Bool.or_left_comm]

theorem Part.hasErrors_close (part : Part) : part.close.hasErrors = part.hasErrors := by
  rw [close]
  split
  · simp [hasErrors, Bool.or_comm]
  · cases hitems : part.items.reverse with
    | nil =>
        rw [List.reverse_eq_nil_iff] at hitems
        simp [hasErrors, hitems]
    | cons first rest =>
        have hany : part.items.any (·.hasErrors) = (first :: rest).any (·.hasErrors) := by
          rw [← hitems, List.any_reverse]
        have hstatement : (statementOf first (first :: rest)).hasErrors =
            (first :: rest).any (·.hasErrors) := Node.hasErrors_branch _ _ _ _
        simp only [hasErrors, hany, hstatement, List.any_cons, List.any_nil, Bool.or_false]
        ac_rfl

theorem Part.items_close (part : Part) : part.close.items = [] := by
  rw [close]
  repeat' split
  all_goals rfl

theorem Part.hasErrors_nodes (part : Part) : part.nodes.any (·.hasErrors) = part.hasErrors := by
  rw [← hasErrors_close, nodes, List.any_reverse, hasErrors]
  simp [items_close]

theorem hasErrors_add (draft : Draft) (item : Node) :
    (draft.add item).hasErrors = (draft.hasErrors || item.hasErrors) := by
  simp only [add, hasErrors, Part.hasErrors_add]
  ac_rfl

/-- A block that is passed over leaves an error. -/
theorem hasErrors_skip (draft : Draft) (skipped : Skipped) (token : Token) :
    (draft.skip starts skipped token).hasErrors = true := by
  unfold skip
  extract_lets nesting passed
  split
  · rw [hasErrors_add, skippedLeaf, Node.hasErrors_leaf]
    exact Bool.or_true _
  · rfl

/-- A draft gets an error by the tokens that it refuses, and never loses one. -/
theorem hasErrors_step (draft : Draft) (token : Token) :
    (draft.step starts token).hasErrors = false ↔
      draft.hasErrors = false ∧ draft.refuses token = false := by
  cases hskipped : draft.skipped with
  | some skipped =>
      have hdraft : draft.hasErrors = true := by simp [hasErrors, hskipped]
      rw [step, hskipped]
      simp [hasErrors_skip, hdraft]
  | none =>
      have hleaf (kind : NodeKind) : (draft.add (leafOf starts kind token)).hasErrors = false ↔
          draft.hasErrors = false ∧ (kind == .error) = false := by
        rw [hasErrors_add, leafOf, Node.hasErrors_leaf, Bool.or_eq_false_iff]
      rw [step, hskipped, refuses]
      dsimp only
      cases token.kind with
      | semicolon => simp [hasErrors, hskipped, Part.hasErrors_close]
      | opening =>
          dsimp only
          split
          · simp_all [hasErrors]
          · simp_all [hasErrors, Part.hasErrors]
      | closing =>
          cases houter : draft.outer with
          | nil => simpa using hleaf .error
          | cons block outer =>
              simp [hasErrors, hskipped, houter, Part.hasErrors_add, blockOf,
                Node.hasErrors_branch, Part.hasErrors_nodes, and_assoc]
      | _ => exact hleaf _

/-- A token that is not refused opens or closes at most one block. -/
theorem length_outer_step {draft : Draft} {token : Token} (hskipped : draft.skipped = none)
    (hrefuses : draft.refuses token = false) :
    ((draft.step starts token).outer.length : Int) =
      draft.outer.length + Token.opened [token] := by
  rw [Token.opened_singleton]
  rw [refuses] at hrefuses
  rw [step, hskipped]
  cases hkind : token.kind with
  | opening =>
      simp only [hkind, decide_eq_false_iff_not] at hrefuses
      dsimp only
      rw [if_neg hrefuses, List.length_cons, Int.natCast_succ]
  | closing =>
      simp only [hkind, List.isEmpty_eq_false_iff] at hrefuses
      cases houter : draft.outer with
      | nil => exact absurd houter hrefuses
      | cons block outer =>
          dsimp only
          rw [List.length_cons]
          omega
  | _ => exact (Int.add_zero _).symm

/-- The error that a missing parenthesis is stands in every block that is left open. -/
theorem hasErrors_closeAll (stop : Nat) (inner : Part) (outer : List (Token × Part)) :
    (closeAll starts stop inner outer).any (·.hasErrors) =
      (inner.hasErrors || !outer.isEmpty) := by
  induction outer generalizing inner with
  | nil => simp [closeAll, Part.hasErrors_nodes]
  | cons block outer ih =>
      have habsent : (Node.absent [')'] stop (.ofOffset starts stop)).hasErrors = true := rfl
      rw [closeAll, ih, Part.hasErrors_add, blockOf, Node.hasErrors_branch]
      simp [habsent]

/-- A tree has no errors if the draft has none and no block is left open. -/
theorem hasErrors_finish (draft : Draft) (stop : Nat) :
    (draft.finish starts stop).any (·.hasErrors) = false ↔
      draft.hasErrors = false ∧ draft.outer = [] := by
  rw [finish]
  cases hskipped : draft.skipped with
  | some skipped =>
      have hdraft : draft.hasErrors = true := by simp [hasErrors, hskipped]
      have hleaf : (skippedLeaf starts skipped).hasErrors = true := Node.hasErrors_leaf _ _ _ _
      simp [hasErrors_closeAll, Part.hasErrors_add, hleaf, hdraft]
  | none =>
      dsimp only
      rw [hasErrors_closeAll, Bool.or_eq_false_iff, Bool.not_eq_false', List.isEmpty_iff]
      constructor
      · rintro ⟨hinner, houter⟩
        exact ⟨by simp [hasErrors, hskipped, hinner, houter], houter⟩
      · rintro ⟨hdraft, houter⟩
        simp only [hasErrors, Bool.or_eq_false_iff] at hdraft
        exact ⟨hdraft.1.2, houter⟩

theorem skipped_eq_none {draft : Draft} (h : draft.hasErrors = false) : draft.skipped = none := by
  simp only [hasErrors, Bool.or_eq_false_iff] at h
  exact Option.isNone_iff_eq_none.1 (Option.isSome_eq_false_iff.1 h.1.1)

/-- A draft refuses a token exactly if it does not fit behind the tokens before it. -/
theorem refuses_eq_false {draft : Draft} {tokens : List Token} {token : Token}
    (houter : (draft.outer.length : Int) = Token.opened tokens) :
    draft.refuses token = false ↔ token.kind ≠ .unknown ∧
      0 ≤ Token.opened (tokens ++ [token]) ∧
      (token.kind = .opening → Token.opened (tokens ++ [token]) ≤ maxDepth) := by
  rw [Token.opened_append, Token.opened_singleton, ← houter, refuses]
  cases token.kind with
  | opening =>
      simp only [decide_eq_false_iff_not, ne_eq, reduceCtorEq, not_false_eq_true, true_and,
        forall_const]
      omega
  | closing =>
      simp only [List.isEmpty_eq_false_iff, ← List.length_pos_iff, ne_eq, reduceCtorEq,
        not_false_eq_true, true_and, false_imp_iff, and_true]
      omega
  | _ => simp

/-- The tokens that a draft takes up without an error are those that fit. -/
theorem hasErrors_foldl_step (starts : List Nat) (tokens : List Token) :
    ((tokens.foldl (step starts) {}).hasErrors = false ↔ Token.Fits tokens) ∧
      ((tokens.foldl (step starts) {}).hasErrors = false →
        ((tokens.foldl (step starts) {}).outer.length : Int) = Token.opened tokens) := by
  induction tokens using List.reverseRecOn with
  | nil => exact ⟨iff_of_true rfl Token.fits_nil, fun _ => rfl⟩
  | append_singleton tokens token ih =>
      rw [List.foldl_append, List.foldl_cons, List.foldl_nil]
      generalize tokens.foldl (step starts) {} = draft at ih ⊢
      obtain ⟨hfits, houter⟩ := ih
      constructor
      · rw [hasErrors_step, Token.fits_append_singleton, ← hfits]
        exact and_congr_right fun hdraft => refuses_eq_false (houter hdraft)
      · intro hstep
        obtain ⟨hdraft, hrefuses⟩ := (hasErrors_step draft token).1 hstep
        rw [length_outer_step (skipped_eq_none hdraft) hrefuses, houter hdraft,
          Token.opened_append]

end Draft

namespace Node

theorem hasErrors_ofSource (source : List Char) :
    (ofSource source).hasErrors = false ↔
      ((Token.scan source).foldl (Draft.step (lineStarts source)) {}).hasErrors = false ∧
        ((Token.scan source).foldl (Draft.step (lineStarts source)) {}).outer = [] := by
  rw [ofSource, hasErrors_branch]
  exact Draft.hasErrors_finish _ _

/-- A tree without errors comes from tokens that fit and leave no block open. -/
theorem hasErrors_ofSource_iff_fits (source : List Char) :
    (ofSource source).hasErrors = false ↔
      Token.Fits (Token.scan source) ∧ Token.opened (Token.scan source) = 0 := by
  obtain ⟨hfits, houter⟩ := Draft.hasErrors_foldl_step (lineStarts source) (Token.scan source)
  rw [hasErrors_ofSource, ← hfits]
  apply and_congr_right
  intro hdraft
  rw [← houter hdraft, Int.natCast_eq_zero, List.length_eq_zero_iff]

end Node

end StackProse
