import StackProse.Proofs.Source.Fitting

/-!
# The grammar of source texts

A file and a block are statements with semicolons between them. A statement is made of items: words
and literals, comments, and blocks in parentheses. `Node.Parts` and `Node.Items` say which trees
tokens stand for, without regard to how a tree is built. What lies between two semicolons is one
statement, unless it has nothing but comments in it (`Node.Segment`).

`Node.ofSource_grammar` compares trees with the grammar. A tree has errors exactly if its tokens do
not fit, and a tree without errors is one that the grammar gives to the tokens. To walk through it
is to meet all tokens but the semicolons again (`Node.written`). The proof follows the draft that
the tokens fill one by one: `Draft.Follows` says what the parts of a draft are that is not spoiled.
-/

namespace StackProse

namespace Token

/-! ### Parentheses -/

/-- Parentheses are single characters. -/
structure Spelled (token : Token) : Prop where
  opening : token.kind = .opening → token.text = ['(']
  closing : token.kind = .closing → token.text = [')']

theorem wordKind_ne {kind : TokenKind} (text : List Char)
    (hcomment : kind ≠ .comment) (hboolean : kind ≠ .boolean) (hidentifier : kind ≠ .identifier) :
    wordKind text ≠ kind := by
  rw [wordKind]
  split
  · exact hcomment.symm
  · split
    · exact hboolean.symm
    · exact hidentifier.symm

theorem take_of_single {c : Char} {text : List Char} {size : Nat}
    (h : single c text = some size) : text.take size = [c] := by
  unfold single at h
  split at h
  · split at h
    · rename_i hc
      cases h
      simp [hc]
    · contradiction
  · contradiction

theorem spelled_lexeme (text : List Char) (start : Nat) :
    Spelled ⟨(lexeme text).1, text.take (lexeme text).2, start⟩ := by
  have hword (size : Nat) : wordKind (text.take size) ≠ .opening ∧
      wordKind (text.take size) ≠ .closing :=
    ⟨wordKind_ne _ nofun nofun nofun, wordKind_ne _ nofun nofun nofun⟩
  constructor
  · dsimp only
    unfold lexeme
    repeat' split
    all_goals first
      | exact fun h => absurd h (hword _).1
      | exact fun _ => take_of_single (by assumption)
      | exact nofun
  · dsimp only
    unfold lexeme
    repeat' split
    all_goals first
      | exact fun h => absurd h (hword _).2
      | exact fun _ => take_of_single (by assumption)
      | exact nofun

theorem spelled_scanFrom {offset : Nat} {text : List Char} {found : List Token}
    (hfound : ∀ token ∈ found, token.Spelled) :
    ∀ token ∈ scanFrom offset text found, token.Spelled := by
  fun_induction scanFrom offset text found with
  | case1 offset found =>
      intro token htoken
      exact hfound token (List.mem_reverse.1 htoken)
  | case2 offset found c rest hblank ih => exact ih hfound
  | case3 offset found c rest hblank first taken ih =>
      exact ih (List.forall_mem_cons.2 ⟨spelled_lexeme _ _, hfound⟩)

theorem spelled_scan (source : List Char) : ∀ token ∈ scan source, token.Spelled :=
  spelled_scanFrom (List.forall_mem_nil _)

end Token

/-! ### The grammar -/

namespace NodeKind

/-- The kind of the tokens that become leaves of a kind. -/
def toToken : NodeKind → TokenKind
  | identifier => .identifier
  | number => .number
  | string => .string
  | boolean => .boolean
  | symbol => .symbol
  | comment => .comment
  | sourceFile | statement | block | error => .unknown

end NodeKind

namespace Node

mutual

/-- The tokens met on a walk through a tree: those of the leaves, and parentheses around each
block. -/
def written : Node → List Token
  | mk .block _ span _ _ children =>
      ⟨.opening, ['('], span.start⟩ :: (writtenAll children ++ [⟨.closing, [')'], span.stop - 1⟩])
  | mk .statement _ _ _ _ children | mk .sourceFile _ _ _ _ children => writtenAll children
  | mk kind text span _ _ _ => [⟨kind.toToken, text, span.start⟩]

/-- The tokens met on a walk through trees in order. -/
def writtenAll : List Node → List Token
  | [] => []
  | node :: rest => node.written ++ writtenAll rest

end

/-- What the items between two semicolons are in the tree: comments stand as they are, and nothing
for no items, but as soon as there is something else, all items are one statement. -/
inductive Segment : List Node → List Node → Prop
  | comments {items : List Node} : (∀ item ∈ items, item.kind = .comment) → Segment items items
  | statement {items : List Node} {first last : Node} : items.head? = some first →
      items.getLast? = some last → (∃ item ∈ items, item.kind ≠ .comment) →
      Segment items
        [.branch .statement ⟨first.span.start, last.span.stop⟩ first.position items]

mutual

/-- The tokens make up the items, in a text whose lines begin at `starts`. -/
inductive Items (starts : List Nat) : List Token → List Node → Prop
  | nil : Items starts [] []
  | leaf {tokens : List Token} {items : List Node} {token : Token} : Items starts tokens items →
      NodeKind.ofToken token.kind ≠ .error →
      Items starts (tokens ++ [token])
        (items ++ [.leaf (.ofToken token.kind) token.text token.span
          (.ofOffset starts token.start)])
  | block {tokens inner : List Token} {items children : List Node} {start stop : Nat} :
      Items starts tokens items → Parts starts inner children →
      Items starts
        (tokens ++ ⟨.opening, ['('], start⟩ :: (inner ++ [⟨.closing, [')'], stop⟩]))
        (items ++ [.branch .block ⟨start, stop + 1⟩ (.ofOffset starts start) children])

/-- The tokens make up the parts of a block or a file. -/
inductive Parts (starts : List Nat) : List Token → List Node → Prop
  | first {tokens : List Token} {items nodes : List Node} : Items starts tokens items →
      Segment items nodes → Parts starts tokens nodes
  | next {before tokens : List Token} {parts items nodes : List Node} {semicolon : Token} :
      Parts starts before parts → semicolon.kind = .semicolon → Items starts tokens items →
      Segment items nodes → Parts starts (before ++ semicolon :: tokens) (parts ++ nodes)

end

theorem writtenAll_append (first second : List Node) :
    writtenAll (first ++ second) = writtenAll first ++ writtenAll second := by
  induction first with
  | nil => rfl
  | cons node rest ih => rw [List.cons_append, writtenAll, ih, writtenAll, List.append_assoc]

theorem writtenAll_singleton (node : Node) : writtenAll [node] = node.written :=
  List.append_nil _

theorem written_block (span : Span) (position : Position) (children : List Node) :
    (branch .block span position children).written =
      ⟨.opening, ['('], span.start⟩ ::
        (writtenAll children ++ [⟨.closing, [')'], span.stop - 1⟩]) := by
  rw [branch, written]

theorem Segment.writtenAll_eq {items nodes : List Node} (h : Segment items nodes) :
    writtenAll nodes = writtenAll items := by
  cases h with
  | comments => rfl
  | statement => exact List.append_nil _

theorem written_leaf {token : Token} (h : NodeKind.ofToken token.kind ≠ .error)
    (position : Position) :
    (leaf (.ofToken token.kind) token.text token.span position).written = [token] := by
  obtain ⟨kind, text, start⟩ := token
  cases kind with
  | semicolon | opening | closing | unknown => exact absurd rfl h
  | _ => rfl

mutual

theorem Items.writtenAll_eq {starts : List Nat} {tokens : List Token} {items : List Node} :
    Items starts tokens items → writtenAll items = tokens.filter (·.kind != .semicolon)
  | .nil => rfl
  | @Items.leaf _ tokens items token hitems hleaf => by
      have hkept : [token].filter (·.kind != .semicolon) = [token] := by
        rw [List.filter_eq_self]
        intro other hother
        rw [List.mem_singleton.1 hother, bne_iff_ne]
        intro hsemicolon
        exact hleaf (by rw [hsemicolon]; rfl)
      rw [writtenAll_append, hitems.writtenAll_eq, List.filter_append, hkept,
        writtenAll_singleton, written_leaf hleaf]
  | .block hitems hparts => by
      rw [writtenAll_append, hitems.writtenAll_eq, List.filter_append,
        List.filter_cons_of_pos rfl, List.filter_append, ← hparts.writtenAll_eq,
        writtenAll_singleton, written_block]
      rfl

theorem Parts.writtenAll_eq {starts : List Nat} {tokens : List Token} {nodes : List Node} :
    Parts starts tokens nodes → writtenAll nodes = tokens.filter (·.kind != .semicolon)
  | .first hitems hsegment => hsegment.writtenAll_eq.trans hitems.writtenAll_eq
  | .next hparts hsemicolon hitems hsegment => by
      rw [writtenAll_append, hparts.writtenAll_eq, hsegment.writtenAll_eq, hitems.writtenAll_eq,
        List.filter_append, List.filter_cons_of_neg (by simp [hsemicolon])]

end

end Node

namespace Draft

variable {starts : List Nat}

/-! ### What a draft has read -/

/-- The tokens make up what has been read of a block: its finished parts, up to a semicolon, and
the items behind that. -/
inductive Part.Reads (starts : List Nat) : Part → List Token → Prop
  | first {tokens : List Token} {items : List Node} : Node.Items starts tokens items.reverse →
      Reads starts ⟨[], items⟩ tokens
  | next {before tokens : List Token} {done items : List Node} {semicolon : Token} :
      Node.Parts starts before done.reverse → semicolon.kind = .semicolon →
      Node.Items starts tokens items.reverse →
      Reads starts ⟨done, items⟩ (before ++ semicolon :: tokens)

/-- The tokens make up what has been read of the innermost open block and of those around it. -/
inductive Follows (starts : List Nat) : Part → List (Token × Part) → List Token → Prop
  | file {inner : Part} {tokens : List Token} : inner.Reads starts tokens →
      Follows starts inner [] tokens
  | block {inner around : Part} {outer : List (Token × Part)} {before tokens : List Token}
      {start : Nat} : Follows starts around outer before → inner.Reads starts tokens →
      Follows starts inner ((⟨.opening, ['('], start⟩, around) :: outer)
        (before ++ ⟨.opening, ['('], start⟩ :: tokens)

namespace Part

variable {part : Part} {tokens : List Token}

theorem reads_empty : Reads starts {} [] :=
  .first .nil

/-- The items of a part become one segment where the part is closed. -/
theorem exists_segment (part : Part) :
    ∃ nodes, Node.Segment part.items.reverse nodes ∧
      part.close = { done := nodes.reverse ++ part.done } := by
  by_cases hcomments : part.items.all (·.kind == .comment)
  · refine ⟨part.items.reverse, .comments ?_, ?_⟩
    · intro item hitem
      exact eq_of_beq (List.all_eq_true.1 hcomments item (List.mem_reverse.1 hitem))
    · rw [close, if_pos hcomments, List.reverse_reverse]
  · rw [close, if_neg hcomments]
    have hsome : ∃ item ∈ part.items.reverse, item.kind ≠ .comment := by
      simpa using hcomments
    cases hitems : part.items.reverse with
    | nil =>
        rw [hitems] at hsome
        obtain ⟨item, hitem, -⟩ := hsome
        exact absurd hitem List.not_mem_nil
    | cons first rest =>
        rw [hitems] at hsome
        have hlast : (first :: rest).getLast? = some ((first :: rest).getLastD first) := rfl
        exact ⟨_, .statement rfl hlast hsome, rfl⟩

theorem Reads.parts_nodes (h : part.Reads starts tokens) : Node.Parts starts tokens part.nodes := by
  obtain ⟨segment, hsegment, hclose⟩ := part.exists_segment
  rw [nodes, hclose]
  cases h with
  | first hitems =>
      rw [List.append_nil, List.reverse_reverse]
      exact .first hitems hsegment
  | next hparts hsemicolon hitems =>
      rw [List.reverse_append, List.reverse_reverse]
      exact .next hparts hsemicolon hitems hsegment

theorem Reads.close (h : part.Reads starts tokens) {semicolon : Token}
    (hsemicolon : semicolon.kind = .semicolon) :
    part.close.Reads starts (tokens ++ [semicolon]) := by
  have hparts := h.parts_nodes
  obtain ⟨segment, -, hclose⟩ := part.exists_segment
  rw [nodes, hclose] at hparts
  rw [hclose]
  exact .next hparts hsemicolon .nil

/-- What a part reads goes on with one more item. -/
theorem Reads.add (h : part.Reads starts tokens) {more : List Token} {item : Node}
    (hitem : ∀ {own : List Token} {items : List Node}, Node.Items starts own items →
      Node.Items starts (own ++ more) (items ++ [item])) :
    (part.add item).Reads starts (tokens ++ more) := by
  cases h with
  | first hitems =>
      apply Reads.first
      rw [List.reverse_cons]
      exact hitem hitems
  | next hparts hsemicolon hitems =>
      rw [List.append_assoc, List.cons_append]
      apply Reads.next hparts hsemicolon
      rw [List.reverse_cons]
      exact hitem hitems

end Part

/-- Where the innermost block goes on, the blocks around it stay as they are. -/
theorem Follows.extend {inner later : Part} {outer : List (Token × Part)}
    {tokens more : List Token} (h : Follows starts inner outer tokens)
    (hlater : ∀ own, inner.Reads starts own → later.Reads starts (own ++ more)) :
    Follows starts later outer (tokens ++ more) := by
  cases h with
  | file hinner => exact .file (hlater _ hinner)
  | block haround hinner =>
      rw [List.append_assoc, List.cons_append]
      exact .block haround (hlater _ hinner)

/-- A token that is not refused is added to what the draft follows. -/
theorem Follows.step {draft : Draft} {tokens : List Token} {token : Token}
    (h : Follows starts draft.inner draft.outer tokens) (hskipped : draft.skipped = none)
    (hspelled : token.Spelled) (hrefuses : draft.refuses token = false) :
    Follows starts (draft.step starts token).inner (draft.step starts token).outer
      (tokens ++ [token]) := by
  rw [refuses] at hrefuses
  rw [Draft.step, hskipped]
  dsimp only
  have hleaf (hkind : NodeKind.ofToken token.kind ≠ .error) :
      Follows starts (draft.add (leafOf starts (.ofToken token.kind) token)).inner draft.outer
        (tokens ++ [token]) :=
    h.extend fun _ hreads => hreads.add fun hitems => .leaf hitems hkind
  cases hkind : token.kind with
  | semicolon => exact h.extend fun _ hreads => hreads.close hkind
  | opening =>
      have htext := hspelled.opening hkind
      obtain ⟨kind, text, start⟩ := token
      obtain rfl : kind = .opening := hkind
      obtain rfl : text = ['('] := htext
      dsimp only at hrefuses ⊢
      rw [if_neg (of_decide_eq_false hrefuses)]
      exact .block h Part.reads_empty
  | closing =>
      have htext := hspelled.closing hkind
      obtain ⟨kind, text, stop⟩ := token
      obtain rfl : kind = .closing := hkind
      obtain rfl : text = [')'] := htext
      generalize draft.outer = outer at h hrefuses ⊢
      cases h with
      | file hinner => contradiction
      | block haround hinner =>
          rw [List.append_assoc, List.cons_append]
          exact haround.extend fun _ hreads => hreads.add fun hitems =>
            .block hitems hinner.parts_nodes
  | unknown => rw [hkind] at hrefuses; contradiction
  | _ =>
      rw [hkind] at hleaf
      exact hleaf (by decide)

/-- A draft without errors follows all tokens that it has taken up. -/
theorem follows_foldl_step (starts : List Nat) {tokens : List Token}
    (hspelled : ∀ token ∈ tokens, token.Spelled)
    (h : (tokens.foldl (step starts) {}).hasErrors = false) :
    Follows starts (tokens.foldl (step starts) {}).inner (tokens.foldl (step starts) {}).outer
      tokens := by
  induction tokens using List.reverseRecOn with
  | nil => exact .file Part.reads_empty
  | append_singleton tokens token ih =>
      rw [List.foldl_append, List.foldl_cons, List.foldl_nil] at h ⊢
      rw [List.forall_mem_append, List.forall_mem_singleton] at hspelled
      obtain ⟨hdraft, hrefuses⟩ := (hasErrors_step _ token).1 h
      exact (ih hspelled.1 hdraft).step (skipped_eq_none hdraft) hspelled.2 hrefuses

end Draft

namespace Node

variable {source : List Char}

/-- The grammar gives a tree without errors to the tokens it comes from. -/
theorem parts_ofSource (h : (ofSource source).hasErrors = false) :
    Parts (lineStarts source) (Token.scan source) (ofSource source).children := by
  obtain ⟨hdraft, houter⟩ := (hasErrors_ofSource source).1 h
  have hfollows := Draft.follows_foldl_step (lineStarts source) (Token.spelled_scan source) hdraft
  rw [houter] at hfollows
  rw [ofSource, branch, children, Draft.finish, Draft.skipped_eq_none hdraft, houter]
  cases hfollows with
  | file hreads => exact hreads.parts_nodes

/-- The tree of a text has errors exactly if the tokens do not fit the grammar. If it has none, the
grammar gives this tree to the tokens, and a walk through it meets them all but the semicolons. -/
theorem ofSource_grammar (source : List Char) :
    ((ofSource source).hasErrors = true ↔
      (∃ token ∈ Token.scan source, token.kind = .unknown) ∨
        ¬ Token.Balanced (Token.scan source) ∨ Token.NestsTooDeep (Token.scan source)) ∧
    ((ofSource source).hasErrors = false →
      Parts (lineStarts source) (Token.scan source) (ofSource source).children ∧
        (ofSource source).written = (Token.scan source).filter (·.kind != .semicolon)) := by
  constructor
  · rw [← Bool.not_eq_false, hasErrors_ofSource_iff_fits]
    constructor
    · intro hunfit
      by_contra hnone
      simp only [not_or, not_exists, not_and, not_not] at hnone
      obtain ⟨hknown, hbalanced, hshallow⟩ := hnone
      exact hunfit ⟨⟨hknown, hbalanced.nonneg, hshallow⟩, hbalanced.opened_eq⟩
    · rintro hbroken ⟨hfits, hopened⟩
      rcases hbroken with ⟨token, htoken, hunknown⟩ | hbalanced | hdeep
      · exact hfits.known token htoken hunknown
      · exact hbalanced ⟨hfits.nonneg, hopened⟩
      · exact hfits.shallow hdeep
  · intro h
    have hparts := parts_ofSource h
    refine ⟨hparts, ?_⟩
    rw [← hparts.writtenAll_eq]
    rfl

/-- A text with blocks in a block, comments, empty statements and a comment that stands alone. -/
theorem ofSource_grammar_blocks :
    (ofSource "Let X (Print (1 ~one~); prose; ;); X".toList).hasErrors = false ∧
      Parts (lineStarts "Let X (Print (1 ~one~); prose; ;); X".toList)
        (Token.scan "Let X (Print (1 ~one~); prose; ;); X".toList)
        (ofSource "Let X (Print (1 ~one~); prose; ;); X".toList).children ∧
      (ofSource "Let X (Print (1 ~one~); prose; ;); X".toList).written =
        (Token.scan "Let X (Print (1 ~one~); prose; ;); X".toList).filter
          (·.kind != .semicolon) := by
  have hnone : (ofSource "Let X (Print (1 ~one~); prose; ;); X".toList).hasErrors = false := by
    decide +kernel
  exact ⟨hnone, (ofSource_grammar _).2 hnone⟩

end Node

end StackProse
