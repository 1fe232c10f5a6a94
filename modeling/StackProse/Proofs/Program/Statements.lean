import Mathlib.Data.List.Forall2
import StackProse.Proofs.Program.Placed

/-!
# Statements and what they declare

What is wrong with a source can be read off its tree. A declaring word has to stand right before a
name, comments apart (`Node.LacksName`), and no block may declare a name twice in its own statements
(`Node.declarations`). A node without such a fault that is no error either is `Node.Sound`.

The items of a statement run in reverse order. `Item.declarations?_reverse` compares the two orders:
where no name is lacking, the items that nodes become declare what the nodes declare.
-/

namespace StackProse

namespace Node

mutual

/-- A node and all nodes below it, in the order of the text. -/
def walk : Node → List Node
  | mk kind text span position missing children =>
      mk kind text span position missing children :: walkAll children

/-- The nodes and all nodes below them, in the order of the text. -/
def walkAll : List Node → List Node
  | [] => []
  | node :: rest => node.walk ++ walkAll rest

end

/-- Whether the node is a block or a file. -/
def isBlock (node : Node) : Bool :=
  node.kind == .block || node.kind == .sourceFile

/-- The blocks of a tree, in the order in which they begin. The file is one of them. -/
def blocks (node : Node) : List Node :=
  node.walk.filter isBlock

/-- The items of a statement, without the comments. -/
def items (statement : Node) : List Node :=
  statement.children.filter (·.kind != .comment)

/-- The statements of a block, without those of the blocks in it. -/
def statements (block : Node) : List Node :=
  block.children.filter (·.kind == .statement)

/-- The word that an identifier is, under the name by which it is known. -/
def word? (node : Node) : Option Word :=
  if node.kind = .identifier then
    some ⟨String.ofList (Letter.nameForm node.text), node.span, node.position⟩
  else none

/-- The declaration that a declaring word makes. -/
def declaration? (node : Node) : Option Declaration :=
  node.word?.bind fun word => Declaration.ofKeyword? word.name

/-- The declaration that two items make which stand side by side. -/
def pairDeclaration? (keyword name : Node) : Option (String × Declaration) :=
  keyword.declaration?.bind fun declaration => name.word?.map fun word => (word.name, declaration)

/-- The names that stand right behind a declaring word, with what they are declared as. -/
def declaredBy (items : List Node) : Declarations :=
  (items.zip items.tail).filterMap fun pair => pairDeclaration? pair.1 pair.2

/-- The names that a block declares in its own statements. -/
def declarations (block : Node) : Declarations :=
  block.statements.flatMap fun statement => declaredBy statement.items

/-- The nodes of a block in the order in which they run: statement by statement, each from its
end. -/
def inRunOrder (block : Node) : List Node :=
  block.statements.flatMap fun statement => statement.items.reverse

/-- Some declaring word among the items is not followed by an identifier. -/
def LacksName (items : List Node) : Prop :=
  ∃ keyword rest, keyword :: rest <:+ items ∧ keyword.declaration?.isSome ∧
    ∀ next ∈ rest.head?, next.kind ≠ .identifier

/-- A node by itself is no reason to refuse a program. -/
structure Sound (node : Node) : Prop where
  known : node.kind ≠ .error
  named : node.kind = .statement → ¬ LacksName node.items
  nodup : node.isBlock → (node.declarations.map (·.1)).Nodup

theorem walk_eq (node : Node) : node.walk = node :: walkAll node.children := by
  obtain ⟨kind, text, span, position, missing, children⟩ := node
  rw [walk]
  rfl

theorem not_sound_iff {node : Node} :
    ¬ node.Sound ↔ node.kind = .error ∨ (node.kind = .statement ∧ LacksName node.items) ∨
      (node.isBlock ∧ ¬ (node.declarations.map (·.1)).Nodup) := by
  constructor
  · intro h
    by_contra hnone
    simp only [not_or, not_and, not_not] at hnone
    exact h ⟨hnone.1, hnone.2.1, hnone.2.2⟩
  · intro h hsound
    rcases h with herror | ⟨hstatement, hlacks⟩ | ⟨hblock, htwice⟩
    · exact hsound.known herror
    · exact hsound.named hstatement hlacks
    · exact htwice (hsound.nodup hblock)

/-! ### Items in a row -/

section

variable {node keyword name : Node} {rest : List Node}

theorem word?_eq_none (h : node.kind ≠ .identifier) : node.word? = none :=
  if_neg h

theorem declaration?_eq_none (h : node.kind ≠ .identifier) : node.declaration? = none := by
  rw [declaration?, word?_eq_none h, Option.bind_none]

theorem kind_of_word? {word : Word} (h : node.word? = some word) : node.kind = .identifier := by
  by_contra hkind
  rw [word?_eq_none hkind] at h
  contradiction

theorem lacksName_cons :
    LacksName (keyword :: rest) ↔
      (keyword.declaration?.isSome ∧ ∀ next ∈ rest.head?, next.kind ≠ .identifier) ∨
        LacksName rest := by
  constructor
  · intro h
    obtain ⟨word, behind, hsuffix, hlacks⟩ := h
    rcases List.suffix_cons_iff.1 hsuffix with hall | hsuffix
    · obtain ⟨rfl, rfl⟩ := List.cons.inj hall
      exact Or.inl hlacks
    · exact Or.inr ⟨word, behind, hsuffix, hlacks⟩
  · intro h
    rcases h with hlacks | ⟨word, behind, hsuffix, hlacks⟩
    · exact ⟨keyword, rest, List.suffix_rfl, hlacks⟩
    · exact ⟨word, behind, hsuffix.trans (List.suffix_cons _ _), hlacks⟩

theorem not_lacksName_nil : ¬ LacksName [] := by
  intro h
  obtain ⟨keyword, rest, hsuffix, -⟩ := h
  exact absurd (List.suffix_nil.1 hsuffix) (List.cons_ne_nil _ _)

theorem declaredBy_cons :
    declaredBy (keyword :: rest) =
      (rest.head?.bind (pairDeclaration? keyword)).toList ++ declaredBy rest := by
  cases rest with
  | nil => rfl
  | cons name more =>
      rw [declaredBy, declaredBy]
      simp only [List.tail_cons, List.zip_cons_cons, List.filterMap_cons, List.head?_cons,
        Option.bind_some]
      cases pairDeclaration? keyword name <;> rfl

end

/-! ### Items of nodes -/

/-- What a node becomes in a body. A block becomes some block. -/
def Becomes (node : Node) : Item → Prop
  | .word word => node.word? = some word
  | .literal literal => Assembly.literalOf? node.kind node.text = some literal
  | .block _ => node.kind = .block

/-- Only identifiers become words. -/
theorem Becomes.kind_ne {node : Node} {item : Item} (h : node.Becomes item)
    (hitem : ∀ word, item ≠ .word word) : node.kind ≠ .identifier := by
  intro hkind
  cases item with
  | word word => exact hitem word rfl
  | literal | block =>
      rw [Becomes, hkind] at h
      contradiction

end Node

namespace Item

/-- What items declare goes on with the items behind them. -/
theorem declarations?_append_eq (last : Option Item) (items more : List Item) :
    declarations? last (items ++ more) =
      (declarations? last items).bind fun declared =>
        (declarations? (items.getLast?.or last) more).map (declared ++ ·) := by
  induction items generalizing last with
  | nil =>
      have hsame : (declarations? last more).map ([] ++ ·) = declarations? last more := by
        cases declarations? last more <;> rfl
      exact hsame.symm
  | cons item rest ih =>
      have hlast : (item :: rest).getLast?.or last = rest.getLast?.or (some item) := by
        rw [List.getLast?_cons]
        cases rest.getLast? <;> rfl
      rw [List.cons_append, hlast]
      cases item with
      | literal | block => exact ih _
      | word keyword =>
          cases hkeyword : Declaration.ofKeyword? keyword.name with
          | none =>
              rw [declarations?_word hkeyword, declarations?_word hkeyword]
              exact ih _
          | some declaration =>
              cases last with
              | none => simp [declarations?, hkeyword]
              | some before =>
                  cases before with
                  | literal | block => simp [declarations?, hkeyword]
                  | word name =>
                      simp only [declarations?, hkeyword, ih]
                      cases declarations? (some (.word keyword)) rest with
                      | none => rfl
                      | some declared =>
                          cases declarations? (rest.getLast?.or (some (.word keyword))) more <;> rfl

/-- What one more item in front of a statement, which is one more item behind its reverse,
declares. -/
theorem declarations?_singleton {keyword : Node} {item : Item} (hitem : keyword.Becomes item)
    {nodes : List Node} {items : List Item} (hitems : List.Forall₂ Node.Becomes nodes items)
    {declared : Declarations} :
    declarations? items.head? [item] = some declared ↔
      ¬ (keyword.declaration?.isSome ∧ ∀ next ∈ nodes.head?, next.kind ≠ .identifier) ∧
        declared = (nodes.head?.bind (Node.pairDeclaration? keyword)).toList := by
  cases item with
  | literal | block =>
      have hkeyword := Node.declaration?_eq_none (hitem.kind_ne (by simp))
      have hpair : nodes.head?.bind (Node.pairDeclaration? keyword) = none := by
        simp [Node.pairDeclaration?, hkeyword]
      simp [declarations?, hkeyword, hpair, eq_comm]
  | word word =>
      have hword : keyword.word? = some word := hitem
      have hkeyword : keyword.declaration? = Declaration.ofKeyword? word.name := by
        rw [Node.declaration?, hword, Option.bind_some]
      cases hdeclares : Declaration.ofKeyword? word.name with
      | none =>
          have hpair : nodes.head?.bind (Node.pairDeclaration? keyword) = none := by
            simp [Node.pairDeclaration?, hkeyword, hdeclares]
          simp [declarations?, hkeyword, hdeclares, hpair, eq_comm]
      | some declaration =>
          cases hitems with
          | nil => simp [declarations?, hkeyword, hdeclares]
          | @cons next first nodes items hfirst hrest =>
              cases first with
              | literal | block =>
                  have hnext := Node.Becomes.kind_ne hfirst (by simp)
                  simp [declarations?, hkeyword, hdeclares, hnext]
              | word name =>
                  have hname : next.word? = some name := hfirst
                  simp [declarations?, hkeyword, hdeclares, Node.kind_of_word? hname,
                    Node.pairDeclaration?, hname, eq_comm]

/-- A statement that runs from its end declares, in reverse, the names behind its declaring words,
unless one of them lacks a name. -/
theorem declarations?_reverse {nodes : List Node} {items : List Item}
    (h : List.Forall₂ Node.Becomes nodes items) {declared : Declarations} :
    declarations? none items.reverse = some declared ↔
      ¬ Node.LacksName nodes ∧ declared = (Node.declaredBy nodes).reverse := by
  induction h generalizing declared with
  | nil =>
      simp only [List.reverse_nil, declarations?, Option.some.injEq, Node.not_lacksName_nil,
        not_false_eq_true, true_and]
      exact eq_comm
  | @cons keyword item nodes items hitem hitems ih =>
      rw [List.reverse_cons, declarations?_append_eq, List.getLast?_reverse, Option.or_none,
        Option.bind_eq_some_iff, Node.lacksName_cons, Node.declaredBy_cons, not_or,
        List.reverse_append]
      have hpair (found : Option (String × Declaration)) : found.toList.reverse = found.toList := by
        cases found <;> rfl
      rw [hpair]
      constructor
      · intro hdeclared
        obtain ⟨behind, hbehind, hmore⟩ := hdeclared
        obtain ⟨own, hown, rfl⟩ := Option.map_eq_some_iff.1 hmore
        obtain ⟨hnamed, rfl⟩ := ih.1 hbehind
        obtain ⟨hfirst, rfl⟩ := (declarations?_singleton hitem hitems).1 hown
        exact ⟨⟨hfirst, hnamed⟩, rfl⟩
      · intro hnamed
        obtain ⟨⟨hfirst, hbehind⟩, rfl⟩ := hnamed
        refine ⟨_, ih.2 ⟨hbehind, rfl⟩, ?_⟩
        rw [(declarations?_singleton hitem hitems).2 ⟨hfirst, rfl⟩]
        rfl

end Item

end StackProse
