import Mathlib.Data.List.Nodup
import Mathlib.Data.List.OfFn
import StackProse.Machine.Keyword
import StackProse.Machine.Fault
import StackProse.Proofs.Source.Spelling

/-!
# Expressions and their source

An `Expression` is a tree of literals and builtin words, each word with exactly the operands that
it takes. It has a meaning of its own, `Expression.value`: operands are evaluated from the last to
the first, and the word is applied to their values with the checks of its signature. It also has a
source text, `Expression.source`, in which every word stands before its operands and single blanks
stand between tokens.

The program of that text is a row of items with the operands before the words
(`Program.ofSource_spaced`), and nothing in the row tells where an operand ends.
-/

namespace StackProse

/-! ### What the registry guarantees -/

namespace Builtin

/-- The number of operands that a word takes. -/
def arity (builtin : Builtin) : Nat :=
  builtin.signatures.head?.elim 0 (·.params.length)

/-- All signatures of a word take the same number of operands, and overloaded words take one. -/
theorem arity_of_mem : ∀ builtin ∈ all,
    builtin.signatures.isEmpty = false ∧
      (∀ signature ∈ builtin.signatures, signature.params.length = builtin.arity) ∧
      (builtin.choice.isRight → 0 < builtin.arity) := by
  decide +kernel

/-- Names are spelled as words: a capital and characters of words, or operator characters. They are
in the form under which names are known, and no name is a keyword. -/
theorem name_of_mem : ∀ builtin ∈ all,
    (builtin.name.toList.head?.any Char.isUpper ∧
        builtin.name.toList.tail.all Token.isWordChar ∧
        Token.wordKind builtin.name.toList = .identifier ∨
      builtin.name.toList.isEmpty = false ∧ builtin.name.toList.all Token.isOperatorChar) ∧
    Letter.nameForm builtin.name.toList = builtin.name.toList ∧
    Keyword.ofName? builtin.name = none := by
  decide +kernel

theorem nodup_names : (all.map (·.name)).Nodup := by
  decide +kernel

/-- A word is found by its name. -/
theorem ofName?_name {builtin : Builtin} (h : builtin ∈ all) :
    ofName? builtin.name = some builtin := by
  rw [ofName?]
  cases hfind : all.find? (·.name == builtin.name) with
  | none =>
      have habsent := List.find?_eq_none.1 hfind builtin h
      simp at habsent
  | some found =>
      have hname : found.name = builtin.name := by
        simpa using List.find?_some hfind
      have hmem := List.mem_of_find?_eq_some hfind
      rw [List.inj_on_of_nodup_map nodup_names hmem h hname]

theorem standsAlone_name {builtin : Builtin} (h : builtin ∈ all) :
    Token.StandsAlone .identifier builtin.name.toList := by
  obtain ⟨hspelled, -⟩ := name_of_mem builtin h
  cases hname : builtin.name.toList with
  | nil => simp [hname] at hspelled
  | cons first rest =>
      rw [hname] at hspelled
      simp only [List.head?_cons, Option.any_some, List.tail_cons, List.all_eq_true,
        List.forall_mem_cons] at hspelled
      rcases hspelled with ⟨hfirst, hrest, hkind⟩ | ⟨-, hfirst, hrest⟩
      · rw [← hkind]
        exact Token.standsAlone_word hfirst hrest
      · exact Token.standsAlone_operator hfirst hrest

end Builtin

/-! ### Expressions -/

/-- What a token asks for, apart from its place. -/
inductive Instruction
  | literal (value : Literal)
  | word (name : String)

namespace Instruction

/-- The item does this. -/
def Is : Instruction → Item → Prop
  | literal value, item => item = .literal value
  | word name, item => ∃ span position, item = .word ⟨name, span, position⟩

/-- What is read from a leaf. -/
def ofLeaf? (kind : NodeKind) (text : List Char) : Option Instruction :=
  match kind with
  | .identifier => some (word (String.ofList (Letter.nameForm text)))
  | kind => (Assembly.literalOf? kind text).map literal

/-- The instruction is no keyword. -/
def IsOrdinary : Instruction → Prop
  | literal _ => True
  | word name => Keyword.ofName? name = none

/-- The instruction is no word that declares. -/
def DeclaresNothing : Instruction → Prop
  | literal _ => True
  | word name => Declaration.ofKeyword? name = none

/-- Words that declare are keywords. -/
theorem IsOrdinary.declaresNothing {instruction : Instruction} (h : instruction.IsOrdinary) :
    instruction.DeclaresNothing := by
  cases instruction with
  | literal value => trivial
  | word name =>
      have hdefine : name ≠ "Def" := by
        rintro rfl
        exact nomatch h
      have hbind : name ≠ "Let" := by
        rintro rfl
        exact nomatch h
      rw [DeclaresNothing, Declaration.ofKeyword?, if_neg hdefine, if_neg hbind]

end Instruction

/-- A lexeme with what is read from it. -/
structure Spelling extends Lexeme where
  instruction : Instruction
  reads : Instruction.ofLeaf? (.ofToken kind) text = some instruction

/-- The items do in turn what the spellings say. -/
def Spelling.Follow (spellings : List Spelling) (items : List Item) : Prop :=
  List.Forall₂ (fun item spelling => spelling.instruction.Is item) items spellings

theorem Spelling.Follow.append {first second : List Spelling} {items : List Item}
    (h : Follow (first ++ second) items) :
    ∃ before after, items = before ++ after ∧ Follow first before ∧ Follow second after :=
  ⟨items.take first.length, items.drop first.length, (List.take_append_drop _ _).symm,
    List.forall₂_take_append _ _ _ h, List.forall₂_drop_append _ _ _ h⟩

theorem TokenKind.isItem_identifier : TokenKind.identifier.isItem :=
  rfl

/-- A capital with characters of words behind it spells the word with this name, if no letter of it is
changed where names are read. -/
def Spelling.ofWord (first : Char) (rest : List Char)
    (hchars : first.isUpper ∧ rest.all Token.isWordChar)
    (hkind : Token.wordKind (first :: rest) = .identifier)
    (hform : Letter.nameForm (first :: rest) = first :: rest) : Spelling where
  kind := .identifier
  text := first :: rest
  isItem := TokenKind.isItem_identifier
  alone := hkind ▸ Token.standsAlone_word hchars.1 (List.all_eq_true.1 hchars.2)
  instruction := .word (String.ofList (first :: rest))
  reads := by
    simp only [NodeKind.ofToken, Instruction.ofLeaf?, hform]

/-- The spelling of a literal. -/
def Literal.Spelled.spelling (spelled : Literal.Spelled) : Spelling where
  toLexeme := spelled.lexeme
  instruction := .literal spelled.literal
  reads := by
    have hread := spelled.literalOf?_text
    cases spelled <;> exact congrArg (Option.map Instruction.literal) hread

/-- The spelling of a builtin word. -/
def Builtin.spelling (builtin : Builtin) (h : builtin ∈ Builtin.all) : Spelling where
  kind := .identifier
  text := builtin.name.toList
  isItem := rfl
  alone := Builtin.standsAlone_name h
  instruction := .word builtin.name
  reads := by
    obtain ⟨-, hform, -⟩ := Builtin.name_of_mem builtin h
    simp only [NodeKind.ofToken, Instruction.ofLeaf?, hform, String.ofList_toList]

/-- A literal, or a builtin word with exactly the operands that it takes. -/
inductive Expression
  | literal (spelled : Literal.Spelled)
  | apply (word : Builtin) (hword : word ∈ Builtin.all) (operands : Fin word.arity → Expression)

/-- The results of computations that are carried out from the last to the first. -/
def lastToFirst {ε α : Type} : List (Except ε α) → Except ε (List α)
  | [] => .ok []
  | first :: rest => do
      let results ← lastToFirst rest
      let result ← first
      return result :: results

theorem length_of_lastToFirst {ε α : Type} {computations : List (Except ε α)} {results : List α}
    (h : lastToFirst computations = .ok results) : results.length = computations.length := by
  induction computations generalizing results with
  | nil =>
      obtain rfl := Except.ok.inj h
      rfl
  | cons first rest ih =>
      rw [lastToFirst] at h
      cases hrest : lastToFirst rest with
      | error => simp [hrest, bind, Except.bind] at h
      | ok values =>
          cases first with
          | error => simp [hrest, bind, Except.bind] at h
          | ok value =>
              obtain rfl : value :: values = results := by
                simpa [hrest, bind, Except.bind, pure, Except.pure] using h
              rw [List.length_cons, List.length_cons, ih hrest]

/-- Applies a signature to operands in the order written. The first operand of a wrong type is
refused; where all are right, the word `name` fails if there is no result. -/
def Signature.applyTo (signature : Signature) (heap : Heap) (name : String) (operands : Operands) :
    Except Fault Value :=
  match (signature.params.zip operands).find? fun (param, value) => !param.type.accepts value with
  | some (param, value) => .error ⟨.mismatch param.type.name value.kind, []⟩
  | none =>
      match signature.apply operands with
      | .ok result => .ok result
      | .error failure => .error ⟨.failed (failure.message heap), [.word name]⟩

/-- Applies a word to operands in the order written. An overloaded word is chosen by the first. -/
def Builtin.applyTo (builtin : Builtin) (heap : Heap) (operands : Operands) : Except Fault Value :=
  match builtin.choice, operands with
  | .inl signature, operands => signature.applyTo heap builtin.name operands
  | .inr _, [] => .error ⟨.missingOverload (", ".intercalate builtin.firstTypes), []⟩
  | .inr overloads, first :: rest =>
      match overloads.find? (·.params.head?.any (·.type.accepts first)) with
      | some signature => signature.applyTo heap builtin.name (first :: rest)
      | none => .error ⟨.noOverload (", ".intercalate builtin.firstTypes) first.kind, []⟩

namespace Expression

/-- The value of an expression, or the fault where it has none. The heap is only looked at for the
texts of faults. -/
def value (heap : Heap) : Expression → Except Fault Value
  | literal spelled => .ok (.ofLiteral spelled.literal)
  | apply word _ operands => do
      let values ← lastToFirst (List.ofFn fun i => (operands i).value heap)
      word.applyTo heap values

/-- The tokens of an expression, every word before its operands. -/
def spellings : Expression → List Spelling
  | literal spelled => [spelled.spelling]
  | apply word hword operands =>
      word.spelling hword :: (List.ofFn fun i => (operands i).spellings).flatten

/-- The text of an expression, with single blanks between its tokens. -/
def source (expression : Expression) : List Char :=
  Lexeme.spaced (expression.spellings.map (·.toLexeme))

/-- No word of an expression is a keyword. -/
theorem isOrdinary (expression : Expression) :
    ∀ spelling ∈ expression.spellings, spelling.instruction.IsOrdinary := by
  induction expression with
  | literal spelled =>
      rintro _ (_ | ⟨_, ⟨⟩⟩)
      trivial
  | apply word hword operands ih =>
      intro spelling hspelling
      rcases List.mem_cons.1 hspelling with rfl | hspelling
      · exact (Builtin.name_of_mem word hword).2.2
      · obtain ⟨row, hrow, hspelling⟩ := List.mem_flatten.1 hspelling
        obtain ⟨i, rfl⟩ := List.mem_ofFn.1 hrow
        exact ih i spelling hspelling

end Expression

/-! ### Assembling -/

namespace Assembly

/-- The item of a leaf. -/
theorem itemOf_leaf (userCode : Bool) {spelling : Spelling} {node : Node}
    (h : spelling.toLexeme.Shows node) (state : Assembly) :
    ∃ item, itemOf userCode node state = (some item, state) ∧ spelling.instruction.Is item := by
  obtain ⟨span, position, rfl⟩ := h
  obtain ⟨⟨kind, text, hitem, -⟩, instruction, hreads⟩ := spelling
  cases kind with
  | identifier =>
      obtain rfl : _ = instruction := Option.some.inj hreads
      exact ⟨_, rfl, span, position, rfl⟩
  | number | string | boolean | symbol =>
      simp only [NodeKind.ofToken, Instruction.ofLeaf?, Option.map_eq_some_iff] at hreads
      obtain ⟨literal, hliteral, rfl⟩ := hreads
      refine ⟨.literal literal, ?_, rfl⟩
      simp only [Node.leaf, itemOf, NodeKind.ofToken, Bool.false_eq_true, if_false, hliteral]
      rfl
  | comment | semicolon | opening | closing | unknown => exact absurd hitem (by decide)

/-- The items of leaves, newest first, are in front of those of the nodes behind them. -/
theorem itemsOf_leaves (userCode : Bool) {spellings : List Spelling} {leaves : List Node}
    (h : List.Forall₂ (fun spelling => spelling.toLexeme.Shows) spellings leaves)
    (others : List Node) (read : List Item) (state : Assembly) :
    ∃ items, itemsOf userCode read (leaves ++ others) state =
        itemsOf userCode (items.reverse ++ read) others state ∧
      List.Forall₂ (fun spelling => spelling.instruction.Is) spellings items := by
  induction h generalizing read with
  | nil => exact ⟨[], rfl, .nil⟩
  | cons hshows _ ih =>
      obtain ⟨item, hitem, his⟩ := itemOf_leaf userCode hshows state
      obtain ⟨items, hitems, hall⟩ := ih (item :: read)
      refine ⟨item :: items, ?_, .cons his hall⟩
      rw [List.reverse_cons, List.append_assoc, List.singleton_append, ← hitems, List.cons_append,
        itemsOf]
      simp only [bind, StateT.bind, hitem]

/-- Without words that declare nothing is declared. -/
theorem declare_nothing {spellings : List Spelling} {items : List Item}
    (h : List.Forall₂ (fun spelling => spelling.instruction.Is) spellings items)
    (hnothing : ∀ spelling ∈ spellings, spelling.instruction.DeclaresNothing)
    (declared : Declarations) (next : Option Item) (state : Assembly) :
    declare declared next items state = ((declared, true), state) := by
  induction h generalizing next with
  | nil => rfl
  | @cons spelling item _ _ his _ ih =>
      obtain ⟨hfirst, hrest⟩ := List.forall_mem_cons.1 hnothing
      cases hinstruction : spelling.instruction with
      | literal value =>
          rw [hinstruction] at his
          obtain rfl := his
          exact ih hrest _
      | word name =>
          rw [hinstruction] at his hfirst
          obtain ⟨span, position, rfl⟩ := his
          rw [declare]
          · exact ih hrest _
          · exact hfirst

/-- What fills a block becomes its items in reverse order. -/
theorem partsOf_fill (userCode : Bool) {spellings : List Spelling}
    (hordinary : ∀ spelling ∈ spellings, spelling.instruction.IsOrdinary) {parts : List Node}
    (h : Lexeme.Fill (spellings.map (·.toLexeme)) parts) (state : Assembly) :
    ∃ items, partsOf userCode [] [] parts state = (([], items), state) ∧
      Spelling.Follow spellings.reverse items := by
  rcases h with ⟨hnil, rfl⟩ | ⟨span, position, leaves, rfl, hshows⟩
  · obtain rfl := List.map_eq_nil_iff.1 hnil
    exact ⟨[], rfl, .nil⟩
  · rw [List.forall₂_map_left_iff] at hshows
    obtain ⟨items, hitems, hall⟩ := itemsOf_leaves userCode hshows [] [] state
    rw [List.append_nil, List.append_nil] at hitems
    change _ = (items.reverse, state) at hitems
    have hreverse := List.forall₂_reverse_iff.2 hall
    have hdeclare : declare [] none items.reverse state = (([], true), state) := by
      apply declare_nothing hreverse
      intro spelling hspelling
      exact (hordinary spelling (List.mem_reverse.1 hspelling)).declaresNothing
    refine ⟨items.reverse, ?_, hreverse.flip⟩
    rw [Node.branch]
    simp only [partsOf, bind, StateT.bind, hitems, hdeclare]
    simp [pure, StateT.pure]

end Assembly

/-- The program of a spaced text: its items in reverse order, and no problems. -/
theorem Program.ofSource_spaced (userCode : Bool) {spellings : List Spelling}
    (hordinary : ∀ spelling ∈ spellings, spelling.instruction.IsOrdinary) :
    ∃ items, Program.ofSource userCode (Lexeme.spaced (spellings.map (·.toLexeme))) =
        ⟨.mk (.source 0) userCode [] items, [], false⟩ ∧
      Spelling.Follow spellings.reverse items := by
  have hfill := Node.fill_ofSource_spaced (spellings.map (·.toLexeme))
  obtain ⟨items, hparts, hfollow⟩ :=
    Assembly.partsOf_fill userCode hordinary hfill { blocks := 1 }
  refine ⟨items, ?_, hfollow⟩
  rw [Program.ofSource, Program.ofNode, Assembly.rootOf]
  simp only [StateT.run, bind, StateT.bind, Assembly.freshIndex, modifyGet, MonadStateOf.modifyGet,
    StateT.modifyGet, pure, StateT.pure, hparts, List.reverse_nil]

end StackProse
