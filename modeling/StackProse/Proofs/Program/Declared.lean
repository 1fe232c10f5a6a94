import StackProse.Program.References
import StackProse.Proofs.Program.Placed

/-!
# What a clean program refers to

`Block.references` collects the undefined words of a program. If there are none, each word in each block
of the program is a word of the language, or declared in the scope of its place, or it stands before a
declaring word (`Block.resolve_of_isClean`).
-/

namespace StackProse

/-- Each word among the items is known or declared, if it does not stand before a declaring word. -/
def Item.Resolve (known : String → Bool) (scope : Scope) (items : List Item) : Prop :=
  ∀ before word rest, items = before ++ .word word :: rest →
    References.declaresBefore rest = false → known word.name ∨ (scope.find? word.name).isSome

section

variable {known : String → Bool} {scope : Scope} {found : References}

theorem Item.resolve_nil : Item.Resolve known scope [] := by
  intro before word rest h
  simp at h

theorem Item.Resolve.cons {item : Item} {items : List Item} (hitems : Item.Resolve known scope items)
    (hitem : ∀ word, item = .word word → References.declaresBefore items = false →
      known word.name ∨ (scope.find? word.name).isSome) :
    Item.Resolve known scope (item :: items) := by
  intro before word rest h
  cases before with
  | nil =>
      obtain ⟨rfl, rfl⟩ := List.cons.inj h
      exact hitem word rfl
  | cons first before =>
      exact hitems before word rest (List.cons.inj h).2

/-- A word that leaves nothing undefined is declared. -/
theorem References.undefined_add {word : Word} (h : (found.add scope word).undefined = []) :
    found.undefined = [] ∧ (scope.find? word.name).isSome := by
  unfold add at h
  split at h
  · rename_i hfound
    exact ⟨h, by rw [hfound]; rfl⟩
  · rename_i hfound
    exact ⟨h, by rw [hfound]; rfl⟩
  · contradiction

mutual

/-- The words of a block that is visited without finding undefined ones. -/
theorem Block.resolve_of_visit {outer : Scope} {found : References} :
    ∀ block : Block, (References.visit known outer found block).undefined = [] →
      found.undefined = [] ∧
        ∀ entry ∈ block.placed outer, Item.Resolve known entry.2 entry.1.body
  | .mk index userCode declared body, h => by
      rw [References.visit] at h
      obtain ⟨hfound, hbody, hinner⟩ := Item.resolve_of_visitItems body h
      exact ⟨hfound, List.forall_mem_cons.2 ⟨hbody, hinner⟩⟩

theorem Item.resolve_of_visitItems {scope : Scope} {found : References} :
    ∀ items : List Item, (References.visitItems known scope found items).undefined = [] →
      found.undefined = [] ∧ Item.Resolve known scope items ∧
        ∀ entry ∈ Item.placedIn scope items, Item.Resolve known entry.2 entry.1.body
  | [], h => ⟨h, Item.resolve_nil, List.forall_mem_nil _⟩
  | .literal value :: rest, h => by
      obtain ⟨hfound, hrest, hinner⟩ := Item.resolve_of_visitItems rest h
      exact ⟨hfound, hrest.cons nofun, hinner⟩
  | .block nested :: rest, h => by
      rw [References.visitItems] at h
      obtain ⟨hvisited, hrest, hinner⟩ := Item.resolve_of_visitItems rest h
      obtain ⟨hfound, hnested⟩ := Block.resolve_of_visit nested hvisited
      refine ⟨hfound, hrest.cons nofun, ?_⟩
      rw [Item.placedIn]
      exact List.forall_mem_append.2 ⟨hnested, hinner⟩
  | .word word :: rest, h => by
      rw [References.visitItems] at h
      by_cases hskips : (References.declaresBefore rest || known word.name) = true
      · rw [if_pos hskips] at h
        obtain ⟨hfound, hrest, hinner⟩ := Item.resolve_of_visitItems rest h
        refine ⟨hfound, hrest.cons ?_, hinner⟩
        rintro _ ⟨⟩ hplain
        rw [hplain, Bool.false_or] at hskips
        exact Or.inl hskips
      · rw [if_neg hskips] at h
        obtain ⟨hadded, hrest, hinner⟩ := Item.resolve_of_visitItems rest h
        obtain ⟨hfound, hdeclared⟩ := References.undefined_add hadded
        refine ⟨hfound, hrest.cons ?_, hinner⟩
        rintro _ ⟨⟩ _
        exact Or.inr hdeclared

end

/-- The words of all blocks of a program without undefined words. -/
theorem Block.resolve_of_isClean {outer : Scope} {root : Block}
    (h : (root.references known outer).isClean) :
    ∀ entry ∈ root.placed outer, Item.Resolve known entry.2 entry.1.body := by
  have hundefined : (References.visit known outer {} root).undefined = [] := by
    simpa [Block.references, References.isClean] using h
  exact (Block.resolve_of_visit root hundefined).2

end

end StackProse
