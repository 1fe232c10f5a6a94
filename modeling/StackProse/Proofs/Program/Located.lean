import StackProse.Proofs.Program.Placed
import StackProse.Proofs.Program.Rejected
import StackProse.Proofs.Source.Places

/-!
# The places of words and problems

Assembling a tree takes the places of words and of problems from nodes, and it does so whether the
program is refused or not. So all of them lie in the source (`Program.located_ofSource`). The words that
nothing declares are words of the program, at whatever depth, and lie in the source as well
(`Block.located_references`).
-/

namespace StackProse

mutual

/-- The words of items and of all blocks among them, in the order of the items. -/
def Item.wordsIn : List Item → List Word
  | [] => []
  | .literal _ :: rest => Item.wordsIn rest
  | .word word :: rest => word :: Item.wordsIn rest
  | .block inner :: rest => inner.words ++ Item.wordsIn rest

/-- The words of a block and of all blocks in it. -/
def Block.words : Block → List Word
  | .mk _ _ _ body => Item.wordsIn body

end

theorem Item.wordsIn_append (items more : List Item) :
    wordsIn (items ++ more) = wordsIn items ++ wordsIn more := by
  induction items with
  | nil => rfl
  | cons item rest ih => cases item <;> simp [wordsIn, ih]

theorem Item.mem_wordsIn_of_mem {word : Word} {item : Item} {items : List Item}
    (hword : word ∈ wordsIn [item]) (hitem : item ∈ items) : word ∈ wordsIn items := by
  obtain ⟨before, rest, rfl⟩ := List.append_of_mem hitem
  rw [List.append_cons, wordsIn_append, wordsIn_append]
  exact List.mem_append_left _ (List.mem_append_right _ hword)

theorem Item.mem_wordsIn_reverse {word : Word} {items : List Item}
    (h : word ∈ wordsIn items.reverse) : word ∈ wordsIn items := by
  induction items with
  | nil => exact h
  | cons item rest ih =>
      rw [List.reverse_cons, wordsIn_append, List.mem_append] at h
      rw [← List.singleton_append, wordsIn_append, List.mem_append]
      exact h.symm.imp_right ih

/-- A word lies in the source. -/
def Word.Located (source : List Char) (word : Word) : Prop :=
  LocatedIn source word.span word.position

/-- A problem lies in the source. -/
def Problem.Located (source : List Char) (problem : Problem) : Prop :=
  LocatedIn source problem.span problem.position

namespace Assembly

variable {source : List Char}

/-- A computation reports problems that lie in the source only, and gives what is asked. -/
abbrev Locates {α : Type} (source : List Char) (good : α → Prop) (run : Assemble α) : Prop :=
  Yields (·.Located source) (fun _ _ result _ => good result) run

/-- All words of the items lie in the source. -/
def ItemsLocated (source : List Char) (items : List Item) : Prop :=
  ∀ word ∈ Item.wordsIn items, word.Located source

theorem itemsLocated_nil (source : List Char) : ItemsLocated source [] :=
  List.forall_mem_nil _

theorem itemsLocated_append {items more : List Item} :
    ItemsLocated source (items ++ more) ↔ ItemsLocated source items ∧ ItemsLocated source more := by
  rw [ItemsLocated, Item.wordsIn_append, List.forall_mem_append]
  rfl

theorem itemsLocated_cons {item : Item} {rest : List Item} :
    ItemsLocated source (item :: rest) ↔ ItemsLocated source [item] ∧ ItemsLocated source rest :=
  @itemsLocated_append source [item] rest

theorem ItemsLocated.reverse {items : List Item} (h : ItemsLocated source items) :
    ItemsLocated source items.reverse :=
  fun word hword => h word (Item.mem_wordsIn_reverse hword)

theorem locates_declare (declared : Declarations) {next : Option Item} {items : List Item}
    (hnext : ItemsLocated source next.toList) (hitems : ItemsLocated source items) :
    Locates source (fun _ => True) (declare declared next items) := by
  induction items generalizing declared next with
  | nil => exact .pure fun _ => trivial
  | cons item rest ih =>
      obtain ⟨hitem, hrest⟩ := itemsLocated_cons.1 hitems
      cases item with
      | literal | block => exact ih declared hitem hrest
      | word keyword =>
          have hkeywordLocated : keyword.Located source := hitem keyword List.mem_cons_self
          cases hkeyword : Declaration.ofKeyword? keyword.name with
          | none =>
              rw [declare_plain declared rest next hkeyword]
              exact ih declared hitem hrest
          | some declaration =>
              by_cases hword : ∃ name, next = some (.word name)
              · obtain ⟨name, rfl⟩ := hword
                have hname : name.Located source := hnext name List.mem_cons_self
                rw [declare_named declared rest name hkeyword]
                exact .ite (.report hname (ih declared hitem hrest) fun h => h) (ih _ hitem hrest)
              · have hdropped : Locates source (fun _ => True)
                    (Pure.pure (declared, false) : Assemble (Declarations × Bool)) :=
                  .pure fun _ => trivial
                rw [declare_unnamed declared rest hkeyword hword]
                exact .report hkeywordLocated hdropped fun h => h

theorem locates_rootOf {userCode : Bool} {parts : List Node}
    (hparts : Locates source (fun result => ItemsLocated source result.2)
      (partsOf userCode [] [] parts)) :
    Locates source (fun root => ∀ word ∈ root.words, word.Located source)
      (rootOf userCode parts) := by
  refine yields_freshIndex.bind (fun index _ => ?_) fun _ h => h
  refine hparts.bind (fun result hresult => ?_) fun _ h => h
  obtain ⟨_, _, _, hresult⟩ := hresult
  exact .pure fun _ => hresult

mutual

theorem locates_itemOf (userCode : Bool) : ∀ node : Node, node.Settled source →
    Locates source (fun item => ItemsLocated source item.toList) (itemOf userCode node)
  | .mk kind text span position missing children, hnode => by
      have hlocated : LocatedIn source span position := hnode.consistent.located
      have hchildren : ∀ child ∈ children, child.Settled source := hnode.children
      have hnone : Locates source (fun item => ItemsLocated source item.toList)
          (Pure.pure none : Assemble (Option Item)) :=
        .pure fun _ => itemsLocated_nil source
      cases missing with
      | true =>
          rw [itemOf_missing]
          exact .reject hlocated hnone fun h => h
      | false =>
          cases kind with
          | comment => exact hnone
          | identifier => exact .pure fun _ => List.forall_mem_singleton.2 hlocated
          | block =>
              have hparts := locates_partsOf userCode [] (itemsLocated_nil source) children hchildren
              rw [itemOf_block]
              refine (locates_rootOf hparts).bind (fun block hblock => ?_) fun _ h => h
              obtain ⟨_, _, _, hwords⟩ := hblock
              have hitem : ItemsLocated source [.block block] := by
                rw [ItemsLocated, Item.wordsIn, Item.wordsIn, List.append_nil]
                exact hwords
              exact .pure fun _ => hitem
          | _ =>
              rw [itemOf_of_ne _ _ _ _ _ (by simp)]
              split
              · exact .pure fun _ => itemsLocated_nil source
              · exact .reject hlocated hnone fun h => h

theorem locates_itemsOf (userCode : Bool) {read : List Item} (hread : ItemsLocated source read) :
    ∀ nodes : List Node, (∀ node ∈ nodes, node.Settled source) →
      Locates source (ItemsLocated source) (itemsOf userCode read nodes)
  | [], _ => .pure fun _ => hread
  | node :: rest, hnodes => by
      rw [List.forall_mem_cons] at hnodes
      rw [itemsOf_cons]
      refine (locates_itemOf userCode node hnodes.1).bind (fun item hitem => ?_) fun _ h => h
      obtain ⟨_, _, _, hitem⟩ := hitem
      exact locates_itemsOf userCode (itemsLocated_append.2 ⟨hitem, hread⟩) rest hnodes.2

theorem locates_partsOf (userCode : Bool) (declared : Declarations) {body : List Item}
    (hbody : ItemsLocated source body) :
    ∀ nodes : List Node, (∀ node ∈ nodes, node.Settled source) →
      Locates source (fun result => ItemsLocated source result.2)
        (partsOf userCode declared body nodes)
  | [], _ => .pure fun _ => hbody.reverse
  | .mk kind text span position missing children :: rest, hnodes => by
      rw [List.forall_mem_cons] at hnodes
      by_cases hkind : kind = .statement
      · subst hkind
        rw [partsOf_statement]
        refine (locates_itemsOf userCode (itemsLocated_nil source) children hnodes.1.children).bind
          (fun items hitems => ?_) fun _ h => h
        obtain ⟨_, _, _, hitems⟩ := hitems
        refine (locates_declare declared (itemsLocated_nil source) hitems).bind
          (fun result _ => ?_) fun _ h => h
        refine locates_partsOf userCode result.1 ?_ rest hnodes.2
        split
        · exact itemsLocated_append.2 ⟨hitems.reverse, hbody⟩
        · exact hbody
      · rw [partsOf_cons _ _ _ hkind]
        refine (locates_itemOf userCode _ hnodes.1).bind (fun item hitem => ?_) fun _ h => h
        obtain ⟨_, _, _, hitem⟩ := hitem
        exact locates_partsOf userCode declared (itemsLocated_append.2 ⟨hitem, hbody⟩) rest hnodes.2

end

end Assembly

/-- The problems and the words of a program lie in its source, also if it is refused. -/
theorem Program.located_ofSource (userCode : Bool) (source : List Char) :
    (∀ problem ∈ (Program.ofSource userCode source).problems, problem.Located source) ∧
      ∀ word ∈ (Program.ofSource userCode source).root.words, word.Located source := by
  have hparts := Assembly.locates_partsOf userCode [] (Assembly.itemsLocated_nil source) _
    (Node.settled_ofSource source).children
  obtain ⟨added, hproblems, -, hadded, hwords⟩ := Assembly.locates_rootOf hparts {}
  rw [List.append_nil] at hproblems
  refine ⟨fun problem hproblem => hadded problem ?_, hwords⟩
  rw [← hproblems]
  exact List.mem_reverse.1 hproblem

/-! ### Undefined words -/

namespace References

variable {good : Word → Prop} {found : References}

theorem forall_undefined_add (hfound : ∀ word ∈ found.undefined, good word) (scope : Scope)
    {word : Word} (hword : good word) : ∀ each ∈ (found.add scope word).undefined, good each := by
  unfold References.add
  split
  · exact hfound
  · exact hfound
  · exact List.forall_mem_cons.2 ⟨hword, hfound⟩

mutual

theorem forall_undefined_visit {known : String → Bool} {outer : Scope} {found : References}
    (hfound : ∀ word ∈ found.undefined, good word) :
    ∀ block : Block, (∀ word ∈ block.words, good word) →
      ∀ word ∈ (visit known outer found block).undefined, good word
  | .mk _ _ _ body, hwords => forall_undefined_visitItems hfound body hwords

theorem forall_undefined_visitItems {known : String → Bool} {scope : Scope} {found : References}
    (hfound : ∀ word ∈ found.undefined, good word) :
    ∀ items : List Item, (∀ word ∈ Item.wordsIn items, good word) →
      ∀ word ∈ (visitItems known scope found items).undefined, good word
  | [], _ => hfound
  | .literal _ :: rest, hwords => forall_undefined_visitItems hfound rest hwords
  | .block nested :: rest, hwords => by
      rw [Item.wordsIn, List.forall_mem_append] at hwords
      exact forall_undefined_visitItems (forall_undefined_visit hfound nested hwords.1) rest hwords.2
  | .word word :: rest, hwords => by
      rw [Item.wordsIn, List.forall_mem_cons] at hwords
      rw [visitItems]
      split
      · exact forall_undefined_visitItems hfound rest hwords.2
      · exact forall_undefined_visitItems (forall_undefined_add hfound scope hwords.1) rest hwords.2

end

end References

/-- The problems with the references of a block lie in the source if its words do. -/
theorem Block.located_references {source : List Char} {block : Block}
    (h : ∀ word ∈ block.words, word.Located source) (known : String → Bool) (outer : Scope) :
    ∀ problem ∈ (block.references known outer).problems, problem.Located source := by
  rw [Block.problems_references]
  refine List.forall_mem_map.2 fun word hword => ?_
  exact References.forall_undefined_visit (List.forall_mem_nil _) block h word
    (List.mem_reverse.1 hword)

end StackProse
