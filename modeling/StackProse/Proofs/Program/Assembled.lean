import StackProse.Proofs.Program.Placed
import StackProse.Proofs.Program.Rejected

/-!
# Assembled programs

Assembling numbers the blocks of a source and collects their declarations. It goes on after a
problem, but the problem stays, so what is built without problems has been built without a problem at
every step (`Assembly.Built.trans`).

`Program.wellPlaced_ofSource` says what an accepted source becomes: blocks that are tidy, marked as
asked, and numbered apart.
-/

namespace StackProse

/-- Placed blocks that are tidy, marked as asked, and numbered apart from `low` to below `high`. -/
structure WellPlaced (userCode : Bool) (low high : Nat) (placed : List (Block × Scope)) : Prop where
  le : low ≤ high
  tidy : ∀ entry ∈ placed, entry.1.Tidy
  userCode : ∀ entry ∈ placed, entry.1.userCode = userCode
  id_eq : ∀ entry ∈ placed, entry.1.id = .source entry.1.index
  lower : ∀ entry ∈ placed, low ≤ entry.1.index
  upper : ∀ entry ∈ placed, entry.1.index < high
  nodup : (placed.map (·.1.index)).Nodup

namespace WellPlaced

variable {userCode : Bool} {low middle high : Nat} {placed more : List (Block × Scope)}

theorem nil (userCode : Bool) (low : Nat) : WellPlaced userCode low low [] :=
  ⟨Nat.le_refl _, List.forall_mem_nil _, List.forall_mem_nil _, List.forall_mem_nil _,
    List.forall_mem_nil _, List.forall_mem_nil _, List.nodup_nil⟩

/-- Blocks that were numbered before others. -/
theorem append (h : WellPlaced userCode low middle placed)
    (hmore : WellPlaced userCode middle high more) :
    WellPlaced userCode low high (placed ++ more) where
  le := Nat.le_trans h.le hmore.le
  tidy := List.forall_mem_append.2 ⟨h.tidy, hmore.tidy⟩
  userCode := List.forall_mem_append.2 ⟨h.userCode, hmore.userCode⟩
  id_eq := List.forall_mem_append.2 ⟨h.id_eq, hmore.id_eq⟩
  lower := List.forall_mem_append.2
    ⟨h.lower, fun entry hentry => Nat.le_trans h.le (hmore.lower entry hentry)⟩
  upper := List.forall_mem_append.2
    ⟨fun entry hentry => Nat.lt_of_lt_of_le (h.upper entry hentry) hmore.le, hmore.upper⟩
  nodup := by
    rw [List.map_append]
    refine List.nodup_append.2 ⟨h.nodup, hmore.nodup, ?_⟩
    intro first hfirst second hsecond
    obtain ⟨entry, hentry, rfl⟩ := List.mem_map.1 hfirst
    obtain ⟨other, hother, rfl⟩ := List.mem_map.1 hsecond
    exact Nat.ne_of_lt (Nat.lt_of_lt_of_le (h.upper entry hentry) (hmore.lower other hother))

theorem perm (h : WellPlaced userCode low high placed) (hperm : placed.Perm more) :
    WellPlaced userCode low high more where
  le := h.le
  tidy entry hentry := h.tidy entry (hperm.mem_iff.2 hentry)
  userCode entry hentry := h.userCode entry (hperm.mem_iff.2 hentry)
  id_eq entry hentry := h.id_eq entry (hperm.mem_iff.2 hentry)
  lower entry hentry := h.lower entry (hperm.mem_iff.2 hentry)
  upper entry hentry := h.upper entry (hperm.mem_iff.2 hentry)
  nodup := (hperm.map _).nodup_iff.1 h.nodup

/-- A block that was numbered before the blocks in it. -/
theorem cons {block : Block} {scope : Scope} (htidy : block.Tidy)
    (hcode : block.userCode = userCode) (hid : block.id = .source low)
    (h : WellPlaced userCode (low + 1) high placed) :
    WellPlaced userCode low high ((block, scope) :: placed) := by
  have hindex : block.index = low := congrArg CodeId.index hid
  have hblock : WellPlaced userCode low (low + 1) [(block, scope)] := by
    constructor <;> simp [htidy, hcode, hid, hindex]
  exact hblock.append h

/-- A block has one place. -/
theorem scope_unique (h : WellPlaced userCode low high placed) {block : Block}
    {scope other : Scope} (hscope : (block, scope) ∈ placed) (hother : (block, other) ∈ placed) :
    scope = other :=
  congrArg Prod.snd (List.inj_on_of_nodup_map h.nodup hscope hother rfl)

end WellPlaced

namespace Assembly

/-! ### Building without problems -/

/-- If no problem has been added, then the result is as asked of the states before and after it. -/
def Built {α : Type} (good : Assembly → α → Assembly → Prop) (added : List Problem)
    (state : Assembly) (result : α) (after : Assembly) : Prop :=
  added = [] → good state result after

/-- A computation that adds no problem gives what is asked of the states before and after it. -/
abbrev Builds {α : Type} (good : Assembly → α → Assembly → Prop) (run : Assemble α) : Prop :=
  Yields (fun _ => True) (Built good) run

namespace Built

variable {α β : Type} {good other : Assembly → α → Assembly → Prop}
  {better : Assembly → β → Assembly → Prop} {added more : List Problem} {problem : Problem}
  {state middle after : Assembly} {result : α} {last : β}

theorem mono (h : ∀ state result after, good state result after → other state result after)
    (hbuilt : Built good added state result after) : Built other added state result after :=
  fun hadded => h state result after (hbuilt hadded)

/-- What has been built in two steps. -/
theorem trans (hfirst : Built good added state result middle)
    (hsecond : Built (fun middle last after => ∀ state, good state result middle →
      better state last after) more middle last after) :
    Built better (more ++ added) state last after := by
  intro hnone
  obtain ⟨hmore, hadded⟩ := List.append_eq_nil_iff.1 hnone
  exact hsecond hmore state (hfirst hadded)

/-- Nothing is asked of what comes after a problem. -/
theorem of_report : Built good (more ++ [problem]) state result after :=
  fun hnone => absurd hnone (List.concat_ne_nil _ _)

end Built

theorem nodup_concat {declared : Declarations} {name : String} {declaration : Declaration}
    (hdeclared : (declared.map (·.1)).Nodup) (hnew : ¬ (declared.lookup name).isSome) :
    ((declared ++ [(name, declaration)]).map (·.1)).Nodup := by
  rw [Option.not_isSome_iff_eq_none, List.lookup_eq_none_iff] at hnew
  rw [List.map_append]
  refine List.nodup_append.2 ⟨hdeclared, List.nodup_singleton _, ?_⟩
  intro first hfirst second hsecond
  obtain ⟨entry, hentry, rfl⟩ := List.mem_map.1 hfirst
  obtain rfl := List.mem_singleton.1 hsecond
  have hne := hnew entry hentry
  exact fun heq => by simp [heq] at hne

/-- What a statement declares is what its items declare when they run. -/
theorem builds_declare (declared : Declarations) (last : Option Item) (items : List Item) :
    Builds (fun state result after => (declared.map (·.1)).Nodup →
      after = state ∧ result.2 = true ∧ (result.1.map (·.1)).Nodup ∧
        ∃ added, Item.declarations? last items = some added ∧ result.1 = declared ++ added)
      (declare declared last items) := by
  induction items generalizing declared last with
  | nil =>
      exact .pure fun state _ hnodup => ⟨rfl, rfl, hnodup, [], rfl, (List.append_nil _).symm⟩
  | cons item rest ih =>
      cases item with
      | literal | block => exact ih declared _
      | word keyword =>
          cases hkeyword : Declaration.ofKeyword? keyword.name with
          | none =>
              rw [declare_plain declared rest last hkeyword]
              simp only [Item.declarations?_word hkeyword]
              exact ih declared _
          | some declaration =>
              by_cases hlast : ∃ name, last = some (.word name)
              · obtain ⟨name, rfl⟩ := hlast
                rw [declare_named declared rest name hkeyword]
                split
                · exact .report trivial (ih declared _) fun _ => .of_report
                · rename_i hnew
                  refine (ih _ _).mono (Built.mono fun state result after hrest hnodup => ?_)
                  obtain ⟨hafter, hcomplete, hresult, added, hadded, hall⟩ :=
                    hrest (nodup_concat hnodup hnew)
                  refine ⟨hafter, hcomplete, hresult, (name.name, declaration) :: added, ?_, ?_⟩
                  · rw [Item.declarations?_keyword hkeyword]
                    exact ⟨name, added, rfl, hadded, rfl⟩
                  · rw [hall, List.append_assoc]
                    rfl
              · have hfailed : Builds (fun _ _ _ => True)
                    (Pure.pure (declared, false) : Assemble (Declarations × Bool)) :=
                  .pure fun _ _ => trivial
                rw [declare_unnamed declared rest hkeyword hlast]
                exact .report trivial hfailed fun _ => .of_report

/-! ### Building blocks -/

/-- A comment or an error becomes nothing, and an error is a problem. -/
theorem builds_itemOf_between {node : Node} (hkind : node.kind = .comment ∨ node.kind = .error)
    (userCode : Bool) :
    Builds (fun state item after => item = none ∧ after = state) (itemOf userCode node) := by
  have hnone : Builds (fun _ _ _ => True) (Pure.pure none : Assemble (Option Item)) :=
    .pure fun _ _ => trivial
  obtain ⟨kind, text, span, position, missing, children⟩ := node
  cases missing with
  | true =>
      rw [itemOf_missing]
      exact .reject trivial hnone fun _ => .of_report
  | false =>
      rcases hkind with rfl | rfl
      · exact .pure fun _ _ => ⟨rfl, rfl⟩
      · rw [itemOf_of_ne _ _ _ _ _ (by simp)]
        exact .reject trivial hnone fun _ => .of_report

/-- What is asked of the parts of a body that has been built so far as `body`, newest first, with
the names in `declared`. -/
def PartsBuilt (userCode : Bool) (declared : Declarations) (body : List Item) (state : Assembly)
    (result : Declarations × List Item) (after : Assembly) : Prop :=
  ∀ low, (∀ scope, WellPlaced userCode low state.blocks (Item.placedIn scope body.reverse)) →
    Item.declarations? none body.reverse = some declared → (declared.map (·.1)).Nodup →
      Item.declarations? none result.2 = some result.1 ∧ (result.1.map (·.1)).Nodup ∧
        ∀ scope, WellPlaced userCode low after.blocks (Item.placedIn scope result.2)

/-- A block is built of its parts. -/
theorem builds_rootOf {userCode : Bool} {parts : List Node}
    (hparts : Builds (PartsBuilt userCode [] []) (partsOf userCode [] [] parts)) :
    Builds (fun state root after => ∀ outer,
      WellPlaced userCode state.blocks after.blocks (root.placed outer))
      (rootOf userCode parts) := by
  have hindex : Builds (fun state index after => index = state.blocks ∧
      after.blocks = state.blocks + 1) freshIndex :=
    yields_freshIndex.mono fun hfresh _ => hfresh.2
  refine hindex.bind (fun index _ => hparts.bind (fun result _ => ?_) Built.trans) Built.trans
  refine .pure fun after _ middle hbuilt state hindex outer => ?_
  obtain ⟨hdeclared, hnodup, hplaced⟩ :=
    hbuilt middle.blocks (fun _ => .nil _ _) rfl List.nodup_nil
  rw [Block.placed]
  refine .cons ⟨hdeclared, hnodup⟩ rfl (congrArg CodeId.source hindex.1) ?_
  rw [← hindex.2]
  exact hplaced _

mutual

/-- The block that a node becomes is built of tidy blocks. -/
theorem builds_itemOf (userCode : Bool) : ∀ node : Node, node.Arranged →
    Builds (fun state item after => ∀ scope,
      WellPlaced userCode state.blocks after.blocks (Item.placedIn scope item.toList))
      (itemOf userCode node)
  | .mk kind text span position missing children, harranged => by
      have hnone : Builds (fun _ _ _ => True) (Pure.pure none : Assemble (Option Item)) :=
        .pure fun _ _ => trivial
      have hplain {item : Option Item} (hitem : ∀ scope, Item.placedIn scope item.toList = []) :
          Builds (fun state item after => ∀ scope,
            WellPlaced userCode state.blocks after.blocks (Item.placedIn scope item.toList))
            (Pure.pure item : Assemble (Option Item)) :=
        .pure fun state _ scope => by
          rw [hitem scope]
          exact .nil _ _
      obtain ⟨hparts, hchildren⟩ : (kind = .block → ∀ child ∈ children, child.IsPart) ∧
          ∀ child ∈ children, child.Arranged := by
        cases harranged with
        | mk hparts hchildren => exact ⟨hparts, hchildren⟩
      cases missing with
      | true =>
          rw [itemOf_missing]
          exact .reject trivial hnone fun _ => .of_report
      | false =>
          cases kind with
          | comment | identifier => exact hplain fun _ => rfl
          | block =>
              have hblock :=
                builds_rootOf (builds_partsOf userCode [] [] children (hparts rfl) hchildren)
              rw [itemOf_block]
              refine hblock.bind (fun block _ => .pure fun after _ state hplaced scope => ?_)
                Built.trans
              rw [Option.toList_some, Item.placedIn, Item.placedIn, List.append_nil]
              exact hplaced scope
          | _ =>
              rw [itemOf_of_ne _ _ _ _ _ (by simp)]
              split
              · exact hplain fun _ => rfl
              · exact .reject trivial hnone fun _ => .of_report

theorem builds_itemsOf (userCode : Bool) (read : List Item) : ∀ nodes : List Node,
    (∀ node ∈ nodes, node.Arranged) →
      Builds (fun state items after => ∀ low,
        (∀ scope, WellPlaced userCode low state.blocks (Item.placedIn scope read)) →
          ∀ scope, WellPlaced userCode low after.blocks (Item.placedIn scope items))
        (itemsOf userCode read nodes)
  | [], _ => .pure fun _ _ _ hread => hread
  | node :: rest, hnodes => by
      rw [itemsOf_cons]
      rw [List.forall_mem_cons] at hnodes
      refine (builds_itemOf userCode node hnodes.1).bind (fun item _ => ?_) Built.trans
      refine (builds_itemsOf userCode _ rest hnodes.2).mono (Built.mono ?_)
      intro middle items after hitems state hitem low hread
      refine hitems low fun scope => ?_
      rw [Item.placedIn_append]
      exact ((hread scope).append (hitem scope)).perm List.perm_append_comm

/-- A body that is built part by part declares what its block declares. -/
theorem builds_partsOf (userCode : Bool) (declared : Declarations) (body : List Item) :
    ∀ nodes : List Node, (∀ node ∈ nodes, node.IsPart) → (∀ node ∈ nodes, node.Arranged) →
      Builds (PartsBuilt userCode declared body) (partsOf userCode declared body nodes)
  | [], _, _ => .pure fun _ _ _ hbody hdeclared hnodup => ⟨hdeclared, hnodup, hbody⟩
  | .mk kind text span position missing children :: rest, hparts, hnodes => by
      rw [List.forall_mem_cons] at hparts hnodes
      by_cases hkind : kind = .statement
      · subst hkind
        have hchildren : ∀ child ∈ children, child.Arranged := by
          cases hnodes.1 with
          | mk _ hchildren => exact hchildren
        rw [partsOf_statement]
        refine (builds_itemsOf userCode [] children hchildren).bind (fun items _ => ?_) Built.trans
        refine (builds_declare declared none items).bind (fun result _ => ?_) Built.trans
        refine (builds_partsOf userCode result.1 _ rest hparts.2 hnodes.2).mono (Built.mono ?_)
        intro afterDeclare built after hbuilt afterItems hdeclare state hitems low hbody hdeclared
          hnodup
        obtain ⟨rfl, hcomplete, hnodup', added, hadded, hresult⟩ := hdeclare hnodup
        rw [if_pos hcomplete, PartsBuilt, List.reverse_append, List.reverse_reverse] at hbuilt
        refine hbuilt low (fun scope => ?_) ?_ hnodup'
        · rw [Item.placedIn_append]
          exact (hbody scope).append (hitems state.blocks (fun _ => .nil _ _) scope)
        · rw [hresult]
          exact Item.declarations?_append hdeclared hadded
      · have hbetween : (Node.mk kind text span position missing children).kind = .comment ∨
            (Node.mk kind text span position missing children).kind = .error :=
          hparts.1.resolve_left hkind
        rw [partsOf_cons _ _ _ hkind]
        refine (builds_itemOf_between hbetween userCode).bind (fun item _ => ?_) Built.trans
        refine (builds_partsOf userCode declared _ rest hparts.2 hnodes.2).mono (Built.mono ?_)
        rintro middle built after hbuilt state ⟨rfl, rfl⟩
        exact hbuilt

end

end Assembly

/-- The blocks of an accepted source, wherever the source stands. -/
theorem Program.wellPlaced_ofSource {userCode : Bool} {source : List Char}
    (h : (Program.ofSource userCode source).isRejected = false) (outer : Scope) :
    ∃ count, WellPlaced userCode 0 count
      ((Program.ofSource userCode source).root.placed outer) := by
  obtain ⟨hparts, hnodes⟩ := Node.arranged_ofSource source
  have hroot := Assembly.builds_rootOf (Assembly.builds_partsOf userCode [] [] _ hparts hnodes)
  obtain ⟨added, hproblems, -, -, hplaced⟩ := hroot {}
  have hnone := (Program.isRejected_eq_false_iff userCode (.ofSource source)).1 h
  rw [List.append_nil] at hproblems
  refine ⟨_, hplaced ?_ outer⟩
  rw [← hproblems]
  exact List.reverse_eq_nil_iff.1 hnone

end StackProse
