import StackProse.Proofs.Program.Rejected
import StackProse.Proofs.Program.Statements
import StackProse.Proofs.Source.Formed

/-!
# Which sources are refused

A program is refused exactly for the faults of its tree: an error, a declaring word that lacks its
name, or a block that declares a name twice (`Node.Sound`). Assembling goes through the tree once
and reports what it meets, so the proof goes through assembling once: `Assembly.Judges` says of a
computation that it reports something exactly if its part of the tree has a fault, and what it builds
if there is none.

`Program.refused_for_faults` is the result for source texts. Two more facts come from the same walk. The
report that a text cannot be read is never made, since the trees of texts have no such leaves
(`Node.formed_ofSource`). And the blocks of a program that is not refused mirror those of the tree,
number by number: they declare the same names, and their bodies are the statements of the tree, each
from its end.
-/

namespace StackProse

/-- The names of `added` are new behind `declared`, and none comes twice. -/
structure Declarations.Fresh (declared added : Declarations) : Prop where
  nodup : (added.map (·.1)).Nodup
  new : ∀ name ∈ added.map (·.1), name ∉ declared.map (·.1)

namespace Declarations.Fresh

variable {declared added more : Declarations}

theorem nil (declared : Declarations) : Fresh declared [] :=
  ⟨List.nodup_nil, List.forall_mem_nil _⟩

theorem append_iff :
    Fresh declared (added ++ more) ↔ Fresh declared added ∧ Fresh (declared ++ added) more := by
  constructor
  · intro h
    have hnodup := h.nodup
    have hnew := h.new
    rw [List.map_append, List.nodup_append] at hnodup
    rw [List.map_append, List.forall_mem_append] at hnew
    refine ⟨⟨hnodup.1, hnew.1⟩, ⟨hnodup.2.1, ?_⟩⟩
    intro name hname
    rw [List.map_append, List.mem_append, not_or]
    refine ⟨hnew.2 name hname, ?_⟩
    intro hadded
    exact hnodup.2.2 name hadded name hname rfl
  · intro h
    obtain ⟨hadded, hmore⟩ := h
    have hnew := hmore.new
    simp only [List.map_append, List.mem_append, not_or] at hnew
    constructor
    · rw [List.map_append, List.nodup_append]
      refine ⟨hadded.nodup, hmore.nodup, ?_⟩
      rintro name hname _ hagain rfl
      exact (hnew name hagain).2 hname
    · rw [List.map_append, List.forall_mem_append]
      exact ⟨hadded.new, fun name hname => (hnew name hname).1⟩

theorem perm_iff {others others' : Declarations} (hdeclared : declared.Perm others)
    (hadded : added.Perm others') : Fresh declared added ↔ Fresh others others' := by
  have hnodup := (hadded.map (·.1)).nodup_iff
  constructor
  · intro h
    refine ⟨hnodup.1 h.nodup, ?_⟩
    intro name hname hold
    exact h.new name ((hadded.map _).mem_iff.2 hname) ((hdeclared.map _).mem_iff.2 hold)
  · intro h
    refine ⟨hnodup.2 h.nodup, ?_⟩
    intro name hname hold
    exact h.new name ((hadded.map _).mem_iff.1 hname) ((hdeclared.map _).mem_iff.1 hold)

theorem singleton_iff {name : String} {declaration : Declaration} :
    Fresh declared [(name, declaration)] ↔ ¬ (declared.lookup name).isSome := by
  have hlookup : (declared.lookup name).isSome ↔ name ∈ declared.map (·.1) := by
    rw [← not_iff_not, Bool.not_eq_true, Option.isSome_eq_false_iff, Option.isNone_iff_eq_none,
      List.lookup_eq_none_iff]
    constructor
    · intro h hname
      obtain ⟨entry, hentry, rfl⟩ := List.mem_map.1 hname
      exact bne_iff_ne.1 (h entry hentry) rfl
    · intro h entry hentry
      rw [bne_iff_ne]
      intro hname
      exact h (List.mem_map.2 ⟨entry, hentry, hname.symm⟩)
  rw [hlookup]
  constructor
  · intro h
    exact h.new name List.mem_cons_self
  · intro h
    exact ⟨List.nodup_singleton _, List.forall_mem_singleton.2 h⟩

end Declarations.Fresh

namespace Node

/-- A block of a program is made of a block of the tree. -/
structure Mirrors (node : Node) (code : Block) : Prop where
  body : List.Forall₂ Becomes node.inRunOrder code.body
  declared : code.declared.Perm node.declarations

section

variable {kind : NodeKind} {text : List Char} {span : Span} {position : Position}

theorem isBlock_leaf (h : kind.isLeaf) : (leaf kind text span position).isBlock = false := by
  cases kind with
  | sourceFile | block => contradiction
  | _ => rfl

theorem sound_leaf (hleaf : kind.isLeaf) (hknown : kind ≠ .error) :
    (leaf kind text span position).Sound := by
  refine ⟨hknown, ?_, ?_⟩
  · intro hstatement
    obtain rfl : kind = .statement := hstatement
    contradiction
  · intro hblock
    rw [isBlock_leaf hleaf] at hblock
    contradiction

end

end Node

/-- The placed blocks mirror the nodes one by one, and are numbered from `low` to below `high` in
their order. -/
def Mirrored (low high : Nat) (nodes : List Node) (placed : List (Block × Scope)) : Prop :=
  ∃ codes : List Block, codes.Perm (placed.map (·.1)) ∧ List.Forall₂ Node.Mirrors nodes codes ∧
    codes.map (·.index) = List.range' low codes.length ∧ high = low + codes.length

namespace Mirrored

variable {low middle high : Nat} {nodes others : List Node} {placed more : List (Block × Scope)}

theorem nil (low : Nat) : Mirrored low low [] [] :=
  ⟨[], .refl _, .nil, rfl, rfl⟩

theorem append (h : Mirrored low middle nodes placed) (hmore : Mirrored middle high others more) :
    Mirrored low high (nodes ++ others) (placed ++ more) := by
  obtain ⟨codes, hperm, hcodes, hindex, rfl⟩ := h
  obtain ⟨later, hperm', hlater, hindex', rfl⟩ := hmore
  refine ⟨codes ++ later, ?_, List.rel_append hcodes hlater, ?_, ?_⟩
  · rw [List.map_append]
    exact hperm.append hperm'
  · rw [List.map_append, List.length_append, hindex, hindex', ← List.range'_append, Nat.one_mul]
  · rw [List.length_append, Nat.add_assoc]

theorem perm (h : Mirrored low high nodes placed) (hperm : placed.Perm more) :
    Mirrored low high nodes more := by
  obtain ⟨codes, hcodes, hrest⟩ := h
  exact ⟨codes, hcodes.trans (hperm.map _), hrest⟩

theorem cons {node : Node} {code : Block} {scope : Scope} (hcode : node.Mirrors code)
    (hindex : code.index = low) (h : Mirrored (low + 1) high nodes placed) :
    Mirrored low high (node :: nodes) ((code, scope) :: placed) := by
  have hone : Mirrored low (low + 1) [node] [(code, scope)] := by
    refine ⟨[code], .refl _, .cons hcode .nil, ?_, rfl⟩
    rw [List.map_singleton, hindex]
    rfl
  exact hone.append h

end Mirrored

theorem Item.placedIn_reverse (scope : Scope) (items : List Item) :
    (placedIn scope items.reverse).Perm (placedIn scope items) := by
  induction items with
  | nil => exact .refl _
  | cons item rest ih =>
      have hfirst : placedIn scope (item :: rest) = placedIn scope [item] ++ placedIn scope rest :=
        placedIn_append scope [item] rest
      rw [List.reverse_cons, placedIn_append, hfirst]
      exact (ih.append_right _).trans List.perm_append_comm

namespace Assembly

/-! ### Judging computations -/

/-- No problem has been added exactly if `clean`, and then the result is as asked of the states before
and after it. -/
def Judged {α : Type} (clean : Prop) (good : Assembly → α → Assembly → Prop) (added : List Problem)
    (state : Assembly) (result : α) (after : Assembly) : Prop :=
  (added = [] ↔ clean) ∧ (clean → good state result after)

/-- A computation adds problems, but never for a text that cannot be read. It adds none exactly if
`clean`, and then its result is as asked of the states before and after it. -/
abbrev Judges {α : Type} (clean : Prop) (good : Assembly → α → Assembly → Prop)
    (run : Assemble α) : Prop :=
  Yields (·.cause ≠ .malformed) (Judged clean good) run

namespace Judged

variable {α β : Type} {clean cleanNext all : Prop} {good weaker : Assembly → α → Assembly → Prop}
  {goodNext better : Assembly → β → Assembly → Prop} {added more : List Problem} {problem : Problem}
  {state middle after : Assembly} {result : α} {last : β}

theorem of_clean (hclean : clean) (h : good state result after) :
    Judged clean good [] state result after :=
  ⟨iff_of_true rfl hclean, fun _ => h⟩

theorem of_report (hclean : ¬ clean) : Judged clean good (more ++ [problem]) state result after :=
  ⟨iff_of_false (List.concat_ne_nil _ _) hclean, fun h => absurd h hclean⟩

theorem mono (hclean : clean ↔ all)
    (h : clean → ∀ state result after, good state result after → weaker state result after)
    (hjudged : Judged clean good added state result after) :
    Judged all weaker added state result after :=
  ⟨hjudged.1.trans hclean, fun hall => h (hclean.2 hall) _ _ _ (hjudged.2 (hclean.2 hall))⟩

/-- What has been judged in two steps. What is clean about the second may depend on what the first has
built. -/
theorem trans (hfirst : Judged clean good added state result middle)
    (hsecond : Judged cleanNext goodNext more middle last after) (hclean : all → clean)
    (hnext : clean → good state result middle → (cleanNext ↔ all))
    (hgood : all → good state result middle → goodNext middle last after →
      better state last after) : Judged all better (more ++ added) state last after := by
  constructor
  · rw [List.append_eq_nil_iff, hsecond.1, hfirst.1]
    constructor
    · intro h
      exact (hnext h.2 (hfirst.2 h.2)).1 h.1
    · intro hall
      exact ⟨(hnext (hclean hall) (hfirst.2 (hclean hall))).2 hall, hclean hall⟩
  · intro hall
    have hbuilt := hfirst.2 (hclean hall)
    exact hgood hall hbuilt (hsecond.2 ((hnext (hclean hall) hbuilt).2 hall))

end Judged

/-! ### Statements -/

/-- The names that are found in a statement are entered, and nothing else happens. -/
def Declares (declared : Declarations) (found : Option Declarations) (state : Assembly)
    (result : Declarations × Bool) (after : Assembly) : Prop :=
  after = state ∧ ∃ added, found = some added ∧ result = (declared ++ added, true)

/-- Names are entered without a report if each declaring word has one and they are new. -/
theorem judges_declare (declared : Declarations) (next : Option Item) (items : List Item) :
    Judges (∃ added, Item.declarations? next items = some added ∧ Declarations.Fresh declared added)
      (Declares declared (Item.declarations? next items)) (declare declared next items) := by
  induction items generalizing declared next with
  | nil =>
      refine .pure fun state => .of_clean ⟨[], rfl, .nil _⟩ ?_
      exact ⟨rfl, [], rfl, by rw [List.append_nil]⟩
  | cons item rest ih =>
      cases item with
      | literal | block => exact ih declared _
      | word keyword =>
          cases hkeyword : Declaration.ofKeyword? keyword.name with
          | none =>
              rw [declare_plain declared rest next hkeyword]
              simp only [Item.declarations?_word hkeyword]
              exact ih declared _
          | some declaration =>
              by_cases hnext : ∃ name, next = some (.word name)
              · obtain ⟨name, rfl⟩ := hnext
                have hadded (added : Declarations) :
                    Item.declarations? (some (.word name)) (.word keyword :: rest) = some added ↔
                      ∃ later, Item.declarations? (some (.word keyword)) rest = some later ∧
                        added = (name.name, declaration) :: later := by
                  rw [Item.declarations?_keyword hkeyword]
                  simp
                rw [declare_named declared rest name hkeyword]
                split
                · rename_i hknown
                  refine .report (by simp) (ih declared _) fun _ => .of_report ?_
                  intro h
                  obtain ⟨added, hall, hfresh⟩ := h
                  obtain ⟨later, -, rfl⟩ := (hadded added).1 hall
                  rw [← List.singleton_append, Declarations.Fresh.append_iff,
                    Declarations.Fresh.singleton_iff] at hfresh
                  exact hfresh.1 hknown
                · rename_i hnew
                  have hone : Declarations.Fresh declared [(name.name, declaration)] :=
                    Declarations.Fresh.singleton_iff.2 hnew
                  refine (ih _ _).mono (Judged.mono ?_ ?_)
                  · constructor
                    · intro h
                      obtain ⟨later, hlater, hfresh⟩ := h
                      refine ⟨_, (hadded _).2 ⟨later, hlater, rfl⟩, ?_⟩
                      exact Declarations.Fresh.append_iff.2 ⟨hone, hfresh⟩
                    · intro h
                      obtain ⟨added, hall, hfresh⟩ := h
                      obtain ⟨later, hlater, rfl⟩ := (hadded added).1 hall
                      exact ⟨later, hlater, (Declarations.Fresh.append_iff.1 hfresh).2⟩
                  · intro _ state result after hrest
                    obtain ⟨hafter, later, hlater, hresult⟩ := hrest
                    refine ⟨hafter, _, (hadded _).2 ⟨later, hlater, rfl⟩, ?_⟩
                    rw [hresult, List.append_assoc]
                    rfl
              · have hdropped : Judges True (fun _ _ _ => True)
                    (Pure.pure (declared, false) : Assemble (Declarations × Bool)) :=
                  .pure fun _ => .of_clean trivial trivial
                rw [declare_unnamed declared rest hkeyword hnext]
                refine .report (by simp) hdropped fun _ => .of_report ?_
                intro h
                obtain ⟨added, hall, -⟩ := h
                obtain ⟨name, -, hname, -⟩ := (Item.declarations?_keyword hkeyword).1 hall
                exact hnext ⟨name, hname⟩

/-! ### Parts and items -/

/-- What a node becomes that is not refused. -/
def MirrorsItem (node : Node) (state : Assembly) (item : Option Item) (after : Assembly) : Prop :=
  List.Forall₂ Node.Becomes ([node].filter (·.kind != .comment)) item.toList ∧
    ∀ scope, Mirrored state.blocks after.blocks node.blocks (Item.placedIn scope item.toList)

/-- What the nodes of a statement become, in front of the items already `read`. -/
def MirrorsItems (read : List Item) (nodes : List Node) (state : Assembly) (items : List Item)
    (after : Assembly) : Prop :=
  ∃ new, items = new.reverse ++ read ∧
    List.Forall₂ Node.Becomes (nodes.filter (·.kind != .comment)) new ∧
    ∀ scope, Mirrored state.blocks after.blocks ((Node.walkAll nodes).filter Node.isBlock)
      (Item.placedIn scope new)

/-- The statements among the parts of a block. -/
def statementsIn (parts : List Node) : List Node :=
  parts.filter (·.kind == .statement)

/-- What the parts of a block become, behind the `body` of the parts before them. -/
def MirrorsParts (declared : Declarations) (body : List Item) (parts : List Node) (state : Assembly)
    (result : Declarations × List Item) (after : Assembly) : Prop :=
  ∃ new, result.2 = body.reverse ++ new ∧
    List.Forall₂ Node.Becomes ((statementsIn parts).flatMap (·.items.reverse)) new ∧
    result.1.Perm (declared ++ (statementsIn parts).flatMap (Node.declaredBy ·.items)) ∧
    ∀ scope, Mirrored state.blocks after.blocks ((Node.walkAll parts).filter Node.isBlock)
      (Item.placedIn scope new)

/-- The parts of a block have no fault, and what they declare is new. -/
def PartsClean (declared : Declarations) (parts : List Node) : Prop :=
  (∀ inner ∈ Node.walkAll parts, inner.Sound) ∧
    Declarations.Fresh declared ((statementsIn parts).flatMap (Node.declaredBy ·.items))

theorem partsOf_comment (userCode : Bool) (declared : Declarations) (body : List Item)
    (text : List Char) (span : Span) (position : Position) (rest : List Node) :
    partsOf userCode declared body (.leaf .comment text span position :: rest) =
      partsOf userCode declared body rest := by
  rw [Node.leaf, partsOf_cons _ _ _ (by decide), itemOf_comment]
  rfl

theorem partsOf_absent (userCode : Bool) (declared : Declarations) (body : List Item)
    (expected : List Char) (offset : Nat) (position : Position) (rest : List Node) :
    partsOf userCode declared body (.absent expected offset position :: rest) =
      report (.missing (String.ofList expected)) ⟨offset, offset⟩ position >>= fun _ =>
        refuse >>= fun _ => partsOf userCode declared body rest := by
  rw [Node.absent, partsOf_cons _ _ _ (by decide), itemOf_missing]
  rfl

/-- A block whose parts are clean is built of them. -/
theorem judges_rootOf {userCode : Bool} {node : Node} (hblock : node.isBlock)
    (hparts : Judges (PartsClean [] node.children) (MirrorsParts [] [] node.children)
      (partsOf userCode [] [] node.children)) :
    Judges (∀ inner ∈ node :: Node.walkAll node.children, inner.Sound)
      (fun state root after => ∀ outer, Mirrored state.blocks after.blocks
        (node :: (Node.walkAll node.children).filter Node.isBlock) (root.placed outer))
      (rootOf userCode node.children) := by
  have hclean : (∀ inner ∈ node :: Node.walkAll node.children, inner.Sound) ↔
      PartsClean [] node.children := by
    have hkind : node.kind ≠ .error ∧ node.kind ≠ .statement := by
      simp only [Node.isBlock, Bool.or_eq_true, beq_iff_eq] at hblock
      rcases hblock with hkind | hkind <;> simp [hkind]
    rw [List.forall_mem_cons]
    constructor
    · intro h
      exact ⟨h.2, h.1.nodup hblock, fun _ _ => List.not_mem_nil⟩
    · intro h
      exact ⟨⟨hkind.1, fun hstatement => absurd hstatement hkind.2, fun _ => h.2.nodup⟩, h.1⟩
  intro state
  obtain ⟨added, hproblems, hrefused, hreadable, hadded, hbuilt⟩ :=
    hparts { state with blocks := state.blocks + 1 }
  refine ⟨added, hproblems, hrefused, hreadable, hadded.trans hclean.symm, ?_⟩
  intro hsound outer
  obtain ⟨new, hbody, hnew, hdeclared, hplaced⟩ := hbuilt (hclean.1 hsound)
  let result := partsOf userCode [] [] node.children { state with blocks := state.blocks + 1 }
  have hroot : node.Mirrors (.mk state.blocks userCode result.1.1 result.1.2) := by
    constructor
    · rw [Block.body, hbody]
      exact hnew
    · exact hdeclared
  change Mirrored state.blocks result.2.blocks _
    (Block.placed outer (.mk state.blocks userCode result.1.1 result.1.2))
  rw [Block.placed]
  apply Mirrored.cons hroot rfl
  rw [hbody]
  exact hplaced _

section

variable {userCode : Bool} {declared : Declarations} {body : List Item} {rest : List Node}

theorem partsClean_perm {others : Declarations} (h : declared.Perm others) :
    PartsClean declared rest ↔ PartsClean others rest :=
  and_congr_right fun _ => Declarations.Fresh.perm_iff h (.refl _)

theorem partsClean_statement {children : List Node} (span : Span) (position : Position) :
    PartsClean declared (.branch .statement span position children :: rest) ↔
      (∀ inner ∈ Node.walkAll children, inner.Sound) ∧
        ¬ Node.LacksName (Node.branch .statement span position children).items ∧
        Declarations.Fresh declared
          (Node.declaredBy (Node.branch .statement span position children).items) ∧
        PartsClean (declared ++
          Node.declaredBy (Node.branch .statement span position children).items) rest := by
  have hwalk : Node.walkAll (.branch .statement span position children :: rest) =
      .branch .statement span position children :: (Node.walkAll children ++ Node.walkAll rest) :=
    rfl
  have hdeclared : (statementsIn (.branch .statement span position children :: rest)).flatMap
        (Node.declaredBy ·.items) =
      Node.declaredBy (Node.branch .statement span position children).items ++
        (statementsIn rest).flatMap (Node.declaredBy ·.items) :=
    rfl
  rw [PartsClean, PartsClean, hwalk, hdeclared, List.forall_mem_cons, List.forall_mem_append,
    Declarations.Fresh.append_iff]
  constructor
  · intro h
    obtain ⟨⟨hstatement, hchildren, hrest⟩, hown, hmore⟩ := h
    exact ⟨hchildren, hstatement.named rfl, hown, hrest, hmore⟩
  · intro h
    obtain ⟨hchildren, hnamed, hown, hrest, hmore⟩ := h
    exact ⟨⟨⟨nofun, fun _ => hnamed, nofun⟩, hchildren, hrest⟩, hown, hmore⟩

theorem judges_comment (text : List Char) (span : Span) (position : Position)
    (hrest : Judges (PartsClean declared rest) (MirrorsParts declared body rest)
      (partsOf userCode declared body rest)) :
    Judges (PartsClean declared (.leaf .comment text span position :: rest))
      (MirrorsParts declared body (.leaf .comment text span position :: rest))
      (partsOf userCode declared body (.leaf .comment text span position :: rest)) := by
  have hsound : (Node.leaf .comment text span position).Sound := Node.sound_leaf rfl (by decide)
  rw [partsOf_comment]
  refine hrest.mono (Judged.mono ?_ ?_)
  · constructor
    · intro h
      exact ⟨List.forall_mem_cons.2 ⟨hsound, h.1⟩, h.2⟩
    · intro h
      exact ⟨(List.forall_mem_cons.1 h.1).2, h.2⟩
  · intro _ state result after hbuilt
    exact hbuilt

theorem judges_absent (expected : List Char) (offset : Nat) (position : Position)
    (hrest : Judges (PartsClean declared rest) (MirrorsParts declared body rest)
      (partsOf userCode declared body rest)) :
    Judges (PartsClean declared (.absent expected offset position :: rest))
      (MirrorsParts declared body (.absent expected offset position :: rest))
      (partsOf userCode declared body (.absent expected offset position :: rest)) := by
  rw [partsOf_absent]
  refine .report (by simp) hrest fun _ => .of_report ?_
  intro h
  exact (h.1 _ List.mem_cons_self).known rfl

/-- The names of a statement are entered behind those of the statements before it. -/
theorem judges_statement {children : List Node} (span : Span) (position : Position)
    (hitems : Judges (∀ inner ∈ Node.walkAll children, inner.Sound) (MirrorsItems [] children)
      (itemsOf userCode [] children))
    (hrest : ∀ declared body, Judges (PartsClean declared rest) (MirrorsParts declared body rest)
      (partsOf userCode declared body rest)) (body : List Item) :
    Judges (PartsClean declared (.branch .statement span position children :: rest))
      (MirrorsParts declared body (.branch .statement span position children :: rest))
      (partsOf userCode declared body (.branch .statement span position children :: rest)) := by
  have hnext (items : List Item) :
      Judges (∃ added, Item.declarations? none items = some added ∧
          Declarations.Fresh declared added ∧ PartsClean (declared ++ added) rest)
        (fun state result after => ∃ added, Item.declarations? none items = some added ∧
          MirrorsParts (declared ++ added) (items.reverse ++ body) rest state result after)
        (declare declared none items >>= fun result => partsOf userCode result.1
          (if result.2 then items.reverse ++ body else body) rest) := by
    refine (judges_declare declared none items).bind (fun result _ => hrest _ _) fun hnames hparts =>
      hnames.trans hparts ?_ ?_ ?_
    · intro h
      obtain ⟨added, hadded, hfresh, -⟩ := h
      exact ⟨added, hadded, hfresh⟩
    · intro hclean hdeclares
      obtain ⟨-, added, hadded, rfl⟩ := hdeclares
      obtain ⟨_, hsame, hfresh⟩ := hclean
      obtain rfl := Option.some.inj (hadded.symm.trans hsame)
      constructor
      · intro h
        exact ⟨added, hadded, hfresh, h⟩
      · intro h
        obtain ⟨_, hagain, -, h⟩ := h
        obtain rfl := Option.some.inj (hadded.symm.trans hagain)
        exact h
    · intro _ hdeclares hbuilt
      obtain ⟨rfl, added, hadded, rfl⟩ := hdeclares
      exact ⟨added, hadded, hbuilt⟩
  have hown := List.reverse_perm (Node.declaredBy (Node.branch .statement span position children).items)
  have hall := hown.append_left declared
  rw [Node.branch, partsOf_statement]
  refine hitems.bind (fun items _ => hnext items) fun hitems hparts => hitems.trans hparts ?_ ?_ ?_
  · intro h
    exact ((partsClean_statement span position).1 h).1
  · intro hchildren hbuilt
    obtain ⟨new, rfl, hnew, -⟩ := hbuilt
    rw [List.append_nil, ← Node.branch, partsClean_statement]
    constructor
    · intro h
      obtain ⟨added, hadded, hfresh, hclean⟩ := h
      obtain ⟨hnamed, rfl⟩ := (Item.declarations?_reverse hnew).1 hadded
      exact ⟨hchildren, hnamed, (Declarations.Fresh.perm_iff (.refl _) hown).1 hfresh,
        (partsClean_perm hall).1 hclean⟩
    · intro h
      obtain ⟨-, hnamed, hfresh, hclean⟩ := h
      exact ⟨_, (Item.declarations?_reverse hnew).2 ⟨hnamed, rfl⟩,
        (Declarations.Fresh.perm_iff (.refl _) hown).2 hfresh, (partsClean_perm hall).2 hclean⟩
  · intro _ hbuilt hmore
    obtain ⟨new, rfl, hnew, hplaced⟩ := hbuilt
    obtain ⟨added, hadded, later, hresult, hlater, hdeclared, hplacedLater⟩ := hmore
    rw [List.append_nil] at hadded hresult
    obtain ⟨-, rfl⟩ := (Item.declarations?_reverse hnew).1 hadded
    refine ⟨new.reverse ++ later, ?_, ?_, ?_, ?_⟩
    · rw [hresult, List.reverse_append, List.reverse_reverse, List.append_assoc]
    · exact List.rel_append (List.forall₂_reverse_iff.2 hnew) hlater
    · have hnames := hdeclared.trans (hall.append_right _)
      rw [List.append_assoc] at hnames
      exact hnames
    · intro scope
      have hboth := (hplaced scope).append (hplacedLater scope)
      rw [← List.filter_append] at hboth
      rw [Item.placedIn_append]
      exact hboth.perm ((Item.placedIn_reverse scope new).symm.append_right _)

end

/-- A leaf that is no error and no comment becomes a word or a literal. -/
theorem judges_plain {userCode : Bool} {kind : NodeKind} {text : List Char} {span : Span}
    {position : Position} {item : Item} (hkind : kind.isLeaf ∧ kind ≠ .comment ∧ kind ≠ .error)
    (hitem : itemOf userCode (.leaf kind text span position) = Pure.pure (some item))
    (hbecomes : (Node.leaf kind text span position).Becomes item)
    (hplain : ∀ scope, Item.placedIn scope [item] = []) :
    Judges (∀ inner ∈ (Node.leaf kind text span position).walk, inner.Sound)
      (MirrorsItem (.leaf kind text span position))
      (itemOf userCode (.leaf kind text span position)) := by
  obtain ⟨hleaf, hcomment, herror⟩ := hkind
  rw [hitem]
  refine .pure fun state => .of_clean (List.forall_mem_singleton.2 (Node.sound_leaf hleaf herror)) ?_
  constructor
  · have hkept : [Node.leaf kind text span position].filter (·.kind != .comment) =
        [.leaf kind text span position] :=
      List.filter_eq_self.2 (List.forall_mem_singleton.2 (bne_iff_ne.2 hcomment))
    rw [hkept]
    exact .cons hbecomes .nil
  · intro scope
    have hblocks : (Node.leaf kind text span position).blocks = [] :=
      List.filter_cons_of_neg (ne_true_of_eq_false (Node.isBlock_leaf hleaf))
    rw [Option.toList_some, hplain, hblocks]
    exact .nil _

theorem itemOf_literal (userCode : Bool) {kind : NodeKind} {text : List Char} (span : Span)
    (position : Position) {literal : Literal} (h : literalOf? kind text = some literal) :
    itemOf userCode (.leaf kind text span position) = Pure.pure (some (.literal literal)) := by
  have hkind : kind ≠ .comment ∧ kind ≠ .identifier ∧ kind ≠ .block := by
    refine ⟨?_, ?_, ?_⟩ <;> rintro rfl <;> contradiction
  rw [Node.leaf, itemOf_of_ne _ _ _ _ _ hkind, h]

theorem judges_leaf (userCode : Bool) {kind : NodeKind} {text : List Char} (span : Span)
    (position : Position) (hleaf : kind.isLeaf)
    (hnumber : kind = .number → (Number.read? text).isSome) (hne : text ≠ []) :
    Judges (∀ inner ∈ (Node.leaf kind text span position).walk, inner.Sound)
      (MirrorsItem (.leaf kind text span position))
      (itemOf userCode (.leaf kind text span position)) := by
  cases kind with
  | sourceFile | statement | block => contradiction
  | comment =>
      rw [Node.leaf, itemOf_comment]
      refine .pure fun state => ?_
      exact .of_clean (List.forall_mem_singleton.2 (Node.sound_leaf rfl (by decide)))
        ⟨.nil, fun _ => .nil _⟩
  | error =>
      have hitem : itemOf userCode (.leaf .error text span position) =
          report (.unexpected (String.ofList text)) span position >>= fun _ =>
            refuse >>= fun _ => Pure.pure none := by
        have hproblem : leafProblem .error text = .unexpected (String.ofList text) :=
          if_pos ⟨rfl, hne⟩
        rw [Node.leaf, itemOf_of_ne _ _ _ _ _ (by decide), hproblem]
        rfl
      have hnone : Judges True (fun _ _ _ => True) (Pure.pure none : Assemble (Option Item)) :=
        .pure fun _ => .of_clean trivial trivial
      rw [hitem]
      refine .report (by simp) hnone fun _ => .of_report ?_
      intro h
      exact (h _ List.mem_cons_self).known rfl
  | identifier =>
      exact judges_plain (by decide) (itemOf_identifier userCode text span position []) rfl
        fun _ => rfl
  | number =>
      obtain ⟨number, hread⟩ := Option.isSome_iff_exists.1 (hnumber rfl)
      have hliteral : literalOf? .number text = some (.number number) := by
        rw [literalOf?, hread]
        rfl
      exact judges_plain (by decide) (itemOf_literal userCode span position hliteral) hliteral
        fun _ => rfl
  | string | boolean | symbol =>
      exact judges_plain (by decide) (itemOf_literal userCode span position rfl) rfl fun _ => rfl

mutual

theorem judges_itemOf (userCode : Bool) : ∀ node : Node, node.ItemFormed →
    Judges (∀ inner ∈ node.walk, inner.Sound) (MirrorsItem node) (itemOf userCode node)
  | .mk kind text span position missing children, hformed => by
      obtain ⟨rfl, hleaf | hblock⟩ := hformed.leaf_or_block
      · obtain ⟨hleaf, rfl, hnumber, hne⟩ := hleaf
        exact judges_leaf userCode span position hleaf hnumber hne
      · obtain ⟨rfl, hchildren⟩ := hblock
        let node := Node.mk .block text span position false children
        have hparts := judges_partsOf userCode [] [] node.children hchildren
        have hroot := judges_rootOf (rfl : node.isBlock = true) hparts
        have hkeep (code : Block) : Judges True
            (fun state item after => after = state ∧ item = some (Item.block code))
            (Pure.pure (some (.block code)) : Assemble (Option Item)) :=
          .pure fun _ => .of_clean trivial ⟨rfl, rfl⟩
        rw [itemOf_block]
        refine hroot.bind (fun code _ => hkeep code) fun hroot hkept =>
          hroot.trans hkept id (fun h _ => iff_of_true trivial h) ?_
        · intro _ hplaced hitem
          obtain ⟨rfl, rfl⟩ := hitem
          refine ⟨.cons rfl .nil, ?_⟩
          intro scope
          rw [Option.toList_some, Item.placedIn, Item.placedIn, List.append_nil]
          exact hplaced scope

theorem judges_itemsOf (userCode : Bool) (read : List Item) : ∀ nodes : List Node,
    (∀ node ∈ nodes, node.ItemFormed) →
      Judges (∀ inner ∈ Node.walkAll nodes, inner.Sound) (MirrorsItems read nodes)
        (itemsOf userCode read nodes)
  | [], _ => .pure fun _ => .of_clean (List.forall_mem_nil _) ⟨[], rfl, .nil, fun _ => .nil _⟩
  | node :: rest, hnodes => by
      rw [List.forall_mem_cons] at hnodes
      rw [itemsOf_cons, Node.walkAll, List.forall_mem_append]
      refine (judges_itemOf userCode node hnodes.1).bind
        (fun item _ => judges_itemsOf userCode (item.toList ++ read) rest hnodes.2) ?_
      intro _ _ _ item _ items _ hitem hitems
      refine hitem.trans hitems And.left ?_ ?_
      · intro hnode _
        exact ⟨fun hrest => ⟨hnode, hrest⟩, And.right⟩
      · intro _ hitem hitems
        obtain ⟨hbecomes, hplaced⟩ := hitem
        obtain ⟨new, rfl, hnew, hmore⟩ := hitems
        refine ⟨item.toList ++ new, ?_, ?_, ?_⟩
        · cases item <;> simp
        · rw [← List.singleton_append, List.filter_append]
          exact List.rel_append hbecomes hnew
        · intro scope
          rw [Node.walkAll, List.filter_append, Item.placedIn_append]
          exact (hplaced scope).append (hmore scope)

theorem judges_partsOf (userCode : Bool) (declared : Declarations) (body : List Item) :
    ∀ parts : List Node, (∀ part ∈ parts, part.PartFormed) →
      Judges (PartsClean declared parts) (MirrorsParts declared body parts)
        (partsOf userCode declared body parts)
  | [], _ => by
      refine .pure fun state => .of_clean ⟨List.forall_mem_nil _, .nil _⟩ ?_
      refine ⟨[], (List.append_nil _).symm, .nil, ?_, fun _ => .nil _⟩
      rw [statementsIn, List.filter_nil, List.flatMap_nil, List.append_nil]
  | .mk kind text span position missing children :: rest, hparts => by
      rw [List.forall_mem_cons] at hparts
      have hrest (declared : Declarations) (body : List Item) :=
        judges_partsOf userCode declared body rest hparts.2
      cases hparts.1 with
      | comment => exact judges_comment text span position (hrest declared body)
      | absent => exact judges_absent text _ position (hrest declared body)
      | statement _ hchildren =>
          exact judges_statement span position (judges_itemsOf userCode [] children hchildren)
            hrest body

end

/-- Assembling a source text reports something exactly if its tree has a fault. -/
theorem judges_source (userCode : Bool) (source : List Char) :
    Judges (∀ inner ∈ (Node.ofSource source).walk, inner.Sound)
      (fun state root after => ∀ outer, Mirrored state.blocks after.blocks
        (Node.ofSource source).blocks (root.placed outer))
      (rootOf userCode (Node.ofSource source).children) := by
  have hfile : (Node.ofSource source).isBlock := rfl
  have hroot := judges_rootOf hfile
    (judges_partsOf userCode [] [] _ (Node.formed_ofSource source))
  rw [Node.blocks, Node.walk_eq, List.filter_cons_of_pos hfile]
  exact hroot

end Assembly

namespace Program

variable {userCode : Bool} {source : List Char}

theorem isRejected_eq_false_iff_sound :
    (Program.ofSource userCode source).isRejected = false ↔
      ∀ inner ∈ (Node.ofSource source).walk, inner.Sound := by
  obtain ⟨added, hproblems, -, -, hadded, -⟩ := Assembly.judges_source userCode source {}
  rw [List.append_nil] at hproblems
  rw [← hadded, ← hproblems, ofSource, isRejected_eq_false_iff]
  exact List.reverse_eq_nil_iff

/-- The blocks of a program that is not refused are those of the tree, in the order of the text. -/
theorem mirrored_ofSource (h : (Program.ofSource userCode source).isRejected = false)
    (outer : Scope) :
    ∃ count, Mirrored 0 count (Node.ofSource source).blocks
      ((Program.ofSource userCode source).root.placed outer) := by
  obtain ⟨-, -, -, -, -, hbuilt⟩ := Assembly.judges_source userCode source {}
  exact ⟨_, hbuilt (isRejected_eq_false_iff_sound.1 h) outer⟩

theorem readable_problems :
    ∀ problem ∈ (Program.ofSource userCode source).problems, problem.cause ≠ .malformed := by
  obtain ⟨added, hproblems, -, hreadable, -⟩ := Assembly.judges_source userCode source {}
  rw [List.append_nil] at hproblems
  intro problem hproblem
  apply hreadable problem
  rw [← hproblems]
  exact List.mem_reverse.1 hproblem

/-- A source is refused exactly if its tree has an error, a declaring word that no identifier
follows, or a block that declares a name twice in its own statements. No problem is that a text
cannot be read. And block by block in the order of the text, a program that is not refused declares
exactly what the tree declares. -/
theorem refused_for_faults (userCode : Bool) (source : List Char) :
    ((Program.ofSource userCode source).isRejected = true ↔
      (∃ node ∈ (Node.ofSource source).walk, node.kind = .error) ∨
      (∃ statement ∈ (Node.ofSource source).walk,
        statement.kind = .statement ∧ Node.LacksName statement.items) ∨
      (∃ block ∈ (Node.ofSource source).blocks, ¬ (block.declarations.map (·.1)).Nodup)) ∧
    (∀ problem ∈ (Program.ofSource userCode source).problems, problem.cause ≠ .malformed) ∧
    ((Program.ofSource userCode source).isRejected = false →
      ∃ codes : List Block,
        codes.Perm (((Program.ofSource userCode source).root.placed []).map (·.1)) ∧
        codes.map (·.index) = List.range codes.length ∧
        List.Forall₂ (fun block code => code.declared.Perm block.declarations ∧
          (code.declared.map (·.1)).Nodup) (Node.ofSource source).blocks codes) := by
  refine ⟨?_, readable_problems, ?_⟩
  · have hfault : (Program.ofSource userCode source).isRejected = true ↔
        ∃ node ∈ (Node.ofSource source).walk, ¬ node.Sound := by
      rw [← Bool.not_eq_false, isRejected_eq_false_iff_sound]
      simp only [not_forall, exists_prop]
    simp only [hfault, Node.not_sound_iff, Node.blocks, List.mem_filter, and_or_left, exists_or,
      and_assoc]
  · intro h
    obtain ⟨count, codes, hperm, hmirrors, hindex, -⟩ := mirrored_ofSource h []
    refine ⟨codes, hperm, ?_, ?_⟩
    · rw [hindex, List.range_eq_range']
    · have hsound := isRejected_eq_false_iff_sound.1 h
      have hblocks : ∀ block ∈ (Node.ofSource source).blocks,
          (block.declarations.map (·.1)).Nodup := by
        intro block hblock
        obtain ⟨hmem, hisBlock⟩ := List.mem_filter.1 hblock
        exact (hsound block hmem).nodup hisBlock
      have hboth := (List.forall₂_and_left _ _).2 ⟨hblocks, hmirrors⟩
      apply hboth.imp
      intro block code h
      exact ⟨h.2.declared, (h.2.declared.map _).nodup_iff.2 h.1⟩

/-- A block inside a block declares a name of its own that the block around it declares too. -/
theorem refused_for_faults_nested :
    (Program.ofSource true
        "Def Twice (Let own Own 1; Print Own; Def Twice ()); Let Own 2".toList).isRejected = false ∧
      ∃ codes : List Block,
        codes.Perm (((Program.ofSource true
          "Def Twice (Let own Own 1; Print Own; Def Twice ()); Let Own 2".toList).root.placed
            []).map (·.1)) ∧
        codes.map (·.index) = List.range codes.length ∧
        List.Forall₂ (fun block code => code.declared.Perm block.declarations ∧
          (code.declared.map (·.1)).Nodup)
          (Node.ofSource
            "Def Twice (Let own Own 1; Print Own; Def Twice ()); Let Own 2".toList).blocks codes := by
  have haccepted : (Program.ofSource true
      "Def Twice (Let own Own 1; Print Own; Def Twice ()); Let Own 2".toList).isRejected = false := by
    decide +kernel
  exact ⟨haccepted, (refused_for_faults _ _).2.2 haccepted⟩

end Program

end StackProse
