import Mathlib.Logic.Function.Basic
import StackProse.Proofs.Builtin.Applied
import StackProse.Proofs.Machine.Growth

/-!
# Code known by its outline

How a block runs does not depend on the numbers of blocks or on the places of words. `Outline` is what
is left without them, and whether a block has a given outline can be checked.

`Machine.Computes` says what a run of a block makes of a stack. It is proved from the outline of the
block, item by item: `Machine.Leads` says what items make of a stack where names stand for given things,
and there is one rule for each kind of item. What a name stands for is all that the items learn from the
frames, a `Sight`. It changes when they declare a name, and it is the same again when a function that
they call has come to its end.
-/

namespace StackProse

/-! ### Outlines -/

/-- What an item does, without numbers and places. Literals are left out. -/
inductive Outline
  | word (name : String)
  | block (declared : Declarations) (items : List Outline)

namespace Outline

mutual

/-- The item has the outline. -/
def fits : Outline → Item → Bool
  | word name, .word found => found.name == name
  | block declared outlines, .block code =>
      decide (code.declared = declared) && fitAll outlines code.body
  | _, _ => false

/-- The items have the outlines. -/
def fitAll : List Outline → List Item → Bool
  | [], [] => true
  | outline :: outlines, item :: items => outline.fits item && fitAll outlines items
  | _, _ => false

end

/-- The first of the outlines is one of a word that takes the name before it as it is. -/
def takesName : List Outline → Bool
  | word name :: _ => (Keyword.ofName? name).any Keyword.takesName
  | _ => false

end Outline

/-- The block declares these names and its items have these outlines. -/
structure Block.HasOutline (code : Block) (declared : Declarations) (outlines : List Outline) :
    Prop where
  declared_eq : code.declared = declared
  fitAll : Outline.fitAll outlines code.body

namespace Outline

variable {outlines : List Outline} {items : List Item}

theorem fits_block_iff {code : Block} {declared : Declarations} :
    fits (block declared outlines) (.block code) ↔ code.HasOutline declared outlines := by
  rw [fits, Bool.and_eq_true, decide_eq_true_iff]
  exact ⟨fun h => ⟨h.1, h.2⟩, fun h => ⟨h.1, h.2⟩⟩

theorem exists_of_fitAll_word {name : String} (h : fitAll (word name :: outlines) items) :
    ∃ found rest, items = .word found :: rest ∧ found.name = name ∧ fitAll outlines rest := by
  cases items with
  | nil => simp [fitAll] at h
  | cons item rest =>
      rw [fitAll, Bool.and_eq_true] at h
      cases item with
      | word found =>
          rw [fits, beq_iff_eq] at h
          exact ⟨found, rest, rfl, h.1, h.2⟩
      | literal | block => simp [fits] at h

theorem exists_of_fitAll_block {declared : Declarations} {inner : List Outline}
    (h : fitAll (block declared inner :: outlines) items) :
    ∃ code rest, items = .block code :: rest ∧ code.HasOutline declared inner ∧
      fitAll outlines rest := by
  cases items with
  | nil => simp [fitAll] at h
  | cons item rest =>
      rw [fitAll, Bool.and_eq_true] at h
      cases item with
      | block code => exact ⟨code, rest, rfl, fits_block_iff.1 h.1, h.2⟩
      | literal | word => simp [fits] at h

theorem eq_nil_of_fitAll (h : fitAll [] items) : items = [] := by
  cases items with
  | nil => rfl
  | cons item rest => simp [fitAll] at h

theorem takesNameBefore_eq (h : fitAll outlines items) :
    Machine.takesNameBefore items = takesName outlines := by
  cases outlines with
  | nil =>
      rw [eq_nil_of_fitAll h]
      rfl
  | cons outline outlines =>
      cases outline with
      | word name =>
          obtain ⟨found, rest, rfl, rfl, -⟩ := exists_of_fitAll_word h
          rfl
      | block declared inner =>
          obtain ⟨code, rest, rfl, -, -⟩ := exists_of_fitAll_block h
          rfl

end Outline

/-! ### What names stand for -/

/-- What names stand for, seen from a frame. -/
abbrev Sight := String → Option Binding

/-- What names stand for at the beginning of a block with the given declarations. -/
def Sight.inside (declared : Declarations) (outer : Sight) : Sight :=
  fun name => ((declared.lookup name).map .pending).or (outer name)

theorem Frame.lookup_ofBlock_eq (code : Block) (parent : Option FrameId) (name : String) :
    (Frame.ofBlock code parent).bindings.lookup name =
      (code.declared.lookup name).map .pending := by
  simp only [Frame.ofBlock]
  generalize code.declared = declared
  induction declared with
  | nil => rfl
  | cons entry rest ih =>
      rw [List.map_cons, List.lookup_cons, List.lookup_cons, ih]
      cases name == entry.1 <;> rfl

theorem Frame.lookup_bind_self (frame : Frame) (name : String) (binding : Binding) :
    (frame.bind name binding).bindings.lookup name = some binding := by
  unfold Frame.bind
  generalize frame.bindings = bindings
  induction bindings with
  | nil => simp [bindIn]
  | cons entry rest ih =>
      obtain ⟨found, held⟩ := entry
      simp only [bindIn]
      by_cases hname : found = name
      · rw [if_pos hname, List.lookup_cons_self]
      · rw [if_neg hname, List.lookup_cons, beq_false_of_ne (Ne.symm hname)]
        exact ih

namespace Frames

variable {frames later : Frames} {id : FrameId}

theorem KeptIn.lt_size (h : frames.KeptIn later) (hid : id < frames.all.size) :
    id < later.all.size :=
  (Array.getElem?_eq_some_iff.1 (h id _ (Array.getElem?_eq_getElem hid))).1

/-- As long as frames are kept, names stand for the same. -/
theorem KeptIn.lookup_eq (h : frames.KeptIn later) (hid : id < frames.all.size) :
    later.lookup id = frames.lookup id := by
  funext name
  apply Frames.lookup_congr
  intro earlier hearlier
  have hframe := Array.getElem?_eq_getElem (hearlier.trans_lt hid)
  rw [h earlier _ hframe, hframe]

theorem lookup_add_ofBlock {place : FrameId} (hplace : place < frames.all.size) (code : Block) :
    (frames.add (.ofBlock code (some place))).2.lookup frames.all.size =
      Sight.inside code.declared (frames.lookup place) := by
  funext name
  have hframe : (frames.add (.ofBlock code (some place))).2.all[frames.all.size]? =
      some (.ofBlock code (some place)) := by
    simp [Frames.add]
  rw [Frames.lookup, hframe]
  dsimp only
  rw [Frame.lookup_ofBlock_eq, Sight.inside]
  cases code.declared.lookup name with
  | some declaration => rfl
  | none =>
      simp only [Frame.ofBlock, if_pos hplace, Option.map_none, Option.none_or]
      exact Frames.lookup_add_of_lt _ hplace name

/-- A declaration changes what the name stands for in its own frame. -/
theorem lookup_bind (hid : id < frames.all.size) (name : String) (binding : Binding) :
    (frames.bind id name binding).lookup id =
      Function.update (frames.lookup id) name (some binding) := by
  have hframe := Array.getElem?_eq_getElem hid
  generalize frames.all[id] = frame at hframe
  funext other
  rw [Frames.lookup, getElem?_bind_self hframe]
  by_cases hother : other = name
  · rw [hother, Function.update_self]
    dsimp only
    rw [Frame.lookup_bind_self]
  · rw [Function.update_of_ne hother, Frames.lookup, hframe]
    dsimp only
    rw [Frame.lookup_bind_of_ne hother]
    cases frame.bindings.lookup other with
    | some found => rfl
    | none =>
        dsimp only [Frame.bind]
        cases frame.parent with
        | none => rfl
        | some parent =>
            dsimp only
            by_cases hparent : parent < id
            · rw [if_pos hparent, if_pos hparent, Frames.lookup_congr]
              intro earlier hearlier
              exact getElem?_bind_of_ne (Nat.ne_of_lt (hearlier.trans_lt hparent))
            · rw [if_neg hparent, if_neg hparent]

end Frames

/-! ### Runs of blocks -/

namespace Machine

/-- A declaring word takes the name before it and a value from the stack, and binds the name in the
frame of its block. -/
theorem runItems_declaration (runner : Runner) (scene : Scene) (declaration : Declaration)
    {name keyword : Word} {rest : List Item} (machine : Machine) {held : Value} {binding : Binding}
    (below : List Value) (hkeyword : keyword.name = declaration.keyword)
    (hrest : takesNameBefore rest = false)
    (hlookup : machine.frames.lookup scene.frame declaration.keyword = none)
    (hbinding : declaration.binding? held = some binding) :
    runItems runner scene (.word name :: .word keyword :: rest)
        { machine with stack := held :: below } =
      runItems runner scene rest { machine with
        stack := below, frames := machine.frames.bind scene.frame name.name binding } := by
  have htakes : takesNameBefore (.word keyword :: rest) = true := by
    simp only [takesNameBefore, hkeyword]
    cases declaration <;> rfl
  have hdeed : Deed.ofItem scene rest (.word keyword)
      { machine with stack := .identifier name.name :: held :: below } =
        .done (.ok () { machine with
          stack := below, frames := machine.frames.bind scene.frame name.name binding }) := by
    simp only [Deed.ofItem, hrest, Bool.false_eq_true, if_false, Deed.ofWord, hkeyword, hlookup]
    cases declaration with
    | value =>
        obtain rfl := Option.some.inj hbinding
        rfl
    | function =>
        cases held with
        | block code place =>
            obtain rfl := Option.some.inj hbinding
            rfl
        | _ => simp [Declaration.binding?] at hbinding
  rw [runItems_cons, Deed.ofItem, if_pos htakes]
  change runItems runner scene (.word keyword :: rest)
    { machine with stack := .identifier name.name :: held :: below } = _
  rw [runItems_cons, hdeed, Deed.perform]

/-- Boxes keep what they hold, and nothing is printed. -/
structure Spares (machine after : Machine) : Prop where
  boxes : ∀ id value, machine.heap.get? id = some value → after.heap.get? id = some value
  console : after.console = machine.console

/-- A machine comes later: it has kept all frames and boxes, and nothing has been printed. -/
structure Continues (machine later : Machine) : Prop extends Spares machine later where
  frames : machine.frames.KeptIn later.frames

section

variable {machine later last : Machine}

theorem Spares.refl (machine : Machine) : machine.Spares machine :=
  ⟨fun _ _ h => h, rfl⟩

theorem Spares.trans (h : machine.Spares later) (h' : later.Spares last) : machine.Spares last :=
  ⟨fun id value hvalue => h'.boxes id value (h.boxes id value hvalue), h'.console.trans h.console⟩

theorem Continues.refl (machine : Machine) : machine.Continues machine :=
  ⟨.refl _, .refl _⟩

theorem Continues.trans (h : machine.Continues later) (h' : later.Continues last) :
    machine.Continues last :=
  ⟨h.toSpares.trans h'.toSpares, h.frames.trans h'.frames⟩

end

/-- On a machine that comes after `base`, a run of the block turns one stack into the other and spares
everything else. -/
def Computes (base : Machine) (room : Nat) (active : List BeginId) (closure : Closure)
    (stack result : List Value) : Prop :=
  ∀ machine, base.Continues machine → ∃ frame after,
    process room active closure { machine with stack := stack } = .ok frame after ∧
      after.stack = result ∧ machine.Spares after

theorem Computes.continues {base later : Machine} {room : Nat} {active : List BeginId}
    {closure : Closure} {stack result : List Value}
    (h : base.Computes room active closure stack result) (hlater : base.Continues later) :
    later.Computes room active closure stack result :=
  fun machine hmachine => h machine (hlater.trans hmachine)

/-- The frame is one that `base` does not have yet, and names stand for what is given. -/
structure Sees (base : Machine) (frame : FrameId) (sight : Sight) (machine : Machine) : Prop
    extends Continues base machine where
  isNew : base.frames.all.size ≤ frame
  isThere : frame < machine.frames.all.size
  lookup_eq : machine.frames.lookup frame = sight

/-- Where names stand for what is given, items with these outlines turn one stack into the other and
spare everything else, but for their frame. -/
def Leads (base : Machine) (runner : Runner) (scene : Scene) (sight : Sight)
    (outlines : List Outline) (stack result : List Value) : Prop :=
  ∀ items machine, Outline.fitAll outlines items → base.Sees scene.frame sight machine → ∃ after,
    runItems runner scene items { machine with stack := stack } = .ok () after ∧
      after.stack = result ∧ machine.Spares after

/-- A block computes what its items lead to in a frame of their own. -/
theorem Computes.of_leads {base : Machine} {code : Block} {place : FrameId} {declared : Declarations}
    {outlines : List Outline} {room : Nat} {active : List BeginId} {stack result : List Value}
    (hcode : code.HasOutline declared outlines) (hplace : place < base.frames.all.size)
    (h : ∀ machine, base.Continues machine →
      machine.Leads (process room) ⟨machine.frames.all.size, code.userCode, active⟩
        (Sight.inside declared (base.frames.lookup place)) outlines stack result) :
    base.Computes (room + 1) active ⟨code, some place⟩ stack result := by
  intro machine hmachine
  let framed : Machine :=
    { machine with frames := (machine.frames.add (.ofBlock code (some place))).2 }
  have hsees : machine.Sees machine.frames.all.size
      (Sight.inside declared (base.frames.lookup place)) framed := by
    refine ⟨⟨⟨fun _ _ h => h, rfl⟩, Frames.keptIn_add _ _⟩, le_rfl, by simp [framed, Frames.add], ?_⟩
    rw [← hmachine.frames.lookup_eq hplace, ← hcode.declared_eq]
    exact Frames.lookup_add_ofBlock (hmachine.frames.lt_size hplace) code
  obtain ⟨after, hrun, hstack, hspares⟩ := h machine hmachine code.body framed hcode.fitAll hsees
  refine ⟨machine.frames.all.size, after, ?_, hstack, hspares.boxes, hspares.console⟩
  rw [process_succ]
  dsimp only
  rw [hrun]

namespace Leads

variable {base : Machine} {runner : Runner} {scene : Scene} {sight : Sight} {name : String}
  {rest : List Outline} {stack below result : List Value}

theorem nil : base.Leads runner scene sight [] stack stack := by
  intro items machine hitems _
  rw [Outline.eq_nil_of_fitAll hitems]
  exact ⟨_, rfl, rfl, fun _ _ h => h, rfl⟩

/-- A block is pushed with the frame. -/
theorem block {declared : Declarations} {inner : List Outline}
    (h : ∀ code : Block, code.HasOutline declared inner →
      base.Leads runner scene sight rest (.block code (some scene.frame) :: stack) result) :
    base.Leads runner scene sight (.block declared inner :: rest) stack result := by
  intro items machine hitems hsees
  obtain ⟨code, others, rfl, hcode, hothers⟩ := Outline.exists_of_fitAll_block hitems
  exact h code hcode others machine hothers hsees

/-- A name that is bound to a value pushes the value. -/
theorem value {held : Value} (hname : sight name = some (.value held))
    (hvocabulary : isVocabulary name = false) (hrest : Outline.takesName rest = false)
    (h : base.Leads runner scene sight rest (held :: stack) result) :
    base.Leads runner scene sight (.word name :: rest) stack result := by
  intro items machine hitems hsees
  obtain ⟨found, others, rfl, rfl, hothers⟩ := Outline.exists_of_fitAll_word hitems
  have htakes := (Outline.takesNameBefore_eq hothers).trans hrest
  have hlookup : machine.frames.lookup scene.frame found.name = some (.value held) := by
    rw [hsees.lookup_eq, hname]
  obtain ⟨hkeyword, hbuiltin⟩ :
      Keyword.ofName? found.name = none ∧ Builtin.ofName? found.name = none := by
    simpa [isVocabulary] using hvocabulary
  have hdeed : Deed.ofItem scene others (.word found) { machine with stack := stack } =
      .done (.ok () { machine with stack := held :: stack }) := by
    simp only [Deed.ofItem, htakes, Bool.false_eq_true, if_false, Deed.ofWord, hlookup,
      Deed.ofVocabulary, hkeyword, hbuiltin]
    rfl
  rw [runItems_cons, hdeed]
  exact h others machine hothers hsees

/-- A builtin word whose name is bound to nothing is applied. -/
theorem builtin {operands : List Value} {computed : Value} (happlies : Applies name operands computed)
    (hname : sight name = none) (hrest : Outline.takesName rest = false)
    (h : base.Leads runner scene sight rest (computed :: below) result) :
    base.Leads runner scene sight (.word name :: rest) (operands ++ below) result := by
  intro items machine hitems hsees
  obtain ⟨found, others, rfl, hfound, hothers⟩ := Outline.exists_of_fitAll_word hitems
  have htakes := (Outline.takesNameBefore_eq hothers).trans hrest
  have hlookup : machine.frames.lookup scene.frame name = none := by
    rw [hsees.lookup_eq, hname]
  rw [happlies.runItems runner hfound htakes hlookup]
  exact h others machine hothers hsees

/-- A declaration takes a value from the stack and changes what its name stands for. -/
theorem declare (declaration : Declaration) {held : Value} {binding : Binding}
    (hbinding : declaration.binding? held = some binding)
    (hkeyword : sight declaration.keyword = none) (hrest : Outline.takesName rest = false)
    (h : base.Leads runner scene (Function.update sight name (some binding)) rest below result) :
    base.Leads runner scene sight (.word name :: .word declaration.keyword :: rest) (held :: below)
      result := by
  intro items machine hitems hsees
  obtain ⟨named, others, rfl, rfl, hothers⟩ := Outline.exists_of_fitAll_word hitems
  obtain ⟨keyword, others, rfl, hword, hafter⟩ := Outline.exists_of_fitAll_word hothers
  have htakes := (Outline.takesNameBefore_eq hafter).trans hrest
  have hlookup : machine.frames.lookup scene.frame declaration.keyword = none := by
    rw [hsees.lookup_eq, hkeyword]
  rw [runItems_declaration runner scene declaration machine below hword htakes hlookup hbinding]
  let bound : Machine :=
    { machine with frames := machine.frames.bind scene.frame named.name binding }
  have hkept : base.frames.KeptIn bound.frames := by
    intro id frame hframe
    have hid := (Array.getElem?_eq_some_iff.1 hframe).1
    exact (Frames.getElem?_bind_of_ne (Nat.ne_of_lt (hid.trans_le hsees.isNew))).trans
      (hsees.frames id frame hframe)
  have hbound : base.Sees scene.frame (Function.update sight named.name (some binding)) bound := by
    refine ⟨⟨⟨hsees.boxes, hsees.console⟩, hkept⟩, hsees.isNew, ?_, ?_⟩
    · simpa [bound, Frames.bind] using hsees.isThere
    · rw [← hsees.lookup_eq]
      exact Frames.lookup_bind hsees.isThere named.name binding
  obtain ⟨after, hrun, hstack, hspares⟩ := h others bound hafter hbound
  exact ⟨after, hrun, hstack, hspares.boxes, hspares.console⟩

/-- A name that is bound to a function runs it. Whatever the function does, names stand for the same
afterwards. -/
theorem call (middle : List Value) {room : Nat} {closure : Closure}
    (hname : sight name = some (.function closure)) (hrest : Outline.takesName rest = false)
    (hcall : ∀ machine, base.Sees scene.frame sight machine →
      machine.Computes room scene.active closure stack middle)
    (h : base.Leads (process room) scene sight rest middle result) :
    base.Leads (process room) scene sight (.word name :: rest) stack result := by
  intro items machine hitems hsees
  obtain ⟨found, others, rfl, rfl, hothers⟩ := Outline.exists_of_fitAll_word hitems
  have htakes := (Outline.takesNameBefore_eq hothers).trans hrest
  have hlookup : machine.frames.lookup scene.frame found.name = some (.function closure) := by
    rw [hsees.lookup_eq, hname]
  obtain ⟨frame, after, hprocess, rfl, hspares⟩ := hcall machine hsees machine (.refl machine)
  have hkept : machine.frames.KeptIn after.frames := by
    have hkept := process_keptIn room scene.active closure { machine with stack := stack }
    rwa [hprocess] at hkept
  have hafter : base.Sees scene.frame sight after :=
    ⟨hsees.toContinues.trans ⟨hspares, hkept⟩, hsees.isNew, hkept.lt_size hsees.isThere,
      (hkept.lookup_eq hsees.isThere).trans hsees.lookup_eq⟩
  have hdeed : (Deed.ofItem scene others (.word found) { machine with stack := stack }).perform
      (process room) scene.active = .ok () after := by
    simp only [Deed.ofItem, htakes, Bool.false_eq_true, if_false, Deed.ofWord, hlookup,
      Deed.perform, hprocess]
    rfl
  obtain ⟨last, hrun, hstack, hlast⟩ := h others after hothers hafter
  rw [runItems_cons, hdeed]
  exact ⟨last, hrun, hstack, hspares.trans hlast⟩

end Leads

end Machine

end StackProse
