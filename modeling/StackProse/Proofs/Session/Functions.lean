import StackProse.Proofs.Session.Prelude

/-!
# The functions of the prelude

`Session.outlines` gives the code of `Do`, `Map` and `Filter` without numbers and places. That the
functions of the prelude have these outlines is checked once, by evaluation, and all that is said about
runs of these functions starts from there. `Machine.HasPrelude` is what such a run relies on: seen from
the frame of the prelude, the names stand for functions with these outlines, and no word of the language
is bound. It holds of a session that has started, and as long as frames are kept.

The functions that go over a list have one form (`Session.overList`), and its two branches are
`HasPrelude.computes_overList_nil` and `HasPrelude.computes_overList_cons`. What differs from one
function to the other is only the step.
-/

namespace StackProse

open Machine

namespace Session

/-- The names that the prelude defines, with the code of each. -/
def preludeFunctions : List (String × Block) :=
  Item.definitions (Program.ofSource false preludeSource.toList).root.body

/-- A function that goes over a list `L`: it takes what it works with and the list, gives the empty
list if there are no items, and runs the block with these outlines otherwise. -/
def overList (name : String) (declared : Declarations) (outlines : List Outline) : List Outline :=
  [.word name, .word "Let", .word "L", .word "Let", .block declared outlines,
    .block [] [.word "Empty"], .word "L", .word "Empty?", .word "If", .word "Do"]

/-- `Push Do F First L Map F Rest L` -/
def mapStep : List Outline :=
  [.word "L", .word "Rest", .word "F", .word "Map", .word "L", .word "First", .word "F", .word "Do",
    .word "Push"]

/-- `Do If Do P X (Push X R) (R)` -/
def filterChoice : List Outline :=
  [.block [] [.word "R"], .block [] [.word "R", .word "X", .word "Push"], .word "X", .word "P",
    .word "Do", .word "If", .word "Do"]

/-- `Let R be Filter P Rest L; Let X be First L`, and then the choice. -/
def filterStep : List Outline :=
  [.word "L", .word "Rest", .word "P", .word "Filter", .word "R", .word "Let", .word "L",
    .word "First", .word "X", .word "Let"] ++ filterChoice

/-- The outlines of functions of the prelude. -/
def outlines : List (String × Declarations × List Outline) :=
  [("Do", [("F", .function)], [.word "F", .word "Def", .word "F"]),
    ("Map", [("F", .value), ("L", .value)], overList "F" [] mapStep),
    ("Filter", [("P", .value), ("L", .value)],
      overList "P" [("R", .value), ("X", .value)] filterStep)]

theorem preludeFunctions_fit :
    preludeFunctions.map (·.1) = preludeDeclared.map (·.1) ∧
      ∀ entry ∈ outlines, (preludeFunctions.lookup entry.1).any fun code =>
        (Outline.block entry.2.1 entry.2.2).fits (.block code) := by
  unfold preludeFunctions preludeSource
  rw [String.toList_ofList]
  set_option maxRecDepth 100000 in
  decide +kernel

end Session

/-- What a frame shows after definitions, if none is made twice. -/
theorem Frame.lookup_foldl_define (place : FrameId) {definitions : List (String × Block)}
    (hnodup : (definitions.map (·.1)).Nodup) (frame : Frame) (name : String) :
    (definitions.foldl (Frame.define place) frame).bindings.lookup name =
      ((definitions.lookup name).map fun code => .function ⟨code, some place⟩).or
        (frame.bindings.lookup name) := by
  induction definitions generalizing frame with
  | nil => rfl
  | cons definition definitions ih =>
      obtain ⟨defined, code⟩ := definition
      rw [List.map_cons, List.nodup_cons] at hnodup
      rw [List.foldl_cons, ih hnodup.2, List.lookup_cons, Frame.define]
      by_cases hname : name = defined
      · have hlater : definitions.lookup defined = none := by
          rw [List.lookup_eq_none_iff]
          intro entry hentry
          rw [bne_iff_ne]
          rintro rfl
          exact hnodup.1 (List.mem_map.2 ⟨entry, hentry, rfl⟩)
        rw [hname, hlater, Frame.lookup_bind_self, beq_self_eq_true]
        rfl
      · rw [Frame.lookup_bind_of_ne hname, beq_false_of_ne hname]

namespace Machine

/-- Seen from a frame, the functions of the prelude are those with the known outlines, and no word of
the language is bound to anything. -/
structure HasPrelude (machine : Machine) (home : FrameId) : Prop where
  isThere : home < machine.frames.all.size
  functions : ∀ entry ∈ Session.outlines, ∃ code,
    machine.frames.lookup home entry.1 = some (.function ⟨code, some home⟩) ∧
      code.HasOutline entry.2.1 entry.2.2
  vocabulary : ∀ name, isVocabulary name → machine.frames.lookup home name = none

theorem HasPrelude.keptIn {machine later : Machine} {home : FrameId} (h : machine.HasPrelude home)
    (hkept : machine.frames.KeptIn later.frames) : later.HasPrelude home where
  isThere := hkept.lt_size h.isThere
  functions := by
    rw [hkept.lookup_eq h.isThere]
    exact h.functions
  vocabulary := by
    rw [hkept.lookup_eq h.isThere]
    exact h.vocabulary

end Machine

namespace Session

/-- The prelude defines nothing but what it has declared, and no word of the language. -/
theorem lookup_preludeFunctions {name : String} (h : isVocabulary name) :
    preludeFunctions.lookup name = none ∧ preludeDeclared.lookup name = none := by
  have hnames : ∀ defined ∈ preludeDeclared.map (·.1), isVocabulary defined = false := by
    decide +kernel
  have hne : ∀ defined ∈ preludeDeclared.map (·.1), name != defined := by
    intro defined hdefined
    rw [bne_iff_ne]
    rintro rfl
    rw [hnames name hdefined] at h
    contradiction
  constructor
  · rw [List.lookup_eq_none_iff]
    intro entry hentry
    apply hne
    rw [← preludeFunctions_fit.1]
    exact List.mem_map_of_mem hentry
  · rw [List.lookup_eq_none_iff]
    intro entry hentry
    exact hne _ (List.mem_map_of_mem hentry)

/-- A session that has started shows the functions of the prelude from its frame. -/
theorem hasPrelude_of_start {limit : Nat} {markup : Markup} {console : Console}
    {engine : Engine} {session : Session}
    (h : Session.start limit markup console preludeSource.toList engine = .ok session) :
    ∃ home, session.frame = some home ∧ session.machine.HasPrelude home := by
  obtain ⟨frames, last, hmachine, hframe, hsize, hlast, hdefines, hfunctions⟩ :=
    exists_of_start_prelude h
  have hdeclared := preludeSource_definitions.2.2.2
  have hnodup : (preludeFunctions.map (·.1)).Nodup := by
    rw [preludeFunctions_fit.1]
    decide
  have hlookup (name : String) : session.machine.frames.lookup 0 name =
      ((preludeFunctions.lookup name).map fun code => .function ⟨code, some 0⟩).or
        ((preludeDeclared.lookup name).map .pending) := by
    have houtermost : session.machine.frames.lookup 0 name = last.bindings.lookup name := by
      rw [hmachine]
      exact lookup_outermost (show frames.keep.all[0]? = some last from hlast) hdefines.parent name
    rw [houtermost, hfunctions, ← preludeFunctions, Frame.lookup_foldl_define 0 hnodup,
      Frame.lookup_ofBlock_eq, hdeclared]
  refine ⟨0, hframe, ?_, ?_, ?_⟩
  · rw [hmachine]
    exact hsize ▸ Nat.one_pos
  · intro entry hentry
    obtain ⟨code, hcode, hfits⟩ := (Option.any_eq_true _ _).1 (preludeFunctions_fit.2 entry hentry)
    refine ⟨code, ?_, Outline.fits_block_iff.1 hfits⟩
    rw [hlookup, hcode]
    rfl
  · intro name hname
    obtain ⟨hfunction, hpending⟩ := lookup_preludeFunctions hname
    rw [hlookup, hfunction, hpending]
    rfl

end Session

theorem ne_of_isVocabulary {word name : String} (hword : isVocabulary word)
    (hname : isVocabulary name = false) : word ≠ name := by
  rintro rfl
  rw [hname] at hword
  contradiction

namespace Sight

variable {name other : String} {held list : Value} {outer : Sight}

theorem inside_nil (outer : Sight) : inside [] outer = outer :=
  rfl

/-- What names stand for in a function over a list, once it has taken its operands. -/
def overList (name : String) (held list : Value) (outer : Sight) : Sight :=
  Function.update (Function.update (inside [(name, .value), ("L", .value)] outer) name
    (some (.value held))) "L" (some (.value list))

theorem inside_of_ne {first second : String} (hfirst : name ≠ first) (hsecond : name ≠ second) :
    inside [(first, .value), (second, .value)] outer name = outer name := by
  simp [inside, List.lookup_cons, beq_false_of_ne hfirst, beq_false_of_ne hsecond]

theorem overList_of_ne (hname : other ≠ name) (hlist : other ≠ "L") :
    overList name held list outer other = outer other := by
  rw [overList, Function.update_of_ne hlist, Function.update_of_ne hname, inside_of_ne hname hlist]

theorem overList_list : overList name held list outer "L" = some (.value list) :=
  Function.update_self _ _ _

theorem overList_held (hname : name ≠ "L") :
    overList name held list outer name = some (.value held) := by
  rw [overList, Function.update_of_ne hname, Function.update_self]

end Sight

namespace Machine.HasPrelude

variable {base : Machine} {home : FrameId} (h : base.HasPrelude home)

include h

/-- No word of the language is bound in a function over a list. -/
theorem overList_vocabulary {name word : String} (hname : isVocabulary name = false)
    (hword : isVocabulary word) (held list : Value) :
    Sight.overList name held list (base.frames.lookup home) word = none := by
  rw [Sight.overList_of_ne (ne_of_isVocabulary hword hname) (ne_of_isVocabulary hword rfl),
    h.vocabulary word hword]

/-- What a name of the prelude is bound to has the outline that is known of it. -/
theorem exists_code {entry : String × Declarations × List Outline} (hentry : entry ∈ Session.outlines)
    {closure : Closure} (hlookup : base.frames.lookup home entry.1 = some (.function closure)) :
    ∃ code, closure = ⟨code, some home⟩ ∧ code.HasOutline entry.2.1 entry.2.2 := by
  obtain ⟨code, hcode, houtline⟩ := h.functions entry hentry
  rw [hcode] at hlookup
  cases hlookup
  exact ⟨code, rfl, houtline⟩

theorem exists_do : ∃ closure, base.frames.lookup home "Do" = some (.function closure) := by
  obtain ⟨code, hcode, -⟩ := h.functions _ List.mem_cons_self
  exact ⟨_, hcode⟩

/-- On every machine that comes later, `Do` runs the block on top of the stack. -/
theorem computes_do {closure : Closure}
    (hdo : base.frames.lookup home "Do" = some (.function closure)) {later : Machine}
    (hlater : base.Continues later) {room : Nat} {active : List BeginId} {code : Block}
    {place : Option FrameId} {stack result : List Value}
    (hblock : later.Computes room active ⟨code, place⟩ stack result) :
    later.Computes (room + 1) active closure (.block code place :: stack) result := by
  obtain ⟨doCode, rfl, houtline⟩ := h.exists_code List.mem_cons_self hdo
  have hprelude := h.keptIn hlater.frames
  refine .of_leads houtline hprelude.isThere fun machine hmachine => ?_
  refine .declare .function rfl (hprelude.vocabulary "Def" rfl) rfl ?_
  refine .call result (Function.update_self _ _ _) rfl ?_ .nil
  intro last hlast
  exact hblock.continues (hmachine.trans hlast.toContinues)

/-- A function over a list looks whether there are items and runs one of its two blocks. There, names
stand for what they stand for in the function. -/
theorem computes_overList {name : String} {declared : Declarations} {outlines : List Outline}
    {code : Block} (hcode : code.HasOutline [(name, .value), ("L", .value)]
      (Session.overList name declared outlines))
    (hvocabulary : isVocabulary name = false) (hname : "Do" ≠ name) {room : Nat}
    {active : List BeginId} {held list : Value} {below result : List Value} {isEmpty : Bool}
    (hempty : Applies "Empty?" [list] (.boolean isEmpty))
    (hchosen : ∀ (machine : Machine) (frame : FrameId) (chosen : Block),
      base.Continues machine → frame < machine.frames.all.size →
      machine.frames.lookup frame =
        Sight.overList name held list (base.frames.lookup home) →
      (if isEmpty then chosen.HasOutline [] [.word "Empty"]
        else chosen.HasOutline declared outlines) →
      machine.Computes room active ⟨chosen, some frame⟩ below result) :
    base.Computes (room + 2) active ⟨code, some home⟩ (held :: list :: below) result := by
  have hnone (word : String) (hword : isVocabulary word) :=
    h.overList_vocabulary hvocabulary hword held list
  have hne : "Let" ≠ name := ne_of_isVocabulary rfl hvocabulary
  have hlet : Sight.inside [(name, .value), ("L", .value)] (base.frames.lookup home) "Let" = none := by
    rw [Sight.inside_of_ne hne (by decide), h.vocabulary "Let" rfl]
  obtain ⟨closure, hdo⟩ := h.exists_do
  refine .of_leads hcode h.isThere fun machine hmachine => ?_
  refine .declare .value rfl hlet rfl ?_
  refine .declare .value rfl ((Function.update_of_ne hne _ _).trans hlet) rfl ?_
  refine .block fun step hstep => ?_
  refine .block fun empty hnoItems => ?_
  refine .value Sight.overList_list rfl rfl ?_
  refine .builtin hempty (hnone _ rfl) rfl ?_
  refine .builtin (applies_if isEmpty _ _) (hnone _ rfl) rfl ?_
  refine .call result ((Sight.overList_of_ne hname (by decide)).trans hdo) rfl ?_ .nil
  intro later hlater
  have hcontinues := hmachine.trans hlater.toContinues
  cases isEmpty with
  | true =>
      exact h.computes_do hdo hcontinues
        (hchosen later _ empty hcontinues hlater.isThere hlater.lookup_eq hnoItems)
  | false =>
      exact h.computes_do hdo hcontinues
        (hchosen later _ step hcontinues hlater.isThere hlater.lookup_eq hstep)

section

variable {name : String} {declared : Declarations} {outlines : List Outline} {code : Block}
  (hcode : code.HasOutline [(name, .value), ("L", .value)]
    (Session.overList name declared outlines))
  (hvocabulary : isVocabulary name = false) (hname : "Do" ≠ name) {room : Nat}
  {active : List BeginId} {held list : Value} {below result : List Value}

include hcode hvocabulary hname

/-- Without items a function over a list gives the empty list. -/
theorem computes_overList_nil (hempty : Applies "Empty?" [list] (.boolean true)) :
    base.Computes (room + 3) active ⟨code, some home⟩ (held :: list :: below)
      (.list [] :: below) := by
  refine h.computes_overList hcode hvocabulary hname hempty ?_
  intro machine frame chosen hmachine hframe hlookup hchosen
  refine .of_leads hchosen hframe fun later hlater => ?_
  refine .builtin applies_empty ?_ rfl .nil
  rw [Sight.inside_nil, hlookup, h.overList_vocabulary hvocabulary rfl]

/-- With items a function over a list does what its step does. -/
theorem computes_overList_cons (hempty : Applies "Empty?" [list] (.boolean false))
    (hstep : ∀ (machine : Machine) (frame : FrameId) (userCode : Bool), base.Continues machine →
      machine.Leads (process room) ⟨frame, userCode, active⟩
        (Sight.inside declared (Sight.overList name held list (base.frames.lookup home)))
        outlines below result) :
    base.Computes (room + 3) active ⟨code, some home⟩ (held :: list :: below) result := by
  refine h.computes_overList hcode hvocabulary hname hempty ?_
  intro machine frame chosen hmachine hframe hlookup hchosen
  refine .of_leads hchosen hframe fun later hlater => ?_
  rw [hlookup]
  exact hstep later _ _ (hmachine.trans hlater)

end

end Machine.HasPrelude

end StackProse
