import StackProse.Proofs.Machine.Outlines
import StackProse.Proofs.Session.Runs

/-!
# The prelude can be loaded

The prelude does nothing but define functions. A block of that shape runs to its end on every machine
and binds each name to its code (`Machine.process_definitions`), so a session with the prelude starts
whatever its settings are, as long as there is room for one block (`Session.exists_start_prelude`).
-/

namespace StackProse

open Machine

namespace Item

/-- The items define functions, one after the other: a block, its name, and the defining word. No
function takes the name of that word. -/
def areDefinitions : List Item → Bool
  | [] => true
  | .block _ :: .word name :: .word keyword :: rest =>
      keyword.name == Keyword.define.name && name.name != Keyword.define.name && areDefinitions rest
  | _ => false

/-- The names that are defined, with the code of each. -/
def definitions : List Item → List (String × Block)
  | .block code :: .word name :: .word _ :: rest => (name.name, code) :: definitions rest
  | _ => []

end Item

/-- The frame with a definition that was made there. -/
def Frame.define (place : FrameId) (frame : Frame) (definition : String × Block) : Frame :=
  frame.bind definition.1 (.function ⟨definition.2, some place⟩)

namespace Machine

theorem takesNameBefore_of_areDefinitions {items : List Item} (h : Item.areDefinitions items) :
    takesNameBefore items = false := by
  cases items with
  | nil => rfl
  | cons item rest =>
      cases item with
      | literal | block => rfl
      | word => simp [Item.areDefinitions] at h

/-- From a frame without a parent nothing is seen but its own bindings. -/
theorem lookup_outermost {frames : Frames} {id : FrameId} {frame : Frame}
    (hframe : frames.all[id]? = some frame) (hparent : frame.parent = none) (name : String) :
    frames.lookup id name = frame.bindings.lookup name := by
  rw [Frames.lookup, hframe]
  dsimp only
  rw [hparent]
  cases frame.bindings.lookup name <;> rfl

/-- One definition binds its name in the frame and leaves the stack as it was. -/
theorem runItems_definition (runner : Runner) (scene : Scene) {code : Block} {name keyword : Word}
    {rest : List Item} (machine : Machine) (hkeyword : keyword.name = Keyword.define.name)
    (hrest : takesNameBefore rest = false)
    (hlookup : machine.frames.lookup scene.frame Keyword.define.name = none) :
    runItems runner scene (.block code :: .word name :: .word keyword :: rest) machine =
      runItems runner scene rest { machine with
        frames := machine.frames.bind scene.frame name.name
          (.function ⟨code, some scene.frame⟩) } := by
  rw [runItems_cons]
  exact runItems_declaration runner scene .function machine machine.stack hkeyword hrest hlookup rfl

end Machine

/-- A frame outside of all others, in which everything is pending or a function made there. -/
structure Frame.Defines (frame : Frame) (place : FrameId) : Prop where
  parent : frame.parent = none
  bindings : ∀ entry ∈ frame.bindings, (∃ declaration, entry.2 = .pending declaration) ∨
    ∃ code, entry.2 = .function ⟨code, some place⟩

theorem Frame.Defines.define {frame : Frame} {place : FrameId} (h : frame.Defines place)
    (definition : String × Block) : (frame.define place definition).Defines place where
  parent := h.parent
  bindings entry hentry := by
    rcases Machine.mem_bindIn hentry with rfl | hentry
    · exact Or.inr ⟨definition.2, rfl⟩
    · exact h.bindings entry hentry

theorem Frame.Defines.foldl_define {frame : Frame} {place : FrameId} (h : frame.Defines place)
    (definitions : List (String × Block)) :
    (definitions.foldl (Frame.define place) frame).Defines place := by
  induction definitions generalizing frame with
  | nil => exact h
  | cons definition definitions ih => exact ih (h.define definition)

theorem Frame.defines_ofBlock (code : Block) (place : FrameId) :
    (Frame.ofBlock code none).Defines place where
  parent := rfl
  bindings entry hentry := by
    obtain ⟨declaration, _, rfl⟩ := List.mem_map.1 hentry
    exact Or.inl ⟨_, rfl⟩

namespace Machine

/-- Definitions run to their end and change nothing but their frame. That frame never binds the
defining word itself. -/
theorem runItems_definitions (runner : Runner) (scene : Scene) {items : List Item}
    (h : Item.areDefinitions items) (machine : Machine) {frame : Frame}
    (hframe : machine.frames.all[scene.frame]? = some frame) (hparent : frame.parent = none)
    (hname : frame.bindings.lookup Keyword.define.name = none) :
    ∃ frames, runItems runner scene items machine = .ok () { machine with frames := frames } ∧
      frames.all.size = machine.frames.all.size ∧
      frames.all[scene.frame]? =
        some ((Item.definitions items).foldl (Frame.define scene.frame) frame) := by
  induction items using Item.areDefinitions.induct generalizing machine frame with
  | case1 => exact ⟨machine.frames, rfl, rfl, hframe⟩
  | case2 code name keyword rest ih =>
      simp only [Item.areDefinitions, Bool.and_eq_true, beq_iff_eq, bne_iff_ne] at h
      obtain ⟨⟨hkeyword, hne⟩, hrest⟩ := h
      have hnext := takesNameBefore_of_areDefinitions hrest
      rw [runItems_definition runner scene machine hkeyword hnext
        ((lookup_outermost hframe hparent _).trans hname)]
      have hunbound : (frame.define scene.frame (name.name, code)).bindings.lookup
          Keyword.define.name = none := by
        rw [Frame.define, Frame.lookup_bind_of_ne (Ne.symm hne)]
        exact hname
      obtain ⟨frames, hrun, hsize, hlast⟩ := ih hrest
        { machine with
          frames := machine.frames.bind scene.frame name.name (.function ⟨code, some scene.frame⟩) }
        (Frames.getElem?_bind_self hframe) hparent hunbound
      refine ⟨frames, hrun, ?_, hlast⟩
      simpa [Frames.bind] using hsize
  | case3 items hnil hcons => simp [Item.areDefinitions] at h

/-- A block of definitions, outside of all others, runs to its end where there is room for it, and
all that it leaves is its frame with the definitions. -/
theorem process_definitions {root : Block} (hbody : Item.areDefinitions root.body)
    (hdeclared : root.declared.lookup Keyword.define.name = none) (room : Nat)
    (active : List BeginId) (machine : Machine) :
    ∃ frames last, process (room + 1) active ⟨root, none⟩ machine =
        .ok machine.frames.all.size { machine with frames := frames } ∧
      frames.all.size = machine.frames.all.size + 1 ∧
      frames.all[machine.frames.all.size]? = some last ∧
      last.Defines machine.frames.all.size ∧
      last = (Item.definitions root.body).foldl (Frame.define machine.frames.all.size)
        (.ofBlock root none) := by
  have hname : (Frame.ofBlock root none).bindings.lookup Keyword.define.name = none := by
    rw [Frame.lookup_ofBlock_eq, hdeclared]
    rfl
  have hframe : (machine.frames.add (.ofBlock root none)).2.all[machine.frames.all.size]? =
      some (.ofBlock root none) := by
    simp [Frames.add]
  obtain ⟨frames, hrun, hsize, hlast⟩ := runItems_definitions (process room)
    ⟨machine.frames.all.size, root.userCode, active⟩ hbody
    { machine with frames := (machine.frames.add (.ofBlock root none)).2 } hframe rfl hname
  refine ⟨frames, _, by rw [process_succ, hrun], ?_, hlast,
    (Frame.defines_ofBlock root _).foldl_define _, rfl⟩
  simpa [Frames.add] using hsize

end Machine

namespace Session

/-- The functions that the prelude defines. -/
def preludeDeclared : Declarations :=
  ["Do", "Drop", "Swap", "Twin", "Triplet", "When", "Unless", "While", "Until", "For", "Map",
    "Filter"].map (·, .function)

/-- The prelude has no problems, knows all its words, and does nothing but define functions. -/
theorem preludeSource_definitions :
    (Program.ofSource false preludeSource.toList).isRejected = false ∧
      ((Program.ofSource false preludeSource.toList).root.references isVocabulary []).isClean ∧
      Item.areDefinitions (Program.ofSource false preludeSource.toList).root.body ∧
      (Program.ofSource false preludeSource.toList).root.declared = preludeDeclared := by
  unfold preludeSource
  rw [String.toList_ofList]
  set_option maxRecDepth 100000 in
  decide +kernel

/-- The prelude runs to its end where there is room for it, and all that it leaves is its frame. -/
theorem process_prelude (room : Nat) (console : Console) (engine : Engine) :
    ∃ frames last, process (room + 1) [] ⟨(Program.ofSource false preludeSource.toList).root, none⟩
        { console := console, engine := engine } =
          .ok 0 { console := console, engine := engine, frames := frames } ∧
      frames.all.size = 1 ∧ frames.all[0]? = some last ∧ last.Defines 0 ∧
      last = (Item.definitions (Program.ofSource false preludeSource.toList).root.body).foldl
        (Frame.define 0) (.ofBlock (Program.ofSource false preludeSource.toList).root none) := by
  obtain ⟨_, _, hbody, hdeclared⟩ := preludeSource_definitions
  have hunbound : (Program.ofSource false preludeSource.toList).root.declared.lookup
      Keyword.define.name = none := by
    rw [hdeclared]
    decide
  exact Machine.process_definitions hbody hunbound room [] { console := console, engine := engine }

/-- Every session with room for a block can start with the prelude. -/
theorem exists_start_prelude {limit : Nat} (hlimit : 2 ≤ limit) (markup : Markup)
    (console : Console) (engine : Engine) :
    ∃ session, Session.start limit markup console preludeSource.toList engine = .ok session := by
  obtain ⟨hrejected, hclean, _⟩ := preludeSource_definitions
  obtain ⟨room, rfl⟩ := Nat.exists_eq_add_of_le' hlimit
  obtain ⟨frames, _, hprocess, _⟩ := process_prelude room console engine
  exact ⟨_, load_eq_ok_iff.2 ⟨hrejected, hclean, 0, _, hprocess, rfl⟩⟩

/-- A session that has started with the prelude has run nothing else. -/
theorem exists_of_start_prelude {limit : Nat} {markup : Markup} {console : Console}
    {engine : Engine} {session : Session}
    (h : Session.start limit markup console preludeSource.toList engine = .ok session) :
    ∃ (frames : Frames) (last : Frame),
      session.machine = { console := console, engine := engine, frames := frames.keep } ∧
      session.frame = some 0 ∧ frames.all.size = 1 ∧ frames.all[0]? = some last ∧ last.Defines 0 ∧
      last = (Item.definitions (Program.ofSource false preludeSource.toList).root.body).foldl
        (Frame.define 0) (.ofBlock (Program.ofSource false preludeSource.toList).root none) := by
  obtain ⟨_, _, frame, machine, hprocess, rfl⟩ := load_eq_ok_iff.1 h
  cases hroom : limit - 1 with
  | zero =>
      dsimp only at hprocess
      rw [hroom] at hprocess
      cases hprocess
  | succ room =>
      obtain ⟨frames, last, hprelude, hlast⟩ := process_prelude room console engine
      dsimp only at hprocess
      rw [hroom, hprelude] at hprocess
      cases hprocess
      exact ⟨frames, last, rfl, rfl, hlast⟩

/-- After the prelude a source is accepted if it has no problems and declares its words, but for those
of the language and of the prelude. -/
theorem accepts_prelude_iff {limit : Nat} {markup : Markup} {console : Console}
    {engine : Engine} {session : Session} {source : List Char}
    (h : Session.start limit markup console preludeSource.toList engine = .ok session) :
    session.Accepts source ↔ (Program.ofSource true source).isRejected = false ∧
      ((Program.ofSource true source).root.references isVocabulary [preludeDeclared]).isClean := by
  obtain ⟨_, _, _, _, _, rfl⟩ := load_eq_ok_iff.1 h
  obtain ⟨_, _, _, hdeclared⟩ := preludeSource_definitions
  rw [accepts_iff, hdeclared]

end Session

end StackProse
