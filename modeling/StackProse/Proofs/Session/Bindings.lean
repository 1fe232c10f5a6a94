import StackProse.Proofs.Session.Prelude

/-!
# Bindings are made once and where they are declared

For every run of a session: the frame of a block binds the names that the block declares and no others,
a binding changes at most once, from pending to what its declaration makes, and only by the declaring
word of the block that runs in that frame.

The discipline behind it asks of blocks only that they are tidy, with all blocks in them. What earlier
runs left on the machine is tidy too, so the result holds for every program that a session runs.
-/

namespace StackProse

open Machine

/-! ### Tidy blocks -/

/-- A block is tidy, and so are all blocks in it. -/
def Block.AllTidy (block : Block) : Prop :=
  ∃ scope, ∀ entry ∈ block.placed scope, entry.1.Tidy

namespace Block.AllTidy

variable {block inner : Block}

theorem tidy (h : block.AllTidy) : block.Tidy := by
  obtain ⟨scope, htidy⟩ := h
  exact htidy _ (block.self_mem_placed scope)

theorem of_mem_body (h : block.AllTidy) (hinner : Item.block inner ∈ block.body) :
    inner.AllTidy :=
  Block.forall_placed_of_mem_body h hinner

theorem of_accepted {userCode : Bool} {source : List Char}
    (h : (Program.ofSource userCode source).isRejected = false) :
    (Program.ofSource userCode source).root.AllTidy := by
  obtain ⟨count, hplaced⟩ := Program.wellPlaced_ofSource h []
  exact ⟨[], hplaced.tidy⟩

end Block.AllTidy

namespace Machine

theorem IsMade.allTidy {code : Block} (h : IsMade code) : code.AllTidy := by
  refine ⟨[], ?_⟩
  have htidy := h.tidy
  rcases h with rfl | rfl <;> simpa [wordBlock, Block.placed, Item.placedIn] using htidy

/-- All numbers and all blocks that are tidy. -/
def tidyIngredients : Ingredients :=
  ⟨fun _ => True, fun closure => closure.code.AllTidy⟩

/-- Tidy blocks, in whatever frames they run. -/
def tidyBlocks : Discipline where
  allowed _ := tidyIngredients
  seat _ code _ := code.AllTidy
  computed _ := by
    constructor <;> intros <;> trivial
  made _ _ _ hmade := hmade.allTidy
  tidy h := h.tidy
  number_mono _ _ h := h
  closure_mono _ _ h := h
  seat_mono _ _ _ h := h
  enter h := h
  item h item hitem := by
    cases item with
    | literal written => cases written <;> simp [Item.MadeOf, Value.ofLiteral, tidyIngredients]
    | word => trivial
    | block inner => exact h.of_mem_body hitem

end Machine

/-! ### The machine of a session -/

namespace Session

variable {session first : Session} {source : List Char}

theorem sound_firstMoment (h : session.machine.MadeOf tidyIngredients)
    (haccepts : session.Accepts source) : (session.firstMoment source).Sound tidyBlocks := by
  have hready : session.cleared.ready.MadeOf tidyIngredients :=
    madeOf_ready (h.withConsole _).madeOf
  have hroot := Block.AllTidy.of_accepted (accepts_iff.1 haccepts).1
  exact Moment.sound_start hready hroot session.limit []

theorem madeOf_start {limit : Nat} {markup : Markup} {console : Console}
    {engine : Engine} {prelude : List Char}
    (h : Session.start limit markup console prelude engine = .ok first) :
    first.machine.MadeOf tidyIngredients := by
  obtain ⟨haccepted, _⟩ := load_eq_ok_iff.1 h
  exact (madeOf_of_start tidyBlocks h (Block.AllTidy.of_accepted haccepted)).1

/-- Runs and checks leave tidy blocks only. -/
theorem After.madeOf (h : first.After session) (hfirst : first.machine.MadeOf tidyIngredients) :
    session.machine.MadeOf tidyIngredients := by
  induction h with
  | refl => exact hfirst
  | check source _ ih =>
      obtain ⟨console, hcheck⟩ := check_eq _ source
      rw [hcheck]
      exact (ih.withConsole console).madeOf
  | @run session source _ ih =>
      by_cases haccepts : session.Accepts source
      · obtain ⟨result, console, hended, hrun⟩ := haccepts.exists_ended
        obtain ⟨hmadeOf, _⟩ := (sound_firstMoment ih haccepts).reaches hended
        rw [hrun]
        exact (hmadeOf.withConsole console).madeOf
      · obtain ⟨console, hrun⟩ := run_eq_of_not_accepts haccepts
        rw [hrun]
        exact ⟨List.forall_mem_nil _, ih.heap, ih.frames⟩

/-- In every run of a source that a session accepts, after any other runs: the frame of each block that
has begun binds from then on the names that the block declares; frames grow; what a step changes of
frames is what a declaring word of the running block does; and running a block leaves the frames before
it as they are. -/
theorem bindings_made_once {limit : Nat} {markup : Markup} {console : Console} {engine : Engine}
    {prelude : List Char} (hstart : Session.start limit markup console prelude engine = .ok first)
    (hsession : first.After session) (haccepts : session.Accepts source) {moment : Moment}
    (hmoment : Moment.Reaches (session.firstMoment source) moment) :
    (∀ activation ∈ moment.activations, ∀ later, Moment.Reaches moment later →
      ∃ frame, later.machine.frames.all[activation.scene.frame]? = some frame ∧
        frame.bindings.map (·.1) = activation.code.declared.map (·.1)) ∧
    (∀ later, Moment.Reaches moment later →
      moment.machine.frames.Grows later.machine.frames) ∧
    (∀ later, moment.Next later →
      moment.machine.frames.KeptIn later.machine.frames ∨ moment.Declares later) ∧
    ∀ (room : Nat) (active : List BeginId) (closure : Closure) (machine : Machine),
      machine.frames.KeptIn (final (process room active closure machine)).frames := by
  have hmadeOf := hsession.madeOf (madeOf_start hstart)
  obtain ⟨hsound, _⟩ := (sound_firstMoment hmadeOf haccepts).reaches hmoment
  refine ⟨?_, ?_, ?_, process_keptIn⟩
  · intro activation hactivation later hlater
    obtain ⟨_, before, after, hinStep⟩ := hsound.activations activation hactivation
    obtain ⟨frame, hframe, hbinds, _⟩ := hinStep.frame
    obtain ⟨_, hgrows⟩ := hsound.reaches hlater
    obtain ⟨new, hnew, hframeGrows⟩ := hgrows _ frame hframe
    exact ⟨new, hnew, (hbinds.grows hframeGrows).names_eq⟩
  · intro later hlater
    exact (hsound.reaches hlater).2
  · intro later hnext
    exact (hsound.next hnext).2

/-- A program that defines a function and calls it: from its first moment on, the frame of its outermost
block binds the name of that function and no other. -/
theorem bindings_made_once_outermost :
    ∃ session activation,
      Session.start Limit.default .plain {} preludeSource.toList = .ok session ∧
        session.Accepts "Def F (Let X; X); F 1;".toList ∧
        activation ∈ (session.firstMoment "Def F (Let X; X); F 1;".toList).activations ∧
        ∀ later, Moment.Reaches (session.firstMoment "Def F (Let X; X); F 1;".toList) later →
          ∃ frame, later.machine.frames.all[activation.scene.frame]? = some frame ∧
            frame.bindings.map (·.1) = ["F"] := by
  have hlimit : 2 ≤ Limit.default := by decide
  obtain ⟨session, hstart⟩ := exists_start_prelude hlimit .plain {} Pattern.engine
  have haccepts : session.Accepts "Def F (Let X; X); F 1;".toList :=
    (accepts_prelude_iff hstart).2 (by decide +kernel)
  rw [← limit_of_start hstart] at hlimit
  obtain ⟨activation, hactivation, hcode⟩ := exists_activation_firstMoment hlimit
    "Def F (Let X; X); F 1;".toList
  obtain ⟨hbinds, _⟩ := bindings_made_once hstart .refl haccepts .refl
  have hnames : (Program.ofSource true "Def F (Let X; X); F 1;".toList).root.declared.map (·.1) =
      ["F"] := by
    decide +kernel
  have hframe := hbinds activation hactivation
  rw [hcode, hnames] at hframe
  exact ⟨session, activation, hstart, haccepts, hactivation, hframe⟩

end Session

end StackProse
