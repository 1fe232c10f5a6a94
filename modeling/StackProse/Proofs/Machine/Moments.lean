import Mathlib.Logic.Relation
import StackProse.Machine.Evaluate

/-!
# The moments of a run

`Machine.process` says how a run ends. To speak of what holds while a run is under way, this module
cuts it into moments: which block is running and how far it has come, which blocks wait for it and
what for, and the state of the machine. `Moment.next` leads from one moment to the next one, by one
item of the running block, or by going back to the block that waits.

`Moment.reaches_process` says that the moments are those of `process`: from the moment at which a
block is entered they lead to the moment at which its result, as `process` gives it, goes back to
the block that waits. `Moment.reaches_ended_iff` says the same of a whole run.
-/

namespace StackProse.Machine

/-- The machine that a computation leaves, however it ends. -/
def final {α : Type} : EStateM.Result Exit Machine α → Machine
  | .ok _ machine => machine
  | .error _ machine => machine

/-- A block that is running: its code, where it runs, the room for blocks inside it, and the items
that it still has to run. -/
structure Activation where
  code : Block
  scene : Scene
  room : Nat
  rest : List Item

/-- What a block is run for. Where it runs on a stack of its own, the stack outside is kept. -/
inductive Purpose
  | call (name : String)
  | list (below : List Value)
  | table (below : List Value)
  | begin (id : BeginId)

/-- Makes a table of the items that a block has left. -/
def makeTable (items : List Value) : Run Unit :=
  within (.word Keyword.table.name) do
    if items.length % 2 ≠ 0 then fail (.failed "Table initializer must be key-value pairs")
    match tableOf .empty items.reverse with
    | .ok table => push (.table table)
    | .error failure => do fail (.failed (failure.message (← get).heap))

namespace Purpose

/-- The construct that faults name. -/
def name : Purpose → String
  | call name => name
  | list _ => Keyword.list.name
  | table _ => Keyword.table.name
  | begin _ => Keyword.begin.name

/-- The machine with the stack outside of a block. -/
def restore : Purpose → Machine → Machine
  | list below, machine | table below, machine => { machine with stack := below }
  | call _, machine | begin _, machine => machine

/-- What is done when the block comes to its end. -/
def resume : Purpose → Run Unit
  | call _ | begin _ => fun machine => .ok () machine
  | list below => fun machine => .ok () { machine with stack := .list machine.stack :: below }
  | table below => fun machine => makeTable machine.stack { machine with stack := below }

/-- What is done when the block ends early, inside of the blocks `active` that can be left. -/
def abandon (active : List BeginId) (purpose : Purpose) (exit : Exit) : Run Unit :=
  fun machine =>
    match purpose, exit with
    | begin id, .escape left =>
        if left = id then .ok () machine
        else .error (leave (.word Keyword.begin.name) active (.escape left)) machine
    | purpose, exit =>
        .error (leave (.word purpose.name) active exit) (purpose.restore machine)

end Purpose

/-- What comes of an item: it is done, or a block has to be run for it first. -/
inductive Deed
  | done (result : EStateM.Result Exit Machine Unit)
  | enter (purpose : Purpose) (active : List BeginId) (closure : Closure) (machine : Machine)

namespace Deed

/-- Goes on from a result; an early end stays. -/
def andThen {α : Type} (next : α → Machine → Deed) : EStateM.Result Exit Machine α → Deed
  | .ok result machine => next result machine
  | .error exit machine => .done (.error exit machine)

/-- Carries a deed out with the given way to run blocks. -/
def perform (runner : Runner) (active : List BeginId) : Deed → EStateM.Result Exit Machine Unit
  | done result => result
  | enter purpose inner closure machine =>
      match runner inner closure machine with
      | .ok _ machine => purpose.resume machine
      | .error exit machine => purpose.abandon active exit machine

/-- What comes of a keyword. -/
def ofKeyword (scene : Scene) (keyword : Keyword) (machine : Machine) : Deed :=
  match keyword with
  | .begin =>
      andThen (fun block machine =>
        andThen (fun id machine =>
          andThen (fun _ machine => enter (.begin id) (id :: scene.active) block machine)
            (pushBound escapeName (.escape id) machine))
          (freshBegin machine))
        (popBlockFor Keyword.begin.name machine)
  | .list =>
      andThen (fun block machine =>
        enter (.list machine.stack) scene.active block { machine with stack := [] })
        (popBlockFor Keyword.list.name machine)
  | .table =>
      andThen (fun block machine =>
        enter (.table machine.stack) scene.active block { machine with stack := [] })
        (popBlockFor Keyword.table.name machine)
  | .stop => done (.error .stop machine)
  | .error => done (raise machine)
  | keyword => done (within (.word keyword.name) (runPlain scene.frame keyword) machine)

/-- What comes of a word that calls no function. -/
def ofVocabulary (scene : Scene) (name : String) (bound : Option Value) (machine : Machine) :
    Deed :=
  match Keyword.ofName? name with
  | some keyword => ofKeyword scene keyword machine
  | none =>
      match Builtin.ofName? name with
      | some builtin => done (runBuiltin builtin machine)
      | none =>
          match bound with
          | some value => done (push value machine)
          | none => done ((fail (.unknownSymbol name) : Run Unit) machine)

/-- What comes of a word. -/
def ofWord (scene : Scene) (word : Word) (machine : Machine) : Deed :=
  match machine.frames.lookup scene.frame word.name with
  | some (.pending _) => done (failPending scene word machine)
  | some (.function closure) => enter (.call word.name) scene.active closure machine
  | some (.escape id) => done (.error (.escape id) machine)
  | some (.matcher pattern captures) =>
      let activity := if captures then "matching regex" else "applying regex"
      done (within (.activity activity) (applyMatcher pattern captures) machine)
  | some (.value value) => ofVocabulary scene word.name (some value) machine
  | none => ofVocabulary scene word.name none machine

/-- What comes of an item in front of the items `rest`. -/
def ofItem (scene : Scene) (rest : List Item) (item : Item) (machine : Machine) : Deed :=
  match item with
  | .literal value => done (push (.ofLiteral value) machine)
  | .block block => done (push (.block block (some scene.frame)) machine)
  | .word word =>
      if takesNameBefore rest then done (push (.identifier word.name) machine)
      else ofWord scene word machine

end Deed

/-! ### Deeds are what items do -/

theorem bind_apply {α β : Type} (run : Run α) (f : α → Run β) (machine : Machine) :
    (run >>= f) machine =
      match run machine with
      | .ok result machine => f result machine
      | .error exit machine => .error exit machine := by
  change EStateM.bind run f machine = _
  unfold EStateM.bind
  cases run machine <;> rfl

/-- Going on from a result and then carrying out is carrying out after the result. -/
theorem Deed.perform_andThen {α : Type} (runner : Runner) (active : List BeginId)
    (next : α → Machine → Deed) (result : EStateM.Result Exit Machine α) :
    (andThen next result).perform runner active =
      match result with
      | .ok value machine => (next value machine).perform runner active
      | .error exit machine => .error exit machine := by
  cases result <;> rfl

theorem runBegin_eq (runner : Runner) (scene : Scene) (machine : Machine) :
    runBegin runner scene.active machine =
      (Deed.ofKeyword scene .begin machine).perform runner scene.active := by
  simp only [runBegin, Deed.ofKeyword, bind_apply, Deed.perform_andThen]
  cases popBlockFor Keyword.begin.name machine with
  | error exit machine => rfl
  | ok block machine =>
      dsimp only
      cases freshBegin machine with
      | error exit machine => rfl
      | ok id machine =>
          dsimp only
          refine (bind_apply _ _ machine).trans ?_
          cases pushBound escapeName (.escape id) machine with
          | error exit machine => rfl
          | ok _ machine =>
              simp only [Deed.perform]
              cases runner (id :: scene.active) block machine with
              | ok frame machine => rfl
              | error exit machine => cases exit <;> rfl

theorem collect_eq (runner : Runner) (name : String) (active : List BeginId) (closure : Closure)
    (machine : Machine) :
    collect runner name active closure machine =
      match runner active closure { machine with stack := [] } with
      | .ok _ inner => .ok inner.stack { inner with stack := machine.stack }
      | .error exit inner =>
          .error (leave (.word name) active exit) { inner with stack := machine.stack } := by
  simp only [collect, call]
  cases runner active closure { machine with stack := [] } <;> rfl

theorem runKeyword_eq (runner : Runner) (scene : Scene) (keyword : Keyword) (machine : Machine) :
    runKeyword runner scene keyword machine =
      (Deed.ofKeyword scene keyword machine).perform runner scene.active := by
  cases keyword
  case begin => exact runBegin_eq runner scene machine
  case list =>
    simp only [runKeyword, runList, Deed.ofKeyword, bind_apply, Deed.perform_andThen]
    cases popBlockFor Keyword.list.name machine with
    | error exit machine => rfl
    | ok block machine =>
        simp only [collect_eq, Deed.perform]
        cases runner scene.active block { machine with stack := [] } <;> rfl
  case table =>
    simp only [runKeyword, runTable, Deed.ofKeyword, bind_apply, Deed.perform_andThen]
    cases popBlockFor Keyword.table.name machine with
    | error exit machine => rfl
    | ok block machine =>
        simp only [collect_eq, Deed.perform]
        cases runner scene.active block { machine with stack := [] } <;> rfl
  all_goals rfl

theorem runVocabulary_eq (runner : Runner) (scene : Scene) (name : String) (bound : Option Value)
    (machine : Machine) :
    runVocabulary runner scene name bound machine =
      (Deed.ofVocabulary scene name bound machine).perform runner scene.active := by
  simp only [runVocabulary, Deed.ofVocabulary]
  cases Keyword.ofName? name with
  | some keyword => exact runKeyword_eq runner scene keyword machine
  | none =>
      cases Builtin.ofName? name with
      | some builtin => rfl
      | none => cases bound <;> rfl

theorem runWord_eq (runner : Runner) (scene : Scene) (word : Word) (machine : Machine) :
    runWord runner scene word machine =
      (Deed.ofWord scene word machine).perform runner scene.active := by
  simp only [runWord, bind_apply, Deed.ofWord]
  change (match machine.frames.lookup scene.frame word.name with
    | some (.pending _) => failPending scene word
    | some (.function closure) => call runner word.name scene.active closure
    | some (.escape id) => throw (Exit.escape id)
    | some (.matcher pattern captures) =>
        within (.activity (if captures then "matching regex" else "applying regex"))
          (applyMatcher pattern captures)
    | some (.value value) => runVocabulary runner scene word.name (some value)
    | none => runVocabulary runner scene word.name none) machine = _
  cases machine.frames.lookup scene.frame word.name with
  | none => exact runVocabulary_eq runner scene word.name none machine
  | some binding =>
      cases binding with
      | pending declaration => rfl
      | function closure =>
          simp only [call, Deed.perform]
          cases runner scene.active closure machine <;> rfl
      | value value => exact runVocabulary_eq runner scene word.name (some value) machine
      | escape id => rfl
      | matcher pattern captures => rfl

/-- Running items is carrying out the deed of the first one and then running the others. -/
theorem runItems_cons (runner : Runner) (scene : Scene) (item : Item) (rest : List Item)
    (machine : Machine) :
    runItems runner scene (item :: rest) machine =
      match (Deed.ofItem scene rest item machine).perform runner scene.active with
      | .ok _ machine => runItems runner scene rest machine
      | .error exit machine => .error exit machine := by
  cases item with
  | literal value => rfl
  | block block => rfl
  | word word =>
      simp only [runItems, Deed.ofItem]
      by_cases htakes : takesNameBefore rest
      · simp only [htakes, if_true]
        rfl
      · simp only [htakes, if_false, Bool.false_eq_true, bind_apply, runWord_eq]
        cases (Deed.ofWord scene word machine).perform runner scene.active <;> rfl

theorem addFrame_apply (frame : Frame) (machine : Machine) :
    addFrame frame machine =
      .ok machine.frames.all.size { machine with frames := (machine.frames.add frame).2 } :=
  rfl

/-- Running a block is adding its frame and running its items there. -/
theorem process_succ (room : Nat) (active : List BeginId) (closure : Closure)
    (machine : Machine) :
    process (room + 1) active closure machine =
      match runItems (process room) ⟨machine.frames.all.size, closure.code.userCode, active⟩
          closure.code.body
          { machine with frames := (machine.frames.add (.ofBlock closure.code closure.frame)).2 }
        with
      | .ok _ inner => .ok machine.frames.all.size inner
      | .error exit inner => .error exit inner := by
  rw [process, bind_apply, addFrame_apply]
  dsimp only
  rw [bind_apply]
  generalize runItems _ _ _ _ = result
  cases result <;> rfl

/-! ### Moments -/

/-- A moment of a run. The blocks that wait are given with what they wait for, innermost first. -/
inductive Moment
  /-- A block is running. -/
  | running (top : Activation) (waiting : List (Purpose × Activation)) (machine : Machine)
  /-- A block has ended early, or could not begin. -/
  | leaving (exit : Exit) (waiting : List (Purpose × Activation)) (machine : Machine)
  /-- The outermost block has ended. -/
  | ended (result : EStateM.Result Exit Machine FrameId)

namespace Moment

/-- The state of the machine. -/
def machine : Moment → Machine
  | running _ _ machine => machine
  | leaving _ _ machine => machine
  | ended result => final result

/-- The blocks that have begun and not ended, innermost first. -/
def activations : Moment → List Activation
  | running top waiting _ => top :: waiting.map (·.2)
  | leaving _ waiting _ => waiting.map (·.2)
  | ended _ => []

/-- The moment at which a block begins where there is room for `room` blocks inside each other. -/
def enter (room : Nat) (active : List BeginId) (closure : Closure)
    (waiting : List (Purpose × Activation)) (machine : Machine) : Moment :=
  match room with
  | 0 => leaving (.fault ⟨.callStackOverflow, []⟩) waiting machine
  | room + 1 =>
      running
        ⟨closure.code, ⟨machine.frames.all.size, closure.code.userCode, active⟩, room,
          closure.code.body⟩
        waiting
        { machine with frames := (machine.frames.add (.ofBlock closure.code closure.frame)).2 }

/-- The moment after a result in a block that goes on from there. -/
def settle (top : Activation) (waiting : List (Purpose × Activation)) :
    EStateM.Result Exit Machine Unit → Moment
  | .ok _ machine => running top waiting machine
  | .error exit machine => leaving exit waiting machine

/-- The moment after a block has ended. -/
def finish (waiting : List (Purpose × Activation))
    (result : EStateM.Result Exit Machine FrameId) : Moment :=
  match waiting, result with
  | [], result => ended result
  | (purpose, outer) :: waiting, .ok _ machine =>
      settle outer waiting (purpose.resume machine)
  | (purpose, outer) :: waiting, .error exit machine =>
      settle outer waiting (purpose.abandon outer.scene.active exit machine)

/-- The moment after a deed in a block that goes on from there. -/
def after (top : Activation) (waiting : List (Purpose × Activation)) : Deed → Moment
  | .done result => settle top waiting result
  | .enter purpose active closure machine =>
      enter top.room active closure ((purpose, top) :: waiting) machine

/-- The next moment. There is none once the run has ended. -/
def next : Moment → Option Moment
  | running ⟨code, scene, room, item :: rest⟩ waiting machine =>
      some (after ⟨code, scene, room, rest⟩ waiting (Deed.ofItem scene rest item machine))
  | running ⟨_, scene, _, []⟩ waiting machine => some (finish waiting (.ok scene.frame machine))
  | leaving exit waiting machine => some (finish waiting (.error exit machine))
  | ended _ => none

/-- One moment follows another. -/
def Next (moment later : Moment) : Prop :=
  moment.next = some later

/-- A moment is the same as another or comes later. -/
abbrev Reaches : Moment → Moment → Prop :=
  Relation.ReflTransGen Next

/-- The moments of a block's items lead to the end of the block, if every block inside it does. -/
theorem reaches_runItems {room : Nat}
    (hinner : ∀ active closure waiting machine,
      Reaches (enter room active closure waiting machine)
        (finish waiting (process room active closure machine)))
    (code : Block) (scene : Scene) (items : List Item) (waiting : List (Purpose × Activation))
    (machine : Machine) :
    Reaches (running ⟨code, scene, room, items⟩ waiting machine)
      (finish waiting
        (match runItems (process room) scene items machine with
        | .ok _ machine => .ok scene.frame machine
        | .error exit machine => .error exit machine)) := by
  induction items generalizing machine with
  | nil => exact Relation.ReflTransGen.single rfl
  | cons item rest ih =>
      have hleave (exit : Exit) (machine : Machine) :
          Reaches (leaving exit waiting machine) (finish waiting (.error exit machine)) :=
        Relation.ReflTransGen.single rfl
      -- what the item leads to inside this block, by itself or after the block it runs
      have hitem : Reaches (running ⟨code, scene, room, item :: rest⟩ waiting machine)
          (settle ⟨code, scene, room, rest⟩ waiting
            ((Deed.ofItem scene rest item machine).perform (process room) scene.active)) := by
        refine Relation.ReflTransGen.head (b := after ⟨code, scene, room, rest⟩ waiting
          (Deed.ofItem scene rest item machine)) rfl ?_
        cases Deed.ofItem scene rest item machine with
        | done result => exact Relation.ReflTransGen.refl
        | enter purpose active closure machine =>
            have hblock := hinner active closure
              ((purpose, ⟨code, scene, room, rest⟩) :: waiting) machine
            simp only [Deed.perform, after]
            cases hprocess : process room active closure machine with
            | ok frame machine => simpa only [hprocess, finish] using hblock
            | error exit machine => simpa only [hprocess, finish] using hblock
      rw [runItems_cons]
      refine hitem.trans ?_
      cases (Deed.ofItem scene rest item machine).perform (process room) scene.active with
      | ok _ machine => exact ih machine
      | error exit machine => exact hleave exit machine

/-- The moments of a block lead to the result that `process` gives, in the block that waits for
it. -/
theorem reaches_process (room : Nat) (active : List BeginId) (closure : Closure)
    (waiting : List (Purpose × Activation)) (machine : Machine) :
    Reaches (enter room active closure waiting machine)
      (finish waiting (process room active closure machine)) := by
  induction room generalizing active closure waiting machine with
  | zero => exact Relation.ReflTransGen.single rfl
  | succ room ih =>
      have hitems := reaches_runItems ih closure.code
        ⟨machine.frames.all.size, closure.code.userCode, active⟩ closure.code.body waiting
        { machine with frames := (machine.frames.add (.ofBlock closure.code closure.frame)).2 }
      rw [process_succ]
      exact hitems

/-! ### Whole runs -/

/-- The first moment of a run of a block under a limit. -/
def start (limit : Nat) (active : List BeginId) (closure : Closure) (machine : Machine) : Moment :=
  enter (limit - 1) active closure [] machine

theorem not_next_ended {result : EStateM.Result Exit Machine FrameId} {later : Moment} :
    ¬ (ended result).Next later := by
  simp [Next, next]

theorem settle_eq_leaving {top : Activation} {waiting outside : List (Purpose × Activation)}
    {result : EStateM.Result Exit Machine Unit} {exit : Exit} {machine : Machine}
    (h : settle top outside result = leaving exit waiting machine) :
    outside = waiting ∧ result = .error exit machine := by
  cases result with
  | ok _ after => cases h
  | error other after =>
      cases h
      exact ⟨rfl, rfl⟩

theorem settle_ne_ended (top : Activation) (waiting : List (Purpose × Activation))
    (settled : EStateM.Result Exit Machine Unit) (result : EStateM.Result Exit Machine FrameId) :
    settle top waiting settled ≠ ended result := by
  cases settled <;> nofun

/-- A run ends when nothing waits, with the last item of a block or with an early end. -/
theorem Next.ended_cases {moment : Moment} {result : EStateM.Result Exit Machine FrameId}
    (h : moment.Next (ended result)) :
    (∃ code scene room machine, moment = running ⟨code, scene, room, []⟩ [] machine ∧
      result = .ok scene.frame machine) ∨
    ∃ exit machine, moment = leaving exit [] machine ∧ result = .error exit machine := by
  cases moment with
  | running top waiting machine =>
      obtain ⟨code, scene, room, items⟩ := top
      cases items with
      | nil =>
          have hfinish := Option.some.inj h
          cases waiting with
          | nil =>
              cases hfinish
              exact Or.inl ⟨code, scene, room, machine, rfl, rfl⟩
          | cons entry waiting => exact absurd hfinish (settle_ne_ended _ _ _ _)
      | cons item rest =>
          have hafter := Option.some.inj h
          cases hdeed : Deed.ofItem scene rest item machine with
          | done settled =>
              rw [hdeed] at hafter
              exact absurd hafter (settle_ne_ended _ _ _ _)
          | enter purpose active closure entered =>
              rw [hdeed] at hafter
              cases room <;> cases hafter
  | leaving exit waiting machine =>
      have hfinish := Option.some.inj h
      cases waiting with
      | nil =>
          cases hfinish
          exact Or.inr ⟨exit, machine, rfl, rfl⟩
      | cons entry waiting => exact absurd hfinish (settle_ne_ended _ _ _ _)
  | ended _ => exact absurd h not_next_ended

theorem ended_reaches {result : EStateM.Result Exit Machine FrameId} {moment : Moment}
    (h : Reaches (ended result) moment) : moment = ended result := by
  induction h with
  | refl => rfl
  | tail _ hnext ih =>
      rw [ih] at hnext
      exact absurd hnext not_next_ended

/-- Of two moments of a run one comes first, since there is only one next moment. -/
theorem Reaches.total {first moment later : Moment} (hmoment : Reaches first moment)
    (hlater : Reaches first later) : Reaches moment later ∨ Reaches later moment := by
  refine Relation.ReflTransGen.total_of_right_unique ?_ hmoment hlater
  intro current next other hnext hother
  exact Option.some.inj (hnext.symm.trans hother)

/-- A run has one end. -/
theorem ended_unique {first : Moment} {result other : EStateM.Result Exit Machine FrameId}
    (hresult : Reaches first (ended result)) (hother : Reaches first (ended other)) :
    other = result := by
  rcases hresult.total hother with h | h
  · exact ended.inj (ended_reaches h)
  · exact (ended.inj (ended_reaches h)).symm

/-- A run ends with what `process` gives, and with nothing else. -/
theorem reaches_ended_iff (limit : Nat) (active : List BeginId) (closure : Closure)
    (machine : Machine) (result : EStateM.Result Exit Machine FrameId) :
    Reaches (start limit active closure machine) (ended result) ↔
      process (limit - 1) active closure machine = result := by
  have hprocess := reaches_process (limit - 1) active closure [] machine
  constructor
  · intro hresult
    exact ended_unique hresult hprocess
  · rintro rfl
    exact hprocess

end Moment

end StackProse.Machine
