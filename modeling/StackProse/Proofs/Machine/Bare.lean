import StackProse.Proofs.Machine.Growth

/-!
# Frames from which no block can be left

A name that is bound to leaving a block is what ends a run by `Begin` early. Such bindings stand in
frames that are made for them. `Moment.Next.seals` says that no step puts one into a frame that is
there already, so that a frame from which none can be seen stays like that (`Frames.Bare`).
`Moment.Aside.reaches` says that a frame changes only while a block is under way in it.
-/

namespace StackProse

/-! ### Bindings that leave a block -/

namespace Frames

variable {frames later last : Frames} {id place : FrameId}

/-- No binding that is seen from a frame leaves a block. -/
inductive Bare (frames : Frames) : FrameId → Prop
  | intro {id : FrameId} :
      (∀ frame, frames.all[id]? = some frame →
        ∀ name left, (name, .escape left) ∉ frame.bindings) →
      (∀ frame parent, frames.all[id]? = some frame → frame.parent = some parent →
        parent < id → Bare frames parent) →
      Bare frames id

/-- The frames stay where they are, and no binding that leaves a block gets into one of them. -/
def Seals (frames later : Frames) : Prop :=
  ∀ (id : FrameId) (frame : Frame), frames.all[id]? = some frame →
    ∃ new, later.all[id]? = some new ∧ new.parent = frame.parent ∧
      ∀ name left, (name, .escape left) ∈ new.bindings → (name, .escape left) ∈ frame.bindings

theorem KeptIn.seals (h : frames.KeptIn later) : frames.Seals later :=
  fun id frame hframe => ⟨frame, h id frame hframe, rfl, fun _ _ hentry => hentry⟩

theorem Seals.trans (h : frames.Seals later) (h' : later.Seals last) : frames.Seals last := by
  intro id frame hframe
  obtain ⟨middle, hmiddle, hparent, hentries⟩ := h id frame hframe
  obtain ⟨new, hnew, hparent', hentries'⟩ := h' id middle hmiddle
  exact ⟨new, hnew, hparent'.trans hparent,
    fun name left hentry => hentries name left (hentries' name left hentry)⟩

theorem Seals.size_le (h : frames.Seals later) : frames.all.size ≤ later.all.size := by
  by_contra hless
  rw [Nat.not_le] at hless
  obtain ⟨new, hnew, _⟩ := h _ _ (Array.getElem?_eq_getElem hless)
  simp at hnew

theorem seals_bind {binding : Binding} (hbinding : ∀ left, binding ≠ .escape left)
    (place : FrameId) (name : String) : frames.Seals (frames.bind place name binding) := by
  intro id frame hframe
  by_cases hid : id = place
  · subst hid
    refine ⟨_, getElem?_bind_self hframe, rfl, ?_⟩
    intro other left hentry
    rcases Machine.mem_bindIn hentry with heq | hold
    · exact absurd (congrArg Prod.snd heq).symm (hbinding left)
    · exact hold
  · exact ⟨frame, (getElem?_bind_of_ne hid).trans hframe, rfl, fun _ _ hentry => hentry⟩

theorem Bare.seals (h : frames.Bare id) (hid : id < frames.all.size)
    (hseals : frames.Seals later) : later.Bare id := by
  induction h with
  | @intro id hbindings hparents ih =>
      have hframe := Array.getElem?_eq_getElem hid
      obtain ⟨new, hnew, hparent, hentries⟩ := hseals id _ hframe
      constructor
      · intro frame hframe' name left hentry
        obtain rfl := Option.some.inj (hnew.symm.trans hframe')
        exact hbindings _ hframe name left (hentries name left hentry)
      · intro frame parent hframe' hparent' hless
        obtain rfl := Option.some.inj (hnew.symm.trans hframe')
        exact ih _ parent hframe (hparent.symm.trans hparent') hless (hless.trans hid)

end Frames

theorem Declaration.binding?_ne_escape {declaration : Declaration} {held : Value}
    {binding : Binding} (h : declaration.binding? held = some binding) (left : BeginId) :
    binding ≠ .escape left := by
  rintro rfl
  cases Declaration.settles_binding? h

/-! ### Steps -/

namespace Machine

theorem Purpose.madeOf_anything (purpose : Purpose) : purpose.MadeOf .anything := by
  cases purpose with
  | list below | table below => exact fun value _ => value.madeOf_anything
  | call | begin => trivial

namespace Deed

variable {scene : Scene} {rest : List Item} {item : Item} {machine : Machine}

/-- An item leaves all frames as they are, or it binds a value or a function in the frame of its
block. -/
theorem keptIn_or_binds (scene : Scene) (rest : List Item) (item : Item) (machine : Machine) :
    machine.frames.KeptIn (ofItem scene rest item machine).machine.frames ∨
      ∃ name binding, (∀ left, binding ≠ Binding.escape left) ∧
        (ofItem scene rest item machine).machine.frames =
          machine.frames.bind scene.frame name binding := by
  rcases quiet_or_declares complete_anything machine.madeOf_anything
    (item.madeOf_anything scene.frame) with hquiet | ⟨keyword, rfl, _, hdeclares⟩
  · exact Or.inl hquiet.kept
  · right
    generalize ofItem scene rest (.word keyword) machine = deed at hdeclares ⊢
    cases hdeclares with
    | intro hkeyword hstack hbinding =>
        exact ⟨_, _, Declaration.binding?_ne_escape hbinding, rfl⟩

theorem seals_ofItem (scene : Scene) (rest : List Item) (item : Item) (machine : Machine) :
    machine.frames.Seals (ofItem scene rest item machine).machine.frames := by
  rcases keptIn_or_binds scene rest item machine with hkept | ⟨name, binding, hbinding, hframes⟩
  · exact hkept.seals
  · rw [hframes]
    exact Frames.seals_bind hbinding _ _

theorem getElem?_ofItem {id : FrameId} {frame : Frame} (hid : scene.frame ≠ id)
    (hframe : machine.frames.all[id]? = some frame) :
    (ofItem scene rest item machine).machine.frames.all[id]? = some frame := by
  rcases keptIn_or_binds scene rest item machine with hkept | ⟨name, binding, _, hframes⟩
  · exact hkept id frame hframe
  · rw [hframes, Frames.getElem?_bind_of_ne hid.symm]
    exact hframe

end Deed

namespace Moment

variable {moment later : Moment} {waiting : List (Purpose × Activation)} {machine : Machine}
  {id : FrameId} {frame : Frame}

@[simp]
theorem machine_settle (top : Activation) (waiting : List (Purpose × Activation))
    (result : EStateM.Result Exit Machine Unit) :
    (settle top waiting result).machine = final result := by
  cases result <;> rfl

theorem keptIn_enter (room : Nat) (active : List BeginId) (closure : Closure)
    (waiting : List (Purpose × Activation)) (machine : Machine) :
    machine.frames.KeptIn (enter room active closure waiting machine).machine.frames := by
  cases room with
  | zero => exact .refl _
  | succ room => exact Frames.keptIn_add _ _

theorem keptIn_finish (waiting : List (Purpose × Activation))
    (result : EStateM.Result Exit Machine FrameId) :
    (final result).frames.KeptIn (finish waiting result).machine.frames := by
  cases waiting with
  | nil => exact .refl _
  | cons entry waiting =>
      obtain ⟨purpose, outer⟩ := entry
      cases result with
      | ok place machine =>
          rw [finish, machine_settle]
          exact (purpose.ends_resume purpose.madeOf_anything machine.madeOf_anything).kept
      | error exit machine =>
          rw [finish, machine_settle]
          exact (purpose.ends_abandon purpose.madeOf_anything machine.madeOf_anything _ exit).kept

theorem keptIn_after (top : Activation) (waiting : List (Purpose × Activation)) (deed : Deed) :
    deed.machine.frames.KeptIn (after top waiting deed).machine.frames := by
  cases deed with
  | done result =>
      rw [after, machine_settle]
      exact .refl _
  | enter purpose active closure machine => exact keptIn_enter _ _ _ _ _

/-- No step puts a binding that leaves a block into a frame that is there. -/
theorem Next.seals (h : moment.Next later) :
    moment.machine.frames.Seals later.machine.frames := by
  cases moment with
  | running top waiting machine =>
      obtain ⟨code, scene, room, items⟩ := top
      cases items with
      | nil =>
          obtain rfl := Option.some.inj h
          exact (keptIn_finish waiting (.ok scene.frame machine)).seals
      | cons item rest =>
          obtain rfl := Option.some.inj h
          exact (Deed.seals_ofItem scene rest item machine).trans (keptIn_after _ _ _).seals
  | leaving exit waiting machine =>
      obtain rfl := Option.some.inj h
      exact (keptIn_finish waiting (.error exit machine)).seals
  | ended result => exact absurd h not_next_ended

theorem Reaches.seals (h : Reaches moment later) :
    moment.machine.frames.Seals later.machine.frames := by
  induction h with
  | refl => exact (Frames.KeptIn.refl _).seals
  | tail _ hnext ih => exact ih.trans (Next.seals hnext)

/-! ### Frames in which blocks are under way -/

theorem mem_activations_settle {top activation : Activation}
    {result : EStateM.Result Exit Machine Unit}
    (h : activation ∈ (settle top waiting result).activations) :
    activation ∈ top :: waiting.map (·.2) := by
  cases result with
  | ok _ machine => exact h
  | error exit machine => exact List.mem_cons_of_mem _ h

theorem mem_activations_finish {activation : Activation}
    {result : EStateM.Result Exit Machine FrameId}
    (h : activation ∈ (finish waiting result).activations) : activation ∈ waiting.map (·.2) := by
  cases waiting with
  | nil => exact h
  | cons entry waiting => cases result <;> exact mem_activations_settle h

theorem mem_activations_enter {activation : Activation} {room : Nat} {active : List BeginId}
    {closure : Closure} (h : activation ∈ (enter room active closure waiting machine).activations) :
    activation ∈ waiting.map (·.2) ∨ activation.scene.frame = machine.frames.all.size ∧
      activation.scene.frame <
        (enter room active closure waiting machine).machine.frames.all.size := by
  cases room with
  | zero => exact Or.inl h
  | succ room =>
      rcases List.mem_cons.1 h with rfl | hwaiting
      · right
        simp [enter, Moment.machine, Frames.add]
      · exact Or.inl hwaiting

/-- A block that is under way after a step was so before, or it begins in a new frame. -/
theorem Next.scene_cases (h : moment.Next later) {activation : Activation}
    (hactivation : activation ∈ later.activations) :
    (∃ old ∈ moment.activations, old.scene = activation.scene) ∨
      moment.machine.frames.all.size ≤ activation.scene.frame ∧
        activation.scene.frame < later.machine.frames.all.size := by
  cases moment with
  | running top waiting machine =>
      obtain ⟨code, scene, room, items⟩ := top
      cases items with
      | nil =>
          obtain rfl := Option.some.inj h
          have hwaiting := mem_activations_finish hactivation
          exact Or.inl ⟨activation, List.mem_cons_of_mem _ hwaiting, rfl⟩
      | cons item rest =>
          obtain rfl := Option.some.inj h
          -- the running block is now at another item, in the same scene
          have hgoesOn (hmem : activation ∈ ⟨code, scene, room, rest⟩ :: waiting.map (·.2)) :
              ∃ old ∈ (running ⟨code, scene, room, item :: rest⟩ waiting machine).activations,
                old.scene = activation.scene := by
            rcases List.mem_cons.1 hmem with rfl | hwaiting
            · exact ⟨_, List.mem_cons_self, rfl⟩
            · exact ⟨activation, List.mem_cons_of_mem _ hwaiting, rfl⟩
          have hsize := (Deed.seals_ofItem scene rest item machine).size_le
          cases hdeed : Deed.ofItem scene rest item machine with
          | done result =>
              rw [hdeed] at hactivation
              exact Or.inl (hgoesOn (mem_activations_settle hactivation))
          | enter purpose active closure entered =>
              rw [hdeed] at hactivation hsize
              rcases mem_activations_enter hactivation with hmem | ⟨hframe, hless⟩
              · exact Or.inl (hgoesOn hmem)
              · exact Or.inr ⟨hsize.trans hframe.ge, hless⟩
  | leaving exit waiting machine =>
      obtain rfl := Option.some.inj h
      exact Or.inl ⟨activation, mem_activations_finish hactivation, rfl⟩
  | ended result => exact absurd h not_next_ended

/-- The frames of the blocks under way are there. -/
def Seated (moment : Moment) : Prop :=
  ∀ activation ∈ moment.activations, activation.scene.frame < moment.machine.frames.all.size

theorem Seated.next (h : moment.Seated) (hnext : moment.Next later) : later.Seated := by
  intro activation hactivation
  rcases hnext.scene_cases hactivation with ⟨old, hold, hscene⟩ | ⟨_, hless⟩
  · rw [← hscene]
    exact (h old hold).trans_le hnext.seals.size_le
  · exact hless

theorem Seated.reaches (h : moment.Seated) (hreaches : Reaches moment later) : later.Seated := by
  induction hreaches with
  | refl => exact h
  | tail _ hnext ih => exact ih.next hnext

/-- A frame is there, and no block is under way in it. -/
structure Aside (moment : Moment) (id : FrameId) (frame : Frame) : Prop where
  found : moment.machine.frames.all[id]? = some frame
  apart : ∀ activation ∈ moment.activations, activation.scene.frame ≠ id

theorem Aside.next (h : moment.Aside id frame) (hnext : moment.Next later) :
    later.Aside id frame := by
  obtain ⟨hfound, hapart⟩ := h
  constructor
  · cases moment with
    | running top waiting machine =>
        obtain ⟨code, scene, room, items⟩ := top
        cases items with
        | nil =>
            obtain rfl := Option.some.inj hnext
            exact keptIn_finish waiting (.ok scene.frame machine) id frame hfound
        | cons item rest =>
            obtain rfl := Option.some.inj hnext
            have hscene : scene.frame ≠ id := hapart _ List.mem_cons_self
            exact keptIn_after _ _ _ id frame (Deed.getElem?_ofItem hscene hfound)
    | leaving exit waiting machine =>
        obtain rfl := Option.some.inj hnext
        exact keptIn_finish waiting (.error exit machine) id frame hfound
    | ended result => exact absurd hnext not_next_ended
  · intro activation hactivation
    rcases hnext.scene_cases hactivation with ⟨old, hold, hscene⟩ | ⟨hsize, _⟩
    · rw [← hscene]
      exact hapart old hold
    · have hid : id < moment.machine.frames.all.size := (Array.getElem?_eq_some_iff.1 hfound).1
      exact Nat.ne_of_gt (hid.trans_le hsize)

/-- A frame in which no block is under way does not change. -/
theorem Aside.reaches (h : moment.Aside id frame) (hreaches : Reaches moment later) :
    later.Aside id frame := by
  induction hreaches with
  | refl => exact h
  | tail _ hnext ih => exact ih.next hnext

end Moment

end Machine

end StackProse
