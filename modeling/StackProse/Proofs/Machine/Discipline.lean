import StackProse.Proofs.Machine.Growth
import StackProse.Proofs.Program.Placed

/-!
# The invariant of a run

A `Discipline` says which blocks a machine may hold and in which frames blocks may run, in a way that
stays true while frames grow. This module proves once what every moment of a run of tidy blocks has in
common, whatever the discipline is:

- everything that the machine holds keeps to the discipline;
- each block that has begun and not ended has a frame of its own, which binds what the block declares,
  and what the rest of its body declares is pending there;
- a name that is about to be bound lies on top of the stack.

`Moment.Sound.next` proves it for one step and says what a step can do to frames: nothing, or what a
declaring word of the running block does. `Moment.Sound.reaches` is the same for whole runs.
-/

namespace StackProse.Machine

/-- What a machine may hold and where blocks may run. -/
structure Discipline where
  allowed : Frames → Ingredients
  /-- The block may run in the frame. -/
  seat : Frames → Block → FrameId → Prop
  computed : ∀ frames, (allowed frames).Computed
  /-- A block that the machine makes may be held once its word is bound. -/
  made : ∀ (frames : Frames) (name : String) (binding : Binding), IsMade (wordBlock name) →
    (allowed (frames.add { bindings := [(name, binding)] }).2).closure
      ⟨wordBlock name, some frames.all.size⟩
  tidy : ∀ {frames closure}, (allowed frames).closure closure → closure.code.Tidy
  number_mono : ∀ {frames later}, frames.Grows later →
    ∀ n, (allowed frames).number n → (allowed later).number n
  closure_mono : ∀ {frames later}, frames.Grows later →
    ∀ closure, (allowed frames).closure closure → (allowed later).closure closure
  seat_mono : ∀ {frames later}, frames.Grows later →
    ∀ code frame, seat frames code frame → seat later code frame
  enter : ∀ {frames closure}, (allowed frames).closure closure →
    seat (frames.add (.ofBlock closure.code closure.frame)).2 closure.code frames.all.size
  item : ∀ {frames code frame}, seat frames code frame →
    ∀ item ∈ code.body, item.MadeOf (allowed frames) frame

theorem Discipline.complete (discipline : Discipline) (frames later : Frames) :
    Complete (discipline.allowed later) frames later := by
  refine ⟨discipline.computed later, ?_⟩
  rintro name binding hmade rfl
  exact discipline.made frames name binding hmade

/-- An item keeps to what is allowed with the frames that it leaves, or it is a declaring word that is
carried out. -/
theorem Deed.quiet_grown_or_declares (discipline : Discipline) {machine : Machine} {scene : Scene}
    {item : Item} {rest : List Item} (hmachine : machine.MadeOf (discipline.allowed machine.frames))
    (hitem : item.MadeOf (discipline.allowed machine.frames) scene.frame) :
    (ofItem scene rest item machine).Quiet
        (discipline.allowed (ofItem scene rest item machine).machine.frames) machine ∨
      ∃ keyword, item = .word keyword ∧ takesNameBefore rest = false ∧
        Declares scene machine keyword (ofItem scene rest item machine) := by
  rcases quiet_or_declares complete_anything machine.madeOf_anything
    (item.madeOf_anything scene.frame) with hquiet | hdeclares
  · -- nothing is bound, so what has been allowed before stays so
    have hgrows := hquiet.kept.grows
    exact quiet_or_declares (discipline.complete _ _)
      (hmachine.mono (discipline.number_mono hgrows) (discipline.closure_mono hgrows))
      (hitem.mono (discipline.number_mono hgrows) (discipline.closure_mono hgrows))
  · exact Or.inr hdeclares

/-- The blocks that the machine makes declare nothing. -/
theorem IsMade.tidy {code : Block} (h : IsMade code) : code.Tidy := by
  rcases h with rfl | rfl
  · exact ⟨by decide, List.nodup_nil⟩
  · exact ⟨by decide, List.nodup_nil⟩

theorem IsMade.body_eq {code : Block} (h : IsMade code) : ∃ word, code.body = [.word word] := by
  rcases h with rfl | rfl
  · exact ⟨_, rfl⟩
  · exact ⟨_, rfl⟩

/-! ### How far a block has come -/

namespace Activation

/-- The block has run the items `before`. Its frame binds what it declares, and the declarations in
`after`, which are those of the items still to run, are pending. -/
structure InStep (frames : Frames) (activation : Activation) (before : List Item)
    (after : Declarations) : Prop where
  body : activation.code.body = before ++ activation.rest
  declares : Item.declarations? before.getLast? activation.rest = some after
  nodup : (after.map (·.1)).Nodup
  frame : ∃ frame, frames.all[activation.scene.frame]? = some frame ∧
    frame.Binds activation.code.declared ∧
      ∀ entry ∈ after, frame.bindings.lookup entry.1 = some (.pending entry.2)

section

variable {frames later : Frames} {activation : Activation} {before rest : List Item}
  {after : Declarations} {code : Block} {scene : Scene} {room : Nat} {item : Item}

theorem InStep.frame_lt (h : activation.InStep frames before after) :
    activation.scene.frame < frames.all.size := by
  obtain ⟨frame, hframe, _⟩ := h.frame
  exact (Array.getElem?_eq_some_iff.1 hframe).1

theorem InStep.kept (h : activation.InStep frames before after) (hkept : frames.KeptIn later) :
    activation.InStep later before after := by
  obtain ⟨frame, hframe, hbinds⟩ := h.frame
  exact ⟨h.body, h.declares, h.nodup, frame, hkept _ frame hframe, hbinds⟩

/-- What is bound in another frame does not matter. -/
theorem InStep.bind_of_ne (h : activation.InStep frames before after) {place : FrameId}
    (hne : activation.scene.frame ≠ place) (name : String) (binding : Binding) :
    activation.InStep (frames.bind place name binding) before after := by
  obtain ⟨frame, hframe, hbinds⟩ := h.frame
  refine ⟨h.body, h.declares, h.nodup, frame, ?_, hbinds⟩
  rw [Frames.getElem?_bind_of_ne hne]
  exact hframe

/-- A block that begins has run nothing, and all its declarations are pending. -/
theorem inStep_enter (htidy : code.Tidy) (frames : Frames) (parent : Option FrameId)
    (userCode : Bool) (active : List BeginId) (room : Nat) :
    InStep (frames.add (.ofBlock code parent)).2
      ⟨code, ⟨frames.all.size, userCode, active⟩, room, code.body⟩ [] code.declared := by
  refine ⟨rfl, htidy.declared, htidy.nodup, .ofBlock code parent, ?_, ?_, ?_⟩
  · simp [Frames.add]
  · exact Frame.binds_ofBlock code parent
  · intro entry hentry
    exact Frame.lookup_ofBlock htidy.nodup parent hentry

/-- An item has been run, and frames are as they were. -/
theorem InStep.pass (h : InStep frames ⟨code, scene, room, item :: rest⟩ before after) :
    ∃ after', InStep frames ⟨code, scene, room, rest⟩ (before ++ [item]) after' := by
  obtain ⟨hbody, hdeclares, hnodup, frame, hframe, hbinds, hpending⟩ := h
  have hbody' : code.body = (before ++ [item]) ++ rest := by
    rw [List.append_assoc]
    exact hbody
  have hlast : (before ++ [item]).getLast? = some item := List.getLast?_concat
  cases item with
  | literal | block =>
      refine ⟨after, hbody', ?_, hnodup, frame, hframe, hbinds, hpending⟩
      rw [hlast]
      exact hdeclares
  | word keyword =>
      cases hkeyword : Declaration.ofKeyword? keyword.name with
      | none =>
          refine ⟨after, hbody', ?_, hnodup, frame, hframe, hbinds, hpending⟩
          rw [hlast, ← Item.declarations?_word hkeyword]
          exact hdeclares
      | some declaration =>
          -- the declaring word was not carried out, so its name stays pending
          obtain ⟨name, after', _, hafter', rfl⟩ := (Item.declarations?_keyword hkeyword).1 hdeclares
          rw [List.map_cons, List.nodup_cons] at hnodup
          rw [List.forall_mem_cons] at hpending
          refine ⟨after', hbody', ?_, hnodup.2, frame, hframe, hbinds, hpending.2⟩
          rw [hlast]
          exact hafter'

/-- A declaring word stands behind the name it declares, which is pending. If it is bound, the
block goes on with the declarations behind it pending. -/
theorem InStep.declare {keyword : Word} {declaration : Declaration}
    (h : InStep frames ⟨code, scene, room, .word keyword :: rest⟩ before after)
    (hkeyword : Declaration.ofKeyword? keyword.name = some declaration) :
    ∃ name frame after', before.getLast? = some (.word name) ∧
      frames.all[scene.frame]? = some frame ∧
      frame.bindings.lookup name.name = some (.pending declaration) ∧
      ∀ binding, binding.Settles declaration →
        InStep (frames.bind scene.frame name.name binding) ⟨code, scene, room, rest⟩
          (before ++ [.word keyword]) after' := by
  obtain ⟨hbody, hdeclares, hnodup, frame, hframe, hbinds, hpending⟩ := h
  obtain ⟨name, after', hname, hafter', rfl⟩ := (Item.declarations?_keyword hkeyword).1 hdeclares
  rw [List.map_cons, List.nodup_cons] at hnodup
  rw [List.forall_mem_cons] at hpending
  refine ⟨name, frame, after', hname, hframe, hpending.1, ?_⟩
  intro binding hsettles
  refine ⟨?_, ?_, hnodup.2, frame.bind name.name binding, ?_, ?_, ?_⟩
  · rw [List.append_assoc]
    exact hbody
  · rw [List.getLast?_concat]
    exact hafter'
  · exact Frames.getElem?_bind_self hframe
  · exact hbinds.grows (Frame.grows_bind hpending.1 hsettles)
  · intro entry hentry
    have hne : entry.1 ≠ name.name := by
      intro heq
      have hmem : entry.1 ∈ after'.map (·.1) := List.mem_map_of_mem hentry
      rw [heq] at hmem
      exact hnodup.1 hmem
    rw [Frame.lookup_bind_of_ne hne]
    exact hpending.2 entry hentry

end

end Activation

/-! ### The blocks of a moment -/

/-- The blocks that wait keep to the discipline, and so does all that the machine holds. -/
structure Waits (discipline : Discipline) (waiting : List (Purpose × Activation))
    (machine : Machine) : Prop where
  madeOf : machine.MadeOf (discipline.allowed machine.frames)
  purpose : ∀ entry ∈ waiting, entry.1.MadeOf (discipline.allowed machine.frames)
  seat : ∀ entry ∈ waiting, discipline.seat machine.frames entry.2.code entry.2.scene.frame
  inStep : ∀ entry ∈ waiting, ∃ before after, entry.2.InStep machine.frames before after
  /-- No name lies ready to be bound. -/
  unnamed : ∀ entry ∈ waiting, takesNameBefore entry.2.rest = false
  apart : (waiting.map (·.2.scene.frame)).Nodup

/-- A block runs while others wait. -/
structure Runs (discipline : Discipline) (top : Activation) (waiting : List (Purpose × Activation))
    (machine : Machine) : Prop extends Waits discipline waiting machine where
  topSeat : discipline.seat machine.frames top.code top.scene.frame
  topApart : ∀ entry ∈ waiting, entry.2.scene.frame ≠ top.scene.frame
  /-- A name that is about to be bound lies on top of the stack. -/
  topInStep : ∃ before after, top.InStep machine.frames before after ∧
    (takesNameBefore top.rest → ∀ name, before.getLast? = some (.word name) →
      ∃ below, machine.stack = .identifier name.name :: below)

section

variable {discipline : Discipline} {machine after : Machine} {top outer : Activation}
  {waiting : List (Purpose × Activation)} {purpose : Purpose}

theorem Purpose.MadeOf.mono {allowed other : Ingredients} (h : purpose.MadeOf allowed)
    (hnumber : ∀ n, allowed.number n → other.number n)
    (hclosure : ∀ closure, allowed.closure closure → other.closure closure) :
    purpose.MadeOf other := by
  cases purpose with
  | list below | table below => exact fun value hvalue => (h value hvalue).mono hnumber hclosure
  | call | begin => trivial

/-- Where frames grow and those of the waiting blocks are kept, the blocks go on waiting. -/
theorem Waits.grows (h : Waits discipline waiting machine)
    (hgrows : machine.frames.Grows after.frames)
    (hmadeOf : after.MadeOf (discipline.allowed after.frames))
    (hinStep : ∀ entry ∈ waiting, ∃ before declared, entry.2.InStep after.frames before declared) :
    Waits discipline waiting after where
  madeOf := hmadeOf
  purpose entry hentry := (h.purpose entry hentry).mono (discipline.number_mono hgrows)
    (discipline.closure_mono hgrows)
  seat entry hentry := discipline.seat_mono hgrows _ _ (h.seat entry hentry)
  inStep := hinStep
  unnamed := h.unnamed
  apart := h.apart

theorem Follows.grown (h : machine.Follows (discipline.allowed machine.frames) after) :
    machine.Follows (discipline.allowed after.frames) after :=
  ⟨h.madeOf.mono (discipline.number_mono h.kept.grows) (discipline.closure_mono h.kept.grows),
    h.kept⟩

theorem Waits.follows (h : Waits discipline waiting machine)
    (hafter : machine.Follows (discipline.allowed after.frames) after) :
    Waits discipline waiting after := by
  apply h.grows hafter.kept.grows hafter.madeOf
  intro entry hentry
  obtain ⟨before, declared, hinStep⟩ := h.inStep entry hentry
  exact ⟨before, declared, hinStep.kept hafter.kept⟩

theorem Waits.activations (h : Waits discipline waiting machine) :
    ∀ activation ∈ waiting.map (·.2),
      discipline.seat machine.frames activation.code activation.scene.frame ∧
        ∃ before declared, activation.InStep machine.frames before declared := by
  intro activation hactivation
  obtain ⟨entry, hentry, rfl⟩ := List.mem_map.1 hactivation
  exact ⟨h.seat entry hentry, h.inStep entry hentry⟩

/-- The innermost of the blocks that wait can go on. -/
theorem Waits.resume (h : Waits discipline ((purpose, outer) :: waiting) machine) :
    Runs discipline outer waiting machine where
  madeOf := h.madeOf
  purpose := (List.forall_mem_cons.1 h.purpose).2
  seat := (List.forall_mem_cons.1 h.seat).2
  inStep := (List.forall_mem_cons.1 h.inStep).2
  unnamed := (List.forall_mem_cons.1 h.unnamed).2
  apart := (List.nodup_cons.1 h.apart).2
  topSeat := (List.forall_mem_cons.1 h.seat).1
  topApart := by
    intro entry hentry heq
    exact (List.nodup_cons.1 h.apart).1 (List.mem_map.2 ⟨entry, hentry, heq⟩)
  topInStep := by
    obtain ⟨before, declared, hinStep⟩ := (List.forall_mem_cons.1 h.inStep).1
    refine ⟨before, declared, hinStep, ?_⟩
    intro htakes
    rw [(List.forall_mem_cons.1 h.unnamed).1] at htakes
    contradiction

/-- A block that runs an item which needs another block waits for it. -/
theorem Runs.wait (h : Runs discipline top waiting machine)
    (hpurpose : purpose.MadeOf (discipline.allowed machine.frames))
    (hunnamed : takesNameBefore top.rest = false) :
    Waits discipline ((purpose, top) :: waiting) machine where
  madeOf := h.madeOf
  purpose := List.forall_mem_cons.2 ⟨hpurpose, h.purpose⟩
  seat := List.forall_mem_cons.2 ⟨h.topSeat, h.seat⟩
  inStep := by
    obtain ⟨before, declared, hinStep, _⟩ := h.topInStep
    exact List.forall_mem_cons.2 ⟨⟨before, declared, hinStep⟩, h.inStep⟩
  unnamed := List.forall_mem_cons.2 ⟨hunnamed, h.unnamed⟩
  apart := by
    refine List.nodup_cons.2 ⟨?_, h.apart⟩
    intro hmem
    obtain ⟨entry, hentry, heq⟩ := List.mem_map.1 hmem
    exact h.topApart entry hentry heq

end

namespace Moment

/-- The invariant of a moment. -/
def Sound (discipline : Discipline) : Moment → Prop
  | running top waiting machine => Runs discipline top waiting machine
  | leaving _ waiting machine => Waits discipline waiting machine
  | ended result => (final result).MadeOf (discipline.allowed (final result).frames)

/-- From one moment to the next the running block carries out a declaring word of its body: the name
before the word, which was pending in the frame of the block, is bound there. -/
inductive Declares (moment later : Moment) : Prop
  | intro (top : Activation) (waiting : List (Purpose × Activation)) (machine : Machine)
      (before : List Item) (name keyword : Word) (rest : List Item) (frame : Frame)
      (declaration : Declaration) (binding : Binding) :
      moment = running top waiting machine → top.rest = .word keyword :: rest →
      top.code.body = before ++ .word name :: .word keyword :: rest →
      Declaration.ofKeyword? keyword.name = some declaration →
      machine.frames.all[top.scene.frame]? = some frame →
      frame.bindings.lookup name.name = some (.pending declaration) →
      binding.Settles declaration →
      later.machine.frames = machine.frames.bind top.scene.frame name.name binding →
      Declares moment later

section

variable {discipline : Discipline} {machine : Machine} {top outer : Activation}
  {waiting : List (Purpose × Activation)} {purpose : Purpose} {moment later : Moment}

theorem Declares.grows (h : moment.Declares later) :
    moment.machine.frames.Grows later.machine.frames := by
  obtain ⟨top, waiting, machine, before, name, keyword, rest, frame, declaration, binding, rfl, _, _,
    _, hframe, hlookup, hsettles, hframes⟩ := h
  rw [hframes]
  exact Frames.grows_bind hframe hlookup hsettles

/-- Going back to a block that waits. -/
theorem sound_settle_outer (h : Waits discipline ((purpose, outer) :: waiting) machine)
    {result : EStateM.Result Exit Machine Unit}
    (hresult : Ends (discipline.allowed machine.frames) machine (fun _ => True) result) :
    (settle outer waiting result).Sound discipline ∧
      machine.frames.KeptIn (settle outer waiting result).machine.frames := by
  cases result with
  | ok _ after => exact ⟨(h.follows hresult.2.grown).resume, hresult.2.kept⟩
  | error exit after =>
      exact ⟨(h.follows (Follows.grown hresult)).resume.toWaits, hresult.kept⟩

/-- The end of a block. -/
theorem sound_finish (h : Waits discipline waiting machine)
    {result : EStateM.Result Exit Machine FrameId} (hresult : final result = machine) :
    (finish waiting result).Sound discipline ∧
      machine.frames.KeptIn (finish waiting result).machine.frames := by
  subst hresult
  cases waiting with
  | nil => exact ⟨h.madeOf, .refl _⟩
  | cons entry waiting =>
      obtain ⟨purpose, outer⟩ := entry
      have hpurpose := (List.forall_mem_cons.1 h.purpose).1
      cases result with
      | ok frame machine => exact sound_settle_outer h (purpose.ends_resume hpurpose h.madeOf)
      | error exit machine =>
          exact sound_settle_outer h (purpose.ends_abandon hpurpose h.madeOf _ exit)

/-- The beginning of a block. -/
theorem sound_enter (h : Waits discipline waiting machine) {closure : Closure}
    (hclosure : (discipline.allowed machine.frames).closure closure) (room : Nat)
    (active : List BeginId) :
    (enter room active closure waiting machine).Sound discipline ∧
      machine.frames.KeptIn (enter room active closure waiting machine).machine.frames := by
  cases room with
  | zero => exact ⟨h, .refl _⟩
  | succ room =>
      have hpending : ∀ entry ∈ (Frame.ofBlock closure.code closure.frame).bindings,
          entry.2.MadeOf (discipline.allowed machine.frames) := by
        intro entry hentry
        obtain ⟨declared, _, rfl⟩ := List.mem_map.1 hentry
        trivial
      have hfollows := h.madeOf.addFrame hpending
      have hinStep := Activation.inStep_enter (discipline.tidy hclosure) machine.frames closure.frame
        closure.code.userCode active room
      refine ⟨⟨h.follows hfollows.grown, discipline.enter hclosure, ?_, [], _, hinStep, ?_⟩,
        hfollows.kept⟩
      · intro entry hentry
        obtain ⟨before, declared, hwaiting⟩ := h.inStep entry hentry
        exact Nat.ne_of_lt hwaiting.frame_lt
      · intro _ name hname
        contradiction

variable {code : Block} {scene : Scene} {room : Nat} {item : Item} {rest : List Item}
  {changed : Machine}

/-- The running block has run an item, and frames are as they were. -/
theorem runs_pass (h : Runs discipline ⟨code, scene, room, item :: rest⟩ waiting machine)
    (hfollows : machine.Follows (discipline.allowed changed.frames) changed)
    (hnamed : takesNameBefore rest → ∀ name, item = .word name →
      ∃ below, changed.stack = .identifier name.name :: below) :
    Runs discipline ⟨code, scene, room, rest⟩ waiting changed := by
  obtain ⟨before, declared, hinStep, _⟩ := h.topInStep
  obtain ⟨declared', hinStep'⟩ := (hinStep.kept hfollows.kept).pass
  refine ⟨h.toWaits.follows hfollows, discipline.seat_mono hfollows.kept.grows _ _ h.topSeat,
    h.topApart, before ++ [item], declared', hinStep', ?_⟩
  intro htakes name hname
  rw [List.getLast?_concat, Option.some.injEq] at hname
  exact hnamed htakes name hname

/-- An item before a word that takes a name is pushed, and a word is pushed as its name. -/
theorem ofItem_of_takesNameBefore (scene : Scene) (item : Item) (machine : Machine)
    (htakes : takesNameBefore rest) :
    ∃ value, Deed.ofItem scene rest item machine = .done (push value machine) ∧
      ∀ name, item = .word name → value = .identifier name.name := by
  cases item with
  | literal | block => exact ⟨_, rfl, fun name hname => nomatch hname⟩
  | word word =>
      refine ⟨.identifier word.name, if_pos htakes, ?_⟩
      rintro _ ⟨⟩
      rfl

/-- An item that leaves frames as they are. -/
theorem sound_after_of_quiet
    (h : Runs discipline ⟨code, scene, room, item :: rest⟩ waiting machine)
    (hquiet : (Deed.ofItem scene rest item machine).Quiet
      (discipline.allowed (Deed.ofItem scene rest item machine).machine.frames) machine)
    (hlater : later =
      after ⟨code, scene, room, rest⟩ waiting (Deed.ofItem scene rest item machine)) :
    later.Sound discipline ∧ machine.frames.KeptIn later.machine.frames := by
  subst hlater
  by_cases htakes : takesNameBefore rest
  · obtain ⟨value, hpush, hvalue⟩ := ofItem_of_takesNameBefore scene item machine htakes
    rw [hpush] at hquiet ⊢
    refine ⟨runs_pass h hquiet.2 ?_, hquiet.2.kept⟩
    intro _ name hname
    exact ⟨machine.stack, by rw [hvalue name hname]⟩
  · cases hdeed : Deed.ofItem scene rest item machine with
    | done result =>
        rw [hdeed] at hquiet
        cases result with
        | ok _ changed => exact ⟨runs_pass h hquiet.2 fun h => absurd h htakes, hquiet.2.kept⟩
        | error exit changed => exact ⟨h.toWaits.follows hquiet, Follows.kept hquiet⟩
    | enter purpose active closure changed =>
        rw [hdeed] at hquiet
        obtain ⟨hclosure, hpurpose, hfollows⟩ := hquiet
        have hruns := runs_pass h hfollows fun h => absurd h htakes
        have hwaits := hruns.wait hpurpose (Bool.eq_false_of_not_eq_true htakes)
        obtain ⟨hsound, hkept⟩ := sound_enter hwaits hclosure room active
        exact ⟨hsound, hfollows.kept.trans hkept⟩

/-- Words that declare take the name before them. -/
theorem takesNameBefore_of_keyword {keyword : Word} {declaration : Declaration}
    (h : Declaration.ofKeyword? keyword.name = some declaration) (rest : List Item) :
    takesNameBefore (.word keyword :: rest) := by
  unfold Declaration.ofKeyword? at h
  split at h
  · rename_i hname
    rw [takesNameBefore, hname]
    rfl
  · split at h
    · rename_i hname
      rw [takesNameBefore, hname]
      rfl
    · contradiction

/-- A declaring word that is carried out. -/
theorem sound_after_of_declares {keyword : Word}
    (h : Runs discipline ⟨code, scene, room, .word keyword :: rest⟩ waiting machine)
    (hunnamed : takesNameBefore rest = false)
    (hdeclares : Deed.Declares scene machine keyword (Deed.ofItem scene rest (.word keyword) machine))
    (hlater : later =
      after ⟨code, scene, room, rest⟩ waiting (Deed.ofItem scene rest (.word keyword) machine)) :
    later.Sound discipline ∧
      (running ⟨code, scene, room, .word keyword :: rest⟩ waiting machine).Declares later := by
  generalize Deed.ofItem scene rest (.word keyword) machine = deed at hdeclares hlater
  obtain ⟨hkeyword, hstack, hbinding⟩ := hdeclares
  rename_i declaration name held below binding
  subst hlater
  obtain ⟨before, declared, hinStep, hnamed⟩ := h.topInStep
  obtain ⟨word, frame, declared', hlast, hframe, hlookup, hbound⟩ := hinStep.declare hkeyword
  -- the name on the stack is the one that stands before the keyword
  obtain rfl : name = word.name := by
    obtain ⟨below', hbelow⟩ := hnamed (takesNameBefore_of_keyword hkeyword rest) word hlast
    rw [hstack, List.cons.injEq, Value.identifier.injEq] at hbelow
    exact hbelow.1
  have hsettles := Declaration.settles_binding? hbinding
  have hgrows : machine.frames.Grows (machine.frames.bind scene.frame word.name binding) :=
    Frames.grows_bind hframe hlookup hsettles
  have hheld := h.madeOf.stack
  rw [hstack, List.forall_mem_cons, List.forall_mem_cons] at hheld
  have hmadeOf := (h.madeOf.withStack hheld.2.2).madeOf.bind
    (Declaration.madeOf_binding? hheld.2.1 hbinding) scene.frame word.name
  have hwaits : Waits discipline waiting
      { machine with
        stack := below, frames := machine.frames.bind scene.frame word.name binding } := by
    apply h.toWaits.grows hgrows
    · exact hmadeOf.mono (discipline.number_mono hgrows) (discipline.closure_mono hgrows)
    · intro entry hentry
      obtain ⟨before, declared, hwaiting⟩ := h.inStep entry hentry
      exact ⟨before, declared, hwaiting.bind_of_ne (h.topApart entry hentry) _ _⟩
  obtain ⟨init, rfl⟩ := List.getLast?_eq_some_iff.1 hlast
  constructor
  · refine ⟨hwaits, discipline.seat_mono hgrows _ _ h.topSeat, h.topApart, _, declared',
      hbound binding hsettles, ?_⟩
    intro htakes
    rw [hunnamed] at htakes
    contradiction
  · refine .intro _ waiting machine init word keyword rest frame declaration binding rfl rfl ?_
      hkeyword hframe hlookup hsettles rfl
    have hbody := hinStep.body
    rw [List.append_assoc] at hbody
    exact hbody

/-- A moment that follows a sound one is sound. Frames stay as they are, or a declaring word of the
running block is carried out. -/
theorem Sound.next (h : moment.Sound discipline) (hnext : moment.Next later) :
    later.Sound discipline ∧
      (moment.machine.frames.KeptIn later.machine.frames ∨ moment.Declares later) := by
  cases moment with
  | running top waiting machine =>
      obtain ⟨code, scene, room, items⟩ := top
      cases items with
      | nil =>
          obtain rfl := Option.some.inj hnext
          exact (sound_finish h.toWaits rfl).imp_right Or.inl
      | cons item rest =>
          have hlater := (Option.some.inj hnext).symm
          obtain ⟨before, declared, hinStep, _⟩ := h.topInStep
          have hitem : item ∈ code.body := by
            rw [hinStep.body]
            exact List.mem_append_right _ List.mem_cons_self
          rcases Deed.quiet_grown_or_declares discipline h.madeOf
            (discipline.item h.topSeat item hitem) with hquiet | ⟨keyword, rfl, hunnamed, hdeclares⟩
          · exact (sound_after_of_quiet h hquiet hlater).imp_right Or.inl
          · exact (sound_after_of_declares h hunnamed hdeclares hlater).imp_right Or.inr
  | leaving exit waiting machine =>
      obtain rfl := Option.some.inj hnext
      exact (sound_finish h rfl).imp_right Or.inl
  | ended result => exact absurd hnext not_next_ended

/-- Every moment of a run that begins soundly is sound, and frames grow. -/
theorem Sound.reaches (h : moment.Sound discipline) (hreaches : Reaches moment later) :
    later.Sound discipline ∧ moment.machine.frames.Grows later.machine.frames := by
  induction hreaches with
  | refl => exact ⟨h, .refl _⟩
  | tail _ hnext ih =>
      obtain ⟨hsound, hgrows⟩ := ih
      obtain ⟨hsound', hstep⟩ := hsound.next hnext
      refine ⟨hsound', hgrows.trans ?_⟩
      rcases hstep with hkept | hdeclares
      · exact hkept.grows
      · exact hdeclares.grows

/-- The blocks that have begun and not ended. -/
theorem Sound.activations (h : moment.Sound discipline) :
    ∀ activation ∈ moment.activations,
      discipline.seat moment.machine.frames activation.code activation.scene.frame ∧
        ∃ before after, activation.InStep moment.machine.frames before after := by
  cases moment with
  | running top waiting machine =>
      obtain ⟨before, after, hinStep, _⟩ := h.topInStep
      exact List.forall_mem_cons.2 ⟨⟨h.topSeat, before, after, hinStep⟩, h.toWaits.activations⟩
  | leaving exit waiting machine => exact Waits.activations h
  | ended result => exact List.forall_mem_nil _

/-- A run that begins with an allowed block begins soundly. -/
theorem sound_start (hmachine : machine.MadeOf (discipline.allowed machine.frames))
    {closure : Closure} (hclosure : (discipline.allowed machine.frames).closure closure)
    (limit : Nat) (active : List BeginId) :
    (start limit active closure machine).Sound discipline := by
  have hnone : Waits discipline [] machine :=
    ⟨hmachine, List.forall_mem_nil _, List.forall_mem_nil _, List.forall_mem_nil _,
      List.forall_mem_nil _, List.nodup_nil⟩
  exact (sound_enter hnone hclosure (limit - 1) active).1

/-- A block that has come to its end has added its frame first, and frames have grown from there. -/
theorem sound_process_ok (discipline : Discipline)
    (hmachine : machine.MadeOf (discipline.allowed machine.frames))
    {closure : Closure} (hclosure : (discipline.allowed machine.frames).closure closure)
    {limit : Nat} {active : List BeginId} {frame : FrameId} {changed : Machine}
    (hprocess : process (limit - 1) active closure machine = .ok frame changed) :
    changed.MadeOf (discipline.allowed changed.frames) ∧ frame = machine.frames.all.size ∧
      (machine.frames.add (.ofBlock closure.code closure.frame)).2.Grows changed.frames := by
  have hended := (reaches_ended_iff limit active closure machine _).2 hprocess
  obtain ⟨hmadeOf, hgrows⟩ := (sound_start hmachine hclosure limit active).reaches hended
  unfold start at hgrows
  cases hroom : limit - 1 with
  | zero =>
      rw [hroom] at hprocess
      contradiction
  | succ room =>
      rw [hroom] at hgrows
      rw [hroom, process_succ] at hprocess
      refine ⟨hmadeOf, ?_, hgrows⟩
      split at hprocess
      · exact (EStateM.Result.ok.inj hprocess).1.symm
      · contradiction

end

end Moment

end StackProse.Machine
