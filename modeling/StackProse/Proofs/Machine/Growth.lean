import Mathlib.Data.List.Forall2
import StackProse.Proofs.Machine.Contents

/-!
# How frames change

A frame of a block starts with all its declarations pending. Declarations are carried out one by one,
and what has been bound stays bound: `Frame.Grows` says that a frame keeps its parent and its names,
and that a binding changes at most once, from pending to what its declaration makes. Growing is
reflexive and transitive, so it speaks of two moments of a run that lie any number of steps apart.
-/

namespace StackProse

/-! ### Bindings -/

/-- A binding is one that a declaration makes. -/
inductive Binding.Settles : Binding → Declaration → Prop
  | function (closure : Closure) : Settles (.function closure) .function
  | value (held : Value) : Settles (.value held) .value

/-- A binding is pending, or it is one that its declaration makes. -/
def Binding.Fits (binding : Binding) (declaration : Declaration) : Prop :=
  binding = .pending declaration ∨ binding.Settles declaration

theorem Binding.fits_function_iff {binding : Binding} : binding.Fits .function ↔
    binding = .pending .function ∨ ∃ closure, binding = .function closure := by
  apply or_congr_right
  constructor
  · rintro ⟨closure⟩
    exact ⟨closure, rfl⟩
  · rintro ⟨closure, rfl⟩
    exact .function closure

theorem Binding.fits_value_iff {binding : Binding} : binding.Fits .value ↔
    binding = .pending .value ∨ ∃ held, binding = .value held := by
  apply or_congr_right
  constructor
  · rintro ⟨held⟩
    exact ⟨_, rfl⟩
  · rintro ⟨held, rfl⟩
    exact .value held

/-- A binding stays as it is, or it was pending and has been settled. -/
def Binding.Grows (old new : Binding) : Prop :=
  new = old ∨ ∃ declaration, old = .pending declaration ∧ new.Settles declaration

theorem Declaration.settles_binding? {declaration : Declaration} {held : Value} {binding : Binding}
    (h : declaration.binding? held = some binding) : binding.Settles declaration := by
  cases declaration with
  | value =>
      obtain rfl := Option.some.inj h
      exact .value held
  | function =>
      cases held with
      | block code frame =>
          obtain rfl := Option.some.inj h
          exact .function _
      | _ => simp [Declaration.binding?] at h

namespace Binding

variable {old middle new : Binding} {declaration other : Declaration}

theorem Settles.ne_pending (h : new.Settles declaration) : new ≠ .pending other := by
  cases h <;> exact fun heq => nomatch heq

theorem Grows.refl (binding : Binding) : binding.Grows binding :=
  Or.inl rfl

theorem Grows.trans (h : old.Grows middle) (h' : middle.Grows new) : old.Grows new := by
  rcases h' with rfl | ⟨declaration, rfl, hnew⟩
  · exact h
  · rcases h with rfl | ⟨other, _, hmiddle⟩
    · exact Or.inr ⟨declaration, rfl, hnew⟩
    · exact absurd rfl hmiddle.ne_pending

theorem Fits.grows (h : old.Fits declaration) (hgrows : old.Grows new) : new.Fits declaration := by
  rcases hgrows with rfl | ⟨other, rfl, hnew⟩
  · exact h
  · rcases h with h | h
    · cases h
      exact Or.inr hnew
    · exact absurd rfl h.ne_pending

end Binding

/-! ### Frames -/

/-- A frame keeps its parent and its names, and its bindings grow. -/
structure Frame.Grows (old new : Frame) : Prop where
  parent : new.parent = old.parent
  bindings : List.Forall₂ (fun entry later => later.1 = entry.1 ∧ entry.2.Grows later.2)
    old.bindings new.bindings

/-- A frame binds the declared names and no others, each as it was declared. -/
def Frame.Binds (frame : Frame) (declared : Declarations) : Prop :=
  List.Forall₂ (fun entry declaration => entry.1 = declaration.1 ∧ entry.2.Fits declaration.2)
    frame.bindings declared

namespace Frame

variable {old middle new frame : Frame} {declared : Declarations} {name other : String}
  {binding : Binding} {bindings : List (String × Binding)} {declaration : Declaration}

theorem Grows.refl (frame : Frame) : frame.Grows frame :=
  ⟨rfl, List.forall₂_same.2 fun _ _ => ⟨rfl, .refl _⟩⟩

theorem Grows.trans (h : old.Grows middle) (h' : middle.Grows new) : old.Grows new := by
  refine ⟨h'.parent.trans h.parent, ?_⟩
  have hfirst := h.bindings
  have hlast := h'.bindings
  generalize old.bindings = before, middle.bindings = between, new.bindings = after at hfirst hlast ⊢
  induction hfirst generalizing after with
  | nil => exact hlast
  | cons hentry _ ih =>
      cases hlast with
      | cons hlater hrest =>
          exact .cons ⟨hlater.1.trans hentry.1, hentry.2.trans hlater.2⟩ (ih _ hrest)

theorem Binds.names_eq (h : frame.Binds declared) :
    frame.bindings.map (·.1) = declared.map (·.1) := by
  unfold Binds at h
  generalize frame.bindings = bindings at h
  induction h with
  | nil => rfl
  | cons hentry _ ih => rw [List.map_cons, List.map_cons, hentry.1, ih]

theorem Binds.grows (h : old.Binds declared) (hgrows : old.Grows new) : new.Binds declared := by
  have hbindings := hgrows.bindings
  unfold Binds at h ⊢
  generalize old.bindings = before, new.bindings = after at h hbindings ⊢
  induction hbindings generalizing declared with
  | nil => exact h
  | cons hentry _ ih =>
      cases h with
      | cons hdeclared hrest =>
          exact .cons ⟨hentry.1.trans hdeclared.1, hdeclared.2.grows hentry.2⟩ (ih hrest)

/-- The frame of a block binds what the block declares. -/
theorem binds_ofBlock (code : Block) (parent : Option FrameId) :
    (Frame.ofBlock code parent).Binds code.declared := by
  unfold Binds Frame.ofBlock
  generalize code.declared = declared
  induction declared with
  | nil => exact .nil
  | cons entry rest ih => exact .cons ⟨rfl, Or.inl rfl⟩ ih

/-- In the frame of a block everything is pending. -/
theorem lookup_ofBlock {code : Block} (hnodup : (code.declared.map (·.1)).Nodup)
    (parent : Option FrameId) {entry : String × Declaration} (hentry : entry ∈ code.declared) :
    (Frame.ofBlock code parent).bindings.lookup entry.1 = some (.pending entry.2) := by
  unfold Frame.ofBlock
  generalize code.declared = declared at hnodup hentry
  induction declared with
  | nil => exact absurd hentry List.not_mem_nil
  | cons first rest ih =>
      rw [List.map_cons, List.nodup_cons] at hnodup
      rcases List.mem_cons.1 hentry with rfl | hrest
      · simp
      · have hne : entry.1 ≠ first.1 := by
          intro heq
          apply hnodup.1
          rw [← heq]
          exact List.mem_map_of_mem hrest
        have hfalse : (entry.1 == first.1) = false := beq_false_of_ne hne
        simp only [List.map_cons, List.lookup_cons, hfalse]
        exact ih hnodup.2 hrest

/-- Settling a binding that is pending lets the frame grow. -/
theorem grows_bind (hlookup : frame.bindings.lookup name = some (.pending declaration))
    (hsettles : binding.Settles declaration) : frame.Grows (frame.bind name binding) := by
  refine ⟨rfl, ?_⟩
  unfold Frame.bind
  generalize frame.bindings = bindings at hlookup
  induction bindings with
  | nil => simp at hlookup
  | cons entry rest ih =>
      obtain ⟨found, held⟩ := entry
      simp only [bindIn]
      by_cases hname : found = name
      · subst hname
        have hheld : held = .pending declaration := by simpa using hlookup
        rw [if_pos rfl]
        exact .cons ⟨rfl, Or.inr ⟨declaration, hheld, hsettles⟩⟩
          (List.forall₂_same.2 fun _ _ => ⟨rfl, .refl _⟩)
      · have hfalse : (name == found) = false := beq_false_of_ne (Ne.symm hname)
        simp only [List.lookup_cons, hfalse] at hlookup
        rw [if_neg hname]
        exact .cons ⟨rfl, .refl _⟩ (ih hlookup)

/-- Binding a name leaves the other names as they are. -/
theorem lookup_bind_of_ne (hne : other ≠ name) :
    (frame.bind name binding).bindings.lookup other = frame.bindings.lookup other := by
  unfold Frame.bind
  generalize frame.bindings = bindings
  induction bindings with
  | nil => simp [bindIn, List.lookup_cons, beq_false_of_ne hne]
  | cons entry rest ih =>
      obtain ⟨found, held⟩ := entry
      simp only [bindIn]
      by_cases hname : found = name
      · subst hname
        simp [List.lookup_cons, beq_false_of_ne hne]
      · rw [if_neg hname]
        simp only [List.lookup_cons]
        split
        · rfl
        · exact ih

end Frame

/-! ### All frames -/

namespace Frames

variable {frames later last : Frames} {id place : FrameId} {name : String} {binding : Binding}

/-- Every frame is found later, and has grown. -/
def Grows (frames later : Frames) : Prop :=
  ∀ (id : FrameId) (frame : Frame), frames.all[id]? = some frame →
    ∃ new, later.all[id]? = some new ∧ frame.Grows new

theorem KeptIn.grows (h : frames.KeptIn later) : frames.Grows later :=
  fun id frame hframe => ⟨frame, h id frame hframe, .refl _⟩

theorem Grows.refl (frames : Frames) : frames.Grows frames :=
  (KeptIn.refl frames).grows

theorem Grows.trans (h : frames.Grows later) (h' : later.Grows last) : frames.Grows last := by
  intro id frame hframe
  obtain ⟨middle, hmiddle, hgrows⟩ := h id frame hframe
  obtain ⟨new, hnew, hgrows'⟩ := h' id middle hmiddle
  exact ⟨new, hnew, hgrows.trans hgrows'⟩

theorem getElem?_bind_of_ne (hne : id ≠ place) :
    (frames.bind place name binding).all[id]? = frames.all[id]? := by
  simp only [Frames.bind, Array.getElem?_modify, if_neg (Ne.symm hne)]

theorem getElem?_bind_self {frame : Frame} (hframe : frames.all[place]? = some frame) :
    (frames.bind place name binding).all[place]? = some (frame.bind name binding) := by
  simp only [Frames.bind, Array.getElem?_modify, if_true, hframe, Option.map_some]

theorem grows_bind {frame : Frame} {declaration : Declaration}
    (hframe : frames.all[place]? = some frame)
    (hlookup : frame.bindings.lookup name = some (.pending declaration))
    (hsettles : binding.Settles declaration) :
    frames.Grows (frames.bind place name binding) := by
  intro id old hold
  by_cases hid : id = place
  · subst hid
    obtain rfl := Option.some.inj (hframe.symm.trans hold)
    exact ⟨_, getElem?_bind_self hframe, Frame.grows_bind hlookup hsettles⟩
  · exact ⟨old, (getElem?_bind_of_ne hid).trans hold, .refl _⟩

end Frames

/-! ### Running a block -/

namespace Machine

/-- The frames below `bound` are all found later as they are. -/
def KeptBelow (bound : Nat) (frames later : Frames) : Prop :=
  ∀ (id : FrameId) (frame : Frame), id < bound → frames.all[id]? = some frame →
    later.all[id]? = some frame

theorem KeptBelow.trans {bound : Nat} {frames later last : Frames}
    (h : KeptBelow bound frames later) (h' : KeptBelow bound later last) :
    KeptBelow bound frames last :=
  fun id frame hid hframe => h' id frame hid (h id frame hid hframe)

theorem keptBelow_of_keptIn (bound : Nat) {frames later : Frames} (h : frames.KeptIn later) :
    KeptBelow bound frames later :=
  fun id frame _ hframe => h id frame hframe

/-- A deed that leaves frames as they are, carried out by a runner that does so too. -/
theorem Deed.keptIn_perform {runner : Runner}
    (hrunner : ∀ (active : List BeginId) (closure : Closure) (machine : Machine),
      machine.frames.KeptIn (final (runner active closure machine)).frames)
    {machine : Machine} {deed : Deed} (hquiet : deed.Quiet .anything machine)
    (active : List BeginId) :
    machine.frames.KeptIn (final (deed.perform runner active)).frames := by
  cases deed with
  | done result => exact hquiet.kept
  | enter purpose inner closure entered =>
      have hblock := hquiet.2.2.kept.trans (hrunner inner closure entered)
      have hpurpose := hquiet.2.1
      simp only [perform]
      cases hresult : runner inner closure entered with
      | ok frame after =>
          rw [hresult] at hblock
          exact hblock.trans (purpose.ends_resume hpurpose after.madeOf_anything).kept
      | error exit after =>
          rw [hresult] at hblock
          exact hblock.trans (purpose.ends_abandon hpurpose after.madeOf_anything active exit).kept

/-- Items change no frame below that of their block. -/
theorem keptBelow_runItems {runner : Runner}
    (hrunner : ∀ (active : List BeginId) (closure : Closure) (machine : Machine),
      machine.frames.KeptIn (final (runner active closure machine)).frames)
    (scene : Scene) (items : List Item) (machine : Machine) :
    KeptBelow scene.frame machine.frames (final (runItems runner scene items machine)).frames := by
  induction items generalizing machine with
  | nil => exact keptBelow_of_keptIn _ (.refl _)
  | cons item rest ih =>
      -- what the item itself does to the frames below
      have hdeed : KeptBelow scene.frame machine.frames
          (final ((Deed.ofItem scene rest item machine).perform runner scene.active)).frames := by
        rcases Deed.quiet_or_declares complete_anything machine.madeOf_anything
          (item.madeOf_anything scene.frame) with hquiet | ⟨keyword, rfl, _, hdeclares⟩
        · exact keptBelow_of_keptIn _ (Deed.keptIn_perform hrunner hquiet _)
        · generalize Deed.ofItem scene rest (.word keyword) machine = deed at hdeclares ⊢
          cases hdeclares with
          | intro hkeyword hstack hbinding =>
              intro id frame hid hframe
              exact (Frames.getElem?_bind_of_ne (Nat.ne_of_lt hid)).trans hframe
      rw [runItems_cons]
      cases hresult : (Deed.ofItem scene rest item machine).perform runner scene.active with
      | ok _ after =>
          rw [hresult] at hdeed
          exact hdeed.trans (ih after)
      | error exit after =>
          rw [hresult] at hdeed
          exact hdeed

/-- Running a block leaves all frames as they are that were there before. -/
theorem process_keptIn (room : Nat) (active : List BeginId) (closure : Closure)
    (machine : Machine) :
    machine.frames.KeptIn (final (process room active closure machine)).frames := by
  induction room generalizing active closure machine with
  | zero => exact .refl _
  | succ room ih =>
      intro id frame hframe
      have hid : id < machine.frames.all.size := (Array.getElem?_eq_some_iff.1 hframe).1
      have hitems := keptBelow_runItems ih
        ⟨machine.frames.all.size, closure.code.userCode, active⟩ closure.code.body
        { machine with frames := (machine.frames.add (.ofBlock closure.code closure.frame)).2 }
      have hkept := hitems id frame hid (Frames.keptIn_add _ _ id frame hframe)
      rw [process_succ]
      generalize runItems (process room) _ _ _ = result at hkept ⊢
      cases result <;> exact hkept

end Machine

end StackProse
