import StackProse.Proofs.Machine.Discipline

/-!
# Frames mirror scopes

Names are looked up twice: in the scope of a block before a program runs, and from the frame of the
block while it runs. `Frames.Mirrors` says that a chain of frames binds, frame by frame, what a scope
declares, and `Frames.Mirrors.rel_lookup` that both ways of looking up then agree.

The discipline `lexicalBlocks` lets blocks run only in frames that mirror their scopes. It is kept since
a block is pushed in the frame of the block around it, and runs in a frame whose parent that frame is.
-/

namespace StackProse

/-- A binding that is looked up in a frame is the one that its declaration announces. -/
theorem Frame.Binds.rel_lookup {frame : Frame} {declared : Declarations} (h : frame.Binds declared)
    (name : String) :
    Option.Rel Binding.Fits (frame.bindings.lookup name) (declared.lookup name) := by
  unfold Frame.Binds at h
  generalize frame.bindings = bindings at h
  induction h with
  | nil => exact .none
  | @cons entry declaration _ _ hentry _ ih =>
      obtain ⟨found, binding⟩ := entry
      obtain ⟨other, kind⟩ := declaration
      obtain ⟨rfl, hfits⟩ := hentry
      rw [List.lookup_cons, List.lookup_cons]
      cases name == found with
      | true => exact .some hfits
      | false => exact ih

namespace Frames

/-- The chain of frames from a frame outward binds what the scope declares. -/
def Mirrors (frames : Frames) : Scope → Option FrameId → Prop
  | [], place => place = none
  | declared :: outer, place => ∃ id frame, place = some id ∧ frames.all[id]? = some frame ∧
      frame.Binds declared ∧ (∀ parent, frame.parent = some parent → parent < id) ∧
        frames.Mirrors outer frame.parent

section

variable {frames later : Frames} {scope : Scope} {place : Option FrameId} {id : FrameId}

theorem Mirrors.lt (h : frames.Mirrors scope (some id)) : id < frames.all.size := by
  cases scope with
  | nil => exact absurd h (by simp [Mirrors])
  | cons declared outer =>
      obtain ⟨_, frame, hid, hframe, _⟩ := h
      obtain rfl := Option.some.inj hid
      exact (Array.getElem?_eq_some_iff.1 hframe).1

/-- Frames that grow go on to mirror the scope. -/
theorem Mirrors.grows (h : frames.Mirrors scope place) (hgrows : frames.Grows later) :
    later.Mirrors scope place := by
  induction scope generalizing place with
  | nil => exact h
  | cons declared outer ih =>
      obtain ⟨id, frame, rfl, hframe, hbinds, hparent, houter⟩ := h
      obtain ⟨new, hnew, hframeGrows⟩ := hgrows id frame hframe
      refine ⟨id, new, rfl, hnew, hbinds.grows hframeGrows, ?_, ?_⟩
      · rw [hframeGrows.parent]
        exact hparent
      · rw [hframeGrows.parent]
        exact ih houter

/-- The frame of a block that begins mirrors the scope of the block. -/
theorem Mirrors.add (h : frames.Mirrors scope place) (code : Block) :
    (frames.add (.ofBlock code place)).2.Mirrors (code.declared :: scope)
      (some frames.all.size) := by
  refine ⟨frames.all.size, .ofBlock code place, rfl, ?_, Frame.binds_ofBlock code place, ?_, ?_⟩
  · simp [Frames.add]
  · rintro parent rfl
    exact h.lt
  · exact h.grows (keptIn_add _ _).grows

/-- Where frames mirror a scope, a name is found in both or in neither. -/
theorem Mirrors.rel_lookup (h : frames.Mirrors scope (some id)) (name : String) :
    Option.Rel Binding.Fits (frames.lookup id name) (scope.find? name) := by
  induction scope generalizing id with
  | nil => exact absurd h (by simp [Mirrors])
  | cons declared outer ih =>
      obtain ⟨_, frame, hid, hframe, hbinds, hparent, houter⟩ := h
      obtain rfl := Option.some.inj hid
      have hhere := hbinds.rel_lookup name
      rw [Frames.lookup, hframe, Scope.find?, List.findSome?_cons]
      dsimp only
      generalize frame.bindings.lookup name = found at hhere ⊢
      generalize declared.lookup name = announced at hhere ⊢
      cases hhere with
      | some hfits => exact .some hfits
      | none =>
          cases hplace : frame.parent with
          | none =>
              rw [hplace] at houter
              cases outer with
              | nil => exact .none
              | cons => exact absurd houter (by simp [Mirrors])
          | some parent =>
              rw [hplace] at houter
              dsimp only
              rw [if_pos (hparent parent hplace)]
              exact ih houter

theorem Mirrors.isSome_lookup (h : frames.Mirrors scope (some id)) (name : String) :
    (frames.lookup id name).isSome = (scope.find? name).isSome := by
  have hlookup := h.rel_lookup name
  generalize frames.lookup id name = found at hlookup ⊢
  generalize scope.find? name = announced at hlookup ⊢
  cases hlookup <;> rfl

end

end Frames

namespace Machine

/-- Blocks with scopes that are closed under going into a block. -/
structure Lexical (written : List (Block × Scope)) : Prop where
  tidy : ∀ entry ∈ written, entry.1.Tidy
  scope : ∀ entry ∈ written, ∃ around, entry.2 = entry.1.declared :: around
  inner : ∀ entry ∈ written, ∀ code, Item.block code ∈ entry.1.body →
    (code, code.declared :: entry.2) ∈ written

/-- Blocks that run in frames which mirror their scopes, and the blocks that the machine makes. -/
def lexicalBlocks (written : List (Block × Scope)) (h : Lexical written) : Discipline where
  allowed frames := {
    number := fun _ => True
    closure := fun closure => IsMade closure.code ∨
      ∃ around, (closure.code, closure.code.declared :: around) ∈ written ∧
        frames.Mirrors around closure.frame }
  seat frames code place := IsMade code ∨
    ∃ scope, (code, scope) ∈ written ∧ frames.Mirrors scope (some place)
  computed _ := by
    constructor <;> intros <;> trivial
  made _ _ _ hmade := Or.inl hmade
  tidy hclosure := by
    rcases hclosure with hmade | ⟨around, hwritten, _⟩
    · exact hmade.tidy
    · exact h.tidy _ hwritten
  number_mono _ _ _ := trivial
  closure_mono hgrows closure hclosure :=
    hclosure.imp_right fun ⟨around, hwritten, hmirrors⟩ =>
      ⟨around, hwritten, hmirrors.grows hgrows⟩
  seat_mono hgrows code place hseat :=
    hseat.imp_right fun ⟨scope, hwritten, hmirrors⟩ => ⟨scope, hwritten, hmirrors.grows hgrows⟩
  enter hclosure :=
    hclosure.imp_right fun ⟨around, hwritten, hmirrors⟩ =>
      ⟨_, hwritten, hmirrors.add _⟩
  item hseat item hitem := by
    cases item with
    | literal written => cases written <;> simp [Item.MadeOf, Value.ofLiteral]
    | word => trivial
    | block inner =>
        rcases hseat with hmade | ⟨scope, hwritten, hmirrors⟩
        · obtain ⟨word, hbody⟩ := hmade.body_eq
          rw [hbody] at hitem
          exact absurd hitem (by simp)
        · exact Or.inr ⟨scope, h.inner _ hwritten inner hitem, hmirrors⟩

end Machine

end StackProse
