import StackProse.Proofs.Machine.Lexical

/-!
# The blocks of the machine find their words

The machine makes two kinds of blocks itself: one that leaves a run by `Begin`, and one that matches a
pattern. Such a block consists of one word, which no program can write, and a frame is added for it that
binds the word. `Frames.Equips` says that the word is bound where the block is.

`Discipline.equipped` adds this to a discipline. It is kept since names stay bound while frames grow
(`Frames.Grows.isSome_lookup`), and since the blocks in a body that was written are others.
-/

namespace StackProse

open Machine

/-- A frame that grows binds the same names. -/
theorem Frame.Grows.isSome_lookup {old new : Frame} (h : old.Grows new) (name : String) :
    (new.bindings.lookup name).isSome = (old.bindings.lookup name).isSome := by
  have hbindings := h.bindings
  generalize old.bindings = before, new.bindings = after at hbindings ⊢
  induction hbindings with
  | nil => rfl
  | @cons entry later _ _ hentry _ ih =>
      rw [List.lookup_cons, List.lookup_cons, hentry.1]
      cases name == entry.1 with
      | true => rfl
      | false => exact ih

namespace Frames

variable {frames later : Frames} {code : Block} {place : Option FrameId} {id : FrameId}
  {name : String}

/-- A name that is bound stays bound while frames grow. -/
theorem Grows.isSome_lookup (hgrows : frames.Grows later) (h : (frames.lookup id name).isSome) :
    (later.lookup id name).isSome := by
  induction id using Nat.strong_induction_on with
  | _ id ih =>
      rw [lookup] at h ⊢
      cases hframe : frames.all[id]? with
      | none => simp [hframe] at h
      | some frame =>
          obtain ⟨new, hnew, hgrown⟩ := hgrows id frame hframe
          have hnames := hgrown.isSome_lookup name
          rw [hframe] at h
          rw [hnew]
          dsimp only at h ⊢
          rw [hgrown.parent]
          cases hfound : new.bindings.lookup name with
          | some binding => rfl
          | none =>
              rw [hfound, Option.isSome_none, eq_comm, Option.isSome_eq_false_iff,
                Option.isNone_iff_eq_none] at hnames
              rw [hnames] at h
              dsimp only at h ⊢
              cases hparent : frame.parent with
              | none => simp [hparent] at h
              | some parent =>
                  rw [hparent] at h
                  dsimp only at h ⊢
                  by_cases hless : parent < id
                  · rw [if_pos hless] at h ⊢
                    exact ih parent hless h
                  · rw [if_neg hless] at h
                    contradiction

theorem lt_of_isSome_lookup (h : (frames.lookup id name).isSome) : id < frames.all.size := by
  by_contra hless
  rw [lookup, Array.getElem?_eq_none (Nat.le_of_not_lt hless)] at h
  contradiction

/-- The words of a block are bound where they are looked up from. -/
def Equips (frames : Frames) (code : Block) (place : Option FrameId) : Prop :=
  ∃ id, place = some id ∧ ∀ word, Item.word word ∈ code.body → (frames.lookup id word.name).isSome

theorem Equips.grows (h : frames.Equips code place) (hgrows : frames.Grows later) :
    later.Equips code place := by
  obtain ⟨id, hplace, hbound⟩ := h
  exact ⟨id, hplace, fun word hword => hgrows.isSome_lookup (hbound word hword)⟩

/-- A frame that is added for a block of the machine. -/
theorem equips_add (frames : Frames) (name : String) (binding : Binding) :
    (frames.add { bindings := [(name, binding)] }).2.Equips (wordBlock name)
      (some frames.all.size) := by
  refine ⟨_, rfl, ?_⟩
  intro word hword
  obtain rfl : word = { name := name } := by simpa [wordBlock, Block.body] using hword
  rw [lookup]
  simp [add]

/-- A block of the machine that begins finds its word in the frame around it. -/
theorem Equips.add (h : frames.Equips code place) (hmade : IsMade code) :
    (frames.add (.ofBlock code place)).2.Equips code (some frames.all.size) := by
  obtain ⟨id, rfl, hbound⟩ := h
  refine ⟨_, rfl, ?_⟩
  intro word hword
  have hid := lt_of_isSome_lookup (hbound word hword)
  have hgrows : frames.Grows (frames.add (.ofBlock code (some id))).2 := (keptIn_add _ _).grows
  have hbound' := hgrows.isSome_lookup (hbound word hword)
  have hdeclared : code.declared = [] := by
    rcases hmade with rfl | rfl <;> rfl
  rw [lookup]
  simpa [Frames.add, Frame.ofBlock, hdeclared, hid] using hbound'

end Frames

namespace Machine

/-- A discipline that also asks that the blocks of the machine find their words. The blocks that may
run have no such blocks in them. -/
def Discipline.equipped (discipline : Discipline)
    (hinner : ∀ {frames code place}, discipline.seat frames code place →
      ∀ inner, Item.block inner ∈ code.body → ¬ IsMade inner) : Discipline where
  allowed frames := {
    number := (discipline.allowed frames).number
    closure := fun closure => (discipline.allowed frames).closure closure ∧
      (IsMade closure.code → frames.Equips closure.code closure.frame) }
  seat frames code place := discipline.seat frames code place ∧
    (IsMade code → frames.Equips code (some place))
  computed frames := by
    obtain ⟨hfinite, hcount, hread, hdouble, hrange⟩ := discipline.computed frames
    exact ⟨hfinite, hcount, hread, hdouble, hrange⟩
  made frames name binding hmade :=
    ⟨discipline.made frames name binding hmade, fun _ => frames.equips_add name binding⟩
  tidy h := discipline.tidy h.1
  number_mono hgrows := discipline.number_mono hgrows
  closure_mono hgrows closure h :=
    ⟨discipline.closure_mono hgrows closure h.1, fun hmade => (h.2 hmade).grows hgrows⟩
  seat_mono hgrows code frame h :=
    ⟨discipline.seat_mono hgrows code frame h.1, fun hmade => (h.2 hmade).grows hgrows⟩
  enter h := ⟨discipline.enter h.1, fun hmade => (h.2 hmade).add hmade⟩
  item h item hitem := by
    have hold := discipline.item h.1 item hitem
    cases item with
    | literal written =>
        cases written with
        | number value => simpa [Item.MadeOf, Value.ofLiteral] using hold
        | string | boolean | symbol => simp [Item.MadeOf, Value.ofLiteral]
    | word => trivial
    | block inner => exact ⟨hold, fun hmade => absurd hmade (hinner h.1 inner hitem)⟩

end Machine

end StackProse
