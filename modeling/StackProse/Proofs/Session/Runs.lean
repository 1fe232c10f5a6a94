import StackProse.Proofs.Machine.Discipline
import StackProse.Proofs.Program.Assembled
import StackProse.Session.Basic

/-!
# The runs of a session

What a session does, told by the moments of its runs. `Session.load_eq_ok_iff` says when a
prelude can be loaded and what has been done then, `Session.accepts_iff` what it means that a source is
accepted. The run of an accepted source starts at `Session.firstMoment` and ends, by
`Session.Accepts.exists_ended`, at a moment whose machine the session goes on with.
-/

namespace StackProse

open Machine

theorem Frames.mem_emptyFrom {all : Array Frame} {id : FrameId} {count : Nat} {frame : Frame}
    (h : frame ∈ emptyFrom all id count) : frame.bindings = [] ∨ frame ∈ all := by
  induction count generalizing all id with
  | zero => exact Or.inr h
  | succ count ih =>
      rcases ih h with hempty | hmem
      · exact Or.inl hempty
      · obtain ⟨place, hplace⟩ := Array.getElem?_of_mem hmem
        rw [Array.getElem?_modify] at hplace
        by_cases hid : id = place
        · rw [if_pos hid] at hplace
          obtain ⟨old, _, rfl⟩ := Option.map_eq_some_iff.1 hplace
          exact Or.inl rfl
        · rw [if_neg hid] at hplace
          exact Or.inr (Array.mem_of_getElem? hplace)

namespace Session

/-- A session comes from another one by running and checking sources. -/
inductive After (first : Session) : Session → Prop
  | refl : After first first
  | run {session : Session} (source : List Char) :
      After first session → After first (session.run (.ofSource source)).2
  | check {session : Session} (source : List Char) :
      After first session → After first (session.check (.ofSource source)).2

/-- A source is accepted. -/
def Accepts (session : Session) (source : List Char) : Prop :=
  (session.check (.ofSource source)).1 = true

/-- The first moment of the run of a source. -/
def firstMoment (session : Session) (source : List Char) : Moment :=
  .start session.limit [] ⟨(Program.ofSource true source).root, session.frame⟩
    session.cleared.ready

section

variable {session loaded first : Session} {source : List Char}

theorem report_nil (session : Session) : session.report [] = session :=
  rfl

/-- A prelude can be used if it has no problems, all its words are declared, and its run comes to its
end. -/
theorem load_eq_ok_iff : session.load source = .ok loaded ↔
    (Program.ofSource false source).isRejected = false ∧
      ((Program.ofSource false source).root.references isVocabulary []).isClean ∧
      ∃ frame machine,
        process (session.limit - 1) [] ⟨(Program.ofSource false source).root, none⟩ session.machine =
          .ok frame machine ∧
        loaded = { session with
          machine := { machine with frames := machine.frames.keep }
          scope := [(Program.ofSource false source).root.declared]
          frame := some frame } := by
  unfold load
  extract_lets program reported references checked
  by_cases hrejected : program.isRejected
  · rw [if_pos hrejected]
    exact iff_of_false nofun fun h => by simp [program, h.1] at hrejected
  · rw [if_neg hrejected]
    have haccepted : program.isRejected = false := Bool.eq_false_of_not_eq_true hrejected
    by_cases hclean : references.isClean
    · have hproblems : program.problems = [] := (Program.isRejected_eq_false_iff _ _).1 haccepted
      have hundefined : references.problems = [] := (Block.isClean_references_iff _ _ _).1 hclean
      have hsession : checked = session := by
        simp only [checked, reported, hproblems, hundefined, report_nil]
      simp only [hclean, Bool.not_true, Bool.false_eq_true, if_false, hsession, evaluate]
      cases process (session.limit - 1) [] ⟨program.root, none⟩ session.machine with
      | ok frame machine =>
          constructor
          · intro h
            exact ⟨haccepted, hclean, frame, machine, rfl, (Except.ok.inj h).symm⟩
          · rintro ⟨_, _, _, _, hprocess, rfl⟩
            obtain ⟨rfl, rfl⟩ := EStateM.Result.ok.inj hprocess
            rfl
      | error exit machine =>
          apply iff_of_false
          · cases exit <;> exact nofun
          · rintro ⟨_, _, _, _, hprocess, _⟩
            contradiction
    · simp only [hclean, Bool.not_false, if_true]
      exact iff_of_false nofun fun h => hclean h.2.1

theorem limit_of_start {limit : Nat} {markup : Markup} {console : Console}
    {engine : Engine} {prelude : List Char}
    (h : Session.start limit markup console prelude engine = .ok session) :
    session.limit = limit := by
  obtain ⟨_, _, _, _, _, rfl⟩ := load_eq_ok_iff.1 h
  rfl

/-- A source is accepted if it has no problems and all its words are declared. -/
theorem accepts_iff : session.Accepts source ↔
    (Program.ofSource true source).isRejected = false ∧
      ((Program.ofSource true source).root.references isVocabulary session.scope).isClean := by
  unfold Accepts check prepare
  change (if (Program.ofSource true source).isRejected ||
      !((Program.ofSource true source).root.references isVocabulary session.scope).isClean
    then none else some (Program.ofSource true source).root).isSome = true ↔ _
  cases (Program.ofSource true source).isRejected <;>
    cases ((Program.ofSource true source).root.references isVocabulary session.scope).isClean <;>
    simp

theorem limit_cleared (session : Session) : session.cleared.limit = session.limit :=
  rfl

theorem frame_cleared (session : Session) : session.cleared.frame = session.frame :=
  rfl

/-- The check of an accepted source finds its outermost block and nothing to report. -/
theorem Accepts.prepare_eq (h : session.Accepts source) :
    session.cleared.prepare (.ofSource source) =
      (some (Program.ofSource true source).root, session.cleared) := by
  obtain ⟨hrejected, hclean⟩ := accepts_iff.1 h
  have hproblems : (Program.ofSource true source).problems = [] :=
    (Program.isRejected_eq_false_iff _ _).1 hrejected
  unfold prepare
  change (if (Program.ofSource true source).isRejected ||
      !((Program.ofSource true source).root.references isVocabulary session.scope).isClean
    then none else some (Program.ofSource true source).root,
    session.cleared.report ((Program.ofSource true source).problems ++
      ((Program.ofSource true source).root.references isVocabulary session.scope).problems)) = _
  rw [hrejected, hclean, hproblems, (Block.isClean_references_iff _ _ _).1 hclean]
  rfl

theorem not_accepts_iff :
    ¬ session.Accepts source ↔ (session.cleared.prepare (.ofSource source)).1 = none := by
  unfold Accepts check
  simp

/-- A check changes the console alone. -/
theorem check_eq (session : Session) (source : List Char) :
    ∃ console, (session.check (.ofSource source)).2 =
      { session with machine := { session.machine with console := console } } :=
  ⟨_, rfl⟩

/-- The run of a source that is refused shows its problems and empties the stack. -/
theorem run_eq_rejected (h : ¬ session.Accepts source) :
    session.run (.ofSource source) = (.rejected, { session with
      machine := { session.machine with
        stack := []
        console := session.machine.console.cleared.reportAll session.markup
          ((Program.ofSource true source).problems ++
            ((Program.ofSource true source).root.references isVocabulary
              session.scope).problems) } }) := by
  rw [not_accepts_iff] at h
  unfold run
  cases hprepare : session.cleared.prepare (.ofSource source) with
  | mk root checked =>
      rw [hprepare] at h
      have hchecked := congrArg Prod.snd hprepare
      subst h
      subst hchecked
      rfl

/-- The run of a source that is refused empties the stack. -/
theorem run_eq_of_not_accepts (h : ¬ session.Accepts source) :
    ∃ console, (session.run (.ofSource source)).2 =
      { session with machine := { session.machine with stack := [], console := console } } :=
  ⟨_, congrArg Prod.snd (run_eq_rejected h)⟩

/-- The machine before a run holds no more than the session has left. -/
theorem madeOf_ready {allowed : Ingredients} (h : session.machine.MadeOf allowed) :
    session.ready.MadeOf allowed where
  stack := List.forall_mem_nil _
  heap := h.heap
  frames frame hframe entry hentry := by
    rcases Frames.mem_emptyFrom hframe with hempty | hmem
    · rw [hempty] at hentry
      exact absurd hentry List.not_mem_nil
    · exact h.frames frame hmem entry hentry

/-- What a prelude leaves keeps to every discipline that allows the prelude itself. Its frame is the first
one, and frames have grown from there. -/
theorem madeOf_of_start {limit : Nat} {markup : Markup} {console : Console}
    {engine : Engine} {prelude : List Char}
    (discipline : Discipline) (h : Session.start limit markup console prelude engine = .ok session)
    (hroot : (discipline.allowed {}).closure ⟨(Program.ofSource false prelude).root, none⟩) :
    session.machine.MadeOf (discipline.allowed session.machine.frames) ∧ session.frame = some 0 ∧
      (Frames.add {} (.ofBlock (Program.ofSource false prelude).root none)).2.Grows
        session.machine.frames := by
  obtain ⟨_, _, frame, machine, hprocess, rfl⟩ := load_eq_ok_iff.1 h
  have hempty : MadeOf (discipline.allowed {}) { console := console, engine := engine } :=
    ⟨List.forall_mem_nil _, by simp, by simp⟩
  obtain ⟨hmadeOf, rfl, hgrows⟩ := Moment.sound_process_ok discipline hempty hroot hprocess
  have hkeep : machine.frames.KeptIn machine.frames.keep := .refl machine.frames
  have hkept := hmadeOf.mono (discipline.number_mono hkeep.grows)
    (discipline.closure_mono hkeep.grows)
  exact ⟨⟨hkept.stack, hkept.heap, hkept.frames⟩, rfl, hgrows.trans hkeep.grows⟩

/-- The frame of the prelude stays as it is when a first source is run. -/
theorem frames_ready_of_start {limit : Nat} {markup : Markup} {console : Console} {engine : Engine}
    {prelude : List Char} (h : Session.start limit markup console prelude engine = .ok session) :
    session.cleared.ready.frames.all = session.machine.frames.all := by
  obtain ⟨_, _, _, _, _, rfl⟩ := load_eq_ok_iff.1 h
  simp [ready, cleared, Frames.release, Frames.keep, Frames.emptyFrom]

/-- The run of a first source begins soundly, for every discipline that allows the prelude and the
source. -/
theorem sound_firstMoment_of_start {limit : Nat} {markup : Markup} {console : Console}
    {engine : Engine} {prelude : List Char} (discipline : Discipline)
    (h : Session.start limit markup console prelude engine = .ok session)
    (hprelude : (discipline.allowed {}).closure ⟨(Program.ofSource false prelude).root, none⟩)
    (hsource : (discipline.allowed session.machine.frames).closure
      ⟨(Program.ofSource true source).root, session.frame⟩) :
    (session.firstMoment source).Sound discipline := by
  obtain ⟨hmadeOf, _⟩ := madeOf_of_start discipline h hprelude
  have hkept : session.machine.frames.KeptIn session.cleared.ready.frames := by
    intro id frame hframe
    rw [frames_ready_of_start h]
    exact hframe
  have hready : session.cleared.ready.MadeOf (discipline.allowed session.machine.frames) :=
    madeOf_ready (hmadeOf.withConsole _).madeOf
  apply Moment.sound_start
  · exact hready.mono (discipline.number_mono hkept.grows) (discipline.closure_mono hkept.grows)
  · exact discipline.closure_mono hkept.grows _ hsource

/-- The outermost block of a source has begun at the first moment, if there is room for it. -/
theorem exists_activation_firstMoment (h : 2 ≤ session.limit) (source : List Char) :
    ∃ activation ∈ (session.firstMoment source).activations,
      activation.code = (Program.ofSource true source).root := by
  obtain ⟨room, hroom⟩ := Nat.exists_eq_add_of_le' h
  unfold firstMoment Moment.start
  rw [hroom]
  exact ⟨_, List.mem_cons_self, rfl⟩

/-- The run of an accepted source ends, and the session goes on with the machine of that moment. -/
theorem Accepts.exists_ended (h : session.Accepts source) :
    ∃ result console, Moment.Reaches (session.firstMoment source) (.ended result) ∧
      (session.run (.ofSource source)).2 =
        { session with machine := { final result with console := console } } := by
  have hreaches := Moment.reaches_process (session.cleared.limit - 1) []
    ⟨(Program.ofSource true source).root, session.cleared.frame⟩ [] session.cleared.ready
  unfold run
  rw [h.prepare_eq]
  dsimp only [evaluate]
  generalize process (session.cleared.limit - 1) []
    ⟨(Program.ofSource true source).root, session.cleared.frame⟩ session.cleared.ready = result
    at hreaches ⊢
  cases result with
  | ok frame machine => exact ⟨_, machine.console, hreaches, rfl⟩
  | error exit machine => cases exit <;> exact ⟨_, _, hreaches, rfl⟩

end

end Session

end StackProse
