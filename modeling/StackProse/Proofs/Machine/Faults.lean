import StackProse.Proofs.Machine.Escapes

/-!
# Where faults come from

A run that fails has raised its fault at one moment, and after that only the constructs around that
moment have been added to it (`Moment.exists_raises`). `Moment.Raises` says what such a moment can
be: an item that is done with a fault, a block for which there is no room, a table that
cannot be made, or a run by `Begin` that is left too late.

Most faults are local: their cause is what a word finds on the stack. `Deed.isLocal_or_misses` says
that the only other fault of an item is a name that is not bound, and where that happens: a word that
stands for nothing, or `Set` with a bare name on top of the stack.
-/

namespace StackProse.Machine

/-! ### Local faults -/

/-- To have no faults but those with local causes. -/
def Manner.failLocally : Manner where
  change _ _ := True
  ending exit := ∀ fault, exit = .fault fault → fault.cause.IsLocal

theorem Manner.isOpen_failLocally : Manner.failLocally.IsOpen where
  refl _ := trivial
  trans _ _ _ _ _ := trivial
  stack _ _ := trivial
  heap _ _ := trivial
  frames _ _ := trivial
  print _ _ _ := trivial
  fault fault hlocal := by
    rintro _ ⟨⟩
    exact hlocal
  within fault context hlocal := by
    rintro _ ⟨⟩
    exact hlocal fault rfl

/-- A result that is no fault, or a fault with a local cause. -/
def LocalResult {α : Type} (result : EStateM.Result Exit Machine α) : Prop :=
  ∀ fault after, result = .error (.fault fault) after → fault.cause.IsLocal

theorem KeepsTo.localResult {α : Type} {run : Run α} (h : KeepsTo .failLocally run)
    (machine : Machine) : LocalResult (run machine) := by
  intro fault after hresult
  have hallows := h machine
  rw [hresult] at hallows
  exact hallows.2 fault rfl

theorem localResult_push (value : Value) (machine : Machine) : LocalResult (push value machine) :=
  fun _ _ => nofun

theorem localResult_failPending (scene : Scene) (word : Word) (machine : Machine) :
    LocalResult (failPending scene word machine) := by
  have hfail : KeepsTo .failLocally (fail (.usedBeforeDeclaration word.name) : Run Unit) :=
    .fail Manner.isOpen_failLocally trivial
  have hfailPending : KeepsTo .failLocally (failPending scene word) :=
    .ite (.bind Manner.isOpen_failLocally (.modify fun _ => trivial) fun _ => hfail) hfail
  exact hfailPending.localResult machine

/-! ### Names that are not bound -/

theorem boxNamed_apply (frame : FrameId) (name : String) (machine : Machine) :
    boxNamed frame name machine =
      match machine.frames.lookup frame name with
      | some (.value (.box id)) => .ok id machine
      | some (.value other) => .error (.fault ⟨.mismatch Kind.box.name other.kind, []⟩) machine
      | some (.pending _) => .error (.fault ⟨.usedBeforeDeclaration name, []⟩) machine
      | some _ => .error (.fault ⟨.mismatch Kind.box.name .block, []⟩) machine
      | none => .error (.fault ⟨.unknownSymbol name, []⟩) machine := by
  rw [boxNamed, bind_apply]
  change (match machine.frames.lookup frame name with
    | some (.value (.box id)) => pure id
    | some (.value other) => fail (.mismatch Kind.box.name other.kind)
    | some (.pending _) => fail (.usedBeforeDeclaration name)
    | some _ => fail (.mismatch Kind.box.name .block)
    | none => fail (.unknownSymbol name) : Run BoxId) machine = _
  cases machine.frames.lookup frame name with
  | none => rfl
  | some binding =>
      cases binding with
      | value held => cases held <;> rfl
      | pending | function | escape | matcher => rfl

/-- A bare name that `Set` takes from the stack is the only one that it can find unbound. -/
theorem popBox_isLocal_or {frame : FrameId} {machine after : Machine} {fault : Fault}
    (h : popBox frame machine = .error (.fault fault) after) :
    fault.cause.IsLocal ∨ ∃ name below, machine.stack = .identifier name :: below ∧
      machine.frames.lookup frame name = none ∧ fault = ⟨.unknownSymbol name, []⟩ := by
  obtain ⟨stack, heap, frames, begins, console, engine⟩ := machine
  rw [popBox, bind_apply] at h
  cases stack with
  | nil =>
      cases h
      exact Or.inl trivial
  | cons value below =>
      cases value with
      | identifier name =>
          change boxNamed frame name ⟨below, heap, frames, begins, console, engine⟩ = _ at h
          rw [boxNamed_apply] at h
          split at h
          · cases h
          · cases h
            exact Or.inl trivial
          · cases h
            exact Or.inl trivial
          · cases h
            exact Or.inl trivial
          · rename_i hlookup
            cases h
            exact Or.inr ⟨name, below, rfl, hlookup, rfl⟩
      | box id => cases h
      | _ =>
          cases h
          exact Or.inl trivial

/-- `Set` fails for a local cause, or because of a bare name on top of the stack that is not bound. -/
theorem assign_isLocal_or {frame : FrameId} {machine after : Machine} {fault : Fault}
    (h : within (.word Keyword.assign.name) (runPlain frame .assign) machine =
      .error (.fault fault) after) :
    fault.cause.IsLocal ∨ ∃ name below, machine.stack = .identifier name :: below ∧
      machine.frames.lookup frame name = none ∧
        fault = ⟨.unknownSymbol name, [.word Keyword.assign.name]⟩ := by
  rw [within, runPlain, bind_apply] at h
  cases hbox : popBox frame machine with
  | ok id middle =>
      rw [hbox] at h
      have hrest : KeepsTo .failLocally (do
          let value ← pop "value to set"
          modify fun machine => { machine with heap := machine.heap.set id value }) :=
        .bind Manner.isOpen_failLocally (.pop Manner.isOpen_failLocally _) fun value =>
          .modify fun _ => trivial
      exact Or.inl ((hrest.within Manner.isOpen_failLocally _).localResult middle fault after h)
  | error exit middle =>
      rw [hbox] at h
      cases exit with
      | stop | escape => cases h
      | fault inner =>
          cases h
          rcases popBox_isLocal_or hbox with hlocal | ⟨name, below, hstack, hlookup, rfl⟩
          · exact Or.inl hlocal
          · exact Or.inr ⟨name, below, hstack, hlookup, rfl⟩

/-- `Set` with a bare name on top of the stack that is not bound. -/
theorem assign_unbound {frame : FrameId} {machine : Machine} {name : String} {below : List Value}
    (hstack : machine.stack = .identifier name :: below)
    (hlookup : machine.frames.lookup frame name = none) :
    within (.word Keyword.assign.name) (runPlain frame .assign) machine =
      .error (.fault ⟨.unknownSymbol name, [.word Keyword.assign.name]⟩)
        { machine with stack := below } := by
  obtain ⟨stack, heap, frames, begins, console, engine⟩ := machine
  subst hstack
  have hbox : popBox frame ⟨.identifier name :: below, heap, frames, begins, console, engine⟩ =
      .error (.fault ⟨.unknownSymbol name, []⟩) ⟨below, heap, frames, begins, console, engine⟩ := by
    rw [popBox, bind_apply]
    change boxNamed frame name ⟨below, heap, frames, begins, console, engine⟩ = _
    rw [boxNamed_apply, hlookup]
  rw [within, runPlain, bind_apply, hbox]
  rfl

/-- A word fails because a name is not bound: it is no word of the language and stands for nothing
itself, or it is `Set` and finds the bare name on the stack. -/
inductive Misses (scene : Scene) (machine : Machine) (word : Word) : Fault → Prop
  | word : machine.frames.lookup scene.frame word.name = none → isVocabulary word.name = false →
      Misses scene machine word ⟨.unknownSymbol word.name, []⟩
  | assign {name : String} {below : List Value} : word.name = Keyword.assign.name →
      (∀ binding ∈ machine.frames.lookup scene.frame word.name, ∃ held, binding = .value held) →
      machine.stack = .identifier name :: below →
      machine.frames.lookup scene.frame name = none →
      Misses scene machine word ⟨.unknownSymbol name, [.word Keyword.assign.name]⟩

/-! ### What an item can do -/

namespace Deed

variable {scene : Scene} {machine : Machine} {rest : List Item} {word : Word} {fault : Fault}

/-- A deed that is not done with a fault, or with one that has a local cause. -/
def IsLocal : Deed → Prop
  | done result => LocalResult result
  | enter _ _ _ _ => True

theorem isLocal_andThen {α : Type} {next : α → Machine → Deed}
    {result : EStateM.Result Exit Machine α} (hresult : LocalResult result)
    (hnext : ∀ value after, (next value after).IsLocal) : (andThen next result).IsLocal := by
  cases result with
  | ok value after => exact hnext value after
  | error exit after =>
      rintro fault _ ⟨⟩
      exact hresult fault after rfl

theorem isLocal_ofKeyword {keyword : Keyword} (h : keyword ≠ .assign) :
    (ofKeyword scene keyword machine).IsLocal := by
  have hblock (name : String) := (Manner.isOpen_failLocally.popBlockFor name).localResult machine
  have hplain := ((Manner.isOpen_failLocally.runPlain scene.frame keyword fun hassign =>
    absurd hassign h).within Manner.isOpen_failLocally (.word keyword.name)).localResult machine
  cases keyword with
  | begin => exact isLocal_andThen (hblock _) fun _ _ => trivial
  | list | table => exact isLocal_andThen (hblock _) fun _ _ => trivial
  | stop => exact nofun
  | error => exact Manner.isOpen_failLocally.raise.localResult machine
  | _ => exact hplain

/-- A word that calls no function has only local faults, or it is one that misses a name. -/
theorem isLocal_or_misses_ofVocabulary {bound : Option Value}
    (hlookup : machine.frames.lookup scene.frame word.name = bound.map .value) :
    (ofVocabulary scene word.name bound machine).IsLocal ∨
      ∃ fault after, Misses scene machine word fault ∧
        ofVocabulary scene word.name bound machine = done (.error (.fault fault) after) := by
  unfold ofVocabulary
  cases hkeyword : Keyword.ofName? word.name with
  | some keyword =>
      by_cases hassign : keyword = .assign
      · subst hassign
        have hname : word.name = Keyword.assign.name := (Keyword.name_of_ofName? hkeyword).symm
        by_cases hlocal : (ofKeyword scene .assign machine).IsLocal
        · exact Or.inl hlocal
        · right
          simp only [ofKeyword, IsLocal, LocalResult, not_forall] at hlocal ⊢
          obtain ⟨fault, after, hfault, hcause⟩ := hlocal
          obtain hlocal | ⟨name, below, hstack, hunbound, rfl⟩ := assign_isLocal_or hfault
          · exact absurd hlocal hcause
          · refine ⟨_, after, .assign hname ?_ hstack hunbound, by rw [hfault]⟩
            intro binding hbinding
            rw [hlookup] at hbinding
            obtain ⟨held, _, rfl⟩ := Option.map_eq_some_iff.1 hbinding
            exact ⟨held, rfl⟩
      · exact Or.inl (isLocal_ofKeyword hassign)
  | none =>
      cases hbuiltin : Builtin.ofName? word.name with
      | some builtin =>
          exact Or.inl ((Manner.isOpen_failLocally.runBuiltin builtin).localResult machine)
      | none =>
          cases bound with
          | some value => exact Or.inl (localResult_push value machine)
          | none =>
              have hunknown : isVocabulary word.name = false := by
                rw [isVocabulary, hkeyword, hbuiltin]
                rfl
              exact Or.inr ⟨_, machine, .word hlookup hunknown, rfl⟩

/-- An item has only local faults, or it is a word that misses a name. -/
theorem isLocal_or_misses (scene : Scene) (rest : List Item) (item : Item) (machine : Machine) :
    (ofItem scene rest item machine).IsLocal ∨
      ∃ word fault after, item = .word word ∧ takesNameBefore rest = false ∧
        Misses scene machine word fault ∧
          ofItem scene rest item machine = done (.error (.fault fault) after) := by
  cases item with
  | literal written => exact Or.inl (localResult_push _ machine)
  | block code => exact Or.inl (localResult_push _ machine)
  | word word =>
      rw [ofItem]
      by_cases htakes : takesNameBefore rest
      · rw [if_pos htakes]
        exact Or.inl (localResult_push _ machine)
      · rw [if_neg htakes]
        have hvocabulary (bound : Option Value)
            (hlookup : machine.frames.lookup scene.frame word.name = bound.map .value) :
            (ofVocabulary scene word.name bound machine).IsLocal ∨
              ∃ other fault after, Item.word word = .word other ∧ takesNameBefore rest = false ∧
                Misses scene machine other fault ∧
                  ofVocabulary scene word.name bound machine =
                    done (.error (.fault fault) after) := by
          apply (isLocal_or_misses_ofVocabulary hlookup).imp_right
          rintro ⟨fault, after, hmisses, hdone⟩
          exact ⟨word, fault, after, rfl, Bool.eq_false_of_not_eq_true htakes, hmisses, hdone⟩
        rw [ofWord]
        cases hlookup : machine.frames.lookup scene.frame word.name with
        | none => exact hvocabulary none hlookup
        | some binding =>
            cases binding with
            | pending declaration => exact Or.inl (localResult_failPending scene word machine)
            | function closure => exact Or.inl trivial
            | value held => exact hvocabulary (some held) hlookup
            | escape id => exact Or.inl (by simp [IsLocal, LocalResult])
            | matcher pattern captures =>
                exact Or.inl (((Manner.isOpen_failLocally.applyMatcher pattern captures).within
                  Manner.isOpen_failLocally _).localResult machine)

/-- A word that misses a name fails. -/
theorem ofItem_of_misses (htakes : takesNameBefore rest = false)
    (h : Misses scene machine word fault) :
    ∃ after, ofItem scene rest (.word word) machine = done (.error (.fault fault) after) := by
  rw [ofItem, htakes]
  simp only [Bool.false_eq_true, if_false, ofWord]
  cases h with
  | word hlookup hunknown =>
      rw [isVocabulary, Bool.or_eq_false_iff, Option.isSome_eq_false_iff, Option.isNone_iff_eq_none,
        Option.isSome_eq_false_iff, Option.isNone_iff_eq_none] at hunknown
      refine ⟨machine, ?_⟩
      simp only [hlookup, ofVocabulary, hunknown.1, hunknown.2]
      rfl
  | @assign name below hname hplain hstack hunbound =>
      have hkeyword : Keyword.ofName? word.name = some .assign := by
        rw [hname]
        rfl
      have hvocabulary (bound : Option Value) :
          ofVocabulary scene word.name bound machine =
            done (.error (.fault ⟨.unknownSymbol name, [.word Keyword.assign.name]⟩)
              { machine with stack := below }) := by
        simp only [ofVocabulary, hkeyword, ofKeyword, assign_unbound hstack hunbound]
      refine ⟨{ machine with stack := below }, ?_⟩
      cases hlookup : machine.frames.lookup scene.frame word.name with
      | none => exact hvocabulary none
      | some binding =>
          obtain ⟨held, rfl⟩ := hplain binding hlookup
          exact hvocabulary (some held)

end Deed

/-! ### The moment at which a fault is raised -/

/-- An early end that is no fault becomes one only where a run by `Begin` is left too late. -/
theorem Purpose.cause_of_abandon {purpose : Purpose} {active : List BeginId} {exit : Exit}
    {machine now : Machine} {raised : Fault} (hexit : ∀ fault, exit ≠ .fault fault)
    (h : purpose.abandon active exit machine = .error (.fault raised) now) :
    raised.cause = .escapedBegin := by
  cases exit with
  | fault fault => exact absurd rfl (hexit fault)
  | stop => cases purpose <;> cases h
  | escape id =>
      by_cases hpurpose : purpose.begin? = some id
      · obtain rfl := eq_begin_of_begin? hpurpose
        simp [abandon] at h
      · by_cases hid : id ∈ active
        · rw [abandon_of_mem hid hpurpose] at h
          cases h
        · rw [abandon_of_not_mem hid hpurpose] at h
          cases h
          rfl

namespace Moment

variable {first moment later : Moment} {waiting : List (Purpose × Activation)}
  {machine now after : Machine} {fault raised : Fault}

/-- The fault with which blocks are being left. -/
def fault? : Moment → Option Fault
  | leaving (.fault fault) _ _ => some fault
  | ended (.error (.fault fault) _) => some fault
  | _ => none

/-- A fault is raised inside of the blocks `waiting`. -/
inductive Raises (moment : Moment) (raised : Fault) : List (Purpose × Activation) → Prop
  /-- An item is done with a fault. -/
  | item {code : Block} {scene : Scene} {room : Nat} {item : Item} {rest : List Item}
      {waiting : List (Purpose × Activation)} {machine now : Machine} :
      moment = running ⟨code, scene, room, item :: rest⟩ waiting machine →
      Deed.ofItem scene rest item machine = .done (.error (.fault raised) now) →
      Raises moment raised waiting
  /-- There is no room for a block. -/
  | room {code : Block} {scene : Scene} {item : Item} {rest : List Item} {purpose : Purpose}
      {outside : List (Purpose × Activation)} {machine : Machine} :
      moment = running ⟨code, scene, 0, item :: rest⟩ outside machine →
      raised = ⟨.callStackOverflow, []⟩ →
      Raises moment raised ((purpose, ⟨code, scene, 0, rest⟩) :: outside)
  /-- A table cannot be made of what a block has left. -/
  | table {waiting : List (Purpose × Activation)} : raised.cause.IsLocal →
      Raises moment raised waiting
  /-- A run by `Begin` is left that is not under way. -/
  | stale {waiting : List (Purpose × Activation)} : raised.cause = .escapedBegin →
      Raises moment raised waiting

theorem raises_of_next (hfault : moment.fault? = none)
    (hnext : moment.Next (leaving (.fault raised) waiting now)) :
    moment.Raises raised waiting := by
  cases moment with
  | running top outside machine =>
      obtain ⟨code, scene, room, items⟩ := top
      cases items with
      | nil =>
          have hfinish := Option.some.inj hnext
          cases outside with
          | nil => cases hfinish
          | cons entry outside =>
              obtain ⟨rfl, hresume⟩ := settle_eq_leaving hfinish
              exact .table ((Manner.isOpen_failLocally.resume entry.1).localResult machine raised now
                hresume)
      | cons item rest =>
          have hafter := Option.some.inj hnext
          cases hdeed : Deed.ofItem scene rest item machine with
          | done result =>
              rw [hdeed, after] at hafter
              obtain ⟨rfl, rfl⟩ := settle_eq_leaving hafter
              exact .item rfl hdeed
          | enter purpose active closure entered =>
              rw [hdeed, after] at hafter
              cases room with
              | zero =>
                  cases hafter
                  exact .room rfl rfl
              | succ room => cases hafter
  | leaving exit outside machine =>
      have hfinish := Option.some.inj hnext
      cases outside with
      | nil => cases hfinish
      | cons entry outside =>
          obtain ⟨rfl, habandon⟩ := settle_eq_leaving hfinish
          refine .stale (Purpose.cause_of_abandon ?_ habandon)
          rintro fault rfl
          cases hfault
  | ended result => exact absurd hnext not_next_ended

/-- The last block ends as the whole run does. -/
theorem fault?_of_next_ended {result : EStateM.Result Exit Machine FrameId}
    (h : moment.Next (ended result)) : moment.fault? = (ended result).fault? := by
  rcases h.ended_cases with ⟨_, _, _, _, rfl, rfl⟩ | ⟨exit, _, rfl, rfl⟩
  · rfl
  · cases exit <;> rfl

/-- Where blocks are being left with a fault, it has been raised before. -/
theorem exists_next_leaving (hfirst : first.fault? = none) (hreaches : Reaches first moment)
    (hfault : moment.fault? = some fault) :
    ∃ origin raised waiting now, Reaches first origin ∧ origin.fault? = none ∧
      origin.Next (leaving (.fault raised) waiting now) ∧
      Reaches (leaving (.fault raised) waiting now) moment := by
  induction hreaches generalizing fault with
  | refl =>
      rw [hfirst] at hfault
      contradiction
  | @tail origin later hreaches hnext ih =>
      cases horigin : origin.fault? with
      | some before =>
          obtain ⟨earlier, raised, waiting, now, hearlier, hnone, hraised, hleads⟩ := ih horigin
          exact ⟨earlier, raised, waiting, now, hearlier, hnone, hraised, hleads.tail hnext⟩
      | none =>
          cases later with
          | running => contradiction
          | leaving exit waiting now =>
              cases exit with
              | stop | escape => contradiction
              | fault raised =>
                  exact ⟨origin, raised, waiting, now, hreaches, horigin, hnext, .refl⟩
          | ended result =>
              rw [← fault?_of_next_ended hnext, horigin] at hfault
              contradiction

/-- The fault of a run has been raised at one of its moments, and only what blocks wait for there
has been added to it. -/
theorem exists_raises (hfirst : first.fault? = none)
    (h : Reaches first (ended (.error (.fault fault) after))) :
    ∃ origin raised waiting now, Reaches first origin ∧ origin.Raises raised waiting ∧
      origin.Next (leaving (.fault raised) waiting now) ∧
      fault = { raised with trail := trail waiting ++ raised.trail } := by
  obtain ⟨origin, raised, waiting, now, horigin, hnone, hnext, hleads⟩ :=
    exists_next_leaving hfirst h rfl
  refine ⟨origin, raised, waiting, now, horigin, raises_of_next hnone hnext, hnext, ?_⟩
  cases ended_unique (unwinds_fault raised waiting now).reaches hleads
  rfl

/-- An evaluation fails with a fault if the run ends with it. The one exception is a run by `Begin` that
is left too late, which fails without being a fault of the run. -/
theorem evaluate_failed_iff {limit : Nat} {active : List BeginId} {closure : Closure}
    (hcause : fault.cause ≠ .escapedBegin) :
    evaluate limit active closure machine = (.failed fault, after) ↔
      Reaches (start limit active closure machine) (ended (.error (.fault fault) after)) := by
  rw [reaches_ended_iff, evaluate]
  cases process (limit - 1) active closure machine with
  | ok frame now => exact iff_of_false (by simp) (by simp)
  | error exit now =>
      cases exit with
      | fault raised => simp [endingOf]
      | stop => exact iff_of_false (by simp [endingOf]) (by simp)
      | escape id =>
          refine iff_of_false ?_ (by simp)
          rintro ⟨⟩
          exact hcause rfl

end Moment

end StackProse.Machine
