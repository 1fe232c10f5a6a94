import StackProse.Proofs.Machine.Alike
import StackProse.Proofs.Machine.Escapes

/-!
# Two runs side by side

A block is run on two machines that are alike. Both runs go through moments that are alike
(`Moment.Alike.reaches`), up to one that looks at what only the second machine has: by finding the
stack of the first one empty, or by a word that looks at the whole stack.

Where a block runs on a stack of its own, for a list or a table, what lies below on the second
machine is out of its reach, and there the two runs cannot differ at all.
-/

namespace StackProse.Machine

open Moment

variable {like : Likeness} {below : List Value} {machine other : Machine}

/-! ### What blocks are run for -/

/-- The place where items run, with other numbers. -/
def Scene.rename (like : Likeness) (scene : Scene) : Scene :=
  ⟨like.frame scene.frame, scene.userCode, scene.active.map like.begin⟩

/-- The block that is running, with other numbers. -/
def Activation.rename (like : Likeness) (activation : Activation) : Activation :=
  ⟨activation.code, activation.scene.rename like, activation.room, activation.rest⟩

namespace Purpose

/-- What a block is run for on the second machine, where `below` lies below on the stack outside. -/
def rename (like : Likeness) (below : List Value) : Purpose → Purpose
  | call name => call name
  | list stack => list (stack.map (·.rename like.toRenaming) ++ below)
  | table stack => table (stack.map (·.rename like.toRenaming) ++ below)
  | begin id => begin (like.begin id)

/-- What lies below on the stack of a block. -/
def inside (below : List Value) : Purpose → List Value
  | call _ | begin _ => below
  | list _ | table _ => []

theorem name_rename (purpose : Purpose) : (purpose.rename like below).name = purpose.name := by
  cases purpose <;> rfl

theorem begin?_rename (purpose : Purpose) :
    (purpose.rename like below).begin? = purpose.begin?.map like.begin := by
  cases purpose <;> rfl

theorem abandon_stop (purpose : Purpose) (active : List BeginId) (machine : Machine) :
    purpose.abandon active .stop machine = .error .stop (purpose.restore machine) := by
  cases purpose <;> rfl

theorem restore_rename {purpose : Purpose} (h : Alike like (purpose.inside below) machine other) :
    Alike like below (purpose.restore machine) ((purpose.rename like below).restore other) := by
  cases purpose with
  | call | begin => exact h
  | list stack | table stack => exact h.withStack stack below

/-- Blocks that come to their ends on both machines. -/
theorem resume_rename {purpose : Purpose} (h : Alike like (purpose.inside below) machine other) :
    Agrees like below Eq (purpose.resume machine) ((purpose.rename like below).resume other) := by
  cases purpose with
  | call | begin => exact .ok rfl h
  | list stack =>
      have hlist : Value.list other.stack = (Value.list machine.stack).rename like.toRenaming := by
        rw [h.stack, inside, List.append_nil, Value.rename_list]
      rw [rename, resume, resume]
      beta_reduce
      rw [hlist]
      exact .ok rfl (h.withStack (.list machine.stack :: stack) below)
  | table stack =>
      rw [rename, resume, resume]
      beta_reduce
      rw [h.stack, inside, List.append_nil]
      exact parallel_makeTable machine.stack _ _ (h.withStack stack below)

/-- Blocks that end early on both machines. -/
theorem abandon_rename {purpose : Purpose} (h : Alike like (purpose.inside below) machine other)
    (active : List BeginId) (exit : Exit) :
    Agrees like below Eq (purpose.abandon active exit machine)
      ((purpose.rename like below).abandon (active.map like.begin) (exit.rename like) other) := by
  have hrestore := restore_rename h
  have hinjective := like.strictMono_begin.injective
  cases exit with
  | fault fault =>
      rw [Exit.rename, abandon_fault, abandon_fault, name_rename]
      exact .error (.fault (fault.within (.word purpose.name))) hrestore
  | stop =>
      rw [Exit.rename, abandon_stop, abandon_stop]
      exact .error .stop hrestore
  | escape id =>
      rw [Exit.rename]
      by_cases hpurpose : purpose.begin? = some id
      · obtain rfl := eq_begin_of_begin? hpurpose
        simp only [rename, abandon, if_true]
        exact .ok rfl h
      · have hpurpose' : (purpose.rename like below).begin? ≠ some (like.begin id) := by
          rw [begin?_rename, ← Option.map_some, ne_eq, (Option.map_injective hinjective).eq_iff]
          exact hpurpose
        by_cases hid : id ∈ active
        · rw [abandon_of_mem hid hpurpose, abandon_of_mem (List.mem_map_of_mem hid) hpurpose']
          exact .error (.escape id) hrestore
        · have hid' : like.begin id ∉ active.map like.begin := by
            rwa [List.mem_map_of_injective hinjective]
          rw [abandon_of_not_mem hid hpurpose, abandon_of_not_mem hid' hpurpose', name_rename]
          exact .error (.fault _) hrestore

end Purpose

/-! ### Deeds -/

/-- Two deeds belong together: both are done, with results that belong together, or both run a block.
The first one can also fail because the stack is empty, where there is something below on the second
machine. -/
inductive Deed.Alike (like : Likeness) (below : List Value) : Deed → Deed → Prop
  | done {result result' : EStateM.Result Exit Machine Unit} :
      Agrees like below Eq result result' → Deed.Alike like below (.done result) (.done result')
  | enter {purpose : Purpose} {active : List BeginId} {closure : Closure}
      {machine other : Machine} : Machine.Alike like (purpose.inside below) machine other →
      Deed.Alike like below (.enter purpose active closure machine)
        (.enter (purpose.rename like below) (active.map like.begin)
          (closure.rename like.toRenaming) other)
  | short {machine : Machine} {fault : Fault} {deed : Deed} : below ≠ [] →
      fault.cause.IsShortage → Deed.Alike like below (.done (.error (.fault fault) machine)) deed

/-- Whether a word looks at the whole stack or empties it. -/
def sweeps (scene : Scene) (word : Word) (machine : Machine) : Bool :=
  (match machine.frames.lookup scene.frame word.name with
    | none | some (.value _) => true
    | _ => false) &&
    (Keyword.ofName? word.name).any fun keyword => keyword == .stack || keyword == .clear

namespace Deed

theorem alike_andThen {α β : Type} {alike : α → β → Prop} {next : α → Machine → Deed}
    {next' : β → Machine → Deed} {result : EStateM.Result Exit Machine α}
    {result' : EStateM.Result Exit Machine β} (hresult : Agrees like below alike result result')
    (hnext : ∀ value value' machine other, alike value value' → Machine.Alike like below machine other →
      Deed.Alike like below (next value machine) (next' value' other)) :
    Deed.Alike like below (andThen next result) (andThen next' result') := by
  cases hresult with
  | ok hvalue hmachines => exact hnext _ _ _ _ hvalue hmachines
  | error exit hmachines => exact .done (.error exit hmachines)
  | short hbelow hcause => exact .short hbelow hcause

theorem parallel_popBlockFor (name : String) :
    Parallel like below (fun closure closure' => closure' = closure.rename like.toRenaming)
      (popBlockFor name) (popBlockFor name) :=
  (Parallel.popAs (closure?_rename _) _ _).within _

theorem parallel_freshBegin :
    Parallel like below (fun id id' => id' = like.begin id) freshBegin freshBegin := by
  intro machine other hmachines
  refine .ok (hmachines.begins 1).symm ?_
  refine { hmachines with begins := fun count => ?_ }
  have hcount := hmachines.begins (1 + count)
  simpa [Nat.add_assoc] using hcount

theorem alike_ofKeyword (h : Machine.Alike like below machine other) (scene : Scene)
    {keyword : Keyword} (hkeyword : below = [] ∨ (keyword ≠ .stack ∧ keyword ≠ .clear)) :
    Deed.Alike like below (ofKeyword scene keyword machine)
      (ofKeyword (scene.rename like) keyword other) := by
  have hplain := (parallel_runPlain scene.frame hkeyword).within (.word keyword.name) machine other h
  cases keyword with
  | begin =>
      refine alike_andThen (parallel_popBlockFor _ _ _ h) ?_
      rintro closure _ machine other rfl h
      refine alike_andThen (parallel_freshBegin _ _ h) ?_
      rintro id _ machine other rfl h
      refine alike_andThen (parallel_pushBound escapeName (.escape id) _ _ h) ?_
      intro _ _ machine other _ h
      exact .enter h
  | list | table =>
      refine alike_andThen (parallel_popBlockFor _ _ _ h) ?_
      rintro closure _ machine other rfl h
      rw [h.stack]
      exact .enter (h.withStack [] [])
  | stop => exact .done (.error .stop h)
  | error => exact .done (parallel_raise _ _ h)
  | _ => exact .done hplain

theorem alike_ofVocabulary (h : Machine.Alike like below machine other) (scene : Scene)
    {name : String} (hname : below = [] ∨ ∀ keyword ∈ Keyword.ofName? name,
      keyword ≠ .stack ∧ keyword ≠ .clear) (bound : Option Value) :
    Deed.Alike like below (ofVocabulary scene name bound machine)
      (ofVocabulary (scene.rename like) name (bound.map (·.rename like.toRenaming)) other) := by
  unfold ofVocabulary
  cases hkeyword : Keyword.ofName? name with
  | some keyword => exact alike_ofKeyword h scene (hname.imp_right fun hname => hname keyword hkeyword)
  | none =>
      cases hbuiltin : Builtin.ofName? name with
      | some builtin =>
          exact .done (parallel_runBuiltin (Builtin.respects_of_ofName? _ hbuiltin) _ _ h)
      | none =>
          cases bound with
          | some value => exact .done (Parallel.push value _ _ h)
          | none => exact .done (Parallel.fail (.unknownSymbol name) _ _ h)

theorem alike_ofWord (h : Machine.Alike like below machine other) (scene : Scene) {word : Word}
    (hword : below = [] ∨ sweeps scene word machine = false) :
    Deed.Alike like below (ofWord scene word machine) (ofWord (scene.rename like) word other) := by
  have hlookup := h.frames.lookup scene.frame word.name
  have hvocabulary (bound : Option Value)
      (hbound : machine.frames.lookup scene.frame word.name = bound.map .value) :
      below = [] ∨ ∀ keyword ∈ Keyword.ofName? word.name,
        keyword ≠ .stack ∧ keyword ≠ .clear := by
    refine hword.imp_right fun hsweeps keyword hkeyword => ?_
    rw [Option.mem_def] at hkeyword
    rw [sweeps, hbound, hkeyword] at hsweeps
    cases bound <;> simpa using hsweeps
  rw [ofWord, ofWord, Scene.rename, hlookup]
  cases hbinding : machine.frames.lookup scene.frame word.name with
  | none => exact alike_ofVocabulary h scene (hvocabulary none hbinding) none
  | some binding =>
      cases binding with
      | pending declaration =>
          exact .done (parallel_failPending word scene (scene.rename like) rfl _ _ h)
      | function closure => exact .enter h
      | escape id => exact .done (.error (.escape id) h)
      | matcher pattern captures =>
          exact .done ((parallel_applyMatcher pattern captures).within _ _ _ h)
      | value held => exact alike_ofVocabulary h scene (hvocabulary (some held) hbinding) (some held)

/-- An item does the same on both machines, unless it looks at the whole stack. -/
theorem alike_ofItem (h : Machine.Alike like below machine other) (scene : Scene)
    (rest : List Item) {item : Item}
    (hitem : below = [] ∨ ∀ word, item = .word word → takesNameBefore rest = false →
      sweeps scene word machine = false) :
    Deed.Alike like below (ofItem scene rest item machine)
      (ofItem (scene.rename like) rest item other) := by
  cases item with
  | literal written =>
      have hpush := Parallel.push (.ofLiteral written) _ _ h
      rw [Value.rename_ofLiteral] at hpush
      exact .done hpush
  | block code => exact .done (Parallel.push (.block code (some scene.frame)) _ _ h)
  | word word =>
      rw [ofItem, ofItem]
      by_cases htakes : takesNameBefore rest
      · rw [if_pos htakes, if_pos htakes]
        exact .done (Parallel.push (.identifier word.name) _ _ h)
      · rw [if_neg htakes, if_neg htakes]
        apply alike_ofWord h
        exact hitem.imp_right fun hitem => hitem word rfl (Bool.eq_false_of_not_eq_true htakes)

end Deed

/-! ### Moments -/

/-- What lies below on the innermost stack, where blocks wait for it. -/
def insideOf (below : List Value) : List (Purpose × Activation) → List Value
  | [] => below
  | (purpose, _) :: outside => purpose.inside (insideOf below outside)

/-- The blocks that wait on the second machine. -/
def renameWaiting (like : Likeness) (below : List Value) :
    List (Purpose × Activation) → List (Purpose × Activation)
  | [] => []
  | (purpose, outer) :: outside =>
      (purpose.rename like (insideOf below outside), outer.rename like) ::
        renameWaiting like below outside

theorem insideOf_nil (waiting : List (Purpose × Activation)) : insideOf [] waiting = [] := by
  induction waiting with
  | nil => rfl
  | cons entry outside ih =>
      obtain ⟨purpose, outer⟩ := entry
      rw [insideOf, ih]
      cases purpose <;> rfl

/-- Only the stack that the outermost block shares with all the others has something below. -/
theorem aside?_eq_none_of_insideOf {waiting : List (Purpose × Activation)}
    (h : insideOf below waiting ≠ []) : ∀ entry ∈ waiting, entry.1.aside? = none := by
  induction waiting with
  | nil => exact List.forall_mem_nil _
  | cons entry outside ih =>
      obtain ⟨purpose, outer⟩ := entry
      rw [insideOf] at h
      cases purpose with
      | call | begin => exact List.forall_mem_cons.2 ⟨rfl, ih h⟩
      | list | table => exact absurd rfl h

namespace Moment

/-- Two moments belong together: the same block has come equally far, the same blocks wait, and the
machines are alike. -/
inductive Alike (like : Likeness) (below : List Value) : Moment → Moment → Prop
  | running {top : Activation} {waiting : List (Purpose × Activation)} {machine other : Machine} :
      Machine.Alike like (insideOf below waiting) machine other →
      Alike like below (running top waiting machine)
        (running (top.rename like) (renameWaiting like below waiting) other)
  | leaving {exit : Exit} {waiting : List (Purpose × Activation)} {machine other : Machine} :
      Machine.Alike like (insideOf below waiting) machine other →
      Alike like below (leaving exit waiting machine)
        (leaving (exit.rename like) (renameWaiting like below waiting) other)
  | finished {frame : FrameId} {machine other : Machine} : Machine.Alike like below machine other →
      Alike like below (ended (.ok frame machine)) (ended (.ok (like.frame frame) other))
  | broken {exit : Exit} {machine other : Machine} : Machine.Alike like below machine other →
      Alike like below (ended (.error exit machine)) (ended (.error (exit.rename like) other))

/-- Blocks are being left because the stack is empty, where the second machine has `below`. -/
def Starved (below : List Value) : Moment → Prop
  | leaving (.fault fault) _ _ => below ≠ [] ∧ fault.cause.IsShortage
  | _ => False

/-- The running block is about to look at the whole stack or to empty it. -/
def sweeps : Moment → Bool
  | running ⟨_, scene, _, .word word :: rest⟩ _ machine =>
      !takesNameBefore rest && Machine.sweeps scene word machine
  | _ => false

variable {waiting : List (Purpose × Activation)} {first second later : Moment}

theorem alike_settle {result result' : EStateM.Result Exit Machine Unit} (top : Activation)
    (h : Agrees like (insideOf below waiting) Eq result result') :
    Alike like below (settle top waiting result)
        (settle (top.rename like) (renameWaiting like below waiting) result') ∨
      (settle top waiting result).Starved below := by
  cases h with
  | ok _ hmachines => exact Or.inl (.running hmachines)
  | error exit hmachines => exact Or.inl (.leaving hmachines)
  | short hbelow hcause =>
      refine Or.inr ⟨?_, hcause⟩
      rintro rfl
      exact hbelow (insideOf_nil waiting)

theorem alike_enter (h : Machine.Alike like (insideOf below waiting) machine other) (room : Nat)
    (active : List BeginId) (closure : Closure) :
    Alike like below (enter room active closure waiting machine)
      (enter room (active.map like.begin) (closure.rename like.toRenaming)
        (renameWaiting like below waiting) other) := by
  cases room with
  | zero => exact .leaving h
  | succ room =>
      have hframe := h.addFrame (.ofBlock closure.code closure.frame)
      have hsize : other.frames.all.size = like.frame machine.frames.all.size :=
        (h.frames.next 0).symm
      rw [Frame.rename_ofBlock] at hframe
      rw [enter, enter, hsize]
      exact .running hframe

theorem alike_finish {frame : FrameId}
    (h : Machine.Alike like (insideOf below waiting) machine other) :
    Alike like below (finish waiting (.ok frame machine))
        (finish (renameWaiting like below waiting) (.ok (like.frame frame) other)) ∨
      (finish waiting (.ok frame machine)).Starved below := by
  cases waiting with
  | nil => exact Or.inl (.finished h)
  | cons entry outside => exact alike_settle entry.2 (Purpose.resume_rename h)

theorem alike_finish_error (h : Machine.Alike like (insideOf below waiting) machine other)
    (exit : Exit) :
    Alike like below (finish waiting (.error exit machine))
        (finish (renameWaiting like below waiting) (.error (exit.rename like) other)) ∨
      (finish waiting (.error exit machine)).Starved below := by
  cases waiting with
  | nil => exact Or.inl (.broken h)
  | cons entry outside =>
      exact alike_settle entry.2 (Purpose.abandon_rename h entry.2.scene.active exit)

theorem alike_after {deed deed' : Deed} (top : Activation)
    (h : Deed.Alike like (insideOf below waiting) deed deed') :
    Alike like below (after top waiting deed)
        (after (top.rename like) (renameWaiting like below waiting) deed') ∨
      (after top waiting deed).Starved below := by
  cases h with
  | done hresult => exact alike_settle top hresult
  | @enter purpose active closure machine other hmachines =>
      have hinside : Machine.Alike like (insideOf below ((purpose, top) :: waiting)) machine other :=
        hmachines
      exact Or.inl (alike_enter hinside top.room active closure)
  | short hbelow hcause =>
      refine Or.inr ⟨?_, hcause⟩
      rintro rfl
      exact hbelow (insideOf_nil waiting)

/-- Two runs go on side by side, unless the first one fails for an empty stack. -/
theorem Alike.next (h : Alike like below first second) (hnext : first.Next later)
    (hsweeps : insideOf below first.waiting ≠ [] → first.sweeps = false) :
    (∃ later', second.Next later' ∧ Alike like below later later') ∨ later.Starved below := by
  cases h with
  | @running top waiting machine other hmachines =>
      obtain ⟨code, scene, room, items⟩ := top
      cases items with
      | nil =>
          obtain rfl := Option.some.inj hnext
          exact (alike_finish hmachines).imp_left fun halike => ⟨_, rfl, halike⟩
      | cons item rest =>
          obtain rfl := Option.some.inj hnext
          have hitem : insideOf below waiting = [] ∨ ∀ word, item = .word word →
              takesNameBefore rest = false → Machine.sweeps scene word machine = false := by
            refine or_iff_not_imp_left.2 ?_
            rintro hbelow word rfl htakes
            simpa [sweeps, htakes] using hsweeps hbelow
          have hdeed := Deed.alike_ofItem hmachines scene rest hitem
          exact (alike_after ⟨code, scene, room, rest⟩ hdeed).imp_left
            fun halike => ⟨_, rfl, halike⟩
  | leaving hmachines =>
      obtain rfl := Option.some.inj hnext
      exact (alike_finish_error hmachines _).imp_left fun halike => ⟨_, rfl, halike⟩
  | finished | broken => exact absurd hnext not_next_ended

/-- Two runs stay side by side, as long as the first one neither fails for an empty stack nor looks
at a stack that has something below on the second machine. -/
theorem Alike.reaches (h : Alike like below first second)
    (hsweeps : ∀ middle, Reaches first middle → insideOf below middle.waiting ≠ [] →
      middle.sweeps = false)
    (hstarved : ∀ middle, Reaches first middle → ¬ middle.Starved below)
    (hreaches : Reaches first later) :
    ∃ later', Reaches second later' ∧ Alike like below later later' := by
  induction hreaches with
  | refl => exact ⟨second, .refl, h⟩
  | @tail middle later hmiddle hnext ih =>
      obtain ⟨middle', hmiddle', halike⟩ := ih
      have hlater : Reaches first later := .tail hmiddle hnext
      obtain ⟨later', hnext', halike'⟩ :=
        (halike.next hnext (hsweeps middle hmiddle)).resolve_right (hstarved later hlater)
      exact ⟨later', hmiddle'.tail hnext', halike'⟩

/-- A run that fails for an empty stack ends with that fault. -/
theorem Starved.exists_ended {moment : Moment} (h : moment.Starved below) :
    below ≠ [] ∧ ∃ fault after, fault.cause.IsShortage ∧
      Reaches moment (ended (.error (.fault fault) after)) := by
  cases moment with
  | running | ended => exact h.elim
  | leaving exit waiting machine =>
      cases exit with
      | stop | escape => exact h.elim
      | fault fault =>
          exact ⟨h.1, { fault with trail := trail waiting ++ fault.trail }, _, h.2,
            (unwinds_fault fault waiting machine).reaches⟩

/-- Where nothing lies below, two runs stay side by side. -/
theorem Alike.reaches_nil (h : Alike like [] first second) (hreaches : Reaches first later) :
    ∃ later', Reaches second later' ∧ Alike like [] later later' := by
  apply h.reaches _ _ hreaches
  · intro middle _ hbelow
    exact absurd (insideOf_nil middle.waiting) hbelow
  · intro middle _ hstarved
    exact hstarved.exists_ended.1 rfl

/-- Of two moments that belong together, the first one has a successor if the second one has. -/
theorem Alike.exists_next (h : Alike like below first second) (hnext : second.Next later) :
    ∃ step, first.Next step := by
  cases h with
  | @running top waiting machine other _ =>
      obtain ⟨code, scene, room, items⟩ := top
      cases items <;> exact ⟨_, rfl⟩
  | leaving _ => exact ⟨_, rfl⟩
  | finished | broken => exact absurd hnext not_next_ended

/-- Where nothing lies below, the first run is never behind the second. -/
theorem Alike.reached_nil (h : Alike like [] first second) (hreaches : Reaches second later) :
    ∃ earlier, Reaches first earlier ∧ Alike like [] earlier later := by
  induction hreaches with
  | refl => exact ⟨first, .refl, h⟩
  | @tail middle later _ hnext ih =>
      obtain ⟨earlier, hearlier, halike⟩ := ih
      obtain ⟨step, hstep⟩ := halike.exists_next hnext
      have hbeside := halike.next hstep fun hbelow => absurd (insideOf_nil _) hbelow
      obtain ⟨later', hnext', halike'⟩ :=
        hbeside.resolve_right fun hstarved => hstarved.exists_ended.1 rfl
      obtain rfl := Option.some.inj (hnext'.symm.trans hnext)
      exact ⟨step, hearlier.tail hstep, halike'⟩

end Moment

/-! ### Whole runs -/

/-- The results of a block on two machines that are alike belong together, if on the first one the
block neither runs out of the stack nor looks at all of it. -/
theorem agrees_process {room : Nat} {active : List BeginId} {closure : Closure}
    (h : Alike like below machine other)
    (hsweeps : ∀ middle, Reaches (enter room active closure [] machine) middle →
      insideOf below middle.waiting ≠ [] → middle.sweeps = false)
    (hshort : below ≠ [] → ∀ fault after,
      process room active closure machine = .error (.fault fault) after →
        ¬ fault.cause.IsShortage) :
    Agrees like below (fun frame frame' => frame' = like.frame frame)
      (process room active closure machine)
      (process room (active.map like.begin) (closure.rename like.toRenaming) other) := by
  have hended := reaches_process room active closure [] machine
  have hended' := reaches_process room (active.map like.begin) (closure.rename like.toRenaming) []
    other
  have hstarved : ∀ middle, Reaches (enter room active closure [] machine) middle →
      ¬ middle.Starved below := by
    intro middle hmiddle hstarved
    obtain ⟨hbelow, fault, after, hcause, hfault⟩ := hstarved.exists_ended
    exact hshort hbelow fault after (ended_unique (hmiddle.trans hfault) hended) hcause
  have houtermost : Alike like (insideOf below []) machine other := h
  have hstart := alike_enter houtermost room active closure
  obtain ⟨later, hlater, halike⟩ := hstart.reaches hsweeps hstarved hended
  generalize process room active closure machine = result at halike ⊢
  cases halike with
  | finished hmachines =>
      rw [ended_unique hlater hended']
      exact .ok rfl hmachines
  | broken hmachines =>
      rw [ended_unique hlater hended']
      exact .error _ hmachines

/-- Where nothing lies below, nothing is asked of the block. -/
theorem agrees_process_nil (h : Alike like [] machine other) (room : Nat) (active : List BeginId)
    (closure : Closure) :
    Agrees like [] (fun frame frame' => frame' = like.frame frame)
      (process room active closure machine)
      (process room (active.map like.begin) (closure.rename like.toRenaming) other) :=
  agrees_process h (fun middle _ hbelow => absurd (insideOf_nil middle.waiting) hbelow) (absurd rfl)

end StackProse.Machine
