import Mathlib.Data.Multiset.DershowitzManna
import Mathlib.Data.Prod.Lex
import StackProse.Program.Assembly
import StackProse.Proofs.Machine.Faults

/-!
# The limit on blocks inside each other

Blocks are values, and nothing about them gets smaller when they run each other. What ends every run
is the limit on how many blocks may run inside each other, and that the items of a block get fewer.
`Moment.weight` puts these two numbers of all the blocks under way together, and every step makes it
smaller.

The limit can be kept with a counter that goes up where a block begins and down where it has ended.
`Counts` says how that counter goes along a run. `counts_iff` says that it comes back to where it
was, whichever way a block ends, and that the outcome is the one that `process` gives.
-/

namespace StackProse.Machine

open Moment Multiset

/-! ### Every run ends -/

/-- The room inside of a block, and then how many items it still has to run. -/
def Activation.weight (activation : Activation) : ℕ ×ₗ ℕ :=
  toLex (activation.room, activation.rest.length + 1)

/-- The weights of the blocks that wait. -/
def weights (waiting : List (Purpose × Activation)) : Multiset (ℕ ×ₗ ℕ) :=
  waiting.map (·.2.weight)

/-- Something that is lighter than every block. -/
def idle : ℕ ×ₗ ℕ :=
  toLex (0, 0)

/-- The weights of the blocks under way. Going back to a block that waits takes a step as well. -/
def Moment.weight : Moment → Multiset (ℕ ×ₗ ℕ)
  | running top waiting _ => {top.weight} + weights waiting
  | leaving _ waiting _ => {idle} + weights waiting
  | ended _ => 0

theorem weights_cons (purpose : Purpose) (outer : Activation)
    (waiting : List (Purpose × Activation)) :
    weights ((purpose, outer) :: waiting) = {outer.weight} + weights waiting :=
  rfl

theorem idle_lt (activation : Activation) : idle < activation.weight := by
  refine Prod.Lex.toLex_lt_toLex.2 ?_
  rcases Nat.eq_zero_or_pos activation.room with hroom | hroom
  · exact Or.inr ⟨hroom.symm, Nat.succ_pos _⟩
  · exact Or.inl hroom

/-- Lighter weights in the place of one weight. -/
theorem isDershowitzMannaLT_replace {lighter others : Multiset (ℕ ×ₗ ℕ)} {weight : ℕ ×ₗ ℕ}
    (h : ∀ each ∈ lighter, each < weight) :
    IsDershowitzMannaLT (lighter + others) ({weight} + others) := by
  refine ⟨others, lighter, {weight}, singleton_ne_zero _, add_comm _ _, add_comm _ _, ?_⟩
  intro each heach
  exact ⟨weight, mem_singleton_self weight, h each heach⟩

/-- A block that goes on is as heavy as it was when it began to wait. -/
theorem weight_finish_lt (weight : ℕ ×ₗ ℕ) (waiting : List (Purpose × Activation))
    (result : EStateM.Result Exit Machine FrameId) :
    IsDershowitzMannaLT (finish waiting result).weight ({weight} + weights waiting) := by
  cases waiting with
  | nil =>
      show IsDershowitzMannaLT (0 + weights []) ({weight} + weights [])
      exact isDershowitzMannaLT_replace nofun
  | cons entry waiting =>
      obtain ⟨purpose, outer⟩ := entry
      have hrunning : IsDershowitzMannaLT ({outer.weight} + weights waiting)
          ({weight} + weights ((purpose, outer) :: waiting)) := by
        rw [← zero_add ({outer.weight} + weights waiting), weights_cons]
        exact isDershowitzMannaLT_replace nofun
      have hleaving : IsDershowitzMannaLT ({idle} + weights waiting)
          ({outer.weight} + weights waiting) :=
        isDershowitzMannaLT_replace (by simpa using idle_lt outer)
      have hsettle (settled : EStateM.Result Exit Machine Unit) :
          IsDershowitzMannaLT (settle outer waiting settled).weight
            ({weight} + weights ((purpose, outer) :: waiting)) := by
        cases settled with
        | ok _ after => exact hrunning
        | error exit after => exact hleaving.trans hrunning
      cases result with
      | ok frame after => exact hsettle _
      | error exit after => exact hsettle _

/-- The blocks that come of an item are lighter than the one that runs it. -/
theorem weight_after_lt (code : Block) (scene : Scene) (room : Nat) (item : Item)
    (rest : List Item) (waiting : List (Purpose × Activation)) (deed : Deed) :
    IsDershowitzMannaLT (after ⟨code, scene, room, rest⟩ waiting deed).weight
      ({(⟨code, scene, room, item :: rest⟩ : Activation).weight} + weights waiting) := by
  have hrest : (⟨code, scene, room, rest⟩ : Activation).weight <
      (⟨code, scene, room, item :: rest⟩ : Activation).weight :=
    Prod.Lex.toLex_lt_toLex.2 (Or.inr ⟨rfl, Nat.lt_succ_self _⟩)
  have hidle := idle_lt ⟨code, scene, room, item :: rest⟩
  cases deed with
  | done result =>
      cases result with
      | ok _ now => exact isDershowitzMannaLT_replace (by simpa using hrest)
      | error exit now => exact isDershowitzMannaLT_replace (by simpa using hidle)
  | enter purpose active closure entered =>
      cases room with
      | zero =>
          rw [Moment.after, enter, Moment.weight, weights_cons, ← add_assoc]
          exact isDershowitzMannaLT_replace (by simpa using ⟨hidle, hrest⟩)
      | succ room =>
          have hinner : (⟨closure.code, ⟨entered.frames.all.size, closure.code.userCode, active⟩,
              room, closure.code.body⟩ : Activation).weight <
              (⟨code, scene, room + 1, item :: rest⟩ : Activation).weight :=
            Prod.Lex.toLex_lt_toLex.2 (Or.inl (Nat.lt_succ_self room))
          rw [Moment.after, enter, Moment.weight, weights_cons, ← add_assoc]
          exact isDershowitzMannaLT_replace (by simpa using ⟨hinner, hrest⟩)

namespace Moment

variable {first moment later : Moment}

/-- Every step makes the blocks under way lighter. -/
theorem Next.weight_lt (h : moment.Next later) :
    IsDershowitzMannaLT later.weight moment.weight := by
  cases moment with
  | running top waiting machine =>
      obtain ⟨code, scene, room, items⟩ := top
      cases items with
      | nil =>
          obtain rfl := Option.some.inj h
          exact weight_finish_lt _ _ _
      | cons item rest =>
          obtain rfl := Option.some.inj h
          exact weight_after_lt code scene room item rest waiting _
  | leaving exit waiting machine =>
      obtain rfl := Option.some.inj h
      exact weight_finish_lt _ _ _
  | ended result => exact absurd h not_next_ended

theorem wellFounded_next : WellFounded fun later moment : Moment => moment.Next later :=
  Subrelation.wf Next.weight_lt (InvImage.wf weight wellFounded_isDershowitzMannaLT)

/-- Every moment leads to the end of its run. -/
theorem exists_reaches_ended (moment : Moment) : ∃ result, Reaches moment (ended result) := by
  induction moment using wellFounded_next.induction with
  | h moment ih =>
      cases hnext : moment.next with
      | some later =>
          obtain ⟨result, hreaches⟩ := ih later hnext
          exact ⟨result, .head hnext hreaches⟩
      | none =>
          cases moment with
          | running top waiting machine =>
              obtain ⟨code, scene, room, items⟩ := top
              cases items <;> cases hnext
          | leaving => cases hnext
          | ended result => exact ⟨result, .refl⟩

end Moment

/-! ### The counter -/

/-- What is done when a block has ended, inside of the blocks `active` that can be left. -/
def Purpose.close (active : List BeginId) (purpose : Purpose) :
    EStateM.Result Exit Machine FrameId → EStateM.Result Exit Machine Unit
  | .ok _ machine => purpose.resume machine
  | .error exit machine => purpose.abandon active exit machine

/-- What is run: a block, or the items that a block still has to run. -/
inductive Task
  | block (active : List BeginId) (closure : Closure)
  | items (scene : Scene) (items : List Item)

/-- How a counter of the blocks under way goes along a run. A block makes it one more, and does not
run if it is the limit then. However the block ends, it makes the counter one less. -/
inductive Counts (limit : Nat) :
    Task → Nat → Machine → EStateM.Result Exit Machine FrameId → Nat → Prop
  | full {active : List BeginId} {closure : Closure} {depth : Nat} {machine : Machine} :
      limit ≤ depth + 1 →
      Counts limit (.block active closure) depth machine
        (.error (.fault ⟨.callStackOverflow, []⟩) machine) (depth + 1 - 1)
  | block {active : List BeginId} {closure : Closure} {depth inside : Nat} {machine : Machine}
      {result : EStateM.Result Exit Machine FrameId} :
      depth + 1 < limit →
      Counts limit
        (.items ⟨machine.frames.all.size, closure.code.userCode, active⟩ closure.code.body)
        (depth + 1)
        { machine with frames := (machine.frames.add (.ofBlock closure.code closure.frame)).2 }
        result inside →
      Counts limit (.block active closure) depth machine result (inside - 1)
  | nil {scene : Scene} {depth : Nat} {machine : Machine} :
      Counts limit (.items scene []) depth machine (.ok scene.frame machine) depth
  /-- An item is done, and the others follow. -/
  | done {scene : Scene} {item : Item} {rest : List Item} {depth later : Nat}
      {machine now : Machine} {result : EStateM.Result Exit Machine FrameId} :
      Deed.ofItem scene rest item machine = .done (.ok () now) →
      Counts limit (.items scene rest) depth now result later →
      Counts limit (.items scene (item :: rest)) depth machine result later
  /-- An item ends the block early. -/
  | broken {scene : Scene} {item : Item} {rest : List Item} {depth : Nat} {machine now : Machine}
      {exit : Exit} :
      Deed.ofItem scene rest item machine = .done (.error exit now) →
      Counts limit (.items scene (item :: rest)) depth machine (.error exit now) depth
  /-- A block is run for an item, and the others follow. -/
  | entered {scene : Scene} {item : Item} {rest : List Item} {depth between later : Nat}
      {machine entering now : Machine} {purpose : Purpose} {active : List BeginId}
      {closure : Closure} {inner result : EStateM.Result Exit Machine FrameId} :
      Deed.ofItem scene rest item machine = .enter purpose active closure entering →
      Counts limit (.block active closure) depth entering inner between →
      purpose.close scene.active inner = .ok () now →
      Counts limit (.items scene rest) between now result later →
      Counts limit (.items scene (item :: rest)) depth machine result later
  /-- A block is run for an item, and the one around it ends with it. -/
  | left {scene : Scene} {item : Item} {rest : List Item} {depth between : Nat}
      {machine entering now : Machine} {purpose : Purpose} {active : List BeginId}
      {closure : Closure} {inner : EStateM.Result Exit Machine FrameId} {exit : Exit} :
      Deed.ofItem scene rest item machine = .enter purpose active closure entering →
      Counts limit (.block active closure) depth entering inner between →
      purpose.close scene.active inner = .error exit now →
      Counts limit (.items scene (item :: rest)) depth machine (.error exit now) between

/-- What the evaluator gives, where `depth` blocks are under way. -/
def Task.outcome (limit depth : Nat) (task : Task) (machine : Machine) :
    EStateM.Result Exit Machine FrameId :=
  match task with
  | block active closure => process (limit - 1 - depth) active closure machine
  | items scene rest =>
      match runItems (process (limit - 1 - depth)) scene rest machine with
      | .ok _ machine => .ok scene.frame machine
      | .error exit machine => .error exit machine

namespace Task

variable {limit depth : Nat} {scene : Scene} {item : Item} {rest : List Item}
  {machine now entering : Machine} {exit : Exit} {purpose : Purpose} {active : List BeginId}
  {closure : Closure}

theorem outcome_block_full (h : limit ≤ depth + 1) (active : List BeginId) (closure : Closure)
    (machine : Machine) :
    (block active closure).outcome limit depth machine =
      .error (.fault ⟨.callStackOverflow, []⟩) machine := by
  rw [outcome, show limit - 1 - depth = 0 by omega]
  rfl

theorem outcome_block (h : depth + 1 < limit) (active : List BeginId) (closure : Closure)
    (machine : Machine) :
    (block active closure).outcome limit depth machine =
      (items ⟨machine.frames.all.size, closure.code.userCode, active⟩ closure.code.body).outcome
        limit (depth + 1)
        { machine with frames := (machine.frames.add (.ofBlock closure.code closure.frame)).2 } := by
  rw [outcome, show limit - 1 - depth = limit - 1 - (depth + 1) + 1 by omega, process_succ]
  rfl

theorem outcome_items_done (h : Deed.ofItem scene rest item machine = .done (.ok () now)) :
    (items scene (item :: rest)).outcome limit depth machine =
      (items scene rest).outcome limit depth now := by
  rw [outcome, runItems_cons, h]
  rfl

theorem outcome_items_broken (h : Deed.ofItem scene rest item machine = .done (.error exit now)) :
    (items scene (item :: rest)).outcome limit depth machine = .error exit now := by
  rw [outcome, runItems_cons, h]
  rfl

theorem outcome_items_enter
    (h : Deed.ofItem scene rest item machine = .enter purpose active closure entering) :
    (items scene (item :: rest)).outcome limit depth machine =
      match purpose.close scene.active ((block active closure).outcome limit depth entering) with
      | .ok _ now => (items scene rest).outcome limit depth now
      | .error exit now => .error exit now := by
  simp only [outcome, runItems_cons, h, Deed.perform]
  cases process (limit - 1 - depth) active closure entering with
  | ok frame after =>
      simp only [Purpose.close]
      cases purpose.resume after <;> rfl
  | error exit after =>
      simp only [Purpose.close]
      cases purpose.abandon scene.active exit after <;> rfl

end Task

/-- The counter comes back to where it was. -/
theorem outcome_of_counts {limit depth after : Nat} {task : Task} {machine : Machine}
    {result : EStateM.Result Exit Machine FrameId}
    (h : Counts limit task depth machine result after) :
    task.outcome limit depth machine = result ∧ after = depth := by
  induction h with
  | full hfull => exact ⟨Task.outcome_block_full hfull _ _ _, rfl⟩
  | block hroom _ ih =>
      rw [Task.outcome_block hroom, ih.1, ih.2]
      exact ⟨rfl, rfl⟩
  | nil => exact ⟨rfl, rfl⟩
  | done hdone _ ih =>
      rw [Task.outcome_items_done hdone]
      exact ih
  | broken hbroken => exact ⟨Task.outcome_items_broken hbroken, rfl⟩
  | entered henter _ hclose _ ihblock ihrest =>
      obtain ⟨hinner, rfl⟩ := ihblock
      rw [Task.outcome_items_enter henter, hinner, hclose]
      exact ihrest
  | left henter _ hclose ihblock =>
      obtain ⟨hinner, rfl⟩ := ihblock
      rw [Task.outcome_items_enter henter, hinner, hclose]
      exact ⟨rfl, rfl⟩

/-- The items of a block are counted, if every block inside of it is. -/
theorem counts_items {limit depth : Nat}
    (hinner : ∀ active closure machine, Counts limit (.block active closure) depth machine
      ((Task.block active closure).outcome limit depth machine) depth)
    (scene : Scene) (items : List Item) (machine : Machine) :
    Counts limit (.items scene items) depth machine
      ((Task.items scene items).outcome limit depth machine) depth := by
  induction items generalizing machine with
  | nil => exact .nil
  | cons item rest ih =>
      cases hdeed : Deed.ofItem scene rest item machine with
      | done result =>
          cases result with
          | ok _ now =>
              rw [Task.outcome_items_done hdeed]
              exact .done hdeed (ih now)
          | error exit now =>
              rw [Task.outcome_items_broken hdeed]
              exact .broken hdeed
      | enter purpose active closure entering =>
          have hblock := hinner active closure entering
          rw [Task.outcome_items_enter hdeed]
          cases hclose : purpose.close scene.active
              ((Task.block active closure).outcome limit depth entering) with
          | ok _ now => exact .entered hdeed hblock hclose (ih now)
          | error exit now => exact .left hdeed hblock hclose

/-- Everything that is run is counted: by induction on how far the counter is from the limit, and
then on the items that are left. -/
theorem counts_block (limit depth : Nat) (active : List BeginId) (closure : Closure)
    (machine : Machine) :
    Counts limit (.block active closure) depth machine
      ((Task.block active closure).outcome limit depth machine) depth := by
  by_cases hroom : depth + 1 < limit
  · rw [Task.outcome_block hroom]
    exact .block hroom (counts_items (counts_block limit (depth + 1)) _ _ _)
  · rw [Task.outcome_block_full (Nat.le_of_not_lt hroom)]
    exact .full (Nat.le_of_not_lt hroom)
termination_by limit - depth

/-- A counter gives the outcome that the evaluator gives, and no other one. -/
theorem counts_iff {limit depth after : Nat} {active : List BeginId} {closure : Closure}
    {machine : Machine} {result : EStateM.Result Exit Machine FrameId} :
    Counts limit (.block active closure) depth machine result after ↔
      process (limit - 1 - depth) active closure machine = result ∧ after = depth := by
  refine ⟨outcome_of_counts, ?_⟩
  rintro ⟨rfl, rfl⟩
  exact counts_block limit _ active closure machine

/-! ### Room for the blocks under way -/

/-- Every block that waits has the room that the blocks around it leave. -/
def Roomy (limit : Nat) : List (Purpose × Activation) → Prop
  | [] => True
  | (_, outer) :: outside => outer.room + outside.length + 2 = limit ∧ Roomy limit outside

namespace Moment

variable {limit : Nat} {waiting : List (Purpose × Activation)} {moment later : Moment}

/-- Every block under way has the room that the blocks around it leave. -/
def Fits (limit : Nat) : Moment → Prop
  | running top waiting _ => top.room + waiting.length + 2 = limit ∧ Roomy limit waiting
  | leaving _ waiting _ => Roomy limit waiting
  | ended _ => True

theorem fits_settle {top : Activation} (htop : top.room + waiting.length + 2 = limit)
    (hwaiting : Roomy limit waiting) (result : EStateM.Result Exit Machine Unit) :
    (settle top waiting result).Fits limit := by
  cases result with
  | ok _ after => exact ⟨htop, hwaiting⟩
  | error exit after => exact hwaiting

theorem fits_enter {room : Nat} (hwaiting : Roomy limit waiting)
    (hroom : room + waiting.length + 1 = limit ∨ room = 0) (active : List BeginId)
    (closure : Closure) (machine : Machine) :
    (enter room active closure waiting machine).Fits limit := by
  cases room with
  | zero => exact hwaiting
  | succ room =>
      have htop : room + waiting.length + 2 = limit := by omega
      exact ⟨htop, hwaiting⟩

theorem fits_finish (hwaiting : Roomy limit waiting)
    (result : EStateM.Result Exit Machine FrameId) : (finish waiting result).Fits limit := by
  cases waiting with
  | nil => exact trivial
  | cons entry waiting => cases result <;> exact fits_settle hwaiting.1 hwaiting.2 _

theorem Fits.next (h : moment.Fits limit) (hnext : moment.Next later) : later.Fits limit := by
  cases moment with
  | running top waiting machine =>
      obtain ⟨code, scene, room, items⟩ := top
      obtain ⟨htop, hwaiting⟩ := h
      cases items with
      | nil =>
          obtain rfl := Option.some.inj hnext
          exact fits_finish hwaiting _
      | cons item rest =>
          obtain rfl := Option.some.inj hnext
          have htop : (⟨code, scene, room, rest⟩ : Activation).room + waiting.length + 2 = limit :=
            htop
          cases Deed.ofItem scene rest item machine with
          | done result => exact fits_settle htop hwaiting result
          | enter purpose active closure entered =>
              have hinner : Roomy limit ((purpose, ⟨code, scene, room, rest⟩) :: waiting) :=
                ⟨htop, hwaiting⟩
              exact fits_enter hinner (Or.inl htop) active closure entered
  | leaving exit waiting machine =>
      obtain rfl := Option.some.inj hnext
      exact fits_finish h _
  | ended result => exact absurd hnext not_next_ended

theorem Fits.reaches (h : moment.Fits limit) (hreaches : Reaches moment later) :
    later.Fits limit := by
  induction hreaches with
  | refl => exact h
  | tail _ hnext ih => exact ih.next hnext

theorem fits_start (limit : Nat) (active : List BeginId) (closure : Closure) (machine : Machine) :
    (start limit active closure machine).Fits limit := by
  have hnone : Roomy limit [] := trivial
  apply fits_enter hnone
  rw [List.length_nil]
  omega

/-- A run that fails for want of room does so inside of as many blocks as there can be. -/
theorem exists_leaving_overflow {active : List BeginId} {closure : Closure}
    {machine after : Machine} {fault : Fault}
    (hended : Reaches (start limit active closure machine) (ended (.error (.fault fault) after)))
    (hcause : fault.cause = .callStackOverflow) :
    ∃ waiting now, Reaches (start limit active closure machine)
        (leaving (.fault ⟨.callStackOverflow, []⟩) waiting now) ∧
      fault.trail = trail waiting ∧ waiting.length = limit - 1 := by
  cases hfirst : (start limit active closure machine).fault? with
  | some first =>
      -- there is no room for the outermost block
      unfold start at hfirst hended ⊢
      cases hroom : limit - 1 with
      | zero =>
          rw [hroom] at hended
          refine ⟨[], machine, .refl, ?_, rfl⟩
          cases ended_unique (unwinds_fault _ _ _).reaches hended
          rfl
      | succ room =>
          rw [hroom] at hfirst
          cases hfirst
  | none =>
      obtain ⟨origin, raised, waiting, now, horigin, hraises, hnext, rfl⟩ :=
        exists_raises hfirst hended
      have hfits := (fits_start limit active closure machine).reaches horigin
      have hleaving := Relation.ReflTransGen.tail horigin hnext
      cases hraises with
      | @item code scene room item rest waiting machine now horigin hdone =>
          rcases Deed.isLocal_or_misses scene rest item machine with
            hlocal | ⟨word, fault, after, _, _, hmisses, hfault⟩
          · rw [hdone] at hlocal
            have hlocal := hlocal raised now rfl
            rw [hcause] at hlocal
            exact absurd hlocal id
          · cases hdone.symm.trans hfault
            cases hmisses <;> cases hcause
      | @room code scene item rest purpose outside machine horigin hraised =>
          subst horigin hraised
          refine ⟨_, now, hleaving, List.append_nil _, ?_⟩
          rw [List.length_cons]
          have hroom : 0 + outside.length + 2 = limit := hfits.1
          omega
      | table hlocal =>
          rw [hcause] at hlocal
          exact absurd hlocal id
      | stale hstale =>
          rw [hcause] at hstale
          cases hstale

end Moment

/-! ### Whole runs -/

/-- In the whole run of a block, the limit is what bounds it, and it is kept. -/
structure KeepsLimit (limit : Nat) (active : List BeginId) (closure : Closure)
    (machine : Machine) : Prop where
  /-- Every step makes the blocks under way lighter: of the room inside of them, and then of the
  items that they still have to run, the first that changes gets less. -/
  decreases : ∀ moment later, Reaches (start limit active closure machine) moment →
    moment.Next later → IsDershowitzMannaLT later.weight moment.weight
  /-- The run comes to its end. -/
  ends : ∃ result, Reaches (start limit active closure machine) (ended result)
  /-- A block runs only where fewer blocks than the limit run inside each other, itself included,
  and its room is what these leave. -/
  room_eq : ∀ top waiting now,
    Reaches (start limit active closure machine) (running top waiting now) →
      waiting.length + 1 < limit ∧ top.room = limit - 1 - (waiting.length + 1)
  /-- Wherever the counter of blocks under way stands, the block can be run with it, the outcome is
  that of the evaluator, and the counter stands there again. -/
  counts : ∀ depth result after,
    Counts limit (.block active closure) depth machine result after ↔
      process (limit - 1 - depth) active closure machine = result ∧ after = depth
  /-- A run that fails for want of room has named everything that blocks were run for, and these
  were as many as there can be. -/
  overflow : ∀ fault after,
    evaluate limit active closure machine = (.failed fault, after) →
    fault.cause = .callStackOverflow → ∃ waiting now,
      Reaches (start limit active closure machine)
        (leaving (.fault ⟨.callStackOverflow, []⟩) waiting now) ∧
      fault.trail = trail waiting ∧ fault.trail.length = limit - 1

theorem limit_bounds_every_run (limit : Nat) (active : List BeginId) (closure : Closure)
    (machine : Machine) : KeepsLimit limit active closure machine where
  decreases _ _ _ hnext := hnext.weight_lt
  ends := exists_reaches_ended _
  room_eq top waiting now hreaches := by
    have hroom := ((fits_start limit active closure machine).reaches hreaches).1
    omega
  counts _ _ _ := counts_iff
  overflow fault after hfailed hcause := by
    have hended := (evaluate_failed_iff (by simp [hcause])).1 hfailed
    obtain ⟨waiting, now, hleaving, htrail, hlength⟩ := exists_leaving_overflow hended hcause
    refine ⟨waiting, now, hleaving, htrail, ?_⟩
    rw [htrail, trail, List.length_reverse, List.length_map, hlength]

/-- A function that calls itself inside of a list. -/
def endless : Closure :=
  ⟨(Program.ofSource true "Def Again (List (Again)); Again".toList).root, none⟩

theorem limit_bounds_every_run_endless : ∃ fault after,
    evaluate 6 [] endless {} = (.failed fault, after) ∧ fault.cause = .callStackOverflow ∧
      fault.trail.length = 5 := by
  have hcause : (evaluate 6 [] endless {}).1.fault?.map (·.cause) = some .callStackOverflow := by
    decide +kernel
  obtain ⟨fault, hfault, hcause⟩ := Option.map_eq_some_iff.1 hcause
  have hfailed : evaluate 6 [] endless {} = (.failed fault, (evaluate 6 [] endless {}).2) := by
    generalize evaluate 6 [] endless {} = evaluation at hfault
    obtain ⟨ending, after⟩ := evaluation
    cases ending with
    | failed other =>
        cases hfault
        rfl
    | finished | stopped => cases hfault
  obtain ⟨_, _, _, _, hlength⟩ :=
    (limit_bounds_every_run 6 [] endless {}).overflow fault _ hfailed hcause
  exact ⟨fault, _, hfailed, hcause, hlength⟩

end StackProse.Machine
