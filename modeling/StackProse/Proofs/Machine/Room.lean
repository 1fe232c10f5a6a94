import StackProse.Program.Assembly
import StackProse.Proofs.Machine.Escapes

/-!
# More room for blocks

How many blocks may run inside each other is a limit that is set from outside. A run that finds room
for all its blocks does not notice the limit: with more room it goes the same way.

The reason is that a want of room is never lost. It ends the block in which it arises, and every
block around that one as well: what `Begin` catches is leaving early and not a fault, and no word
goes on after a fault (`Purpose.overflows_abandon`). So a run that did not end for want of room has
found room at each of its blocks, and `runItems_of_extends` follows it block by block.
-/

namespace StackProse

/-- The evaluation has failed because there was no room for a block. -/
def Ending.Overflows (ending : Ending) : Prop :=
  ∃ fault, ending = .failed fault ∧ fault.cause = .callStackOverflow

theorem Ending.overflows_iff {ending : Ending} :
    ending.Overflows ↔ ending.fault?.map (·.cause) = some .callStackOverflow := by
  cases ending <;> simp [Overflows, fault?]

namespace Machine

/-- The computation has failed because there was no room for a block. -/
def Overflows {α : Type} (result : EStateM.Result Exit Machine α) : Prop :=
  ∃ fault after, result = .error (.fault fault) after ∧ fault.cause = .callStackOverflow

/-- The second way to run blocks gives what the first one gives, where that one has room. -/
def Runner.Extends (runner wider : Runner) : Prop :=
  ∀ active closure machine, ¬ Overflows (runner active closure machine) →
    wider active closure machine = runner active closure machine

/-- No construct goes on after a want of room. -/
theorem Purpose.overflows_abandon {fault : Fault} (hcause : fault.cause = .callStackOverflow)
    (purpose : Purpose) (active : List BeginId) (machine : Machine) :
    Overflows (purpose.abandon active (.fault fault) machine) :=
  ⟨_, _, purpose.abandon_fault active fault machine, hcause⟩

section

variable {runner wider : Runner}

theorem Deed.perform_of_extends (hextends : runner.Extends wider) (active : List BeginId)
    (deed : Deed) (h : ¬ Overflows (deed.perform runner active)) :
    deed.perform wider active = deed.perform runner active := by
  cases deed with
  | done result => rfl
  | enter purpose inner closure machine =>
      have hinner : ¬ Overflows (runner inner closure machine) := by
        intro ⟨fault, after, hresult, hcause⟩
        apply h
        rw [Deed.perform, hresult]
        exact purpose.overflows_abandon hcause active after
      rw [Deed.perform, Deed.perform, hextends inner closure machine hinner]

/-- Items go the same way, where there is room for all the blocks that they run. -/
theorem runItems_of_extends (hextends : runner.Extends wider) (scene : Scene) (items : List Item)
    (machine : Machine) (h : ¬ Overflows (runItems runner scene items machine)) :
    runItems wider scene items machine = runItems runner scene items machine := by
  induction items generalizing machine with
  | nil => rfl
  | cons item rest ih =>
      rw [runItems_cons] at h
      have hitem :
          ¬ Overflows ((Deed.ofItem scene rest item machine).perform runner scene.active) := by
        intro ⟨fault, after, hresult, hcause⟩
        apply h
        rw [hresult]
        exact ⟨fault, after, rfl, hcause⟩
      rw [runItems_cons, runItems_cons, Deed.perform_of_extends hextends _ _ hitem]
      cases hresult : (Deed.ofItem scene rest item machine).perform runner scene.active with
      | ok _ after =>
          rw [hresult] at h
          exact ih after h
      | error exit after => rfl

end

/-- A block goes the same way with more room. The induction is on the room that it has: with none it
does not run at all, and otherwise the blocks inside of it have one less. -/
theorem extends_process {room wider : Nat} (hle : room ≤ wider) :
    Runner.Extends (process room) (process wider) := by
  induction room generalizing wider with
  | zero =>
      intro active closure machine h
      exact absurd ⟨_, _, rfl, rfl⟩ h
  | succ room ih =>
      obtain ⟨wider, rfl⟩ := Nat.exists_eq_add_of_le' (Nat.lt_of_lt_of_le room.succ_pos hle)
      intro active closure machine h
      rw [process_succ] at h
      have hitems : ¬ Overflows (runItems (process room)
          ⟨machine.frames.all.size, closure.code.userCode, active⟩ closure.code.body
          { machine with
            frames := (machine.frames.add (.ofBlock closure.code closure.frame)).2 }) := by
        intro ⟨fault, after, hresult, hcause⟩
        apply h
        rw [hresult]
        exact ⟨fault, after, rfl, hcause⟩
      rw [process_succ, process_succ,
        runItems_of_extends (ih (Nat.le_of_succ_le_succ hle)) _ _ _ hitems]

/-! ### Whole evaluations -/

/-- Raising the limit changes nothing about an evaluation that did not fail for want of room: it
ends in the same way and leaves the same machine. -/
theorem evaluate_of_limit_le {limit higher : Nat} (hle : limit ≤ higher) (active : List BeginId)
    (closure : Closure) (machine : Machine)
    (h : ¬ (evaluate limit active closure machine).1.Overflows) :
    evaluate higher active closure machine = evaluate limit active closure machine := by
  have hprocess : ¬ Overflows (process (limit - 1) active closure machine) := by
    intro ⟨fault, after, hresult, hcause⟩
    apply h
    rw [evaluate, hresult]
    exact ⟨fault, rfl, hcause⟩
  rw [evaluate, evaluate, extends_process (Nat.sub_le_sub_right hle 1) _ _ _ hprocess]

/-- A program that leaves `Begin` from inside of a function and a list, and then prints. -/
def leavesEarly : Closure :=
  ⟨(Program.ofSource true "Def Leave (Def Out; List (Out)); Begin (Leave); Print 2".toList).root,
    none⟩

theorem evaluate_of_limit_le_leavesEarly :
    (evaluate 5 [] leavesEarly {}).1.Overflows ∧ ¬ (evaluate 6 [] leavesEarly {}).1.Overflows ∧
      evaluate 3000 [] leavesEarly {} = evaluate 6 [] leavesEarly {} := by
  have hlow : (evaluate 5 [] leavesEarly {}).1.fault?.map (·.cause) = some .callStackOverflow := by
    decide +kernel
  have hroom : (evaluate 6 [] leavesEarly {}).1.fault?.map (·.cause) ≠ some .callStackOverflow := by
    decide +kernel
  rw [← Ending.overflows_iff] at hlow
  rw [ne_eq, ← Ending.overflows_iff] at hroom
  exact ⟨hlow, hroom, evaluate_of_limit_le (by decide) [] leavesEarly {} hroom⟩

end Machine

end StackProse
