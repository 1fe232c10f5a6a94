import StackProse.Program.Assembly
import StackProse.Proofs.Machine.TwoRuns

/-!
# What lies below on the stack

A block takes what it needs from the top of the stack and leaves its results there. Two words look
further, `Stack` and `Clear`: they take in the whole stack. A block that runs neither of them on the
stack it began with, and does not run out of that stack, does the same whatever lies below:
`Machine.process_above` compares its run with the run on a stack that has more at the bottom.
-/

namespace StackProse.Machine

open Moment

variable {below : List Value} {machine other : Machine} {settings : Settings}

/-- The machine with something more at the bottom of its stack. -/
def above (below : List Value) (machine : Machine) : Machine :=
  { machine with stack := machine.stack ++ below }

/-- The result with another machine. -/
def mapFinal {α : Type} (change : Machine → Machine) :
    EStateM.Result Exit Machine α → EStateM.Result Exit Machine α
  | .ok result machine => .ok result (change machine)
  | .error exit machine => .error exit (change machine)

theorem map_rename_same (values : List Value) : values.map (·.rename .same) = values := by
  simp only [Value.rename_same, List.map_id']

theorem alike_above (below : List Value) (machine : Machine) :
    Alike (.same machine.settings) below machine (machine.above below) where
  stack := congrArg (· ++ below) (map_rename_same machine.stack).symm
  heap := by
    refine ⟨fun id => ?_, fun count => rfl⟩
    simp only [Likeness.same, Value.rename_same, Option.map_id']
    rfl
  frames := by
    refine ⟨fun id => ?_, fun count => rfl⟩
    simp only [Frame.rename_same, Option.map_id']
    rfl
  begins _ := rfl
  console := rfl
  engine := rfl
  settings := rfl
  settings' := rfl

/-- Machines that are alike under the same numbers differ in the stack alone. -/
theorem Alike.eq_above (h : Alike (.same settings) below machine other) :
    other = machine.above below := by
  have hsettings : other.settings = machine.settings := h.settings'.trans h.settings.symm
  have hcells : other.heap.cells = machine.heap.cells := by
    apply Array.ext_getElem?
    intro id
    have hget := h.heap.get? id
    simp only [Likeness.same, Value.rename_same, Option.map_id'] at hget
    exact hget
  have hall : other.frames.all = machine.frames.all := by
    apply Array.ext_getElem?
    intro id
    have hget := h.frames.getElem? id
    simp only [Frame.rename_same, Option.map_id'] at hget
    exact hget
  have hstack : other.stack = machine.stack ++ below :=
    h.stack.trans (congrArg (· ++ below) (map_rename_same machine.stack))
  have hheap : other.heap = machine.heap := congrArg Heap.mk hcells
  have hframes : other.frames = machine.frames :=
    calc other.frames
        = ⟨other.frames.all, other.settings.settled, other.settings.kept⟩ := rfl
      _ = machine.frames := by rw [hall, hsettings]; rfl
  have hbegins : other.begins = machine.begins := (h.begins 0).symm
  calc other
      = ⟨other.stack, other.heap, other.frames, other.begins, other.console, other.engine⟩ := rfl
    _ = machine.above below := by rw [hstack, hheap, hframes, hbegins, h.console, h.engine, above]

/-- No run of a block changes the settings. -/
theorem settings_process (room : Nat) (active : List BeginId) (closure : Closure)
    (machine : Machine) :
    (final (process room active closure machine)).settings = machine.settings := by
  have hagrees := agrees_process_nil (alike_above [] machine) room active closure
  generalize process room active closure machine = result at hagrees ⊢
  generalize process _ _ _ (above [] machine) = result' at hagrees
  cases hagrees with
  | ok _ hmachines => exact hmachines.settings
  | error _ hmachines => exact hmachines.settings
  | short hbelow => exact absurd rfl hbelow

namespace Moment

/-- The running block is about to look at the whole stack or to empty it, and it is the stack on
which the outermost block began. -/
def sweepsShared (moment : Moment) : Bool :=
  moment.sweeps && moment.waiting.all (·.1.aside?.isNone)

end Moment

/-- A block does the same whatever lies below on the stack. -/
theorem process_above {room : Nat} {active : List BeginId} {closure : Closure}
    (below : List Value)
    (hsweeps : ∀ moment, Reaches (enter room active closure [] machine) moment →
      moment.sweepsShared = false)
    (hshort : ∀ fault after, process room active closure machine = .error (.fault fault) after →
      ¬ fault.cause.IsShortage) :
    process room active closure (machine.above below) =
      mapFinal (above below) (process room active closure machine) := by
  have hunshared : ∀ moment, Reaches (enter room active closure [] machine) moment →
      insideOf below moment.waiting ≠ [] → moment.sweeps = false := by
    intro moment hmoment hbelow
    have hshared : moment.waiting.all (·.1.aside?.isNone) = true := by
      simpa using aside?_eq_none_of_insideOf hbelow
    simpa [sweepsShared, hshared] using hsweeps moment hmoment
  have hagrees := agrees_process (alike_above below machine) hunshared fun _ => hshort
  have hactive : active.map (Likeness.same machine.settings).begin = active := List.map_id active
  have hclosure : closure.rename (Likeness.same machine.settings).toRenaming = closure :=
    Closure.rename_same closure
  rw [hactive, hclosure] at hagrees
  generalize process room active closure machine = result at hagrees hshort ⊢
  generalize process room active closure (machine.above below) = result' at hagrees ⊢
  cases hagrees with
  | ok hframe hmachines =>
      rw [mapFinal, ← hmachines.eq_above, hframe]
      rfl
  | error exit hmachines =>
      rw [mapFinal, ← hmachines.eq_above]
      cases exit <;> rfl
  | short _ hcause => exact absurd hcause (hshort _ _ rfl)

/-- A block does not notice what lies below on the stack. If it neither runs `Stack` or `Clear` on
the stack that it began with nor fails because that stack is empty, then with `below` at the bottom
of the stack it ends in the same way, and the machine is the same but for `below` at the bottom of
the stack that it leaves. -/
theorem stack_below_is_not_noticed (room : Nat) (active : List BeginId) (closure : Closure)
    (machine : Machine) (below : List Value)
    (hsweeps : ∀ moment, Reaches (enter room active closure [] machine) moment →
      moment.sweepsShared = false)
    (hshort : ∀ fault after, process room active closure machine = .error (.fault fault) after →
      ¬ fault.cause.IsShortage) :
    process room active closure (machine.above below) =
        mapFinal (above below) (process room active closure machine) ∧
      ∀ limit, limit - 1 = room → evaluate limit active closure (machine.above below) =
        ((evaluate limit active closure machine).1,
          (evaluate limit active closure machine).2.above below) := by
  have hprocess := process_above below hsweeps hshort
  refine ⟨hprocess, ?_⟩
  rintro limit rfl
  rw [evaluate, hprocess, evaluate]
  cases process (limit - 1) active closure machine <;> rfl

/-- A block that takes one value, looks at the whole stack of a list, and is left before it would
empty the stack that it began with. -/
def frugal : Closure :=
  ⟨(Program.ofSource true
    "Let X; List (X Stack); Begin (Def Out; Not X; Out; Clear)".toList).root, none⟩

/-- A machine with one value on the stack. -/
def stocked : Machine :=
  { stack := [.boolean true] }

theorem stack_below_is_not_noticed_frugal :
    (evaluate 100 [] frugal stocked).1.frame?.isSome = true ∧
      evaluate 100 [] frugal (stocked.above [.symbol "a"]) =
        ((evaluate 100 [] frugal stocked).1,
          (evaluate 100 [] frugal stocked).2.above [.symbol "a"]) := by
  have hfinished : (evaluate 100 [] frugal stocked).1.frame?.isSome = true := by
    decide +kernel
  have hlast : ((enter 99 [] frugal [] stocked).later? 18).any (·.next.isNone) = true := by
    decide +kernel
  have hmoments : ∀ before ≤ 18, ((enter 99 [] frugal [] stocked).later? before).all
      (!·.sweepsShared) = true := by
    decide +kernel
  refine ⟨hfinished, (stack_below_is_not_noticed 99 [] frugal stocked [.symbol "a"] ?_ ?_).2 100 rfl⟩
  · intro moment hmoment
    obtain ⟨last, hlater, hnext⟩ := (Option.any_eq_true _ _).1 hlast
    obtain ⟨before, hbefore, hmoment⟩ :=
      exists_later?_of_reaches hlater (Option.isNone_iff_eq_none.1 hnext) hmoment
    have hshared := hmoments before hbefore
    rw [hmoment] at hshared
    simpa using hshared
  · intro fault after hprocess
    rw [evaluate, hprocess] at hfinished
    cases hfinished

end StackProse.Machine
