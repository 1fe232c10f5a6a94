import StackProse.Proofs.Machine.Discipline
import StackProse.Proofs.Machine.TwoRuns

/-!
# What a run holds

A run holds the values on its stack, those on the stacks that are kept while blocks run on stacks of
their own, and those in bindings. It holds what is in a box that it holds too, and the parts of lists and
tables (`Moment.Holds`).

The heap may have more boxes, left by earlier runs. A run that starts with an empty stack, where frames
bind no values, never gets hold of them: it goes on side by side with a run on an empty heap
(`Machine.alike_withoutBoxes`). So a `Discipline` has to allow nothing of what those boxes contain, and
`Moment.allowed_of_holds` says that all numbers that the run holds are allowed.
-/

namespace StackProse

/-! ### Values with other numbers -/

namespace Value

variable {shift : Renaming} {value : Value}

theorem eq_number_of_rename {n : Number} (h : value.rename shift = .number n) :
    value = .number n := by
  cases value with
  | number => exact h
  | _ => cases h

theorem exists_box_of_rename {id : BoxId} (h : value.rename shift = .box id) :
    ∃ old, value = .box old ∧ id = shift.box old := by
  cases value with
  | box old => exact ⟨old, rfl, (Value.box.inj h).symm⟩
  | _ => cases h

theorem exists_list_of_rename {items : List Value} (h : value.rename shift = .list items) :
    ∃ old, value = .list old ∧ items = old.map (rename shift) := by
  cases value with
  | list old =>
      rw [rename_list] at h
      exact ⟨old, rfl, (Value.list.inj h).symm⟩
  | _ => cases h

theorem exists_table_of_rename {entries : Table Value Value}
    (h : value.rename shift = .table entries) :
    ∃ old, value = .table old ∧
      entries.toList = old.toList.map (Prod.map (rename shift) (rename shift)) := by
  cases value with
  | table old =>
      rw [rename_table] at h
      obtain rfl := Value.table.inj h
      exact ⟨old, rfl, Table.toList_mapped old⟩
  | _ => cases h

end Value

namespace Machine

namespace Moment

/-! ### Holding a value -/

/-- The value is in reach of the run. -/
inductive Holds (moment : Moment) : Value → Prop
  | stack {value : Value} : value ∈ moment.machine.stack → Holds moment value
  /-- On a stack that is kept for a block that waits. -/
  | aside {entry : Purpose × Activation} {kept : List Value} {value : Value} :
      entry ∈ moment.waiting → entry.1.aside? = some kept → value ∈ kept → Holds moment value
  | binding {frame : Frame} {name : String} {value : Value} :
      frame ∈ moment.machine.frames.all → (name, .value value) ∈ frame.bindings →
      Holds moment value
  | content {id : BoxId} {value : Value} :
      Holds moment (.box id) → moment.machine.heap.get? id = some value → Holds moment value
  | item {items : List Value} {value : Value} :
      Holds moment (.list items) → value ∈ items → Holds moment value
  | key {entries : Table Value Value} {entry : Value × Value} :
      Holds moment (.table entries) → entry ∈ entries.toList → Holds moment entry.1
  | entry {entries : Table Value Value} {entry : Value × Value} :
      Holds moment (.table entries) → entry ∈ entries.toList → Holds moment entry.2

variable {like : Likeness} {allowed : Ingredients} {discipline : Discipline}
  {first second moment : Moment} {value : Value}

theorem Sound.machine_madeOf (h : moment.Sound discipline) :
    moment.machine.MadeOf (discipline.allowed moment.machine.frames) := by
  cases moment with
  | running => exact h.madeOf
  | leaving => exact h.madeOf
  | ended => exact h

theorem Sound.waiting_madeOf (h : moment.Sound discipline) :
    ∀ entry ∈ moment.waiting, entry.1.MadeOf (discipline.allowed moment.machine.frames) := by
  cases moment with
  | running => exact h.purpose
  | leaving => exact h.purpose
  | ended => exact List.forall_mem_nil _

theorem Alike.machines (h : Alike like [] first second) :
    Machine.Alike like [] first.machine second.machine := by
  cases h with
  | running hmachines | leaving hmachines =>
      rw [insideOf_nil] at hmachines
      exact hmachines
  | finished hmachines | broken hmachines => exact hmachines

theorem Alike.waiting_eq (h : Alike like [] first second) :
    second.waiting = renameWaiting like [] first.waiting := by
  cases h <;> rfl

theorem exists_of_mem_renameWaiting {waiting : List (Purpose × Activation)}
    {entry : Purpose × Activation} (h : entry ∈ renameWaiting like [] waiting) :
    ∃ old ∈ waiting, entry.1 = old.1.rename like [] := by
  induction waiting with
  | nil => exact absurd h List.not_mem_nil
  | cons old outside ih =>
      rw [renameWaiting, insideOf_nil, List.mem_cons] at h
      rcases h with rfl | h
      · exact ⟨old, List.mem_cons_self, rfl⟩
      · obtain ⟨old, hold, heq⟩ := ih h
        exact ⟨old, List.mem_cons_of_mem _ hold, heq⟩

/-- Of two runs side by side, where all frames of the second belong to frames of the first, the second
holds nothing but what the first one can be made of, under other numbers. -/
theorem Alike.exists_of_holds (h : Alike like [] first second)
    (hframe : Function.Surjective like.frame) (hmachine : first.machine.MadeOf allowed)
    (hwaiting : ∀ entry ∈ first.waiting, entry.1.MadeOf allowed) (hholds : second.Holds value) :
    ∃ old : Value, old.MadeOf allowed ∧ old.rename like.toRenaming = value := by
  have hmachines := h.machines
  induction hholds with
  | stack hmem =>
      rw [hmachines.stack, List.append_nil] at hmem
      obtain ⟨old, hold, rfl⟩ := List.mem_map.1 hmem
      exact ⟨old, hmachine.stack old hold, rfl⟩
  | @aside entry kept value hentry hkept hmem =>
      rw [h.waiting_eq] at hentry
      obtain ⟨⟨purpose, outer⟩, hold, heq⟩ := exists_of_mem_renameWaiting hentry
      have hpurpose := hwaiting _ hold
      rw [heq] at hkept
      cases purpose with
      | call | begin => cases hkept
      | list below | table below =>
          obtain rfl := Option.some.inj hkept
          rw [List.append_nil] at hmem
          obtain ⟨old, hold, rfl⟩ := List.mem_map.1 hmem
          exact ⟨old, hpurpose old hold, rfl⟩
  | @binding frame name value hmem hbinding =>
      obtain ⟨place, hplace⟩ := Array.getElem?_of_mem hmem
      obtain ⟨id, rfl⟩ := hframe place
      rw [hmachines.frames.getElem?] at hplace
      obtain ⟨old, hold, rfl⟩ := Option.map_eq_some_iff.1 hplace
      obtain ⟨⟨name', held⟩, hentry, heq⟩ := List.mem_map.1 hbinding
      have hmade := hmachine.frames old (Array.mem_of_getElem? hold) _ hentry
      cases held with
      | value held =>
          obtain ⟨-, hvalue⟩ := Prod.mk.inj heq
          exact ⟨held, hmade, Binding.value.inj hvalue⟩
      | _ => cases heq
  | content _ hcontent ih =>
      obtain ⟨old, -, hbox⟩ := ih
      obtain ⟨id, rfl, rfl⟩ := Value.exists_box_of_rename hbox
      rw [hmachines.heap.get?] at hcontent
      obtain ⟨inner, hinner, rfl⟩ := Option.map_eq_some_iff.1 hcontent
      exact ⟨inner, hmachine.heap inner (Array.mem_of_getElem? hinner), rfl⟩
  | item _ hmem ih =>
      obtain ⟨old, hmade, hlist⟩ := ih
      obtain ⟨items, rfl, rfl⟩ := Value.exists_list_of_rename hlist
      obtain ⟨inner, hinner, rfl⟩ := List.mem_map.1 hmem
      exact ⟨inner, Value.madeOf_list_iff.1 hmade inner hinner, rfl⟩
  | key _ hmem ih =>
      obtain ⟨old, hmade, htable⟩ := ih
      obtain ⟨entries, rfl, hentries⟩ := Value.exists_table_of_rename htable
      rw [hentries] at hmem
      obtain ⟨inner, hinner, rfl⟩ := List.mem_map.1 hmem
      exact ⟨inner.1, (Value.madeOf_table_iff.1 hmade inner hinner).1, rfl⟩
  | entry _ hmem ih =>
      obtain ⟨old, hmade, htable⟩ := ih
      obtain ⟨entries, rfl, hentries⟩ := Value.exists_table_of_rename htable
      rw [hentries] at hmem
      obtain ⟨inner, hinner, rfl⟩ := List.mem_map.1 hmem
      exact ⟨inner.2, (Value.madeOf_table_iff.1 hmade inner hinner).2, rfl⟩

end Moment

/-! ### Boxes of earlier runs -/

variable {machine : Machine}

/-- The machine without its boxes. -/
def withoutBoxes (machine : Machine) : Machine :=
  { machine with heap := {} }

/-- The numbers on a machine without boxes, and on the machine itself. New boxes come behind the ones
that are there. -/
def Likeness.pastBoxes (machine : Machine) : Likeness where
  box id := machine.heap.cells.size + id
  frame := id
  begin := id
  strictMono_box := fun _ _ h => Nat.add_lt_add_left h _
  strictMono_frame := strictMono_id
  strictMono_begin := strictMono_id
  settings := machine.settings
  settings' := machine.settings

theorem Closure.rename_pastBoxes (closure : Closure) :
    closure.rename (Likeness.pastBoxes machine).toRenaming = closure := by
  rw [Closure.rename, Likeness.pastBoxes, Option.map_id_fun, id]

/-- A run that starts with an empty stack, where frames bind no values, cannot tell that there are boxes
already. -/
theorem alike_withoutBoxes (hstack : machine.stack = [])
    (hframes : ∀ frame ∈ machine.frames.all, ∀ entry ∈ frame.bindings, ∀ held,
      entry.2 ≠ .value held) :
    Alike (.pastBoxes machine) [] machine.withoutBoxes machine where
  stack := by rw [withoutBoxes, hstack]; rfl
  heap := by
    refine ⟨fun id => ?_, fun count => ?_⟩
    · exact Array.getElem?_eq_none (Nat.le_add_right _ _)
    · change machine.heap.cells.size + (0 + count) = machine.heap.cells.size + count
      rw [Nat.zero_add]
  frames := by
    refine ⟨fun id => ?_, fun count => rfl⟩
    change machine.frames.all[id]? = machine.frames.all[id]?.map _
    cases hframe : machine.frames.all[id]? with
    | none => rfl
    | some frame =>
        have hplain := hframes frame (Array.mem_of_getElem? hframe)
        refine congrArg some (Frame.rename_eq_self _ ?_ Option.map_id_apply).symm
        intro entry hentry
        have hvalue := hplain entry hentry
        cases hbinding : entry.2 with
        | value held => exact absurd hbinding (hvalue held)
        | function closure => exact congrArg Binding.function (Closure.rename_pastBoxes closure)
        | pending | escape | matcher => rfl
  begins _ := rfl
  console := rfl
  engine := rfl
  settings := rfl
  settings' := rfl

/-- Whatever earlier runs have left in boxes, a run that starts with an empty stack, where frames bind
no values, holds allowed numbers only. -/
theorem Moment.allowed_of_holds (discipline : Discipline) {moment : Moment} {closure : Closure}
    {limit : Nat} {n : Number} (hstack : machine.stack = [])
    (hframes : ∀ frame ∈ machine.frames.all, ∀ entry ∈ frame.bindings,
      entry.2.MadeOf (discipline.allowed machine.frames) ∧ ∀ held, entry.2 ≠ .value held)
    (hclosure : (discipline.allowed machine.frames).closure closure)
    (hreaches : Reaches (start limit [] closure machine) moment)
    (hholds : moment.Holds (.number n)) : ∃ frames, (discipline.allowed frames).number n := by
  have hbare : machine.withoutBoxes.MadeOf (discipline.allowed machine.withoutBoxes.frames) := by
    refine ⟨?_, by simp [withoutBoxes],
      fun frame hframe entry hentry => (hframes frame hframe entry hentry).1⟩
    rw [withoutBoxes, hstack]
    exact List.forall_mem_nil _
  have hallowed : (discipline.allowed machine.withoutBoxes.frames).closure closure := hclosure
  have hready : Machine.Alike (.pastBoxes machine) (insideOf [] []) machine.withoutBoxes machine :=
    alike_withoutBoxes hstack fun frame hframe entry hentry => (hframes frame hframe entry hentry).2
  have halike := alike_enter hready (limit - 1) [] closure
  rw [Closure.rename_pastBoxes] at halike
  obtain ⟨earlier, hearlier, hbeside⟩ := halike.reached_nil hreaches
  obtain ⟨hsound, -⟩ := (sound_start hbare hallowed limit []).reaches hearlier
  obtain ⟨old, hmade, hrename⟩ := hbeside.exists_of_holds Function.surjective_id
    hsound.machine_madeOf hsound.waiting_madeOf hholds
  rw [Value.eq_number_of_rename hrename, Value.madeOf_number_iff] at hmade
  exact ⟨_, hmade⟩

end Machine

end StackProse
