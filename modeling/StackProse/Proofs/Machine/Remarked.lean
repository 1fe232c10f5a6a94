import StackProse.Proofs.Machine.Discipline
import StackProse.Proofs.Machine.Remarks

/-!
# The words that are remarked on

A remark is made on a word of the block that runs, and only if a user wrote the block. That is what one
step can report (`Moment.reports_next`). So if all words of such blocks are good to be remarked on, all
remarks of a run are good ones (`Moment.Sound.forall_diagnostics`).
-/

namespace StackProse

theorem Console.forall_addDiagnostic {good : Diagnostic → Prop} {console : Console}
    {diagnostic : Diagnostic} (h : ∀ each ∈ console.diagnostics, good each)
    (hdiagnostic : good diagnostic) :
    ∀ each ∈ (console.addDiagnostic diagnostic).diagnostics, good each := by
  rw [addDiagnostic]
  split
  · intro each heach
    rcases Array.mem_push.1 heach with hold | rfl
    · exact h each hold
    · exact hdiagnostic
  · exact h

namespace Machine

/-- A word that is used too early is remarked on if a user wrote it. -/
theorem sameReports_failPending (scene : Scene) (word : Word) (machine : Machine) :
    machine.console.SameReports (final (failPending scene word machine)).console ∨
      scene.userCode = true ∧ (machine.console.addDiagnostic word.remark).SameReports
        (final (failPending scene word machine)).console := by
  unfold failPending
  by_cases huser : scene.userCode
  · rw [if_pos huser]
    exact Or.inr ⟨huser, .refl _⟩
  · rw [if_neg huser]
    exact Or.inl (.refl machine.console)

namespace Moment

variable {moment later : Moment} {top : Activation} {waiting : List (Purpose × Activation)}
  {result : EStateM.Result Exit Machine Unit}

/-! ### What one step reports -/

theorem console_enter (room : Nat) (active : List BeginId) (closure : Closure)
    (waiting : List (Purpose × Activation)) (machine : Machine) :
    (enter room active closure waiting machine).machine.console = machine.console := by
  cases room <;> rfl

/-- The end of a block reports nothing. -/
theorem sameReports_finish (waiting : List (Purpose × Activation))
    (result : EStateM.Result Exit Machine FrameId) :
    (final result).console.SameReports (finish waiting result).machine.console := by
  cases waiting with
  | nil => exact .refl _
  | cons entry waiting =>
      obtain ⟨purpose, outer⟩ := entry
      cases result with
      | ok frame machine =>
          rw [finish, machine_settle]
          exact sameReports_of_allows (Manner.isOpen_silent.resume purpose machine)
      | error exit machine =>
          rw [finish, machine_settle, purpose.console_abandon]
          exact .refl _

/-- A step reports nothing, or it makes a remark on a word of the running block, which a user wrote. -/
theorem reports_next (hnext : moment.Next later) :
    moment.machine.console.SameReports later.machine.console ∨
      ∃ activation ∈ moment.activations, ∃ word, .word word ∈ activation.rest ∧
        activation.scene.userCode = true ∧
        (moment.machine.console.addDiagnostic word.remark).SameReports later.machine.console := by
  cases moment with
  | running top waiting machine =>
      obtain ⟨code, scene, room, items⟩ := top
      cases items with
      | nil =>
          obtain rfl := Option.some.inj hnext
          exact Or.inl (sameReports_finish waiting (.ok scene.frame machine))
      | cons item rest =>
          obtain rfl := Option.some.inj hnext
          rcases Deed.silent_or_pending_ofItem scene rest item machine with
            hsilent | ⟨word, rfl, hpending⟩
          · apply Or.inl
            cases hdeed : Deed.ofItem scene rest item machine with
            | done result =>
                rw [hdeed] at hsilent
                rw [after, machine_settle]
                exact hsilent
            | enter purpose active closure entered =>
                rw [hdeed] at hsilent
                rw [after, console_enter]
                exact hsilent
          · rw [hpending, after, machine_settle]
            refine (sameReports_failPending scene word machine).imp_right fun hremark => ?_
            exact ⟨_, List.mem_cons_self, word, List.mem_cons_self, hremark⟩
  | leaving exit waiting machine =>
      obtain rfl := Option.some.inj hnext
      exact Or.inl (sameReports_finish waiting (.error exit machine))
  | ended result => exact absurd hnext not_next_ended

/-! ### Who wrote the blocks that run -/

/-- Every block that has begun runs as one that a user wrote exactly if it is one. -/
def Marked (moment : Moment) : Prop :=
  ∀ activation ∈ moment.activations, activation.scene.userCode = activation.code.userCode

theorem marked_enter (room : Nat) (active : List BeginId) (closure : Closure) {machine : Machine}
    (h : ∀ entry ∈ waiting, entry.2.scene.userCode = entry.2.code.userCode) :
    (enter room active closure waiting machine).Marked := by
  cases room with
  | zero => exact List.forall_mem_map.2 h
  | succ room => exact List.forall_mem_cons.2 ⟨rfl, List.forall_mem_map.2 h⟩

theorem marked_settle (htop : top.scene.userCode = top.code.userCode)
    (h : ∀ entry ∈ waiting, entry.2.scene.userCode = entry.2.code.userCode) :
    (settle top waiting result).Marked := by
  cases result with
  | ok _ machine => exact List.forall_mem_cons.2 ⟨htop, List.forall_mem_map.2 h⟩
  | error exit machine => exact List.forall_mem_map.2 h

theorem marked_finish {result : EStateM.Result Exit Machine FrameId}
    (h : ∀ entry ∈ waiting, entry.2.scene.userCode = entry.2.code.userCode) :
    (finish waiting result).Marked := by
  cases waiting with
  | nil => exact List.forall_mem_nil _
  | cons entry waiting =>
      rw [List.forall_mem_cons] at h
      cases result <;> exact marked_settle h.1 h.2

theorem Marked.next (h : moment.Marked) (hnext : moment.Next later) : later.Marked := by
  cases moment with
  | running top waiting machine =>
      obtain ⟨code, scene, room, items⟩ := top
      obtain ⟨htop, hwaiting⟩ := List.forall_mem_cons.1 h
      rw [List.forall_mem_map] at hwaiting
      cases items with
      | nil =>
          obtain rfl := Option.some.inj hnext
          exact marked_finish hwaiting
      | cons item rest =>
          obtain rfl := Option.some.inj hnext
          cases Deed.ofItem scene rest item machine with
          | done result => exact marked_settle htop hwaiting
          | enter purpose active closure entered =>
              exact marked_enter room active closure (List.forall_mem_cons.2 ⟨htop, hwaiting⟩)
  | leaving exit waiting machine =>
      obtain rfl := Option.some.inj hnext
      exact marked_finish (List.forall_mem_map.1 h)
  | ended result => exact absurd hnext not_next_ended

/-! ### What a run reports -/

variable {discipline : Discipline} {good : Diagnostic → Prop}

/-- If a discipline allows only blocks whose words are good to be remarked on where a user wrote them,
all remarks of a run are good ones. -/
theorem Sound.forall_diagnostics
    (hgood : ∀ frames code frame, discipline.seat frames code frame → code.userCode = true →
      ∀ word, .word word ∈ code.body → good word.remark)
    (hsound : moment.Sound discipline) (hmarked : moment.Marked)
    (hdiagnostics : ∀ each ∈ moment.machine.console.diagnostics, good each)
    (hreaches : Reaches moment later) :
    ∀ each ∈ later.machine.console.diagnostics, good each := by
  have hall : later.Marked ∧ ∀ each ∈ later.machine.console.diagnostics, good each := by
    induction hreaches with
    | refl => exact ⟨hmarked, hdiagnostics⟩
    | @tail middle later hmiddle hnext ih =>
        obtain ⟨hmarked, hdiagnostics⟩ := ih
        refine ⟨hmarked.next hnext, ?_⟩
        rcases reports_next hnext with hsame | ⟨activation, hactivation, word, hword, huser, hsame⟩
        · rw [hsame.diagnostics]
          exact hdiagnostics
        · obtain ⟨hseat, before, declared, hinStep⟩ :=
            (hsound.reaches hmiddle).1.activations activation hactivation
          have hbody : .word word ∈ activation.code.body := by
            rw [hinStep.body]
            exact List.mem_append_right _ hword
          rw [hmarked activation hactivation] at huser
          rw [hsame.diagnostics]
          exact Console.forall_addDiagnostic hdiagnostics (hgood _ _ _ hseat huser word hbody)
  exact hall.2

end Moment

end Machine

end StackProse
