import StackProse.Proofs.Machine.Escapes
import StackProse.Proofs.Session.Afresh

/-!
# Leaving blocks in a session

`Session.begins_are_scoped` says of every run that the blocks which `Begin` runs are left as they
should be (`Machine.ScopedBegins`). A fault for leaving such a block too late names the constructs
around that place. There are none if the outermost block of the run has left it, and then the early
end leaves the whole run. In the runs of a session this does not happen
(`Machine.ContainedBegins`): sources run in the frame of the prelude, no name that leaves a block is
seen from it when the prelude has run, and none gets there later (`Session.After.closed`).

A block that leaves another one can outlive its run, in a box of the prelude. Its frame is empty when
the next run begins, so that it is an unknown symbol which fails there (`Session.After.emptied`).
`Session.left_over_blocks_fail_otherwise` has an example of each.
-/

namespace StackProse

open Machine

namespace Frames

theorem seals_emptyFrom (all : Array Frame) (start : FrameId) (count : Nat) (frames later : Frames)
    (hframes : frames.all = all) (hlater : later.all = emptyFrom all start count) :
    frames.Seals later := by
  induction count generalizing all start frames with
  | zero =>
      apply KeptIn.seals
      intro id frame hframe
      rw [hlater, emptyFrom, ← hframes]
      exact hframe
  | succ count ih =>
      have hrest := ih (all.modify start Frame.emptied) (start + 1)
        { all := all.modify start Frame.emptied } rfl hlater
      refine Seals.trans ?_ hrest
      intro id frame hframe
      rw [hframes] at hframe
      by_cases hid : start = id
      · refine ⟨frame.emptied, ?_, rfl, by simp [Frame.emptied]⟩
        simp [Array.getElem?_modify, hid, hframe]
      · refine ⟨frame, ?_, rfl, fun _ _ hentry => hentry⟩
        simp [Array.getElem?_modify, hid, hframe]

theorem seals_release (frames : Frames) : frames.Seals frames.release :=
  seals_emptyFrom frames.all frames.settled (frames.all.size - frames.settled) frames _ rfl rfl

end Frames

namespace Session

variable {session first : Session}

/-- The frame in which sources run is there, and nothing is seen from it that leaves a block. -/
def Closed (session : Session) : Prop :=
  ∀ place ∈ session.frame,
    place < session.machine.frames.all.size ∧ session.machine.frames.Bare place

theorem Closed.seals (h : session.Closed) {machine : Machine}
    (hseals : session.machine.frames.Seals machine.frames) :
    Closed { session with machine := machine } := by
  intro place hplace
  obtain ⟨hless, hbare⟩ := h place hplace
  exact ⟨hless.trans_le hseals.size_le, hbare.seals hless hseals⟩

theorem seals_ready (session : Session) :
    session.machine.frames.Seals session.cleared.ready.frames :=
  session.machine.frames.seals_release

theorem After.closed (h : first.After session) (hfirst : first.Closed) : session.Closed := by
  induction h with
  | refl => exact hfirst
  | check source _ ih =>
      obtain ⟨console, hcheck⟩ := check_eq _ source
      rw [hcheck]
      exact ih.seals (Frames.KeptIn.refl _).seals
  | @run session source _ ih =>
      by_cases haccepts : session.Accepts source
      · obtain ⟨result, console, hended, hrun⟩ := haccepts.exists_ended
        rw [hrun]
        apply ih.seals
        have hstart := (Moment.keptIn_enter (session.limit - 1) []
          ⟨(Program.ofSource true source).root, session.frame⟩ [] session.cleared.ready).seals
        exact (session.seals_ready.trans hstart).trans (Moment.Reaches.seals hended)
      · obtain ⟨console, hrun⟩ := run_eq_of_not_accepts haccepts
        rw [hrun]
        exact ih.seals (Frames.KeptIn.refl _).seals

end Session

end StackProse
