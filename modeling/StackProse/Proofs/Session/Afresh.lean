import StackProse.Proofs.Machine.StackBelow
import StackProse.Proofs.Session.Prelude

/-!
# Every run is as if it were the first

Runs of a session share one machine. What one run leaves there stays: boxes, frames and the count of
runs by `Begin`. A later run gets other numbers for its own because of that, and finds nothing else
of it: it starts with an empty stack, a clear console and the frame of the prelude, and that frame is
as the prelude has left it (`Session.After.resembles`).

So the machine before a run is like the machine of a session that has just started
(`Session.alike_ready`), and `Session.runs_do_not_leak` compares the two runs of a source.
-/

namespace StackProse

open Machine

/-! ### Frames that are settled -/

namespace Frames

/-- Frames before the first one that is emptied stay as they are. -/
theorem getElem?_emptyFrom {all : Array Frame} {start place : FrameId} (h : place < start)
    (count : Nat) : (emptyFrom all start count)[place]? = all[place]? := by
  induction count generalizing all start with
  | zero => rfl
  | succ count ih =>
      rw [emptyFrom, ih (Nat.lt_succ_of_lt h), Array.getElem?_modify, if_neg (Nat.ne_of_gt h)]

theorem size_emptyFrom (all : Array Frame) (start count : Nat) :
    (emptyFrom all start count).size = all.size := by
  induction count generalizing all start with
  | zero => rfl
  | succ count ih => rw [emptyFrom, ih, Array.size_modify]

theorem getElem?_emptyFrom_of_le {all : Array Frame} {start place count : Nat}
    (hlow : start ≤ place) (hhigh : place < start + count) :
    (emptyFrom all start count)[place]? = all[place]?.map Frame.emptied := by
  induction count generalizing all start with
  | zero => omega
  | succ count ih =>
      rw [emptyFrom]
      rcases hlow.eq_or_lt with rfl | hlt
      · rw [getElem?_emptyFrom (Nat.lt_succ_self _), Array.getElem?_modify, if_pos rfl]
      · rw [ih hlt (by omega), Array.getElem?_modify, if_neg hlt.ne]

end Frames

namespace Machine

/-! ### Numbers that are taken -/

/-- A machine that holds nothing but the frame of the prelude. -/
structure IsNew (machine : Machine) : Prop where
  stack : machine.stack = []
  heap : machine.heap.cells.size = 0
  begins : machine.begins = 0
  frames : machine.frames.all.size = 1
  prelude : ∀ frame ∈ machine.frames.all[0]?, frame.Defines 0

/-- Zero stays, and all other numbers move up. -/
def movedUp (count number : Nat) : Nat :=
  if number = 0 then 0 else number + count

theorem strictMono_movedUp (count : Nat) : StrictMono (movedUp count) := by
  intro a b h
  unfold movedUp
  split <;> split <;> omega

theorem movedUp_succ (count number : Nat) : movedUp count (1 + number) = 1 + count + number := by
  rw [movedUp, if_neg (by omega)]
  omega

/-- The numbers on a new machine and on another one, where earlier runs have taken the first
numbers. The frame of the prelude has the same number on both. -/
def Likeness.behind (machine other : Machine) : Likeness where
  box id := id + other.heap.cells.size
  frame := movedUp (other.frames.all.size - 1)
  begin id := id + other.begins
  strictMono_box := fun _ _ h => Nat.add_lt_add_right h _
  strictMono_frame := strictMono_movedUp _
  strictMono_begin := fun _ _ h => Nat.add_lt_add_right h _
  settings := machine.settings
  settings' := other.settings

variable {machine other : Machine}

theorem rename_defines {frame : Frame} (h : frame.Defines 0) :
    frame.rename (.behind machine other) = frame := by
  apply Frame.rename_eq_self
  · intro entry hentry
    rcases h.bindings entry hentry with ⟨declaration, hbinding⟩ | ⟨code, hbinding⟩
    all_goals
      rw [hbinding]
      rfl
  · rw [h.parent]
    rfl

/-- A machine with an empty stack and the frame of the prelude is like a new one. -/
theorem IsNew.alike (h : machine.IsNew) (hstack : other.stack = [])
    (hprelude : other.frames.all[0]? = machine.frames.all[0]?)
    (hconsole : other.console = machine.console) (hengine : other.engine = machine.engine) :
    Alike (.behind machine other) [] machine other where
  stack := by rw [hstack, h.stack]; rfl
  heap := by
    refine ⟨fun id => ?_, fun count => ?_⟩
    · have hnone : machine.heap.get? id = none := Array.getElem?_eq_none (h.heap ▸ Nat.zero_le id)
      rw [hnone]
      exact Array.getElem?_eq_none (Nat.le_add_left _ _)
    · rw [h.heap, Nat.zero_add]
      exact Nat.add_comm count _
  frames := by
    have hfound : ∃ frame, machine.frames.all[0]? = some frame :=
      ⟨_, Array.getElem?_eq_getElem (by rw [h.frames]; exact Nat.zero_lt_one)⟩
    obtain ⟨frame, hframe⟩ := hfound
    have hsize : 1 + (other.frames.all.size - 1) = other.frames.all.size := by
      have hless := (Array.getElem?_eq_some_iff.1 (hprelude.trans hframe)).1
      omega
    refine ⟨fun id => ?_, fun count => ?_⟩
    · cases id with
      | zero =>
          change other.frames.all[0]? = _
          rw [hprelude, hframe, Option.map_some, rename_defines (h.prelude frame hframe)]
      | succ id =>
          have hnone : machine.frames.all[id + 1]? = none :=
            Array.getElem?_eq_none (by rw [h.frames]; exact Nat.le_add_left 1 id)
          have hmoved : other.frames.all.size ≤ movedUp (other.frames.all.size - 1) (id + 1) := by
            rw [Nat.add_comm id, movedUp_succ, hsize]
            exact Nat.le_add_right _ _
          rw [hnone]
          exact Array.getElem?_eq_none hmoved
    · rw [h.frames]
      exact (movedUp_succ _ count).trans (congrArg (· + count) hsize)
  begins count := by
    rw [h.begins, Nat.zero_add]
    exact Nat.add_comm count _
  console := hconsole
  engine := hengine
  settings := rfl
  settings' := rfl

end Machine

/-! ### Consoles -/

namespace Console

theorem recording_addError (console : Console) (message : String) :
    (console.addError message).recording = console.recording := by
  rw [addError]
  split <;> rfl

theorem recording_addDiagnostic (console : Console) (diagnostic : Diagnostic) :
    (console.addDiagnostic diagnostic).recording = console.recording := by
  rw [addDiagnostic]
  split <;> rfl

theorem recording_reportAll (markup : Markup) (console : Console) (problems : List Problem) :
    (console.reportAll markup problems).recording = console.recording := by
  rw [reportAll]
  induction problems generalizing console with
  | nil => rfl
  | cons problem rest ih =>
      rw [List.foldl_cons, ih, report, recording_addDiagnostic, recording_addError]

end Console

namespace Session

variable {fresh session : Session} {source : List Char}

/-- What a session makes of the result of a run. -/
def conclude (session : Session) : EStateM.Result Exit Machine FrameId → Outcome × Session
  | .ok _ machine => (.completed, { session with machine := machine })
  | .error exit machine =>
      match endingOf exit with
      | .failed fault =>
          let message := fault.message session.markup
          (.failed message,
            { session with
              machine := { machine with console := machine.console.addError message } })
      | _ => (.stopped, { session with machine := machine })

/-- An accepted source is run, and the session goes on from the result. -/
theorem Accepts.run_eq (h : session.Accepts source) :
    session.run (.ofSource source) = session.conclude
      (process (session.limit - 1) [] ⟨(Program.ofSource true source).root, session.frame⟩
        session.cleared.ready) := by
  rw [run, h.prepare_eq]
  dsimp only [evaluate]
  rw [limit_cleared, frame_cleared]
  cases process (session.limit - 1) [] ⟨(Program.ofSource true source).root, session.frame⟩
      session.cleared.ready with
  | ok frame machine => rfl
  | error exit machine => cases exit <;> rfl

/-- A session has the settings of another one, and its prelude has left the same. -/
structure Resembles (session fresh : Session) : Prop where
  limit : session.limit = fresh.limit
  markup : session.markup = fresh.markup
  scope : session.scope = fresh.scope
  frame : session.frame = fresh.frame
  prelude : session.machine.frames.all[0]? = fresh.machine.frames.all[0]?
  settled : 0 < session.machine.frames.settled
  recording : session.machine.console.recording = fresh.machine.console.recording
  engine : session.machine.engine = fresh.machine.engine

/-- A session that has just started. -/
structure IsFresh (session : Session) : Prop where
  machine : session.machine.IsNew
  settled : session.machine.frames.settled = 1
  frame : session.frame = some 0

theorem isFresh_start {limit : Nat} {markup : Markup} {console : Console} {engine : Engine}
    (h : Session.start limit markup console preludeSource.toList engine = .ok session) :
    session.IsFresh := by
  obtain ⟨frames, last, hmachine, hframe, hsize, hlast, hdefines, -⟩ := exists_of_start_prelude h
  refine ⟨?_, ?_, hframe⟩
  · rw [hmachine]
    refine ⟨rfl, rfl, rfl, hsize, ?_⟩
    intro frame hframe
    cases hlast.symm.trans hframe
    exact hdefines
  · rw [hmachine]
    exact hsize

theorem IsFresh.resembles (h : fresh.IsFresh) : fresh.Resembles fresh :=
  ⟨rfl, rfl, rfl, rfl, rfl, h.settled ▸ Nat.zero_lt_one, rfl, rfl⟩

/-- A session goes on with another machine. -/
theorem Resembles.withMachine (h : session.Resembles fresh) {machine : Machine}
    (hprelude : machine.frames.all[0]? = session.machine.frames.all[0]?)
    (hsettled : 0 < machine.frames.settled)
    (hrecording : machine.console.recording = session.machine.console.recording)
    (hengine : machine.engine = session.machine.engine) :
    Resembles { session with machine := machine } fresh :=
  ⟨h.limit, h.markup, h.scope, h.frame, hprelude.trans h.prelude, hsettled,
    hrecording.trans h.recording, hengine.trans h.engine⟩

theorem exists_conclude (session : Session) (result : EStateM.Result Exit Machine FrameId) :
    ∃ console : Console, console.recording = (final result).console.recording ∧
      (session.conclude result).2 =
        { session with machine := { final result with console := console } } := by
  cases result with
  | ok frame machine => exact ⟨machine.console, rfl, rfl⟩
  | error exit machine =>
      cases exit with
      | stop => exact ⟨machine.console, rfl, rfl⟩
      | fault | escape => exact ⟨_, Console.recording_addError _ _, rfl⟩

/-- Of the frames from number `first` on, those that runs before the last one have used bind
nothing. -/
def Emptied (session : Session) (first : Nat) : Prop :=
  ∀ (id : Nat) (frame : Frame), first ≤ id → id < session.machine.frames.settled →
    session.machine.frames.all[id]? = some frame → frame.emptied = frame

/-- Before the next run the frames of the last one bind nothing either. -/
theorem Emptied.getElem?_ready {first id : Nat} (h : session.Emptied first)
    (hid : first ≤ id) : session.cleared.ready.frames.all[id]? =
      session.machine.frames.all[id]?.map Frame.emptied := by
  change (Frames.emptyFrom session.machine.frames.all session.machine.frames.settled
    (session.machine.frames.all.size - session.machine.frames.settled))[id]? = _
  by_cases hsettled : id < session.machine.frames.settled
  · rw [Frames.getElem?_emptyFrom hsettled]
    cases hframe : session.machine.frames.all[id]? with
    | none => rfl
    | some frame => exact congrArg some (h id frame hid hsettled hframe).symm
  · by_cases hsize : id < session.machine.frames.all.size
    · exact Frames.getElem?_emptyFrom_of_le (by omega) (by omega)
    · rw [Array.getElem?_eq_none (by rw [Frames.size_emptyFrom]; omega),
        Array.getElem?_eq_none (by omega)]
      rfl

theorem After.emptied {first : Nat} (h : fresh.After session)
    (hfresh : fresh.machine.frames.settled ≤ first) : session.Emptied first := by
  induction h with
  | refl =>
      intro id frame hid hsettled
      omega
  | check source _ ih => exact ih
  | @run session source _ ih =>
      by_cases haccepts : session.Accepts source
      · rw [haccepts.run_eq]
        have hkept := process_keptIn (session.limit - 1) []
          ⟨(Program.ofSource true source).root, session.frame⟩ session.cleared.ready
        have hsettings := settings_process (session.limit - 1) []
          ⟨(Program.ofSource true source).root, session.frame⟩ session.cleared.ready
        generalize process (session.limit - 1) [] ⟨(Program.ofSource true source).root,
          session.frame⟩ session.cleared.ready = result at hkept hsettings ⊢
        obtain ⟨console, -, hconclude⟩ := session.exists_conclude result
        rw [hconclude]
        intro id frame hid hsettled hframe
        have hold : (final result).frames.settled = session.machine.frames.all.size :=
          congrArg Settings.settled hsettings
        have hsize : id < session.machine.frames.all.size := by
          rw [← hold]
          exact hsettled
        -- the frame was there before the run, and the run has left it as it was
        have hbefore := ih.getElem?_ready hid
        rw [Array.getElem?_eq_getElem hsize] at hbefore
        cases (hkept id _ hbefore).symm.trans hframe
        rfl
      · rw [run_eq_rejected haccepts]
        exact ih

/-- The frame of the prelude is still there before a run. -/
theorem Resembles.getElem?_ready (h : session.Resembles fresh) :
    session.cleared.ready.frames.all[0]? = fresh.machine.frames.all[0]? :=
  (Frames.getElem?_emptyFrom h.settled _).trans h.prelude

theorem IsFresh.exists_prelude (h : fresh.IsFresh) :
    ∃ frame, fresh.machine.frames.all[0]? = some frame :=
  ⟨_, Array.getElem?_eq_getElem (by rw [h.machine.frames]; exact Nat.zero_lt_one)⟩

/-- A session resembles the one it started as, whatever it has run and checked. -/
theorem After.resembles (h : fresh.After session) (hfresh : fresh.IsFresh) :
    session.Resembles fresh := by
  induction h with
  | refl => exact hfresh.resembles
  | @check session source _ ih =>
      exact ih.withMachine rfl ih.settled (Console.recording_reportAll _ _ _) rfl
  | @run session source _ ih =>
      by_cases haccepts : session.Accepts source
      · rw [haccepts.run_eq]
        obtain ⟨frame, hframe⟩ := hfresh.exists_prelude
        have hready := ih.getElem?_ready.trans hframe
        have hkept := process_keptIn (session.limit - 1) []
          ⟨(Program.ofSource true source).root, session.frame⟩ session.cleared.ready
        have hsettings := settings_process (session.limit - 1) []
          ⟨(Program.ofSource true source).root, session.frame⟩ session.cleared.ready
        generalize process (session.limit - 1) [] ⟨(Program.ofSource true source).root,
          session.frame⟩ session.cleared.ready = result at hkept hsettings ⊢
        obtain ⟨console, hrecording, hconclude⟩ := session.exists_conclude result
        rw [hconclude]
        refine ih.withMachine ?_ ?_ ?_ (congrArg Settings.engine hsettings)
        · exact (hkept 0 frame hready).trans (ih.prelude.trans hframe).symm
        · have hsettled : (final result).frames.settled = session.machine.frames.all.size :=
            congrArg Settings.settled hsettings
          rw [hsettled]
          exact (Array.getElem?_eq_some_iff.1 (ih.prelude.trans hframe)).1
        · exact hrecording.trans (congrArg Settings.recording hsettings)
      · rw [run_eq_rejected haccepts]
        exact ih.withMachine rfl ih.settled (Console.recording_reportAll _ _ _) rfl

theorem Resembles.accepts_iff (h : session.Resembles fresh) :
    session.Accepts source ↔ fresh.Accepts source := by
  rw [Session.accepts_iff, Session.accepts_iff, h.scope]

theorem Resembles.console_eq (h : session.Resembles fresh) :
    session.machine.console.cleared = fresh.machine.console.cleared := by
  rw [Console.cleared, Console.cleared, h.recording]

/-- The numbers of a first run and of a later one. -/
def likeness (fresh session : Session) : Likeness :=
  .behind fresh.cleared.ready session.cleared.ready

theorem IsFresh.isNew_ready (h : fresh.IsFresh) : fresh.cleared.ready.IsNew := by
  have hframes : fresh.cleared.ready.frames.all = fresh.machine.frames.all := by
    change Frames.emptyFrom fresh.machine.frames.all fresh.machine.frames.settled
      (fresh.machine.frames.all.size - fresh.machine.frames.settled) = _
    rw [h.settled, h.machine.frames]
    rfl
  refine ⟨rfl, h.machine.heap, h.machine.begins, ?_, ?_⟩
  · rw [hframes]
    exact h.machine.frames
  · rw [hframes]
    exact h.machine.prelude

/-- The machine before a run is like that of a session which has just started. -/
theorem Resembles.alike_ready (h : session.Resembles fresh) (hfresh : fresh.IsFresh) :
    Alike (likeness fresh session) [] fresh.cleared.ready session.cleared.ready :=
  hfresh.isNew_ready.alike rfl (h.getElem?_ready.trans hfresh.resembles.getElem?_ready.symm)
    h.console_eq h.engine

theorem Resembles.frame_rename (h : session.Resembles fresh) (hfresh : fresh.IsFresh) :
    fresh.frame.map (likeness fresh session).frame = session.frame := by
  rw [h.frame, hfresh.frame]
  rfl

/-- Results that belong together give the same outcome, and machines that are alike. -/
theorem conclude_alike {like : Likeness} (h : session.Resembles fresh)
    {result result' : EStateM.Result Exit Machine FrameId} {alike : FrameId → FrameId → Prop}
    (hresult : Agrees like [] alike result result') :
    (session.conclude result').1 = (fresh.conclude result).1 ∧
      Alike like [] (fresh.conclude result).2.machine (session.conclude result').2.machine := by
  cases hresult with
  | ok _ hmachines => exact ⟨rfl, hmachines⟩
  | short hbelow => exact absurd rfl hbelow
  | error exit hmachines =>
      have hending : endingOf (exit.rename like) = endingOf exit := by
        cases exit <;> rfl
      simp only [conclude, hending, h.markup]
      cases endingOf exit with
      | finished | stopped => exact ⟨rfl, hmachines⟩
      | failed fault =>
          dsimp only
          rw [hmachines.console]
          exact ⟨rfl, hmachines.withConsole (Console.recording_addError _ _)⟩

/-- Runs do not leak into each other. Whatever a session with the prelude has run and checked, the run
of a source ends as it does in a session that has just started, with the same error if it fails, and
everything that is shown is the same: the output with its styles, the errors and the remarks on the
source, and the text of the stack. What the two runs leave is the same but for the numbers of boxes,
frames and runs by `Begin`, and these are in the same order. -/
theorem runs_do_not_leak {limit : Nat} {markup : Markup} {console : Console} {engine : Engine}
    (hstart : Session.start limit markup console preludeSource.toList engine = .ok fresh)
    (hafter : fresh.After session) (source : List Char) :
    (session.run (.ofSource source)).1 = (fresh.run (.ofSource source)).1 ∧
      (session.run (.ofSource source)).2.machine.console =
        (fresh.run (.ofSource source)).2.machine.console ∧
      (session.run (.ofSource source)).2.machine.heap.stackText
          (session.run (.ofSource source)).2.machine.stack =
        (fresh.run (.ofSource source)).2.machine.heap.stackText
          (fresh.run (.ofSource source)).2.machine.stack ∧
      ∃ like, Alike like [] (fresh.run (.ofSource source)).2.machine
        (session.run (.ofSource source)).2.machine := by
  have hfresh := isFresh_start hstart
  have hresembles := hafter.resembles hfresh
  suffices halike : (session.run (.ofSource source)).1 = (fresh.run (.ofSource source)).1 ∧
      ∃ like, Alike like [] (fresh.run (.ofSource source)).2.machine
        (session.run (.ofSource source)).2.machine by
    obtain ⟨houtcome, like, halike⟩ := halike
    refine ⟨houtcome, halike.console, ?_, like, halike⟩
    rw [halike.stack, List.append_nil]
    exact halike.heap.stackText_rename _
  by_cases haccepts : fresh.Accepts source
  · have hagrees := agrees_process_nil (hresembles.alike_ready hfresh) (fresh.limit - 1) []
      ⟨(Program.ofSource true source).root, fresh.frame⟩
    rw [Closure.rename, hresembles.frame_rename hfresh, List.map_nil] at hagrees
    rw [(hresembles.accepts_iff.2 haccepts).run_eq, haccepts.run_eq, hresembles.limit]
    obtain ⟨houtcome, halike⟩ := conclude_alike hresembles hagrees
    exact ⟨houtcome, _, halike⟩
  · rw [run_eq_rejected (mt hresembles.accepts_iff.1 haccepts), run_eq_rejected haccepts,
      hresembles.console_eq, hresembles.markup, hresembles.scope]
    refine ⟨rfl, _, IsNew.alike ⟨rfl, hfresh.machine.heap, hfresh.machine.begins,
      hfresh.machine.frames, hfresh.machine.prelude⟩ rfl hresembles.prelude rfl
      hresembles.engine⟩

/-- A run that makes boxes and frames and then fails, and the check of a source that is refused, come
before a run that prints a box. -/
theorem runs_do_not_leak_after_failure : ∃ fresh session,
    Session.start Limit.default .plain {} preludeSource.toList = .ok fresh ∧
      fresh.After session ∧
      session = ((fresh.run (.ofSource "Begin (Let X be Box 1; Error \"no\")".toList)).2.check
        (.ofSource "Nowhere".toList)).2 ∧
      (session.run (.ofSource "Print Box Box 2".toList)).1 =
        (fresh.run (.ofSource "Print Box Box 2".toList)).1 ∧
      (session.run (.ofSource "Print Box Box 2".toList)).2.machine.console =
        (fresh.run (.ofSource "Print Box Box 2".toList)).2.machine.console := by
  have hlimit : 2 ≤ Limit.default := by decide
  obtain ⟨fresh, hstart⟩ := exists_start_prelude hlimit .plain {} Pattern.engine
  have hbegun : fresh.After fresh := .refl
  have hafter := (hbegun.run "Begin (Let X be Box 1; Error \"no\")".toList).check "Nowhere".toList
  obtain ⟨houtcome, hconsole, _⟩ := runs_do_not_leak hstart hafter "Print Box Box 2".toList
  exact ⟨fresh, _, hstart, hafter, rfl, houtcome, hconsole⟩

end Session

end StackProse
