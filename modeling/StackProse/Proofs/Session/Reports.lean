import StackProse.Proofs.Machine.Remarks
import StackProse.Proofs.Program.Rejected
import StackProse.Session.Basic

/-!
# What a session reports

The console has two lists: errors in full, and remarks that have a place in the source. They are
read side by side, so an entry of one has to be about the same thing as the entry of the other at
that place.

A program with problems is not run, and each problem makes one entry in each list. A program without
problems is run with both lists empty. What the run adds is one error if it fails, and one remark if
it fails because a word was used before its declaration (`Machine.evaluate_reports`). The session
itself is left as it was by everything that does not run.
-/

namespace StackProse

open Machine

/-- A console that shows problems and nothing else: as errors and, in the same order, as remarks. -/
structure Console.Shows (console : Console) (markup : Markup) (problems : List Problem) :
    Prop where
  output : console.output = ""
  styles : console.styles = #[]
  errors : console.errors.toList = problems.map (·.message markup)
  diagnostics : console.diagnostics.toList = problems.map (·.diagnostic)

/-- How a program that is not refused ends, and what the console shows of it then. -/
def Console.Concludes (console : Console) (markup : Markup) (outcome : Outcome) : Ending → Prop
  | .finished _ => outcome = .completed ∧ console.errors = #[] ∧ console.diagnostics = #[]
  | .stopped => outcome = .stopped ∧ console.errors = #[] ∧ console.diagnostics = #[]
  | .failed fault =>
      outcome = .failed (fault.message markup) ∧ console.errors = #[fault.message markup] ∧
        (console.diagnostics = #[] ∨
          ∃ word : Word, fault.cause = .usedBeforeDeclaration word.name ∧
            console.diagnostics = #[word.remark])

namespace Console

/-- Problems come behind what is shown already, in both lists. -/
theorem reportAll_eq {console : Console} (hrecording : console.recording = true) (markup : Markup)
    (problems : List Problem) :
    console.reportAll markup problems =
      { console with
        errors := console.errors ++ problems.map (·.message markup)
        diagnostics := console.diagnostics ++ problems.map (·.diagnostic) } := by
  induction problems generalizing console with
  | nil => simp [reportAll]
  | cons problem rest ih =>
      have hreport : console.report markup problem =
          { console with
            errors := console.errors.push (problem.message markup)
            diagnostics := console.diagnostics.push problem.diagnostic } := by
        simp [report, addError, addDiagnostic, hrecording]
      have hrest := ih (hreport ▸ hrecording : (console.report markup problem).recording = true)
      rw [reportAll, List.foldl_cons]
      rw [reportAll] at hrest
      rw [hrest, hreport]
      simp

theorem shows_reportAll {console : Console} (hrecording : console.recording = true)
    (markup : Markup) (problems : List Problem) :
    (console.cleared.reportAll markup problems).Shows markup problems := by
  have hcleared : console.cleared.recording = true := hrecording
  rw [reportAll_eq hcleared]
  constructor <;> simp [cleared]

end Console

namespace Session

variable {session : Session} {node : Node}

/-- The problems of a tree: those of the program that it becomes, and the words that nothing
declares. -/
def problems (session : Session) (node : Node) : List Problem :=
  (Program.ofNode true node).problems ++
    ((Program.ofNode true node).root.references isVocabulary session.scope).problems

/-- How the program of a tree runs on a session, if it is not refused. -/
def evaluation (session : Session) (node : Node) : Ending × Machine :=
  session.cleared.ready.evaluate session.limit []
    ⟨(Program.ofNode true node).root, session.frame⟩

/-- A tree without problems can be run, and any other one is refused. -/
theorem prepare_cleared_eq (session : Session) (node : Node) :
    session.cleared.prepare node =
      (if session.problems node = [] then some (Program.ofNode true node).root else none,
        { session with machine := { session.machine with
            console := session.machine.console.cleared.reportAll session.markup
              (session.problems node) } }) := by
  have hrejected := Program.isRejected_eq_false_iff true node
  have hclean := Block.isClean_references_iff isVocabulary session.scope
    (Program.ofNode true node).root
  have hproblems : session.problems node = [] ↔
      ((Program.ofNode true node).isRejected || !((Program.ofNode true node).root.references
        isVocabulary session.scope).isClean) = false := by
    rw [problems, List.append_eq_nil_iff, Bool.or_eq_false_iff, hrejected, ← hclean,
      Bool.not_eq_false']
  unfold prepare
  apply Prod.ext
  · show (if _ then none else some (Program.ofNode true node).root) = _
    by_cases hnone : session.problems node = []
    · rw [if_pos hnone]
      exact if_neg (Bool.eq_false_iff.1 (hproblems.1 hnone))
    · rw [if_neg hnone]
      exact if_pos (Bool.eq_true_of_not_eq_false (mt hproblems.2 hnone))
  · rfl

theorem run_of_problems (h : session.problems node ≠ []) :
    session.run node = (.rejected, { session with machine := { session.machine with
      stack := []
      console := session.machine.console.cleared.reportAll session.markup
        (session.problems node) } }) := by
  unfold run
  rw [prepare_cleared_eq, if_neg h]

/-- A tree without problems is run with nothing on the console. -/
theorem run_of_no_problems (h : session.problems node = []) :
    session.run node =
      match session.evaluation node with
      | (.finished _, machine) => (.completed, { session with machine := machine })
      | (.stopped, machine) => (.stopped, { session with machine := machine })
      | (.failed fault, machine) =>
          (.failed (fault.message session.markup), { session with machine :=
            { machine with
              console := machine.console.addError (fault.message session.markup) } }) := by
  unfold run
  rw [prepare_cleared_eq, if_pos h, h]
  rfl

theorem run_ne_rejected (h : session.problems node = []) : (session.run node).1 ≠ .rejected := by
  rw [run_of_no_problems h]
  split <;> exact nofun

/-- What the console shows after the run of a program without problems. -/
theorem concludes_run (hrecording : session.machine.console.recording = true)
    (h : session.problems node = []) :
    (session.run node).2.machine.console.Concludes session.markup (session.run node).1
      (session.evaluation node).1 := by
  have hreports := evaluate_reports session.limit []
    ⟨(Program.ofNode true node).root, session.frame⟩ session.cleared.ready
  have hready : session.cleared.ready.console.recording = true := hrecording
  rw [run_of_no_problems h]
  change session.cleared.ready.console.SameReports (session.evaluation node).2.console ∨
    ∃ (fault : Fault) (word : Word), (session.evaluation node).1 = .failed fault ∧
      fault.cause = .usedBeforeDeclaration word.name ∧
      (session.cleared.ready.console.addDiagnostic word.remark).SameReports
        (session.evaluation node).2.console at hreports
  generalize session.evaluation node = evaluation at hreports ⊢
  obtain ⟨ending, machine⟩ := evaluation
  rcases hreports with hsame | ⟨fault, word, hfailed, hcause, hsame⟩
  · have herrors : machine.console.errors = #[] := hsame.errors
    have hdiagnostics : machine.console.diagnostics = #[] := hsame.diagnostics
    have hrecords : machine.console.recording = true := hsame.recording.trans hready
    cases ending with
    | finished frame => exact ⟨rfl, herrors, hdiagnostics⟩
    | stopped => exact ⟨rfl, herrors, hdiagnostics⟩
    | failed fault =>
        simp [Console.Concludes, Console.addError, hrecords, herrors, hdiagnostics]
  · obtain rfl : ending = .failed fault := hfailed
    have hremark : session.cleared.ready.console.addDiagnostic word.remark =
        { session.cleared.ready.console with diagnostics := #[word.remark] } := by
      rw [Console.addDiagnostic, if_pos hready]
      rfl
    rw [hremark] at hsame
    have herrors : machine.console.errors = #[] := hsame.errors
    have hdiagnostics : machine.console.diagnostics = #[word.remark] := hsame.diagnostics
    have hrecords : machine.console.recording = true := hsame.recording.trans hready
    refine ⟨rfl, ?_, Or.inr ⟨word, hcause, ?_⟩⟩
    · simp [Console.addError, hrecords, herrors]
    · simp [Console.addError, hrecords, hdiagnostics]

/-! ### Refusing a program -/

/-- A tree is refused as a whole or run, and the two lists of the console stay side by side. -/
structure RefusesOrRuns (session : Session) (node : Node) : Prop where
  /-- A run refuses what a check refuses. -/
  rejected_iff : (session.run node).1 = .rejected ↔ (session.check node).1 = false
  /-- A check refuses what has problems. -/
  refused_iff : (session.check node).1 = false ↔ session.problems node ≠ []
  /-- A check shows the problems and changes nothing else. -/
  checked : ∃ console, Console.Shows console session.markup (session.problems node) ∧
    (session.check node).2 =
      { session with machine := { session.machine with console := console } }
  /-- A run that is refused shows the problems, and changes nothing else but to clear the stack. -/
  rejected : (session.run node).1 = .rejected →
    ∃ console, Console.Shows console session.markup (session.problems node) ∧
      (session.run node).2 =
        { session with machine := { session.machine with stack := [], console := console } }
  /-- Any other run has had no problems to show, and ends as the evaluation does. -/
  concludes : (session.run node).1 ≠ .rejected → session.problems node = [] ∧
    (session.run node).2.machine.console.Concludes session.markup (session.run node).1
      (session.evaluation node).1

theorem refusesOrRuns (session : Session) (hrecording : session.machine.console.recording = true)
    (node : Node) : session.RefusesOrRuns node := by
  have hcheck : session.check node = (decide (session.problems node = []),
      { session with machine := { session.machine with
          console := session.machine.console.cleared.reportAll session.markup
            (session.problems node) } }) := by
    unfold check
    rw [prepare_cleared_eq]
    by_cases hnone : session.problems node = [] <;> simp [hnone]
  have hshows := Console.shows_reportAll hrecording session.markup (session.problems node)
  have hrejected : (session.run node).1 = .rejected ↔ session.problems node ≠ [] := by
    constructor
    · intro hrun hnone
      exact run_ne_rejected hnone hrun
    · intro hsome
      rw [run_of_problems hsome]
  have hrefused : (session.check node).1 = false ↔ session.problems node ≠ [] := by
    rw [hcheck, decide_eq_false_iff_not]
  refine ⟨hrejected.trans hrefused.symm, hrefused, ?_, ?_, ?_⟩
  · rw [hcheck]
    exact ⟨_, hshows, rfl⟩
  · intro hrun
    rw [run_of_problems (hrejected.1 hrun)]
    exact ⟨_, hshows, rfl⟩
  · intro hrun
    have hnone := not_not.1 (mt hrejected.2 hrun)
    exact ⟨hnone, concludes_run hrecording hnone⟩

/-- A tree with three problems, which is refused. -/
def threefold : Node := .ofSource "Print Nope; Let 5; Print (1".toList

/-- A tree without problems, whose program uses a name too early. -/
def hasty : Node := .ofSource "Print X; Let X 1".toList

theorem refusesOrRuns_threefold_hasty :
    (problems {} threefold).length = 3 ∧ RefusesOrRuns {} threefold ∧
      problems {} hasty = [] ∧ RefusesOrRuns {} hasty ∧
      (run {} hasty).2.machine.console.diagnostics.size = 1 := by
  refine ⟨by decide +kernel, refusesOrRuns {} rfl _, by decide +kernel, refusesOrRuns {} rfl _, ?_⟩
  decide +kernel

end Session

end StackProse
