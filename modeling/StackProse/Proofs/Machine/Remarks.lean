import StackProse.Proofs.Machine.Escapes

/-!
# What a run reports

While a program runs it adds nothing to the list of errors, and at most one remark on the source: a
word that is used before its declaration is shown at its place, and the run fails there and then.
Nothing goes on after a fault, so no second remark can follow. `remarks_process` says this of every
run of a block: by what one item does, over the items of a block, and over blocks inside each other.
-/

namespace StackProse

/-- The remark on a word that is used before its declaration. -/
def Word.remark (word : Word) : Diagnostic :=
  ⟨word.span, word.position, "variable used before declaration"⟩

namespace Console

/-- Two consoles show the same errors and the same remarks. -/
structure SameReports (console other : Console) : Prop where
  recording : other.recording = console.recording
  errors : other.errors = console.errors
  diagnostics : other.diagnostics = console.diagnostics

namespace SameReports

theorem refl (console : Console) : console.SameReports console :=
  ⟨rfl, rfl, rfl⟩

theorem trans {console middle other : Console} (h : console.SameReports middle)
    (h' : middle.SameReports other) : console.SameReports other :=
  ⟨h'.recording.trans h.recording, h'.errors.trans h.errors, h'.diagnostics.trans h.diagnostics⟩

theorem addDiagnostic {console other : Console} (h : console.SameReports other)
    (diagnostic : Diagnostic) :
    (console.addDiagnostic diagnostic).SameReports (other.addDiagnostic diagnostic) := by
  by_cases hrecording : console.recording
  · have hother := h.recording.trans hrecording
    rw [Console.addDiagnostic, Console.addDiagnostic, if_pos hrecording, if_pos hother]
    exact ⟨h.recording, h.errors, congrArg (·.push diagnostic) h.diagnostics⟩
  · have hother : ¬ other.recording := by rwa [h.recording]
    rw [Console.addDiagnostic, Console.addDiagnostic, if_neg hrecording, if_neg hother]
    exact h

end SameReports

theorem sameReports_print (console : Console) (piece : StyledText) (newline : Bool) :
    console.SameReports (console.print piece newline) := by
  rw [print]
  split
  · exact ⟨rfl, rfl, rfl⟩
  · exact .refl console

end Console

namespace Machine

open Console

/-- To leave the errors and the remarks as they are. -/
def Manner.silent : Manner where
  change machine after := machine.console.SameReports after.console
  ending _ := True

theorem Manner.isOpen_silent : Manner.silent.IsOpen where
  refl machine := .refl machine.console
  trans _ _ _ := SameReports.trans
  stack machine _ := .refl machine.console
  heap machine _ := .refl machine.console
  frames machine _ := .refl machine.console
  print machine := sameReports_print machine.console
  fault _ _ := trivial
  within _ _ _ := trivial

theorem sameReports_of_allows {α : Type} {machine : Machine}
    {result : EStateM.Result Exit Machine α} (h : Manner.silent.Allows machine result) :
    machine.console.SameReports (final result).console := by
  cases result with
  | ok value after => exact h
  | error exit after => exact h.1

/-- What a computation may report: nothing, or one remark, with which it fails. -/
inductive Remarks {α : Type} (machine : Machine) : EStateM.Result Exit Machine α → Prop
  | none {result : EStateM.Result Exit Machine α} :
      machine.console.SameReports (final result).console → Remarks machine result
  /-- A word is used before its declaration. -/
  | pending {fault : Fault} {after : Machine} (word : Word) :
      fault.cause = .usedBeforeDeclaration word.name →
      (machine.console.addDiagnostic word.remark).SameReports after.console →
      Remarks machine (.error (.fault fault) after)

namespace Remarks

variable {α : Type} {machine middle after : Machine} {result : EStateM.Result Exit Machine α}

theorem of_allows (h : Manner.silent.Allows machine result) : Remarks machine result :=
  .none (sameReports_of_allows h)

/-- What comes before a report does not report anything. -/
theorem after_silence (hmiddle : machine.console.SameReports middle.console)
    (h : Remarks middle result) : Remarks machine result := by
  cases h with
  | none hafter => exact .none (hmiddle.trans hafter)
  | pending word hcause hafter =>
      exact .pending word hcause ((hmiddle.addDiagnostic word.remark).trans hafter)

/-- An early end goes on as one, with the same reports. -/
theorem error {β : Type} {exit : Exit}
    (h : Remarks machine (.error exit after : EStateM.Result Exit Machine α)) :
    Remarks machine (.error exit after : EStateM.Result Exit Machine β) := by
  cases h with
  | none hafter => exact .none hafter
  | pending word hcause hafter => exact .pending word hcause hafter

end Remarks

theorem Purpose.console_restore (purpose : Purpose) (machine : Machine) :
    (purpose.restore machine).console = machine.console := by
  cases purpose <;> rfl

theorem Purpose.console_abandon (purpose : Purpose) (active : List BeginId) (exit : Exit)
    (machine : Machine) :
    (final (purpose.abandon active exit machine)).console = machine.console := by
  rcases purpose.abandon_cases active exit machine with hcaught | ⟨other, hleft, _⟩
  · rw [hcaught]
    rfl
  · rw [hleft]
    exact purpose.console_restore machine

/-- A construct reports nothing when the block in it ends early. -/
theorem Purpose.remarks_abandon {α : Type} {machine after : Machine} {exit : Exit}
    (purpose : Purpose) (active : List BeginId)
    (h : Remarks machine (.error exit after : EStateM.Result Exit Machine α)) :
    Remarks machine (purpose.abandon active exit after) := by
  cases h with
  | none hafter =>
      apply Remarks.none
      rw [purpose.console_abandon]
      exact hafter
  | @pending fault _ word hcause hafter =>
      have hwithin : (fault.within (.word purpose.name)).cause =
          .usedBeforeDeclaration word.name := hcause
      rw [abandon_fault]
      apply Remarks.pending word hwithin
      rw [console_restore]
      exact hafter

/-! ### What an item reports -/

namespace Deed

/-- What may be reported before a block is run for an item, or else by the item. -/
def Remarks (machine : Machine) : Deed → Prop
  | done result => Machine.Remarks machine result
  | enter _ _ _ after => machine.console.SameReports after.console

/-- Nothing is reported, neither by the item nor before a block is run for it. -/
def Silent (machine : Machine) : Deed → Prop
  | done result => machine.console.SameReports (final result).console
  | enter _ _ _ after => machine.console.SameReports after.console

theorem Silent.remarks {machine : Machine} {deed : Deed} (h : deed.Silent machine) :
    deed.Remarks machine := by
  cases deed with
  | done result => exact .none h
  | enter purpose active closure after => exact h

theorem silent_andThen {α : Type} {machine : Machine} {result : EStateM.Result Exit Machine α}
    {next : α → Machine → Deed} (hresult : Manner.silent.Allows machine result)
    (hnext : ∀ value after, machine.console.SameReports after.console →
      (next value after).Silent machine) :
    (andThen next result).Silent machine := by
  cases result with
  | ok value after => exact hnext value after hresult
  | error exit after => exact hresult.1

theorem silent_ofKeyword (scene : Scene) (keyword : Keyword) (machine : Machine) :
    (ofKeyword scene keyword machine).Silent machine := by
  have hopen := Manner.isOpen_silent
  have hplain : (done (within (.word keyword.name) (runPlain scene.frame keyword)
      machine)).Silent machine := by
    apply sameReports_of_allows
    apply KeepsTo.within hopen
    exact hopen.runPlain scene.frame keyword fun _ _ => trivial
  cases keyword with
  | begin =>
      apply silent_andThen (hopen.popBlockFor _ machine)
      intro block popped hpopped
      have hfresh : Manner.silent.Allows machine (freshBegin popped) := hpopped
      apply silent_andThen hfresh
      intro id numbered hnumbered
      apply silent_andThen
      · exact hopen.allows_trans hnumbered (hopen.pushBound escapeName (.escape id) numbered)
      · intro _ pushed hpushed
        exact hpushed
  | list | table =>
      apply silent_andThen (hopen.popBlockFor _ machine)
      intro block popped hpopped
      exact hpopped
  | stop => exact .refl machine.console
  | error => exact sameReports_of_allows (hopen.raise machine)
  | _ => exact hplain

theorem silent_ofVocabulary (scene : Scene) (name : String) (bound : Option Value)
    (machine : Machine) : (ofVocabulary scene name bound machine).Silent machine := by
  have hopen := Manner.isOpen_silent
  unfold ofVocabulary
  cases Keyword.ofName? name with
  | some keyword => exact silent_ofKeyword scene keyword machine
  | none =>
      cases Builtin.ofName? name with
      | some builtin => exact sameReports_of_allows (hopen.runBuiltin builtin machine)
      | none => cases bound <;> exact .refl machine.console

/-- An item reports nothing, or it is a word whose declaration has not run. -/
theorem silent_or_pending_ofItem (scene : Scene) (rest : List Item) (item : Item)
    (machine : Machine) :
    (ofItem scene rest item machine).Silent machine ∨
      ∃ word, item = .word word ∧
        ofItem scene rest item machine = done (failPending scene word machine) := by
  cases item with
  | literal written => exact Or.inl (.refl machine.console)
  | block code => exact Or.inl (.refl machine.console)
  | word word =>
      rw [ofItem]
      by_cases htakes : takesNameBefore rest
      · rw [if_pos htakes]
        exact Or.inl (.refl machine.console)
      · rw [if_neg htakes, ofWord]
        cases machine.frames.lookup scene.frame word.name with
        | none => exact Or.inl (silent_ofVocabulary scene word.name none machine)
        | some binding =>
            cases binding with
            | pending declaration => exact Or.inr ⟨word, rfl, rfl⟩
            | function closure => exact Or.inl (.refl machine.console)
            | value held =>
                exact Or.inl (silent_ofVocabulary scene word.name (some held) machine)
            | escape id => exact Or.inl (.refl machine.console)
            | matcher pattern captures =>
                apply Or.inl
                apply sameReports_of_allows
                apply KeepsTo.within Manner.isOpen_silent
                exact Manner.isOpen_silent.applyMatcher pattern captures

theorem remarks_failPending (scene : Scene) (word : Word) (machine : Machine) :
    Machine.Remarks machine (failPending scene word machine) := by
  unfold failPending
  by_cases huser : scene.userCode
  · rw [if_pos huser]
    exact .pending word rfl (.refl _)
  · rw [if_neg huser]
    exact .none (.refl machine.console)

theorem remarks_ofItem (scene : Scene) (rest : List Item) (item : Item) (machine : Machine) :
    (ofItem scene rest item machine).Remarks machine := by
  rcases silent_or_pending_ofItem scene rest item machine with hsilent | ⟨word, -, hpending⟩
  · exact hsilent.remarks
  · rw [hpending]
    exact remarks_failPending scene word machine

/-- An item reports at most one remark, if the blocks that are run for it do. -/
theorem remarks_perform {runner : Runner}
    (hrunner : ∀ active closure machine, Machine.Remarks machine (runner active closure machine))
    (active : List BeginId) {machine : Machine} {deed : Deed} (h : deed.Remarks machine) :
    Machine.Remarks machine (deed.perform runner active) := by
  cases deed with
  | done result => exact h
  | enter purpose inner closure entered =>
      have hblock := (hrunner inner closure entered).after_silence h
      rw [Deed.perform]
      cases hresult : runner inner closure entered with
      | ok frame after =>
          rw [hresult] at hblock
          cases hblock with
          | none hafter =>
              exact (Remarks.of_allows (Manner.isOpen_silent.resume purpose after)).after_silence
                hafter
      | error exit after =>
          rw [hresult] at hblock
          exact purpose.remarks_abandon active hblock

end Deed

/-! ### What a run reports -/

theorem remarks_runItems {runner : Runner}
    (hrunner : ∀ active closure machine, Remarks machine (runner active closure machine))
    (scene : Scene) (items : List Item) (machine : Machine) :
    Remarks machine (runItems runner scene items machine) := by
  induction items generalizing machine with
  | nil => exact .none (.refl machine.console)
  | cons item rest ih =>
      have hitem := Deed.remarks_perform hrunner scene.active
        (Deed.remarks_ofItem scene rest item machine)
      rw [runItems_cons]
      cases hresult : (Deed.ofItem scene rest item machine).perform runner scene.active with
      | ok _ after =>
          rw [hresult] at hitem
          cases hitem with
          | none hafter => exact (ih after).after_silence hafter
      | error exit after =>
          rw [hresult] at hitem
          exact hitem

theorem remarks_process (room : Nat) (active : List BeginId) (closure : Closure)
    (machine : Machine) : Remarks machine (process room active closure machine) := by
  induction room generalizing active closure machine with
  | zero => exact .none (.refl machine.console)
  | succ room ih =>
      let framed : Machine :=
        { machine with frames := (machine.frames.add (.ofBlock closure.code closure.frame)).2 }
      have hframed : machine.console.SameReports framed.console := .refl machine.console
      have hitems := (remarks_runItems ih
        ⟨machine.frames.all.size, closure.code.userCode, active⟩ closure.code.body
        framed).after_silence hframed
      rw [process_succ]
      generalize runItems _ _ _ _ = result at hitems ⊢
      cases result with
      | ok _ after =>
          cases hitems with
          | none hafter => exact .none hafter
      | error exit after => exact hitems.error

/-- An evaluation reports nothing, or it fails with the one remark that it reports. -/
theorem evaluate_reports (limit : Nat) (active : List BeginId) (closure : Closure)
    (machine : Machine) :
    machine.console.SameReports (evaluate limit active closure machine).2.console ∨
      ∃ (fault : Fault) (word : Word), (evaluate limit active closure machine).1 = .failed fault ∧
        fault.cause = .usedBeforeDeclaration word.name ∧
        (machine.console.addDiagnostic word.remark).SameReports
          (evaluate limit active closure machine).2.console := by
  have hprocess := remarks_process (limit - 1) active closure machine
  rw [evaluate]
  cases hresult : process (limit - 1) active closure machine with
  | ok frame after =>
      rw [hresult] at hprocess
      cases hprocess with
      | none hafter => exact Or.inl hafter
  | error exit after =>
      rw [hresult] at hprocess
      cases hprocess with
      | none hafter => exact Or.inl hafter
      | pending word hcause hafter => exact Or.inr ⟨_, word, rfl, hcause, hafter⟩

end Machine

end StackProse
