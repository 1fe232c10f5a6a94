import StackProse.Proofs.Machine.Plain

/-!
# What an item does about `Begin`

Each run of a block by `Begin` has a number of its own, and a block that leaves it ends early with
that number. This module finds out which items deal with such numbers. Words that run no blocks do
not (`Manner.steady`): they give out no numbers, and where they end early, it is by a fault.
`Deed.outcome_ofItem` puts together what any item can do: it is steady, it leaves a block because a
name is bound to that, or it runs a block, inside of the same runs by `Begin` or inside of a new
one.
-/

namespace StackProse.Machine

/-! ### Computations that have nothing to do with `Begin` -/

/-- To give out no numbers and leave no block that has one. -/
def Manner.steady : Manner where
  change machine after := after.begins = machine.begins
  ending exit := ∀ id, exit ≠ .escape id

theorem Manner.isOpen_steady : Manner.steady.IsOpen where
  refl _ := rfl
  trans _ _ _ hmiddle hafter := Eq.trans hafter hmiddle
  stack _ _ := rfl
  heap _ _ := rfl
  frames _ _ := rfl
  print _ _ _ := rfl
  fault _ _ := nofun
  within _ _ _ := nofun

theorem Manner.allowsUnbound_steady : Manner.steady.AllowsUnbound :=
  fun _ => nofun

/-- A result that comes with no new numbers and leaves no block that has one. -/
abbrev StaysAt {α : Type} (machine : Machine) (result : EStateM.Result Exit Machine α) : Prop :=
  Manner.steady.Allows machine result

theorem staysAt_stop {α : Type} (machine : Machine) :
    StaysAt machine (.error .stop machine : EStateM.Result Exit Machine α) :=
  ⟨rfl, fun _ => Exit.noConfusion⟩

theorem staysAt_failPending (scene : Scene) (word : Word) (machine : Machine) :
    StaysAt machine (failPending scene word machine) := by
  have hfail : KeepsTo .steady (fail (.usedBeforeDeclaration word.name) : Run Unit) :=
    .fail Manner.isOpen_steady trivial
  have hfailPending : KeepsTo .steady (failPending scene word) :=
    .ite (.bind Manner.isOpen_steady (.modify fun _ => rfl) fun _ => hfail) hfail
  exact hfailPending machine

theorem StaysAt.begins_eq {α : Type} {machine : Machine} {result : EStateM.Result Exit Machine α}
    (h : StaysAt machine result) : (final result).begins = machine.begins := by
  cases result with
  | ok value after => exact h
  | error exit after => exact h.1

theorem Purpose.staysAt_resume (purpose : Purpose) (machine : Machine) :
    StaysAt machine (purpose.resume machine) :=
  Manner.isOpen_steady.resume purpose machine

/-! ### What an item can do -/

/-- The number of the run by `Begin` that a block is run for. -/
def Purpose.begin? : Purpose → Option BeginId
  | begin id => some id
  | call _ | list _ | table _ => none

/-- The frame that is made for a block that leaves a run by `Begin`. -/
def escapeFrame (id : BeginId) : Frame :=
  { bindings := [(escapeName, .escape id)] }

namespace Deed

/-- What can come of an item, as far as `Begin` is concerned. -/
inductive Outcome (scene : Scene) (rest : List Item) (item : Item) (machine : Machine) :
    Deed → Prop
  /-- The item is done and has nothing to do with it. -/
  | steady {result : EStateM.Result Exit Machine Unit} : StaysAt machine result →
      Outcome scene rest item machine (done result)
  /-- The item is a word that is bound to leaving a block. -/
  | escape {word : Word} {id : BeginId} : item = .word word → takesNameBefore rest = false →
      machine.frames.lookup scene.frame word.name = some (.escape id) →
      Outcome scene rest item machine (done (.error (.escape id) machine))
  /-- A block is run for something else. -/
  | block {purpose : Purpose} {closure : Closure} {after : Machine} : purpose.begin? = none →
      after.begins = machine.begins →
      Outcome scene rest item machine (enter purpose scene.active closure after)
  /-- A block is run that can be left. It gets the next number, and the block that leaves it is on
  top of the stack. -/
  | begin {closure : Closure} {below : List Value} :
      machine.stack = .block closure.code closure.frame :: below →
      Outcome scene rest item machine (enter (.begin (machine.begins + 1))
        ((machine.begins + 1) :: scene.active) closure { machine with
          stack := .block (wordBlock escapeName) (some machine.frames.all.size) :: below
          begins := machine.begins + 1
          frames := (machine.frames.add (escapeFrame (machine.begins + 1))).2 })

variable {scene : Scene} {rest : List Item} {item : Item} {machine : Machine}

/-- A construct that runs a block goes on with the block on top of the stack, or fails. -/
theorem outcome_popBlockFor {name : String} {next : Closure → Machine → Deed}
    (hnext : ∀ closure below, machine.stack = .block closure.code closure.frame :: below →
      Outcome scene rest item machine (next closure { machine with stack := below })) :
    Outcome scene rest item machine (andThen next (popBlockFor name machine)) := by
  have hstays := Manner.isOpen_steady.popBlockFor name machine
  cases hresult : popBlockFor name machine with
  | error exit after =>
      rw [hresult] at hstays
      exact .steady hstays
  | ok closure after =>
      obtain ⟨stack, heap, frames, begins, console, engine⟩ := machine
      cases stack with
      | nil => cases hresult
      | cons value below =>
          cases value with
          | block code frame =>
              cases hresult
              exact hnext ⟨code, frame⟩ below rfl
          | _ => cases hresult

theorem outcome_ofKeyword (keyword : Keyword) :
    Outcome scene rest item machine (ofKeyword scene keyword machine) := by
  have hplain := (Manner.isOpen_steady.runPlain scene.frame keyword fun _ =>
    Manner.allowsUnbound_steady).within Manner.isOpen_steady (.word keyword.name) machine
  cases keyword with
  | begin => exact outcome_popBlockFor fun closure below hstack => .begin hstack
  | list | table => exact outcome_popBlockFor fun closure below _ => .block rfl rfl
  | stop => exact .steady (staysAt_stop machine)
  | error => exact .steady (Manner.isOpen_steady.raise machine)
  | _ => exact .steady hplain

theorem outcome_ofVocabulary (name : String) (bound : Option Value) :
    Outcome scene rest item machine (ofVocabulary scene name bound machine) := by
  unfold ofVocabulary
  cases Keyword.ofName? name with
  | some keyword => exact outcome_ofKeyword keyword
  | none =>
      cases Builtin.ofName? name with
      | some builtin => exact .steady (Manner.isOpen_steady.runBuiltin builtin machine)
      | none =>
          cases bound with
          | some value => exact .steady (KeepsTo.push Manner.isOpen_steady value machine)
          | none => exact .steady ⟨rfl, nofun⟩

theorem outcome_ofItem (scene : Scene) (rest : List Item) (item : Item) (machine : Machine) :
    Outcome scene rest item machine (ofItem scene rest item machine) := by
  cases item with
  | literal written => exact .steady (KeepsTo.push Manner.isOpen_steady _ machine)
  | block code => exact .steady (KeepsTo.push Manner.isOpen_steady _ machine)
  | word word =>
      rw [ofItem]
      by_cases htakes : takesNameBefore rest
      · rw [if_pos htakes]
        exact .steady (KeepsTo.push Manner.isOpen_steady _ machine)
      · rw [if_neg htakes, ofWord]
        cases hlookup : machine.frames.lookup scene.frame word.name with
        | none => exact outcome_ofVocabulary word.name none
        | some binding =>
            cases binding with
            | pending declaration => exact .steady (staysAt_failPending scene word machine)
            | function closure => exact .block rfl rfl
            | value held => exact outcome_ofVocabulary word.name (some held)
            | escape id => exact .escape rfl (eq_false_of_ne_true htakes) hlookup
            | matcher pattern captures =>
                exact .steady ((Manner.isOpen_steady.applyMatcher pattern captures).within
                  Manner.isOpen_steady _ machine)

end Deed

end StackProse.Machine
