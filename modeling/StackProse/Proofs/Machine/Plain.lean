import StackProse.Proofs.Machine.Moments

/-!
# Words that run no blocks

Most words run no blocks. They change the stack, the heap and the frames, they print, and where they
end early it is by a fault whose cause is what they find on the stack. This module goes through
these words once. A `Manner` says what a computation may do and how it may end early; if it is
open to those few things (`Manner.IsOpen`), every such word keeps to it. What single properties of
words come down to is then what is special about their manner.

`Set` is the one word here that looks up a name, the bare name that it finds on the stack. It keeps
to a manner that lets it fail because the name is not bound.
-/

namespace StackProse

/-- The cause is what a word finds on the stack, and neither a name that is not bound nor the blocks
that are under way. -/
def Fault.Cause.IsLocal : Fault.Cause → Prop
  | .unknownSymbol _ | .callStackOverflow | .escapedBegin => False
  | _ => True

namespace Machine

/-- What a computation may do: what it may make of a machine, and how it may end early. -/
structure Manner where
  change : Machine → Machine → Prop
  ending : Exit → Prop

namespace Manner

/-- Words that run no blocks can keep to the manner. -/
structure IsOpen (manner : Manner) : Prop where
  refl : ∀ machine, manner.change machine machine
  trans : ∀ machine middle after, manner.change machine middle → manner.change middle after →
    manner.change machine after
  stack : ∀ machine stack, manner.change machine { machine with stack := stack }
  heap : ∀ machine heap, manner.change machine { machine with heap := heap }
  frames : ∀ machine frames, manner.change machine { machine with frames := frames }
  print : ∀ machine piece newline,
    manner.change machine { machine with console := machine.console.print piece newline }
  fault : ∀ fault, fault.cause.IsLocal → manner.ending (.fault fault)
  within : ∀ fault context, manner.ending (.fault fault) →
    manner.ending (.fault (fault.within context))

/-- The manner lets `Set` fail because a name is not bound. -/
def AllowsUnbound (manner : Manner) : Prop :=
  ∀ name, manner.ending (.fault ⟨.unknownSymbol name, []⟩)

/-- A result that keeps to the manner, from a machine on. -/
def Allows {α : Type} (manner : Manner) (machine : Machine) :
    EStateM.Result Exit Machine α → Prop
  | .ok _ after => manner.change machine after
  | .error exit after => manner.change machine after ∧ manner.ending exit

end Manner

/-- A computation that keeps to a manner. -/
def KeepsTo {α : Type} (manner : Manner) (run : Run α) : Prop :=
  ∀ machine : Machine, manner.Allows machine (run machine)

variable {manner : Manner} {α β : Type}

theorem Manner.IsOpen.allows_trans (hopen : manner.IsOpen) {machine middle : Machine}
    {result : EStateM.Result Exit Machine α} (hchange : manner.change machine middle)
    (hresult : manner.Allows middle result) : manner.Allows machine result := by
  cases result with
  | ok value after => exact hopen.trans _ _ _ hchange hresult
  | error exit after => exact ⟨hopen.trans _ _ _ hchange hresult.1, hresult.2⟩

/-! ### Steps of computations -/

namespace KeepsTo

theorem pure (hopen : manner.IsOpen) (result : α) : KeepsTo manner (Pure.pure result) :=
  hopen.refl

theorem get (hopen : manner.IsOpen) : KeepsTo manner (MonadState.get : Run Machine) :=
  hopen.refl

theorem modify {change : Machine → Machine}
    (h : ∀ machine, manner.change machine (change machine)) :
    KeepsTo manner (modify change : Run Unit) :=
  h

theorem throw (hopen : manner.IsOpen) {exit : Exit} (h : manner.ending exit) :
    KeepsTo manner (MonadExcept.throw exit : Run α) := by
  intro machine
  exact ⟨hopen.refl machine, h⟩

theorem fail (hopen : manner.IsOpen) {cause : Fault.Cause} (h : cause.IsLocal) :
    KeepsTo manner (Machine.fail cause : Run α) :=
  throw hopen (hopen.fault _ h)

theorem bind (hopen : manner.IsOpen) {run : Run α} {next : α → Run β} (hrun : KeepsTo manner run)
    (hnext : ∀ result, KeepsTo manner (next result)) : KeepsTo manner (run >>= next) := by
  intro machine
  have hallows := hrun machine
  rw [bind_apply]
  cases hresult : run machine with
  | ok result after =>
      rw [hresult] at hallows
      exact hopen.allows_trans hallows (hnext result after)
  | error exit after =>
      rw [hresult] at hallows
      exact hallows

theorem ite {condition : Prop} [Decidable condition] {yes no : Run α} (hyes : KeepsTo manner yes)
    (hno : KeepsTo manner no) : KeepsTo manner (if condition then yes else no) := by
  split
  · exact hyes
  · exact hno

theorem within (hopen : manner.IsOpen) {run : Run α} (hrun : KeepsTo manner run)
    (context : Fault.Context) : KeepsTo manner (Machine.within context run) := by
  intro machine
  have hallows := hrun machine
  rw [Machine.within]
  cases hresult : run machine with
  | ok result after =>
      rw [hresult] at hallows
      exact hallows
  | error exit after =>
      rw [hresult] at hallows
      cases exit with
      | fault fault => exact ⟨hallows.1, hopen.within fault context hallows.2⟩
      | stop | escape => exact hallows

theorem push (hopen : manner.IsOpen) (value : Value) : KeepsTo manner (Machine.push value) :=
  modify fun machine => hopen.stack machine _

theorem pop (hopen : manner.IsOpen) (expected : String) :
    KeepsTo manner (Machine.pop expected) := by
  intro machine
  rw [Machine.pop]
  cases machine.stack with
  | nil => exact ⟨hopen.refl machine, hopen.fault _ trivial⟩
  | cons value rest => exact hopen.stack machine rest

theorem popAs (hopen : manner.IsOpen) (expected : String) (kind : Kind)
    (as? : Value → Option α) : KeepsTo manner (Machine.popAs expected kind as?) := by
  apply bind hopen (pop hopen expected)
  intro value
  cases as? value with
  | none => exact fail hopen trivial
  | some result => exact pure hopen result

end KeepsTo

/-! ### Builtin words -/

namespace Manner.IsOpen

variable (hopen : manner.IsOpen)

include hopen

theorem popOperands (taken : Operands) (params : List Param) :
    KeepsTo manner (popOperands taken params) := by
  induction params generalizing taken with
  | nil => exact .pure hopen _
  | cons param rest ih =>
      apply KeepsTo.bind hopen (.pop hopen _)
      intro value
      exact .ite (ih _) (.fail hopen trivial)

theorem chooseOverload (builtin : Builtin) (overloads : List Signature) :
    KeepsTo manner (chooseOverload builtin overloads) := by
  intro machine
  rw [Machine.chooseOverload]
  cases machine.stack with
  | nil => exact ⟨hopen.refl machine, hopen.fault _ trivial⟩
  | cons first rest =>
      dsimp only
      split
      · exact hopen.stack machine rest
      · exact ⟨hopen.stack machine rest, hopen.fault _ trivial⟩

theorem applySignature (name : String) (signature : Signature) (operands : Operands) :
    KeepsTo manner (applySignature name signature operands) := by
  rw [Machine.applySignature]
  cases signature.apply operands with
  | ok result => exact .push hopen result
  | error failure =>
      apply KeepsTo.bind hopen (.get hopen)
      intro machine
      exact .throw hopen (hopen.fault _ trivial)

theorem runBuiltin (builtin : Builtin) : KeepsTo manner (runBuiltin builtin) := by
  rw [Machine.runBuiltin]
  cases builtin.choice with
  | inl signature =>
      apply KeepsTo.bind hopen (hopen.popOperands _ _)
      intro operands
      exact hopen.applySignature _ _ operands
  | inr overloads =>
      apply KeepsTo.bind hopen (hopen.chooseOverload builtin overloads)
      intro chosen
      apply KeepsTo.bind hopen (hopen.popOperands _ _)
      intro operands
      exact hopen.applySignature _ _ operands

/-! ### Patterns -/

theorem pushBound (name : String) (binding : Binding) :
    KeepsTo manner (pushBound name binding) := by
  have hframe : KeepsTo manner (addFrame { bindings := [(name, binding)] }) :=
    fun machine => hopen.frames machine _
  apply KeepsTo.bind hopen hframe
  intro frame
  exact .push hopen _

theorem makeMatcher (captures : Bool) : KeepsTo manner (makeMatcher captures) := by
  apply KeepsTo.bind hopen (.popAs hopen _ _ _)
  intro text
  have hempty : KeepsTo manner (Machine.fail (.failed "empty regex is invalid") : Run PUnit) :=
    .fail hopen trivial
  refine .ite (.bind hopen hempty fun _ => ?_) ?_
  all_goals
    refine .bind hopen hopen.refl fun machine => ?_
    cases machine.engine.compile text with
    | ok pattern => exact hopen.pushBound _ _
    | error reason => exact .fail hopen trivial

theorem applyMatcher (pattern : Matcher) (captures : Bool) :
    KeepsTo manner (applyMatcher pattern captures) := by
  apply KeepsTo.bind hopen (.popAs hopen _ _ _)
  intro text
  apply KeepsTo.ite _ (.push hopen _)
  cases pattern.captures? text with
  | none => exact .push hopen _
  | some groups => exact .modify fun machine => hopen.stack machine _

/-! ### Keywords -/

theorem popBox (hunbound : manner.AllowsUnbound) (frame : FrameId) :
    KeepsTo manner (popBox frame) := by
  have hlookup (name : String) : KeepsTo manner (lookup frame name) := hopen.refl
  have hnamed (name : String) : KeepsTo manner (boxNamed frame name) := by
    apply KeepsTo.bind hopen (hlookup name)
    intro found
    split
    · exact .pure hopen _
    · exact .fail hopen trivial
    · exact .fail hopen trivial
    · exact .fail hopen trivial
    · exact .throw hopen (hunbound name)
  apply KeepsTo.bind hopen (.pop hopen _)
  intro value
  split
  · exact hnamed _
  · exact .pure hopen _
  · exact .fail hopen trivial

theorem openBox : KeepsTo manner openBox := by
  apply KeepsTo.bind hopen (.popAs hopen _ _ _)
  intro id
  apply KeepsTo.bind hopen (.get hopen)
  intro machine
  cases machine.heap.get? id with
  | none => exact .fail hopen trivial
  | some value => exact .push hopen value

theorem makeBox : KeepsTo manner makeBox := by
  apply KeepsTo.bind hopen (.pop hopen _)
  intro value
  apply KeepsTo.modify
  intro machine
  exact hopen.trans _ _ _ (hopen.heap machine _) (hopen.stack _ _)

theorem requireKind (kind : Kind) : KeepsTo manner (requireKind kind) := by
  apply KeepsTo.bind hopen (.get hopen)
  intro machine
  cases machine.stack with
  | nil => exact .fail hopen trivial
  | cons value rest => exact .ite (.fail hopen trivial) (.pure hopen _)

theorem runPlain (frame : FrameId) (keyword : Keyword)
    (hunbound : keyword = .assign → manner.AllowsUnbound) :
    KeepsTo manner (runPlain frame keyword) := by
  have hpop (expected : String) : KeepsTo manner (pop expected) := .pop hopen expected
  have hname : KeepsTo manner (popAs "identifier" .identifier name?) := .popAs hopen _ _ _
  have hbind (name : String) (binding : Binding) : KeepsTo manner (bind frame name binding) :=
    .modify fun machine => hopen.frames machine _
  cases keyword with
  | define =>
      exact .bind hopen hname fun name => .bind hopen (.popAs hopen _ _ _) fun body => hbind _ _
  | bind => exact .bind hopen hname fun name => .bind hopen (hpop _) fun value => hbind _ _
  | assign =>
      apply KeepsTo.bind hopen (hopen.popBox (hunbound rfl) frame)
      intro id
      apply KeepsTo.bind hopen (hpop _)
      intro value
      exact .modify fun machine => hopen.heap machine _
  | box => exact hopen.makeBox
  | unbox => exact hopen.openBox
  | stack | clear => exact .modify fun machine => hopen.stack machine _
  | toText =>
      exact .bind hopen (hpop _) fun value => .bind hopen (.get hopen) fun _ => .push hopen _
  | print | put =>
      exact .bind hopen (hpop _) fun value => .modify fun machine => hopen.print machine _ _
  | pattern => exact hopen.makeMatcher false
  | capture => exact hopen.makeMatcher true
  | test kind => exact .bind hopen (hpop _) fun value => .push hopen _
  | require kind => exact hopen.requireKind kind
  | list | table | error | stop | begin => exact .pure hopen _

theorem raise : KeepsTo manner raise := by
  apply KeepsTo.bind hopen ((KeepsTo.popAs hopen _ _ _).within hopen _)
  intro text
  exact .fail hopen trivial

/-! ### What is done around blocks -/

theorem popBlockFor (name : String) : KeepsTo manner (popBlockFor name) :=
  (KeepsTo.popAs hopen _ _ _).within hopen _

theorem makeTable (items : List Value) : KeepsTo manner (makeTable items) := by
  have hodd : KeepsTo manner
      (Machine.fail (.failed "Table initializer must be key-value pairs") : Run PUnit) :=
    .fail hopen trivial
  refine KeepsTo.within hopen (.ite (.bind hopen hodd fun _ => ?_) ?_) _
  all_goals
    cases tableOf .empty items.reverse with
    | ok table => exact .push hopen _
    | error failure => exact .bind hopen (.get hopen) fun _ => .fail hopen trivial

theorem resume (purpose : Purpose) : KeepsTo manner purpose.resume := by
  intro machine
  cases purpose with
  | call | begin => exact hopen.refl machine
  | list below => exact hopen.stack machine _
  | table below =>
      exact hopen.allows_trans (hopen.stack machine below) (hopen.makeTable machine.stack _)

end Manner.IsOpen

end Machine

end StackProse
