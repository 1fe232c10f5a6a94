import StackProse.Proofs.Machine.Moments
import StackProse.Proofs.Value.Contents

/-!
# What a machine holds

The values of a machine are on its stack, in its boxes and in the bindings of its frames. This
module follows them through the work of the machine: what a computation leaves is made of what was
there (`Calm`), and the frames that were there stay as they are.

Only the two declaring words change a frame. `Deed.quiet_or_declares` says so of every item: either
the item leaves all frames as they are, or it is a declaring word that takes a name and a value from
the stack and binds them in the frame of its block.
-/

namespace StackProse

/-- What a binding holds is made of what is allowed. -/
def Binding.MadeOf (allowed : Ingredients) : Binding → Prop
  | .function closure => allowed.closure closure
  | .value held => held.MadeOf allowed
  | .pending _ | .escape _ | .matcher _ _ => True

theorem Binding.MadeOf.mono {allowed other : Ingredients} {binding : Binding}
    (h : binding.MadeOf allowed) (hnumber : ∀ n, allowed.number n → other.number n)
    (hclosure : ∀ closure, allowed.closure closure → other.closure closure) :
    binding.MadeOf other := by
  cases binding with
  | function closure => exact hclosure closure h
  | value held => exact Value.MadeOf.mono h hnumber hclosure
  | pending | escape | matcher => trivial

/-- The binding that a declaration makes of a value. -/
def Declaration.binding? : Declaration → Value → Option Binding
  | function, .block code frame => some (.function ⟨code, frame⟩)
  | function, _ => none
  | value, held => some (.value held)

theorem Declaration.madeOf_binding? {allowed : Ingredients} {declaration : Declaration}
    {held : Value} {binding : Binding} (hheld : held.MadeOf allowed)
    (h : declaration.binding? held = some binding) : binding.MadeOf allowed := by
  cases declaration with
  | value =>
      obtain rfl := Option.some.inj h
      exact hheld
  | function =>
      cases held with
      | block code frame =>
          obtain rfl := Option.some.inj h
          exact Value.madeOf_block_iff.1 hheld
      | _ => simp [Declaration.binding?] at h

namespace Frames

/-- The frames are all found later as they are. -/
def KeptIn (frames later : Frames) : Prop :=
  ∀ (id : FrameId) (frame : Frame), frames.all[id]? = some frame → later.all[id]? = some frame

theorem KeptIn.refl (frames : Frames) : frames.KeptIn frames :=
  fun _ _ h => h

theorem KeptIn.trans {frames later last : Frames} (h : frames.KeptIn later)
    (h' : later.KeptIn last) : frames.KeptIn last :=
  fun id frame hframe => h' id frame (h id frame hframe)

theorem keptIn_add (frames : Frames) (frame : Frame) : frames.KeptIn (frames.add frame).2 := by
  intro id old hold
  have hid : id < frames.all.size := (Array.getElem?_eq_some_iff.1 hold).1
  rw [add, Array.getElem?_push_lt hid]
  exact (Array.getElem?_eq_getElem hid).symm.trans hold

end Frames

namespace Machine

/-- Everything that a machine holds is made of what is allowed. -/
structure MadeOf (allowed : Ingredients) (machine : Machine) : Prop where
  stack : ∀ value ∈ machine.stack, value.MadeOf allowed
  heap : ∀ value ∈ machine.heap.cells, value.MadeOf allowed
  frames : ∀ frame ∈ machine.frames.all, ∀ entry ∈ frame.bindings, entry.2.MadeOf allowed

/-- A machine keeps to what is allowed and keeps the frames of an earlier one. -/
structure Follows (allowed : Ingredients) (machine after : Machine) : Prop where
  madeOf : after.MadeOf allowed
  kept : machine.frames.KeptIn after.frames

/-- A block that the machine makes itself. -/
def IsMade (code : Block) : Prop :=
  code = wordBlock escapeName ∨ code = wordBlock matcherName

/-- What the machine can make by itself is allowed, where it starts with the frames `frames` and leaves
the frames `later`: results, and a block whose word it has bound in a frame that it has added. -/
structure Complete (allowed : Ingredients) (frames later : Frames) : Prop
    extends allowed.Computed where
  made : ∀ name binding, IsMade (wordBlock name) →
    later = (frames.add { bindings := [(name, binding)] }).2 →
      allowed.closure ⟨wordBlock name, some frames.all.size⟩

section

variable {allowed other : Ingredients} {machine after last : Machine}

theorem MadeOf.mono (h : machine.MadeOf allowed)
    (hnumber : ∀ n, allowed.number n → other.number n)
    (hclosure : ∀ closure, allowed.closure closure → other.closure closure) :
    machine.MadeOf other where
  stack value hvalue := (h.stack value hvalue).mono hnumber hclosure
  heap value hvalue := (h.heap value hvalue).mono hnumber hclosure
  frames frame hframe entry hentry := (h.frames frame hframe entry hentry).mono hnumber hclosure

theorem madeOf_anything (machine : Machine) : machine.MadeOf .anything where
  stack value _ := value.madeOf_anything
  heap value _ := value.madeOf_anything
  frames _ _ entry _ := by
    cases entry.2 with
    | value held => exact held.madeOf_anything
    | pending | function | escape | matcher => trivial

theorem complete_anything {frames later : Frames} : Complete .anything frames later := by
  constructor
  · constructor <;> exact fun _ => by simp [Ingredients.anything]
  · exact fun _ _ _ _ => trivial

theorem MadeOf.follows (h : machine.MadeOf allowed) : machine.Follows allowed machine :=
  ⟨h, .refl _⟩

theorem Follows.trans (h : machine.Follows allowed after) (h' : after.Follows allowed last) :
    machine.Follows allowed last :=
  ⟨h'.madeOf, h.kept.trans h'.kept⟩

/-- A change of the stack alone. -/
theorem MadeOf.withStack (h : machine.MadeOf allowed) {stack : List Value}
    (hstack : ∀ value ∈ stack, value.MadeOf allowed) :
    machine.Follows allowed { machine with stack := stack } :=
  ⟨⟨hstack, h.heap, h.frames⟩, .refl _⟩

theorem MadeOf.withConsole (h : machine.MadeOf allowed) (console : Console) :
    machine.Follows allowed { machine with console := console } :=
  ⟨⟨h.stack, h.heap, h.frames⟩, .refl _⟩

/-- A change of boxes alone. -/
theorem MadeOf.withHeap (h : machine.MadeOf allowed) {heap : Heap}
    (hheap : ∀ value ∈ heap.cells, value.MadeOf allowed) :
    machine.Follows allowed { machine with heap := heap } :=
  ⟨⟨h.stack, hheap, h.frames⟩, .refl _⟩

/-- A new frame. -/
theorem MadeOf.addFrame (h : machine.MadeOf allowed) {frame : Frame}
    (hframe : ∀ entry ∈ frame.bindings, entry.2.MadeOf allowed) :
    machine.Follows allowed { machine with frames := (machine.frames.add frame).2 } := by
  refine ⟨⟨h.stack, h.heap, ?_⟩, Frames.keptIn_add _ _⟩
  intro old hold
  rcases Array.mem_push.1 hold with hold | rfl
  · exact h.frames old hold
  · exact hframe

theorem mem_bindIn {name : String} {binding : Binding} {bindings : List (String × Binding)}
    {entry : String × Binding} (h : entry ∈ Frame.bindIn name binding bindings) :
    entry = (name, binding) ∨ entry ∈ bindings := by
  induction bindings with
  | nil => exact Or.inl (List.mem_singleton.1 h)
  | cons first rest ih =>
      obtain ⟨found, held⟩ := first
      simp only [Frame.bindIn] at h
      by_cases hname : found = name
      · rw [if_pos hname] at h
        exact (List.mem_cons.1 h).imp_right (List.mem_cons_of_mem _)
      · rw [if_neg hname] at h
        rcases List.mem_cons.1 h with rfl | h
        · exact Or.inr List.mem_cons_self
        · exact (ih h).imp_right (List.mem_cons_of_mem _)

/-- A new binding. -/
theorem MadeOf.bind (h : machine.MadeOf allowed) {binding : Binding}
    (hbinding : binding.MadeOf allowed) (place : FrameId) (name : String) :
    MadeOf allowed { machine with frames := machine.frames.bind place name binding } := by
  refine ⟨h.stack, h.heap, ?_⟩
  intro frame hframe entry hentry
  obtain ⟨id, hid⟩ := Array.getElem?_of_mem hframe
  simp only [Frames.bind, Array.getElem?_modify] at hid
  by_cases hplace : place = id
  · rw [if_pos hplace] at hid
    obtain ⟨old, hold, rfl⟩ := Option.map_eq_some_iff.1 hid
    rcases mem_bindIn hentry with rfl | hentry
    · exact hbinding
    · exact h.frames old (Array.mem_of_getElem? hold) entry hentry
  · rw [if_neg hplace] at hid
    exact h.frames frame (Array.mem_of_getElem? hid) entry hentry

/-- Bindings that are looked up are held. -/
theorem MadeOf.lookup (h : machine.MadeOf allowed) {id : FrameId} {name : String}
    {binding : Binding} (hlookup : machine.frames.lookup id name = some binding) :
    binding.MadeOf allowed := by
  induction id using Nat.strong_induction_on with
  | _ id ih =>
      rw [Frames.lookup] at hlookup
      cases hframe : machine.frames.all[id]? with
      | none => simp [hframe] at hlookup
      | some frame =>
          simp only [hframe] at hlookup
          cases hbinding : frame.bindings.lookup name with
          | some found =>
              simp only [hbinding, Option.some.injEq] at hlookup
              subst hlookup
              obtain ⟨before, rest, hbindings, _⟩ := List.lookup_eq_some_iff.1 hbinding
              have hentry : (name, found) ∈ frame.bindings := by simp [hbindings]
              exact h.frames frame (Array.mem_of_getElem? hframe) (name, found) hentry
          | none =>
              simp only [hbinding] at hlookup
              cases hparent : frame.parent with
              | none => simp [hparent] at hlookup
              | some parent =>
                  simp only [hparent] at hlookup
                  by_cases hless : parent < id
                  · exact ih parent hless (by simpa [hless] using hlookup)
                  · simp [hless] at hlookup

end

/-! ### Computations that bind nothing -/

/-- A result is as asked, and the machine that comes with it follows the one before. -/
def Ends {α : Type} (allowed : Ingredients) (machine : Machine) (good : α → Prop) :
    EStateM.Result Exit Machine α → Prop
  | .ok result after => good result ∧ machine.Follows allowed after
  | .error _ after => machine.Follows allowed after

theorem Follows.ends {α : Type} {allowed : Ingredients} {machine after : Machine} {good : α → Prop}
    {result : EStateM.Result Exit Machine α} (h : machine.Follows allowed after)
    (hresult : Ends allowed after good result) : Ends allowed machine good result := by
  cases result with
  | ok value last => exact ⟨hresult.1, h.trans hresult.2⟩
  | error exit last => exact h.trans hresult

theorem Ends.within {α : Type} {allowed : Ingredients} {machine : Machine} {good : α → Prop}
    {run : Run α} (h : Ends allowed machine good (run machine)) (context : Fault.Context) :
    Ends allowed machine good (Machine.within context run machine) := by
  rw [Machine.within]
  cases hresult : run machine with
  | ok result after =>
      rw [hresult] at h
      exact h
  | error exit after =>
      rw [hresult] at h
      cases exit <;> exact h

theorem final_within {α : Type} (context : Fault.Context) (run : Run α) (machine : Machine) :
    final (within context run machine) = final (run machine) := by
  rw [within]
  cases run machine with
  | ok result after => rfl
  | error exit after => cases exit <;> rfl

theorem Ends.kept {α : Type} {allowed : Ingredients} {machine : Machine} {good : α → Prop}
    {result : EStateM.Result Exit Machine α} (h : Ends allowed machine good result) :
    machine.frames.KeptIn (final result).frames := by
  cases result with
  | ok value after => exact h.2.kept
  | error exit after => exact Follows.kept h

/-- A computation that keeps to what is allowed, leaves all frames as they are, and gives results
that are as asked. -/
def Calm {α : Type} (allowed : Ingredients) (good : α → Prop) (run : Run α) : Prop :=
  ∀ machine : Machine, machine.MadeOf allowed → Ends allowed machine good (run machine)

namespace Calm

variable {α β : Type} {allowed : Ingredients} {good : α → Prop} {better : β → Prop}

theorem pure {result : α} (h : good result) : Calm allowed good (Pure.pure result) :=
  fun _ hmachine => ⟨h, hmachine.follows⟩

theorem throw (exit : Exit) : Calm allowed good (MonadExcept.throw exit) :=
  fun _ hmachine => hmachine.follows

theorem fail (cause : Fault.Cause) : Calm allowed good (Machine.fail cause) :=
  throw _

theorem bind {run : Run α} {next : α → Run β} (hrun : Calm allowed good run)
    (hnext : ∀ result, good result → Calm allowed better (next result)) :
    Calm allowed better (run >>= next) := by
  intro machine hmachine
  have hends := hrun machine hmachine
  rw [bind_apply]
  cases hresult : run machine with
  | error exit after =>
      rw [hresult] at hends
      exact hends
  | ok result after =>
      rw [hresult] at hends
      obtain ⟨hgood, hfollows⟩ := hends
      exact hfollows.ends (hnext result hgood after hfollows.madeOf)

/-- Where the next step does not need to know what it goes on from. -/
theorem andThen {run : Run α} {next : α → Run β} (hrun : Calm allowed (fun _ => True) run)
    (hnext : ∀ result, Calm allowed better (next result)) : Calm allowed better (run >>= next) :=
  hrun.bind fun result _ => hnext result

theorem ite {condition : Prop} [Decidable condition] {yes no : Run α}
    (hyes : Calm allowed good yes) (hno : Calm allowed good no) :
    Calm allowed good (if condition then yes else no) := by
  split
  · exact hyes
  · exact hno

theorem within {run : Run α} (hrun : Calm allowed good run) (context : Fault.Context) :
    Calm allowed good (Machine.within context run) :=
  fun machine hmachine => (hrun machine hmachine).within context

theorem modify {change : Machine → Machine}
    (hchange : ∀ machine : Machine, machine.MadeOf allowed →
      machine.Follows allowed (change machine)) :
    Calm allowed (fun _ => True) (modify change) :=
  fun machine hmachine => ⟨trivial, hchange machine hmachine⟩

/-- The machine that is looked at is one that keeps to what is allowed. -/
theorem get : Calm allowed (fun machine : Machine => machine.MadeOf allowed) MonadState.get :=
  fun _ hmachine => ⟨hmachine, hmachine.follows⟩

theorem push {value : Value} (hvalue : value.MadeOf allowed) :
    Calm allowed (fun _ => True) (Machine.push value) :=
  .modify fun _ hmachine =>
    hmachine.withStack (List.forall_mem_cons.2 ⟨hvalue, hmachine.stack⟩)

theorem pop (expected : String) : Calm allowed (Value.MadeOf allowed) (Machine.pop expected) := by
  intro machine hmachine
  rw [Machine.pop]
  cases hstack : machine.stack with
  | nil => exact hmachine.follows
  | cons value rest =>
      have hrest := hmachine.stack
      rw [hstack, List.forall_mem_cons] at hrest
      exact ⟨hrest.1, hmachine.withStack hrest.2⟩

theorem popAs {expected : String} {kind : Kind} {as? : Value → Option α}
    (has : ∀ value result, value.MadeOf allowed → as? value = some result → good result) :
    Calm allowed good (Machine.popAs expected kind as?) := by
  refine .bind (.pop expected) fun value hvalue => ?_
  cases hresult : as? value with
  | none => exact .fail _
  | some result => exact .pure (has value result hvalue hresult)

/-- Where nothing needs to be known of what is popped. -/
theorem popAs_any {expected : String} {kind : Kind} {as? : Value → Option α} :
    Calm allowed (fun _ => True) (Machine.popAs expected kind as?) :=
  .popAs fun _ _ _ _ => trivial

theorem popClosure (expected : String) :
    Calm allowed allowed.closure (Machine.popClosure expected) := by
  refine .popAs fun value closure hvalue hclosure => ?_
  cases value with
  | block code frame =>
      obtain rfl := Option.some.inj hclosure
      exact Value.madeOf_block_iff.1 hvalue
  | _ => simp [closure?] at hclosure

end Calm

/-! ### Words that run no blocks -/

section

variable {allowed : Ingredients} {machine : Machine}

theorem calm_popOperands {taken : Operands} (htaken : ∀ value ∈ taken, value.MadeOf allowed)
    (params : List Param) :
    Calm allowed (fun operands => ∀ value ∈ operands, Value.MadeOf allowed value)
      (popOperands taken params) := by
  induction params generalizing taken with
  | nil => exact .pure fun value hvalue => htaken value (List.mem_reverse.1 hvalue)
  | cons param rest ih =>
      refine .bind (.pop _) fun value hvalue => .ite ?_ (.fail _)
      exact ih (List.forall_mem_cons.2 ⟨hvalue, htaken⟩)

theorem calm_chooseOverload (builtin : Builtin) (overloads : List Signature) :
    Calm allowed (fun chosen => chosen.1 ∈ overloads ∧ chosen.2.MadeOf allowed)
      (chooseOverload builtin overloads) := by
  intro machine hmachine
  rw [chooseOverload]
  cases hstack : machine.stack with
  | nil => exact hmachine.follows
  | cons first rest =>
      have hrest := hmachine.stack
      rw [hstack, List.forall_mem_cons] at hrest
      dsimp only
      split
      · rename_i signature hfound
        exact ⟨⟨List.mem_of_find?_eq_some hfound, hrest.1⟩, hmachine.withStack hrest.2⟩
      · exact hmachine.withStack hrest.2

theorem calm_applySignature {name : String} {signature : Signature} {operands : Operands}
    (hsignature : Operation.Keeps allowed signature.apply)
    (hoperands : ∀ value ∈ operands, value.MadeOf allowed) :
    Calm allowed (fun _ => True) (applySignature name signature operands) := by
  rw [applySignature]
  cases hresult : signature.apply operands with
  | ok result => exact .push (hsignature operands hoperands result hresult)
  | error failure => exact .bind .get fun _ _ => .throw _

theorem calm_runBuiltin {builtin : Builtin} (hbuiltin : builtin.Keeps allowed) :
    Calm allowed (fun _ => True) (runBuiltin builtin) := by
  rw [runBuiltin]
  cases hchoice : builtin.choice with
  | inl signature =>
      have hsignature : signature ∈ builtin.signatures := by simp [Builtin.signatures, hchoice]
      refine .bind (calm_popOperands (List.forall_mem_nil _) _) fun operands hoperands => ?_
      exact calm_applySignature (hbuiltin signature hsignature) hoperands
  | inr overloads =>
      refine .bind (calm_chooseOverload builtin overloads) fun chosen hchosen => ?_
      have hsignature : chosen.1 ∈ builtin.signatures := by
        simpa [Builtin.signatures, hchoice] using hchosen.1
      have hfirst : ∀ value ∈ [chosen.2], value.MadeOf allowed := by simpa using hchosen.2
      refine .bind (calm_popOperands hfirst _) fun operands hoperands => ?_
      exact calm_applySignature (hbuiltin chosen.1 hsignature) hoperands

theorem calm_applyMatcher (pattern : Matcher) (captures : Bool) :
    Calm allowed (fun _ => True) (applyMatcher pattern captures) := by
  refine .andThen .popAs_any fun text => .ite ?_ (.push (.boolean _))
  cases pattern.captures? text with
  | none => exact .push (.boolean _)
  | some groups =>
      refine .modify fun machine hmachine => hmachine.withStack ?_
      rw [List.forall_mem_cons, List.forall_mem_append]
      refine ⟨.boolean _, fun value hvalue => ?_, hmachine.stack⟩
      obtain ⟨group, _, rfl⟩ := List.mem_map.1 hvalue
      exact Value.madeOf_ofUnits _

theorem calm_boxNamed (frame : FrameId) (name : String) :
    Calm allowed (fun _ => True) (boxNamed frame name) := by
  have hlookup : Calm allowed (fun _ => True) (lookup frame name) :=
    fun machine hmachine => ⟨trivial, hmachine.follows⟩
  refine .andThen hlookup fun found => ?_
  cases found with
  | none => exact .fail _
  | some binding =>
      cases binding with
      | value held =>
          cases held with
          | box id => exact .pure trivial
          | _ => exact .fail _
      | pending | function | escape | matcher => exact .fail _

theorem calm_popBox (frame : FrameId) : Calm allowed (fun _ => True) (popBox frame) := by
  refine .bind (.pop _) fun value _ => ?_
  cases value with
  | identifier name => exact calm_boxNamed frame name
  | box id => exact .pure trivial
  | _ => exact .fail _

theorem calm_assign (frame : FrameId) : Calm allowed (fun _ => True) (runPlain frame .assign) := by
  refine .andThen (calm_popBox frame) fun id => .bind (.pop _) fun value hvalue => ?_
  refine .modify fun machine hmachine => hmachine.withHeap fun cell hcell => ?_
  rcases Array.mem_or_eq_of_mem_setIfInBounds hcell with hcell | rfl
  · exact hmachine.heap cell hcell
  · exact hvalue

theorem calm_makeBox : Calm allowed (fun _ => True) makeBox := by
  refine .bind (.pop _) fun value hvalue => .modify fun machine hmachine => ?_
  have hheap : ∀ cell ∈ (machine.heap.alloc value).2.cells, cell.MadeOf allowed := by
    intro cell hcell
    rcases Array.mem_push.1 hcell with hcell | rfl
    · exact hmachine.heap cell hcell
    · exact hvalue
  have hfollows := hmachine.withHeap hheap
  exact hfollows.trans (hfollows.madeOf.withStack
    (List.forall_mem_cons.2 ⟨.box _, hmachine.stack⟩))

theorem calm_openBox : Calm allowed (fun _ => True) openBox := by
  refine .andThen .popAs_any fun id => .bind .get fun machine hmachine => ?_
  cases hcell : machine.heap.get? id with
  | none => exact .fail _
  | some value => exact .push (hmachine.heap value (Array.mem_of_getElem? hcell))

theorem calm_printTop (newline : Bool) : Calm allowed (fun _ => True) (printTop newline) :=
  .bind (.pop _) fun _ _ => .modify fun _ hmachine => hmachine.withConsole _

theorem calm_showTop : Calm allowed (fun _ => True) showTop :=
  .bind (.pop _) fun _ _ => .bind .get fun _ _ => .push (.string _ _)

theorem calm_test (frame : FrameId) (kind : Kind) :
    Calm allowed (fun _ => True) (runPlain frame (.test kind)) :=
  .bind (.pop _) fun _ _ => .push (.boolean _)

theorem calm_requireKind (kind : Kind) : Calm allowed (fun _ => True) (requireKind kind) := by
  refine .bind .get fun machine _ => ?_
  cases machine.stack with
  | nil => exact .fail _
  | cons value rest => exact .ite (.fail _) (.pure trivial)

theorem calm_raise : Calm allowed (fun _ => True) raise :=
  .andThen (Calm.popAs_any.within _) fun _ => .fail _

theorem calm_failPending (scene : Scene) (word : Word) :
    Calm allowed (fun _ => True) (failPending scene word) :=
  .ite (.andThen (.modify fun _ hmachine => hmachine.withConsole _) fun _ => .fail _) (.fail _)

theorem calm_freshBegin : Calm allowed (fun _ => True) freshBegin :=
  fun _ hmachine => ⟨trivial, ⟨hmachine.stack, hmachine.heap, hmachine.frames⟩, .refl _⟩

/-- A block that the machine makes, with a frame of its own for what it does. -/
theorem ends_pushBound {name : String} {binding : Binding} (hmachine : machine.MadeOf allowed)
    (hclosure : allowed.closure ⟨wordBlock name, some machine.frames.all.size⟩)
    (hbinding : binding.MadeOf allowed) :
    Ends allowed machine (fun _ => True) (pushBound name binding machine) := by
  have hentries : ∀ entry ∈ ({ bindings := [(name, binding)] } : Frame).bindings,
      entry.2.MadeOf allowed := by
    simpa using hbinding
  have hadded := hmachine.addFrame hentries
  refine ⟨trivial, hadded.trans (hadded.madeOf.withStack ?_)⟩
  exact List.forall_mem_cons.2 ⟨.block hclosure, hmachine.stack⟩

/-- Making a block of a pattern takes one value from the stack. -/
theorem makeMatcher_cases (captures : Bool) (machine : Machine) :
    ∃ rest, rest <:+ machine.stack ∧
      ((∃ exit, makeMatcher captures machine = .error exit { machine with stack := rest }) ∨
        ∃ pattern, makeMatcher captures machine =
          pushBound matcherName (.matcher pattern captures) { machine with stack := rest }) := by
  obtain ⟨stack, heap, frames, begins, console, engine⟩ := machine
  cases stack with
  | nil => exact ⟨[], List.suffix_rfl, Or.inl ⟨_, rfl⟩⟩
  | cons top rest =>
      refine ⟨rest, List.suffix_cons top rest, ?_⟩
      rw [makeMatcher, bind_apply, popAs, bind_apply]
      dsimp only [pop]
      cases text? top with
      | none => exact Or.inl ⟨_, rfl⟩
      | some text =>
          dsimp only [Pure.pure, EStateM.pure]
          cases text.isEmpty with
          | true => exact Or.inl ⟨_, rfl⟩
          | false =>
              have hget (next : Machine → Run Unit) (machine : Machine) :
                  (MonadState.get >>= next) machine = next machine machine := rfl
              rw [if_neg Bool.false_ne_true, hget]
              dsimp only
              cases engine.compile text with
              | ok pattern => exact Or.inr ⟨pattern, rfl⟩
              | error reason => exact Or.inl ⟨_, rfl⟩

theorem ends_makeMatcher (hmachine : machine.MadeOf allowed) (captures : Bool)
    (hallowed : Complete allowed machine.frames (final (makeMatcher captures machine)).frames) :
    Ends allowed machine (fun _ => True) (makeMatcher captures machine) := by
  obtain ⟨rest, hrest, ⟨exit, hfails⟩ | ⟨pattern, hmakes⟩⟩ := makeMatcher_cases captures machine
  all_goals have hfollows := hmachine.withStack fun value hvalue =>
    hmachine.stack value (hrest.subset hvalue)
  · rw [hfails]
    exact hfollows
  · rw [hmakes] at hallowed ⊢
    exact hfollows.ends (ends_pushBound hfollows.madeOf
      (hallowed.made matcherName _ (Or.inr rfl) rfl) trivial)

/-- Every keyword but the two declaring ones. -/
theorem ends_runPlain (hmachine : machine.MadeOf allowed) (frame : FrameId) {keyword : Keyword}
    (hallowed : Complete allowed machine.frames (final (runPlain frame keyword machine)).frames)
    (hdefine : keyword ≠ .define) (hbind : keyword ≠ .bind) :
    Ends allowed machine (fun _ => True) (runPlain frame keyword machine) := by
  cases keyword with
  | define => exact absurd rfl hdefine
  | bind => exact absurd rfl hbind
  | assign => exact calm_assign frame machine hmachine
  | box => exact calm_makeBox machine hmachine
  | unbox => exact calm_openBox machine hmachine
  | stack =>
      exact ⟨trivial, hmachine.withStack
        (List.forall_mem_cons.2 ⟨.list hmachine.stack, hmachine.stack⟩)⟩
  | clear => exact ⟨trivial, hmachine.withStack (List.forall_mem_nil _)⟩
  | toText => exact calm_showTop machine hmachine
  | print => exact calm_printTop true machine hmachine
  | put => exact calm_printTop false machine hmachine
  | pattern => exact ends_makeMatcher hmachine false hallowed
  | capture => exact ends_makeMatcher hmachine true hallowed
  | test kind => exact calm_test frame kind machine hmachine
  | require kind => exact calm_requireKind kind machine hmachine
  | list | table | error | stop | begin => exact ⟨trivial, hmachine.follows⟩

end

/-! ### Going back to a block that waits -/

/-- The stack that is kept for a block that waits is made of what is allowed. -/
def Purpose.MadeOf (allowed : Ingredients) : Purpose → Prop
  | .list below | .table below => ∀ value ∈ below, value.MadeOf allowed
  | .call _ | .begin _ => True

section

variable {allowed : Ingredients} {machine : Machine} {purpose : Purpose}

theorem yields_tableOf {table : Table Value Value} {items : List Value}
    (htable : (Value.table table).MadeOf allowed) (hitems : ∀ item ∈ items, item.MadeOf allowed) :
    Yields (fun table => (Value.table table).MadeOf allowed) (tableOf table items) := by
  fun_induction tableOf table items with
  | case1 table value key rest ih =>
      rw [List.forall_mem_cons, List.forall_mem_cons] at hitems
      refine .bind (Builtin.yields_tableKey hitems.2.1) fun key hkey => ?_
      exact ih key (ValueTable.madeOf_insert htable hkey hitems.1) hitems.2.2
  | case2 table items => exact .pure htable

theorem calm_makeTable {items : List Value} (hitems : ∀ item ∈ items, item.MadeOf allowed) :
    Calm allowed (fun _ => True) (makeTable items) := by
  have hempty : (Value.table .empty).MadeOf allowed := by simp
  have hreverse : ∀ item ∈ items.reverse, item.MadeOf allowed :=
    fun item hitem => hitems item (List.mem_reverse.1 hitem)
  have htable := yields_tableOf hempty hreverse
  refine Calm.within (.ite (.andThen (.fail _) fun _ => ?_) ?_) _
  all_goals
    cases hresult : tableOf .empty items.reverse with
    | ok table => exact .push (htable table hresult)
    | error failure => exact .bind .get fun _ _ => .fail _

theorem Purpose.follows_restore (hpurpose : purpose.MadeOf allowed)
    (hmachine : machine.MadeOf allowed) : machine.Follows allowed (purpose.restore machine) := by
  cases purpose with
  | list below | table below => exact hmachine.withStack hpurpose
  | call | begin => exact hmachine.follows

theorem Purpose.ends_resume (hpurpose : purpose.MadeOf allowed)
    (hmachine : machine.MadeOf allowed) :
    Ends allowed machine (fun _ => True) (purpose.resume machine) := by
  cases purpose with
  | call | begin => exact ⟨trivial, hmachine.follows⟩
  | list below =>
      have hstack := List.forall_mem_cons.2 ⟨Value.MadeOf.list hmachine.stack, hpurpose⟩
      exact ⟨trivial, hmachine.withStack hstack⟩
  | table below =>
      have hfollows := hmachine.withStack hpurpose
      exact hfollows.ends (calm_makeTable hmachine.stack _ hfollows.madeOf)

theorem Purpose.ends_abandon (hpurpose : purpose.MadeOf allowed)
    (hmachine : machine.MadeOf allowed) (active : List BeginId) (exit : Exit) :
    Ends allowed machine (fun _ => True) (purpose.abandon active exit machine) := by
  unfold abandon
  split
  · split
    · exact ⟨trivial, hmachine.follows⟩
    · exact hmachine.follows
  · exact follows_restore hpurpose hmachine

end

/-! ### What an item can do -/

end Machine

theorem Keyword.name_of_ofName? {name : String} {keyword : Keyword}
    (h : Keyword.ofName? name = some keyword) : keyword.name = name := by
  unfold Keyword.ofName? at h
  split at h <;> cases h <;> rfl

/-- What an item pushes is made of what is allowed, in the frame of its block. -/
def Item.MadeOf (allowed : Ingredients) (frame : FrameId) : Item → Prop
  | .literal written => (Value.ofLiteral written).MadeOf allowed
  | .block code => allowed.closure ⟨code, some frame⟩
  | .word _ => True

theorem Item.madeOf_anything (item : Item) (frame : FrameId) : item.MadeOf .anything frame := by
  cases item with
  | literal written => exact Value.madeOf_anything _
  | block | word => trivial

theorem Item.MadeOf.mono {allowed other : Ingredients} {frame : FrameId} {item : Item}
    (h : item.MadeOf allowed frame) (hnumber : ∀ n, allowed.number n → other.number n)
    (hclosure : ∀ closure, allowed.closure closure → other.closure closure) :
    item.MadeOf other frame := by
  cases item with
  | literal written => exact Value.MadeOf.mono h hnumber hclosure
  | block code => exact hclosure _ h
  | word => trivial

namespace Machine.Deed

/-- The machine that a deed leaves, before the block that it may have to run. -/
def machine : Deed → Machine
  | done result => final result
  | enter _ _ _ machine => machine

/-- A deed that leaves all frames as they are. If a block has to be run, it is an allowed one. -/
def Quiet (allowed : Ingredients) (machine : Machine) : Deed → Prop
  | done result => Ends allowed machine (fun _ => True) result
  | enter purpose _ closure after =>
      allowed.closure closure ∧ purpose.MadeOf allowed ∧ machine.Follows allowed after

/-- The deed of a declaring word: a name and a value are taken from the stack, and the name is
bound in the frame. -/
inductive Declares (scene : Scene) (machine : Machine) (keyword : Word) : Deed → Prop
  | intro {declaration : Declaration} {name : String} {held : Value} {below : List Value}
      {binding : Binding} : Declaration.ofKeyword? keyword.name = some declaration →
      machine.stack = .identifier name :: held :: below →
      declaration.binding? held = some binding →
      Declares scene machine keyword (done (.ok () { machine with
        stack := below, frames := machine.frames.bind scene.frame name binding }))

section

variable {allowed : Ingredients} {machine : Machine} {scene : Scene}

theorem Quiet.kept {deed : Deed} (h : deed.Quiet allowed machine) :
    machine.frames.KeptIn deed.machine.frames := by
  cases deed with
  | done result => exact Ends.kept h
  | enter purpose active closure after => exact h.2.2.kept

theorem quiet_andThen {α : Type} {good : α → Prop} {next : α → Machine → Deed}
    {result : EStateM.Result Exit Machine α} (hresult : Ends allowed machine good result)
    (hnext : ∀ value after, good value → machine.Follows allowed after →
      (next value after).Quiet allowed machine) :
    (andThen next result).Quiet allowed machine := by
  cases result with
  | ok value after => exact hnext value after hresult.1 hresult.2
  | error exit after => exact hresult

theorem calm_popBlockFor (name : String) : Calm allowed allowed.closure (popBlockFor name) :=
  (Calm.popClosure _).within _

/-- A block is run that can be left. -/
theorem quiet_begin (hmachine : machine.MadeOf allowed)
    (hallowed : Complete allowed machine.frames (ofKeyword scene .begin machine).machine.frames) :
    (ofKeyword scene .begin machine).Quiet allowed machine := by
  have hends : Ends allowed machine allowed.closure (popBlockFor Keyword.begin.name machine) :=
    calm_popBlockFor _ machine hmachine
  obtain ⟨stack, heap, frames, begins, console, engine⟩ := machine
  cases stack with
  | nil => exact hends
  | cons top rest =>
      cases top with
      | block code frame =>
          obtain ⟨hblock, hfollows⟩ := hends
          have hbegun := hfollows.trans (calm_freshBegin _ hfollows.madeOf).2
          have hclosure := hallowed.made escapeName (.escape _) (Or.inl rfl) rfl
          have hescape : (Binding.escape (begins + 1)).MadeOf allowed := trivial
          exact ⟨hblock, trivial, hbegun.trans (ends_pushBound hbegun.madeOf hclosure hescape).2⟩
      | _ => exact hends

/-- Every keyword but the two declaring ones. -/
theorem quiet_ofKeyword (hmachine : machine.MadeOf allowed) {keyword : Keyword}
    (hallowed : Complete allowed machine.frames (ofKeyword scene keyword machine).machine.frames)
    (hdefine : keyword ≠ .define) (hbind : keyword ≠ .bind) :
    (ofKeyword scene keyword machine).Quiet allowed machine := by
  have hplain (h : ofKeyword scene keyword machine =
      done (within (.word keyword.name) (runPlain scene.frame keyword) machine)) :
      (ofKeyword scene keyword machine).Quiet allowed machine := by
    rw [h, Deed.machine, final_within] at hallowed
    rw [h]
    exact (ends_runPlain hmachine scene.frame hallowed hdefine hbind).within _
  cases keyword with
  | begin => exact quiet_begin hmachine hallowed
  | list | table =>
      refine quiet_andThen (calm_popBlockFor _ machine hmachine) ?_
      intro block after hblock hafter
      refine ⟨hblock, hafter.madeOf.stack, hafter.trans ?_⟩
      exact hafter.madeOf.withStack (List.forall_mem_nil _)
  | stop => exact hmachine.follows
  | error => exact calm_raise machine hmachine
  | _ => exact hplain rfl

/-- The declaring words fail, or they bind. -/
theorem quiet_or_declares_ofKeyword (hmachine : machine.MadeOf allowed) {word : Word}
    {keyword : Keyword} (hname : Keyword.ofName? word.name = some keyword)
    (hkeyword : keyword = .define ∨ keyword = .bind) :
    (ofKeyword scene keyword machine).Quiet allowed machine ∨
      Declares scene machine word (ofKeyword scene keyword machine) := by
  obtain ⟨stack, heap, frames, begins, console, engine⟩ := machine
  have hstack := hmachine.stack
  have hrest {rest : List Value} (h : ∀ value ∈ rest, value.MadeOf allowed) :=
    hmachine.withStack h
  have hword := Keyword.name_of_ofName? hname
  cases stack with
  | nil => rcases hkeyword with rfl | rfl <;> exact Or.inl hmachine.follows
  | cons top rest =>
      rw [List.forall_mem_cons] at hstack
      cases top with
      | identifier name =>
          cases rest with
          | nil => rcases hkeyword with rfl | rfl <;> exact Or.inl (hrest (List.forall_mem_nil _))
          | cons held below =>
              rw [List.forall_mem_cons] at hstack
              rcases hkeyword with rfl | rfl
              · cases held with
                | block code frame =>
                    have hfunction : Declaration.ofKeyword? word.name = some .function := by
                      rw [← hword]
                      rfl
                    exact Or.inr (.intro hfunction rfl rfl)
                | _ => exact Or.inl (hrest hstack.2.2)
              · have hvalue : Declaration.ofKeyword? word.name = some .value := by
                  rw [← hword]
                  rfl
                exact Or.inr (.intro hvalue rfl rfl)
      | _ => rcases hkeyword with rfl | rfl <;> exact Or.inl (hrest hstack.2)

theorem quiet_or_declares_ofVocabulary (hmachine : machine.MadeOf allowed) {word : Word}
    {bound : Option Value}
    (hallowed : Complete allowed machine.frames
      (ofVocabulary scene word.name bound machine).machine.frames)
    (hbound : ∀ value ∈ bound, value.MadeOf allowed) :
    (ofVocabulary scene word.name bound machine).Quiet allowed machine ∨
      Declares scene machine word (ofVocabulary scene word.name bound machine) := by
  unfold ofVocabulary at hallowed ⊢
  cases hname : Keyword.ofName? word.name with
  | some keyword =>
      rw [hname] at hallowed
      by_cases hkeyword : keyword = .define ∨ keyword = .bind
      · exact quiet_or_declares_ofKeyword hmachine hname hkeyword
      · rw [not_or] at hkeyword
        exact Or.inl (quiet_ofKeyword hmachine hallowed hkeyword.1 hkeyword.2)
  | none =>
      refine Or.inl ?_
      cases hbuiltin : Builtin.ofName? word.name with
      | some builtin =>
          have hkeeps := Builtin.keeps_of_ofName? hallowed.toComputed hbuiltin
          exact calm_runBuiltin hkeeps machine hmachine
      | none =>
          cases bound with
          | some value => exact Calm.push (hbound value rfl) machine hmachine
          | none => exact hmachine.follows

/-- An item leaves all frames as they are, or it is a declaring word that is carried out. -/
theorem quiet_or_declares {item : Item} {rest : List Item}
    (hallowed : Complete allowed machine.frames (ofItem scene rest item machine).machine.frames)
    (hmachine : machine.MadeOf allowed) (hitem : item.MadeOf allowed scene.frame) :
    (ofItem scene rest item machine).Quiet allowed machine ∨
      ∃ keyword, item = .word keyword ∧ takesNameBefore rest = false ∧
        Declares scene machine keyword (ofItem scene rest item machine) := by
  cases item with
  | literal written => exact Or.inl (Calm.push hitem machine hmachine)
  | block code => exact Or.inl (Calm.push (.block hitem) machine hmachine)
  | word word =>
      rw [ofItem] at hallowed ⊢
      by_cases htakes : takesNameBefore rest
      · rw [if_pos htakes]
        exact Or.inl (Calm.push (.identifier _) machine hmachine)
      · rw [if_neg htakes] at hallowed ⊢
        have hvocabulary {bound : Option Value}
            (hallowed : Complete allowed machine.frames
              (ofVocabulary scene word.name bound machine).machine.frames)
            (hbound : ∀ value ∈ bound, value.MadeOf allowed) :
            (ofVocabulary scene word.name bound machine).Quiet allowed machine ∨
              ∃ keyword, Item.word word = .word keyword ∧ takesNameBefore rest = false ∧
                Declares scene machine keyword (ofVocabulary scene word.name bound machine) := by
          refine (quiet_or_declares_ofVocabulary hmachine hallowed hbound).imp_right ?_
          intro hdeclares
          exact ⟨word, rfl, Bool.eq_false_of_not_eq_true htakes, hdeclares⟩
        rw [ofWord] at hallowed ⊢
        cases hlookup : machine.frames.lookup scene.frame word.name with
        | none =>
            rw [hlookup] at hallowed
            exact hvocabulary hallowed (by simp)
        | some binding =>
            rw [hlookup] at hallowed
            have hbinding := hmachine.lookup hlookup
            cases binding with
            | pending declaration => exact Or.inl (calm_failPending scene word machine hmachine)
            | function closure => exact Or.inl ⟨hbinding, trivial, hmachine.follows⟩
            | value held =>
                refine hvocabulary hallowed ?_
                rintro _ ⟨⟩
                exact hbinding
            | escape id => exact Or.inl hmachine.follows
            | matcher pattern captures =>
                exact Or.inl ((calm_applyMatcher pattern captures).within _ machine hmachine)

end

end Machine.Deed

end StackProse
