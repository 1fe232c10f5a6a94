import StackProse.Proofs.Machine.Moments
import StackProse.Proofs.Value.Renaming

/-!
# Machines that are alike

Two machines can hold the same things under different numbers: what earlier runs have left on one of
them takes numbers for boxes, frames and runs by `Begin` away. They can also differ in what lies at
the bottom of the stack. `Alike` says that this is all in which they differ. A `Likeness` says
which numbers belong together.

Words that run no blocks keep machines alike (`Parallel`): they end in the same way on both of them,
with results that belong together. The one exception is a word that finds the stack of the first
machine empty. On the second one there may be something below.
-/

namespace StackProse

/-- The block with the other number of its frame. -/
def Closure.rename (shift : Renaming) (closure : Closure) : Closure :=
  ⟨closure.code, closure.frame.map shift.frame⟩

namespace Machine

/-- What no run of a block changes: whether the console records, which frames are settled, and the
engine for patterns. -/
structure Settings where
  recording : Bool
  settled : Nat
  kept : Nat
  engine : Engine

/-- The settings of a machine. -/
def settings (machine : Machine) : Settings :=
  ⟨machine.console.recording, machine.frames.settled, machine.frames.kept, machine.engine⟩

/-- Which numbers belong together on two machines, and the settings of both. -/
structure Likeness extends Renaming where
  begin : BeginId → BeginId
  strictMono_begin : StrictMono begin
  settings : Settings
  settings' : Settings

/-- Every number stays as it is. -/
def Likeness.same (settings : Settings) : Likeness where
  toRenaming := .same
  begin := id
  strictMono_begin := strictMono_id
  settings := settings
  settings' := settings

end Machine

open Machine (Likeness)

theorem Closure.rename_same (closure : Closure) : closure.rename .same = closure := by
  rw [Closure.rename, Renaming.same, Option.map_id_fun, id]

/-! ### Frames -/

/-- The binding with other numbers. -/
def Binding.rename (like : Likeness) : Binding → Binding
  | pending declaration => pending declaration
  | function closure => function (closure.rename like.toRenaming)
  | value held => value (held.rename like.toRenaming)
  | escape id => escape (like.begin id)
  | matcher pattern captures => matcher pattern captures

/-- The frame with other numbers. -/
def Frame.rename (like : Likeness) (frame : Frame) : Frame where
  bindings := frame.bindings.map fun entry => (entry.1, entry.2.rename like)
  parent := frame.parent.map like.frame

namespace Frame

variable (like : Likeness)

theorem lookup_rename (name : String) (bindings : List (String × Binding)) :
    (bindings.map fun entry => (entry.1, entry.2.rename like)).lookup name =
      (bindings.lookup name).map (·.rename like) := by
  induction bindings with
  | nil => rfl
  | cons entry rest ih =>
      rw [List.map_cons, List.lookup_cons, List.lookup_cons]
      cases name == entry.1 with
      | true => rfl
      | false => exact ih

theorem rename_bind (frame : Frame) (name : String) (binding : Binding) :
    (frame.bind name binding).rename like = (frame.rename like).bind name (binding.rename like) := by
  have hbindings (bindings : List (String × Binding)) :
      (bindIn name binding bindings).map (fun entry => (entry.1, entry.2.rename like)) =
        bindIn name (binding.rename like)
          (bindings.map fun entry => (entry.1, entry.2.rename like)) := by
    induction bindings with
    | nil => rfl
    | cons entry rest ih =>
        rw [bindIn, List.map_cons, bindIn]
        by_cases heq : entry.1 = name
        · rw [if_pos heq, if_pos heq]
          rfl
        · rw [if_neg heq, if_neg heq, List.map_cons, ih]
  rw [rename, rename, bind, bind, hbindings]

theorem rename_ofBlock (block : Block) (parent : Option FrameId) :
    (ofBlock block parent).rename like = ofBlock block (parent.map like.frame) := by
  rw [rename, ofBlock, ofBlock, List.map_map]
  rfl

/-- A frame stays as it is if what it binds and its parent keep their numbers. -/
theorem rename_eq_self {frame : Frame}
    (hbindings : ∀ entry ∈ frame.bindings, entry.2.rename like = entry.2)
    (hparent : frame.parent.map like.frame = frame.parent) : frame.rename like = frame := by
  have hentries : frame.bindings.map (fun entry => (entry.1, entry.2.rename like)) =
      frame.bindings := by
    conv_rhs => rw [← List.map_id frame.bindings]
    apply List.map_congr_left
    intro entry hentry
    rw [hbindings entry hentry, id]
  rw [rename, hentries, hparent]

/-- A frame keeps its numbers if they are not renamed. -/
theorem rename_same (settings : Machine.Settings) (frame : Frame) :
    frame.rename (.same settings) = frame := by
  have hbinding (binding : Binding) : binding.rename (.same settings) = binding := by
    cases binding with
    | function closure => exact congrArg Binding.function (Closure.rename_same closure)
    | value held => exact congrArg Binding.value (Value.rename_same held)
    | pending | escape | matcher => rfl
  rw [rename]
  simp only [hbinding, List.map_id']
  rw [Likeness.same, Renaming.same, Option.map_id_fun, id]

end Frame

/-- Frames hold under the new numbers what others hold under the old ones. New frames will get
numbers that belong together as well. -/
structure Frames.Renames (like : Likeness) (frames other : Frames) : Prop where
  getElem? : ∀ id, other.all[like.frame id]? = frames.all[id]?.map (·.rename like)
  next : ∀ count, like.frame (frames.all.size + count) = other.all.size + count

namespace Frames.Renames

variable {like : Likeness} {frames other : Frames}

/-- A new frame gets a number that belongs to the one it got before. -/
theorem add (h : frames.Renames like other) (frame : Frame) :
    (frames.add frame).2.Renames like (other.add (frame.rename like)).2 ∧
      (other.add (frame.rename like)).1 = like.frame (frames.add frame).1 := by
  have hnext : like.frame frames.all.size = other.all.size := h.next 0
  refine ⟨⟨?_, ?_⟩, hnext.symm⟩
  · intro id
    have hid : like.frame id = other.all.size ↔ id = frames.all.size := by
      rw [← hnext, like.strictMono_frame.injective.eq_iff]
    have hold := h.getElem? id
    simp only [Frames.add, Array.getElem?_push, hid]
    by_cases heq : id = frames.all.size
    · rw [if_pos heq, if_pos heq]
      rfl
    · rw [if_neg heq, if_neg heq]
      exact hold
  · intro count
    simpa [Frames.add, Nat.add_assoc] using h.next (1 + count)

theorem bind (h : frames.Renames like other) (id : FrameId) (name : String) (binding : Binding) :
    (frames.bind id name binding).Renames like
      (other.bind (like.frame id) name (binding.rename like)) := by
  refine ⟨?_, ?_⟩
  · intro place
    simp only [Frames.bind, Array.getElem?_modify, like.strictMono_frame.injective.eq_iff,
      h.getElem?]
    by_cases heq : id = place
    · simp only [if_pos heq, Option.map_map]
      congr 1
      funext frame
      exact (Frame.rename_bind like frame name binding).symm
    · rw [if_neg heq, if_neg heq]
  · intro count
    simpa [Frames.bind] using h.next count

/-- Names are found as before. -/
theorem lookup (h : frames.Renames like other) (id : FrameId) (name : String) :
    other.lookup (like.frame id) name = (frames.lookup id name).map (·.rename like) := by
  induction id using Nat.strongRecOn with
  | ind id ih =>
      rw [Frames.lookup, Frames.lookup, h.getElem?]
      cases frames.all[id]? with
      | none => rfl
      | some frame =>
          simp only [Option.map_some, Frame.rename, Frame.lookup_rename]
          cases frame.bindings.lookup name with
          | some binding => rfl
          | none =>
              cases frame.parent with
              | none => rfl
              | some parent =>
                  simp only [Option.map_none, Option.map_some, like.strictMono_frame.lt_iff_lt]
                  by_cases hparent : parent < id
                  · rw [if_pos hparent, if_pos hparent, ih parent hparent]
                  · rw [if_neg hparent, if_neg hparent]
                    rfl

end Frames.Renames

/-- The cause is that the stack is empty. -/
def Fault.Cause.IsShortage : Fault.Cause → Prop
  | .underflow _ | .missingOverload _ => True
  | _ => False

/-- The early end with other numbers. -/
def Exit.rename (like : Likeness) : Exit → Exit
  | fault raised => fault raised
  | stop => stop
  | escape id => escape (like.begin id)

namespace Machine

/-! ### Machines -/

/-- Two machines hold the same things, under numbers that belong together, and the second one has
`below` at the bottom of its stack. -/
structure Alike (like : Likeness) (below : List Value) (machine other : Machine) : Prop where
  stack : other.stack = machine.stack.map (·.rename like.toRenaming) ++ below
  heap : machine.heap.Renames like.toRenaming other.heap
  frames : machine.frames.Renames like other.frames
  begins : ∀ count, like.begin (machine.begins + count) = other.begins + count
  console : other.console = machine.console
  engine : other.engine = machine.engine
  settings : machine.settings = like.settings
  settings' : other.settings = like.settings'

namespace Alike

variable {like : Likeness} {below : List Value} {machine other : Machine}

/-- Another stack on both machines. -/
theorem withStack (h : Alike like below machine other) (stack below : List Value) :
    Alike like below { machine with stack := stack }
      { other with stack := stack.map (·.rename like.toRenaming) ++ below } :=
  ⟨rfl, h.heap, h.frames, h.begins, h.console, h.engine, h.settings, h.settings'⟩

theorem withHeap (h : Alike like below machine other) {heap heap' : Heap}
    (hheap : heap.Renames like.toRenaming heap') :
    Alike like below { machine with heap := heap } { other with heap := heap' } :=
  ⟨h.stack, hheap, h.frames, h.begins, h.console, h.engine, h.settings, h.settings'⟩

/-- One more frame on both machines. -/
theorem addFrame (h : Alike like below machine other) (frame : Frame) :
    Alike like below { machine with frames := (machine.frames.add frame).2 }
      { other with frames := (other.frames.add (frame.rename like)).2 } :=
  ⟨h.stack, h.heap, (h.frames.add frame).1, h.begins, h.console, h.engine, h.settings,
    h.settings'⟩

theorem bindName (h : Alike like below machine other) (frame : FrameId) (name : String)
    (binding : Binding) :
    Alike like below { machine with frames := machine.frames.bind frame name binding }
      { other with
        frames := other.frames.bind (like.frame frame) name (binding.rename like) } :=
  ⟨h.stack, h.heap, h.frames.bind frame name binding, h.begins, h.console, h.engine, h.settings,
    h.settings'⟩

theorem withConsole (h : Alike like below machine other) {console : Console}
    (hconsole : console.recording = machine.console.recording) :
    Alike like below { machine with console := console } { other with console := console } := by
  refine ⟨h.stack, h.heap, h.frames, h.begins, rfl, h.engine, ?_, ?_⟩
  · rw [← h.settings, Machine.settings, Machine.settings, hconsole]
  · rw [← h.settings', Machine.settings, Machine.settings, hconsole, h.console]

/-- One more value on both stacks. -/
theorem push (h : Alike like below machine other) (value : Value) :
    Alike like below { machine with stack := value :: machine.stack }
      { other with stack := value.rename like.toRenaming :: other.stack } := by
  rw [h.stack]
  exact h.withStack (value :: machine.stack) below

theorem stack_eq_below (h : Alike like below machine other) (hstack : machine.stack = []) :
    other.stack = below := by
  rw [h.stack, hstack]
  rfl

/-- One value less on both stacks. -/
theorem tail (h : Alike like below machine other) {value : Value} {rest : List Value}
    (hstack : machine.stack = value :: rest) : ∃ rest',
      other.stack = value.rename like.toRenaming :: rest' ∧
        Alike like below { machine with stack := rest } { other with stack := rest' } := by
  refine ⟨rest.map (·.rename like.toRenaming) ++ below, ?_, h.withStack rest below⟩
  rw [h.stack, hstack]
  rfl

end Alike

/-! ### Computations that go the same way -/

/-- Two results belong together: both are there, or both are early ends. The first result can also
be a fault because the stack is empty, where there is something below on the second machine. -/
inductive Agrees (like : Likeness) (below : List Value) {α β : Type} (alike : α → β → Prop) :
    EStateM.Result Exit Machine α → EStateM.Result Exit Machine β → Prop
  | ok {result : α} {result' : β} {machine other : Machine} : alike result result' →
      Alike like below machine other → Agrees like below alike (.ok result machine) (.ok result' other)
  | error {machine other : Machine} (exit : Exit) : Alike like below machine other →
      Agrees like below alike (.error exit machine) (.error (exit.rename like) other)
  | short {machine : Machine} {fault : Fault} {result : EStateM.Result Exit Machine β} :
      below ≠ [] → fault.cause.IsShortage →
      Agrees like below alike (.error (.fault fault) machine) result

/-- Two computations give results that belong together, on machines that are alike. -/
def Parallel (like : Likeness) (below : List Value) {α β : Type} (alike : α → β → Prop)
    (run : Run α) (run' : Run β) : Prop :=
  ∀ machine other, Alike like below machine other →
    Agrees like below alike (run machine) (run' other)

namespace Parallel

variable {like : Likeness} {below : List Value} {α β γ δ : Type} {alike : α → β → Prop}
  {alike' : γ → δ → Prop}

theorem pure {result : α} {result' : β} (h : alike result result') :
    Parallel like below alike (Pure.pure result) (Pure.pure result') :=
  fun _ _ hmachines => .ok h hmachines

theorem throw (fault : Fault) :
    Parallel like below alike (MonadExcept.throw (Exit.fault fault))
      (MonadExcept.throw (Exit.fault fault)) :=
  fun _ _ hmachines => .error (.fault fault) hmachines

theorem fail (cause : Fault.Cause) :
    Parallel like below alike (Machine.fail cause) (Machine.fail cause) :=
  throw ⟨cause, []⟩

theorem bind {run : Run α} {run' : Run β} {next : α → Run γ} {next' : β → Run δ}
    (hrun : Parallel like below alike run run')
    (hnext : ∀ result result', alike result result' →
      Parallel like below alike' (next result) (next' result')) :
    Parallel like below alike' (run >>= next) (run' >>= next') := by
  intro machine other hmachines
  have hagrees := hrun machine other hmachines
  rw [bind_apply, bind_apply]
  generalize run machine = first at hagrees ⊢
  generalize run' other = second at hagrees ⊢
  cases hagrees with
  | ok hresult hmachines => exact hnext _ _ hresult _ _ hmachines
  | error exit hmachines => exact .error exit hmachines
  | short hbelow hcause => exact .short hbelow hcause

/-- Where both computations go on from the same result. -/
theorem same {run run' : Run α} {next : α → Run γ} {next' : α → Run δ}
    (hrun : Parallel like below Eq run run')
    (hnext : ∀ result, Parallel like below alike' (next result) (next' result)) :
    Parallel like below alike' (run >>= next) (run' >>= next') := by
  refine .bind hrun ?_
  rintro result _ rfl
  exact hnext result

theorem ite {condition : Prop} [Decidable condition] {yes no : Run α} {yes' no' : Run β}
    (hyes : Parallel like below alike yes yes') (hno : Parallel like below alike no no') :
    Parallel like below alike (if condition then yes else no) (if condition then yes' else no') := by
  split
  · exact hyes
  · exact hno

theorem within {run : Run α} {run' : Run β} (hrun : Parallel like below alike run run')
    (context : Fault.Context) :
    Parallel like below alike (Machine.within context run) (Machine.within context run') := by
  intro machine other hmachines
  have hagrees := hrun machine other hmachines
  rw [Machine.within, Machine.within]
  generalize run machine = first at hagrees ⊢
  generalize run' other = second at hagrees ⊢
  cases hagrees with
  | ok hresult hmachines => exact .ok hresult hmachines
  | error exit hmachines =>
      cases exit with
      | fault fault => exact .error (.fault (fault.within context)) hmachines
      | stop => exact .error .stop hmachines
      | escape id => exact .error (.escape id) hmachines
  | short hbelow hcause => exact .short hbelow hcause

theorem get : Parallel like below (Alike like below) MonadState.get MonadState.get :=
  fun _ _ hmachines => .ok hmachines hmachines

theorem modify {change change' : Machine → Machine}
    (h : ∀ machine other, Alike like below machine other →
      Alike like below (change machine) (change' other)) :
    Parallel like below Eq (modify change : Run Unit) (modify change') :=
  fun _ _ hmachines => .ok rfl (h _ _ hmachines)

theorem push (value : Value) :
    Parallel like below Eq (Machine.push value) (Machine.push (value.rename like.toRenaming)) :=
  .modify fun _ _ hmachines => hmachines.push value

theorem pop (expected : String) :
    Parallel like below (Value.Renamed like.toRenaming) (Machine.pop expected)
      (Machine.pop expected) := by
  intro machine other hmachines
  rw [Machine.pop, Machine.pop]
  cases hstack : machine.stack with
  | nil =>
      cases hbelow : below with
      | nil =>
          subst hbelow
          rw [hmachines.stack_eq_below hstack]
          exact .error (.fault ⟨.underflow expected, []⟩) hmachines
      | cons value rest => exact .short (List.cons_ne_nil _ _) trivial
  | cons value rest =>
      obtain ⟨rest', hother, hrest⟩ := hmachines.tail hstack
      rw [hother]
      exact .ok rfl hrest

/-- A value is popped and read, and what is read has the other numbers. -/
theorem popAs {as? : Value → Option α} {change : α → α}
    (has : ∀ value, as? (value.rename like.toRenaming) = (as? value).map change)
    (expected : String) (kind : Kind) :
    Parallel like below (fun result result' => result' = change result)
      (Machine.popAs expected kind as?) (Machine.popAs expected kind as?) := by
  refine .bind (.pop expected) ?_
  rintro value _ rfl
  rw [has, Value.kind_rename]
  cases as? value with
  | none => exact .fail _
  | some result => exact .pure rfl

/-- A value is popped and read, and what is read has no numbers. -/
theorem popSame {as? : Value → Option α}
    (has : ∀ value, as? (value.rename like.toRenaming) = as? value) (expected : String)
    (kind : Kind) :
    Parallel like below Eq (Machine.popAs expected kind as?) (Machine.popAs expected kind as?) := by
  refine .bind (.pop expected) ?_
  rintro value _ rfl
  rw [has, Value.kind_rename]
  cases as? value with
  | none => exact .fail _
  | some result => exact .pure rfl

end Parallel

/-! ### Words that run no blocks -/

section

variable {like : Likeness} {below : List Value}

theorem closure?_rename (shift : Renaming) (value : Value) :
    closure? (value.rename shift) = (closure? value).map (·.rename shift) := by
  cases value with
  | table entries => rw [Value.rename_table]; rfl
  | _ => rfl

theorem name?_rename (shift : Renaming) (value : Value) :
    name? (value.rename shift) = name? value := by
  cases value with
  | table entries => rw [Value.rename_table]; rfl
  | _ => rfl

theorem box?_rename (shift : Renaming) (value : Value) :
    box? (value.rename shift) = (box? value).map shift.box := by
  cases value with
  | table entries => rw [Value.rename_table]; rfl
  | _ => rfl

theorem text?_rename (shift : Renaming) (value : Value) :
    text? (value.rename shift) = text? value := by
  rw [text?, text?, Value.units?_rename]

theorem accepts_rename (shift : Renaming) (type : ParamType) (value : Value) :
    type.accepts (value.rename shift) = type.accepts value := by
  cases type with
  | any => rfl
  | kind wanted => rw [ParamType.accepts, ParamType.accepts, Value.kind_rename]

theorem parallel_popOperands (taken : Operands) (params : List Param) :
    Parallel like below (fun operands operands' => operands' = operands.renamed like.toRenaming)
      (popOperands taken params) (popOperands (taken.renamed like.toRenaming) params) := by
  induction params generalizing taken with
  | nil =>
      refine .pure ?_
      rw [Operands.renamed, Operands.renamed, List.map_reverse]
  | cons param rest ih =>
      refine .bind (.pop _) ?_
      rintro value _ rfl
      rw [accepts_rename, Value.kind_rename]
      exact .ite (ih (value :: taken)) (.fail _)

theorem parallel_chooseOverload (builtin : Builtin) (overloads : List Signature) :
    Parallel like below
      (fun chosen chosen' => chosen' = (chosen.1, chosen.2.rename like.toRenaming) ∧
        chosen.1 ∈ overloads)
      (chooseOverload builtin overloads) (chooseOverload builtin overloads) := by
  intro machine other hmachines
  rw [chooseOverload, chooseOverload]
  cases hstack : machine.stack with
  | nil =>
      cases hbelow : below with
      | nil =>
          subst hbelow
          rw [hmachines.stack_eq_below hstack]
          exact .error (.fault ⟨.missingOverload _, []⟩) hmachines
      | cons value rest => exact .short (List.cons_ne_nil _ _) trivial
  | cons first rest =>
      obtain ⟨rest', hother, hrest⟩ := hmachines.tail hstack
      rw [hother]
      simp only [accepts_rename, Value.kind_rename]
      cases hfind : overloads.find? (·.params.head?.any (·.type.accepts first)) with
      | none => exact .error (.fault ⟨.noOverload _ _, []⟩) hrest
      | some signature => exact .ok ⟨rfl, List.mem_of_find?_eq_some hfind⟩ hrest

theorem parallel_applySignature (name : String) {signature : Signature}
    (hrespects : Operation.Respects like.toRenaming signature.apply) (operands : Operands) :
    Parallel like below Eq (applySignature name signature operands)
      (applySignature name signature (operands.renamed like.toRenaming)) := by
  have hmatches := hrespects operands
  rw [applySignature, applySignature]
  generalize signature.apply operands = first at hmatches ⊢
  generalize signature.apply (operands.renamed like.toRenaming) = second at hmatches ⊢
  cases hmatches with
  | @ok result _ hresult =>
      obtain rfl := hresult
      exact .push result
  | error failure =>
      refine .bind .get ?_
      intro machine other hmachines
      rw [hmachines.heap.message_rename failure]
      exact .throw _

theorem parallel_runBuiltin {builtin : Builtin} (hrespects : builtin.Respects like.toRenaming) :
    Parallel like below Eq (runBuiltin builtin) (runBuiltin builtin) := by
  rw [runBuiltin]
  rw [Builtin.Respects, Builtin.signatures] at hrespects
  cases hchoice : builtin.choice with
  | inl signature =>
      rw [hchoice] at hrespects
      refine .bind (parallel_popOperands [] signature.params) ?_
      rintro operands _ rfl
      exact parallel_applySignature _ (hrespects signature List.mem_cons_self) operands
  | inr overloads =>
      rw [hchoice] at hrespects
      refine .bind (parallel_chooseOverload builtin overloads) ?_
      rintro ⟨signature, first⟩ _ ⟨rfl, hmem⟩
      refine .bind (parallel_popOperands [first] (signature.params.drop 1)) ?_
      rintro operands _ rfl
      exact parallel_applySignature _ (hrespects signature hmem) operands

theorem parallel_addFrame (frame : Frame) :
    Parallel like below (fun id id' => id' = like.frame id) (addFrame frame)
      (addFrame (frame.rename like)) := by
  intro machine other hmachines
  exact .ok (hmachines.frames.add frame).2 (hmachines.addFrame frame)

theorem parallel_pushBound (name : String) (binding : Binding) :
    Parallel like below Eq (pushBound name binding) (pushBound name (binding.rename like)) := by
  refine .bind (parallel_addFrame { bindings := [(name, binding)] }) ?_
  rintro frame _ rfl
  exact .push (.block (wordBlock name) (some frame))

theorem parallel_makeMatcher (captures : Bool) :
    Parallel like below Eq (makeMatcher captures) (makeMatcher captures) := by
  refine .same (.popSame (text?_rename _) _ _) fun text => .ite (.same (.fail _) fun _ => ?_) ?_
  all_goals
    refine .bind .get fun machine other hmachines => ?_
    rw [hmachines.engine]
    cases machine.engine.compile text with
    | ok pattern => exact parallel_pushBound _ (.matcher pattern captures)
    | error reason => exact .fail _

theorem parallel_applyMatcher (pattern : Matcher) (captures : Bool) :
    Parallel like below Eq (applyMatcher pattern captures) (applyMatcher pattern captures) := by
  refine .same (.popSame (text?_rename _) _ _) fun text => .ite ?_ (.push (.boolean _))
  cases pattern.captures? text with
  | none => exact .push (.boolean false)
  | some groups =>
      refine .modify fun machine other hmachines => ?_
      rw [hmachines.stack]
      have hpushed := hmachines.withStack (.boolean true ::
        ((groups.map fun group => Value.ofUnits (Units.ofChars group)) ++ machine.stack)) below
      simpa [Function.comp_def, Value.rename] using hpushed

theorem parallel_boxNamed (frame : FrameId) (name : String) :
    Parallel like below (fun id id' => id' = like.box id) (boxNamed frame name)
      (boxNamed (like.frame frame) name) := by
  have hlookup : Parallel like below (fun found found' => found' = found.map (·.rename like))
      (Machine.lookup frame name) (Machine.lookup (like.frame frame) name) :=
    fun _ _ hmachines => .ok (hmachines.frames.lookup frame name) hmachines
  refine .bind hlookup ?_
  rintro found _ rfl
  cases found with
  | none => exact .fail _
  | some binding =>
      cases binding with
      | value held =>
          cases held with
          | box id => exact .pure rfl
          | table entries =>
              simp only [Option.map_some, Binding.rename, Value.rename_table]
              exact .fail _
          | _ => exact .fail _
      | pending | function | escape | matcher => exact .fail _

theorem parallel_popBox (frame : FrameId) :
    Parallel like below (fun id id' => id' = like.box id) (popBox frame)
      (popBox (like.frame frame)) := by
  refine .bind (.pop _) ?_
  rintro value _ rfl
  cases value with
  | identifier name => exact parallel_boxNamed frame name
  | box id => exact .pure rfl
  | table entries =>
      rw [Value.rename_table]
      exact .fail _
  | _ => exact .fail _

theorem parallel_printTop (newline : Bool) :
    Parallel like below Eq (printTop newline) (printTop newline) := by
  refine .bind (.pop _) ?_
  rintro value _ rfl
  refine .modify fun machine other hmachines => ?_
  rw [hmachines.console, hmachines.heap.printed_rename]
  apply hmachines.withConsole
  rw [Console.print]
  split <;> rfl

theorem parallel_makeBox : Parallel like below Eq makeBox makeBox := by
  refine .bind (.pop _) ?_
  rintro value _ rfl
  refine .modify fun machine other hmachines => ?_
  obtain ⟨hheap, hid⟩ := hmachines.heap.alloc value
  dsimp only
  rw [hid]
  exact (hmachines.withHeap hheap).push (.box (machine.heap.alloc value).1)

theorem parallel_openBox : Parallel like below Eq openBox openBox := by
  refine .bind (.popAs (box?_rename _) _ _) ?_
  rintro id _ rfl
  refine .bind .get ?_
  intro machine other hmachines
  rw [hmachines.heap.get?]
  cases machine.heap.get? id with
  | none => exact .fail _
  | some content => exact .push content

theorem parallel_showTop : Parallel like below Eq showTop showTop := by
  refine .bind (.pop _) ?_
  rintro value _ rfl
  refine .bind .get ?_
  intro machine other hmachines
  rw [hmachines.heap.printed_rename]
  exact .push (.string _ _)

theorem parallel_requireKind (kind : Kind) :
    Parallel like below Eq (requireKind kind) (requireKind kind) := by
  refine .bind .get ?_
  intro machine other hmachines
  cases hstack : machine.stack with
  | nil =>
      cases hbelow : below with
      | nil =>
          subst hbelow
          rw [hmachines.stack_eq_below hstack]
          exact .fail _
      | cons value rest => exact fun _ _ _ => .short (List.cons_ne_nil _ _) trivial
  | cons value rest =>
      obtain ⟨rest', hother, _⟩ := hmachines.tail hstack
      rw [hother]
      dsimp only
      rw [Value.kind_rename]
      exact .ite (.fail _) (.pure rfl)

theorem parallel_raise : Parallel like below Eq raise raise :=
  .same ((Parallel.popSame (text?_rename _) _ _).within _) fun _ => .fail _

theorem parallel_failPending (word : Word) (scene scene' : Scene)
    (huser : scene'.userCode = scene.userCode) :
    Parallel like below Eq (failPending scene word) (failPending scene' word) := by
  rw [failPending, failPending, huser]
  refine .ite (.same (.modify fun machine other hmachines => ?_) fun _ => .fail _) (.fail _)
  rw [hmachines.console]
  apply hmachines.withConsole
  rw [Console.addDiagnostic]
  split <;> rfl

/-- Every keyword but `Stack` and `Clear`, which look at the whole stack. -/
theorem parallel_runPlain (frame : FrameId) {keyword : Keyword}
    (h : below = [] ∨ (keyword ≠ .stack ∧ keyword ≠ .clear)) :
    Parallel like below Eq (runPlain frame keyword) (runPlain (like.frame frame) keyword) := by
  cases keyword with
  | define =>
      refine .same (.popSame (name?_rename _) _ _) fun name =>
        .bind (.popAs (closure?_rename _) _ _) ?_
      rintro body _ rfl
      exact .modify fun machine other hmachines =>
        hmachines.bindName frame name (.function body)
  | bind =>
      refine .same (.popSame (name?_rename _) _ _) fun name => .bind (.pop _) ?_
      rintro value _ rfl
      exact .modify fun machine other hmachines =>
        hmachines.bindName frame name (.value value)
  | assign =>
      refine .bind (parallel_popBox frame) ?_
      rintro id _ rfl
      refine .bind (.pop _) ?_
      rintro value _ rfl
      exact .modify fun machine other hmachines =>
        hmachines.withHeap (hmachines.heap.set id value)
  | box => exact parallel_makeBox
  | unbox => exact parallel_openBox
  | stack =>
      obtain rfl : below = [] := h.resolve_right fun hne => hne.1 rfl
      refine .modify fun machine other hmachines => ?_
      have hlist : Value.list other.stack = (Value.list machine.stack).rename like.toRenaming := by
        rw [hmachines.stack, List.append_nil, Value.rename_list]
      rw [hlist]
      exact hmachines.push (.list machine.stack)
  | clear =>
      obtain rfl : below = [] := h.resolve_right fun hne => hne.2 rfl
      exact .modify fun machine other hmachines => hmachines.withStack [] []
  | toText => exact parallel_showTop
  | print => exact parallel_printTop true
  | put => exact parallel_printTop false
  | pattern => exact parallel_makeMatcher false
  | capture => exact parallel_makeMatcher true
  | test kind =>
      refine .bind (.pop _) ?_
      rintro value _ rfl
      rw [Value.kind_rename]
      exact .push (.boolean _)
  | require kind => exact parallel_requireKind kind
  | list | table | error | stop | begin => exact .pure rfl

theorem matches_tableOf (shift : Renaming) (table : ValueTable) (items : List Value) :
    Matches shift (fun table table' => table' = Value.renameTable shift table) (tableOf table items)
      (tableOf (Value.renameTable shift table) (items.map (·.rename shift))) := by
  induction table, items using tableOf.induct with
  | case1 table value key rest ih =>
      refine .bind (Builtin.matches_tableKey shift key) ?_
      rintro key _ rfl
      beta_reduce
      rw [ValueTable.insert_rename]
      exact ih key
  | case2 items table hitems =>
      match items with
      | [] => exact .pure rfl
      | [value] => exact .pure rfl
      | value :: key :: rest => exact absurd rfl (hitems value key rest)

theorem parallel_makeTable (items : List Value) :
    Parallel like below Eq (makeTable items)
      (makeTable (items.map (·.rename like.toRenaming))) := by
  have hmatches : Matches like.toRenaming
      (fun table table' => table' = Value.renameTable like.toRenaming table)
      (tableOf .empty items.reverse)
      (tableOf .empty (items.reverse.map (·.rename like.toRenaming))) :=
    matches_tableOf like.toRenaming .empty items.reverse
  rw [makeTable, makeTable, List.length_map, ← List.map_reverse]
  generalize tableOf .empty items.reverse = first at hmatches ⊢
  generalize tableOf .empty (items.reverse.map (·.rename like.toRenaming)) = second at hmatches ⊢
  refine .within (.ite (.same (.fail _) fun _ => ?_) ?_) _
  all_goals
    cases hmatches with
    | @ok table _ htable =>
        have hpush : Parallel like below Eq (push (.table table))
            (push ((Value.table table).rename like.toRenaming)) := .push _
        rw [Value.rename_table, ← htable] at hpush
        exact hpush
    | error failure =>
        refine .bind .get ?_
        intro machine other hmachines
        rw [hmachines.heap.message_rename failure]
        exact .fail _

end

end Machine

end StackProse
