import Mathlib.Data.Fin.VecNotation
import StackProse.Proofs.Machine.Moments
import StackProse.Proofs.Program.Expressions
import StackProse.Session.Limit

/-!
# Running expressions

The program of an expression is a row of items without any grouping. Running it still evaluates the
tree: every word finds its own operands on top of the stack, in the order written, because running
an operand adds exactly its value to the stack (`runItems_spellings`). So evaluating the source of
an expression on a stack adds the value of the expression to it, or fails with the fault of the
expression.
-/

namespace StackProse

/-- Frames that agree up to a frame show the same from there. -/
theorem Frames.lookup_congr {frames other : Frames} {id : FrameId}
    (h : ∀ earlier ≤ id, other.all[earlier]? = frames.all[earlier]?) (name : String) :
    other.lookup id name = frames.lookup id name := by
  induction id using Nat.strong_induction_on with
  | _ id ih =>
      rw [Frames.lookup, Frames.lookup, h id le_rfl]
      cases frames.all[id]? with
      | none => rfl
      | some frame =>
          dsimp only
          cases frame.bindings.lookup name with
          | some binding => rfl
          | none =>
              dsimp only
              cases frame.parent with
              | none => rfl
              | some parent =>
                  dsimp only
                  by_cases hparent : parent < id
                  · rw [if_pos hparent, if_pos hparent]
                    apply ih parent hparent
                    intro earlier hearlier
                    exact h earlier (hearlier.trans hparent.le)
                  · rw [if_neg hparent, if_neg hparent]

/-- A new frame changes nothing about what is seen from the frames before it. -/
theorem Frames.lookup_add_of_lt {frames : Frames} (frame : Frame) {id : FrameId}
    (hid : id < frames.all.size) (name : String) :
    (frames.add frame).2.lookup id name = frames.lookup id name := by
  apply Frames.lookup_congr
  intro earlier hearlier
  simp [Frames.add, Array.getElem?_push, Nat.ne_of_lt (hearlier.trans_lt hid)]

/-- Seen from the frame of a block that declares nothing, a name is bound to nothing if it is so
outside. -/
theorem Frames.lookup_add_eq_none {frames : Frames} {root : Block} {outside : Option FrameId}
    {name : String} (hroot : root.declared = [])
    (houtside : ∀ frame ∈ outside, frames.lookup frame name = none) :
    (frames.add (.ofBlock root outside)).2.lookup frames.all.size name = none := by
  have hframe : (frames.add (.ofBlock root outside)).2.all[frames.all.size]? =
      some (.ofBlock root outside) := by
    simp [Frames.add]
  rw [Frames.lookup, hframe]
  simp only [Frame.ofBlock, hroot, List.map_nil, List.lookup_nil]
  cases outside with
  | none => rfl
  | some parent =>
      dsimp only
      by_cases hparent : parent < frames.all.size
      · rw [if_pos hparent, Frames.lookup_add_of_lt _ hparent]
        exact houtside parent rfl
      · rw [if_neg hparent]

namespace Machine

/-- Nothing but the stack of the machine changes: the values are put on top of it, or the fault ends
the computation. -/
def Gives (machine : Machine) (outcome : Except Fault (List Value))
    (computed : EStateM.Result Exit Machine Unit) : Prop :=
  match outcome with
  | .ok values => computed = .ok () { machine with stack := values ++ machine.stack }
  | .error fault => ∃ stack, computed = .error (.fault fault) { machine with stack := stack }

/-- No builtin word is bound to anything, seen from a frame. -/
def LeavesBuiltins (machine : Machine) (frame : FrameId) : Prop :=
  ∀ word ∈ Builtin.all, machine.frames.lookup frame word.name = none

/-! ### Words on the operands they take -/

section Operands

variable (machine : Machine) (below : List Value)

theorem popOperands_cons (taken : Operands) (param : Param) (params : List Param) (value : Value)
    (rest : List Value) :
    popOperands taken (param :: params) { machine with stack := value :: rest } =
      if param.type.accepts value then
        popOperands (value :: taken) params { machine with stack := rest }
      else
        .error (.fault ⟨.mismatch param.type.name value.kind, []⟩)
          { machine with stack := rest } := by
  rw [popOperands, bind_apply]
  change (if param.type.accepts value then _ else _ : Run Operands) _ = _
  split <;> rfl

/-- The operands of a row of parameters are taken up to the first one of a wrong type. -/
theorem popOperands_append (taken : Operands) {params : List Param} {operands : List Value}
    (hlength : operands.length = params.length) :
    match (params.zip operands).find? fun (param, value) => !param.type.accepts value with
    | none =>
        popOperands taken params { machine with stack := operands ++ below } =
          .ok (taken.reverse ++ operands) { machine with stack := below }
    | some (param, value) =>
        ∃ stack, popOperands taken params { machine with stack := operands ++ below } =
          .error (.fault ⟨.mismatch param.type.name value.kind, []⟩)
            { machine with stack := stack } := by
  induction params generalizing taken operands with
  | nil =>
      obtain rfl := List.eq_nil_of_length_eq_zero hlength
      simp only [List.zip_nil_left, List.find?_nil, List.append_nil]
      rfl
  | cons param params ih =>
      cases operands with
      | nil => exact absurd hlength (by simp)
      | cons value operands =>
          rw [List.cons_append, popOperands_cons, List.zip_cons_cons, List.find?_cons]
          by_cases haccepts : param.type.accepts value
          · simp only [haccepts, Bool.not_true, if_true]
            have hrest := ih (value :: taken) (by simpa using hlength)
            rw [List.reverse_cons, List.append_assoc, List.singleton_append] at hrest
            exact hrest
          · simp only [haccepts, Bool.not_false, Bool.false_eq_true, if_false]
            exact ⟨_, rfl⟩

/-- A signature takes its operands and puts the result in their place. -/
theorem gives_signature (name : String) {signature : Signature} {operands : List Value}
    (hlength : operands.length = signature.params.length) :
    Gives { machine with stack := below }
      ((signature.applyTo machine.heap name operands).map fun result => [result])
      ((popOperands [] signature.params >>= applySignature name signature)
        { machine with stack := operands ++ below }) := by
  have hpop := popOperands_append machine below [] hlength
  rw [bind_apply, Signature.applyTo]
  cases hfind : (signature.params.zip operands).find? fun (param, value) =>
      !param.type.accepts value with
  | some found =>
      simp only [hfind] at hpop
      obtain ⟨stack, hpop⟩ := hpop
      rw [hpop]
      exact ⟨stack, rfl⟩
  | none =>
      simp only [hfind] at hpop
      rw [hpop]
      simp only [List.reverse_nil, List.nil_append, applySignature]
      cases signature.apply operands with
      | ok result => rfl
      | error failure => exact ⟨below, rfl⟩

/-- A builtin word takes its operands and puts the result in their place. -/
theorem gives_runBuiltin {builtin : Builtin} (hbuiltin : builtin ∈ Builtin.all)
    {operands : List Value} (hlength : operands.length = builtin.arity) :
    Gives { machine with stack := below }
      ((builtin.applyTo machine.heap operands).map fun result => [result])
      (runBuiltin builtin { machine with stack := operands ++ below }) := by
  obtain ⟨-, harity, hpos⟩ := Builtin.arity_of_mem builtin hbuiltin
  have hgives (signature : Signature) (hsignature : signature ∈ builtin.signatures) :=
    gives_signature machine below builtin.name (hlength.trans (harity signature hsignature).symm)
  rw [runBuiltin]
  cases hchoice : builtin.choice with
  | inl signature =>
      rw [Builtin.applyTo]
      · exact hgives signature (by simp [Builtin.signatures, hchoice])
      · exact hchoice
  | inr overloads =>
      cases operands with
      | nil =>
          rw [hchoice] at hpos
          exact absurd (hpos rfl) (by simp [← hlength])
      | cons first rest =>
          simp only [Builtin.applyTo, hchoice, List.cons_append, bind_apply, chooseOverload]
          cases hfind : overloads.find? (·.params.head?.any (·.type.accepts first)) with
          | none => exact ⟨rest ++ below, rfl⟩
          | some signature =>
              have hsignature : signature ∈ builtin.signatures := by
                simpa [Builtin.signatures, hchoice] using List.mem_of_find?_eq_some hfind
              -- the operand that the choice is made by is taken like any other
              have hchosen := List.find?_some hfind
              obtain ⟨param, hparam, haccepts⟩ := (Option.any_eq_true _ _).1 hchosen
              obtain ⟨params, hparams⟩ := List.head?_eq_some_iff.1 hparam
              have hgives := hgives signature hsignature
              rw [bind_apply, hparams, List.cons_append, popOperands_cons, if_pos haccepts]
                at hgives
              simp only [hparams, List.drop_succ_cons, List.drop_zero]
              exact hgives

end Operands

/-! ### Rows of items -/

section Items

variable {runner : Runner} {scene : Scene}

/-- Items that no naming word comes after run like items at the end of a block. -/
theorem runItems_append {later : List Item} (hlater : takesNameBefore later = false)
    (items : List Item) (machine : Machine) :
    runItems runner scene (items ++ later) machine =
      match runItems runner scene items machine with
      | .ok _ machine => runItems runner scene later machine
      | .error exit machine => .error exit machine := by
  induction items generalizing machine with
  | nil => rfl
  | cons item items ih =>
      have htakes : takesNameBefore (items ++ later) = takesNameBefore items := by
        cases items with
        | nil => exact hlater
        | cons next items => cases next <;> rfl
      have hdeed : Deed.ofItem scene (items ++ later) item machine =
          Deed.ofItem scene items item machine := by
        cases item <;> simp only [Deed.ofItem, htakes]
      rw [List.cons_append, runItems_cons, runItems_cons, hdeed]
      cases (Deed.ofItem scene items item machine).perform runner scene.active with
      | ok _ after => exact ih after
      | error exit after => rfl

/-- Ordinary words are no naming words. -/
theorem takesNameBefore_ordinary {spellings : List Spelling} {items : List Item}
    (hfollow : Spelling.Follow spellings items)
    (hordinary : ∀ spelling ∈ spellings, spelling.instruction.IsOrdinary) :
    takesNameBefore items = false := by
  cases hfollow with
  | nil => rfl
  | @cons item spelling items spellings his _ =>
      have hordinary := hordinary spelling List.mem_cons_self
      cases hinstruction : spelling.instruction with
      | literal value =>
          rw [hinstruction] at his
          obtain rfl := his
          rfl
      | word name =>
          rw [hinstruction] at his hordinary
          obtain ⟨span, position, rfl⟩ := his
          simp only [takesNameBefore]
          rw [hordinary]
          rfl

/-- A builtin word that is bound to nothing is carried out. -/
theorem runItems_builtin {builtin : Builtin} (hbuiltin : builtin ∈ Builtin.all) {machine : Machine}
    (hleaves : machine.LeavesBuiltins scene.frame) (span : Span) (position : Position) :
    runItems runner scene [.word ⟨builtin.name, span, position⟩] machine =
      runBuiltin builtin machine := by
  obtain ⟨-, -, hkeyword⟩ := Builtin.name_of_mem builtin hbuiltin
  have hlookup := hleaves builtin hbuiltin
  have hfound := Builtin.ofName?_name hbuiltin
  have hdeed : Deed.ofItem scene [] (.word ⟨builtin.name, span, position⟩) machine =
      .done (runBuiltin builtin machine) := by
    change Deed.ofWord scene ⟨builtin.name, span, position⟩ machine = _
    simp only [Deed.ofWord, hlookup, Deed.ofVocabulary, hkeyword, hfound]
  rw [runItems_cons, hdeed, Deed.perform]
  cases runBuiltin builtin machine <;> rfl

/-- Running the items of an expression gives its value. -/
def Evaluates (runner : Runner) (scene : Scene) (expression : Expression) : Prop :=
  ∀ items machine, Spelling.Follow expression.spellings.reverse items →
    machine.LeavesBuiltins scene.frame →
    Gives machine ((expression.value machine.heap).map fun value => [value])
      (runItems runner scene items machine)

/-- Running the items of operands gives their values, evaluated from the last to the first. -/
theorem gives_operands {operands : List Expression}
    (hevaluates : ∀ operand ∈ operands, Evaluates runner scene operand) {items : List Item}
    {machine : Machine}
    (hfollow : Spelling.Follow (operands.map (·.spellings)).flatten.reverse items)
    (hleaves : machine.LeavesBuiltins scene.frame) :
    Gives machine (lastToFirst (operands.map (·.value machine.heap)))
      (runItems runner scene items machine) := by
  induction operands generalizing items with
  | nil =>
      obtain rfl := List.forall₂_nil_right_iff.1 hfollow
      rfl
  | cons first operands ih =>
      obtain ⟨hfirst, hrest⟩ := List.forall_mem_cons.1 hevaluates
      rw [List.map_cons, List.flatten_cons, List.reverse_append] at hfollow
      obtain ⟨before, after, rfl, hbefore, hafter⟩ := hfollow.append
      have hordinary := takesNameBefore_ordinary hafter fun spelling hspelling =>
        first.isOrdinary spelling (List.mem_reverse.1 hspelling)
      have hgives := ih hrest hbefore
      rw [runItems_append hordinary, List.map_cons, lastToFirst]
      cases hlast : lastToFirst (operands.map (·.value machine.heap)) with
      | error fault =>
          rw [hlast] at hgives
          obtain ⟨stack, hgives⟩ := hgives
          rw [hgives]
          exact ⟨stack, rfl⟩
      | ok values =>
          rw [hlast] at hgives
          rw [hgives]
          have hvalue :=
            hfirst after { machine with stack := values ++ machine.stack } hafter hleaves
          cases hfirstValue : first.value machine.heap with
          | error fault =>
              rw [hfirstValue] at hvalue
              exact hvalue
          | ok value =>
              rw [hfirstValue] at hvalue
              exact hvalue

/-- Running the items of an expression gives its value. -/
theorem evaluates (runner : Runner) (scene : Scene) (expression : Expression) :
    Evaluates runner scene expression := by
  induction expression with
  | literal spelled =>
      intro items machine hfollow _
      obtain ⟨item, _, his, hnil, rfl⟩ := List.forall₂_cons_right_iff.1 hfollow
      obtain rfl := List.forall₂_nil_right_iff.1 hnil
      obtain rfl := his
      rfl
  | apply word hword operands ih =>
      intro items machine hfollow hleaves
      let operandList := List.ofFn operands
      have hspellings : (Expression.apply word hword operands).spellings.reverse =
          (operandList.map (·.spellings)).flatten.reverse ++ [word.spelling hword] := by
        rw [Expression.spellings, List.reverse_cons, List.map_ofFn]
        rfl
      rw [hspellings] at hfollow
      obtain ⟨before, after, rfl, hbefore, hafter⟩ := hfollow.append
      obtain ⟨_, _, ⟨span, position, rfl⟩, hnil, rfl⟩ := List.forall₂_cons_right_iff.1 hafter
      obtain rfl := List.forall₂_nil_right_iff.1 hnil
      have hordinary : takesNameBefore [.word ⟨word.name, span, position⟩] = false := by
        obtain ⟨-, -, hkeyword⟩ := Builtin.name_of_mem word hword
        simp only [takesNameBefore]
        rw [hkeyword]
        rfl
      have hgives : Gives machine (lastToFirst (operandList.map (·.value machine.heap)))
          (runItems runner scene before machine) := by
        apply gives_operands _ hbefore hleaves
        intro operand hoperand
        obtain ⟨i, rfl⟩ := List.mem_ofFn.1 hoperand
        exact ih i
      have hvalue : (Expression.apply word hword operands).value machine.heap =
          (lastToFirst (operandList.map (·.value machine.heap))).bind
            (word.applyTo machine.heap) := by
        rw [Expression.value, List.map_ofFn]
        rfl
      rw [runItems_append hordinary, hvalue]
      cases hlast : lastToFirst (operandList.map (·.value machine.heap)) with
      | error fault =>
          rw [hlast] at hgives
          obtain ⟨stack, hgives⟩ := hgives
          rw [hgives]
          exact ⟨stack, rfl⟩
      | ok values =>
          rw [hlast] at hgives
          rw [hgives]
          have hlength : values.length = word.arity := by
            rw [length_of_lastToFirst hlast, List.length_map, List.length_ofFn]
          have hstill : LeavesBuiltins { machine with stack := values ++ machine.stack }
            scene.frame := hleaves
          dsimp only
          rw [runItems_builtin hword hstill]
          exact gives_runBuiltin machine machine.stack hword hlength

end Items

/-! ### Whole programs -/

/-- The frame of a block that declares nothing binds no builtin word either. -/
theorem leavesBuiltins_add {machine : Machine} (root : Block) {outside : Option FrameId}
    (hroot : root.declared = []) (houtside : ∀ frame ∈ outside, machine.LeavesBuiltins frame) :
    LeavesBuiltins { machine with frames := (machine.frames.add (.ofBlock root outside)).2 }
      machine.frames.all.size := by
  intro word hword
  apply Frames.lookup_add_eq_none hroot
  intro frame hframe
  exact houtside frame hframe word hword

/-- Source in which every word stands before its operands means the tree that it is written from.
Whatever is on the stack, evaluating it under the default limit adds the value of the tree to the
stack, or fails with the fault of the tree; apart from the stack, only the frame of the program is
new. The program may run inside a frame, if no builtin word is bound there. -/
theorem evaluate_source (expression : Expression) (userCode : Bool) (active : List BeginId)
    (outside : Option FrameId) (machine : Machine)
    (houtside : ∀ frame ∈ outside, machine.LeavesBuiltins frame) :
    let program := Program.ofSource userCode expression.source
    let ran := machine.evaluate Limit.default active ⟨program.root, outside⟩
    let framed := { machine with
      frames := (machine.frames.add (.ofBlock program.root outside)).2 }
    program.isRejected = false ∧
      match expression.value machine.heap with
      | .ok value =>
          ran = (.finished machine.frames.all.size,
            { framed with stack := value :: machine.stack })
      | .error fault => ∃ stack, ran = (.failed fault, { framed with stack := stack }) := by
  obtain ⟨items, hprogram, hfollow⟩ :=
    Program.ofSource_spaced userCode expression.isOrdinary
  have hsource : Program.ofSource userCode expression.source =
      ⟨.mk (.source 0) userCode [] items, [], false⟩ :=
    hprogram
  have hleaves := leavesBuiltins_add (.mk (.source 0) userCode [] items) rfl houtside
  have hgives := evaluates (process 2998) ⟨machine.frames.all.size, userCode, active⟩ expression
    items _ hfollow hleaves
  rw [hsource]
  refine ⟨rfl, ?_⟩
  have hroom : Limit.default - 1 = 2998 + 1 := rfl
  simp only [evaluate, hroom, process_succ, Block.body, Block.userCode]
  cases hvalue : expression.value machine.heap with
  | ok value =>
      rw [hvalue] at hgives
      change runItems _ _ _ _ = _ at hgives
      rw [hgives]
      rfl
  | error fault =>
      rw [hvalue] at hgives
      obtain ⟨stack, hgives⟩ := hgives
      refine ⟨stack, ?_⟩
      rw [hgives]
      rfl

/-- Whether it is true that -1.5 is below 2. -/
def comparisonExample : Expression :=
  .apply (Builtin.comparison "==" Ordering.isEq) (by simp [Builtin.all, Builtin.comparisons])
    ![.literal (.boolean ⟨true, 'T', ['r', 'u', 'e'], rfl, rfl⟩),
      .apply (Builtin.comparison "<" Ordering.isLT) (by simp [Builtin.all, Builtin.comparisons])
        ![.literal (.number ⟨false, ⟨['2'], by decide, List.forall_mem_singleton.2 rfl⟩, none⟩),
          .literal (.number ⟨true, ⟨['1'], by decide, List.forall_mem_singleton.2 rfl⟩,
            some ⟨['5'], by decide, List.forall_mem_singleton.2 rfl⟩⟩)]]

theorem evaluate_source_comparison :
    comparisonExample.source = "== True < 2 -1.5".toList ∧
      ∃ frames, ({ stack := [.symbol "below"] } : Machine).evaluate Limit.default []
        ⟨(Program.ofSource true comparisonExample.source).root, none⟩ =
          (.finished 0, { stack := [.boolean true, .symbol "below"], frames := frames }) := by
  have hvalue : comparisonExample.value {} = .ok (.boolean true) := rfl
  have hsource := (evaluate_source comparisonExample true [] none
    { stack := [.symbol "below"] } nofun).2
  rw [hvalue] at hsource
  exact ⟨by decide, _, hsource⟩

end Machine

end StackProse
