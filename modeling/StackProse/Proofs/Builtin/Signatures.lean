import Mathlib.Data.List.Forall2
import StackProse.Proofs.Machine.Expressions

/-!
# Signatures are sound

A signature promises what a word does with its operands, but the word reads them on its own, by their
index and kind, and its result is pushed without a look at it. `Signature.IsSound` says that the promise
is kept: on operands of the promised types the word never misreads one, and what it gives is of the
promised type. `Builtin.sound_all` proves it of every signature of the registry.

A word that is carried out takes as many operands as its signature names, each of its type, and leaves
one value in their place (`Machine.exists_of_runBuiltin`). With soundness the value is of the type that
the signature names too.
-/

namespace StackProse

/-- An operand is missing, or of another kind than the word reads it as. -/
def Failure.IsMisreading : Failure → Prop
  | notA _ _ | missing _ => True
  | _ => False

/-- The text of a number and a text behind it end with the name of a kind only if that text does. -/
theorem Kind.name_isSuffix_of_append {kind : Kind} {text ending : String}
    (h : kind.name.toList <:+ (text ++ ending).toList) (hlength : 10 ≤ ending.toList.length) :
    kind.name.toList <:+ ending.toList := by
  have hname : kind.name.toList.length ≤ 10 := by
    cases kind <;> decide
  rw [String.toList_append] at h
  exact List.suffix_of_suffix_length_le h (List.suffix_append _ _) (hname.trans hlength)

theorem Failure.message_notA (heap : Heap) (index : Nat) (kind : Kind) :
    (notA index kind).message heap = "operand " ++ toString index ++ " is not a " ++ kind.name :=
  rfl

/-- No other failure has the text of one on the kind of an operand. -/
theorem Failure.message_ne_notA {failure : Failure} (h : ¬ failure.IsMisreading) (heap : Heap)
    (index : Nat) (kind : Kind) : failure.message heap ≠ (notA index kind).message heap := by
  intro hmessage
  have hfirst : (failure.message heap).toList.head? = some 'o' := by
    rw [hmessage, message_notA, String.append_assoc, String.append_assoc, String.toList_append]
    rfl
  have hend : kind.name.toList <:+ (failure.message heap).toList := by
    rw [hmessage, message_notA, String.toList_append]
    exact List.suffix_append _ _
  cases failure with
  | notA | missing => exact h trivial
  -- These two begin with a number, but they end with a word that no kind is named.
  | invalidIndex | invalidCharacter =>
      have hname := Kind.name_isSuffix_of_append hend (by decide)
      revert hname
      cases kind <;> decide
  | rangeTooLong | outOfBounds | notANumber | unorderedKey | keyNotFound =>
      unfold message at hfirst
      simp only [String.append_assoc] at hfirst
      rw [String.toList_append, List.head?_append] at hfirst
      simp at hfirst
  | _ =>
      unfold message at hfirst
      simp at hfirst

/-! ### Computations that read their operands -/

/-- A computation gives a result as asked, or it fails, but not because it misreads an operand. -/
def Reads {α : Type} (good : α → Prop) : Except Failure α → Prop
  | .ok result => good result
  | .error failure => ¬ failure.IsMisreading

namespace Reads

variable {α β : Type} {good : α → Prop} {better : β → Prop}

theorem pure {result : α} (h : good result) : Reads good (Pure.pure result) :=
  h

theorem throw {failure : Failure} (h : ¬ failure.IsMisreading) :
    Reads good (MonadExcept.throw failure) :=
  h

theorem bind {computed : Except Failure α} {next : α → Except Failure β}
    (hcomputed : Reads good computed) (hnext : ∀ result, Reads better (next result)) :
    Reads better (computed >>= next) := by
  cases computed with
  | error failure => exact hcomputed
  | ok result => exact hnext result

theorem ite {condition : Prop} [Decidable condition] {yes no : Except Failure α}
    (hyes : Reads good yes) (hno : Reads good no) : Reads good (if condition then yes else no) := by
  split
  · exact hyes
  · exact hno

theorem map {computed : Except Failure α} (h : Reads (fun _ => True) computed) (f : α → β) :
    Reads (fun _ => True) (computed.map f) := by
  cases computed with
  | error failure => exact h
  | ok result => trivial

end Reads

/-! ### Operands of the promised types -/

namespace Value

/-! A value can be read as what it is by its kind, and as nothing else. -/

variable (value : Value)

theorem isSome_number? : value.number?.isSome = (value.kind == .number) := by
  cases value <;> rfl

theorem isSome_boolean? : value.boolean?.isSome = (value.kind == .boolean) := by
  cases value <;> rfl

theorem isSome_units? : value.units?.isSome = (value.kind == .string) := by
  cases value <;> rfl

theorem isSome_items? : value.items?.isSome = (value.kind == .list) := by
  cases value <;> rfl

theorem isSome_table? : value.table?.isSome = (value.kind == .table) := by
  cases value <;> rfl

end Value

/-- The operands are as many as the parameters and of their types. -/
def Operands.Suit (operands : Operands) (params : List Param) : Prop :=
  List.Forall₂ (fun param value => param.type.accepts value) params operands

namespace Operands.Suit

variable {operands : Operands} {params : List Param} {index : Nat}

theorem exists_getElem? (h : operands.Suit params) {type : ParamType}
    (hparam : params[index]?.map (·.type) = some type) :
    ∃ value, operands[index]? = some value ∧ type.accepts value := by
  obtain ⟨param, hfound, rfl⟩ := Option.map_eq_some_iff.1 hparam
  obtain ⟨hindex, rfl⟩ := List.getElem?_eq_some_iff.1 hfound
  have hless : index < operands.length := h.length_eq ▸ hindex
  exact ⟨operands[index], List.getElem?_eq_getElem hless, h.get hindex hless⟩

theorem value (h : operands.Suit params) {type : ParamType}
    (hparam : params[index]?.map (·.type) = some type) :
    Reads (fun value => type.accepts value) (operands.value index) := by
  obtain ⟨value, hvalue, haccepts⟩ := h.exists_getElem? hparam
  rw [Operands.value, hvalue]
  exact haccepts

/-- An operand can be read as what every value of its kind is. -/
theorem read {α : Type} {as? : Value → Option α} {kind : Kind}
    (has : ∀ value, (as? value).isSome = (value.kind == kind)) (h : operands.Suit params)
    (hparam : params[index]?.map (·.type) = some (.kind kind)) :
    Reads (fun _ => True) (operands.read kind as? index) := by
  obtain ⟨value, hvalue, haccepts⟩ := h.exists_getElem? hparam
  obtain ⟨result, hresult⟩ := Option.isSome_iff_exists.1 ((has value).trans haccepts)
  rw [Operands.read, hvalue, Option.bind_some, hresult]
  trivial

theorem number (h : operands.Suit params) (hparam : params[index]?.map (·.type) = some .number) :
    Reads (fun _ => True) (operands.number index) :=
  (read Value.isSome_number? h hparam).map _

theorem boolean (h : operands.Suit params) (hparam : params[index]?.map (·.type) = some .boolean) :
    Reads (fun _ => True) (operands.boolean index) :=
  read Value.isSome_boolean? h hparam

theorem units (h : operands.Suit params) (hparam : params[index]?.map (·.type) = some .string) :
    Reads (fun _ => True) (operands.units index) :=
  read Value.isSome_units? h hparam

theorem items (h : operands.Suit params) (hparam : params[index]?.map (·.type) = some .list) :
    Reads (fun _ => True) (operands.items index) :=
  read Value.isSome_items? h hparam

theorem table (h : operands.Suit params) (hparam : params[index]?.map (·.type) = some .table) :
    Reads (fun _ => True) (operands.table index) :=
  read Value.isSome_table? h hparam

end Operands.Suit

/-- On operands of the promised types a word misreads none, and what it gives is of the promised
type. -/
def Signature.IsSound (signature : Signature) : Prop :=
  ∀ operands : Operands, operands.Suit signature.params →
    Reads (fun result => signature.returns.accepts result) (signature.apply operands)

namespace Builtin

/-- All signatures of a word are sound. -/
def IsSound (builtin : Builtin) : Prop :=
  ∀ signature ∈ builtin.signatures, signature.IsSound

theorem sound_single {name : String} {params : List Param} {returns : ParamType}
    {apply : Operation} (h : Signature.IsSound ⟨params, returns, apply⟩) :
    (single name params returns apply).IsSound :=
  List.forall_mem_singleton.2 h

theorem sound_overloaded {name : String} {overloads : List (Kind × ParamType × Operation)}
    (h : ∀ overload ∈ overloads, Signature.IsSound
      ⟨[⟨overload.1.name, .kind overload.1⟩], overload.2.1, overload.2.2⟩) :
    (overloaded name overloads).IsSound :=
  List.forall_mem_map.2 h

/-! ### Every builtin word -/

theorem reads_finite (x : Float) :
    Reads (fun result => ParamType.number.accepts result) (finite x) := by
  rw [finite]
  exact .ite rfl id

theorem sound_arithmetic : ∀ builtin ∈ arithmetic, builtin.IsSound := by
  simp only [arithmetic, List.forall_mem_cons, unary, binary]
  refine ⟨?_, ?_, ?_, ?_, ?_, ?_, ?_, ?_, ?_, ?_, ?_, ?_, ?_, ?_, ?_, ?_, ?_, ?_, ?_,
    List.forall_mem_nil _⟩
  -- numbers are read where the signature has numbers, and then a test is made or a result given
  all_goals
    refine sound_single fun operands hoperands => ?_
    repeat' first
      | exact reads_finite _
      | exact .throw id
      | refine .ite ?_ ?_
      | refine .bind (hoperands.number rfl) fun _ => ?_

theorem sound_numberTest (name : String) (test : Float → Bool) :
    (numberTest name test).IsSound :=
  sound_single fun _ hoperands => .bind (hoperands.value rfl) fun _ => .pure rfl

theorem sound_numberCheck (name param : String) (test : Float → Bool) {failure : Failure}
    (h : ¬ failure.IsMisreading) : (numberCheck name param test failure).IsSound :=
  sound_single fun _ hoperands =>
    .bind (hoperands.number rfl) fun _ => .ite (.pure rfl) (.throw h)

theorem sound_checks : ∀ builtin ∈ checks, builtin.IsSound := by
  simp only [checks, List.forall_mem_cons]
  refine ⟨sound_numberTest _ _, sound_numberCheck _ _ _ id, sound_numberTest _ _,
    sound_numberCheck _ _ _ id, sound_single fun operands hoperands => ?_, List.forall_mem_nil _⟩
  exact .bind (hoperands.boolean rfl) fun _ => .ite (hoperands.value rfl) (hoperands.value rfl)

theorem sound_comparisons : ∀ builtin ∈ comparisons, builtin.IsSound := by
  have hcomparison (name : String) (test : Ordering → Bool) : (comparison name test).IsSound :=
    sound_single fun _ hoperands =>
      .bind (hoperands.value rfl) fun _ => .bind (hoperands.value rfl) fun _ => .pure rfl
  simp [comparisons, hcomparison]

theorem sound_connectives : ∀ builtin ∈ connectives, builtin.IsSound := by
  simp only [connectives, List.forall_mem_cons, connective]
  refine ⟨?_, ?_, ?_, ?_, List.forall_mem_nil _⟩
  all_goals
    refine sound_single fun operands hoperands => ?_
    repeat' first
      | exact .pure rfl
      | refine .ite ?_ ?_
      | refine .bind (hoperands.boolean rfl) fun _ => ?_

theorem reads_range (start stop : Float) :
    Reads (fun result => ParamType.list.accepts result) (range start stop) :=
  .ite (.throw id) (.pure rfl)

theorem sound_lists : ∀ builtin ∈ lists, builtin.IsSound := by
  simp only [lists, List.forall_mem_cons]
  refine ⟨sound_single fun operands hoperands => ?_, sound_single fun operands _ => .pure rfl,
    sound_single fun operands hoperands => ?_, sound_single fun operands hoperands => ?_,
    List.forall_mem_nil _⟩
  · exact .bind (hoperands.items rfl) fun _ => .bind (hoperands.value rfl) fun _ => .pure rfl
  · exact .bind (hoperands.number rfl) fun start =>
      .bind (hoperands.number rfl) fun stop => reads_range start stop
  · exact .bind (hoperands.items rfl) fun _ => .pure rfl

theorem sound_sequences : ∀ builtin ∈ sequences, builtin.IsSound := by
  simp only [sequences, List.forall_mem_cons]
  refine ⟨sound_overloaded ?_, sound_overloaded ?_, sound_overloaded ?_, sound_overloaded ?_,
    List.forall_mem_nil _⟩
  all_goals
    simp only [List.forall_mem_cons]
    refine ⟨fun operands hoperands => .bind (hoperands.items rfl) fun items => ?_,
      fun operands hoperands => .bind (hoperands.units rfl) fun units => ?_,
      List.forall_mem_nil _⟩
  -- First, Rest: the empty list and the empty string have none
  iterate 2
    · cases items with
      | nil => exact .throw id
      | cons first rest => exact .pure rfl
    · cases units with
      | nil => exact .throw id
      | cons first rest => exact .pure rfl
  -- Length, Empty?
  all_goals exact .pure rfl

theorem reads_place (x : Float) : Reads (fun _ => True) (place x) :=
  .ite trivial id

theorem sound_strings : ∀ builtin ∈ strings, builtin.IsSound := by
  have htext (name : String) (change : List Char → List Char) : (textWord name change).IsSound :=
    sound_single fun _ hoperands => .bind (hoperands.units rfl) fun _ => .pure rfl
  simp only [strings, List.forall_mem_cons]
  refine ⟨sound_single fun operands hoperands => ?_, sound_single fun operands hoperands => ?_,
    sound_single fun operands hoperands => ?_, htext _ _, htext _ _,
    sound_single fun operands hoperands => ?_, sound_single fun operands hoperands => ?_,
    sound_single fun operands hoperands => ?_, List.forall_mem_nil _⟩
  · exact .bind (hoperands.units rfl) fun _ => .bind (hoperands.units rfl) fun _ => .pure rfl
  · exact .bind (hoperands.units rfl) fun units => .bind (hoperands.number rfl) fun _ =>
      .bind (reads_place _) fun start => .bind (hoperands.number rfl) fun _ =>
      .bind (reads_place _) fun stop => .ite (.throw id) (.pure rfl)
  · exact .bind (hoperands.units rfl) fun _ => .bind (hoperands.units rfl) fun _ => .pure rfl
  · refine .bind (hoperands.units rfl) fun units => ?_
    split
    · exact .pure rfl
    · exact .throw id
  · exact .bind (hoperands.number rfl) fun _ => .ite rfl id
  · refine .bind (hoperands.units rfl) fun units => ?_
    rw [readNumber]
    split
    · exact .ite rfl id
    · exact id

theorem reads_tableKey (key : Value) : Reads (fun _ => True) (tableKey key) := by
  rw [tableKey]
  split
  · exact id
  · exact id
  · trivial

theorem sound_tables : ∀ builtin ∈ tables, builtin.IsSound := by
  simp only [tables, List.forall_mem_cons]
  refine ⟨sound_single fun operands hoperands => ?_, sound_single fun operands hoperands => ?_,
    sound_single fun operands hoperands => ?_, sound_single fun operands hoperands => ?_,
    sound_single fun operands hoperands => ?_, sound_single fun operands hoperands => ?_,
    List.forall_mem_nil _⟩
  all_goals
    repeat' first
      | exact .pure rfl
      | refine .bind (hoperands.value rfl) fun _ => ?_
      | refine .bind (hoperands.table rfl) fun _ => ?_
      | refine .bind (reads_tableKey _) fun _ => ?_
  split
  · exact .pure rfl
  · exact .throw id

/-- All signatures of the registry are sound. -/
theorem sound_all : ∀ builtin ∈ all, builtin.IsSound := by
  simp only [all, List.forall_mem_append]
  exact ⟨⟨⟨⟨⟨⟨⟨sound_checks, sound_arithmetic⟩, sound_comparisons⟩, sound_connectives⟩,
    sound_lists⟩, sound_sequences⟩, sound_strings⟩, sound_tables⟩

end Builtin

namespace Machine

/-! ### Words that are carried out -/

theorem exists_of_popOperands {taken operands : Operands} {params : List Param}
    {machine after : Machine} {stack : List Value}
    (h : popOperands taken params { machine with stack := stack } = .ok operands after) :
    ∃ popped below, stack = popped ++ below ∧ operands = taken.reverse ++ popped ∧
      Operands.Suit popped params ∧ after = { machine with stack := below } := by
  induction params generalizing taken stack with
  | nil =>
      cases h
      exact ⟨[], stack, rfl, (List.append_nil _).symm, .nil, rfl⟩
  | cons param params ih =>
      cases stack with
      | nil => cases h
      | cons value rest =>
          rw [popOperands_cons] at h
          split at h
          · rename_i haccepts
            obtain ⟨popped, below, rfl, rfl, hsuit, rfl⟩ := ih h
            exact ⟨value :: popped, below, rfl, by simp, .cons haccepts hsuit, rfl⟩
          · cases h

theorem exists_of_applySignature {name : String} {signature : Signature} {operands : Operands}
    {machine after : Machine} (h : applySignature name signature operands machine = .ok () after) :
    ∃ result, signature.apply operands = .ok result ∧
      after = { machine with stack := result :: machine.stack } := by
  rw [applySignature] at h
  cases hresult : signature.apply operands with
  | ok result =>
      rw [hresult] at h
      cases h
      exact ⟨result, rfl, rfl⟩
  | error failure =>
      rw [hresult] at h
      cases h

/-- The signature that is chosen has a first parameter, and the operand that was popped is of its
type. -/
theorem exists_of_chooseOverload {builtin : Builtin} {overloads : List Signature}
    {signature : Signature} {first : Value} {machine after : Machine} {stack : List Value}
    (h : chooseOverload builtin overloads { machine with stack := stack } =
      .ok (signature, first) after) :
    signature ∈ overloads ∧ ∃ rest, stack = first :: rest ∧
      after = { machine with stack := rest } ∧
      ∃ param params, signature.params = param :: params ∧ param.type.accepts first := by
  cases stack with
  | nil => cases h
  | cons top rest =>
      rw [chooseOverload] at h
      dsimp only at h
      split at h
      · rename_i found hfound
        cases h
        refine ⟨List.mem_of_find?_eq_some hfound, rest, rfl, rfl, ?_⟩
        have hfirst := List.find?_some hfound
        rw [Option.any_eq_true] at hfirst
        obtain ⟨param, hparam, haccepts⟩ := hfirst
        obtain ⟨params, hparams⟩ := List.head?_eq_some_iff.1 hparam
        exact ⟨param, params, hparams, haccepts⟩
      · cases h

/-- A builtin word that is carried out has applied one of its signatures to operands of the types that
this one names, and has put the result in their place. -/
theorem exists_of_runBuiltin {builtin : Builtin} {machine after : Machine}
    (h : runBuiltin builtin machine = .ok () after) :
    ∃ signature ∈ builtin.signatures, ∃ operands result below,
      machine.stack = operands ++ below ∧ Operands.Suit operands signature.params ∧
      signature.apply operands = .ok result ∧
      after = { machine with stack := result :: below } := by
  rw [runBuiltin] at h
  rw [Builtin.signatures]
  cases hchoice : builtin.choice with
  | inl signature =>
      simp only [hchoice, bind_apply] at h ⊢
      cases hpop : popOperands [] signature.params machine with
      | error exit failed =>
          rw [hpop] at h
          cases h
      | ok operands popped =>
          rw [hpop] at h
          obtain ⟨operands, below, hstack, rfl, hsuit, rfl⟩ := exists_of_popOperands hpop
          obtain ⟨result, hresult, rfl⟩ := exists_of_applySignature h
          exact ⟨signature, List.mem_singleton_self _, operands, result, below, hstack, hsuit,
            hresult, rfl⟩
  | inr overloads =>
      simp only [hchoice, bind_apply] at h ⊢
      cases hchosen : chooseOverload builtin overloads machine with
      | error exit failed =>
          rw [hchosen] at h
          cases h
      | ok chosen chosenAfter =>
          rw [hchosen] at h
          obtain ⟨signature, first⟩ := chosen
          obtain ⟨hmem, rest, hstack, rfl, param, params, hparams, hfirst⟩ :=
            exists_of_chooseOverload hchosen
          dsimp only at h
          rw [hparams, List.drop_one, List.tail_cons] at h
          cases hpop : popOperands [first] params { machine with stack := rest } with
          | error exit failed =>
              rw [hpop] at h
              cases h
          | ok operands popped =>
              rw [hpop] at h
              obtain ⟨operands, below, rfl, rfl, hsuit, rfl⟩ := exists_of_popOperands hpop
              obtain ⟨result, hresult, rfl⟩ := exists_of_applySignature h
              exact ⟨signature, hmem, first :: operands, result, below, hstack,
                hparams ▸ .cons hfirst hsuit, hresult, rfl⟩

/-- Every builtin word keeps what each of its signatures promises. On operands as many as it names and
of the types that it names, the word does not find one missing or of another kind, and what it gives is
of the type that the signature names. So a word that is carried out takes exactly the operands of a
signature from the stack and leaves one value of its type there. -/
theorem builtin_keeps_signature {builtin : Builtin} (h : builtin ∈ Builtin.all) :
    (∀ signature ∈ builtin.signatures, ∀ operands : Operands, operands.Suit signature.params →
      match signature.apply operands with
      | .ok result => signature.returns.accepts result
      | .error failure =>
          (∀ index, failure ≠ .missing index) ∧
          ∀ heap index kind, failure.message heap ≠ (Failure.notA index kind).message heap) ∧
    ∀ machine after, runBuiltin builtin machine = .ok () after →
      ∃ signature ∈ builtin.signatures, ∃ operands result below,
        machine.stack = operands ++ below ∧ operands.length = signature.params.length ∧
        Operands.Suit operands signature.params ∧ signature.apply operands = .ok result ∧
        signature.returns.accepts result ∧
        after = { machine with stack := result :: below } := by
  have hsound := Builtin.sound_all builtin h
  constructor
  · intro signature hsignature operands hoperands
    have hreads := hsound signature hsignature operands hoperands
    cases hresult : signature.apply operands with
    | ok result =>
        rw [hresult] at hreads
        exact hreads
    | error failure =>
        rw [hresult] at hreads
        refine ⟨?_, fun heap index kind => Failure.message_ne_notA hreads heap index kind⟩
        rintro index rfl
        exact hreads trivial
  · intro machine after hrun
    obtain ⟨signature, hsignature, operands, result, below, hstack, hoperands, hresult, hafter⟩ :=
      exists_of_runBuiltin hrun
    have hreads := hsound signature hsignature operands hoperands
    rw [hresult] at hreads
    exact ⟨signature, hsignature, operands, result, below, hstack, hoperands.length_eq.symm,
      hoperands, hresult, hreads, hafter⟩

/-- The rest of a string is a string, and the rest of a list is a list. -/
theorem builtin_keeps_signature_rest :
    ∃ builtin, Builtin.ofName? "Rest" = some builtin ∧ builtin ∈ Builtin.all ∧
      runBuiltin builtin { stack := [.ofUnits [97, 98], .boolean true] } =
        .ok () { stack := [.ofUnits [98], .boolean true] } ∧
      ∀ machine after, runBuiltin builtin machine = .ok () after →
        ∃ value result below, machine.stack = value :: below ∧ result.kind = value.kind ∧
          (value.kind = .list ∨ value.kind = .string) ∧
          after = { machine with stack := result :: below } := by
  obtain ⟨builtin, hbuiltin⟩ : ∃ builtin, Builtin.ofName? "Rest" = some builtin := ⟨_, rfl⟩
  have hmem := List.mem_of_find?_eq_some hbuiltin
  refine ⟨builtin, hbuiltin, hmem, ?_, fun machine after hrun => ?_⟩
  · cases hbuiltin
    rfl
  · obtain ⟨signature, hsignature, operands, result, below, hstack, -, hsuit, -, haccepts, hafter⟩ :=
      (builtin_keeps_signature hmem).2 machine after hrun
    cases hbuiltin
    simp only [Builtin.signatures, Builtin.overloaded, List.map_cons, List.map_nil, List.mem_cons,
      List.not_mem_nil, or_false] at hsignature
    obtain rfl | rfl := hsignature
    · obtain _ | ⟨hvalue, _ | _⟩ := hsuit
      rw [ParamType.accepts, beq_iff_eq] at hvalue haccepts
      exact ⟨_, result, below, hstack, haccepts.trans hvalue.symm, .inl hvalue, hafter⟩
    · obtain _ | ⟨hvalue, _ | _⟩ := hsuit
      rw [ParamType.accepts, beq_iff_eq] at hvalue haccepts
      exact ⟨_, result, below, hstack, haccepts.trans hvalue.symm, .inr hvalue, hafter⟩

end Machine

end StackProse
