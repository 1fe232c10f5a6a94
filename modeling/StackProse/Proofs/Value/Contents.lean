import StackProse.Builtin.Registry
import StackProse.Machine.Frames
import StackProse.Proofs.Table.Entries

/-!
# What values are made of

Lists and tables hold values, and numbers and blocks are what is found in them at the bottom.
`Value.MadeOf` says of a value that all its numbers and all its blocks, at any depth, are allowed
ones. Builtin words take values apart and put them together, so what they give is made of what
they were given: `Builtin.keeps_all` proves it for every word, whatever blocks are allowed and for
all numbers that arithmetic cannot lead out of.
-/

namespace StackProse

/-- The numbers and the blocks that are allowed in values. -/
structure Ingredients where
  number : Number → Prop
  closure : Closure → Prop

/-- Everything is allowed. -/
def Ingredients.anything : Ingredients :=
  ⟨fun _ => True, fun _ => True⟩

/-- The allowed numbers are closed under what builtin words compute. -/
structure Ingredients.Computed (allowed : Ingredients) : Prop where
  finite : ∀ x : Float, x.isFinite → allowed.number (.ofFloat x)
  count : ∀ n : Nat, allowed.number (.ofFloat (Number.ofCount n))
  read : ∀ n : Number, n.toFloat.isFinite → allowed.number n
  double : ∀ n : Number, allowed.number n → allowed.number (.ofFloat n.toFloat)
  range : ∀ start stop : Number, allowed.number start → allowed.number stop →
    ∀ place < (Number.larger (stop.toFloat - start.toFloat).ceil 0).toUInt64.toNat,
      allowed.number (.ofFloat (start.toFloat + Number.ofCount place))

namespace Value

/-- All numbers and blocks of a value are allowed. -/
inductive MadeOf (allowed : Ingredients) : Value → Prop
  | number {value : Number} : allowed.number value → MadeOf allowed (.number value)
  | symbol (name : String) : MadeOf allowed (.symbol name)
  | boolean (value : Bool) : MadeOf allowed (.boolean value)
  | string (units : List UInt16) (style : Option Style) : MadeOf allowed (.string units style)
  | box (id : BoxId) : MadeOf allowed (.box id)
  | list {items : List Value} : (∀ item ∈ items, MadeOf allowed item) →
      MadeOf allowed (.list items)
  | table {entries : Table Value Value} : (∀ entry ∈ entries.toList, MadeOf allowed entry.1) →
      (∀ entry ∈ entries.toList, MadeOf allowed entry.2) → MadeOf allowed (.table entries)
  | block {code : Block} {frame : Option FrameId} : allowed.closure ⟨code, frame⟩ →
      MadeOf allowed (.block code frame)
  | identifier (name : String) : MadeOf allowed (.identifier name)

attribute [simp] MadeOf.symbol MadeOf.boolean MadeOf.string MadeOf.box MadeOf.identifier

section

variable {allowed other : Ingredients}

@[simp] theorem madeOf_number_iff {value : Number} :
    (number value).MadeOf allowed ↔ allowed.number value := by
  refine ⟨fun h => ?_, .number⟩
  cases h
  assumption

@[simp] theorem madeOf_list_iff {items : List Value} :
    (list items).MadeOf allowed ↔ ∀ item ∈ items, item.MadeOf allowed := by
  refine ⟨fun h => ?_, .list⟩
  cases h
  assumption

@[simp] theorem madeOf_table_iff {entries : Table Value Value} :
    (table entries).MadeOf allowed ↔
      ∀ entry ∈ entries.toList, entry.1.MadeOf allowed ∧ entry.2.MadeOf allowed := by
  constructor
  · rintro (_ | _ | _ | _ | _ | _ | ⟨hkeys, hvalues⟩) entry hentry
    exact ⟨hkeys entry hentry, hvalues entry hentry⟩
  · intro h
    exact .table (fun entry hentry => (h entry hentry).1) fun entry hentry => (h entry hentry).2

@[simp] theorem madeOf_block_iff {code : Block} {frame : Option FrameId} :
    (block code frame).MadeOf allowed ↔ allowed.closure ⟨code, frame⟩ := by
  refine ⟨fun h => ?_, .block⟩
  cases h
  assumption

@[simp] theorem madeOf_ofUnits (units : List UInt16) : (ofUnits units).MadeOf allowed :=
  .string units none

/-- What is made of allowed things is made of them where more is allowed. -/
theorem MadeOf.mono {value : Value} (h : value.MadeOf allowed)
    (hnumber : ∀ n, allowed.number n → other.number n)
    (hclosure : ∀ closure, allowed.closure closure → other.closure closure) :
    value.MadeOf other := by
  induction h with
  | number h => exact .number (hnumber _ h)
  | list _ ih => exact .list ih
  | table _ _ ihKeys ihValues => exact .table ihKeys ihValues
  | block h => exact .block (hclosure _ h)
  | symbol | boolean | string | box | identifier => constructor

end

/-- Where everything is allowed, every value is made of it. -/
theorem madeOf_anything : ∀ value : Value, value.MadeOf .anything
  | .number _ => .number trivial
  | .symbol name => .symbol name
  | .boolean value => .boolean value
  | .string units style => .string units style
  | .box id => .box id
  | .list items => .list fun item hitem => by
      have := List.sizeOf_lt_of_mem hitem
      exact madeOf_anything item
  | .table entries => by
      have htable : sizeOf entries.root < sizeOf entries := by
        cases entries
        simp only [Table.mk.sizeOf_spec]
        omega
      refine .table (fun entry hentry => ?_) fun entry hentry => ?_
      all_goals
        rw [Table.toList_eq] at hentry
        obtain ⟨hkey, hvalue⟩ := Tree.sizeOf_lt_of_mem_toList hentry
      · exact madeOf_anything entry.1
      · exact madeOf_anything entry.2
  | .block _ _ => .block trivial
  | .identifier name => .identifier name
termination_by value => sizeOf value

end Value

/-! ### Tables of values -/

namespace ValueTable

variable {allowed : Ingredients} {table : ValueTable} {key value : Value}

theorem madeOf_insert (htable : (Value.table table).MadeOf allowed)
    (hkey : key.MadeOf allowed) (hvalue : value.MadeOf allowed) :
    (Value.table (table.insert key value)).MadeOf allowed := by
  rw [Value.madeOf_table_iff, Table.toList_eq] at htable ⊢
  intro entry hentry
  obtain ⟨hfirst, hsecond⟩ := Tree.mem_toList_insert hentry
  constructor
  · rcases hfirst with hfirst | ⟨old, hold, hfirst⟩
    · rw [hfirst]
      exact hkey
    · rw [← hfirst]
      exact (htable old hold).1
  · rcases hsecond with hsecond | ⟨old, hold, hsecond⟩
    · rw [hsecond]
      exact hvalue
    · rw [← hsecond]
      exact (htable old hold).2

theorem madeOf_erase (htable : (Value.table table).MadeOf allowed) :
    (Value.table (table.erase key)).MadeOf allowed := by
  rw [Value.madeOf_table_iff] at htable ⊢
  intro entry hentry
  rw [ValueTable.erase, Table.erase] at hentry
  cases herase : table.root.erase? Value.compare key with
  | none => exact htable entry (by simpa only [herase] using hentry)
  | some root =>
      rw [herase, Table.toList_eq] at hentry
      rw [Table.toList_eq] at htable
      exact htable entry (Tree.toList_erase?_subset herase hentry)

theorem madeOf_get? (htable : (Value.table table).MadeOf allowed)
    (hget : table.get? key = some value) : value.MadeOf allowed := by
  obtain ⟨entry, hentry, rfl⟩ := Tree.mem_toList_of_get? hget
  rw [Value.madeOf_table_iff, Table.toList_eq] at htable
  exact (htable entry hentry).2

end ValueTable

/-! ### Computations of builtin words -/

/-- Whatever a computation gives is as asked. -/
def Yields {α : Type} (good : α → Prop) (computed : Except Failure α) : Prop :=
  ∀ result, computed = .ok result → good result

namespace Yields

variable {α β : Type} {good : α → Prop} {better : β → Prop}

theorem ok {result : α} (h : good result) : Yields good (.ok result) := by
  rintro _ ⟨⟩
  exact h

theorem pure {result : α} (h : good result) : Yields good (Pure.pure result) :=
  ok h

theorem error (failure : Failure) : Yields good (.error failure) := by
  rintro _ ⟨⟩

theorem throw (failure : Failure) : Yields good (MonadExcept.throw failure) :=
  error failure

theorem bind {computed : Except Failure α} {next : α → Except Failure β}
    (hcomputed : Yields good computed) (hnext : ∀ result, good result → Yields better (next result)) :
    Yields better (computed >>= next) := by
  cases computed with
  | error failure => exact error failure
  | ok result => exact hnext result (hcomputed result rfl)

/-- Where the next step does not need to know what it goes on from. -/
theorem andThen {computed : Except Failure α} {next : α → Except Failure β}
    (hnext : ∀ result, Yields better (next result)) : Yields better (computed >>= next) := by
  have hany : Yields (fun _ => True) computed := fun _ _ => trivial
  exact hany.bind fun result _ => hnext result

theorem ite {condition : Prop} [Decidable condition] {yes no : Except Failure α}
    (hyes : Yields good yes) (hno : Yields good no) :
    Yields good (if condition then yes else no) := by
  split
  · exact hyes
  · exact hno

end Yields

namespace Operands

variable {allowed : Ingredients} {operands : Operands}

theorem yields_value (hoperands : ∀ value ∈ operands, value.MadeOf allowed) (index : Nat) :
    Yields (Value.MadeOf allowed) (operands.value index) := by
  rw [value]
  split
  · rename_i value hvalue
    exact .ok (hoperands value (List.mem_of_getElem? hvalue))
  · exact .error _

/-- An operand is read from a value that was given. -/
theorem yields_read {α : Type} {as? : Value → Option α} {good : α → Prop}
    (hoperands : ∀ value ∈ operands, value.MadeOf allowed)
    (has : ∀ value result, value.MadeOf allowed → as? value = some result → good result)
    (kind : Kind) (index : Nat) : Yields good (operands.read kind as? index) := by
  rw [read]
  split
  · rename_i result hresult
    obtain ⟨value, hvalue, hread⟩ := Option.bind_eq_some_iff.1 hresult
    exact .ok (has value result (hoperands value (List.mem_of_getElem? hvalue)) hread)
  · exact .error _

theorem yields_number (hoperands : ∀ value ∈ operands, value.MadeOf allowed) (index : Nat) :
    Yields (fun x => ∃ n, allowed.number n ∧ n.toFloat = x) (operands.number index) := by
  have hread : Yields allowed.number (operands.read .number Value.number? index) := by
    refine yields_read hoperands (fun value result hvalue hread => ?_) _ _
    cases value <;> simp_all [Value.number?]
  intro x hx
  rw [number] at hx
  cases hresult : operands.read .number Value.number? index with
  | error failure => simp [hresult, Except.map] at hx
  | ok n =>
      refine ⟨n, hread n hresult, ?_⟩
      simpa [hresult, Except.map] using hx

theorem yields_items (hoperands : ∀ value ∈ operands, value.MadeOf allowed) (index : Nat) :
    Yields (fun items => ∀ item ∈ items, item.MadeOf allowed) (operands.items index) := by
  refine yields_read hoperands (fun value items hvalue hread => ?_) _ _
  cases value <;> simp_all [Value.items?]

theorem yields_table (hoperands : ∀ value ∈ operands, value.MadeOf allowed) (index : Nat) :
    Yields (fun table => (Value.table table).MadeOf allowed) (operands.table index) := by
  refine yields_read hoperands (fun value table hvalue hread => ?_) _ _
  cases value with
  | table entries =>
      obtain rfl : entries = table := Option.some.inj hread
      exact hvalue
  | _ => simp [Value.table?] at hread

end Operands

/-- An operation gives what is made of what it was given. -/
def Operation.Keeps (allowed : Ingredients) (apply : Operation) : Prop :=
  ∀ operands : Operands, (∀ value ∈ operands, value.MadeOf allowed) →
    Yields (Value.MadeOf allowed) (apply operands)

namespace Builtin

/-- All operations of a word keep to what is allowed. -/
def Keeps (allowed : Ingredients) (builtin : Builtin) : Prop :=
  ∀ signature ∈ builtin.signatures, Operation.Keeps allowed signature.apply

variable {allowed : Ingredients}

theorem keeps_single {name : String} {params : List Param} {returns : ParamType}
    {apply : Operation} (happly : apply.Keeps allowed) :
    (single name params returns apply).Keeps allowed := by
  intro signature hsignature
  obtain rfl : signature = ⟨params, returns, apply⟩ := by
    simpa [single, signatures] using hsignature
  exact happly

theorem keeps_overloaded {name : String} {overloads : List (Kind × ParamType × Operation)}
    (happly : ∀ overload ∈ overloads, Operation.Keeps allowed overload.2.2) :
    (overloaded name overloads).Keeps allowed := by
  intro signature hsignature
  obtain ⟨overload, hoverload, rfl⟩ := List.mem_map.1 hsignature
  exact happly overload hoverload

theorem yields_tableKey {key : Value} (hkey : key.MadeOf allowed) :
    Yields (Value.MadeOf allowed) (tableKey key) := by
  rw [tableKey]
  split
  · exact .error _
  · exact .error _
  · exact .ok hkey

section

variable (hallowed : allowed.Computed)

include hallowed

theorem yields_finite (x : Float) : Yields (Value.MadeOf allowed) (finite x) := by
  rw [finite]
  split
  · rename_i hfinite
    exact .ok (.number (hallowed.finite x hfinite))
  · exact .error _

theorem yields_range {start stop : Number} (hstart : allowed.number start)
    (hstop : allowed.number stop) :
    Yields (Value.MadeOf allowed) (range start.toFloat stop.toFloat) := by
  rw [range]
  refine .ite (.throw _) (.pure (.list fun item hitem => ?_))
  obtain ⟨place, hplace, rfl⟩ := List.mem_map.1 hitem
  exact .number (hallowed.range start stop hstart hstop place (List.mem_range.1 hplace))

theorem yields_readNumber (units : List UInt16) :
    Yields (Value.MadeOf allowed) (readNumber units) := by
  rw [readNumber]
  split
  · split
    · rename_i n _ hfinite
      exact .ok (.number (hallowed.read n hfinite))
    · exact .error _
  · exact .error _

/-! ### Every builtin word -/

theorem keeps_arithmetic : ∀ builtin ∈ arithmetic, builtin.Keeps allowed := by
  simp only [arithmetic, List.forall_mem_cons, unary, binary]
  refine ⟨?_, ?_, ?_, ?_, ?_, ?_, ?_, ?_, ?_, ?_, ?_, ?_, ?_, ?_, ?_, ?_, ?_, ?_, ?_,
    List.forall_mem_nil _⟩
  -- whatever is computed on the way, the result has been found to be finite
  all_goals
    refine keeps_single fun operands _ => ?_
    repeat' first
      | exact yields_finite hallowed _
      | exact .throw _
      | refine .ite ?_ ?_
      | refine .andThen fun _ => ?_

theorem keeps_numberCheck (name param : String) (test : Float → Bool) (failure : Failure) :
    (numberCheck name param test failure).Keeps allowed := by
  refine keeps_single fun operands hoperands => ?_
  refine .bind (Operands.yields_number hoperands 0) ?_
  rintro _ ⟨n, hn, rfl⟩
  exact .ite (.pure (.number (hallowed.double n hn))) (.throw _)

omit hallowed in
theorem keeps_numberTest (name : String) (test : Float → Bool) :
    (numberTest name test).Keeps allowed :=
  keeps_single fun _ _ => .andThen fun _ => .pure (.boolean _)

theorem keeps_checks : ∀ builtin ∈ checks, builtin.Keeps allowed := by
  simp only [checks, List.forall_mem_cons]
  refine ⟨keeps_numberTest _ _, keeps_numberCheck hallowed _ _ _ _, keeps_numberTest _ _,
    keeps_numberCheck hallowed _ _ _ _, keeps_single fun operands hoperands => ?_,
    List.forall_mem_nil _⟩
  exact .andThen fun _ => .ite (Operands.yields_value hoperands 1)
    (Operands.yields_value hoperands 2)

omit hallowed in
theorem keeps_comparisons : ∀ builtin ∈ comparisons, builtin.Keeps allowed := by
  have hcomparison (name : String) (test : Ordering → Bool) :
      (comparison name test).Keeps allowed :=
    keeps_single fun _ _ => .andThen fun _ => .andThen fun _ => .pure (.boolean _)
  simp [comparisons, hcomparison]

omit hallowed in
theorem keeps_connectives : ∀ builtin ∈ connectives, builtin.Keeps allowed := by
  simp only [connectives, List.forall_mem_cons, connective]
  refine ⟨?_, ?_, ?_, ?_, List.forall_mem_nil _⟩
  all_goals
    refine keeps_single fun operands _ => ?_
    repeat' first
      | exact .pure (.boolean _)
      | refine .ite ?_ ?_
      | refine .andThen fun _ => ?_

theorem keeps_lists : ∀ builtin ∈ lists, builtin.Keeps allowed := by
  simp only [lists, List.forall_mem_cons]
  refine ⟨keeps_single fun operands hoperands => ?_, keeps_single fun operands _ => ?_,
    keeps_single fun operands hoperands => ?_, keeps_single fun operands hoperands => ?_,
    List.forall_mem_nil _⟩
  · refine .bind (Operands.yields_items hoperands 1) fun items hitems => ?_
    refine .bind (Operands.yields_value hoperands 0) fun item hitem => ?_
    exact .pure (.list (List.forall_mem_cons.2 ⟨hitem, hitems⟩))
  · exact .pure (.list (List.forall_mem_nil _))
  · refine .bind (Operands.yields_number hoperands 0) ?_
    rintro _ ⟨start, hstart, rfl⟩
    refine .bind (Operands.yields_number hoperands 1) ?_
    rintro _ ⟨stop, hstop, rfl⟩
    exact yields_range hallowed hstart hstop
  · refine .bind (Operands.yields_items hoperands 0) fun items hitems => ?_
    exact .pure (.list fun item hitem => hitems item (List.mem_reverse.1 hitem))

theorem keeps_sequences : ∀ builtin ∈ sequences, builtin.Keeps allowed := by
  have hnumber (n : Nat) : (Value.ofFloat (Number.ofCount n)).MadeOf allowed :=
    .number (hallowed.count n)
  simp only [sequences, List.forall_mem_cons]
  refine ⟨keeps_overloaded ?_, keeps_overloaded ?_, keeps_overloaded ?_, keeps_overloaded ?_,
    List.forall_mem_nil _⟩
  all_goals
    simp only [List.forall_mem_cons]
    refine ⟨fun operands hoperands => ?_, fun operands _ => ?_, List.forall_mem_nil _⟩
  · refine .bind (Operands.yields_items hoperands 0) fun items hitems => ?_
    cases items with
    | nil => exact .throw _
    | cons first rest => exact .pure (hitems first List.mem_cons_self)
  · refine .andThen fun units => ?_
    cases units with
    | nil => exact .throw _
    | cons first rest => exact .pure (Value.madeOf_ofUnits _)
  · refine .bind (Operands.yields_items hoperands 0) fun items hitems => ?_
    cases items with
    | nil => exact .throw _
    | cons first rest => exact .pure (.list (List.forall_mem_cons.1 hitems).2)
  · refine .andThen fun units => ?_
    cases units with
    | nil => exact .throw _
    | cons first rest => exact .pure (Value.madeOf_ofUnits _)
  · exact .andThen fun items => .pure (hnumber _)
  · exact .andThen fun units => .pure (hnumber _)
  · exact .andThen fun items => .pure (.boolean _)
  · exact .andThen fun units => .pure (.boolean _)

theorem keeps_strings : ∀ builtin ∈ strings, builtin.Keeps allowed := by
  have htext (name : String) (change : List Char → List Char) :
      (textWord name change).Keeps allowed :=
    keeps_single fun _ _ => .andThen fun _ => .pure (Value.madeOf_ofUnits _)
  simp only [strings, List.forall_mem_cons]
  refine ⟨keeps_single fun operands _ => ?_, keeps_single fun operands _ => ?_,
    keeps_single fun operands _ => ?_, htext _ _, htext _ _, keeps_single fun operands _ => ?_,
    keeps_single fun operands _ => ?_, keeps_single fun operands _ => ?_, List.forall_mem_nil _⟩
  · exact .andThen fun _ => .andThen fun _ => .pure (Value.madeOf_ofUnits _)
  · refine .andThen fun units => .andThen fun _ => .andThen fun start => .andThen fun _ =>
      .andThen fun stop => ?_
    exact .ite (.throw _) (.pure (Value.madeOf_ofUnits _))
  · refine .andThen fun _ => .andThen fun _ => .pure (.list fun piece hpiece => ?_)
    obtain ⟨units, _, rfl⟩ := List.mem_map.1 hpiece
    exact Value.madeOf_ofUnits units
  · refine .andThen fun units => ?_
    split
    · exact .pure (.number (hallowed.count _))
    · exact .throw _
  · exact .andThen fun _ => .ite (.ok (Value.madeOf_ofUnits _)) (.error _)
  · exact .andThen fun units => yields_readNumber hallowed units

omit hallowed in
theorem keeps_tables : ∀ builtin ∈ tables, builtin.Keeps allowed := by
  simp only [tables, List.forall_mem_cons]
  refine ⟨keeps_single fun operands hoperands => ?_, keeps_single fun operands hoperands => ?_,
    keeps_single fun operands hoperands => ?_, keeps_single fun operands hoperands => ?_,
    keeps_single fun operands hoperands => ?_, keeps_single fun operands hoperands => ?_,
    List.forall_mem_nil _⟩
  · refine .bind (Operands.yields_value hoperands 0) fun key hkey => ?_
    refine .bind (yields_tableKey hkey) fun key hkey => ?_
    refine .bind (Operands.yields_table hoperands 2) fun table htable => ?_
    refine .bind (Operands.yields_value hoperands 1) fun value hvalue => ?_
    exact .pure (ValueTable.madeOf_insert htable hkey hvalue)
  · refine .andThen fun key => .andThen fun key => ?_
    refine .bind (Operands.yields_table hoperands 1) fun table htable => ?_
    exact .pure (ValueTable.madeOf_erase htable)
  · exact .andThen fun _ => .andThen fun _ => .andThen fun _ => .pure (.boolean _)
  · refine .andThen fun key => .andThen fun key => ?_
    refine .bind (Operands.yields_table hoperands 1) fun table htable => ?_
    cases hget : ValueTable.get? table key with
    | none => exact .throw _
    | some value => exact .pure (ValueTable.madeOf_get? htable hget)
  · refine .bind (Operands.yields_table hoperands 0) fun table htable => ?_
    refine .pure (.list fun key hkey => ?_)
    obtain ⟨entry, hentry, rfl⟩ := List.mem_map.1 hkey
    exact (Value.madeOf_table_iff.1 htable entry hentry).1
  · refine .bind (Operands.yields_table hoperands 0) fun table htable => ?_
    refine .pure (.list fun value hvalue => ?_)
    obtain ⟨entry, hentry, rfl⟩ := List.mem_map.1 hvalue
    exact (Value.madeOf_table_iff.1 htable entry hentry).2

/-- Every builtin word gives what is made of what it was given. -/
theorem keeps_all : ∀ builtin ∈ all, builtin.Keeps allowed := by
  simp only [all, List.forall_mem_append]
  exact ⟨⟨⟨⟨⟨⟨⟨keeps_checks hallowed, keeps_arithmetic hallowed⟩, keeps_comparisons⟩,
    keeps_connectives⟩, keeps_lists hallowed⟩, keeps_sequences hallowed⟩,
    keeps_strings hallowed⟩, keeps_tables⟩

theorem keeps_of_ofName? {name : String} {builtin : Builtin} (h : ofName? name = some builtin) :
    builtin.Keeps allowed :=
  keeps_all hallowed builtin (List.mem_of_find?_eq_some h)

end

end Builtin

end StackProse
