import StackProse.Proofs.Machine.Expressions

/-!
# Words applied to operands

`Machine.Applies` says what a builtin word makes of operands on top of the stack, on every machine.
Where a program has the word as an item and does not bind its name, the item does just that
(`Machine.Applies.runItems`).

The words on lists are the first to get such a statement each, for they are what the order of a list
means: `Machine.Lists` takes a value apart with `First` and `Rest` and so gives its items from the
first to the last.
-/

namespace StackProse.Machine

/-- The builtin word takes the operands from the top of the stack, the one written first on top, and
puts the result in their place. -/
def Applies (name : String) (operands : List Value) (result : Value) : Prop :=
  ∃ builtin, Builtin.ofName? name = some builtin ∧ ∀ (machine : Machine) (below : List Value),
    runBuiltin builtin { machine with stack := operands ++ below } =
      .ok () { machine with stack := result :: below }

/-- An item with the name of a builtin word carries the word out, if the name is bound to nothing. -/
theorem Applies.runItems {name : String} {operands : List Value} {result : Value}
    (h : Applies name operands result) (runner : Runner) {scene : Scene} {word : Word}
    (hword : word.name = name) {rest : List Item} (hrest : takesNameBefore rest = false)
    {machine : Machine} (hlookup : machine.frames.lookup scene.frame name = none)
    (below : List Value) :
    runItems runner scene (.word word :: rest) { machine with stack := operands ++ below } =
      runItems runner scene rest { machine with stack := result :: below } := by
  obtain ⟨builtin, hbuiltin, hrun⟩ := h
  have hmem : builtin ∈ Builtin.all := List.mem_of_find?_eq_some hbuiltin
  have hname : builtin.name = name := by simpa using List.find?_some hbuiltin
  obtain ⟨-, -, hkeyword⟩ := Builtin.name_of_mem builtin hmem
  rw [hname] at hkeyword
  have hdeed : Deed.ofItem scene rest (.word word) { machine with stack := operands ++ below } =
      .done (runBuiltin builtin { machine with stack := operands ++ below }) := by
    simp only [Deed.ofItem, hrest, Bool.false_eq_true, if_false, Deed.ofWord, hword, hlookup,
      Deed.ofVocabulary, hkeyword, hbuiltin]
  rw [runItems_cons, hdeed, Deed.perform, hrun]

section

variable (item : Value) (items : List Value)

theorem applies_push : Applies "Push" [item, .list items] (.list (item :: items)) :=
  ⟨_, rfl, fun _ _ => rfl⟩

theorem applies_empty : Applies "Empty" [] (.list []) :=
  ⟨_, rfl, fun _ _ => rfl⟩

theorem applies_first : Applies "First" [.list (item :: items)] item :=
  ⟨_, rfl, fun _ _ => rfl⟩

theorem applies_rest : Applies "Rest" [.list (item :: items)] (.list items) :=
  ⟨_, rfl, fun _ _ => rfl⟩

theorem applies_isEmpty : Applies "Empty?" [.list items] (.boolean items.isEmpty) :=
  ⟨_, rfl, fun _ _ => rfl⟩

end

theorem applies_if (condition : Bool) (yes no : Value) :
    Applies "If" [.boolean condition, yes, no] (if condition then yes else no) := by
  refine ⟨_, rfl, fun machine below => ?_⟩
  cases condition <;> rfl

/-- `First` and `Rest` take these items from a value, one after the other, until `Empty?` says that
there are no more. -/
inductive Lists : Value → List Value → Prop
  | nil {value : Value} : Applies "Empty?" [value] (.boolean true) → Lists value []
  | cons {value first rest : Value} {items : List Value} :
      Applies "Empty?" [value] (.boolean false) → Applies "First" [value] first →
      Applies "Rest" [value] rest → Lists rest items → Lists value (first :: items)

/-- A list has its first item in front. -/
theorem lists_list (items : List Value) : Lists (.list items) items := by
  induction items with
  | nil => exact .nil (applies_isEmpty [])
  | cons first rest ih =>
      exact .cons (applies_isEmpty (first :: rest)) (applies_first first rest)
        (applies_rest first rest) ih

end StackProse.Machine
