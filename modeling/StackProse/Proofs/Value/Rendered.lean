import StackProse.Proofs.Number.Numerals
import StackProse.Proofs.Source.Enclosed
import StackProse.Proofs.Source.Quotations
import StackProse.Proofs.Text.Units
import StackProse.Proofs.Value.Order
import StackProse.Value.Written

/-!
# Rendered values

Inside a container, truth values, symbols, strings and finite numbers are written as literals: the
literal that is read from the text counts as equal to the value (`Value.exists_spelled`). So the
text of a list of such values is a block of literals, with blanks between them
(`Heap.nested_list`).

Only equality can be had. The style of a string is not written, and neither is the sign of zero.
-/

namespace StackProse

/-! ### Characters -/

namespace Letter

/-- Characters that are their own lowercase forms are left as they are. -/
theorem lowerTextFrom_eq {text : List Char} (h : ∀ c ∈ text, c ≠ 'Σ' ∧ lower c = [c])
    (before done : List Char) : lowerTextFrom before done text = done.reverse ++ text := by
  induction text generalizing before done with
  | nil => exact (List.append_nil _).symm
  | cons c rest ih =>
      obtain ⟨⟨hsigma, hlower⟩, hrest⟩ := List.forall_mem_cons.1 h
      rw [lowerTextFrom, if_neg hsigma, hlower, ih hrest]
      simp

end Letter

/-! ### Values -/

namespace Value

/-- The characters of symbols that are read as they are written. -/
def isNameChar (c : Char) : Bool :=
  c.isLower || c.isDigit || c == '-' || c == '?' || c == '!' || c == '\'' || c == '_'

/-- Whether a value is written as a literal that is read as an equal value. -/
def isPlain : Value → Bool
  | boolean _ => true
  | symbol name => !name.toList.isEmpty && name.toList.all isNameChar
  | string units _ => !Units.hasLoneSurrogate units
  | number value => value.toFloat.isFinite
  | _ => false

/-- The literal is what the value is written as, and is read as an equal value. -/
structure Spells (spelled : Literal.Spelled) (value : Value) : Prop where
  toList_write : ∀ box out, (value.write box out).toList = out.toList ++ spelled.text
  compare_eq : compare (.ofLiteral spelled.literal) value = .eq

/-- Characters up to the small letters are lowercase, if they are no capitals. -/
theorem lower_of_not_isUpper {c : Char} (hle : c.val ≤ 'z'.val) (h : c.isUpper = false) :
    Letter.lower c = [c] := by
  have hascii : c.toNat < 128 := Nat.lt_of_le_of_lt (UInt32.le_iff_toNat_le.1 hle) (by decide)
  have hupper : ¬ (c.val ≥ 'A'.val ∧ c.val ≤ 'Z'.val) := by
    simpa [Char.isUpper] using h
  rw [Letter.lower, if_pos hascii, Char.toLower, dif_neg hupper]

theorem classes_of_isNameChar {c : Char} (h : isNameChar c) :
    Token.isWordChar c ∧ c ≠ 'Σ' ∧ Letter.lower c = [c] := by
  simp only [isNameChar, Bool.or_eq_true, beq_iff_eq] at h
  rcases h with (((((hlower | hdigit) | rfl) | rfl) | rfl) | rfl) | rfl
  · have hupper : c.isUpper = false := by
      by_contra hupper
      rw [(Token.classes_of_isUpper (Bool.eq_true_of_not_eq_false hupper)).2] at hlower
      contradiction
    have hle : c.val ≤ 'z'.val := by
      simp only [Char.isLower, Bool.and_eq_true, decide_eq_true_eq] at hlower
      exact hlower.2
    refine ⟨?_, ?_, lower_of_not_isUpper hle hupper⟩
    · simp [Token.isWordChar, Char.isAlphanum, Char.isAlpha, hlower]
    · rintro rfl
      exact absurd hlower (by decide)
  · have hupper : c.isUpper = false := by
      by_contra hupper
      rw [(Token.classes_of_isUpper (Bool.eq_true_of_not_eq_false hupper)).1] at hdigit
      contradiction
    have hle : c.val ≤ 'z'.val := by
      simp only [Char.isDigit, Bool.and_eq_true, decide_eq_true_eq] at hdigit
      exact UInt32.le_trans hdigit.2 (by decide)
    refine ⟨?_, ne_of_isDigit hdigit (by decide), lower_of_not_isUpper hle hupper⟩
    simp [Token.isWordChar, Char.isAlphanum, hdigit]
  all_goals decide

theorem exists_spelled_symbol {name : String} (h : (symbol name).isPlain) :
    ∃ spelled : Literal.Spelled, Spells spelled (symbol name) := by
  simp only [isPlain, Bool.and_eq_true, Bool.not_eq_true', List.isEmpty_eq_false_iff,
    List.all_eq_true] at h
  obtain ⟨hne, hname⟩ := h
  have hlower : Letter.lowerText name.toList = name.toList :=
    Letter.lowerTextFrom_eq (fun c hc => (classes_of_isNameChar (hname c hc)).2) [] []
  refine ⟨.symbol name.toList hne fun c hc => (classes_of_isNameChar (hname c hc)).1, ?_, ?_⟩
  · intro box out
    rw [write, String.toList_append, String.toList_push, List.append_assoc]
    rfl
  · rw [Literal.Spelled.literal, hlower, String.ofList_toList]
    exact Std.ReflOrd.compare_self

theorem exists_spelled_string {units : List UInt16} {style : Option Style}
    (h : (string units style).isPlain) :
    ∃ spelled : Literal.Spelled, Spells spelled (string units style) := by
  have hunits : Units.ofChars (Units.toChars units) = units := by
    apply Units.ofChars_toChars
    simpa [isPlain] using h
  refine ⟨.string ((Units.toChars units).map Quoted.pieceOf), ?_, ?_⟩
  · intro box out
    rw [write, writeQuoted, Literal.Spelled.text, Quoted.written_pieceOf]
    simp
  · rw [Literal.Spelled.literal, Quoted.meaning_pieces, hunits]
    change List.compareLex Ord.compare units units = .eq
    exact Std.ReflCmp.compare_self

theorem exists_spelled {value : Value} (h : value.isPlain) :
    ∃ spelled : Literal.Spelled, Spells spelled value := by
  cases value with
  | boolean value =>
      cases value with
      | true =>
          refine ⟨.boolean ⟨true, 'T', ['r', 'u', 'e'], rfl, rfl⟩, ?_, rfl⟩
          intro box out
          exact String.toList_append
      | false =>
          refine ⟨.boolean ⟨false, 'F', ['a', 'l', 's', 'e'], rfl, rfl⟩, ?_, rfl⟩
          intro box out
          exact String.toList_append
  | symbol name => exact exists_spelled_symbol h
  | string units style => exact exists_spelled_string h
  | number value =>
      obtain ⟨numeral, htext, hcompare⟩ := Number.exists_numeral h
      refine ⟨.number numeral, ?_, hcompare⟩
      intro box out
      rw [write, String.toList_append, htext]
      rfl
  | box | list | table | block | identifier => contradiction

/-- A list of values, each with the literal that it is written as. -/
theorem exists_spellings {items : List Value} (h : ∀ item ∈ items, item.isPlain) :
    ∃ spelled : List Literal.Spelled, List.Forall₂ Spells spelled items := by
  induction items with
  | nil => exact ⟨[], .nil⟩
  | cons item items ih =>
      obtain ⟨hitem, hitems⟩ := List.forall_mem_cons.1 h
      obtain ⟨first, hfirst⟩ := exists_spelled hitem
      obtain ⟨rest, hrest⟩ := ih hitems
      exact ⟨first :: rest, .cons hfirst hrest⟩

theorem compareLex_eq {first second : List Value}
    (h : List.Forall₂ (fun a b => compare a b = .eq) first second) :
    List.compareLex compare first second = .eq := by
  induction h with
  | nil => rfl
  | cons hitem _ ih => rw [List.compareLex_cons_cons, hitem, ih]; rfl

/-- The values of the literals make an equal list. -/
theorem compare_list {spelled : List Literal.Spelled} {items : List Value}
    (h : List.Forall₂ Spells spelled items) :
    compare (.list (spelled.map fun literal => .ofLiteral literal.literal)) (.list items) =
      .eq := by
  rw [compare, compareBy_list]
  apply compareLex_eq
  rw [List.forall₂_reverse_iff, List.forall₂_map_left_iff]
  exact h.imp fun _ _ hspells => hspells.compare_eq

/-! ### The text of a list -/

theorem toList_writeItems {spelled : List Literal.Spelled} {items : List Value}
    (h : List.Forall₂ Spells spelled items) (box : String → BoxId → String) (out : String) :
    (writeItems box out false items).toList =
      out.toList ++ spelled.flatMap fun literal => ' ' :: literal.text := by
  induction h generalizing out with
  | nil => exact (List.append_nil _).symm
  | cons hspells _ ih =>
      rw [writeItems, if_neg Bool.false_ne_true, ih, hspells.toList_write, String.toList_push,
        List.flatMap_cons, List.append_assoc, List.append_assoc]
      rfl

end Value

/-- The text of a list is a block of literals. -/
theorem Heap.nested_list (heap : Heap) {spelled : List Literal.Spelled} {items : List Value}
    (h : List.Forall₂ Value.Spells spelled items) :
    (heap.nested (.list items)).toList =
      '(' :: (Lexeme.spaced (spelled.map (·.lexeme)) ++ [')']) := by
  rw [Heap.nested, Heap.writeInside, Value.write, String.toList_push]
  cases h with
  | nil =>
      rw [Value.writeItems, String.toList_push]
      rfl
  | cons hfirst hrest =>
      rw [Value.writeItems, if_pos rfl, Value.toList_writeItems hrest, hfirst.toList_write,
        List.map_cons, Lexeme.spaced_cons, List.flatMap_map]
      rfl

end StackProse
