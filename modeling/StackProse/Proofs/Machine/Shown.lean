import StackProse.Machine.Process
import StackProse.Proofs.Text.Units

/-!
# Shown values

`Show` replaces a value by a string of what it is printed as. The text of the value is encoded and, when
the string is printed, decoded again, which gives back the text (`Units.toString_ofString`), and the
string keeps the style. So to show a value before it is printed changes nothing, and neither does to
show it twice.
-/

namespace StackProse

/-- The string that a value is shown as. -/
def Heap.shown (heap : Heap) (value : Value) : Value :=
  .string (Units.ofString (heap.printed value).text) (heap.printed value).style

/-- What a value is shown as is printed as the value is. -/
theorem Heap.printed_shown (heap : Heap) (value : Value) :
    heap.printed (heap.shown value) = heap.printed value := by
  rw [shown, printed, Units.toString_ofString]

theorem Heap.shown_shown (heap : Heap) (value : Value) :
    heap.shown (heap.shown value) = heap.shown value := by
  rw [shown, printed_shown, ← shown]

namespace Machine

section

variable (runner : Runner) (scene : Scene) (machine : Machine) (value : Value) (below : List Value)

theorem runKeyword_toText :
    runKeyword runner scene .toText { machine with stack := value :: below } =
      .ok () { machine with stack := machine.heap.shown value :: below } :=
  rfl

theorem runKeyword_print :
    runKeyword runner scene .print { machine with stack := value :: below } =
      .ok () { machine with
        stack := below, console := machine.console.print (machine.heap.printed value) true } :=
  rfl

theorem runKeyword_put :
    runKeyword runner scene .put { machine with stack := value :: below } =
      .ok () { machine with
        stack := below, console := machine.console.print (machine.heap.printed value) false } :=
  rfl

end

/-- To show a value is not noticed when it is printed. `Show` leaves a string; `Print` and `Put` do with
the string what they do with the value, which is to print its text with its style; and `Show` leaves
the string as it is. This is so for every value on every heap. -/
theorem showing_is_not_noticed (runner : Runner) (scene : Scene) (machine : Machine) (value : Value)
    (below : List Value) :
    let start : Machine := { machine with stack := value :: below }
    ∃ units style,
      let shown : Machine := { machine with stack := .string units style :: below }
      runKeyword runner scene .toText start = .ok () shown ∧
      runKeyword runner scene .toText shown = .ok () shown ∧
      runKeyword runner scene .print shown = runKeyword runner scene .print start ∧
      runKeyword runner scene .put shown = runKeyword runner scene .put start ∧
      runKeyword runner scene .print start = .ok () { machine with
        stack := below, console := machine.console.print (machine.heap.printed value) true } ∧
      runKeyword runner scene .put start = .ok () { machine with
        stack := below, console := machine.console.print (machine.heap.printed value) false } := by
  intro start
  have hprinted := machine.heap.printed_shown value
  refine ⟨Units.ofString (machine.heap.printed value).text, (machine.heap.printed value).style,
    runKeyword_toText runner scene machine value below, ?_, ?_, ?_,
    runKeyword_print runner scene machine value below,
    runKeyword_put runner scene machine value below⟩
  · rw [← Heap.shown, runKeyword_toText, Heap.shown_shown]
  · rw [← Heap.shown, runKeyword_print, runKeyword_print, hprinted]
  · rw [← Heap.shown, runKeyword_put, runKeyword_put, hprinted]

end Machine

end StackProse
