import StackProse.Session.Basic

/-!
# Notes

A note explains a remark on the source: the full message, the label at its place, and advice where
there is some.
-/

namespace StackProse

/-- An explanation of a remark on the source. -/
structure Note where
  message : String
  advice : Option String
  label : String
  /-- The first byte concerned. -/
  offset : Nat
  /-- The number of bytes concerned. -/
  length : Nat
  deriving Repr, DecidableEq, Inhabited

namespace Note

/-- Whether `part` occurs in a text. -/
def occursIn (part : List Char) : List Char → Bool
  | [] => part.isEmpty
  | c :: rest => part.isPrefixOf (c :: rest) || occursIn part rest

/-- What to do about a remark. -/
def adviceFor (label : String) : Option String :=
  let text := label.toList
  if "undefined symbol".toList.isPrefixOf text then
    some "declare it with `Def` or `Let` in this block or an enclosing one"
  else if occursIn "cannot shadow".toList text then
    some "use a different name, or declare it in a nested block"
  else if occursIn "before declaration".toList text then
    some "move the use after the statement that declares it"
  else none

/-- The note for a remark with its full message. -/
def ofDiagnostic (diagnostic : Diagnostic) (message : String) : Note :=
  { message := message
    advice := adviceFor diagnostic.message
    label := diagnostic.message
    offset := diagnostic.span.start
    length := diagnostic.span.length }

/-- The notes for what a console shows. Remarks and errors are paired in order. -/
def ofConsole (console : Console) : List Note :=
  List.zipWith ofDiagnostic console.diagnostics.toList console.errors.toList

end Note

end StackProse
