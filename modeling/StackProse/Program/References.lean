import StackProse.Program.Problem

/-!
# References

`Block.references` finds what the words of a program refer to before it runs. Every word that is
not part of the language has to be declared in an enclosing block. All words are looked at, so all
undefined ones are found at once.
-/

namespace StackProse

/-- The words of a program that are not part of the language, in the order in which they run. -/
structure References where
  /-- The words that nothing declares. -/
  undefined : List Word := []
  /-- The words that call a function. -/
  calls : List Word := []
  /-- The problems that undefined words are reported as. -/
  problems : List Problem := []
  deriving Inhabited

namespace References

/-- Whether every word is declared. -/
def isClean (references : References) : Bool :=
  references.undefined.isEmpty

/-- Adds a word that is not part of the language, in front of the words found before. -/
def add (scope : Scope) (found : References) (word : Word) : References :=
  match scope.find? word.name with
  | some .function => { found with calls := word :: found.calls }
  | some .value => found
  | none =>
      { found with
        undefined := word :: found.undefined
        problems := ⟨.undefined word.name, word.span, word.position⟩ :: found.problems }

/-- Whether the first of the items is a word that declares the name before it. -/
def declaresBefore : List Item → Bool
  | .word next :: _ => (Declaration.ofKeyword? next.name).isSome
  | _ => false

mutual

/-- Adds the words of a block, newest first. `known` tells the words of the language. -/
def visit (known : String → Bool) (outer : Scope) (found : References) : Block → References
  | .mk _ _ declared body => visitItems known (declared :: outer) found body

/-- Adds the words of a row of items, newest first. -/
def visitItems (known : String → Bool) (scope : Scope) (found : References) :
    List Item → References
  | [] => found
  | .literal _ :: rest => visitItems known scope found rest
  | .block block :: rest => visitItems known scope (visit known scope found block) rest
  | .word word :: rest =>
      if declaresBefore rest || known word.name then visitItems known scope found rest
      else visitItems known scope (found.add scope word) rest

end

end References

/-- The references of a block inside the blocks of `outer`, in the order in which they run. -/
def Block.references (known : String → Bool) (outer : Scope) (block : Block) : References :=
  let found := References.visit known outer {} block
  ⟨found.undefined.reverse, found.calls.reverse, found.problems.reverse⟩

end StackProse
