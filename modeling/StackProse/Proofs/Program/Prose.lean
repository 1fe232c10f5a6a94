import StackProse.Proofs.Program.Aspects
import StackProse.Proofs.Source.Prose

/-!
# Prose in programs

Words that begin with a small letter are for readers only. Such a word on a line of its own can be put
between any two tokens of a source, and the program stays the same but for the places of its words and
problems (`Program.prose_is_transparent`).

Sources with unknown tokens are left out: an unfinished string, say, takes up all that comes behind it.
-/

namespace StackProse.Program

/-- A word of prose on a line of its own, put at a boundary of a source whose tokens are all known, makes
the same nested blocks, with the same declarations and bodies, and the same problems, but for places. The
program is refused if it was refused without the word. -/
theorem prose_is_transparent (userCode : Bool) {before after letters : List Char} {first : Char}
    (hknown : ∀ token ∈ Token.scan (before ++ after), token.kind ≠ .unknown)
    (hboundary : Token.IsBoundary (before ++ after) (utf8Length before)) (hfirst : first.isLower)
    (hletters : ∀ c ∈ letters, Token.isWordChar c) :
    let plain := ofSource userCode (before ++ after)
    let told := ofSource userCode (before ++ '\n' :: (first :: letters ++ '\n' :: after))
    plain.root.unplaced = told.root.unplaced ∧ plain.isRejected = told.isRejected ∧
      plain.problems.map (·.cause) = told.problems.map (·.cause) := by
  have hseen := Node.seen_insert hknown hboundary.between hfirst hletters
  obtain ⟨hroot, hproblems, hrejected⟩ := Program.mk.inj (seen_ofSource userCode hseen)
  have hcauses := congrArg (List.map (·.cause)) hproblems
  rw [List.map_map, List.map_map] at hcauses
  exact ⟨hroot, hrejected, hcauses⟩

/-- A remark in the middle of a block. -/
theorem ofSource_with_remark :
    let before := "Def Twice (Mul 2".toList
    let after := "); ~~ note\nPrint Twice \"a\";".toList
    (∀ token ∈ Token.scan (before ++ after), token.kind ≠ .unknown) ∧
      Token.IsBoundary (before ++ after) (utf8Length before) ∧
      (ofSource true (before ++ after)).root.unplaced =
        (ofSource true (before ++ '\n' :: ("times".toList ++ '\n' :: after))).root.unplaced :=
  ⟨by decide +kernel, by decide +kernel,
    (@prose_is_transparent true _ _ "imes".toList 't' (by decide +kernel) (by decide +kernel) rfl
      (List.all_eq_true.1 rfl)).1⟩

end StackProse.Program
