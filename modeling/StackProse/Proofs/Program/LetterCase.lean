import StackProse.Proofs.Program.Aspects
import StackProse.Proofs.Source.LetterCase

/-!
# Letter case in programs

Programs do not depend on letter case behind the first letter of a word. A source in other letter case
has the same tokens at the same places and makes the same program, with the same words, declarations and
problems at the same places (`Program.letter_case_is_ignored`).
-/

namespace StackProse

/-- Tokens that look alike have the same kinds and, where places count, the same places. -/
theorem Token.map_kind_span {aspect : Aspect} (hexact : aspect.isExact) {tokens others : List Token}
    (h : List.Forall₂ (Token.Like aspect) tokens others) :
    tokens.map (fun token => (token.kind, token.span)) =
      others.map (fun token => (token.kind, token.span)) := by
  induction h with
  | nil => rfl
  | cons htoken _ ih =>
      rw [List.map_cons, List.map_cons, ih, htoken.kind_eq, htoken.span_eq hexact]

namespace Program

/-- Sources that differ only in the case of letters in symbols, and behind the first character of
identifiers and truth words, have tokens of the same kinds at the same places and make the same
program. -/
theorem letter_case_is_ignored (userCode : Bool) {source other : List Char}
    (h : Token.Recased (Token.scan source) 0 source other) :
    (Token.scan source).map (fun token => (token.kind, token.span)) =
        (Token.scan other).map (fun token => (token.kind, token.span)) ∧
      ofSource userCode source = ofSource userCode other := by
  obtain ⟨others, hothers, hlike⟩ := h.scans (Token.scans_scan source)
  rw [← hothers.scan_eq] at hlike
  have hstarts : lineStarts source = lineStarts other := ignoresCase_lineStarts.eq h.letters
  have hstop : utf8Length source = utf8Length other := ignoresCase_utf8Length.eq h.letters
  refine ⟨?_, ?_⟩
  · exact Token.map_kind_span rfl hlike
  · have hdraft := Draft.like_empty.foldl hlike fun _ => hstarts
    have hseen := Node.seen_ofSource hdraft (fun _ => hstarts) fun _ => hstop
    have hprogram := seen_ofSource userCode hseen
    rwa [Aspect.program_of_isExact rfl, Aspect.program_of_isExact rfl] at hprogram

/-- A definition in other letter case. -/
theorem ofSource_in_capitals :
    Token.Recased (Token.scan "Def Greet (Print \\Hi; If TRUE Greet);".toList) 0
        "Def Greet (Print \\Hi; If TRUE Greet);".toList
        "DEF GREET (PRINT \\hI; IF True GreeT);".toList ∧
      ofSource true "Def Greet (Print \\Hi; If TRUE Greet);".toList =
        ofSource true "DEF GREET (PRINT \\hI; IF True GreeT);".toList :=
  ⟨by decide +kernel, (letter_case_is_ignored true (by decide +kernel)).2⟩

end Program

end StackProse
