import StackProse.Program.References
import StackProse.Proofs.Program.Reporting

/-!
# Programs that are refused

Assembling reports problems one by one and, apart from that, marks the program as one to refuse. The
mark is never set without a report and never forgotten after one, whatever the tree looks like
(`Assembly.marks_rootOf`), so a program is rejected exactly if it has problems
(`Program.isRejected_eq_false_iff`).

Looking for references reports a problem for each undefined word. `Block.problems_references` says
that it reports these and nothing else, in the order in which they are found.
-/

namespace StackProse

namespace Assembly

/-- A computation keeps the mark in step with the problems. Nothing else is asked of it. -/
abbrev Marks {α : Type} (run : Assemble α) : Prop :=
  Yields (fun _ => True) (fun _ _ _ _ => True) run

theorem marks_declare (declared : Declarations) (next : Option Item) (items : List Item) :
    Marks (declare declared next items) := by
  induction items generalizing declared next with
  | nil => exact .pure fun _ => trivial
  | cons item rest ih =>
      cases item with
      | literal | block => exact ih declared _
      | word keyword =>
          cases hkeyword : Declaration.ofKeyword? keyword.name with
          | none =>
              rw [declare_plain declared rest next hkeyword]
              exact ih declared _
          | some declaration =>
              by_cases hnext : ∃ name, next = some (.word name)
              · obtain ⟨name, rfl⟩ := hnext
                rw [declare_named declared rest name hkeyword]
                exact .ite (.report trivial (ih declared _) fun _ => trivial) (ih _ _)
              · have hdropped :
                    Marks (Pure.pure (declared, false) : Assemble (Declarations × Bool)) :=
                  .pure fun _ => trivial
                rw [declare_unnamed declared rest hkeyword hnext]
                exact .report trivial hdropped fun _ => trivial

theorem marks_rootOf {userCode : Bool} {parts : List Node}
    (hparts : Marks (partsOf userCode [] [] parts)) : Marks (rootOf userCode parts) := by
  refine yields_freshIndex.bind (fun index _ => ?_) fun _ h => h
  exact hparts.bind (fun _ _ => .pure fun _ => trivial) fun _ h => h

mutual

theorem marks_itemOf (userCode : Bool) : ∀ node : Node, Marks (itemOf userCode node)
  | .mk kind text span position missing children => by
      have hnone : Marks (Pure.pure none : Assemble (Option Item)) := .pure fun _ => trivial
      cases missing with
      | true =>
          rw [itemOf_missing]
          exact .reject trivial hnone fun _ => trivial
      | false =>
          cases kind with
          | comment => exact hnone
          | identifier => exact .pure fun _ => trivial
          | block =>
              rw [itemOf_block]
              exact (marks_rootOf (marks_partsOf userCode [] [] children)).bind
                (fun _ _ => .pure fun _ => trivial) fun _ h => h
          | _ =>
              rw [itemOf_of_ne _ _ _ _ _ (by simp)]
              split
              · exact .pure fun _ => trivial
              · exact .reject trivial hnone fun _ => trivial

theorem marks_itemsOf (userCode : Bool) (read : List Item) :
    ∀ nodes : List Node, Marks (itemsOf userCode read nodes)
  | [] => .pure fun _ => trivial
  | node :: rest => by
      rw [itemsOf_cons]
      exact (marks_itemOf userCode node).bind (fun _ _ => marks_itemsOf userCode _ rest) fun _ h => h

theorem marks_partsOf (userCode : Bool) (declared : Declarations) (body : List Item) :
    ∀ nodes : List Node, Marks (partsOf userCode declared body nodes)
  | [] => .pure fun _ => trivial
  | .mk kind text span position missing children :: rest => by
      by_cases hkind : kind = .statement
      · subst hkind
        rw [partsOf_statement]
        refine (marks_itemsOf userCode [] children).bind (fun items _ => ?_) fun _ h => h
        refine (marks_declare declared none items).bind (fun result _ => ?_) fun _ h => h
        exact marks_partsOf userCode result.1 _ rest
      · rw [partsOf_cons _ _ _ hkind]
        exact (marks_itemOf userCode _).bind (fun _ _ => marks_partsOf userCode declared _ rest)
          fun _ h => h

end

end Assembly

/-- A program is rejected exactly if there are problems with it. -/
theorem Program.isRejected_eq_false_iff (userCode : Bool) (node : Node) :
    (Program.ofNode userCode node).isRejected = false ↔
      (Program.ofNode userCode node).problems = [] := by
  have hparts := Assembly.marks_partsOf userCode [] [] node.children
  obtain ⟨added, hproblems, hrefused, -⟩ := Assembly.marks_rootOf hparts {}
  rw [List.append_nil] at hproblems
  show ((Assembly.rootOf userCode node.children).run {}).2.refused = false ↔
    ((Assembly.rootOf userCode node.children).run {}).2.problems.reverse = []
  rw [List.reverse_eq_nil_iff, ← Bool.not_eq_true, StateT.run, hrefused, hproblems]
  simp

/-! ### Undefined words -/

/-- The problem that an undefined word is. -/
def Word.problem (word : Word) : Problem :=
  ⟨.undefined word.name, word.span, word.position⟩

namespace References

/-- Every undefined word has been reported, and nothing else. -/
def Reported (found : References) : Prop :=
  found.problems = found.undefined.map Word.problem

theorem Reported.add {found : References} (h : found.Reported) (scope : Scope) (word : Word) :
    (found.add scope word).Reported := by
  unfold References.add
  split
  · exact h
  · exact h
  · exact congrArg (word.problem :: ·) h

mutual

theorem Reported.visit {known : String → Bool} {outer : Scope} {found : References}
    (h : found.Reported) : ∀ block : Block, (visit known outer found block).Reported
  | .mk _ _ _ body => h.visitItems body

theorem Reported.visitItems {known : String → Bool} {scope : Scope} {found : References}
    (h : found.Reported) : ∀ items : List Item, (visitItems known scope found items).Reported
  | [] => h
  | .literal _ :: rest => h.visitItems rest
  | .block nested :: rest => (h.visit nested).visitItems rest
  | .word word :: rest => by
      rw [References.visitItems]
      split
      · exact h.visitItems rest
      · exact (h.add scope word).visitItems rest

end

end References

/-- The undefined words of a block are the problems that are reported for it, one for one. -/
theorem Block.problems_references (known : String → Bool) (outer : Scope) (block : Block) :
    (block.references known outer).problems =
      (block.references known outer).undefined.map Word.problem := by
  have hnothing : References.Reported {} := rfl
  have hreported : (References.visit known outer {} block).Reported := hnothing.visit block
  unfold Block.references
  dsimp only
  rw [hreported, List.map_reverse]

theorem Block.isClean_references_iff (known : String → Bool) (outer : Scope) (block : Block) :
    (block.references known outer).isClean = true ↔
      (block.references known outer).problems = [] := by
  rw [References.isClean, List.isEmpty_iff, problems_references, List.map_eq_nil_iff]

end StackProse
