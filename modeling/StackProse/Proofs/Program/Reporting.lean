import Mathlib.Logic.Basic
import StackProse.Program.Assembly

/-!
# What assembling reports

Assembling goes through a tree once. On its way it numbers blocks and reports problems, and nothing that
has been reported is forgotten. `Assembly.Yields` says this of a computation, together with whatever is
to be known about the problems that it adds and about its result. It has one rule for each way in which
computations are put together, so a fact about assembled programs needs a case for each kind of node and
no more.
-/

namespace StackProse.Assembly

/-- A computation adds problems, all of them `allowed`, and has the program refused exactly if it adds
one. With the problems that it adds, its result is as asked of the states before and after it. -/
def Yields {α : Type} (allowed : Problem → Prop)
    (good : List Problem → Assembly → α → Assembly → Prop) (run : Assemble α) : Prop :=
  ∀ state : Assembly, ∃ added : List Problem,
    (run state).2.problems = added ++ state.problems ∧
    ((run state).2.refused ↔ state.refused ∨ added ≠ []) ∧
    (∀ problem ∈ added, allowed problem) ∧ good added state (run state).1 (run state).2

namespace Yields

variable {α β : Type} {allowed : Problem → Prop}
  {good : List Problem → Assembly → α → Assembly → Prop}
  {better : List Problem → Assembly → β → Assembly → Prop}

theorem pure {result : α} (h : ∀ state, good [] state result state) :
    Yields allowed good (Pure.pure result) :=
  fun state => ⟨[], rfl, (or_iff_left (absurd rfl)).symm, List.forall_mem_nil _, h state⟩

/-- Two computations in a row. What is asked of the second may depend on what the first has given. -/
theorem bind {run : Assemble α} {next : α → Assemble β}
    {goodNext : α → List Problem → Assembly → β → Assembly → Prop} (hrun : Yields allowed good run)
    (hnext : ∀ result, (∃ added state middle, good added state result middle) →
      Yields allowed (goodNext result) (next result))
    (hall : ∀ {added more state result middle last after}, good added state result middle →
      goodNext result more middle last after → better (more ++ added) state last after) :
    Yields allowed better (run >>= next) := by
  intro state
  obtain ⟨added, hproblems, hrefused, hadded, hgood⟩ := hrun state
  obtain ⟨more, hproblems', hrefused', hmore, hgood'⟩ :=
    hnext (run state).1 ⟨added, state, _, hgood⟩ (run state).2
  refine ⟨more ++ added, ?_, ?_, List.forall_mem_append.2 ⟨hmore, hadded⟩, hall hgood hgood'⟩
  · rw [List.append_assoc, ← hproblems]
    exact hproblems'
  · rw [ne_eq, List.append_eq_nil_iff, and_comm, not_and_or, ← or_assoc, ← hrefused]
    exact hrefused'

theorem mono {run : Assemble α} {other : List Problem → Assembly → α → Assembly → Prop}
    (hrun : Yields allowed good run)
    (h : ∀ {added state result after}, good added state result after →
      other added state result after) : Yields allowed other run := by
  intro state
  obtain ⟨added, hproblems, hrefused, hadded, hgood⟩ := hrun state
  exact ⟨added, hproblems, hrefused, hadded, h hgood⟩

theorem ite {condition : Prop} [Decidable condition] {yes no : Assemble α}
    (hyes : Yields allowed good yes) (hno : Yields allowed good no) :
    Yields allowed good (if condition then yes else no) := by
  split
  · exact hyes
  · exact hno

/-- A report, the mark that follows it, and whatever comes after them. -/
theorem report {cause : Problem.Cause} {span : Span} {position : Position}
    {next : Unit → Assemble β} {goodNext : List Problem → Assembly → β → Assembly → Prop}
    (hproblem : allowed ⟨cause, span, position⟩) (hnext : Yields allowed goodNext (next ()))
    (hall : ∀ {more state middle last after}, goodNext more middle last after →
      better (more ++ [⟨cause, span, position⟩]) state last after) :
    Yields allowed better (Assembly.report cause span position >>= fun _ => refuse >>= next) := by
  intro state
  obtain ⟨more, hproblems, hrefused, hmore, hgood⟩ := hnext
    { state with problems := ⟨cause, span, position⟩ :: state.problems, refused := true }
  refine ⟨more ++ [⟨cause, span, position⟩], ?_, ?_, ?_, hall hgood⟩
  · rw [List.append_assoc]
    exact hproblems
  · exact iff_of_true (hrefused.2 (Or.inl rfl)) (Or.inr (List.concat_ne_nil _ _))
  · exact List.forall_mem_append.2 ⟨hmore, List.forall_mem_singleton.2 hproblem⟩

theorem reject {cause : Problem.Cause} {span : Span} {position : Position}
    {next : Unit → Assemble β} {goodNext : List Problem → Assembly → β → Assembly → Prop}
    (hproblem : allowed ⟨cause, span, position⟩) (hnext : Yields allowed goodNext (next ()))
    (hall : ∀ {more state middle last after}, goodNext more middle last after →
      better (more ++ [⟨cause, span, position⟩]) state last after) :
    Yields allowed better (Assembly.reject cause span position >>= next) :=
  report hproblem hnext hall

end Yields

/-- A block gets the next number. -/
theorem yields_freshIndex {allowed : Problem → Prop} :
    Yields allowed (fun added state index after => added = [] ∧ index = state.blocks ∧
      after.blocks = state.blocks + 1) freshIndex :=
  fun _ => ⟨[], rfl, (or_iff_left (absurd rfl)).symm, List.forall_mem_nil _, rfl, rfl, rfl⟩

/-! ### Words that declare -/

section

variable (declared : Declarations) {keyword : Word} (rest : List Item)

theorem declare_plain (next : Option Item)
    (hkeyword : Declaration.ofKeyword? keyword.name = none) :
    declare declared next (.word keyword :: rest) =
      declare declared (some (.word keyword)) rest := by
  simp only [declare, hkeyword]

/-- A declaring word with a name behind it, which is new or not. -/
theorem declare_named {declaration : Declaration} (name : Word)
    (hkeyword : Declaration.ofKeyword? keyword.name = some declaration) :
    declare declared (some (.word name)) (.word keyword :: rest) =
      if (declared.lookup name.name).isSome then
        report (.shadowed declaration name.name) name.span name.position >>= fun _ =>
          refuse >>= fun _ => declare declared (some (.word keyword)) rest
      else declare (declared ++ [(name.name, declaration)]) (some (.word keyword)) rest := by
  simp only [declare, hkeyword]

/-- A declaring word without a name behind it. -/
theorem declare_unnamed {declaration : Declaration} {next : Option Item}
    (hkeyword : Declaration.ofKeyword? keyword.name = some declaration)
    (hnext : ¬ ∃ name, next = some (.word name)) :
    declare declared next (.word keyword :: rest) =
      report (.nameExpected declaration) keyword.span keyword.position >>= fun _ =>
        refuse >>= fun _ => Pure.pure (declared, false) := by
  rcases next with _ | (_ | name | _)
  · simp only [declare, hkeyword]
  · simp only [declare, hkeyword]
  · exact absurd ⟨name, rfl⟩ hnext
  · simp only [declare, hkeyword]

end

/-! ### Nodes of each kind -/

section

variable (userCode : Bool) (text : List Char) (span : Span) (position : Position)
  (children : List Node)

theorem itemOf_missing (kind : NodeKind) :
    itemOf userCode (.mk kind text span position true children) =
      reject (.missing (String.ofList text)) span position >>= fun _ => Pure.pure none := by
  cases kind <;> rfl

theorem itemOf_comment :
    itemOf userCode (.mk .comment text span position false children) = Pure.pure none :=
  rfl

theorem itemOf_identifier :
    itemOf userCode (.mk .identifier text span position false children) =
      Pure.pure (some (.word ⟨String.ofList (Letter.nameForm text), span, position⟩)) :=
  rfl

theorem itemOf_block :
    itemOf userCode (.mk .block text span position false children) =
      rootOf userCode children >>= fun block => Pure.pure (some (.block block)) :=
  rfl

/-- A node of another kind is a literal, or there is a problem with it. -/
theorem itemOf_of_ne {kind : NodeKind}
    (hkind : kind ≠ .comment ∧ kind ≠ .identifier ∧ kind ≠ .block) :
    itemOf userCode (.mk kind text span position false children) =
      match literalOf? kind text with
      | some literal => Pure.pure (some (.literal literal))
      | none => reject (leafProblem kind text) span position >>= fun _ => Pure.pure none := by
  cases kind with
  | comment | identifier | block => simp at hkind
  | _ => rfl

end

theorem itemsOf_cons (userCode : Bool) (read : List Item) (node : Node) (rest : List Node) :
    itemsOf userCode read (node :: rest) =
      itemOf userCode node >>= fun item => itemsOf userCode (item.toList ++ read) rest := by
  rw [itemsOf]
  refine congrArg (itemOf userCode node >>= ·) (funext fun item => ?_)
  cases item <;> rfl

theorem partsOf_statement (userCode : Bool) (declared : Declarations) (body : List Item)
    (text : List Char) (span : Span) (position : Position) (missing : Bool) (children rest : List Node) :
    partsOf userCode declared body (.mk .statement text span position missing children :: rest) =
      itemsOf userCode [] children >>= fun items => declare declared none items >>= fun result =>
        partsOf userCode result.1 (if result.2 then items.reverse ++ body else body) rest :=
  rfl

theorem partsOf_cons (userCode : Bool) (declared : Declarations) (body : List Item) {kind : NodeKind}
    (hkind : kind ≠ .statement) (text : List Char) (span : Span) (position : Position)
    (missing : Bool) (children rest : List Node) :
    partsOf userCode declared body (.mk kind text span position missing children :: rest) =
      itemOf userCode (.mk kind text span position missing children) >>= fun item =>
        partsOf userCode declared (item.toList ++ body) rest := by
  rw [partsOf]
  · refine congrArg (itemOf userCode _ >>= ·) (funext fun item => ?_)
    cases item <;> rfl
  · intro _ _ _ _ _ hstatement
    exact hkind (Node.mk.inj hstatement).1

end StackProse.Assembly
