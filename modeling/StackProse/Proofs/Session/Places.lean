import StackProse.Proofs.Machine.Remarked
import StackProse.Proofs.Program.Located
import StackProse.Proofs.Program.Statements
import StackProse.Proofs.Session.Afresh
import StackProse.Proofs.Session.Bindings

/-!
# Places in a source

Whatever a session says about a source has its place in the source. The nodes of the tree are consistent
(`Node.settled_ofSource`), problems and words take their places from nodes (`Program.located_ofSource`),
and a run makes remarks on words of the source only, never on words of the prelude or of blocks that the
machine makes: `Session.places_are_consistent`.
-/

namespace StackProse

open Machine

/-! ### All nodes of a tree -/

namespace Node

mutual

theorem consistent_of_mem_walk {source : List Char} {inner : Node} :
    ∀ node : Node, node.Settled source → inner ∈ node.walk → inner.Consistent source
  | mk kind text span position missing children, hsettled, hinner => by
      rw [walk, List.mem_cons] at hinner
      rcases hinner with rfl | hinner
      · exact hsettled.consistent
      · exact consistent_of_mem_walkAll children hsettled.children hinner

theorem consistent_of_mem_walkAll {source : List Char} {inner : Node} :
    ∀ nodes : List Node, (∀ node ∈ nodes, node.Settled source) → inner ∈ walkAll nodes →
      inner.Consistent source
  | [], _, hinner => absurd hinner List.not_mem_nil
  | node :: rest, hnodes, hinner => by
      rw [List.forall_mem_cons] at hnodes
      rw [walkAll, List.mem_append] at hinner
      rcases hinner with hinner | hinner
      · exact consistent_of_mem_walk node hnodes.1 hinner
      · exact consistent_of_mem_walkAll rest hnodes.2 hinner

end

end Node

/-! ### Words that a user wrote -/

/-- The words among the items of a block lie in a source, if a user wrote the block. -/
def Block.WordsLocated (source : List Char) (block : Block) : Prop :=
  block.userCode = true → ∀ word, Item.word word ∈ block.body → word.Located source

/-- The words of a block and of all blocks in it lie in a source, if a user wrote them. -/
def Block.AllLocated (source : List Char) (block : Block) : Prop :=
  ∃ scope, ∀ entry ∈ block.placed scope, entry.1.WordsLocated source

mutual

/-- The words of a block are among those of a block around it. -/
theorem Block.mem_words_of_mem_placed {word : Word} {entry : Block × Scope} {outer : Scope}
    (hword : Item.word word ∈ entry.1.body) :
    ∀ block : Block, entry ∈ block.placed outer → word ∈ block.words
  | .mk index userCode declared body, hentry => by
      rw [Block.placed, List.mem_cons] at hentry
      rcases hentry with rfl | hentry
      · exact Item.mem_wordsIn_of_mem List.mem_cons_self hword
      · exact Item.mem_wordsIn_of_mem_placedIn hword body hentry

theorem Item.mem_wordsIn_of_mem_placedIn {word : Word} {entry : Block × Scope} {scope : Scope}
    (hword : Item.word word ∈ entry.1.body) :
    ∀ items : List Item, entry ∈ Item.placedIn scope items → word ∈ Item.wordsIn items
  | [], hentry => absurd hentry List.not_mem_nil
  | .literal _ :: rest, hentry => Item.mem_wordsIn_of_mem_placedIn hword rest hentry
  | .word _ :: rest, hentry =>
      List.mem_cons_of_mem _ (Item.mem_wordsIn_of_mem_placedIn hword rest hentry)
  | .block inner :: rest, hentry => by
      rw [Item.placedIn, List.mem_append] at hentry
      rw [Item.wordsIn, List.mem_append]
      exact hentry.imp (Block.mem_words_of_mem_placed hword inner)
        (Item.mem_wordsIn_of_mem_placedIn hword rest)

end

namespace Block.AllLocated

variable {source : List Char}

/-- The words of a source lie in it. -/
theorem ofSource (source : List Char) : (Program.ofSource true source).root.AllLocated source := by
  refine ⟨[], fun entry hentry _ word hword => ?_⟩
  obtain ⟨_, hwords⟩ := Program.located_ofSource true source
  exact hwords word (Block.mem_words_of_mem_placed hword _ hentry)

/-- A prelude has no words that a user wrote. -/
theorem of_prelude {prelude : List Char} (source : List Char)
    (h : (Program.ofSource false prelude).isRejected = false) :
    (Program.ofSource false prelude).root.AllLocated source := by
  obtain ⟨_, hplaced⟩ := Program.wellPlaced_ofSource h []
  refine ⟨[], fun entry hentry huser => ?_⟩
  rw [hplaced.userCode entry hentry] at huser
  exact absurd huser Bool.false_ne_true

end Block.AllLocated

namespace Machine

theorem IsMade.allLocated {code : Block} (h : IsMade code) (source : List Char) :
    code.AllLocated source := by
  refine ⟨[], ?_⟩
  rcases h with rfl | rfl <;>
    simp [wordBlock, Block.placed, Item.placedIn, Block.WordsLocated, Block.userCode]

/-- Tidy blocks whose words lie in a source where a user wrote them. -/
def locatedBlocks (source : List Char) : Discipline where
  allowed _ := ⟨fun _ => True, fun closure =>
    closure.code.AllTidy ∧ closure.code.AllLocated source⟩
  seat _ code _ := code.AllTidy ∧ code.AllLocated source
  computed _ := by
    constructor <;> intros <;> trivial
  made _ _ _ hmade := ⟨hmade.allTidy, hmade.allLocated source⟩
  tidy h := h.1.tidy
  number_mono _ _ h := h
  closure_mono _ _ h := h
  seat_mono _ _ _ h := h
  enter h := h
  item h item hitem := by
    obtain ⟨htidy, hlocated⟩ := h
    cases item with
    | literal written => cases written <;> simp [Item.MadeOf, Value.ofLiteral]
    | word => trivial
    | block inner =>
        exact ⟨htidy.of_mem_body hitem, Block.forall_placed_of_mem_body hlocated hitem⟩

end Machine

/-! ### Remarks of a session -/

/-- A remark lies in the source. -/
def Diagnostic.Located (source : List Char) (diagnostic : Diagnostic) : Prop :=
  LocatedIn source diagnostic.span diagnostic.position

theorem Console.diagnostics_addError (console : Console) (message : String) :
    (console.addError message).diagnostics = console.diagnostics := by
  rw [addError]
  split <;> rfl

theorem Console.forall_reportAll {good : Diagnostic → Prop} {console : Console} (markup : Markup)
    {problems : List Problem} (h : ∀ each ∈ console.diagnostics, good each)
    (hproblems : ∀ problem ∈ problems, good problem.diagnostic) :
    ∀ each ∈ (console.reportAll markup problems).diagnostics, good each := by
  induction problems generalizing console with
  | nil => exact h
  | cons problem rest ih =>
      rw [List.forall_mem_cons] at hproblems
      rw [reportAll, List.foldl_cons]
      refine ih (forall_addDiagnostic ?_ hproblems.1) hproblems.2
      rw [diagnostics_addError]
      exact h

namespace Session

variable {fresh session : Session} {source : List Char}

/-- The problems of a source lie in it. -/
theorem located_problems (session : Session) (source : List Char) :
    ∀ problem ∈ (Program.ofSource true source).problems ++
      ((Program.ofSource true source).root.references isVocabulary session.scope).problems,
      problem.Located source := by
  obtain ⟨hproblems, hwords⟩ := Program.located_ofSource true source
  exact List.forall_mem_append.2 ⟨hproblems, Block.located_references hwords _ _⟩

theorem diagnostics_conclude (session : Session) (result : EStateM.Result Exit Machine FrameId) :
    (session.conclude result).2.machine.console.diagnostics =
      (final result).console.diagnostics := by
  cases result with
  | ok frame machine => rfl
  | error exit machine =>
      cases exit with
      | stop => rfl
      | fault | escape => exact Console.diagnostics_addError _ _

section

variable {limit : Nat} {markup : Markup} {console : Console} {engine : Engine} {prelude : List Char}

/-- At every moment of the run of a first source all remarks lie in the source. -/
theorem located_of_reaches (hstart : Session.start limit markup console prelude engine = .ok fresh)
    (haccepts : fresh.Accepts source) {moment : Moment}
    (hmoment : Moment.Reaches (fresh.firstMoment source) moment) :
    ∀ diagnostic ∈ moment.machine.console.diagnostics, diagnostic.Located source := by
  obtain ⟨hprelude, _⟩ := load_eq_ok_iff.1 hstart
  obtain ⟨hsource, _⟩ := accepts_iff.1 haccepts
  have hsound : (fresh.firstMoment source).Sound (locatedBlocks source) :=
    sound_firstMoment_of_start _ hstart ⟨.of_accepted hprelude, .of_prelude source hprelude⟩
      ⟨.of_accepted hsource, .ofSource source⟩
  have hmarked : (fresh.firstMoment source).Marked :=
    Moment.marked_enter _ _ _ (List.forall_mem_nil _)
  refine hsound.forall_diagnostics ?_ hmarked ?_ hmoment
  · intro frames code frame hseat huser word hword
    obtain ⟨_, scope, hlocated⟩ := hseat
    exact hlocated _ (code.self_mem_placed scope) huser word hword
  · unfold firstMoment Moment.start
    rw [Moment.console_enter]
    exact fun _ hnone => absurd hnone (Array.not_mem_empty _)

/-- All remarks of the run of a first source lie in the source, whether it is refused or runs. -/
theorem located_run (hstart : Session.start limit markup console prelude engine = .ok fresh) :
    ∀ diagnostic ∈ (fresh.run (.ofSource source)).2.machine.console.diagnostics,
      diagnostic.Located source := by
  by_cases haccepts : fresh.Accepts source
  · rw [haccepts.run_eq, diagnostics_conclude]
    exact located_of_reaches hstart haccepts
      ((Moment.reaches_ended_iff fresh.limit [] _ _ _).2 rfl)
  · rw [run_eq_rejected haccepts]
    apply Console.forall_reportAll
    · exact fun _ hnone => absurd hnone (Array.not_mem_empty _)
    · exact fresh.located_problems source

end

/-- Places are consistent. Every node of the tree of a source covers a range of the source, in the range
of its parent and apart from its siblings, and stands in the row and the column of its first byte. So does
every remark that a session with the prelude makes on the source, before the run or in it. -/
theorem places_are_consistent {limit : Nat} {markup : Markup} {console : Console} {engine : Engine}
    (hstart : Session.start limit markup console preludeSource.toList engine = .ok fresh)
    (source : List Char) :
    (∀ node ∈ (Node.ofSource source).walk, node.Consistent source) ∧
      ∀ diagnostic ∈ (fresh.run (.ofSource source)).2.machine.console.diagnostics,
        diagnostic.Located source :=
  ⟨fun _ hnode => Node.consistent_of_mem_walk _ (Node.settled_ofSource source) hnode,
    located_run hstart⟩

/-- A source whose second line uses a name too early, in a block that a function of the prelude runs. -/
def deferred : List Char := "\"ä\";\n Do (Print X);\nLet X be 1".toList

/-- The one remark on that source is made in the run. It is about the name in the second line. -/
theorem places_are_consistent_deferred : ∃ fresh,
    Session.start Limit.default .plain {} preludeSource.toList = .ok fresh ∧
      (fresh.run (.ofSource deferred)).2.machine.console.diagnostics.toList.map
        (fun diagnostic => (diagnostic.span, diagnostic.position)) = [(⟨17, 18⟩, ⟨1, 11⟩)] ∧
      (∀ node ∈ (Node.ofSource deferred).walk, node.Consistent deferred) ∧
      ∀ diagnostic ∈ (fresh.run (.ofSource deferred)).2.machine.console.diagnostics,
        diagnostic.Located deferred := by
  have hremarks : (Session.start Limit.default .plain {} preludeSource.toList).toOption.map
      (fun fresh => (fresh.run (.ofSource deferred)).2.machine.console.diagnostics.toList.map
        fun diagnostic => (diagnostic.span, diagnostic.position)) =
          some [(⟨17, 18⟩, ⟨1, 11⟩)] := by
    unfold preludeSource
    rw [String.toList_ofList]
    set_option maxRecDepth 100000 in
    decide +kernel
  obtain ⟨fresh, hstart⟩ := exists_start_prelude (by decide : 2 ≤ Limit.default) .plain {}
    Pattern.engine
  rw [hstart] at hremarks
  exact ⟨fresh, hstart, Option.some.inj hremarks, places_are_consistent hstart deferred⟩

end Session

end StackProse
