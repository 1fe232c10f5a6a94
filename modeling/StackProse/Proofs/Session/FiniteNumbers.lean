import StackProse.Proofs.Machine.Holdings
import StackProse.Proofs.Number.Finite
import StackProse.Proofs.Program.Judged
import StackProse.Proofs.Program.Occurrences
import StackProse.Proofs.Session.Afresh
import StackProse.Proofs.Session.Bindings

/-!
# Finite numbers stay finite

A source can write a number that is too large for a double, and then the number is infinite. No word of
the language makes an infinite number of finite ones. So a run that begins with finite numbers in its
source holds finite numbers only, at every moment: `Session.numbers_stay_finite`.

Earlier runs of the session may have written other numbers. Nothing of theirs is left but boxes, and
frames without bindings (`Session.After.ready_frames`), and boxes that are left over are out of reach.
-/

namespace StackProse

open Machine

/-! ### The numbers that a source writes -/

/-- The number that a literal is. -/
def Literal.number? : Literal → Option Number
  | .number n => some n
  | _ => none

theorem Literal.number?_eq_some_iff {literal : Literal} {n : Number} :
    literal.number? = some n ↔ literal = .number n := by
  cases literal <;> simp [number?]

/-- The number that a node writes. -/
def Node.numeral? (node : Node) : Option Number :=
  if node.kind = .number then Number.read? node.text else none

/-- The numbers that are written in a tree. -/
def Node.numerals (node : Node) : List Number :=
  node.walk.filterMap numeral?

/-- The numbers among the items of a block are finite. -/
def Block.WritesFinite (block : Block) : Prop :=
  ∀ n : Number, Item.literal (.number n) ∈ block.body → n.toFloat.isFinite

/-- All numbers that a block writes are finite, and so are those of all blocks in it. -/
def Block.AllFinite (block : Block) : Prop :=
  ∃ scope, ∀ entry ∈ block.placed scope, entry.1.WritesFinite

theorem exists_of_forall₂ {α β : Type} {related : α → β → Prop} {first : List α} {second : List β}
    (h : List.Forall₂ related first second) {b : β} (hb : b ∈ second) :
    ∃ a ∈ first, related a b := by
  induction h with
  | nil => exact absurd hb List.not_mem_nil
  | @cons a _ _ _ hab _ ih =>
      rcases List.mem_cons.1 hb with rfl | hb
      · exact ⟨a, List.mem_cons_self, hab⟩
      · obtain ⟨a, ha, hab⟩ := ih hb
        exact ⟨a, List.mem_cons_of_mem _ ha, hab⟩

namespace Node

variable {tree block node : Node}

theorem numeral?_of_becomes {n : Number} (h : node.Becomes (.literal (.number n))) :
    node.numeral? = some n := by
  obtain ⟨kind, text, span, position, missing, children⟩ := node
  cases kind with
  | number =>
      obtain ⟨read, hread, hn⟩ := Option.map_eq_some_iff.1 h
      cases hn
      exact hread
  | _ => cases h

/-- What runs in a block of a tree is in the tree. -/
theorem mem_walk_of_mem_inRunOrder (hblock : block ∈ tree.walk) (hnode : node ∈ block.inRunOrder) :
    node ∈ tree.walk := by
  obtain ⟨statement, hstatement, hitem⟩ := List.mem_flatMap.1 hnode
  have hinside := mem_walk_of_mem_children hblock (List.mem_of_mem_filter hstatement)
  exact mem_walk_of_mem_children hinside (List.mem_of_mem_filter (List.mem_reverse.1 hitem))

end Node

theorem Block.AllFinite.of_ofSource {userCode : Bool} {source : List Char}
    (haccepted : (Program.ofSource userCode source).isRejected = false)
    (h : ∀ n ∈ (Node.ofSource source).numerals, n.toFloat.isFinite) :
    (Program.ofSource userCode source).root.AllFinite := by
  obtain ⟨_, codes, hperm, hmirrors, -, -⟩ := Program.mirrored_ofSource haccepted []
  refine ⟨[], ?_⟩
  intro entry hentry n hn
  have hcode : entry.1 ∈ codes := hperm.mem_iff.2 (List.mem_map_of_mem hentry)
  obtain ⟨block, hblock, hmirror⟩ := exists_of_forall₂ hmirrors hcode
  obtain ⟨node, hnode, hbecomes⟩ := exists_of_forall₂ hmirror.body hn
  have hwalk := Node.mem_walk_of_mem_inRunOrder (List.mem_of_mem_filter hblock) hnode
  exact h n (List.mem_filterMap.2 ⟨node, hwalk, Node.numeral?_of_becomes hbecomes⟩)

/-! ### The discipline -/

namespace Machine

/-- Finite numbers, and tidy blocks that write finite numbers. -/
def finiteIngredients : Ingredients :=
  ⟨fun n => n.toFloat.isFinite, fun closure => closure.code.AllTidy ∧ closure.code.AllFinite⟩

theorem toFloat_ofFloat (x : Float) : (Number.ofFloat x).toFloat = x :=
  Float.ofBits_toBits x

theorem computed_finite : finiteIngredients.Computed where
  finite x hx := by
    change (Number.ofFloat x).toFloat.isFinite
    rw [toFloat_ofFloat]
    exact hx
  count n := by
    change (Number.ofFloat _).toFloat.isFinite
    rw [toFloat_ofFloat]
    exact Number.isFinite_ofCount n
  read n hn := hn
  double n hn := by
    change (Number.ofFloat _).toFloat.isFinite
    rw [toFloat_ofFloat]
    exact hn
  range _ _ hstart _ place _ := by
    change (Number.ofFloat _).toFloat.isFinite
    rw [toFloat_ofFloat]
    exact Number.isFinite_add_ofCount hstart place

theorem IsMade.allFinite {code : Block} (h : IsMade code) : code.AllFinite := by
  refine ⟨[], ?_⟩
  rcases h with rfl | rfl <;>
    simp [wordBlock, Block.placed, Item.placedIn, Block.WritesFinite, Block.body]

/-- Finite numbers, in whatever frames blocks run. -/
def finiteNumbers : Discipline where
  allowed _ := finiteIngredients
  seat _ code _ := code.AllTidy ∧ code.AllFinite
  computed _ := computed_finite
  made _ _ _ hmade := ⟨hmade.allTidy, hmade.allFinite⟩
  tidy h := h.1.tidy
  number_mono _ _ h := h
  closure_mono _ _ h := h
  seat_mono _ _ _ h := h
  enter h := h
  item := by
    intro frames code frame h item hitem
    obtain ⟨htidy, hfinite⟩ := h
    cases item with
    | literal written =>
        cases written with
        | number n =>
            obtain ⟨scope, hall⟩ := hfinite
            exact .number (hall _ (code.self_mem_placed scope) n hitem)
        | _ => simp [Item.MadeOf, Value.ofLiteral]
    | word => trivial
    | block inner => exact ⟨htidy.of_mem_body hitem, Block.forall_placed_of_mem_body hfinite hitem⟩

end Machine

namespace Session

variable {fresh session : Session} {source : List Char}

/-! ### Every run -/

section

variable {limit : Nat} {markup : Markup} {console : Console} {engine : Engine}

/-- A prelude that writes finite numbers leaves finite numbers. -/
theorem madeOf_finite_of_start {prelude : List Char}
    (hstart : Session.start limit markup console prelude engine = .ok fresh)
    (hfinite : ∀ n ∈ (Node.ofSource prelude).numerals, n.toFloat.isFinite) :
    fresh.machine.MadeOf finiteIngredients := by
  obtain ⟨haccepted, _⟩ := load_eq_ok_iff.1 hstart
  exact (madeOf_of_start finiteNumbers hstart
    ⟨.of_accepted haccepted, .of_ofSource haccepted hfinite⟩).1

theorem numerals_prelude : (Node.ofSource preludeSource.toList).numerals = [] := by
  unfold preludeSource
  rw [String.toList_ofList]
  set_option maxRecDepth 100000 in
  decide +kernel

/-- Before a run frames bind functions of the prelude only. -/
theorem After.ready_frames
    (hstart : Session.start limit markup console preludeSource.toList engine = .ok fresh)
    (hafter : fresh.After session) : ∀ frame ∈ session.cleared.ready.frames.all,
      ∀ entry ∈ frame.bindings,
        entry.2.MadeOf finiteIngredients ∧ ∀ held, entry.2 ≠ .value held := by
  have hfresh := isFresh_start hstart
  have hprelude : fresh.machine.MadeOf finiteIngredients := by
    apply madeOf_finite_of_start hstart
    rw [numerals_prelude]
    exact List.forall_mem_nil _
  intro frame hframe entry hentry
  obtain ⟨id, hid⟩ := Array.getElem?_of_mem hframe
  cases id with
  | zero =>
      rw [(hafter.resembles hfresh).getElem?_ready] at hid
      refine ⟨hprelude.frames frame (Array.mem_of_getElem? hid) entry hentry, ?_⟩
      rcases (hfresh.machine.prelude frame hid).bindings entry hentry with ⟨_, heq⟩ | ⟨_, heq⟩
      all_goals
        rw [heq]
        exact nofun
  | succ id =>
      rw [(hafter.emptied hfresh.settled.le).getElem?_ready id.succ_pos] at hid
      obtain ⟨_, _, rfl⟩ := Option.map_eq_some_iff.1 hid
      exact absurd hentry List.not_mem_nil

/-- Finite numbers stay finite. If a source writes finite numbers only, then at every moment of its run
all numbers that the run holds are finite: on the stack and on stacks that are kept for later, in
bindings, in boxes, in lists, and as keys and values of tables. Sources that the session has run before
may have written other numbers. -/
theorem numbers_stay_finite
    (hstart : Session.start limit markup console preludeSource.toList engine = .ok fresh)
    (hafter : fresh.After session) (haccepts : session.Accepts source)
    (hfinite : ∀ n ∈ (Node.ofSource source).numerals, n.toFloat.isFinite)
    {moment : Moment} (hmoment : Moment.Reaches (session.firstMoment source) moment)
    {n : Number} (hholds : moment.Holds (.number n)) : n.toFloat.isFinite := by
  obtain ⟨haccepted, -⟩ := accepts_iff.1 haccepts
  have hroot : (finiteNumbers.allowed session.cleared.ready.frames).closure
      ⟨(Program.ofSource true source).root, session.frame⟩ :=
    ⟨.of_accepted haccepted, .of_ofSource haccepted hfinite⟩
  obtain ⟨_, hallowed⟩ := Moment.allowed_of_holds finiteNumbers rfl
    (After.ready_frames hstart hafter) hroot hmoment hholds
  exact hallowed

/-- A source that begins to run with a literal holds it after the first step. -/
theorem exists_holds_literal {literal : Literal} {rest : List Item} (hlimit : 2 ≤ session.limit)
    (hbody : (Program.ofSource true source).root.body = .literal literal :: rest) :
    ∃ moment, Moment.Reaches (session.firstMoment source) moment ∧
      moment.Holds (.ofLiteral literal) := by
  obtain ⟨room, hroom⟩ := Nat.exists_eq_add_of_le' hlimit
  unfold firstMoment Moment.start
  rw [hroom]
  dsimp only [Nat.add_one_sub_one, Moment.enter]
  rw [hbody]
  exact ⟨_, .single rfl, .stack List.mem_cons_self⟩

/-- An earlier run has put a number with 400 zeros into a box. -/
theorem numbers_stay_finite_after_infinite : ∃ fresh session moment n,
    Session.start Limit.default .plain {} preludeSource.toList = .ok fresh ∧
      fresh.After session ∧
      session = (fresh.run (.ofSource
        ("Let X be Box 1".toList ++ List.replicate 400 '0'))).2 ∧
      (∃ huge ∈ (Node.ofSource ("Let X be Box 1".toList ++ List.replicate 400 '0')).numerals,
        huge.toFloat.isFinite = false) ∧
      session.Accepts "Box 5;".toList ∧
      (∀ n ∈ (Node.ofSource "Box 5;".toList).numerals, n.toFloat.isFinite) ∧
      Moment.Reaches (session.firstMoment "Box 5;".toList) moment ∧
      moment.Holds (.number n) ∧ n.toFloat.isFinite := by
  have hlimit : 2 ≤ Limit.default := by decide
  obtain ⟨fresh, hstart⟩ := exists_start_prelude hlimit .plain {} Pattern.engine
  have hbegun : fresh.After fresh := .refl
  have hrun := hbegun.run ("Let X be Box 1".toList ++ List.replicate 400 '0')
  obtain ⟨session, hsession⟩ : ∃ session, session = (fresh.run (.ofSource
      ("Let X be Box 1".toList ++ List.replicate 400 '0'))).2 := ⟨_, rfl⟩
  have hafter : fresh.After session := hsession ▸ hrun
  have hresembles := hafter.resembles (isFresh_start hstart)
  have haccepts : session.Accepts "Box 5;".toList :=
    hresembles.accepts_iff.2 ((accepts_prelude_iff hstart).2 (by decide +kernel))
  have hhuge : ∃ huge ∈ (Node.ofSource
      ("Let X be Box 1".toList ++ List.replicate 400 '0')).numerals,
        huge.toFloat.isFinite = false := by
    decide +kernel
  have hfinite : ∀ n ∈ (Node.ofSource "Box 5;".toList).numerals, n.toFloat.isFinite := by
    decide +kernel
  obtain ⟨n, rest, hbody⟩ : ∃ n rest,
      (Program.ofSource true "Box 5;".toList).root.body = .literal (.number n) :: rest := by
    have hnumber : (((Program.ofSource true "Box 5;".toList).root.body.head?.bind
        Item.literal?).bind Literal.number?).isSome := by decide +kernel
    obtain ⟨n, hn⟩ := Option.isSome_iff_exists.1 hnumber
    obtain ⟨literal, hliteral, hvalue⟩ := Option.bind_eq_some_iff.1 hn
    obtain ⟨first, hfirst, hitem⟩ := Option.bind_eq_some_iff.1 hliteral
    obtain rfl : literal = .number n := Literal.number?_eq_some_iff.1 hvalue
    obtain rfl : first = .literal (.number n) := Item.literal?_eq_some_iff.1 hitem
    exact ⟨n, List.head?_eq_some_iff.1 hfirst⟩
  rw [← limit_of_start hstart, ← hresembles.limit] at hlimit
  obtain ⟨moment, hmoment, hholds⟩ := exists_holds_literal hlimit hbody
  exact ⟨fresh, session, moment, n, hstart, hafter, hsession, hhuge, haccepts, hfinite, hmoment,
    hholds, numbers_stay_finite hstart hafter haccepts hfinite hmoment hholds⟩

end

end Session

end StackProse
