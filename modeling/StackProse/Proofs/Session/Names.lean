import StackProse.Proofs.Machine.Equipped
import StackProse.Proofs.Machine.Faults
import StackProse.Proofs.Program.Declared
import StackProse.Proofs.Session.Afresh
import StackProse.Proofs.Session.Scoping

/-!
# Names that nothing binds

The checks before a run refuse a source with words that nothing declares. They pass over the words of
the language, and over the names that `Def` and `Let` declare. The machine takes a word as a bare name
before `Set` too. So a word of the language before `Set` is accepted, and then there is no box with that
name: `Session.set_on_print_fails`.

`Session.unknown_symbols_come_from_set` says that nothing else is missed. The run of an accepted source
fails for an unknown symbol if and only if it comes to a `Set` that finds a bare name on the stack which
nothing binds. It never does if each `Set` of the source stands behind a name of its own.
-/

namespace StackProse

open Machine

/-! ### `Set` on a name that nothing binds -/

namespace Machine.Moment

variable {moment other : Moment} {code : Block} {name : String}

/-- The running block is about to carry out `Set` on a bare name that nothing binds. -/
inductive SetsUnbound (code : Block) (name : String) : Moment → Prop
  | intro {scene : Scene} {room : Nat} {word : Word} {rest : List Item}
      {waiting : List (Purpose × Activation)} {machine : Machine} {below : List Value} :
      word.name = Keyword.assign.name → takesNameBefore rest = false →
      (∀ binding ∈ machine.frames.lookup scene.frame word.name, ∃ held, binding = .value held) →
      machine.stack = .identifier name :: below →
      machine.frames.lookup scene.frame name = none →
      SetsUnbound code name (running ⟨code, scene, room, .word word :: rest⟩ waiting machine)

/-- The run fails then, and names `Set` and all that blocks wait for. -/
theorem SetsUnbound.exists_ended (h : moment.SetsUnbound code name) :
    ∃ after, Reaches moment (ended (.error (.fault ⟨.unknownSymbol name,
      trail moment.waiting ++ [.word Keyword.assign.name]⟩) after)) := by
  cases h with
  | @intro scene room word rest waiting machine below hword hplain hfree hstack hunbound =>
      obtain ⟨now, hdeed⟩ := Deed.ofItem_of_misses hplain (.assign hword hfree hstack hunbound)
      have hnext : (running ⟨code, scene, room, .word word :: rest⟩ waiting machine).Next
          (leaving (.fault ⟨.unknownSymbol name, [.word Keyword.assign.name]⟩) waiting now) := by
        rw [Next, next, hdeed]
        rfl
      exact ⟨_, .head hnext (unwinds_fault _ waiting now).reaches⟩

/-- Two runs that go on side by side come to such a moment together. -/
theorem SetsUnbound.alike {like : Likeness} (h : moment.SetsUnbound code name)
    (halike : Alike like [] moment other) : other.SetsUnbound code name := by
  cases h with
  | intro hword hplain hfree hstack hunbound =>
      cases halike with
      | running hmachines =>
          have hlookup := hmachines.frames.lookup
          refine .intro hword hplain ?_ (hmachines.stack.trans (by rw [hstack]; rfl)) ?_
          · intro binding hbinding
            obtain ⟨old, hold, rfl⟩ := Option.map_eq_some_iff.1 ((hlookup _ _).symm.trans hbinding)
            obtain ⟨held, rfl⟩ := hfree old hold
            exact ⟨_, rfl⟩
          · exact (hlookup _ _).trans (by rw [hunbound]; rfl)

end Machine.Moment

/-! ### Names of one's own -/

/-- Whether an item is a word that can be set: it is declared, or it is no word of the language. -/
def Scope.owns (scope : Scope) : Option Item → Bool
  | some (.word word) => (scope.find? word.name).isSome || !isVocabulary word.name
  | _ => false

theorem Scope.owns_iff {scope : Scope} {last : Option Item} : scope.owns last ↔
    ∃ word, last = some (.word word) ∧
      ((scope.find? word.name).isSome ∨ isVocabulary word.name = false) := by
  cases last with
  | none => simp [owns]
  | some item => cases item <;> simp [owns]

/-- Whether each `Set` among the items stands right behind a name of its own, if it is carried out at
all. The item before the items is `last`. -/
def Item.setsOwn (scope : Scope) (last : Option Item) : List Item → Bool
  | [] => true
  | .word keyword :: rest =>
      (keyword.name != Keyword.assign.name || takesNameBefore rest || scope.owns last) &&
        setsOwn scope (some (.word keyword)) rest
  | .literal value :: rest => setsOwn scope (some (.literal value)) rest
  | .block code :: rest => setsOwn scope (some (.block code)) rest

theorem Item.setsOwn_cons {scope : Scope} {last : Option Item} {item : Item} {rest : List Item}
    (h : Item.setsOwn scope last (item :: rest)) : Item.setsOwn scope (some item) rest := by
  cases item with
  | literal | block => exact h
  | word word =>
      rw [setsOwn, Bool.and_eq_true] at h
      exact h.2

theorem Item.owns_of_setsOwn {scope : Scope} {last : Option Item} {before rest : List Item}
    {word : Word} (h : Item.setsOwn scope last (before ++ .word word :: rest))
    (hword : word.name = Keyword.assign.name) (hplain : takesNameBefore rest = false) :
    scope.owns (before.getLast?.or last) := by
  induction before generalizing last with
  | nil =>
      rw [List.nil_append, setsOwn, Bool.and_eq_true] at h
      simpa [hword, hplain] using h.1
  | cons item before ih =>
      have hlast := ih (Item.setsOwn_cons h)
      rw [List.getLast?_cons]
      cases hbefore : before.getLast? <;> simpa [hbefore] using hlast

theorem References.declaresBefore_of_takesNameBefore {rest : List Item}
    (h : takesNameBefore rest = false) : References.declaresBefore rest = false := by
  cases rest with
  | nil => rfl
  | cons item rest =>
      cases item with
      | literal | block => rfl
      | word keyword =>
          rw [References.declaresBefore]
          cases hkeyword : Declaration.ofKeyword? keyword.name with
          | none => rfl
          | some declaration =>
              rw [Moment.takesNameBefore_of_keyword hkeyword rest] at h
              contradiction

/-- `Set` takes the name before it, and does not declare it. -/
theorem takesNameBefore_of_assign {word : Word} (h : word.name = Keyword.assign.name)
    (rest : List Item) : takesNameBefore (.word word :: rest) := by
  rw [takesNameBefore, h]
  rfl

theorem declaresBefore_of_assign {word : Word} (h : word.name = Keyword.assign.name)
    (rest : List Item) : References.declaresBefore (.word word :: rest) = false := by
  rw [References.declaresBefore, h]
  rfl

namespace Session

variable {fresh session : Session} {source : List Char}

/-- The run of a source fails with the given fault. -/
def FailsWith (session : Session) (source : List Char) (fault : Fault) : Prop :=
  ∃ after, evaluate session.limit [] ⟨(Program.ofSource true source).root, session.frame⟩
    session.cleared.ready = (.failed fault, after)

theorem Accepts.failed_iff (h : session.Accepts source) {message : String} :
    (session.run (.ofSource source)).1 = .failed message ↔
      ∃ fault, session.FailsWith source fault ∧ message = fault.message session.markup := by
  rw [run, h.prepare_eq]
  unfold FailsWith
  dsimp only
  rw [limit_cleared, frame_cleared]
  cases evaluate session.limit [] ⟨(Program.ofSource true source).root, session.frame⟩
      session.cleared.ready with
  | mk ending machine =>
      cases ending with
      | finished | stopped =>
          refine iff_of_false (by simp) ?_
          rintro ⟨_, ⟨_, hfailed⟩, _⟩
          cases hfailed
      | failed fault =>
          constructor
          · rintro ⟨⟩
            exact ⟨fault, ⟨machine, rfl⟩, rfl⟩
          · rintro ⟨_, ⟨_, ⟨⟩⟩, rfl⟩
            rfl

theorem failsWith_iff {fault : Fault} (hcause : fault.cause ≠ .escapedBegin) :
    session.FailsWith source fault ↔ ∃ after,
      Moment.Reaches (session.firstMoment source) (.ended (.error (.fault fault) after)) :=
  exists_congr fun _ => Moment.evaluate_failed_iff hcause

/-- A run that comes to `Set` on a name that nothing binds fails. -/
theorem failsWith_of_setsUnbound {moment : Moment} {code : Block} {name : String}
    (hreaches : Moment.Reaches (session.firstMoment source) moment)
    (hsets : moment.SetsUnbound code name) :
    session.FailsWith source
      ⟨.unknownSymbol name, trail moment.waiting ++ [.word Keyword.assign.name]⟩ := by
  obtain ⟨after, hended⟩ := hsets.exists_ended
  refine (failsWith_iff ?_).2 ⟨after, hreaches.trans hended⟩
  nofun

/-- The words before `Set` at the beginning of a source are its operand and its bare name. -/
theorem exists_running_set {operand : Literal} {name word : Word} {rest : List Item}
    (hlimit : 2 ≤ session.limit)
    (hbody : (Program.ofSource true source).root.body =
      .literal operand :: .word name :: .word word :: rest)
    (hword : word.name = Keyword.assign.name) :
    ∃ top machine, Moment.Reaches (session.firstMoment source) (.running top [] machine) ∧
      top.code = (Program.ofSource true source).root ∧ top.rest = .word word :: rest ∧
      machine.stack = [.identifier name.name, .ofLiteral operand] := by
  obtain ⟨room, hroom⟩ := Nat.exists_eq_add_of_le' hlimit
  have hnamed (code : Block) (scene : Scene) (machine : Machine) :
      (Moment.running ⟨code, scene, room, .word name :: .word word :: rest⟩ [] machine).Next
        (.running ⟨code, scene, room, .word word :: rest⟩ []
          { machine with stack := .identifier name.name :: machine.stack }) := by
    rw [Moment.Next, Moment.next, Deed.ofItem, if_pos (takesNameBefore_of_assign hword rest)]
    rfl
  unfold firstMoment Moment.start
  rw [hroom]
  dsimp only [Nat.add_one_sub_one, Moment.enter]
  rw [hbody]
  exact ⟨_, _, .tail (.single rfl) (hnamed _ _ _), rfl, rfl, rfl⟩

/-! ### The blocks of a first run -/

section First

variable {prelude : List Char} {limit : Nat} {markup : Markup} {console : Console} {engine : Engine}

theorem scope_of_start (h : Session.start limit markup console prelude engine = .ok session) :
    session.scope = [(Program.ofSource false prelude).root.declared] := by
  obtain ⟨_, _, _, _, _, rfl⟩ := load_eq_ok_iff.1 h
  rfl

theorem two_le_limit_of_start
    (h : Session.start limit markup console prelude engine = .ok session) :
    2 ≤ session.limit := by
  obtain ⟨_, _, _, _, hprocess, rfl⟩ := load_eq_ok_iff.1 h
  by_contra hless
  have hroom : limit - 1 = 0 := by
    dsimp only at hless
    omega
  dsimp only at hprocess
  rw [hroom] at hprocess
  cases hprocess

variable (hstart : Session.start limit markup console prelude engine = .ok session)
  (haccepts : session.Accepts source)

include hstart haccepts

/-- The words of a source and of its prelude have been found. -/
theorem resolve_written :
    ∀ entry ∈ written prelude source, Item.Resolve isVocabulary entry.2 entry.1.body := by
  obtain ⟨_, hprelude, _⟩ := load_eq_ok_iff.1 hstart
  obtain ⟨_, hsource⟩ := accepts_iff.1 haccepts
  rw [scope_of_start hstart] at hsource
  exact List.forall_mem_append.2
    ⟨Block.resolve_of_isClean hsource, Block.resolve_of_isClean hprelude⟩

/-- What is known of the block that is running: how far it has come, the name that lies ready for the
next word, and that it finds its names. -/
theorem exists_seat {top : Activation} {waiting : List (Purpose × Activation)} {machine : Machine}
    (hreaches : Moment.Reaches (session.firstMoment source) (.running top waiting machine)) :
    ∃ before, top.code.body = before ++ top.rest ∧
      (takesNameBefore top.rest → ∀ name, before.getLast? = some (.word name) →
        ∃ below, machine.stack = .identifier name.name :: below) ∧
      (IsMade top.code ∧ machine.frames.Equips top.code (some top.scene.frame) ∨
        ∃ scope, (top.code, scope) ∈ written prelude source ∧
          machine.frames.Mirrors scope (some top.scene.frame)) := by
  obtain ⟨hprelude, _⟩ := load_eq_ok_iff.1 hstart
  obtain ⟨hsource, _⟩ := accepts_iff.1 haccepts
  have hlexical := lexical_written hprelude hsource
  have hwritten {code : Block} {scope : Scope} (h : (code, scope) ∈ written prelude source) :
      ¬ IsMade code := not_isMade_of_mem_written hprelude hsource h
  have hinner {frames : Frames} {code : Block} {place : FrameId}
      (hseat : (lexicalBlocks _ hlexical).seat frames code place) (inner : Block)
      (hmem : Item.block inner ∈ code.body) : ¬ IsMade inner := by
    rcases hseat with hmade | ⟨scope, hscope, _⟩
    · obtain ⟨word, hbody⟩ := hmade.body_eq
      rw [hbody] at hmem
      exact absurd hmem (by simp)
    · exact hwritten (hlexical.inner _ hscope inner hmem)
  have hfirst : (session.firstMoment source).Sound ((lexicalBlocks _ hlexical).equipped hinner) := by
    refine sound_firstMoment_of_start _ hstart ⟨lexical_prelude hlexical, ?_⟩
      ⟨lexical_source hstart hlexical, ?_⟩
    · exact fun hmade => absurd hmade
        (hwritten (List.mem_append_right _ (Block.self_mem_placed [] _)))
    · exact fun hmade => absurd hmade (hwritten (root_mem_written prelude source))
  obtain ⟨hruns, _⟩ := hfirst.reaches hreaches
  obtain ⟨before, declared, hinStep, hnamed⟩ := hruns.topInStep
  refine ⟨before, hinStep.body, hnamed, ?_⟩
  obtain ⟨hseat, hequips⟩ := hruns.topSeat
  exact hseat.imp_left fun hmade => ⟨hmade, hequips hmade⟩

/-- The outermost block finds what the source and the prelude declare, and nothing else. -/
theorem isSome_lookup_root {top : Activation} {waiting : List (Purpose × Activation)}
    {machine : Machine}
    (hreaches : Moment.Reaches (session.firstMoment source) (.running top waiting machine))
    (hcode : top.code = (Program.ofSource true source).root) (name : String) :
    (machine.frames.lookup top.scene.frame name).isSome =
      (Scope.find? [(Program.ofSource true source).root.declared,
        (Program.ofSource false prelude).root.declared] name).isSome := by
  obtain ⟨hprelude, _⟩ := load_eq_ok_iff.1 hstart
  obtain ⟨hsource, _⟩ := accepts_iff.1 haccepts
  have hroot := root_mem_written prelude source
  obtain ⟨_, _, _, ⟨hmade, _⟩ | ⟨scope, hscope, hmirrors⟩⟩ := exists_seat hstart haccepts hreaches
  · rw [hcode] at hmade
    exact absurd hmade (not_isMade_of_mem_written hprelude hsource hroot)
  · rw [hcode] at hscope
    rw [written_unique hprelude hsource hroot hscope]
    exact hmirrors.isSome_lookup name

/-- A word that is looked up is bound, if it is no word of the language. -/
theorem isSome_lookup {code : Block} {scene : Scene} {room : Nat} {word : Word} {rest : List Item}
    {waiting : List (Purpose × Activation)} {machine : Machine}
    (hreaches : Moment.Reaches (session.firstMoment source)
      (.running ⟨code, scene, room, .word word :: rest⟩ waiting machine))
    (hplain : takesNameBefore rest = false) (hunknown : isVocabulary word.name = false) :
    (machine.frames.lookup scene.frame word.name).isSome := by
  obtain ⟨before, hbody, _, ⟨_, hequips⟩ | ⟨scope, hscope, hmirrors⟩⟩ :=
    exists_seat hstart haccepts hreaches
  · obtain ⟨id, hid, hbound⟩ := hequips
    obtain rfl := Option.some.inj hid
    apply hbound word
    rw [hbody]
    exact List.mem_append_right _ List.mem_cons_self
  · have hresolve := resolve_written hstart haccepts _ hscope before word rest hbody
      (References.declaresBefore_of_takesNameBefore hplain)
    rw [hunknown, Bool.false_eq_true, false_or] at hresolve
    rwa [hmirrors.isSome_lookup]

/-- Where a `Set` finds a bare name that nothing binds, the block was written, its scope does not declare
the name, and the word before the `Set` is that name or there is none. -/
theorem exists_scope {moment : Moment} {code : Block} {name : String}
    (hreaches : Moment.Reaches (session.firstMoment source) moment)
    (h : moment.SetsUnbound code name) :
    ∃ scope before word rest, (code, scope) ∈ written prelude source ∧ scope.find? name = none ∧
      code.body = before ++ .word word :: rest ∧ word.name = Keyword.assign.name ∧
      takesNameBefore rest = false ∧
      ∀ own, before.getLast? = some (.word own) → own.name = name := by
  cases h with
  | @intro scene room word rest waiting machine below hword hplain hfree hstack hunbound =>
      obtain ⟨before, hbody, hnamed, ⟨hmade, _⟩ | ⟨scope, hscope, hmirrors⟩⟩ :=
        exists_seat hstart haccepts hreaches
      · -- the blocks of the machine have other words
        have hmem : Item.word word ∈ code.body := by
          rw [hbody]
          exact List.mem_append_right _ List.mem_cons_self
        rcases hmade with rfl | rfl
        all_goals
          rw [wordBlock, Block.body, List.mem_singleton, Item.word.injEq] at hmem
          rw [hmem] at hword
          contradiction
      · have hundeclared := hmirrors.isSome_lookup name
        rw [hunbound, Option.isSome_none, eq_comm, Option.isSome_eq_false_iff,
          Option.isNone_iff_eq_none] at hundeclared
        refine ⟨scope, before, word, rest, hscope, hundeclared, hbody, hword, hplain, ?_⟩
        intro own hlast
        obtain ⟨below', hbelow⟩ := hnamed (takesNameBefore_of_assign hword rest) own hlast
        rw [hstack, List.cons.injEq, Value.identifier.injEq] at hbelow
        exact hbelow.1.symm

/-- Such a block has a `Set` that does not stand behind a name of its own. -/
theorem not_setsOwn {moment : Moment} {code : Block} {name : String}
    (hreaches : Moment.Reaches (session.firstMoment source) moment)
    (h : moment.SetsUnbound code name) :
    ∃ scope, (code, scope) ∈ written prelude source ∧ scope.find? name = none ∧
      (∃ word, Item.word word ∈ code.body ∧ word.name = Keyword.assign.name) ∧
      ¬ Item.setsOwn scope none code.body := by
  obtain ⟨scope, before, word, rest, hscope, hundeclared, hbody, hword, hplain, hnamed⟩ :=
    exists_scope hstart haccepts hreaches h
  have hmem : Item.word word ∈ code.body := by
    rw [hbody]
    exact List.mem_append_right _ List.mem_cons_self
  refine ⟨scope, hscope, hundeclared, ⟨word, hmem, hword⟩, ?_⟩
  intro hown
  rw [hbody] at hown
  have howns := Item.owns_of_setsOwn hown hword hplain
  rw [Option.or_none] at howns
  obtain ⟨own, hlast, hname⟩ := Scope.owns_iff.1 howns
  obtain rfl := hnamed own hlast
  obtain ⟨init, rfl⟩ := List.getLast?_eq_some_iff.1 hlast
  rw [List.append_assoc] at hbody
  -- the checks before the run have looked the name up, since `Set` does not declare it
  have hresolve := resolve_written hstart haccepts _ hscope init own _ hbody
    (declaresBefore_of_assign hword rest)
  have hnowhere : ¬ (scope.find? own.name).isSome := by simp [hundeclared]
  have hknown := hresolve.resolve_right hnowhere
  rw [hname.resolve_left hnowhere] at hknown
  contradiction

/-- A first run that fails for an unknown symbol has come to a `Set` that finds the name. -/
theorem exists_setsUnbound {fault : Fault} {after : Machine} {name : String}
    (hended : Moment.Reaches (session.firstMoment source) (.ended (.error (.fault fault) after)))
    (hcause : fault.cause = .unknownSymbol name) :
    ∃ moment code, Moment.Reaches (session.firstMoment source) moment ∧
      moment.SetsUnbound code name := by
  have hfirst : (session.firstMoment source).fault? = none := by
    obtain ⟨room, hroom⟩ := Nat.exists_eq_add_of_le' (two_le_limit_of_start hstart)
    unfold firstMoment Moment.start
    rw [hroom]
    rfl
  obtain ⟨origin, raised, waiting, now, horigin, hraises, _, rfl⟩ :=
    Moment.exists_raises hfirst hended
  have hlocal : ¬ raised.cause.IsLocal := by
    rw [hcause]
    exact id
  cases hraises with
  | room _ hraised =>
      rw [hraised] at hcause
      contradiction
  | table h => exact absurd h hlocal
  | stale h =>
      rw [h] at hcause
      contradiction
  | @item code scene room item rest _ machine now hrunning hdeed =>
      subst hrunning
      rcases Deed.isLocal_or_misses scene rest item machine with
        h | ⟨word, fault, _, rfl, hplain, hmisses, hfault⟩
      · rw [hdeed] at h
        exact absurd (h raised now rfl) hlocal
      · obtain rfl : fault = raised := by
          rw [hdeed] at hfault
          cases hfault
          rfl
        cases hmisses with
        | word hlookup hunknown =>
            have hbound := isSome_lookup hstart haccepts horigin hplain hunknown
            rw [hlookup] at hbound
            contradiction
        | assign hword hfree hstack hunbound =>
            cases hcause
            exact ⟨_, code, horigin, .intro hword hplain hfree hstack hunbound⟩

end First

/-! ### Every run -/

/-- The run of a source begins alike in a session that has just started and later. -/
theorem Resembles.alike_firstMoment (h : session.Resembles fresh) (hfresh : fresh.IsFresh)
    (source : List Char) :
    Moment.Alike (likeness fresh session) [] (fresh.firstMoment source)
      (session.firstMoment source) := by
  have hready : Alike (likeness fresh session) (insideOf [] []) fresh.cleared.ready
      session.cleared.ready := h.alike_ready hfresh
  have halike := Moment.alike_enter hready (fresh.limit - 1) []
    ⟨(Program.ofSource true source).root, fresh.frame⟩
  rw [Closure.rename, h.frame_rename hfresh] at halike
  unfold firstMoment Moment.start
  rw [h.limit]
  exact halike

/-- A run that fails with a fault fails with it as a first run too. -/
theorem Resembles.exists_ended (h : session.Resembles fresh) (hfresh : fresh.IsFresh)
    {fault : Fault} {after : Machine}
    (hended : Moment.Reaches (session.firstMoment source) (.ended (.error (.fault fault) after))) :
    ∃ before, Moment.Reaches (fresh.firstMoment source)
      (.ended (.error (.fault fault) before)) := by
  have hfirst := Moment.reaches_process (fresh.limit - 1) []
    ⟨(Program.ofSource true source).root, fresh.frame⟩ [] fresh.cleared.ready
  obtain ⟨later, hlater, halike⟩ := (h.alike_firstMoment hfresh source).reaches_nil hfirst
  generalize process (fresh.limit - 1) [] ⟨(Program.ofSource true source).root, fresh.frame⟩
    fresh.cleared.ready = result at hfirst halike
  cases halike with
  | finished _ => cases Moment.ended_unique hlater hended
  | @broken exit machine other _ =>
      have hexit := Moment.ended_unique hlater hended
      cases exit with
      | stop | escape => cases hexit
      | fault raised =>
          cases hexit
          exact ⟨machine, hfirst⟩

/-- The prelude sets nothing. -/
theorem prelude_sets_nothing :
    ((Program.ofSource false preludeSource.toList).root.placed []).all (fun entry =>
      entry.1.body.all fun
        | .word word => word.name != Keyword.assign.name
        | _ => true) := by
  unfold preludeSource
  rw [String.toList_ofList]
  set_option maxRecDepth 100000 in
  decide +kernel

/-- A first run that fails for an unknown symbol has come to a `Set` of the source. -/
theorem exists_set_in_source {limit : Nat} {markup : Markup} {console : Console} {engine : Engine}
    (hstart : Session.start limit markup console preludeSource.toList engine = .ok session)
    (haccepts : session.Accepts source) {fault : Fault} {after : Machine} {name : String}
    (hended : Moment.Reaches (session.firstMoment source) (.ended (.error (.fault fault) after)))
    (hcause : fault.cause = .unknownSymbol name) :
    ∃ moment code scope, Moment.Reaches (session.firstMoment source) moment ∧
      moment.SetsUnbound code name ∧
      (code, scope) ∈ (Program.ofSource true source).root.placed session.scope ∧
      scope.find? name = none ∧ ¬ Item.setsOwn scope none code.body := by
  obtain ⟨moment, code, hreaches, hsets⟩ := exists_setsUnbound hstart haccepts hended hcause
  obtain ⟨scope, hscope, hundeclared, ⟨word, hmem, hword⟩, hnot⟩ :=
    not_setsOwn hstart haccepts hreaches hsets
  refine ⟨moment, code, scope, hreaches, hsets, ?_, hundeclared, hnot⟩
  rw [scope_of_start hstart]
  rcases List.mem_append.1 hscope with hsource | hprelude
  · exact hsource
  · have hothers := List.all_eq_true.1 (List.all_eq_true.1 prelude_sets_nothing _ hprelude) _ hmem
    simp [hword] at hothers

/-- Every run that fails for an unknown symbol has come to a `Set` of its source: as a first run it would
have, and it goes on side by side with that run. -/
theorem FailsWith.exists_setsUnbound {limit : Nat} {markup : Markup} {console : Console}
    {engine : Engine}
    (hstart : Session.start limit markup console preludeSource.toList engine = .ok fresh)
    (hafter : fresh.After session) (haccepts : session.Accepts source) {fault : Fault}
    {name : String} (hfails : session.FailsWith source fault)
    (hcause : fault.cause = .unknownSymbol name) :
    ∃ moment code scope, Moment.Reaches (session.firstMoment source) moment ∧
      moment.SetsUnbound code name ∧
      (code, scope) ∈ (Program.ofSource true source).root.placed session.scope ∧
      scope.find? name = none ∧ ¬ Item.setsOwn scope none code.body := by
  have hfresh := isFresh_start hstart
  have hresembles := hafter.resembles hfresh
  obtain ⟨after, hended⟩ := (failsWith_iff (by rw [hcause]; nofun)).1 hfails
  obtain ⟨before, hended⟩ := hresembles.exists_ended hfresh hended
  obtain ⟨moment, code, scope, hreaches, hsets, hscope, hundeclared, hnot⟩ :=
    exists_set_in_source hstart (hresembles.accepts_iff.1 haccepts) hended hcause
  obtain ⟨later, hlater, halike⟩ :=
    (hresembles.alike_firstMoment hfresh source).reaches_nil hreaches
  rw [hresembles.scope]
  exact ⟨later, code, scope, hlater, hsets.alike halike, hscope, hundeclared, hnot⟩

/-- The run of an accepted source fails for an unknown symbol if and only if it comes to a `Set` in the
source that finds a bare name on the stack which nothing binds, and which the scope of the block does not
declare. It never does if each `Set` of the source stands right behind a name of its own. -/
theorem unknown_symbols_come_from_set {limit : Nat} {markup : Markup} {console : Console}
    {engine : Engine}
    (hstart : Session.start limit markup console preludeSource.toList engine = .ok fresh)
    (hafter : fresh.After session) (haccepts : session.Accepts source) :
    (∀ message, (session.run (.ofSource source)).1 = .failed message ↔
      ∃ fault, session.FailsWith source fault ∧ message = fault.message session.markup) ∧
    (∀ name, (∃ fault, session.FailsWith source fault ∧ fault.cause = .unknownSymbol name) ↔
      ∃ moment code scope, Moment.Reaches (session.firstMoment source) moment ∧
        moment.SetsUnbound code name ∧
        (code, scope) ∈ (Program.ofSource true source).root.placed session.scope ∧
        scope.find? name = none) ∧
    ((∀ entry ∈ (Program.ofSource true source).root.placed session.scope,
        Item.setsOwn entry.2 none entry.1.body) →
      ∀ fault, session.FailsWith source fault → ∀ name, fault.cause ≠ .unknownSymbol name) := by
  refine ⟨fun message => haccepts.failed_iff, ?_, ?_⟩
  · intro name
    constructor
    · rintro ⟨fault, hfails, hcause⟩
      obtain ⟨moment, code, scope, hreaches, hsets, hscope, hundeclared, _⟩ :=
        FailsWith.exists_setsUnbound hstart hafter haccepts hfails hcause
      exact ⟨moment, code, scope, hreaches, hsets, hscope, hundeclared⟩
    · rintro ⟨moment, code, _, hreaches, hsets, _⟩
      exact ⟨_, failsWith_of_setsUnbound hreaches hsets, rfl⟩
  · intro hown fault hfails name hcause
    obtain ⟨_, code, scope, _, _, hscope, _, hnot⟩ :=
      FailsWith.exists_setsUnbound hstart hafter haccepts hfails hcause
    exact hnot (hown _ hscope)

/-- A program that sets a box of its own, after a run that has failed for an unknown symbol. -/
theorem unknown_symbols_come_from_set_own : ∃ fresh session,
    Session.start Limit.default .plain {} preludeSource.toList = .ok fresh ∧
      fresh.After session ∧ session = (fresh.run (.ofSource "Set Print 1;".toList)).2 ∧
      session.Accepts "Let X be Box 1; Do (Set X 2); Print Unbox X".toList ∧
      ∀ fault, session.FailsWith "Let X be Box 1; Do (Set X 2); Print Unbox X".toList fault →
        ∀ name, fault.cause ≠ .unknownSymbol name := by
  have hlimit : 2 ≤ Limit.default := by decide
  obtain ⟨fresh, hstart⟩ := exists_start_prelude hlimit .plain {} Pattern.engine
  have hbegun : fresh.After fresh := .refl
  have hafter := hbegun.run "Set Print 1;".toList
  have hresembles := hafter.resembles (isFresh_start hstart)
  have haccepts : Accepts (fresh.run (.ofSource "Set Print 1;".toList)).2
      "Let X be Box 1; Do (Set X 2); Print Unbox X".toList :=
    hresembles.accepts_iff.2 ((accepts_prelude_iff hstart).2 (by decide +kernel))
  refine ⟨fresh, _, hstart, hafter, rfl, haccepts, ?_⟩
  apply (unknown_symbols_come_from_set hstart hafter haccepts).2.2
  rw [hresembles.scope, scope_of_start hstart, preludeSource_definitions.2.2.2]
  decide +kernel

/-- A word of the language before `Set` is accepted, and then nothing binds it. -/
theorem set_on_print_fails : ∃ session,
    Session.start Limit.default .plain {} preludeSource.toList = .ok session ∧
      session.Accepts "Set Print 1;".toList ∧
      (session.run (.ofSource "Set Print 1;".toList)).1 = .failed "in Set: undefined symbol Print" ∧
      ∃ fault, session.FailsWith "Set Print 1;".toList fault ∧
        fault.cause = .unknownSymbol "Print" := by
  have hlimit : 2 ≤ Limit.default := by decide
  obtain ⟨session, hstart⟩ := exists_start_prelude hlimit .plain {} Pattern.engine
  have haccepts : session.Accepts "Set Print 1;".toList :=
    (accepts_prelude_iff hstart).2 (by decide +kernel)
  -- the body: an operand, the word, and `Set`
  obtain ⟨operand, name, word, hbody, hname, hword⟩ : ∃ operand name word,
      (Program.ofSource true "Set Print 1;".toList).root.body =
        [.literal operand, .word name, .word word] ∧
        name.name = "Print" ∧ word.name = Keyword.assign.name := by
    have hwords : (Program.ofSource true "Set Print 1;".toList).root.body.map
        (·.word?.map (·.name)) = [none, some "Print", some Keyword.assign.name] := by decide +kernel
    have hliteral : ((Program.ofSource true "Set Print 1;".toList).root.body.head?.bind
        Item.literal?).isSome := by decide +kernel
    simp only [List.map_eq_cons_iff, List.map_eq_nil_iff, Option.map_eq_some_iff,
      Item.word?_eq_some_iff] at hwords
    obtain ⟨first, _, hbody, -, _, _, rfl, ⟨name, rfl, hname⟩, _, _, rfl, ⟨word, rfl, hword⟩,
      rfl⟩ := hwords
    rw [hbody] at hliteral
    obtain ⟨operand, hoperand⟩ := Option.isSome_iff_exists.1 hliteral
    obtain rfl : first = .literal operand := Item.literal?_eq_some_iff.1 hoperand
    exact ⟨operand, name, word, hbody, hname, hword⟩
  obtain ⟨⟨code, scene, room, items⟩, machine, hreaches, hcode, hitems, hstack⟩ :=
    exists_running_set (two_le_limit_of_start hstart) hbody hword
  dsimp only at hcode hitems
  subst hcode hitems
  have hlookup (other : String) (hother : Scope.find? [(Program.ofSource true
      "Set Print 1;".toList).root.declared, preludeDeclared] other = none) :
      machine.frames.lookup scene.frame other = none := by
    have hroot := isSome_lookup_root hstart haccepts hreaches rfl other
    rw [preludeSource_definitions.2.2.2, hother] at hroot
    simpa using hroot
  rw [hname] at hstack
  have hset : machine.frames.lookup scene.frame word.name = none := by
    rw [hword]
    exact hlookup _ (by decide +kernel)
  have hfails := failsWith_of_setsUnbound hreaches
    (.intro hword rfl (by simp [hset]) hstack (hlookup "Print" (by decide +kernel)))
  have hmarkup : session.markup = .plain := by
    obtain ⟨_, _, _, _, _, rfl⟩ := load_eq_ok_iff.1 hstart
    rfl
  refine ⟨session, hstart, haccepts, ?_, _, hfails, rfl⟩
  exact haccepts.failed_iff.2 ⟨_, hfails, by rw [hmarkup]; rfl⟩

end Session

end StackProse
