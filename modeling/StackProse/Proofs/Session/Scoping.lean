import StackProse.Proofs.Machine.Lexical
import StackProse.Proofs.Session.Prelude

/-!
# Scopes before a run and names during it

The checks before a run look names up in the scopes of blocks, the machine looks them up from frame to
frame. `Session.scoping_agrees` says that in the run of an accepted source both find the same, at every
moment and for every block that has begun and not ended: of the source, or of the prelude.
-/

namespace StackProse

open Machine

/-! ### Written blocks -/

theorem Machine.lexical_placed {outer : Scope} {root : Block} {userCode : Bool} {low high : Nat}
    (h : WellPlaced userCode low high (root.placed outer)) : Lexical (root.placed outer) where
  tidy := h.tidy
  scope _ hentry := Block.scope_of_mem_placed root hentry
  inner _ hentry _ hcode := Block.mem_placed_of_mem_body hcode root hentry

theorem Machine.Lexical.append {written more : List (Block × Scope)} (h : Lexical written)
    (hmore : Lexical more) : Lexical (written ++ more) where
  tidy := List.forall_mem_append.2 ⟨h.tidy, hmore.tidy⟩
  scope := List.forall_mem_append.2 ⟨h.scope, hmore.scope⟩
  inner := List.forall_mem_append.2
    ⟨fun entry hentry code hcode => List.mem_append_left _ (h.inner entry hentry code hcode),
      fun entry hentry code hcode => List.mem_append_right _ (hmore.inner entry hentry code hcode)⟩

/-- A block of a source is none that the machine makes. -/
theorem Machine.not_isMade_of_id_eq {code : Block} {index : Nat} (h : code.id = .source index) :
    ¬ IsMade code := by
  rintro (rfl | rfl) <;> contradiction

namespace Session

/-- The blocks of a source and of the prelude, each with the scope of its place. The source stands
inside of the prelude. -/
def written (prelude source : List Char) : List (Block × Scope) :=
  (Program.ofSource true source).root.placed [(Program.ofSource false prelude).root.declared] ++
    (Program.ofSource false prelude).root.placed []

section

variable {prelude source : List Char} {session : Session} {limit : Nat} {markup : Markup}
  {console : Console} {engine : Engine}

theorem root_mem_written (prelude source : List Char) :
    ((Program.ofSource true source).root, [(Program.ofSource true source).root.declared,
      (Program.ofSource false prelude).root.declared]) ∈ written prelude source :=
  List.mem_append_left _ (Block.self_mem_placed _ _)

section Accepted

variable (hprelude : (Program.ofSource false prelude).isRejected = false)
  (hsource : (Program.ofSource true source).isRejected = false)

include hprelude hsource

theorem lexical_written : Lexical (written prelude source) := by
  obtain ⟨_, hplaced⟩ := Program.wellPlaced_ofSource hsource
    [(Program.ofSource false prelude).root.declared]
  obtain ⟨_, hplaced'⟩ := Program.wellPlaced_ofSource hprelude []
  exact (lexical_placed hplaced).append (lexical_placed hplaced')

/-- A block stands in one place, of the source or of the prelude. -/
theorem written_unique {code : Block} {scope other : Scope}
    (hscope : (code, scope) ∈ written prelude source)
    (hother : (code, other) ∈ written prelude source) : scope = other := by
  obtain ⟨_, hplaced⟩ := Program.wellPlaced_ofSource hsource
    [(Program.ofSource false prelude).root.declared]
  obtain ⟨_, hplaced'⟩ := Program.wellPlaced_ofSource hprelude []
  rcases List.mem_append.1 hscope with hscope | hscope <;>
    rcases List.mem_append.1 hother with hother | hother
  · exact hplaced.scope_unique hscope hother
  · have huser := hplaced.userCode _ hscope
    rw [hplaced'.userCode _ hother] at huser
    contradiction
  · have huser := hplaced.userCode _ hother
    rw [hplaced'.userCode _ hscope] at huser
    contradiction
  · exact hplaced'.scope_unique hscope hother

/-- No written block is one that the machine makes. -/
theorem not_isMade_of_mem_written {code : Block} {scope : Scope}
    (h : (code, scope) ∈ written prelude source) : ¬ IsMade code := by
  rcases List.mem_append.1 h with h | h
  · obtain ⟨_, hplaced⟩ := Program.wellPlaced_ofSource hsource
      [(Program.ofSource false prelude).root.declared]
    exact not_isMade_of_id_eq (hplaced.id_eq _ h)
  · obtain ⟨_, hplaced⟩ := Program.wellPlaced_ofSource hprelude []
    exact not_isMade_of_id_eq (hplaced.id_eq _ h)

end Accepted

/-- The prelude may be held in any frames: there is nothing around it. -/
theorem lexical_prelude (hlexical : Lexical (written prelude source)) :
    ((lexicalBlocks (written prelude source) hlexical).allowed {}).closure
      ⟨(Program.ofSource false prelude).root, none⟩ :=
  Or.inr ⟨[], List.mem_append_right _ (Block.self_mem_placed [] _), rfl⟩

/-- A source may be held after the prelude, whose frame mirrors the scope around the source. -/
theorem lexical_source (hstart : Session.start limit markup console prelude engine = .ok session)
    (hlexical : Lexical (written prelude source)) :
    ((lexicalBlocks (written prelude source) hlexical).allowed session.machine.frames).closure
      ⟨(Program.ofSource true source).root, session.frame⟩ := by
  obtain ⟨_, hframe, hgrows⟩ := madeOf_of_start _ hstart (lexical_prelude hlexical)
  have hnone : Frames.Mirrors {} [] none := rfl
  refine Or.inr ⟨_, root_mem_written prelude source, ?_⟩
  rw [hframe]
  exact (hnone.add _).grows hgrows

/-- In the run of an accepted source every block runs in a frame that mirrors its scope. -/
theorem lexical_firstMoment
    (hstart : Session.start limit markup console prelude engine = .ok session)
    (hlexical : Lexical (written prelude source)) :
    (session.firstMoment source).Sound (lexicalBlocks (written prelude source) hlexical) :=
  sound_firstMoment_of_start _ hstart (lexical_prelude hlexical) (lexical_source hstart hlexical)

/-- In the run of an accepted source every block that has begun and not ended is a block of the source,
of the prelude, or one that the machine makes. For a block that was written, a name is bound in the
frames around it if and only if it is declared in the scope around it, and it is bound to what the
declaration announces, or pending as such. -/
theorem scoping_agrees (hstart : Session.start limit markup console prelude engine = .ok session)
    (haccepts : session.Accepts source) {moment : Moment}
    (hmoment : Moment.Reaches (session.firstMoment source) moment) {activation : Activation}
    (hactivation : activation ∈ moment.activations) :
    (IsMade activation.code ∨ ∃ scope, (activation.code, scope) ∈ written prelude source) ∧
      ∀ scope, (activation.code, scope) ∈ written prelude source → ∀ name : String,
        ((moment.machine.frames.lookup activation.scene.frame name).isSome ↔
          (scope.find? name).isSome) ∧
        (scope.find? name = some .function →
          moment.machine.frames.lookup activation.scene.frame name = some (.pending .function) ∨
            ∃ closure, moment.machine.frames.lookup activation.scene.frame name =
              some (.function closure)) ∧
        (scope.find? name = some .value →
          moment.machine.frames.lookup activation.scene.frame name = some (.pending .value) ∨
            ∃ value, moment.machine.frames.lookup activation.scene.frame name =
              some (.value value)) := by
  obtain ⟨hprelude, _⟩ := load_eq_ok_iff.1 hstart
  obtain ⟨hsource, _⟩ := accepts_iff.1 haccepts
  have hlexical := lexical_written hprelude hsource
  obtain ⟨hsound, _⟩ := (lexical_firstMoment hstart hlexical).reaches hmoment
  obtain ⟨hseat, _⟩ := hsound.activations activation hactivation
  refine ⟨hseat.imp_right fun ⟨scope, hscope, _⟩ => ⟨scope, hscope⟩, ?_⟩
  intro scope hscope name
  have hmirrors : moment.machine.frames.Mirrors scope (some activation.scene.frame) := by
    rcases hseat with hmade | ⟨other, hother, hmirrors⟩
    · exact absurd hmade (not_isMade_of_mem_written hprelude hsource hscope)
    · rw [written_unique hprelude hsource hscope hother]
      exact hmirrors
  have hlookup := hmirrors.rel_lookup name
  generalize moment.machine.frames.lookup activation.scene.frame name = found at hlookup ⊢
  generalize scope.find? name = announced at hlookup ⊢
  cases hlookup with
  | none => simp
  | @some binding declaration hfits =>
      refine ⟨by simp, ?_, ?_⟩
      · intro hfunction
        obtain rfl := Option.some.inj hfunction
        simpa using Binding.fits_function_iff.1 hfits
      · intro hvalue
        obtain rfl := Option.some.inj hvalue
        simpa using Binding.fits_value_iff.1 hfits

/-- A program that defines a function and calls it: its outermost block finds that function and those of
the prelude, and not what the function binds. -/
theorem scoping_agrees_outermost :
    ∃ session moment activation,
      Session.start Limit.default .plain {} preludeSource.toList = .ok session ∧
        session.Accepts "Def F (Let X; X); F 1;".toList ∧
        Moment.Reaches (session.firstMoment "Def F (Let X; X); F 1;".toList) moment ∧
        activation ∈ moment.activations ∧
        moment.machine.frames.lookup activation.scene.frame "X" = none ∧
        ∀ name ∈ ["F", "Map"],
          moment.machine.frames.lookup activation.scene.frame name = some (.pending .function) ∨
            ∃ closure, moment.machine.frames.lookup activation.scene.frame name =
              some (.function closure) := by
  have hlimit : 2 ≤ Limit.default := by decide
  obtain ⟨session, hstart⟩ := exists_start_prelude hlimit .plain {} Pattern.engine
  have haccepts : session.Accepts "Def F (Let X; X); F 1;".toList :=
    (accepts_prelude_iff hstart).2 (by decide +kernel)
  rw [← limit_of_start hstart] at hlimit
  obtain ⟨activation, hactivation, hcode⟩ := exists_activation_firstMoment hlimit
    "Def F (Let X; X); F 1;".toList
  obtain ⟨_, hagrees⟩ := scoping_agrees hstart haccepts .refl hactivation
  rw [hcode] at hagrees
  have hnames := hagrees _ (root_mem_written _ _)
  rw [preludeSource_definitions.2.2.2] at hnames
  refine ⟨session, _, activation, hstart, haccepts, .refl, hactivation, ?_, ?_⟩
  · rw [← Option.not_isSome_iff_eq_none, (hnames "X").1]
    decide +kernel
  · intro name hname
    apply (hnames name).2.1
    revert name
    decide +kernel

end

end Session

end StackProse
