import StackProse.Proofs.Session.Functions

/-!
# Map and Filter

`Map` and `Filter` are written in the language itself. Here they are shown to be what their names say.

Both go over the list from the first item on and call themselves on the rest, so the induction is on
the items as `First` and `Rest` show them (`Machine.Lists`), and its step walks through the outline of
the function. The call on the rest runs on a machine that has changed meanwhile. It is enough that this
machine has kept frames and boxes, for so much is all that the block must be able to rely on.

Each item takes three blocks of room: the function, `Do`, and the step. The room that the block itself
needs is wanted once, since the blocks of the items do not run inside each other.
-/

namespace StackProse

open Session

namespace Machine.HasPrelude

variable {base : Machine} {home : FrameId} (h : base.HasPrelude home) {active : List BeginId}
  {code : Block} {place : Option FrameId} {f : Value → Value} {need : Nat}

include h

/-- `Map` goes over the list from the first item on: it makes the list of the others and pushes what
the block makes of the first. -/
theorem computes_map {closure : Closure}
    (hmap : base.frames.lookup home "Map" = some (.function closure)) {list : Value}
    {items : List Value} (hlist : Lists list items)
    (hblock : ∀ x ∈ items, ∀ room ≥ need, ∀ below,
      base.Computes room active ⟨code, place⟩ (x :: below) (f x :: below))
    {room : Nat} (hroom : need + 3 * items.length + 3 ≤ room) (below : List Value) :
    base.Computes room active closure (.block code place :: list :: below)
      (.list (items.map f) :: below) := by
  obtain ⟨mapCode, rfl, houtline⟩ :=
    h.exists_code (List.mem_cons_of_mem _ List.mem_cons_self) hmap
  obtain ⟨doClosure, hdo⟩ := h.exists_do
  induction hlist generalizing room below with
  | nil hempty =>
      obtain ⟨room, rfl⟩ : ∃ inner, room = inner + 3 := ⟨room - 3, by omega⟩
      exact h.computes_overList_nil houtline rfl (by decide) hempty
  | @cons list first others items hempty hfirst hothers _ ih =>
      rw [List.length_cons] at hroom
      obtain ⟨room, rfl⟩ : ∃ inner, room = inner + 1 + 3 := ⟨room - 4, by omega⟩
      refine h.computes_overList_cons houtline rfl (by decide) hempty ?_
      intro machine frame userCode hmachine
      rw [Sight.inside_nil]
      have hnone (word : String) (hword : isVocabulary word) :=
        h.overList_vocabulary (show isVocabulary "F" = false from rfl) hword (.block code place) list
      obtain ⟨hfirstBlock, hothersBlock⟩ := List.forall_mem_cons.1 hblock
      refine .value Sight.overList_list rfl rfl ?_
      refine .builtin hothers (hnone _ rfl) rfl ?_
      refine .value (Sight.overList_held (by decide)) rfl rfl ?_
      -- the list of what becomes of the other items
      refine .call (.list (items.map f) :: below)
        ((Sight.overList_of_ne (by decide) (by decide)).trans hmap) rfl ?_ ?_
      · intro later hlater
        exact (ih hothersBlock (by omega) below).continues (hmachine.trans hlater.toContinues)
      refine .value Sight.overList_list rfl rfl ?_
      refine .builtin hfirst (hnone _ rfl) rfl ?_
      refine .value (Sight.overList_held (by decide)) rfl rfl ?_
      -- what becomes of the first item
      refine .call (f first :: .list (items.map f) :: below)
        ((Sight.overList_of_ne (by decide) (by decide)).trans hdo) rfl ?_ ?_
      · intro later hlater
        have hcontinues := hmachine.trans hlater.toContinues
        exact h.computes_do hdo hcontinues
          ((hfirstBlock room (by omega) _).continues hcontinues)
      exact .builtin (applies_push _ _) (hnone _ rfl) rfl .nil

/-- The choice of `Filter`: the block tells whether the first item is put before those of the others
that are kept. -/
theorem leads_filterChoice {machine : Machine} (hmachine : base.Continues machine) {scene : Scene}
    {sight : Sight} (hvocabulary : ∀ word, isVocabulary word → sight word = none)
    (hdo : sight "Do" = base.frames.lookup home "Do")
    (hP : sight "P" = some (.value (.block code place))) {first : Value} {kept : List Value}
    (hX : sight "X" = some (.value first)) (hR : sight "R" = some (.value (.list kept)))
    {room : Nat} {chosen : Bool} {below : List Value}
    (hblock : ∀ below, base.Computes (room + 1) scene.active ⟨code, place⟩ (first :: below)
      (.boolean chosen :: below)) :
    machine.Leads (process (room + 2)) scene sight filterChoice below
      (.list (if chosen then first :: kept else kept) :: below) := by
  obtain ⟨closure, hclosure⟩ := h.exists_do
  refine .block fun dropping hdropping => .block fun keeping hkeeping => ?_
  refine .value hX rfl rfl (.value hP rfl rfl ?_)
  refine .call (.boolean chosen :: .block keeping (some scene.frame) ::
    .block dropping (some scene.frame) :: below) (hdo.trans hclosure) rfl ?_ ?_
  · intro later hlater
    have hcontinues := hmachine.trans hlater.toContinues
    exact h.computes_do hclosure hcontinues ((hblock _).continues hcontinues)
  refine .builtin (applies_if chosen _ _) (hvocabulary _ rfl) rfl ?_
  refine .call _ (hdo.trans hclosure) rfl ?_ .nil
  intro later hlater
  have hcontinues := hmachine.trans hlater.toContinues
  cases chosen with
  | true =>
      refine h.computes_do hclosure hcontinues (.of_leads hkeeping hlater.isThere fun last hlast => ?_)
      rw [hlater.lookup_eq, Sight.inside_nil]
      refine .value hR rfl rfl (.value hX rfl rfl ?_)
      exact .builtin (applies_push _ _) (hvocabulary _ rfl) rfl .nil
  | false =>
      refine h.computes_do hclosure hcontinues (.of_leads hdropping hlater.isThere fun last hlast => ?_)
      rw [hlater.lookup_eq, Sight.inside_nil]
      exact .value hR rfl rfl .nil

/-- `Filter` goes over the list from the first item on: it makes the list of those among the others
that are kept and pushes the first if the block says so. -/
theorem computes_filter {closure : Closure}
    (hfilter : base.frames.lookup home "Filter" = some (.function closure)) {list : Value}
    {items : List Value} (hlist : Lists list items) {p : Value → Bool}
    (hblock : ∀ x ∈ items, ∀ room ≥ need, ∀ below,
      base.Computes room active ⟨code, place⟩ (x :: below) (.boolean (p x) :: below))
    {room : Nat} (hroom : need + 3 * items.length + 3 ≤ room) (below : List Value) :
    base.Computes room active closure (.block code place :: list :: below)
      (.list (items.filter p) :: below) := by
  obtain ⟨filterCode, rfl, houtline⟩ :=
    h.exists_code (List.mem_cons_of_mem _ (List.mem_cons_of_mem _ List.mem_cons_self)) hfilter
  induction hlist generalizing room below with
  | nil hempty =>
      obtain ⟨room, rfl⟩ : ∃ inner, room = inner + 3 := ⟨room - 3, by omega⟩
      exact h.computes_overList_nil houtline rfl (by decide) hempty
  | @cons list first others items hempty hfirst hothers _ ih =>
      rw [List.length_cons] at hroom
      obtain ⟨room, rfl⟩ : ∃ inner, room = inner + 2 + 3 := ⟨room - 5, by omega⟩
      refine h.computes_overList_cons houtline rfl (by decide) hempty ?_
      intro machine frame userCode hmachine
      obtain ⟨hfirstBlock, hothersBlock⟩ := List.forall_mem_cons.1 hblock
      let outer := Sight.overList "P" (.block code place) list (base.frames.lookup home)
      let begun := Sight.inside [("R", .value), ("X", .value)] outer
      let kept : Sight := Function.update begun "R" (some (.value (.list (items.filter p))))
      let named : Sight := Function.update kept "X" (some (.value first))
      -- but for the two names that the step declares, names stand for the same all the time
      have hbegun (word : String) (hR : word ≠ "R") (hX : word ≠ "X") : begun word = outer word :=
        Sight.inside_of_ne hR hX
      have hkept (word : String) (hR : word ≠ "R") (hX : word ≠ "X") : kept word = outer word :=
        (Function.update_of_ne hR _ _).trans (hbegun word hR hX)
      have hnamed (word : String) (hR : word ≠ "R") (hX : word ≠ "X") : named word = outer word :=
        (Function.update_of_ne hX _ _).trans (hkept word hR hX)
      have hlist : outer "L" = some (.value list) := Sight.overList_list
      have hheld : outer "P" = some (.value (.block code place)) := Sight.overList_held (by decide)
      have hnone (word : String) (hword : isVocabulary word) : outer word = none :=
        h.overList_vocabulary rfl hword (.block code place) list
      refine .value ((hbegun _ (by decide) (by decide)).trans hlist) rfl rfl ?_
      refine .builtin hothers ((hbegun _ (by decide) (by decide)).trans (hnone _ rfl)) rfl ?_
      refine .value ((hbegun _ (by decide) (by decide)).trans hheld) rfl rfl ?_
      refine .call (.list (items.filter p) :: below) ((hbegun _ (by decide) (by decide)).trans
        ((Sight.overList_of_ne (by decide) (by decide)).trans hfilter)) rfl ?_ ?_
      · intro later hlater
        exact (ih hothersBlock (by omega) below).continues (hmachine.trans hlater.toContinues)
      refine .declare .value rfl ((hbegun _ (by decide) (by decide)).trans (hnone _ rfl)) rfl ?_
      refine .value ((hkept _ (by decide) (by decide)).trans hlist) rfl rfl ?_
      refine .builtin hfirst ((hkept _ (by decide) (by decide)).trans (hnone _ rfl)) rfl ?_
      refine .declare .value rfl ((hkept _ (by decide) (by decide)).trans (hnone _ rfl)) rfl ?_
      have hvocabulary (word : String) (hword : isVocabulary word) : named word = none :=
        (hnamed word (ne_of_isVocabulary hword rfl) (ne_of_isVocabulary hword rfl)).trans
          (hnone word hword)
      have hdo : named "Do" = base.frames.lookup home "Do" :=
        (hnamed _ (by decide) (by decide)).trans (Sight.overList_of_ne (by decide) (by decide))
      have hP : named "P" = some (.value (.block code place)) :=
        (hnamed _ (by decide) (by decide)).trans hheld
      have hX : named "X" = some (.value first) := Function.update_self _ _ _
      have hR : named "R" = some (.value (.list (items.filter p))) :=
        (Function.update_of_ne (by decide) _ _).trans (Function.update_self _ _ _)
      rw [List.filter_cons]
      exact h.leads_filterChoice hmachine hvocabulary hdo hP hX hR
        (hfirstBlock (room + 1) (by omega))

end Machine.HasPrelude

namespace Machine

/-- Under the limit the function comes to its end. It turns one stack into the other and spares
everything else. -/
def Finishes (machine : Machine) (limit : Nat) (active : List BeginId) (closure : Closure)
    (stack result : List Value) : Prop :=
  ∃ frame after, evaluate limit active closure { machine with stack := stack } =
    (.finished frame, after) ∧ after.stack = result ∧ machine.Spares after

theorem Computes.finishes {base machine : Machine} {limit : Nat} {active : List BeginId}
    {closure : Closure} {stack result : List Value}
    (h : base.Computes (limit - 1) active closure stack result) (hmachine : base.Continues machine) :
    machine.Finishes limit active closure stack result := by
  obtain ⟨frame, after, hprocess, hresult⟩ := h machine hmachine
  refine ⟨frame, after, ?_, hresult⟩
  rw [evaluate, hprocess]

end Machine

namespace Session

open Machine

/-- `Map` and `Filter` are map and filter. If a block turns each of the items `x` into `f x`, given
enough room, and otherwise spares boxes and console, then with enough room `Map` gives the list of
all `f x`, and where these are booleans `Filter` gives the list of those `x` for which it is true. -/
theorem map_and_filter {limit : Nat} {markup : Markup} {console : Console}
    {engine : Engine} {session : Session}
    (hstart : Session.start limit markup console preludeSource.toList engine = .ok session)
    {machine : Machine} (hmachine : session.machine.frames.KeptIn machine.frames)
    (active : List BeginId) (code : Block) (place : Option FrameId) {list : Value}
    {items : List Value} (hlist : Lists list items) (f : Value → Value)
    (hblock : ∀ x ∈ items, ∃ need, ∀ room ≥ need, ∀ below,
      machine.Computes room active ⟨code, place⟩ (x :: below) (f x :: below)) :
    ∃ home map filter bound, session.frame = some home ∧
      machine.frames.lookup home "Map" = some (.function map) ∧
      machine.frames.lookup home "Filter" = some (.function filter) ∧
      ∀ limit > bound, ∀ later, machine.Continues later → ∀ below,
        (∃ result, result.kind = .list ∧ Lists result (items.map f) ∧
          later.Finishes limit active map (.block code place :: list :: below) (result :: below)) ∧
        ∀ p : Value → Bool, (∀ x ∈ items, f x = .boolean (p x)) →
          ∃ result, result.kind = .list ∧ Lists result (items.filter p) ∧
            later.Finishes limit active filter (.block code place :: list :: below)
              (result :: below) := by
  obtain ⟨home, hframe, hsession⟩ := hasPrelude_of_start hstart
  have h := hsession.keptIn hmachine
  obtain ⟨map, hmap, -⟩ := h.functions _ (List.mem_cons_of_mem _ List.mem_cons_self)
  obtain ⟨filter, hfilter, -⟩ :=
    h.functions _ (List.mem_cons_of_mem _ (List.mem_cons_of_mem _ List.mem_cons_self))
  obtain ⟨need, hneed⟩ := Filter.eventually_atTop.1
    ((Filter.eventually_all_finite (List.finite_toSet items)).2 fun x hx =>
      Filter.eventually_atTop.2 (hblock x hx))
  refine ⟨home, _, _, need + 3 * items.length + 3, hframe, hmap, hfilter, ?_⟩
  intro limit hlimit later hlater below
  have hroom : need + 3 * items.length + 3 ≤ limit - 1 := Nat.le_sub_one_of_lt hlimit
  constructor
  · refine ⟨.list (items.map f), rfl, lists_list _, Computes.finishes ?_ hlater⟩
    exact h.computes_map hmap hlist (fun x hx room hroom => hneed room hroom x hx) hroom below
  · intro p hp
    refine ⟨.list (items.filter p), rfl, lists_list _, Computes.finishes ?_ hlater⟩
    refine h.computes_filter hfilter hlist (fun x hx room hroom => ?_) hroom below
    rw [← hp x hx]
    exact hneed room hroom x hx

/-- The block `(Not)`. -/
def negation : Block := .mk (.source 0) true [] [.word { name := "Not" }]

/-- What `Not` says of a value. -/
def negated : Value → Bool
  | .boolean value => !value
  | _ => false

/-- With the block `(Not)` on three booleans, `Map` inverts each of them and `Filter` keeps the one
that is false. -/
theorem map_and_filter_negation : ∃ session home map filter bound,
    Session.start Limit.default .plain {} preludeSource.toList = .ok session ∧
      session.frame = some home ∧
      session.machine.frames.lookup home "Map" = some (.function map) ∧
      session.machine.frames.lookup home "Filter" = some (.function filter) ∧
      ∀ limit > bound, ∀ below,
        (∃ result, Lists result [.boolean false, .boolean true, .boolean false] ∧
          session.machine.Finishes limit [] map (.block negation (some home) ::
            .list [.boolean true, .boolean false, .boolean true] :: below) (result :: below)) ∧
        ∃ result, Lists result [.boolean false] ∧
          session.machine.Finishes limit [] filter (.block negation (some home) ::
            .list [.boolean true, .boolean false, .boolean true] :: below) (result :: below) := by
  have hlimit : 2 ≤ Limit.default := by decide
  obtain ⟨session, hstart⟩ := exists_start_prelude hlimit .plain {} Pattern.engine
  obtain ⟨home, hframe, hprelude⟩ := hasPrelude_of_start hstart
  have hnot (value : Bool) : Applies "Not" [.boolean value] (.boolean (!value)) :=
    ⟨_, rfl, fun _ _ => rfl⟩
  have hblock : ∀ x ∈ [Value.boolean true, .boolean false, .boolean true], ∃ need, ∀ room ≥ need,
      ∀ below, session.machine.Computes room [] ⟨negation, some home⟩ (x :: below)
        (.boolean (negated x) :: below) := by
    intro x hx
    obtain ⟨value, rfl⟩ : ∃ value, x = .boolean value := by
      simp only [List.mem_cons, List.not_mem_nil, or_false] at hx
      rcases hx with rfl | rfl | rfl <;> exact ⟨_, rfl⟩
    refine ⟨1, fun room hroom below => ?_⟩
    obtain ⟨room, rfl⟩ := Nat.exists_eq_add_of_le' hroom
    have houtline : negation.HasOutline [] [.word "Not"] := ⟨rfl, by decide⟩
    refine .of_leads houtline hprelude.isThere fun machine hmachine => ?_
    exact .builtin (hnot value) (hprelude.vocabulary _ rfl) rfl .nil
  obtain ⟨home', map, filter, bound, hframe', hmap, hfilter, hruns⟩ :=
    map_and_filter hstart (.refl _) [] negation (some home) (lists_list _)
      (fun x => .boolean (negated x)) hblock
  obtain rfl : home = home' := Option.some.inj (hframe.symm.trans hframe')
  refine ⟨session, home, map, filter, bound, hstart, hframe, hmap, hfilter, ?_⟩
  intro limit hlimit below
  obtain ⟨⟨mapped, -, hmapped, hmaps⟩, hfilters⟩ := hruns limit hlimit _ (.refl _) below
  obtain ⟨kept, -, hkept, hkeeps⟩ := hfilters negated fun _ _ => rfl
  exact ⟨⟨mapped, hmapped, hmaps⟩, kept, hkept, hkeeps⟩

end Session

end StackProse
