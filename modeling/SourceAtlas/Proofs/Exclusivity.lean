import SourceAtlas.Proofs.Borrowing
import SourceAtlas.Proofs.Queries

/-!
# The only handle of a unit

A unit is parsed again just when nothing else leads to it: no object in another slot, and no cell
that such an object refers to, directly or through others. Then nothing that the unit has answered
is left, so that no stale answer can be seen afterwards. And once everything else that leads to the
unit has been given up, nothing stands in the way any more.
-/

namespace SourceAtlas

open Relation

/-- The fault of a unit that is not parsed again, because there are several references to it. -/
def Fault.shared (references : Nat) : Fault :=
  .failure (.precondition "reparse" "no other live references to the translation unit"
    (toString references ++ " references"))

open Classical in
/-- How many references to a cell there are among some roots and in the cells that these lead to.
Each of these cells counts once, however many references lead to it. -/
noncomputable def World.references (w : World) (roots : CellRefs) (c : CellId) : Nat :=
  roots.count c +
    ∑ d ∈ (Finset.range w.cells.size).filter
        fun d => ∃ root ∈ roots, ReflTransGen w.PointsTo root d,
      (w.find? d).elim 0 fun entry => (refs entry.content).count c

/-- Whether an object holds a value that comes from a resource, or from what borrows from it. -/
def Object.StemsFrom (trace : List Event) (object : Object) (r : Resource) : Prop :=
  ∃ tie ∈ object.ties, ReflTransGen (Borrows trace) tie.1 r

/-- Whether nothing is left of what a unit in some slot has answered. The cells of the thread begin
after those of the world in which it began. -/
structure State.Renewed (begin state : State) (slot : String) (u : SourceUnit) : Prop where
  slots : ∀ other ∈ state.slots.erase slot, ¬ other.2.StemsFrom state.world.trace u.resource
  memos : ∀ c entry memo, state.world.find? c = some entry → entry.content = .memo memo →
    ∀ object ∈ memo.objects, ¬ object.StemsFrom state.world.trace u.resource
  /-- Every memo of the thread belongs to an object in another slot or in a memo. -/
  belongs : ∀ c entry memo, begin.world.cells.size ≤ c → state.world.find? c = some entry →
    entry.content = .memo memo → c ∈ refs (state.slots.erase slot) ∨
      ∃ d entry' memo', state.world.find? d = some entry' ∧ entry'.content = .memo memo' ∧
        ∃ object ∈ memo'.objects, c ∈ refs object
  /-- Nothing refers to the unit but what is in the slot. -/
  only : state.slots.get? slot = some (.unit u) ∧ state.world.count u.cell = 1 ∧
    ∀ c, ¬ state.world.PointsTo c u.cell

/-! ## The references to a unit -/

namespace World

variable {v w : World} {roots roots' : CellRefs} {r : Resource}

/-- What some references keep was kept before other references were given up. -/
theorem Keeps.of_survives (survives : v.Survives w) (subset : roots ⊆ roots')
    (kept : v.Keeps roots r) : w.Keeps roots' r := by
  obtain ⟨c, root, d, chain, owned⟩ := kept
  refine ⟨c, subset root, d, ReflTransGen.mono (fun a b points => ?_) _ _ chain, ?_⟩
  · obtain ⟨entry, found, member⟩ := points
    obtain ⟨entry', found', -, content⟩ := survives found
    exact ⟨entry', found', content ▸ member⟩
  · obtain ⟨entry, found, owned⟩ := Option.bind_eq_some_iff.1 owned
    obtain ⟨entry', found', resource, -⟩ := survives found
    exact (resourceAt_eq found').trans (resource ▸ owned)

/-- What an object stems from is kept by it. -/
theorem Secures.keeps {object : Object} (secures : w.Secures object)
    (stems : object.StemsFrom w.trace r) : w.Keeps (refs object) r := by
  obtain ⟨tie, member, chain⟩ := stems
  induction chain with
  | refl => exact (secures.tied tie member).2
  | tail _ borrows ih => exact secures.lender _ _ ih borrows

end World

namespace Inv

variable {engine : Engine} {side : Side} {facts : Facts} {τ : Typing} {held : Held} {w : World}
variable {roots : CellRefs} {c : CellId} {u : SourceUnit} {rest : Held}

/-- The count of a cell is the number of references to it that can be found. -/
theorem count_eq_references (inv : Inv engine side facts τ held w)
    (same : (roots : Multiset CellId) = held.map Owner.cell) (here : side.first ≤ c) :
    w.count c = w.references roots c := by
  classical
  rw [inv.heap.counted here, World.references, ← same, Multiset.coe_count]
  congr 1
  rw [World.inner, World.total]
  refine (Finset.sum_subset (fun d member => ?_) fun d member absent => ?_).symm
  · obtain ⟨bound, root, there, chain⟩ := Finset.mem_filter.1 member
    obtain ⟨o, owns⟩ := inv.heap.typed (same ▸ Multiset.mem_coe.2 there)
    exact Finset.mem_Ico.2
      ⟨inv.first_le_of_chain (inv.heap.within owns).1 chain, Finset.mem_range.1 bound⟩
  -- what no root leads to has been freed
  · obtain ⟨here, bound⟩ := Finset.mem_Ico.1 member
    cases found : w.find? d with
    | none => rfl
    | some entry =>
        obtain ⟨o, there, chain⟩ := inv.exists_chain here found
        refine absurd (Finset.mem_filter.2 ⟨Finset.mem_range.2 bound, o.cell, ?_, chain⟩) absent
        exact Multiset.mem_coe.1 (same ▸ Multiset.mem_map_of_mem _ there)

/-- A cell that refers to a unit is another reference besides the one that is held. -/
theorem shared_of_pointsTo (inv : Inv engine side facts τ (.unit u ::ₘ rest) w)
    (here : side.first ≤ c) (points : w.PointsTo c u.cell) : 1 < w.count u.cell := by
  obtain ⟨entry, found, member⟩ := points
  have owns := (inv.alive (.held (Multiset.mem_cons_self _ _))).1
  have counted := inv.heap.counted (c := u.cell) (inv.heap.within owns).1
  rw [Multiset.map_cons, show (Owner.unit u).cell = u.cell from rfl,
    Multiset.count_cons_self] at counted
  have bound := World.le_total found here fun entry => (refs entry.content).count u.cell
  have positive := List.count_pos_iff.2 member
  rw [counted, World.inner]
  omega

/-- A unit that is held has another reference just when the rest of what is held keeps it. -/
theorem shared_iff_keeps (inv : Inv engine side facts τ (.unit u ::ₘ rest) w)
    (same : (roots : Multiset CellId) = rest.map Owner.cell) (ordered : w.Ordered) :
    1 < w.count u.cell ↔ w.Keeps roots u.resource := by
  obtain ⟨owns, entry, found, describes⟩ := inv.alive (.held (Multiset.mem_cons_self _ _))
  have here : side.first ≤ u.cell := (inv.heap.within owns).1
  have counted := inv.heap.counted here
  rw [Multiset.map_cons, show (Owner.unit u).cell = u.cell from rfl,
    Multiset.count_cons_self, ← same, Multiset.coe_count] at counted
  have owned : w.resourceAt u.cell = some u.resource :=
    (World.resourceAt_eq found).trans describes.1
  constructor
  · intro shared
    have more : 0 < roots.count u.cell ∨ 0 < w.inner side.first u.cell := by omega
    rcases more with more | more
    · exact ⟨u.cell, List.count_pos_iff.1 more, u.cell, .refl, owned⟩
    obtain ⟨d, entry', there, found', contributes⟩ := World.exists_of_total_pos more
    have points : w.PointsTo d u.cell := ⟨entry', found', List.count_pos_iff.1 contributes⟩
    obtain ⟨o, member, chain⟩ := inv.exists_chain there found'
    rcases Multiset.mem_cons.1 member with rfl | member
    · exact absurd (TransGen.tail' chain points) (ordered.acyclic u.cell)
    · refine ⟨o.cell, ?_, u.cell, chain.tail points, owned⟩
      exact Multiset.mem_coe.1 (same ▸ Multiset.mem_map_of_mem _ member)
  · rintro ⟨c, root, d, chain, owned'⟩
    obtain ⟨o, typed⟩ := inv.heap.typed (Multiset.mem_of_le
      (Multiset.map_le_map (Multiset.le_cons_self rest _)) (same ▸ Multiset.mem_coe.2 root))
    have first := (inv.heap.within typed).1
    obtain rfl : d = u.cell :=
      inv.books.unique_cell inv.heap (inv.first_le_of_chain first chain) owned' here owned
    rcases ReflTransGen.cases_tail chain with rfl | ⟨x, before, points⟩
    · have positive := List.count_pos_iff.2 root
      omega
    · exact inv.shared_of_pointsTo (inv.first_le_of_chain first before) points

/-- What refers to the memo of a cursor is the memo of a cursor that remembers it. -/
theorem remembered_of_refers (inv : Inv engine side facts τ held w) {d : CellId} {entry : Entry}
    {p : Owner} (here : side.first ≤ d) (found : w.find? d = some entry) (owns : τ d = some p)
    (ref : c ∈ refs entry.content) {k : Cursor} (ownsC : τ c = some (.cursor k)) :
    ∃ k' memo, p = .cursor k' ∧ entry.content = .memo memo ∧ k'.Remembers engine τ memo ∧
      ∃ object ∈ memo.objects, .cursor k ∈ owners object := by
  obtain ⟨q, ownsQ, holds⟩ := inv.heap.mayHold here found owns ref
  obtain rfl : q = .cursor k := Option.some.inj (ownsQ.symm.trans ownsC)
  obtain ⟨k', rfl⟩ : ∃ k', p = .cursor k' := by
    cases p <;> first | exact ⟨_, rfl⟩ | exact (not_cursor_of_mem_lenders holds).elim
  obtain ⟨-, memo, content, remembers⟩ := (inv.heap.describes found owns).2.memo
  refine ⟨k', memo, rfl, content, remembers, ?_⟩
  rw [content, show refs (Content.memo memo) = refs memo from rfl, memo.refs_eq] at ref
  obtain ⟨o, owned, same⟩ := List.mem_map.1 ref
  -- the owner of a cell is known, so that the reference is one to the cursor
  have ownsO : τ.Owns o := by
    rcases remembers.mem_owners owned with rfl | ⟨_, rfl, -, -, ownsO⟩
    · exact (inv.heap.sound.cursor owns).2
    · exact ownsO
  obtain rfl : o = .cursor k := by
    rw [Typing.Owns, same, ownsC] at ownsO
    exact (Option.some.inj ownsO).symm
  rw [memo.owners_eq] at owned
  exact List.mem_flatMap.1 owned

/-- A memo belongs to what is held, or to an object in another memo. -/
theorem memo_belongs (inv : Inv engine side facts τ held w) {entry : Entry} {memo : CursorMemo}
    (here : side.first ≤ c) (found : w.find? c = some entry) (content : entry.content = .memo memo) :
    c ∈ held.map Owner.cell ∨ ∃ d entry' memo', w.find? d = some entry' ∧
      entry'.content = .memo memo' ∧ ∃ object ∈ memo'.objects, c ∈ refs object := by
  refine (inv.heap.held_or_referred here found).imp_right ?_
  rintro ⟨d, entry', p, there, found', ownsP, ref⟩
  obtain ⟨k, owns, -⟩ := inv.heap.memo here found content
  obtain ⟨k', memo', rfl, content', -, object, member, owned⟩ :=
    inv.remembered_of_refers there found' ownsP ref owns
  refine ⟨d, entry', memo', found', content', object, member, ?_⟩
  rw [Entity.refs_eq]
  have cell : k.memo = c := inv.heap.sound.cell owns
  exact cell ▸ List.mem_map_of_mem owned

end Inv

/-! ## Units in slots -/

namespace Session.Reached

variable {setting : Setting} {begin state : State} {slot : String} {u : SourceUnit}

/-- The store is in order while a slot holds a unit and the other slots hold the rest. -/
theorem inv_unit (reached : Reached setting begin state)
    (found : state.slots.get? slot = some (.unit u)) :
    ∃ facts τ, Inv setting.engine ⟨setting.remembers, begin.world, []⟩ facts τ
      (.unit u ::ₘ owners (state.slots.erase slot).objects) state.world := by
  obtain ⟨_, meets⟩ := reached.meet
  obtain ⟨facts, τ, inv⟩ := reached.inv
  rw [Slots.owners_split meets.distinct slot, found] at inv
  exact ⟨facts, τ, inv⟩

theorem shared_iff_keeps (reached : Reached setting begin state)
    (found : state.slots.get? slot = some (.unit u)) :
    1 < state.world.count u.cell ↔
      state.world.Keeps (refs (state.slots.erase slot)) u.resource := by
  obtain ⟨_, _, inv⟩ := reached.inv_unit found
  exact inv.shared_iff_keeps (Slots.coe_refs _) reached.ordered

theorem count_eq_references (reached : Reached setting begin state)
    (found : state.slots.get? slot = some (.unit u)) :
    state.world.count u.cell = state.world.references (refs state.slots) u.cell := by
  obtain ⟨_, _, unit⟩ := reached.inv_unit found
  obtain ⟨_, _, inv⟩ := reached.inv
  have owns := (unit.alive (.held (Multiset.mem_cons_self _ _))).1
  exact inv.count_eq_references (Slots.coe_refs _) (unit.heap.within owns).1

/-- Nothing keeps a unit any more once all slots have been emptied whose objects kept it. -/
theorem not_keeps_clears (names : List String)
    (emptied : ∀ other ∈ state.slots.erase slot,
      state.world.Keeps (refs other.2) u.resource → other.1 ∈ names) :
    ¬ (names.foldl State.clear state).world.Keeps
      (refs ((names.foldl State.clear state).slots.erase slot)) u.resource := by
  have survives (names : List String) (state : State) :
      (names.foldl State.clear state).world.Survives state.world := by
    induction names generalizing state with
    | nil => exact .of_cells rfl
    | cons name names ih =>
        refine (ih _).trans ?_
        rw [State.clear_eq]
        exact .release _ _
  rintro ⟨c, root, d, kept⟩
  obtain ⟨other, member, root⟩ := List.mem_flatMap.1 root
  obtain ⟨member, different⟩ := List.mem_filter.1 member
  obtain ⟨there, absent⟩ := State.mem_slots_clears member
  have kept : (names.foldl State.clear state).world.Keeps (refs other.2) u.resource :=
    ⟨c, root, d, kept⟩
  exact absent (emptied other (List.mem_filter.2 ⟨there, different⟩)
    (kept.of_survives (survives names state) (List.Subset.refl _)))

/-- No cell refers to a unit that nothing else keeps. -/
theorem not_pointsTo (reached : Reached setting begin state)
    (found : state.slots.get? slot = some (.unit u))
    (alone : ¬ state.world.Keeps (refs (state.slots.erase slot)) u.resource) (c : CellId) :
    ¬ state.world.PointsTo c u.cell := by
  intro points
  obtain ⟨_, _, inv⟩ := reached.inv_unit found
  by_cases older : c < begin.world.cells.size
  · have owns := (inv.alive (.held (Multiset.mem_cons_self _ _))).1
    have same : state.world.find? c = begin.world.find? c := inv.books.older older
    have bound := reached.ordered_begin.2 _ _ (points.of_same same)
    exact Nat.not_le_of_lt bound (inv.heap.within owns).1
  · exact alone ((reached.shared_iff_keeps found).1
      (inv.shared_of_pointsTo (Nat.le_of_not_lt older) points))

/-- No object in a memo stems from a unit that nothing else keeps. -/
theorem memo_not_stemsFrom (reached : Reached setting begin state)
    (found : state.slots.get? slot = some (.unit u))
    (alone : ¬ state.world.Keeps (refs (state.slots.erase slot)) u.resource)
    {c : CellId} {entry : Entry} {memo : CursorMemo} (there : state.world.find? c = some entry)
    (content : entry.content = .memo memo) {object : Object} (member : object ∈ memo.objects) :
    ¬ object.StemsFrom state.world.trace u.resource := by
  intro stems
  obtain ⟨_, _, inv⟩ := reached.inv_unit found
  obtain ⟨owns, entry', found', describes⟩ := inv.alive (.held (Multiset.mem_cons_self _ _))
  have securesMemos := inv.securesMemos reached.ordered_begin reached.securesMemos_begin
  have kept := (securesMemos c entry memo there content object member).keeps stems
  have points {d : CellId} (root : d ∈ refs object) : state.world.PointsTo c d :=
    World.pointsTo_of_objects there content member root
  by_cases older : c < begin.world.cells.size
  -- what older memos keep was acquired before the thread began, and the unit was not
  · have same : state.world.find? c = begin.world.find? c := inv.books.older older
    have before (d : CellId) (root : d ∈ refs object) : d < begin.world.cells.size :=
      reached.ordered_begin.2 _ _ ((points root).of_same same)
    rw [World.keeps_iff_older reached.ordered_begin (fun _ => inv.books.older) before] at kept
    have secures := reached.securesMemos_begin c entry memo (same ▸ there) content object member
    have out := secures.out _ kept
    exact Nat.not_le_of_lt (inv.books.start_lt out.1) (inv.books.recent owns rfl).2
  -- a chain of references to the unit ends with one from another cell
  · obtain ⟨d, root, e, chain, owned⟩ := kept
    have first := (inv.pointsTo (Nat.le_of_not_lt older) (points root)).1
    obtain rfl : e = u.cell := inv.books.unique_cell inv.heap
      (inv.first_le_of_chain first chain) owned (inv.heap.within owns).1
      ((World.resourceAt_eq found').trans describes.1)
    obtain ⟨x, -, last⟩ := TransGen.tail'_iff.1 (TransGen.head' (points root) chain)
    exact reached.not_pointsTo found alone x last

/-- Nothing is left of what a unit has answered if nothing else keeps the unit. -/
theorem renewed (reached : Reached setting begin state)
    (found : state.slots.get? slot = some (.unit u))
    (alone : ¬ state.world.Keeps (refs (state.slots.erase slot)) u.resource) :
    State.Renewed begin state slot u where
  slots other member stems := by
    have kept := (reached.secures_slot other (List.mem_filter.1 member).1).keeps stems
    refine alone (kept.of_survives (.of_cells rfl) fun c root => ?_)
    exact List.mem_flatMap.2 ⟨other, member, root⟩
  memos _ _ _ there content _ member := reached.memo_not_stemsFrom found alone there content member
  belongs c entry memo here there content := by
    obtain ⟨_, _, inv⟩ := reached.inv_unit found
    refine (inv.memo_belongs here there content).imp (fun held => ?_) id
    rw [Multiset.map_cons] at held
    rcases Multiset.mem_cons.1 held with rfl | held
    · obtain ⟨owns, entry', found', describes⟩ := inv.alive (.held (Multiset.mem_cons_self _ _))
      obtain rfl : entry = entry' := Option.some.inj (there.symm.trans found')
      obtain ⟨-, _, unit⟩ := describes.unit
      exact nomatch content.symm.trans unit
    · rw [← Slots.coe_refs] at held
      exact Multiset.mem_coe.1 held
  only := by
    obtain ⟨_, _, inv⟩ := reached.inv_unit found
    obtain ⟨owns, entry, found', -⟩ := inv.alive (.held (Multiset.mem_cons_self _ _))
    have positive := (inv.heap.describes found' owns).1
    have count : state.world.count u.cell = entry.count := World.count_eq_of_find? found'
    have single := mt (reached.shared_iff_keeps found).1 alone
    exact ⟨found, by omega, reached.not_pointsTo found alone⟩

end Session.Reached

/-! ## Asking a unit to parse itself again -/

/-- With a single reference to a unit, the engine is asked to parse the unit again, unless the name
of a file holds a NUL. No cell changes. -/
theorem SourceUnit.exec_reparse_single (u : SourceUnit) (unsaved : List UnsavedFile)
    (options : Option UInt32) (setting : Setting) {w : World} (loaded : w.loaded = true)
    (single : ¬ 1 < w.count u.cell) :
    match firstNul? (unsaved.map (·.path)) with
    | some position =>
      (u.reparse unsaved options).exec setting w = (.error (.failure (.nulAt position)), w)
    | none => ∃ outcome v, (u.reparse unsaved options).exec setting w = (outcome, v) ∧
        (∀ n, outcome ≠ .error (.shared n)) ∧ v.cells = w.cells ∧ ∃ options questions,
          v.trace = .requested (.reparse u.resource unsaved options) :: (questions ++ w.trace) := by
  rw [exec_reparse, if_neg single, u.exec_askReparse unsaved options setting loaded]
  cases firstNul? (unsaved.map (·.path)) with
  | some position => rfl
  | none =>
      dsimp only
      generalize asked : (options.elim (w.note (.asked .reparseOptions [u.resource] none))
        fun _ => w) = v
      have cells : v.cells = w.cells := by
        subst asked
        cases options <;> rfl
      obtain ⟨questions, trace⟩ : ∃ questions, v.trace = questions ++ w.trace := by
        subst asked
        cases options with
        | some _ => exact ⟨[], rfl⟩
        | none => exact ⟨[_], rfl⟩
      by_cases sound : (setting.engine.unit (w.table u.resource)).reparseStatus = 0
      · simp only [if_pos sound]
        refine ⟨_, _, rfl, fun n => nofun, ?_,
          options.getD (setting.engine.unit (w.table u.resource)).reparseOptions, questions, ?_⟩
        · cases (setting.engine.unit (w.table u.resource)).reparseBecomes <;> exact cells
        · rw [← trace]
          cases (setting.engine.unit (w.table u.resource)).reparseBecomes <;> rfl
      · simp only [if_neg sound]
        refine ⟨_, _, rfl, fun n same => ?_, cells, _, questions, congrArg _ trace⟩
        -- the failures that a status stands for are not about references
        cases problem : LoadProblem.ofCode?
            (setting.engine.unit (w.table u.resource)).reparseStatus.toInt <;>
          exact nomatch problem ▸ same

/-- What comes of asking a unit in some slot to parse itself again while nothing else keeps it. -/
structure State.Reparses (state : State) (slot : String) (u : SourceUnit)
    (unsaved : List UnsavedFile) (asked : State × Reply) : Prop where
  accepted : ∀ n, asked.2 ≠ .fault (.shared n)
  /-- The engine is asked, unless the name of a file holds a NUL. -/
  requested : match firstNul? (unsaved.map (·.path)) with
    | some position => asked = (state, .fault (.failure (.nulAt position)))
    | none => ∃ options questions, asked.1.world.trace =
      .requested (.reparse u.resource unsaved options) :: (questions ++ state.world.trace)
  cells : asked.1.world.cells = state.world.cells
  unit : asked.1.slots.get? slot = some (.unit u)
  others : asked.1.slots.erase slot = state.slots.erase slot

namespace State

variable {setting : Setting} {state : State} {slot : String} {u : SourceUnit}
variable {unsaved : List UnsavedFile} {options : Option UInt32}

theorem reparses (found : state.slots.get? slot = some (.unit u))
    (loaded : state.world.loaded = true) (single : ¬ 1 < state.world.count u.cell)
    (target : Option String) :
    state.Reparses slot u unsaved (state.turn setting slot target
      ((Object.unit u).steady (u.answer (.reparse unsaved options)))) := by
  have ran := u.exec_reparse_single unsaved options setting loaded single
  cases nul : firstNul? (unsaved.map (·.path)) with
  | some position =>
      rw [nul] at ran
      rw [turn_reparse_error ran]
      exact ⟨fun n => nofun, by rw [nul], rfl, found, rfl⟩
  | none =>
      rw [nul] at ran
      obtain ⟨outcome, v, ran, accepted, cells, requested⟩ := ran
      cases outcome with
      | ok =>
          rw [turn_reparse_ok ran, Answer.null, finish_plain]
          exact ⟨fun n => nofun, by rw [nul]; exact requested, cells, Slots.get?_set _ _ _,
            Slots.erase_set _ _ _⟩
      | error fault =>
          rw [turn_reparse_error ran]
          refine ⟨fun n same => accepted n ?_, by rw [nul]; exact requested, cells, found, rfl⟩
          exact congrArg Except.error (Reply.fault.inj same)

end State

/-- A unit in a slot is parsed again if and only if nothing else keeps it. Otherwise nothing changes,
and the fault tells how many references there are to the unit. When it is parsed again, nothing is
left of what it has answered before. And once all other slots have been emptied whose objects kept
it, it can be parsed again. -/
theorem reparsed_alone {setting : Setting} {begin state : State}
    (reached : Session.Reached setting begin state) {slot : String} {u : SourceUnit}
    (found : state.slots.get? slot = some (.unit u)) :
    (∀ target args unsaved options,
      UnitQuery.ofName? "reparse" args = some (.reparse unsaved options) →
        let asked := state.ask setting (some slot) none target args "reparse"
        (state.world.Keeps (refs (state.slots.erase slot)) u.resource →
          asked = (state, .fault (.shared (state.world.references (refs state.slots) u.cell)))) ∧
        (¬ state.world.Keeps (refs (state.slots.erase slot)) u.resource →
          state.Reparses slot u unsaved asked ∧ State.Renewed begin asked.1 slot u)) ∧
    ∀ names : List String, slot ∉ names →
      (∀ other ∈ state.slots.erase slot,
        state.world.Keeps (refs other.2) u.resource → other.1 ∈ names) →
      (names.foldl State.clear state).slots.get? slot = some (.unit u) ∧
        ¬ (names.foldl State.clear state).world.Keeps
          (refs ((names.foldl State.clear state).slots.erase slot)) u.resource := by
  refine ⟨fun target args unsaved options asks => ⟨fun kept => ?_, fun alone => ?_⟩,
    fun names other emptied => ⟨?_, Session.Reached.not_keeps_clears names emptied⟩⟩
  · have ran := u.exec_reparse unsaved options setting state.world
    rw [if_pos ((reached.shared_iff_keeps found).2 kept), reached.count_eq_references found] at ran
    exact (State.askSlot_reparse found asks setting target).trans
      (State.turn_reparse_error ran slot target)
  · have after := reached.ask (some slot) none target args "reparse"
    have same : state.ask setting (some slot) none target args "reparse" = _ :=
      State.askSlot_reparse found asks setting target
    obtain ⟨_, _, inv⟩ := reached.inv_unit found
    have loaded := inv.isLoaded (Multiset.cons_ne_zero)
    have reparses : state.Reparses slot u unsaved (state.turn setting slot target
        ((Object.unit u).steady (u.answer (.reparse unsaved options)))) :=
      State.reparses found loaded (mt (reached.shared_iff_keeps found).1 alone) target
    rw [← same] at reparses
    refine ⟨reparses, after.renewed reparses.unit fun kept => alone ?_⟩
    rw [reparses.others] at kept
    exact kept.of_survives (.of_cells reparses.cells) (List.Subset.refl _)
  · rw [State.get?_clears other, found]

theorem reparsed_alone_sole :
    let setting : Setting := ⟨⟨{ sources := [{ name := none, unit := some 0 }] }, []⟩, true⟩
    let begun := (({} : State).ask setting none none (some "i") .null "create_index").1
    let state := (begun.ask setting (some "i") none (some "u") .null "parse").1
    ∃ u, state.slots.get? "u" = some (.unit u) ∧
      (state.clear "i").slots.get? "u" = some (.unit u) ∧
      ¬ (state.clear "i").world.Keeps (refs ((state.clear "i").slots.erase "u")) u.resource := by
  intro setting begun state
  have reached : Session.Reached setting {} state :=
    (Session.Reached.start.ask none none (some "i") .null "create_index").ask (some "i") none
      (some "u") .null "parse"
  have opened : state = Session.parsed := Session.opens rfl rfl
  have slots : state.slots = [("u", .unit Session.firstUnit), ("i", .index Session.firstIndex)] :=
    congrArg State.slots opened
  have found : state.slots.get? "u" = some (.unit Session.firstUnit) := by
    rw [slots]
    rfl
  refine ⟨_, found, (reparsed_alone reached found).2 ["i"] (by decide) fun other member _ => ?_⟩
  rw [slots] at member
  exact List.mem_singleton.2 (congrArg Prod.fst (List.mem_singleton.1 member))

end SourceAtlas
