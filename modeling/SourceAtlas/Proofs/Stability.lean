import SourceAtlas.Proofs.Exclusivity

/-!
# What stays the same while it is used

A unit is not parsed again while anything but the unit itself leads to it, and parsing another unit again
changes that one only. So as long as a slot holds a cursor, a view or whatever else belongs to a unit, the
engine answers about the unit from the same entry of its tables.
-/

namespace SourceAtlas

open Duo Relation

/-- What belongs to different units never shares a number. -/
theorem Inv.cell_eq_of_label {engine : Engine} {side : Side} {facts : Facts} {τ : Typing} {held : Held}
    {w : World} {u u' : SourceUnit} (inv : Inv engine side facts τ held w)
    (within : Within held (.unit u)) (within' : Within held (.unit u'))
    (same : u.resource.label = u'.resource.label) : u.cell = u'.cell := by
  have numbered {u : SourceUnit} (within : Within held (.unit u)) :
      side.first ≤ u.cell ∧ w.instanceAt u.cell = some u.resource.label := by
    obtain ⟨owns, entry, found, describes⟩ := inv.alive within
    have kind := inv.books.kind owns rfl
    refine ⟨(inv.heap.within owns).1, World.instanceAt_eq_some.2 ⟨u.resource, ?_, ?_, rfl⟩⟩
    · exact (World.resourceAt_eq found).trans describes.1
    · exact (Option.some.inj kind).symm
  obtain ⟨here, number⟩ := numbered within
  obtain ⟨there, number'⟩ := numbered within'
  exact inv.books.apart here there (same ▸ number) number'

/-- To parse a unit again leaves units of other numbers as they are. -/
theorem SourceUnit.table_reparse (u : SourceUnit) (unsaved : List UnsavedFile)
    (options : Option UInt32) (setting : Setting) {w : World} (loaded : w.loaded = true)
    (bound : u.resource.label < w.instances.size) {r : Resource}
    (other : r.label ≠ u.resource.label) :
    ((u.reparse unsaved options).exec setting w).2.table r = w.table r := by
  rw [exec_reparse]
  split
  next => rfl
  rw [u.exec_askReparse unsaved options setting loaded]
  cases firstNul? (unsaved.map (·.path)) with
  | some _ => rfl
  | none =>
      dsimp only
      -- questions and requests leave the units alone
      generalize asked : World.note _ _ = v
      have instances : v.instances = w.instances := by
        subst asked
        cases options <;> rfl
      have table : v.table r = w.table r := by rw [World.table, instances, World.table]
      split
      next entry v' ran =>
        split at ran
        next =>
          cases ran
          rw [World.table_retable (instances ▸ bound), if_neg other, table]
        next => cases ran
      next fault v' ran =>
        split at ran
        next => cases ran
        next =>
          cases ran
          exact table

theorem Slots.get?_of_mem {slots : Slots} (distinct : slots.Distinct) {name : String} {object : Object}
    (member : (name, object) ∈ slots) : slots.get? name = some object := by
  induction slots with
  | nil => exact absurd member List.not_mem_nil
  | cons slot rest ih =>
      obtain ⟨absent, distinct⟩ := List.nodup_cons.1 distinct
      rcases List.mem_cons.1 member with rfl | member
      · simp [get?]
      · have different : slot.1 ≠ name := by
          rintro rfl
          exact absent (List.mem_map.2 ⟨_, member, rfl⟩)
        rw [← ih distinct member]
        simp [get?, different]

namespace Session

/-- The states that a session passes through from some state on while an object stays in some slot. -/
inductive Keeping (setting : Setting) (object : Object) (first : State) : State → Prop
  | here {begin : State} (reached : Reached setting begin first)
      (kept : object ∈ first.slots.objects) : Keeping setting object first first
  | ask {state : State} (receiver other target : Option String) (args : Json) (name : String)
      (keeping : Keeping setting object first state)
      (kept : object ∈ (state.ask setting receiver other target args name).1.slots.objects) :
      Keeping setting object first (state.ask setting receiver other target args name).1
  | clear {state : State} (name : String) (keeping : Keeping setting object first state)
      (kept : object ∈ (state.clear name).slots.objects) :
      Keeping setting object first (state.clear name)
  | report {state : State} (keeping : Keeping setting object first state) :
      Keeping setting object first state.takeEvents.1
  | thread {state inner : State} (keeping : Keeping setting object first state)
      (ran : Reached setting state.enterThread inner) (empty : inner.slots = []) :
      Keeping setting object first (state.leaveThread inner)

namespace Reached

variable {setting : Setting} {begin state next : State} {object : Object} {u : SourceUnit}

theorem within (reached : Reached setting begin state) (member : object ∈ state.slots.objects)
    {o : Owner} (belongs : o ∈ owners object) : Within (owners state.slots.objects : Held) o :=
  (reached.usable object member).within o belongs

/-- Where a session goes on as in lockstep with itself, units that are still there stay the same. -/
theorem table_eq (reached : Reached setting begin state)
    (within : Within (owners state.slots.objects : Held) (.unit u))
    (within' : Within (owners next.slots.objects : Held) (.unit u))
    (moves : ∀ base, (alone setting.engine ⟨setting.remembers, begin.world, []⟩).Meets base 0 state
        state →
      (alone setting.engine ⟨setting.remembers, begin.world, []⟩).Meets base 0 next next) :
    next.world.table u.resource = state.world.table u.resource := by
  obtain ⟨_, meets⟩ := reached.meet
  obtain ⟨facts, facts', -, links, ⟨τ, inv⟩, right⟩ := meets.holds
  have after := moves facts ⟨meets.slots, meets.distinct, facts, facts', .refl facts, links,
    ⟨τ, inv⟩, right⟩
  obtain ⟨later, -, grows, -, ⟨σ, inv'⟩, -⟩ := after.holds
  rw [Grip.add_to_none] at inv inv'
  rw [inv'.table_eq within', grows.table _ (inv.serial_lt within), inv.table_eq within]

/-- A unit is not parsed again while another slot holds something that belongs to it. -/
theorem shared_of_belongs (reached : Reached setting begin state) {slot : String} {u' : SourceUnit}
    (found : state.slots.get? slot = some (.unit u')) (member : object ∈ state.slots.objects)
    (belongs : .unit u ∈ owners object) (other : object ≠ .unit u') (same : u.cell = u'.cell) :
    1 < state.world.count u'.cell := by
  refine (reached.shared_iff_keeps found).2 ?_
  obtain ⟨⟨name, _⟩, held, rfl⟩ := List.mem_map.1 member
  obtain ⟨_, meets⟩ := reached.meet
  have different : name ≠ slot := by
    rintro rfl
    have there := Slots.get?_of_mem meets.distinct held
    exact other (Option.some.inj (there.symm.trans found))
  obtain ⟨_, _, inv⟩ := reached.inv_unit found
  obtain ⟨-, entry, there, describes⟩ := inv.alive (.held (Multiset.mem_cons_self _ _))
  refine ⟨u'.cell, List.mem_flatMap.2 ⟨(name, _), List.mem_filter.2 ⟨held, ?_⟩, ?_⟩, u'.cell, .refl,
    (World.resourceAt_eq there).trans describes.1⟩
  · simpa using different
  · rw [Entity.refs_eq, ← same]
    exact List.mem_map_of_mem belongs

/-- Whatever is asked, a unit stays the same if something else belongs to it, before and after. -/
theorem table_ask (reached : Reached setting begin state) (receiver other target : Option String)
    (args : Json) (name : String) (member : object ∈ state.slots.objects)
    (kept : object ∈ (state.ask setting receiver other target args name).1.slots.objects)
    (belongs : .unit u ∈ owners object) (apart : ∀ u', object ≠ .unit u') :
    (state.ask setting receiver other target args name).1.world.table u.resource =
      state.world.table u.resource := by
  by_cases still : ∀ slot, receiver = some slot → other = none → ∀ o,
      state.slots.get? slot = some o → ¬ o.Reparses name
  · exact reached.table_eq (reached.within member belongs)
      ((reached.ask receiver other target args name).within kept belongs)
      fun base meets => (meets.ask still target args).1
  -- some unit is parsed again: it is another one, or it is shared and refuses
  push Not at still
  obtain ⟨slot, rfl, rfl, _, found, ⟨u', rfl⟩, rfl⟩ := still
  obtain ⟨unsaved, options, asks⟩ : ∃ unsaved options,
      UnitQuery.ofName? "reparse" args = some (.reparse unsaved options) := ⟨_, _, rfl⟩
  obtain ⟨facts, τ, inv⟩ := reached.inv
  have within' : Within (owners state.slots.objects : Held) (.unit u') :=
    reached.within (List.mem_map_of_mem (Slots.mem_of_get? found)) (List.mem_singleton_self _)
  have unchanged : ((u'.reparse unsaved options).exec setting state.world).2.table u.resource =
      state.world.table u.resource := by
    by_cases same : u.resource.label = u'.resource.label
    · have cell := inv.cell_eq_of_label (reached.within member belongs) within' same
      rw [SourceUnit.exec_reparse, if_pos (reached.shared_of_belongs found member belongs (apart u') cell)]
    · exact u'.table_reparse unsaved options setting (inv.isLoaded within'.ne_zero)
        (inv.books.label (inv.alive within').1).2 same
  have asked : state.ask setting (some slot) none target args "reparse" =
      state.turn setting slot target ((Object.unit u').steady (u'.answer (.reparse unsaved options))) :=
    State.askSlot_reparse found asks setting target
  rw [asked]
  cases ran : (u'.reparse unsaved options).exec setting state.world with
  | mk outcome v =>
      rw [ran] at unchanged
      cases outcome with
      | ok _ =>
          rw [State.turn_reparse_ok ran, Answer.null, State.finish_plain]
          exact unchanged
      | error fault =>
          rw [State.turn_reparse_error ran]
          exact unchanged

end Reached

namespace Keeping

variable {setting : Setting} {first state : State} {object : Object} {u : SourceUnit}

theorem kept (keeping : Keeping setting object first state) : object ∈ state.slots.objects := by
  induction keeping with
  | here _ kept | ask _ _ _ _ _ _ kept | clear _ _ kept => exact kept
  | report _ ih | thread _ _ _ ih => exact ih

theorem reached (keeping : Keeping setting object first state) :
    ∃ begin, Reached setting begin state := by
  induction keeping with
  | here reached => exact ⟨_, reached⟩
  | ask receiver other target args name _ _ ih =>
      obtain ⟨_, reached⟩ := ih
      exact ⟨_, reached.ask receiver other target args name⟩
  | clear name _ _ ih =>
      obtain ⟨_, reached⟩ := ih
      exact ⟨_, reached.clear name⟩
  | report _ ih =>
      obtain ⟨_, reached⟩ := ih
      exact ⟨_, reached.report⟩
  | thread _ ran empty ih =>
      obtain ⟨_, reached⟩ := ih
      exact ⟨_, reached.leave ran empty⟩

/-- As long as something belongs to a unit, and is not the unit itself, the unit stays the same. -/
theorem table_eq (keeping : Keeping setting object first state) (belongs : .unit u ∈ owners object)
    (apart : ∀ u', object ≠ .unit u') :
    state.world.table u.resource = first.world.table u.resource := by
  induction keeping with
  | here => rfl
  | ask receiver other target args name keeping kept ih =>
      obtain ⟨_, reached⟩ := keeping.reached
      exact (reached.table_ask receiver other target args name keeping.kept kept belongs apart).trans ih
  | clear name keeping kept ih =>
      obtain ⟨_, reached⟩ := keeping.reached
      refine (reached.table_eq (reached.within keeping.kept belongs)
        ((reached.clear name).within kept belongs) fun base meets => meets.clear name).trans ih
  | report _ ih => exact ih
  | thread keeping ran _ ih =>
      obtain ⟨_, reached⟩ := keeping.reached
      obtain ⟨_, _, inv⟩ := reached.inv
      obtain ⟨_, _, inner⟩ := ran.inv
      -- the units of the outer thread were there before the inner one began
      have older := (inv.books.label (inv.alive (reached.within keeping.kept belongs)).1).2
      refine Eq.trans ?_ ih
      exact congrArg (·.getD 0) (inner.books.tables.2 older)

end Keeping

end Session

end SourceAtlas
