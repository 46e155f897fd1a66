import SourceAtlas.Proofs.Carrying
import SourceAtlas.Proofs.References

/-!
# New cursors

What the engine says about a cursor and no memo remembers becomes a new cursor each time, with a memo of
its own that nothing refers to yet: not what is in the slots or was in them, and not what is
remembered.
-/

namespace SourceAtlas

open Act

variable {setting : Setting} {engine : Engine} {α β : Type}

/-! ## Making cursors -/

/-- Whether some cursors have been made, each with a memo of its own. -/
structure World.Makes (made : List Cursor) (w v : World) : Prop where
  size : w.cells.size ≤ v.cells.size
  fresh : ∀ k ∈ made, w.cells.size ≤ k.memo ∧ k.memo < v.cells.size
  apart : made.Pairwise fun k k' => k.memo < k'.memo

theorem World.Makes.trans {u v w : World} {first second : List Cursor}
    (earlier : Makes first w v) (later : Makes second v u) : Makes (first ++ second) w u where
  size := earlier.size.trans later.size
  fresh k member := by
    rcases List.mem_append.1 member with here | there
    · exact ⟨(earlier.fresh k here).1, (earlier.fresh k here).2.trans_le later.size⟩
    · exact ⟨earlier.size.trans (later.fresh k there).1, (later.fresh k there).2⟩
  apart := List.pairwise_append.2 ⟨earlier.apart, later.apart, fun _ here _ there =>
    (earlier.fresh _ here).2.trans_le (later.fresh _ there).1⟩

namespace Act

/-- Whether what an action returns has just been made, as far as it is cursors. -/
def Makes (setting : Setting) (x : Act α) (made : α → List Cursor) : Prop :=
  ∀ w a v, x.exec setting w = (.ok a, v) → w.Makes (made a) v

namespace Makes

variable {x : Act α} {f : α → Act β} {made : α → List Cursor} {made' : β → List Cursor}

theorem of_still [covered : (still setting).Covers x] : Makes setting x fun _ => [] := by
  intro w a v ran
  have still := covered.holds w
  rw [ran] at still
  exact ⟨still.size, fun _ absent => absurd absent List.not_mem_nil, .nil⟩

theorem pure (a : α) (none : made a = []) : Makes setting (Pure.pure a) made := by
  rintro w _ _ ⟨⟩
  rw [none]
  exact ⟨le_refl _, fun _ absent => absurd absent List.not_mem_nil, .nil⟩

theorem after (first : Makes setting x fun _ => []) (next : ∀ a, Makes setting (f a) made') :
    Makes setting (x >>= f) made' := by
  intro w b u ran
  rw [exec_bind] at ran
  split at ran
  next a v began => exact (first w a v began).trans (next a v b u ran)
  next => cases ran

theorem map {g : α → β} (makes : Makes setting x made) (same : ∀ a, made' (g a) = made a) :
    Makes setting (g <$> x) made' := by
  intro w b v ran
  rw [← bind_pure_comp, exec_bind] at ran
  split at ran
  next a u began =>
    obtain ⟨rfl, rfl⟩ : g a = b ∧ u = v := by simpa [exec_pure] using ran
    rw [same]
    exact makes w a u began
  next => cases ran

theorem mapM {f : α → Act β} (each : ∀ a, Makes setting (f a) made') (list : List α) :
    Makes setting (list.mapM f) (·.flatMap made') := by
  induction list with
  | nil => exact pure _ rfl
  | cons a rest ih =>
      intro w bs u ran
      -- what is made later comes behind what has been made, so that no two memos are one
      rw [List.mapM_cons, exec_bind] at ran
      split at ran
      next b v began =>
        rw [exec_bind] at ran
        split at ran
        next others v' went =>
          obtain ⟨rfl, rfl⟩ : b :: others = bs ∧ v' = u := by simpa [exec_pure] using ran
          exact (each a w b v began).trans (ih v others v' went)
        next => cases ran
      next => cases ran

end Makes

end Act

namespace Cursor

theorem makes_make (raw : Raw Ref) (unit : SourceUnit) (parent : Option (Raw Ref)) :
    Makes setting (make raw unit parent) fun k => [k] := by
  rintro w _ _ ⟨⟩
  have size : ((w.alloc none (.memo {})).1.retainAll (refs unit)).cells.size = w.cells.size + 1 := by
    rw [World.size_retainAll, World.size_cells_alloc]
  refine ⟨?_, ?_, List.pairwise_singleton _ _⟩
  · exact size ▸ Nat.le_succ _
  · rintro _ (_ | ⟨_, ⟨⟩⟩)
    exact ⟨le_refl _, size ▸ Nat.lt_succ_self _⟩

theorem makes_ofRaw? (raw : Raw Ref) (unit : SourceUnit) :
    Makes setting (ofRaw? raw unit) Option.toList := by
  unfold ofRaw?
  split
  next => exact (makes_make raw unit none).map fun _ => rfl
  next => exact .pure none rfl

theorem makes_linked (k : Cursor) (link : CursorLink) [(Question.cursorLink link).Free] :
    Makes setting (k.linked link) Option.toList :=
  .after .of_still fun _ => makes_ofRaw? _ _

theorem makes_visitParent (k : Cursor) : Makes setting k.visitParent Option.toList := by
  unfold visitParent
  split
  next => exact (makes_make _ _ _).map fun _ => rfl
  next => exact .pure none rfl

theorem makes_arguments (k : Cursor) : Makes setting k.arguments id := by
  have each (i : Nat) : Makes setting (do
      ofRaw? (← k.raw.derive (.argument i) fun engine c => engine.cursorArgument c i) k.unit)
      Option.toList := .after .of_still fun _ => makes_ofRaw? _ _
  refine .after .of_still fun count => ?_
  rw [bind_pure_comp]
  exact (Makes.mapM each _).map fun found => List.filterMap_eq_flatMap_toList id found

theorem makes_ofVisits (nodes : List (Nat × Ref)) (origin : Resource) (unit : SourceUnit) :
    Makes setting (ofVisits nodes origin unit) id := by
  have each (node : Nat × Ref) : Makes setting
      (make ⟨some node.1, origin⟩ unit (node.2.map fun p => ⟨some p, origin⟩)) fun k => [k] :=
    makes_make _ _ _
  intro w made v ran
  have makes := Makes.mapM each nodes w made v ran
  simpa using makes

theorem makes_children (k : Cursor) : Makes setting k.children id := by
  have asks : (still setting).Covers
      (k.raw.ask (.children k.raw.value) fun engine c => engine.childVisits c) := by
    have (operands : List Resource) : (still setting).Covers (ask (.children k.raw.value) operands) :=
      ⟨still_ask_none rfl operands⟩
    unfold Raw.ask
    infer_instance
  exact .after .of_still fun visits => .after .of_still fun nodes => makes_ofVisits nodes _ _

end Cursor

namespace SourceType

theorem makes_declaration (t : SourceType) : Makes setting t.declaration Option.toList := by
  refine .after .of_still fun found => ?_
  cases found with
  | some raw => exact (Cursor.makes_make raw t.unit none).map fun _ => rfl
  | none => exact .pure none rfl

theorem makes_fields (t : SourceType) : Makes setting t.fields id := by
  have asks : (still setting).Covers
      (t.raw.ask (.fields t.raw.value) fun engine t => engine.fieldVisits t) := by
    have (operands : List Resource) : (still setting).Covers (ask (.fields t.raw.value) operands) :=
      ⟨still_ask_none rfl operands⟩
    unfold Raw.ask
    infer_instance
  exact .after .of_still fun visits => .after .of_still fun nodes => Cursor.makes_ofVisits nodes _ _

end SourceType

/-! ## Sessions -/

/-- What is in a slot refers to cells that have been made by then. -/
theorem Session.Reached.lt_size {begin state : State} (reached : Session.Reached setting begin state)
    {slot : String} {object : Object} (found : state.slots.get? slot = some object) {c : CellId}
    (member : c ∈ refs object) : c < state.world.cells.size := by
  obtain ⟨facts, τ, inv⟩ := reached.inv
  rw [Entity.refs_eq] at member
  obtain ⟨o, owned, rfl⟩ := List.mem_map.1 member
  have held : o ∈ owners state.slots.objects :=
    List.mem_flatMap.2 ⟨object, List.mem_map_of_mem (Slots.mem_of_get? found), owned⟩
  exact (inv.heap.within (inv.owns o (Multiset.mem_coe.2 held))).2

/-- Whether a cell is new in a session: no object that has been in a slot so far, on whatever thread,
refers to it, and neither does anything that is remembered. -/
structure State.IsNew (setting : Setting) (state : State) (c : CellId) : Prop where
  slots : ∀ first, Session.Later setting first state → ∀ slot object,
    first.slots.get? slot = some object → c ∉ refs object
  cells : ∀ d, ¬ state.world.PointsTo d c

/-- A cell that has yet to be made is new. -/
theorem Session.Reached.isNew {begin state : State}
    (reached : Session.Reached ⟨engine, true⟩ begin state) {c : CellId}
    (new : state.world.cells.size ≤ c) : state.IsNew ⟨engine, true⟩ c where
  slots first later slot object found member := by
    obtain ⟨begin', reached'⟩ : ∃ begin', Session.Reached ⟨engine, true⟩ begin' first :=
      later.reached_first
    exact absurd (reached'.lt_size found member) (Nat.not_lt.2 (later.recalling.size.trans new))
  cells d points := absurd (reached.ordered.2 d c points) (Nat.not_lt.2 new)

/-- Whether a query of the object in a slot hands out cursors with new memos, each with one of its
own. -/
def State.HandsOutNew (setting : Setting) (state : State) (slot name : String) (object : Object)
    (wrap : α → Answer) (made : α → List Cursor) : Prop :=
  ∀ target args, ∃ a v,
    state.ask setting (some slot) none target args name =
        finish setting target { state with world := v, slots := state.slots.set slot object }
          (.ok (wrap a)) ∧
      (∀ k ∈ made a, state.IsNew setting k.memo) ∧ ((made a).map (·.memo)).Nodup

theorem Session.Reached.handsOutNew {begin state : State}
    (reached : Session.Reached ⟨engine, true⟩ begin state) {slot : String} {object : Object}
    (found : state.slots.get? slot = some object) {name : String} (named : name ≠ "clone")
    {x : Act α} {wrap : α → Answer} {made : α → List Cursor}
    (turns : ∀ args, object.turn? name args = some (object.steady do return wrap (← x)))
    (makes : Makes ⟨engine, true⟩ x made)
    (returns : ∃ a v, x.exec ⟨engine, true⟩ state.world = (.ok a, v)) :
    state.HandsOutNew ⟨engine, true⟩ slot name object wrap made := by
  intro target args
  obtain ⟨a, v, ran⟩ := returns
  have news := makes _ _ _ ran
  have turned : (object.steady do return wrap (← x)).exec ⟨engine, true⟩ state.world =
      (.ok ⟨object, .ok (wrap a)⟩, v) := by
    rw [Object.steady, exec_bind_ok (exec_bind_ok ran)]
    rfl
  refine ⟨a, v, ?_, fun k member => reached.isNew (news.fresh k member).1, ?_⟩
  · rw [State.ask_alone found named (turns args), State.turn_ok turned]
  · exact List.pairwise_map.2 (news.apart.imp Nat.ne_of_lt)

end SourceAtlas
