import SourceAtlas.Proofs.Loading
import SourceAtlas.Proofs.Refusals
import SourceAtlas.Proofs.Visits

/-!
# From visits to cursors

The children of a cursor and the fields of a type are the nodes that the engine reports, in that
order, or none at all. Where the engine reports a null cursor nothing is kept of the nodes before
it, and a walk is left without the node whose children were to be visited.
-/

namespace SourceAtlas

open Act

/-- Whether a cursor is the handle of a visited node: it has the unit of what was visited, and the
parent that was reported. -/
structure Visit.Yields (origin : Resource) (unit : SourceUnit) (visit : Visit) (k : Cursor) :
    Prop where
  raw : k.raw = ⟨visit.cursor, origin⟩
  unit : k.unit = unit
  parent : k.parent = visit.parent.map fun p => ⟨some p, origin⟩

/-- What a visitation comes to, given what the engine would report. -/
structure Visit.Bridged (setting : Setting) (x : Act (List Cursor)) (question : Question)
    (reports : List Visit) (origin : Resource) (unit : SourceUnit) : Prop where
  /-- Without a null cursor all is shown. The engine is asked once, and there is a handle for each
  node. -/
  complete : Visit.Sound reports → Visit.shown reports = reports ∧
    ∀ w : World, w.loaded = true → ∃ cursors v, x.exec setting w = (.ok cursors, v) ∧
      v.trace = .asked question [origin] none :: w.trace ∧
      List.Forall₂ (Visit.Yields origin unit) reports cursors
  /-- The engine is told to stop at the first null cursor. When it has returned, there are no
  handles, and all that has happened is that the engine was asked. -/
  stopped : ∀ before parent after, reports = before ++ ⟨none, parent⟩ :: after →
    Visit.Sound before → Visit.shown reports = before ++ [⟨none, parent⟩] ∧
      ∀ w : World, w.loaded = true → x.exec setting w =
        (.error (.panic .nullCursorVisited), w.note (.asked question [origin] none))

variable {setting : Setting}

namespace Visit

/-- There is a node for each visit. -/
theorem forall₂_nodes {reports : List Visit} (sound : Sound reports) {origin : Resource}
    {unit : SourceUnit} {cursors : List Cursor}
    (handles : List.Forall₂ (fun node k => Cursor.IsNew ⟨some node.1, origin⟩ unit
      (node.2.map fun p => ⟨some p, origin⟩) k) (nodes reports) cursors) :
    List.Forall₂ (Yields origin unit) reports cursors := by
  induction reports generalizing cursors with
  | nil =>
      cases handles
      exact .nil
  | cons visit reports ih =>
      obtain ⟨here, there⟩ := List.forall_mem_cons.1 sound
      obtain ⟨_ | cursor, parent⟩ := visit
      · exact absurd rfl here
      · cases handles with
        | cons first rest => exact .cons ⟨first.1, first.2.1, first.2.2⟩ (ih there rest)

/-- Asks the engine to visit something, and makes handles for the nodes that it reports. -/
def bridge (question : Question) (origin : Resource) (unit : SourceUnit)
    (reports : Engine → List Visit) : Act (List Cursor) := do
  Act.ask question [origin]
  let nodes ← Act.ofPanic (collect (reports (← Act.engine)))
  Cursor.ofVisits nodes origin unit

theorem exec_bridge (question : Question) (origin : Resource) (unit : SourceUnit)
    (reports : Engine → List Visit) {w : World} (loaded : w.loaded = true) :
    (bridge question origin unit reports).exec setting w =
      match collect (reports setting.engine) with
      | .ok nodes => (Cursor.ofVisits nodes origin unit).exec setting
          (w.note (.asked question [origin] none))
      | .error panic => (.error (.panic panic), w.note (.asked question [origin] none)) := by
  unfold bridge
  rw [exec_bind_ok (exec_ask _ _ _ loaded), exec_bind_ok exec_engine]
  cases collect (reports setting.engine) <;> rfl

/-- Whatever the engine reports, there are handles for all of it or for none. -/
theorem bridged (question : Question) (origin : Resource) (unit : SourceUnit)
    (reports : Engine → List Visit) :
    Bridged setting (bridge question origin unit reports) question (reports setting.engine) origin
      unit where
  complete sound := by
    refine ⟨shown_sound sound, fun w loaded => ?_⟩
    rw [exec_bridge question origin unit reports loaded, collect_sound sound]
    obtain ⟨cursors, v, ran, quiet, handles⟩ := Cursor.exec_ofVisits setting
      (nodes (reports setting.engine)) origin unit (w.note (.asked question [origin] none))
    exact ⟨cursors, v, ran, quiet, forall₂_nodes sound handles⟩
  stopped before parent after split sound := by
    have null : ¬ Sound (reports setting.engine) := fun all =>
      all ⟨none, parent⟩ (by simp [split]) rfl
    refine ⟨by rw [split, shown_null sound], fun w loaded => ?_⟩
    rw [exec_bridge question origin unit reports loaded, collect_null null]

end Visit

/-- The children of a cursor come over the bridge. -/
theorem Cursor.children_eq (k : Cursor) :
    k.children = Visit.bridge (.children k.raw.value) k.raw.origin k.unit
      (·.childReports k.raw.value) := by
  unfold children Raw.ask Visit.bridge
  simp only [bind_assoc, pure_bind]
  rfl

/-- The fields of a type come over the bridge. -/
theorem SourceType.fields_eq (type : SourceType) :
    type.fields = Visit.bridge (.fields type.raw.value) type.raw.origin type.unit
      (·.fieldReports type.raw.value) := by
  unfold fields Raw.ask Visit.bridge
  simp only [bind_assoc, pure_bind]
  rfl

theorem Cursor.bridged_children (k : Cursor) :
    Visit.Bridged setting k.children (.children k.raw.value)
      (setting.engine.childReports k.raw.value) k.raw.origin k.unit := by
  rw [children_eq]
  exact Visit.bridged ..

theorem SourceType.bridged_fields (type : SourceType) :
    Visit.Bridged setting type.fields (.fields type.raw.value)
      (setting.engine.fieldReports type.raw.value) type.raw.origin type.unit := by
  rw [fields_eq]
  exact Visit.bridged ..

/-! ## Walks -/

namespace Walk

/-- What the next step of a walk comes to, given its last pending node and the others. -/
structure Steps (setting : Setting) (others : List Cursor) (node : Cursor) : Prop where
  yields : Visit.Sound (setting.engine.childReports node.raw.value) → ∀ w : World,
    w.loaded = true → ∃ children v, node.children.exec setting w = (.ok children, v) ∧
      (⟨others ++ [node]⟩ : Walk).advance.exec setting w =
        (.ok (⟨others ++ children.reverse⟩, .ok (some node)), v)
  panics : ¬ Visit.Sound (setting.engine.childReports node.raw.value) → ∀ w : World,
    w.loaded = true → (⟨others ++ [node]⟩ : Walk).advance.exec setting w =
      (.ok (⟨others⟩, .error (.panic .nullCursorVisited)),
        (w.note (.asked (.children node.raw.value) [node.raw.origin] none)).release (refs node))

theorem exec_advance (others : List Cursor) (node : Cursor) (w : World) :
    (⟨others ++ [node]⟩ : Walk).advance.exec setting w =
      match node.children.exec setting w with
      | (.ok children, v) => (.ok (⟨others ++ children.reverse⟩, .ok (some node)), v)
      | (.error fault, v) => (.ok (⟨others⟩, .error fault), v.release (refs node)) := by
  unfold advance
  simp only [List.getLast?_concat, List.dropLast_concat]
  rw [exec_bind_ok (exec_attempt _)]
  rcases node.children.exec setting w with ⟨fault | children, v⟩ <;> rfl

theorem steps (others : List Cursor) (node : Cursor) : Steps setting others node where
  yields sound w loaded := by
    obtain ⟨children, v, ran, -⟩ := (node.bridged_children.complete sound).2 w loaded
    exact ⟨children, v, ran, by rw [exec_advance, ran]⟩
  panics null w loaded := by
    obtain ⟨before, parent, after, split, sound⟩ := (Visit.sound_or_null _).resolve_left null
    rw [exec_advance, (node.bridged_children.stopped before parent after split sound).2 w loaded]

end Walk

/-! ## Sessions -/

/-- There are objects only where the engine is loaded. -/
theorem Session.Reached.loaded {begin state : State} (reached : Reached setting begin state)
    {slot : String} {object : Object} (found : state.slots.get? slot = some object) :
    state.world.loaded = true := by
  obtain ⟨names, heard⟩ := reached.heard
  by_contra unloaded
  rw [heard.loading.empty (Bool.eq_false_iff.2 unloaded)] at found
  exact nomatch found

/-- What the user of a session sees of a visitation. -/
structure State.Bridged (setting : Setting) (state : State) (slot name : String) (object : Object)
    (question : Question) (reports : List Visit) (origin : Resource) (unit : SourceUnit) :
    Prop where
  complete : Visit.Sound reports → ∀ target args, ∃ cursors v,
    List.Forall₂ (Visit.Yields origin unit) reports cursors ∧
      state.ask setting (some slot) none target args name =
        finish setting target { state with world := v, slots := state.slots.set slot object }
          (.ok (.list .cursor cursors))
  stopped : ¬ Visit.Sound reports → ∀ target args,
    state.ask setting (some slot) none target args name =
        ({ state with world := state.world.note (.asked question [origin] none) },
          .fault (.panic .nullCursorVisited)) ∧
      state.Untouched (state.ask setting (some slot) none target args name).1

/-- What the user of a session sees of the next step of a walk, given its last pending node and the
others. -/
structure State.Stepped (setting : Setting) (state : State) (slot : String) (others : List Cursor)
    (node : Cursor) : Prop where
  yields : Visit.Sound (setting.engine.childReports node.raw.value) → ∀ target args,
    ∃ children v, node.children.exec setting state.world = (.ok children, v) ∧
      state.ask setting (some slot) none target args "next" =
        finish setting target
          { state with
            world := v
            slots := state.slots.set slot (.walk ⟨others ++ children.reverse⟩) }
          (.ok (.object (.cursor node)))
  panics : ¬ Visit.Sound (setting.engine.childReports node.raw.value) → ∀ target args,
    state.ask setting (some slot) none target args "next" =
      ({ state with
          world := (state.world.note
            (.asked (.children node.raw.value) [node.raw.origin] none)).release (refs node)
          slots := state.slots.set slot (.walk ⟨others⟩) }, .fault (.panic .nullCursorVisited))

namespace Session.Reached

variable {begin state : State} {slot : String}

/-- What comes over the bridge in a session is listed, or panics and leaves everything else as it
was. -/
theorem bridged (reached : Reached setting begin state) {object : Object}
    (found : state.slots.get? slot = some object) {name : String} (named : name ≠ "clone")
    {x : Act (List Cursor)} (turns : ∀ args, object.turn? name args =
      some (object.steady do return .list .cursor (← x)))
    {question : Question} {reports : List Visit} {origin : Resource} {unit : SourceUnit}
    (bridged : Visit.Bridged setting x question reports origin unit) :
    state.Bridged setting slot name object question reports origin unit where
  complete sound target args := by
    obtain ⟨cursors, v, ran, -, handles⟩ :=
      (bridged.complete sound).2 _ (reached.loaded found)
    refine ⟨cursors, v, handles, ?_⟩
    have turned : (object.steady do return .list .cursor (← x)).exec setting state.world =
        (.ok ⟨object, .ok (.list .cursor cursors)⟩, v) := by
      rw [Object.steady, exec_bind_ok (exec_bind_ok ran)]
      rfl
    rw [State.ask_alone found named (turns args), State.turn_ok turned]
  stopped null target args := by
    obtain ⟨before, parent, after, split, sound⟩ := (Visit.sound_or_null _).resolve_left null
    have ran := (bridged.stopped before parent after split sound).2 _ (reached.loaded found)
    have turned : (object.steady do return .list .cursor (← x)).exec setting state.world =
        (.error (.panic .nullCursorVisited), state.world.note (.asked question [origin] none)) := by
      rw [Object.steady, exec_bind_error (exec_bind_error ran)]
    have asked : state.ask setting (some slot) none target args name =
        ({ state with world := state.world.note (.asked question [origin] none) },
          .fault (.panic .nullCursorVisited)) := by
      rw [State.ask_alone found named (turns args), State.turn_error turned]
    obtain ⟨facts, τ, inv⟩ := (reached.ask (some slot) none target args name).inv
    refine ⟨asked, ?_⟩
    rw [asked] at inv ⊢
    have intact : state.world.Intact (state.world.note (.asked question [origin] none)) :=
      .talk rfl rfl [.asked question [origin] none] rfl fun _ => by simp
    exact ⟨rfl, intact.live, intact.count_eq, intact.trace, inv.texts.none_out, intact.memo_eq,
      intact.cells⟩

/-- A step of a walk in a session yields its node, or panics and takes only that node away. -/
theorem stepped (reached : Reached setting begin state) {others : List Cursor} {node : Cursor}
    (found : state.slots.get? slot = some (.walk ⟨others ++ [node]⟩)) :
    state.Stepped setting slot others node where
  yields sound target args := by
    obtain ⟨children, v, ran, advanced⟩ :=
      (Walk.steps others node).yields sound _ (reached.loaded found)
    refine ⟨children, v, ran, ?_⟩
    have turned : (Walk.turn ⟨others ++ [node]⟩ .next).exec setting state.world =
        (.ok ⟨.walk ⟨others ++ children.reverse⟩, .ok (.object (.cursor node))⟩, v) :=
      exec_bind_ok advanced
    rw [State.ask_alone found (by decide) (by rfl), State.turn_ok turned]
  panics null target args := by
    have advanced := (Walk.steps others node).panics null _ (reached.loaded found)
    have turned : (Walk.turn ⟨others ++ [node]⟩ .next).exec setting state.world =
        (.ok ⟨.walk ⟨others⟩, .error (.panic .nullCursorVisited)⟩, _) :=
      exec_bind_ok advanced
    rw [State.ask_alone found (by decide) (by rfl), State.turn_ok turned]
    rfl

end Session.Reached

/-- Visits become cursors one for one, and all or none. Whatever lists the engine reports, the
children of a cursor and the fields of a type are the reported nodes in order, each with the unit of
what was visited and under the parent that was reported; fields have no parent. If a null cursor is
reported, the engine is told to stop there, the panic comes when it has returned, and no cursor is
handed out. In a session a query that ends so changes nothing but the record of what was asked, and
a walk loses only the node whose children were visited. -/
theorem visits_bridged (setting : Setting) :
    (∀ question reports origin unit, Visit.Bridged setting
      (Visit.bridge question origin unit fun _ => reports) question reports origin unit) ∧
    (∀ k : Cursor, Visit.Bridged setting k.children (.children k.raw.value)
      (setting.engine.childReports k.raw.value) k.raw.origin k.unit) ∧
    (∀ type : SourceType, Visit.Bridged setting type.fields (.fields type.raw.value)
        (setting.engine.fieldReports type.raw.value) type.raw.origin type.unit ∧
      ∀ visit ∈ setting.engine.fieldReports type.raw.value, visit.parent = none) ∧
    (∀ others node, Walk.Steps setting others node) ∧
    ∀ begin state, Session.Reached setting begin state → ∀ slot,
      (∀ k : Cursor, state.slots.get? slot = some (.cursor k) →
        state.Bridged setting slot "children" (.cursor k) (.children k.raw.value)
          (setting.engine.childReports k.raw.value) k.raw.origin k.unit) ∧
      (∀ type : SourceType, state.slots.get? slot = some (.type type) →
        state.Bridged setting slot "fields" (.type type) (.fields type.raw.value)
          (setting.engine.fieldReports type.raw.value) type.raw.origin type.unit) ∧
      ∀ others node, state.slots.get? slot = some (.walk ⟨others ++ [node]⟩) →
        state.Stepped setting slot others node := by
  refine ⟨fun question reports origin unit => Visit.bridged question origin unit fun _ => reports,
    Cursor.bridged_children, fun type => ⟨type.bridged_fields, ?_⟩, Walk.steps,
    fun begin state reached slot => ⟨fun k found => ?_, fun type found => ?_,
      fun others node found => reached.stepped found⟩⟩
  · intro visit reported
    obtain ⟨cursor, -, rfl⟩ := List.mem_map.1 reported
    rfl
  · exact reached.bridged found (by decide) (fun _ => rfl) k.bridged_children
  · exact reached.bridged found (by decide) (fun _ => rfl) type.bridged_fields

/-- The child before a null cursor is shown and not kept; the one behind it is not shown. -/
theorem visits_bridged_null :
    let engine : Engine := { (default : Engine) with
      tables := { (default : Engine).tables with
        cursors := #[{ children := [some 1, none, some 2] }] } }
    let unit : SourceUnit := ⟨1, ⟨.unit, 1, 0⟩, ⟨0, ⟨.index, 0, 0⟩, ⟨false, false⟩⟩⟩
    let k : Cursor := { raw := ⟨some 0, unit.resource⟩, unit, memo := 2 }
    Visit.shown (engine.childReports (some 0)) = [⟨some 1, some 0⟩, ⟨none, some 0⟩] ∧
      (k.children.exec ⟨engine, true⟩ { loaded := true }).1 =
        .error (.panic .nullCursorVisited) := by
  intro engine unit k
  have stopped := ((visits_bridged ⟨engine, true⟩).2.1 k).stopped [⟨some 1, some 0⟩] (some 0)
    [⟨some 2, some 0⟩] rfl (by simp [Visit.Sound])
  exact ⟨stopped.1, congrArg Prod.fst (stopped.2 { loaded := true } rfl)⟩

end SourceAtlas
