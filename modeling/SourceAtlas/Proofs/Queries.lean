import Mathlib
import SourceAtlas.Proofs.Coverage
import SourceAtlas.Proofs.Sessions
import SourceAtlas.Proofs.States

/-!
# What a query runs

A query of a session runs at most one action: that of the object in a slot, that of two objects
together, or that of the session itself. What is guaranteed of actions is so guaranteed of queries,
and a query that ends with a fault has changed nothing but what its action has changed.

The sample sessions at the end are computed in many modules, by the equations of the functions of
lists, texts and monads that they run. These equations are all over the library, which is why it is
imported as a whole here.
-/

namespace SourceAtlas

/-! ## Giving up references -/

/-- Whether a store comes from another one when references are given up: cells may have been freed,
and what they owned given back. -/
structure World.Sheds (w v : World) : Prop where
  loaded : v.loaded = w.loaded
  instances : v.instances = w.instances
  size : v.cells.size = w.cells.size
  survives : v.Survives w
  trace : ∃ events, v.trace = events ++ w.trace ∧ ∀ event ∈ events, ∃ r, event = .disposed r

namespace World.Sheds

variable {u v w : World}

theorem refl (w : World) : w.Sheds w :=
  ⟨rfl, rfl, rfl, .of_cells rfl, [], rfl, fun _ absent => absurd absent List.not_mem_nil⟩

theorem trans (first : w.Sheds v) (second : v.Sheds u) : w.Sheds u := by
  obtain ⟨older, trace, given⟩ := first.trace
  obtain ⟨newer, trace', given'⟩ := second.trace
  exact ⟨second.loaded.trans first.loaded, second.instances.trans first.instances,
    second.size.trans first.size, second.survives.trans first.survives, newer ++ older,
    by rw [trace', trace, List.append_assoc], List.forall_mem_append.2 ⟨given', given⟩⟩

theorem release (w : World) (cells : CellRefs) : w.Sheds (w.release cells) := by
  refine release_closed refl trans ?_ ?_ w cells
  · intro w c entry found
    exact ⟨rfl, rfl, size_cells_put .., .put found _, [], rfl,
      fun _ absent => absurd absent List.not_mem_nil⟩
  · intro w c entry found
    have size : ((w.put c none).disposeOption entry.resource).cells.size = w.cells.size := by
      rw [cells_disposeOption, size_cells_put]
    cases owned : entry.resource with
    | none =>
        rw [owned] at size
        exact ⟨rfl, rfl, size, .free found _, [], rfl,
          fun _ absent => absurd absent List.not_mem_nil⟩
    | some r =>
        rw [owned] at size
        exact ⟨rfl, rfl, size, .free found _, [.disposed r], rfl, fun event member =>
          ⟨r, List.mem_singleton.1 member⟩⟩

end World.Sheds

namespace State

theorem sheds_store (state : State) (name : String) (object : Object) :
    state.world.Sheds (state.store name object).world :=
  .release ..

theorem sheds_storeAll (state : State) (name : String) (objects : List Object) :
    state.world.Sheds (state.storeAll name objects).world := by
  unfold storeAll
  induction objects.zipIdx generalizing state with
  | nil => exact .refl _
  | cons first rest ih => exact (state.sheds_store _ _).trans (ih _)

theorem sheds_settle (state : State) (target : Option String) (answer : Answer) :
    state.world.Sheds (state.settle target answer).world := by
  unfold settle
  split
  · exact state.sheds_store _ _
  · exact state.sheds_storeAll _ _
  · exact .release ..

theorem sheds_clear (state : State) (name : String) :
    state.world.Sheds (state.clear name).world := by
  unfold clear
  split
  · exact .release ..
  · exact .refl _

theorem sheds_clears (state : State) (names : List String) :
    state.world.Sheds (names.foldl clear state).world := by
  induction names generalizing state with
  | nil => exact .refl _
  | cons name names ih => exact (state.sheds_clear name).trans (ih _)

end State

/-! ## Outcomes of turns -/

/-- An object that is asked something and comes to the end has an answer, unless it is a walk. -/
theorem Object.returns_turn? {object : Object} {name : String} {args : Json} {act : Act Turn}
    (found : object.turn? name args = some act) :
    (∃ walk query, object = .walk walk ∧ act = walk.turn query) ∨
      act.Returns fun t => ∃ answer, t.outcome = .ok answer := by
  have answered {receiver : Object} {answer : Act Answer} :
      (receiver.steady answer).Returns fun t => ∃ answer, t.outcome = .ok answer :=
    .bind fun _ => .pure ⟨_, rfl⟩
  cases object with
  | walk held =>
      -- a walk may come to its end with the fault of a visitation
      obtain ⟨query, -, rfl⟩ := Option.map_eq_some_iff.1 found
      exact .inl ⟨held, query, rfl, rfl⟩
  | location held =>
      right
      obtain ⟨query, -, rfl⟩ := Option.map_eq_some_iff.1 found
      cases query <;> first
        | exact answered
        | exact .bind fun _ => .bind fun _ => .bind fun _ => .pure ⟨_, rfl⟩
  | tokens held =>
      right
      obtain ⟨query, -, rfl⟩ := Option.map_eq_some_iff.1 found
      cases query <;> first
        | exact .pure ⟨_, rfl⟩
        | exact .bind fun _ => .pure ⟨_, rfl⟩
  | chunk held =>
      right
      obtain ⟨query, -, rfl⟩ := Option.map_eq_some_iff.1 found
      cases query <;> first
        | exact answered
        | exact .bind fun _ => .pure ⟨_, rfl⟩
        | exact .bind fun _ => .bind fun _ => .pure ⟨_, rfl⟩
  | _ =>
      obtain ⟨query, -, rfl⟩ := Option.map_eq_some_iff.1 found
      exact .inr answered

theorem Object.returns_pairTurn? {first second : Object} {query : PairQuery} {act : Act Turn}
    (found : first.pairTurn? second query = some act) :
    act.Returns fun t => ∃ answer, t.outcome = .ok answer := by
  unfold pairTurn? at found
  split at found <;> cases found <;> first
    | exact .bind fun _ => .pure ⟨_, rfl⟩
    | exact .bind fun _ => .bind fun _ => .bind fun _ => .pure ⟨_, rfl⟩

/-! ## What runs -/

namespace State

/-- Whether an action is what runs when the object in a slot is asked something by name, maybe
together with the object in another one. The object in the last of the slots may come back
changed. -/
inductive Poses (state : State) (name : String) (args : Json) (receiver : String) :
    Option String → String → Act Turn → Prop
  | clone {object : Object} : state.slots.get? receiver = some object → name = "clone" →
      object.isClonable →
      Poses state name args receiver none receiver (object.steady (.object <$> Act.keep object))
  | alone {object : Object} {act : Act Turn} : state.slots.get? receiver = some object →
      object.turn? name args = some act → Poses state name args receiver none receiver act
  | pair {first second : Object} {other : String} {query : PairQuery} {act : Act Turn} :
      state.slots.get? receiver = some first → state.slots.get? other = some second →
      PairQuery.ofName? name = some query → first.pairTurn? second query = some act →
      Poses state name args receiver (some other) other act

variable {setting : Setting} {state : State} {name slot slot' : String} {args : Json}
variable {receiver other target : Option String} {act : Act Turn}

/-- What an object is asked is covered by a guarantee that allows all but to load the engine, if
walks are, and units that are parsed again. -/
theorem Poses.covers {G : Act.Guarantee setting} [G.Counting] [G.Failing] [G.Requesting]
    [G.Visiting] [G.Remembering] (poses : state.Poses name args slot other slot' act)
    (walks : ∀ (walk : Walk) query, act = walk.turn query → G.Covers act)
    (reparses : ∀ unit unsaved options, state.slots.get? slot = some (.unit unit) → other = none →
      UnitQuery.ofName? name args = some (.reparse unsaved options) →
      G.Covers (unit.reparse unsaved options)) : G.Covers act := by
  cases poses with
  | clone => infer_instance
  | alone found turns =>
      refine Object.covers_turn? turns (fun walk query _ => walks walk query) ?_
      rintro unit unsaved options rfl named
      exact reparses unit unsaved options found rfl named
  | pair _ _ _ turns => exact Object.covers_pairTurn? turns

/-- What an object is asked has an answer when it comes to its end, unless a walk is asked. -/
theorem Poses.returns (poses : state.Poses name args slot other slot' act) :
    (∃ walk query, state.slots.get? slot = some (.walk walk) ∧ act = walk.turn query) ∨
      act.Returns fun t => ∃ answer, t.outcome = .ok answer := by
  cases poses with
  | clone => exact .inr (.bind fun _ => .pure ⟨_, rfl⟩)
  | alone found turns =>
      rcases Object.returns_turn? turns with ⟨walk, query, rfl, same⟩ | returns
      · exact .inl ⟨walk, query, found, same⟩
      · exact .inr returns
  | pair _ _ _ turns => exact .inr (Object.returns_pairTurn? turns)

/-- An object that cannot be cloned is only asked something alone: it is the second of no pair. -/
theorem Poses.alone_of {object : Object} (poses : state.Poses name args slot other slot' act)
    (found : state.slots.get? slot' = some object) (single : object.isClonable = false) :
    slot' = slot ∧ other = none ∧ object.turn? name args = some act := by
  cases poses with
  | clone here _ clonable =>
      obtain rfl := Option.some.inj (here.symm.trans found)
      exact absurd clonable (by rw [single]; decide)
  | alone here turns =>
      obtain rfl := Option.some.inj (here.symm.trans found)
      exact ⟨rfl, rfl, turns⟩
  | pair _ beside _ turns =>
      obtain rfl := Option.some.inj (beside.symm.trans found)
      unfold Object.pairTurn? at turns
      split at turns <;> contradiction

/-- A query of an object runs an action of it, or it is not understood. -/
theorem askSlot_cases (setting : Setting) (state : State) (name slot : String)
    (other target : Option String) (args : Json) :
    (∃ slot' act, state.Poses name args slot other slot' act ∧
      state.askSlot setting name slot other target args = state.turn setting slot' target act) ∨
    ∃ reply, state.askSlot setting name slot other target args = (state, reply) ∧
      ∀ fault, reply ≠ .fault fault := by
  unfold askSlot
  split
  next => exact .inr ⟨_, rfl, nofun⟩
  next object found =>
    split
    next second =>
      -- asked together with another object
      split
      next => exact .inr ⟨_, rfl, nofun⟩
      next companion beside =>
        split
        next act turns =>
          obtain ⟨query, named, turns⟩ := Option.bind_eq_some_iff.1 turns
          exact .inl ⟨_, act, .pair found beside named turns, rfl⟩
        next => exact .inr ⟨_, rfl, nofun⟩
    next =>
      -- asked alone; to be cloned is no query of the object itself
      split
      next cloned =>
        split
        next clonable => exact .inl ⟨_, _, .clone found cloned clonable, rfl⟩
        next => exact .inr ⟨_, rfl, nofun⟩
      next =>
        split
        next act turns => exact .inl ⟨_, act, .alone found turns, rfl⟩
        next => exact .inr ⟨_, rfl, nofun⟩

/-- What is asked of one object, other than to be cloned, is a turn of it. -/
theorem ask_alone {object : Object} (found : state.slots.get? slot = some object)
    (named : name ≠ "clone") (turns : object.turn? name args = some act) :
    state.ask setting (some slot) none target args name = state.turn setting slot target act := by
  simp only [ask, askSlot, found, turns, if_neg named]

/-- An object that answers a query goes into the slot for it, if that is empty. -/
theorem ask_made {object made : Object} {place : String} {answer : Act Answer} {w : World}
    (found : state.slots.get? slot = some object) (named : name ≠ "clone")
    (turns : object.turn? name args = some (object.steady answer))
    (ran : answer.exec setting state.world = (.ok (.object made), w))
    (new : (state.slots.set slot object).get? place = none) :
    (state.ask setting (some slot) none (some place) args name).1 =
      { state with world := w, slots := (state.slots.set slot object).set place made } := by
  have steady : (object.steady answer).exec setting state.world =
      (.ok ⟨object, .ok (.object made)⟩, w) := by
    unfold Object.steady
    rw [Act.exec_bind_ok ran]
    rfl
  rw [ask_alone found named turns, turn_ok steady]
  exact store_new new _

/-- What is asked of the session, other than to drop slots, runs an action. -/
theorem ask_session {act : Act Answer} (named : name ≠ "drop")
    (asks : sessionQuery? name args = some act) :
    state.ask setting none other target args name =
      finish setting target (state.run setting act).1 (state.run setting act).2 := by
  simp only [ask, asks, if_neg named]

/-- A query of the session runs an action, or drops slots, or is not understood. -/
theorem ask_none_cases (setting : Setting) (state : State) (other target : Option String)
    (args : Json) (name : String) :
    (∃ act, sessionQuery? name args = some act ∧
      state.ask setting none other target args name =
        finish setting target (state.run setting act).1 (state.run setting act).2) ∨
    (name = "drop" ∧ ∃ names : List String, state.ask setting none other target args name =
      (names.foldl clear state, .shown .null)) ∨
    sessionQuery? name args = none ∧
      state.ask setting none other target args name = (state, .badQuery) := by
  unfold ask
  split
  next held => cases held
  next =>
    split
    next drops => exact .inr (.inl ⟨drops, _, rfl⟩)
    next =>
      split
      next unknown => exact .inr (.inr ⟨unknown, rfl⟩)
      next act found => exact .inl ⟨act, found, rfl⟩

/-- How a query ends with a fault: its action does, or a walk meets a defect and goes on behind
it. -/
inductive Faults (setting : Setting) (state : State) (receiver other : Option String) (args : Json)
    (name : String) (fault : Fault) : State → Prop
  | session {act : Act Answer} {v : World} : receiver = none →
      sessionQuery? name args = some act → act.exec setting state.world = (.error fault, v) →
      Faults setting state receiver other args name fault { state with world := v }
  | object {slot slot' : String} {act : Act Turn} {v : World} : receiver = some slot →
      state.Poses name args slot other slot' act →
      act.exec setting state.world = (.error fault, v) →
      Faults setting state receiver other args name fault { state with world := v }
  | turned {slot slot' : String} {act : Act Turn} {t : Turn} {v : World} : receiver = some slot →
      state.Poses name args slot other slot' act → act.exec setting state.world = (.ok t, v) →
      t.outcome = .error fault →
      Faults setting state receiver other args name fault
        { state with world := v, slots := state.slots.set slot' t.receiver }

theorem finish_fault {fault : Fault} {outcome : Except Fault Answer}
    (faulted : (finish setting target state outcome).2 = .fault fault) :
    outcome = .error fault ∧ (finish setting target state outcome).1 = state := by
  cases outcome with
  | ok answer => exact nomatch faulted
  | error found => exact ⟨congrArg _ (Reply.fault.inj faulted), rfl⟩

theorem ask_fault {fault : Fault}
    (faulted : (state.ask setting receiver other target args name).2 = .fault fault) :
    state.Faults setting receiver other args name fault
      (state.ask setting receiver other target args name).1 := by
  cases receiver with
  | none =>
      rcases ask_none_cases setting state other target args name with
        ⟨act, found, asked⟩ | ⟨-, names, asked⟩ | ⟨-, asked⟩
      · rw [asked] at faulted ⊢
        rcases ran : act.exec setting state.world with ⟨outcome, v⟩
        rw [run_eq ran] at faulted ⊢
        obtain ⟨rfl, same⟩ := finish_fault faulted
        rw [same]
        exact .session rfl found ran
      · rw [asked] at faulted
        exact nomatch faulted
      · rw [asked] at faulted
        exact nomatch faulted
  | some slot =>
      show state.Faults setting _ other args name fault
        (state.askSlot setting name slot other target args).1
      replace faulted :
        (state.askSlot setting name slot other target args).2 = .fault fault := faulted
      rcases askSlot_cases setting state name slot other target args with
        ⟨slot', act, poses, asked⟩ | ⟨reply, asked, sound⟩
      · rw [asked] at faulted ⊢
        rcases ran : act.exec setting state.world with ⟨found | t, v⟩
        · rw [turn_error ran] at faulted ⊢
          obtain rfl := Reply.fault.inj faulted
          exact .object rfl poses ran
        · rw [turn_ok ran] at faulted ⊢
          obtain ⟨ended, same⟩ := finish_fault faulted
          rw [same]
          exact .turned rfl poses ran ended
      · rw [asked] at faulted
        exact absurd faulted (sound fault)

end State

/-! ## The first unit -/

namespace Session

open Act

/-- The index that is made first in a session. -/
def firstIndex : Index :=
  ⟨0, ⟨.index, 0, 0⟩, ⟨false, false⟩⟩

/-- The unit that is made first in a session, of the first index. -/
def firstUnit : SourceUnit :=
  ⟨1, ⟨.unit, 1, 0⟩, firstIndex⟩

/-- The state of a session that has made an index. -/
def begun : State where
  world :=
    { cells := #[some ⟨1, some firstIndex.resource, .index⟩]
      trace := [.acquired firstIndex.resource, .requested (.createIndex firstIndex.config)]
      acquired := 1, indexes := 1, live := { index := 1 }, loaded := true }
  slots := [("i", .index firstIndex)]

/-- The state of a session that has made an index, and a unit of it. -/
def parsed : State where
  world :=
    { cells := #[some ⟨2, some firstIndex.resource, .index⟩,
        some ⟨1, some firstUnit.resource, .unit firstIndex none⟩]
      trace := .acquired firstUnit.resource ::
        .requested (.parse firstIndex.resource none [] [] 0) :: begun.world.trace
      instances := #[0], acquired := 2, indexes := 1, live := { index := 1, unit := 1 }
      loaded := true }
  slots := [("u", .unit firstUnit), ("i", .index firstIndex)]

variable {setting : Setting}

theorem exec_answer {α : Type} {W : α → Object} {made : Act α} {a : α} {v w : World}
    (ran : made.exec setting w = (.ok a, v)) :
    (do return Answer.object (W (← made)) : Act Answer).exec setting w =
      (.ok (.object (W a)), v) := by
  rw [exec_bind_ok ran]
  rfl

theorem ask_begun (creates : setting.engine.tables.createsIndexes = true) :
    (({} : State).ask setting none none (some "i") .null "create_index").1 = begun := by
  have made : (Index.create ⟨false, false⟩).exec setting {} = (.ok firstIndex, begun.world) := by
    unfold Index.create
    rw [exec_bind_ok (a := ()) (v := { loaded := true }) rfl, exec_bind_ok (exec_request _ rfl),
      exec_bind_ok exec_engine, if_pos creates]
    rfl
  rw [State.ask_session (by decide) rfl, State.run_eq (exec_answer (W := .index) made)]
  exact State.store_new rfl _

theorem ask_parsed (gives : setting.engine.source none = { name := none, unit := some 0 }) :
    (begun.ask setting (some "i") none (some "u") .null "parse").1 = parsed := by
  have made : (firstIndex.parse none [] [] {}).exec setting begun.world =
      (.ok firstUnit, parsed.world) := by
    unfold Index.parse
    rw [exec_bind_ok (a := ()) (v := begun.world) rfl, exec_bind_ok (exec_request _ rfl),
      exec_bind_ok exec_engine]
    simp only [gives]
    rfl
  have ran : (firstIndex.answer (.parse none [] [] {})).exec setting begun.world =
      (.ok (.object (.unit firstUnit)), parsed.world) := exec_answer (W := .unit) made
  have found : begun.slots.get? "i" = some (.index firstIndex) := rfl
  exact State.ask_made found (by decide) rfl ran rfl

/-- A session may begin with an index and with a unit of it. -/
theorem opens (creates : setting.engine.tables.createsIndexes = true)
    (gives : setting.engine.source none = { name := none, unit := some 0 }) :
    ((({} : State).ask setting none none (some "i") .null "create_index").1.ask setting
      (some "i") none (some "u") .null "parse").1 = parsed := by
  rw [ask_begun creates, ask_parsed gives]

theorem Reached.parsed (creates : setting.engine.tables.createsIndexes = true)
    (gives : setting.engine.source none = { name := none, unit := some 0 }) :
    Reached setting {} Session.parsed := by
  rw [← opens creates gives]
  exact (Reached.start.ask none none (some "i") .null "create_index").ask (some "i") none (some "u")
    .null "parse"

/-! ## The first root -/

/-- The cursor that is made first in a session, the root of the first unit. -/
def firstRoot : Cursor :=
  { raw := ⟨some 0, firstUnit.resource⟩, unit := firstUnit, memo := 2 }

/-- The state of a session that has made an index, a unit of it, and the root of the unit. -/
def rooted : State where
  world :=
    { parsed.world with
      cells := #[some ⟨2, some firstIndex.resource, .index⟩,
        some ⟨2, some firstUnit.resource, .unit firstIndex none⟩, some ⟨1, none, .memo {}⟩]
      trace := .asked .rootCursor [firstUnit.resource] none :: parsed.world.trace }
  slots := ("c", .cursor firstRoot) :: parsed.slots

theorem ask_rooted (gives : (setting.engine.unit 0).root = some 0) :
    (parsed.ask setting (some "u") none (some "c") .null "cursor").1 = rooted := by
  have made : (Cursor.root firstUnit).exec setting parsed.world =
      (.ok firstRoot, rooted.world) := by
    have root : (setting.engine.unit (parsed.world.table firstUnit.resource)).root = some 0 := gives
    unfold Cursor.root
    rw [exec_bind_ok (exec_ask _ _ _ rfl), exec_bind_ok exec_engine, exec_bind_ok (exec_table _)]
    dsimp only [World.note, World.table] at root ⊢
    rw [root]
    rfl
  have ran : (firstUnit.answer .cursor).exec setting parsed.world =
      (.ok (.object (.cursor firstRoot)), rooted.world) := exec_answer (W := .cursor) made
  have found : parsed.slots.get? "u" = some (.unit firstUnit) := rfl
  exact State.ask_made found (by decide) rfl ran rfl

/-- A session may begin with an index, a unit of it, and the root of the unit. -/
theorem opens_rooted (creates : setting.engine.tables.createsIndexes = true)
    (gives : setting.engine.source none = { name := none, unit := some 0 })
    (roots : (setting.engine.unit 0).root = some 0) :
    (((({} : State).ask setting none none (some "i") .null "create_index").1.ask setting
      (some "i") none (some "u") .null "parse").1.ask setting
        (some "u") none (some "c") .null "cursor").1 = rooted := by
  rw [opens creates gives, ask_rooted roots]

theorem Reached.rooted (creates : setting.engine.tables.createsIndexes = true)
    (gives : setting.engine.source none = { name := none, unit := some 0 })
    (roots : (setting.engine.unit 0).root = some 0) : Reached setting {} Session.rooted := by
  rw [← ask_rooted roots]
  exact (Reached.parsed creates gives).ask (some "u") none (some "c") .null "cursor"

end Session

/-! ## A sample session -/

namespace Session.Sample

/-- The tables of a source that has another root when it is parsed again, but the same name, and of
a source that is refused although the engine hands out a unit for it. -/
def engine : Engine where
  tables := {
    sources := [{ name := some [97], unit := some 0 },
      { name := some [98], status := 2, unit := some 0 }]
    units := #[
      { spelling := some [97], diagnostics := [some 0], reparseBecomes := some 1
        tokens := [{ spelling := some [120], location := ⟨some 0, 1, 1, 0⟩ }] },
      { spelling := some [97], root := some 1 }]
    files := #[{ name := some [97] }]
    cursors := #[
      { kind := ⟨350⟩, text := fun _ => some [120], type := fun _ => some 0
        location := ⟨some 0, 1, 1, 0⟩, extent := ⟨⟨some 0, 1, 1, 0⟩, ⟨some 0, 2, 1, 9⟩⟩ },
      { kind := ⟨350⟩, text := fun _ => some [121] }]
    -- what is read of this text ends before the NUL, and one byte of it is no UTF-8
    types := #[{ spelling := some [105, 0xff, 0, 106] }]
    diagnostics := #[{ severity := 3, location := ⟨some 0, 1, 5, 4⟩ }]
    completions := [{ file := some [97], line := 1, column := 5, diagnostics := [some 0] }] }

def setting : Setting :=
  ⟨engine, true⟩

/-- A step with one query. -/
def ask (name : String) (receiver target : Option String) (args : Json := .null) : Step :=
  .mk (.one name) receiver none target args []

def drop (slots : List String) : Step :=
  ask "drop" none none (.obj [("slots", .arr (slots.map .str))])

/-- A unit is parsed. Its root is cloned, and asked for what is then remembered. -/
def looks : List Step :=
  [ask "create_index" none (some "i"),
    ask "parse" (some "i") (some "u") (.obj [("path", .str "a")]),
    ask "spelling" (some "u") none, ask "cursor" (some "u") (some "c"),
    ask "spelling" (some "c") none, ask "type" (some "c") (some "t"),
    ask "location" (some "c") (some "l"), ask "extent" (some "c") (some "e"),
    ask "clone" (some "c") (some "d")]

/-- Nothing refers to the unit any more but its slot, and it is parsed again. -/
def renews : List Step :=
  [drop ["c", "d", "e", "l", "t"], ask "reparse" (some "u") none, ask "cursor" (some "u") (some "c")]

/-- Code completion has a diagnostic, which is somewhere in its results. -/
def completes (results diagnostics place : String) : List Step :=
  [ask "complete" (some "u") (some results)
      (.obj [("path", .str "a"), ("line", .num 1), ("column", .num 5)]),
    ask "diagnostics" (some results) (some diagnostics),
    ask "location" (some (diagnostics ++ ".0")) (some place)]

/-- The source is completed twice and parsed into another unit. -/
def mixes : List Step :=
  completes "r" "m" "p" ++ completes "q" "n" "o" ++
    [ask "parse" (some "i") (some "v") (.obj [("path", .str "a")]), ask "end" (some "e") (some "f")]

/-- The state of a session after some steps. -/
def after (steps : List Step) : State :=
  (State.steps setting {} steps).1

theorem reached (steps : List Step) : Reached setting {} (after steps) :=
  Reached.start.steps steps

end Session.Sample

end SourceAtlas
