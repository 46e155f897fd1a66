import SourceAtlas.Proofs.ReportCoverage
import SourceAtlas.Proofs.Stability

/-!
# Which entry a unit has

The engine answers about a unit from an entry of its tables. A unit gets one when it is made, and
another one when it is parsed again. Whatever else happens only adds units behind those that are
there, so the entry stays the same for as long as the engine is not asked to parse the unit again.
-/

namespace SourceAtlas

open Act

/-! ## Stores that grow -/

/-- Whether a store has the units of another one with the same entries, and maybe more units. -/
def World.Grows (w v : World) : Prop :=
  w.instances.toList <+: v.instances.toList

namespace World.Grows

variable {u v w : World}

theorem refl (w : World) : w.Grows w :=
  List.prefix_rfl

theorem trans (first : w.Grows v) (second : v.Grows u) : w.Grows u :=
  List.IsPrefix.trans first second

theorem of_eq (same : v.instances = w.instances) : w.Grows v := by
  rw [World.Grows, same]

theorem size (grows : w.Grows v) : w.instances.size ≤ v.instances.size :=
  grows.length_le

/-- A unit that was there keeps its entry. -/
theorem getElem? (grows : w.Grows v) {i : Nat} (older : i < w.instances.size) :
    v.instances[i]? = w.instances[i]? := by
  have same := List.prefix_iff_getElem?.1 grows i older
  rw [Array.getElem?_toList, Array.getElem_toList] at same
  rw [same, Array.getElem?_eq_getElem older]

theorem table (grows : w.Grows v) {unit : Resource} (older : unit.label < w.instances.size) :
    v.table unit = w.table unit := by
  rw [World.table, World.table, grows.getElem? older]

end World.Grows

/-- Whether the engine is loaded, and a unit has an entry of the tables. -/
structure World.Has (unit : Resource) (table : Nat) (w : World) : Prop where
  loaded : w.loaded = true
  entry : w.instances[unit.label]? = some table

namespace World.Has

variable {unit : Resource} {table : Nat} {v w : World}

theorem older (has : w.Has unit table) : unit.label < w.instances.size :=
  (Array.getElem?_eq_some_iff.1 has.entry).1

theorem table_eq (has : w.Has unit table) : w.table unit = table := by
  rw [World.table, has.entry]
  rfl

theorem grows (has : w.Has unit table) (grows : w.Grows v) (loaded : v.loaded = true) :
    v.Has unit table where
  loaded := loaded
  entry := (grows.getElem? has.older).trans has.entry

end World.Has

/-- A unit that is held has an entry. -/
theorem Inv.has {engine : Engine} {side : Side} {facts : Facts} {τ : Typing} {held : Held} {w : World}
    {u : SourceUnit} (inv : Inv engine side facts τ held w) (within : Within held (.unit u)) :
    w.Has u.resource (w.table u.resource) where
  loaded := inv.isLoaded within.ne_zero
  entry := by
    rw [World.table, Array.getElem?_eq_getElem (inv.books.label (inv.alive within).1).2]
    rfl

/-- A unit in a slot has an entry. -/
theorem Session.Reached.has {setting : Setting} {begin state : State}
    (reached : Session.Reached setting begin state) {u : SourceUnit}
    (member : .unit u ∈ state.slots.objects) :
    state.world.Has u.resource (state.world.table u.resource) := by
  obtain ⟨facts, τ, inv⟩ := reached.inv
  exact inv.has (reached.within member (List.mem_singleton_self _))

variable {setting : Setting}

/-- An action is guaranteed to leave the units alone that are there. -/
def Act.growing (setting : Setting) : Guarantee setting where
  Holds x := ∀ w : World, w.Grows (x.exec setting w).2
  pure _ := .refl
  bind := bind_leads (R := World.Grows) .trans
  read := .refl
  get := .refl
  ask _ _ _ w := ask_leads (R := World.Grows) .refl w (.refl w)
  takeText _ := .refl
  copyText _ _ := .refl

namespace Act

instance : (growing setting).Counting where
  retain cells w := .of_eq (by rw [exec_update, World.retainAll_eq])
  release cells w := .of_eq (World.Sheds.release w cells).instances
  alloc _ _ := .refl
  acquire _ _ := .refl
  dispose _ := .refl
  countIndex := .refl
  countList := .refl
  addUnit table w := by
    show w.instances.toList <+: (w.instances.push table).toList
    rw [Array.toList_push]
    exact List.prefix_append _ _

instance : (growing setting).Failing := ⟨fun _ => .refl⟩

instance : (growing setting).Panicking := ⟨fun _ => .refl⟩

instance : (growing setting).Attempting := ⟨fun holds => holds⟩

instance : (growing setting).Loading := ⟨.refl⟩

instance : (growing setting).Asking where
  ask _ _ _ w := ask_leads (R := World.Grows) .refl w (.refl w)

instance : (growing setting).Requesting where
  request _ w := request_leads (R := World.Grows) .refl w (.refl w)

instance : (growing setting).Remembering where
  ask question _ operands memo := Guarantee.Asking.ask question operands memo
  remember cell slot answer w := by
    show w.Grows (w.remember cell slot answer)
    unfold World.remember
    split
    next count resource memo found =>
      exact .of_eq (World.Sheds.release (w.put cell _) _).instances
    next => exact .refl w
  respell cell spelling w := .of_eq (by
    rw [exec_update, World.setUnitSpelling]
    split <;> rfl)

instance : (growing setting).Lending where
  lend value _ holds w := by
    rw [exec_using]
    exact (holds w).trans (.of_eq (World.Sheds.release _ _).instances)

instance : (growing setting).Reporting where

/-- Units are there after an action as they were before it. -/
theorem grows_exec {x : Act α} [covered : (growing setting).Covers x] {w v : World}
    {outcome : Except Fault α} (ran : x.exec setting w = (outcome, v)) : w.Grows v := by
  have grows := covered.holds w
  rwa [ran] at grows

end Act

/-! ## Units that are parsed again -/

/-- The number of the unit that an event asks the engine to parse again, if it does. -/
def Event.reparsed? : Event → Option Nat
  | .requested (.reparse unit _ _) => some unit.label
  | _ => none

/-- What is heard between two stores is heard up to any store between them, and then from there. -/
theorem World.Utters.split {β : Type} {hears : Event → Option β} {heard : List β} {u v w : World}
    (utters : w.Utters hears heard u) (first : w.trace <:+ v.trace) (second : v.trace <:+ u.trace) :
    ∃ earlier later, w.Utters hears earlier v ∧ v.Utters hears later u ∧ heard = earlier ++ later := by
  obtain ⟨events, trace, rfl⟩ := utters
  obtain ⟨older, first⟩ := first
  obtain ⟨newer, second⟩ := second
  obtain rfl : events = newer ++ older := by
    rw [← second, ← first, ← List.append_assoc] at trace
    exact (List.append_cancel_right trace).symm
  exact ⟨_, _, ⟨older, first.symm, rfl⟩, ⟨newer, second.symm, rfl⟩,
    by rw [List.filterMap_append, List.reverse_append]⟩

/-- What is heard between two stores is one thing. -/
theorem World.Utters.eq {β : Type} {hears : Event → Option β} {heard heard' : List β} {v w : World}
    (utters : w.Utters hears heard v) (utters' : w.Utters hears heard' v) : heard = heard' := by
  obtain ⟨events, trace, rfl⟩ := utters
  obtain ⟨events', trace', rfl⟩ := utters'
  rw [List.append_cancel_right (trace.symm.trans trace')]

/-- The engine is asked to parse a unit again before the unit gets another entry. -/
theorem SourceUnit.reparse_cases (u : SourceUnit) (unsaved : List UnsavedFile)
    (options : Option UInt32) {w : World} (loaded : w.loaded = true) :
    ((u.reparse unsaved options).exec setting w).2 = w ∨
      ∃ v table, v.instances = w.instances ∧ w.Utters Event.reparsed? [u.resource.label] v ∧
        ((u.reparse unsaved options).exec setting w).2 = v.retable u.resource table := by
  rw [exec_reparse]
  split
  next => exact .inl rfl
  rw [u.exec_askReparse unsaved options setting loaded]
  cases firstNul? (unsaved.map (·.path)) with
  | some _ => exact .inl rfl
  | none =>
      right
      let entry := setting.engine.unit (w.table u.resource)
      let asked := options.elim (w.note (.asked .reparseOptions [u.resource] none)) fun _ => w
      have quiet : asked.instances = w.instances ∧ w.Utters Event.reparsed? [] asked := by
        cases options with
        | none => exact ⟨rfl, .talk [_] rfl (List.forall_mem_singleton.2 rfl)⟩
        | some _ => exact ⟨rfl, .refl w⟩
      let request := Request.reparse u.resource unsaved (options.getD entry.reparseOptions)
      have heard : (Event.requested request).reparsed? = some u.resource.label := rfl
      refine ⟨asked.note (.requested request), if entry.reparseStatus = 0 then entry.reparseBecomes
        else none, quiet.1, quiet.2.trans (.note heard asked), ?_⟩
      dsimp only
      by_cases sound : entry.reparseStatus = 0
      · rw [if_pos sound, if_pos sound]
      · rw [if_neg sound, if_neg sound]
        rfl

/-- A unit keeps its entry unless the engine is asked to parse it again. -/
theorem SourceUnit.table_spared (u : SourceUnit) (unsaved : List UnsavedFile)
    (options : Option UInt32) {w : World} (loaded : w.loaded = true)
    (bound : u.resource.label < w.instances.size) {heard : List Nat} {r : Resource}
    (utters : w.Utters Event.reparsed? heard ((u.reparse unsaved options).exec setting w).2)
    (spared : r.label ∉ heard) :
    ((u.reparse unsaved options).exec setting w).2.instances.size = w.instances.size ∧
      ((u.reparse unsaved options).exec setting w).2.table r = w.table r := by
  rcases @reparse_cases setting u unsaved options w loaded with
    same | ⟨v, table, kept, asked, same⟩
  · rw [same]
    exact ⟨rfl, rfl⟩
  have renewed : v.Utters Event.reparsed? [] (v.retable u.resource table) := .still (by
    cases table <;> rfl)
  have other : r.label ≠ u.resource.label := by
    intro alike
    rw [same] at utters
    rw [utters.eq (asked.hush renewed), alike] at spared
    exact spared (List.mem_singleton_self _)
  rw [same]
  refine ⟨(World.size_instances_retable v u.resource table).trans (congrArg _ kept), ?_⟩
  rw [World.table_retable (kept ▸ bound), if_neg other, World.table, World.table, kept]

/-! ## What is asked -/

namespace State

variable {state : State} {slot name : String} {receiver other target : Option String} {args : Json}
variable {act : Act Turn}

theorem grows_finish {w : World} (grows : w.Grows state.world) (setting : Setting)
    (target : Option String) (outcome : Except Fault Answer) :
    w.Grows (finish setting target state outcome).1.world := by
  cases outcome with
  | ok answer => exact grows.trans (.of_eq (state.sheds_settle target answer).instances)
  | error fault => exact grows

theorem grows_turn [(growing setting).Covers act] (slot : String) (target : Option String) :
    state.world.Grows (state.turn setting slot target act).1.world := by
  rcases ran : act.exec setting state.world with ⟨fault | t, v⟩
  · rw [turn_error ran]
    exact grows_exec ran
  · rw [turn_ok ran]
    exact grows_finish (grows_exec ran) setting target t.outcome

/-- Whatever is asked leaves the units alone that are there, unless a unit is to be parsed again. -/
theorem grows_ask (still : ∀ slot u, receiver = some slot → other = none →
      state.slots.get? slot = some (.unit u) → name ≠ "reparse") :
    state.world.Grows (state.ask setting receiver other target args name).1.world := by
  cases receiver with
  | none =>
      rcases ask_none_cases setting state other target args name with
        ⟨act, found, asked⟩ | ⟨-, names, asked⟩ | ⟨-, asked⟩
      · have covered : (growing setting).Covers act := covers_sessionQuery? found
        rw [asked]
        rcases ran : act.exec setting state.world with ⟨outcome, v⟩
        rw [run_eq ran]
        exact grows_finish (grows_exec ran) setting target outcome
      · rw [asked]
        exact .of_eq (state.sheds_clears names).instances
      · rw [asked]
        exact .refl _
  | some slot =>
      show state.world.Grows (state.askSlot setting name slot other target args).1.world
      rcases askSlot_cases setting state name slot other target args with
        ⟨slot', act, poses, asked⟩ | ⟨reply, asked, -⟩
      · have covered : (growing setting).Covers act :=
          poses.covers (fun _ _ same => same ▸ inferInstance) fun u _ _ found alone named =>
            absurd (UnitQuery.name_of_reparse named) (still slot u rfl alone found)
        rw [asked]
        exact grows_turn slot' target
      · rw [asked]
        exact .refl _

end State

/-! ## Sessions that go on -/

namespace Session

variable {begin first state : State}

/-- The states that a thread of a session passes through from some state on. -/
inductive Onward (setting : Setting) (first : State) : State → Prop
  | here : Onward setting first first
  | ask {state : State} (receiver other target : Option String) (args : Json) (name : String)
      (onward : Onward setting first state) :
      Onward setting first (state.ask setting receiver other target args name).1
  | clear {state : State} (name : String) (onward : Onward setting first state) :
      Onward setting first (state.clear name)
  | report {state : State} (onward : Onward setting first state) :
      Onward setting first state.takeEvents.1
  | thread {state inner : State} (onward : Onward setting first state)
      (ran : Reached setting state.enterThread inner) (empty : inner.slots = []) :
      Onward setting first (state.leaveThread inner)

theorem Onward.reached (onward : Onward setting first state) (reached : Reached setting begin first) :
    Reached setting begin state := by
  induction onward with
  | here => exact reached
  | ask receiver other target args name _ ih => exact ih.ask receiver other target args name
  | clear name _ ih => exact ih.clear name
  | report _ ih => exact ih.report
  | thread _ ran empty ih => exact ih.leave ran empty

namespace Reached

theorem suffix_ask (reached : Reached setting begin state) (receiver other target : Option String)
    (args : Json) (name : String) :
    state.world.trace <:+ (state.ask setting receiver other target args name).1.world.trace :=
  (reached.meet_past.ask (Duo.calm_alone _ _ _) receiver other target args name).1.past_suffix

/-- Nothing is forgotten of what has passed since a thread began. -/
theorem suffix_begin (reached : Reached setting begin state) :
    begin.world.trace <:+ state.world.trace := by
  induction reached with
  | start | enter => exact List.suffix_rfl
  | ask receiver other target args name reached ih =>
      exact ih.trans (reached.suffix_ask receiver other target args name)
  | clear name reached ih => exact ih.trans (reached.meet_past.clear name).past_suffix
  | report _ ih => exact ih
  | leave _ _ _ outer inner => exact outer.trans inner

/-- A unit keeps its entry, whatever is asked, unless the engine is asked to parse it again. -/
theorem table_spared (reached : Reached setting begin state) {receiver other target : Option String}
    {args : Json} {name : String} {heard : List Nat} {r : Resource}
    (older : r.label < state.world.instances.size)
    (utters : state.world.Utters Event.reparsed? heard
      (state.ask setting receiver other target args name).1.world) (spared : r.label ∉ heard) :
    state.world.instances.size ≤
        (state.ask setting receiver other target args name).1.world.instances.size ∧
      (state.ask setting receiver other target args name).1.world.table r = state.world.table r := by
  by_cases still : ∀ slot u, receiver = some slot → other = none →
      state.slots.get? slot = some (.unit u) → name ≠ "reparse"
  · have grows : state.world.Grows (state.ask setting receiver other target args name).1.world :=
      State.grows_ask still
    exact ⟨grows.size, grows.table older⟩
  push Not at still
  obtain ⟨slot, u, rfl, rfl, found, rfl⟩ := still
  obtain ⟨unsaved, options, asks⟩ : ∃ unsaved options,
      UnitQuery.ofName? "reparse" args = some (.reparse unsaved options) := ⟨_, _, rfl⟩
  have has := reached.has (List.mem_map_of_mem (Slots.mem_of_get? found))
  have asked : state.ask setting (some slot) none target args "reparse" =
      state.turn setting slot target ((Object.unit u).steady (u.answer (.reparse unsaved options))) :=
    State.askSlot_reparse found asks setting target
  have world : (state.ask setting (some slot) none target args "reparse").1.world =
      ((u.reparse unsaved options).exec setting state.world).2 := by
    rw [asked]
    rcases ran : (u.reparse unsaved options).exec setting state.world with ⟨fault | ⟨⟩, v⟩
    · rw [State.turn_reparse_error ran]
    · rw [State.turn_reparse_ok ran, Answer.null, State.finish_plain]
  rw [world] at utters ⊢
  have kept := u.table_spared unsaved options has.loaded has.older utters spared
  exact ⟨kept.1.ge, kept.2⟩

end Reached

theorem Onward.suffix (onward : Onward setting first state) (reached : Reached setting begin first) :
    first.world.trace <:+ state.world.trace := by
  induction onward with
  | here => exact List.suffix_rfl
  | ask receiver other target args name onward ih =>
      exact ih.trans ((onward.reached reached).suffix_ask receiver other target args name)
  | clear name onward ih =>
      exact ih.trans ((onward.reached reached).meet_past.clear name).past_suffix
  | report _ ih => exact ih
  | thread _ ran _ ih => exact ih.trans ran.suffix_begin

/-- As long as the engine is not asked to parse a unit again, the unit keeps its entry. -/
theorem Onward.table_eq (onward : Onward setting first state) (reached : Reached setting begin first)
    {heard : List Nat} {r : Resource} (older : r.label < first.world.instances.size)
    (utters : first.world.Utters Event.reparsed? heard state.world) (spared : r.label ∉ heard) :
    first.world.instances.size ≤ state.world.instances.size ∧
      state.world.table r = first.world.table r := by
  induction onward generalizing heard with
  | here => exact ⟨le_refl _, rfl⟩
  | @ask state receiver other target args name onward ih =>
      have here := onward.reached reached
      obtain ⟨earlier, later, before, after, rfl⟩ :=
        utters.split (onward.suffix reached) (here.suffix_ask receiver other target args name)
      obtain ⟨known, unknown⟩ := not_or.1 (mt List.mem_append.2 spared)
      obtain ⟨size, same⟩ := ih before known
      obtain ⟨size', same'⟩ := here.table_spared (older.trans_le size) after unknown
      exact ⟨size.trans size', same'.trans same⟩
  | @clear state name onward ih =>
      have sheds := state.sheds_clear name
      have suffix := ((onward.reached reached).meet_past.clear name).past_suffix
      obtain ⟨earlier, later, before, -, rfl⟩ := utters.split (onward.suffix reached) suffix
      obtain ⟨size, same⟩ := ih before (not_or.1 (mt List.mem_append.2 spared)).1
      rw [World.table, sheds.instances]
      exact ⟨size, same⟩
  | report onward ih => exact ih utters spared
  | @thread state inner onward ran _ ih =>
      obtain ⟨earlier, later, before, -, rfl⟩ := utters.split (onward.suffix reached) ran.suffix_begin
      obtain ⟨size, same⟩ := ih before (not_or.1 (mt List.mem_append.2 spared)).1
      -- a thread has none of the units that were there when it began
      obtain ⟨_, _, inv⟩ := ran.inv
      obtain ⟨more, kept⟩ := inv.books.tables
      exact ⟨size.trans more, (congrArg (·.getD 0) (kept (older.trans_le size))).trans same⟩

end Session

end SourceAtlas
