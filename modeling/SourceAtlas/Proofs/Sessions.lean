import SourceAtlas.Proofs.Steps

/-!
# Sessions

The states that a session passes through, between any two queries and also in the middle of a step
that runs other threads. A state of a session meets itself, so that what holds of two runs holds of
one.
-/

namespace SourceAtlas

open Duo

/-- The states that a thread of a session passes through, after the state in which it began. -/
inductive Session.Reached (setting : Setting) : State → State → Prop
  | start : Reached setting {} {}
  | ask {begin state : State} (receiver other target : Option String) (args : Json)
      (name : String) (reached : Reached setting begin state) :
      Reached setting begin (state.ask setting receiver other target args name).1
  | clear {begin state : State} (name : String) (reached : Reached setting begin state) :
      Reached setting begin (state.clear name)
  | report {begin state : State} (reached : Reached setting begin state) :
      Reached setting begin state.takeEvents.1
  | enter {begin state : State} (reached : Reached setting begin state) :
      Reached setting state.enterThread state.enterThread
  | leave {begin state inner : State} (reached : Reached setting begin state)
      (ran : Reached setting state.enterThread inner) (empty : inner.slots = []) :
      Reached setting begin (state.leaveThread inner)

/-! ## What a session passes through -/

namespace Session.Reached

variable {setting : Setting} {begin state : State}

/-- What holds of an empty store, and where a thread begins if it did where the one around it began,
holds where any thread begins. -/
theorem begins {P : World → Prop} (reached : Reached setting begin state) (empty : P {})
    (enter : ∀ {begin state : State}, Reached setting begin state → P begin.world →
      P state.enterThread.world) : P begin.world := by
  induction reached with
  | start => exact empty
  | ask _ _ _ _ _ _ ih | clear _ _ ih | report _ ih | leave _ _ _ ih _ => exact ih
  | enter reached ih => exact enter reached ih

theorem clears (reached : Reached setting begin state) (names : List String) :
    Reached setting begin (names.foldl State.clear state) := by
  induction names generalizing state with
  | nil => exact reached
  | cons name names ih => exact ih (reached.clear name)

theorem finish (reached : Reached setting begin state) (reports : List Report) :
    Reached setting begin (state.finishThread reports).1 :=
  (reached.clears _).report

theorem each {f : State → String → State × Reply} {names : List String}
    (asks : ∀ {state}, Reached setting begin state → ∀ name,
      Reached setting begin (f state name).1) (reached : Reached setting begin state) :
    Reached setting begin (State.each f state names).1 := by
  induction names generalizing state with
  | nil => exact reached
  | cons name names ih => exact ih (asks reached name)

end Session.Reached

mutual

/-- A step leads from state to state, and so do the steps of the threads that it runs. -/
theorem Session.Reached.step {setting : Setting} {begin state : State}
    (reached : Session.Reached setting begin state) :
    (step : Step) → Session.Reached setting begin (state.step setting step).1
  | .mk names receiver other target args inner => by
      have asks (target : Option String) {state : State}
          (reached : Session.Reached setting begin state) (name : String) :
          Session.Reached setting begin
            (state.query setting receiver other target args inner name).1 := by
        unfold State.query
        split
        next =>
          have ran := Session.Reached.steps reached.enter inner
          exact reached.leave (ran.finish _) (State.slots_clearAll _)
        next => exact reached.ask receiver other target args name
      rw [State.step_mk]
      exact (reached.each (asks _)).report

theorem Session.Reached.steps {setting : Setting} {begin state : State}
    (reached : Session.Reached setting begin state) :
    (steps : List Step) → Session.Reached setting begin (state.steps setting steps).1
  | [] => reached
  | first :: rest => Session.Reached.steps (Session.Reached.step reached first) rest

end

theorem Session.Reached.query {setting : Setting} {begin state : State}
    (reached : Session.Reached setting begin state) (receiver other target : Option String)
    (args : Json) (inner : List Step) (name : String) :
    Session.Reached setting begin
      (state.query setting receiver other target args inner name).1 := by
  unfold State.query
  split
  · exact reached.leave ((reached.enter.steps inner).finish _) (State.slots_clearAll _)
  · exact reached.ask receiver other target args name

/-! ## One run beside itself -/

namespace Duo

/-- A run beside itself. -/
def alone (engine : Engine) (side : Side) : Duo :=
  ⟨engine, side, side, {}⟩

/-- What has passed stays in the trace. -/
theorem Meet.past_suffix {D : Duo} {s s' : State} (meet : D.Meet s s') :
    D.left.past <:+ s.world.trace := by
  obtain ⟨_, meets⟩ := meet
  obtain ⟨_, _, -, -, ⟨_, inv⟩, -⟩ := meets.holds
  exact inv.past

theorem calm_alone (engine : Engine) (side : Side) (state : State) :
    (alone engine side).Calm state state :=
  ⟨rfl, .inr ⟨rfl, rfl⟩⟩

/-- Two runs of a session begin in states that meet, whether or not either remembers answers. -/
theorem meet_start (engine : Engine) (remembers remembers' : Bool) :
    Meet ⟨engine, ⟨remembers, {}, []⟩, ⟨remembers', {}, []⟩, {}⟩ {} {} :=
  ⟨_, .nil, List.nodup_nil, _, _, .refl _, .refl _, ⟨_, Inv.start engine remembers⟩,
    ⟨_, Inv.start engine remembers'⟩⟩

end Duo

namespace Session.Reached

variable {setting : Setting} {begin state : State}

theorem meet (reached : Reached setting begin state) :
    (alone setting.engine ⟨setting.remembers, begin.world, []⟩).Meet state state := by
  induction reached with
  | start => exact meet_start _ _ _
  | ask receiver other target args name _ ih =>
      exact (ih.ask (calm_alone _ _ _) receiver other target args name).1
  | clear name _ ih => exact ih.clear name
  | report _ ih => exact ih.takeEvents
  | enter _ ih => exact ih.enterThread
  | leave _ _ empty outer inner => exact outer.leaveThread inner empty

/-- The store is in order while the slots hold what is in them. -/
theorem inv (reached : Reached setting begin state) :
    ∃ facts τ, Inv setting.engine ⟨setting.remembers, begin.world, []⟩ facts τ
      (owners state.slots.objects) state.world := by
  obtain ⟨_, meets⟩ := reached.meet
  have holds := meets.holds
  rw [Grip.add_to_none] at holds
  obtain ⟨facts, _, -, -, ⟨τ, inv⟩, -⟩ := holds
  exact ⟨facts, τ, inv⟩

/-- What is in a slot belongs to what it holds. -/
theorem coherent (reached : Reached setting begin state) :
    ∀ slot ∈ state.slots, Coherent setting.engine slot.2 := by
  obtain ⟨base, meets⟩ := reached.meet
  exact fun slot member => meets.slots.objects.left _ (List.mem_map_of_mem member)

/-- What is in a slot can be used while the slots hold what is in them. -/
theorem usable (reached : Reached setting begin state) :
    ∀ object ∈ state.slots.objects,
      Usable setting.engine (owners state.slots.objects : Held) object := by
  intro object member
  obtain ⟨slot, held, rfl⟩ := List.mem_map.1 member
  exact ⟨reached.coherent slot held, fun _ there => .of_element member there⟩

/-- A run may look back to what has passed so far. -/
theorem meet_past (reached : Reached setting begin state) :
    (alone setting.engine ⟨setting.remembers, begin.world, state.world.trace⟩).Meet state state := by
  obtain ⟨base, meets⟩ := reached.meet
  obtain ⟨facts, facts', grows, links, ⟨τ, inv⟩, τ', inv'⟩ := meets.holds
  refine ⟨base, meets.slots.imp fun _ _ same => ⟨same.1, same.2.1, same.2.2, same.2.3⟩,
    meets.distinct, facts, facts', grows, links, ⟨τ, ?_⟩, τ', ?_⟩
  · exact { inv with past := List.suffix_rfl, shows := { inv.shows with } }
  · exact { inv' with past := List.suffix_rfl, shows := { inv'.shows with } }

theorem trace_step (reached : Reached setting begin state) (step : Step) :
    state.world.trace <:+ (state.step setting step).1.world.trace :=
  (reached.meet_past.step (calm_alone _ _ _) step).1.past_suffix

end Session.Reached

end SourceAtlas
