import SourceAtlas.Proofs.Threads

/-!
# Steps in lockstep

Two runs that take the same steps from states that meet end in states that meet, and nothing but
what passed to the engine tells them apart. At the end of a thread all slots are empty, so that
nothing is held any more.
-/

namespace SourceAtlas

open Duo

namespace State

/-- Emptying slots leaves the other slots as they are. -/
theorem mem_slots_clears {names : List String} {state : State} {slot : String × Object}
    (member : slot ∈ (names.foldl clear state).slots) :
    slot ∈ state.slots ∧ slot.1 ∉ names := by
  induction names generalizing state with
  | nil => exact ⟨member, List.not_mem_nil⟩
  | cons name names ih =>
      obtain ⟨there, absent⟩ := ih member
      rw [clear_eq] at there
      obtain ⟨there, different⟩ := List.mem_filter.1 there
      exact ⟨there, List.not_mem_cons_of_ne_of_not_mem (bne_iff_ne.1 different) absent⟩

theorem slots_clearAll (state : State) : state.clearAll.slots = [] := by
  refine List.eq_nil_iff_forall_not_mem.2 fun slot member => ?_
  obtain ⟨there, absent⟩ := mem_slots_clears member
  exact absent ((List.mergeSort_perm _ _).mem_iff.2 (List.mem_map_of_mem there))

/-- Asks the session, or an object of it, or runs the steps of another thread. -/
def query (setting : Setting) (receiver other target : Option String) (args : Json)
    (inner : List Step) (state : State) (name : String) : State × Reply :=
  if receiver.isNone && name == "thread" then
    let (after, reports) := steps setting state.enterThread inner
    let (after, transcript) := after.finishThread reports
    (leaveThread state after, .thread transcript)
  else ask setting receiver other target args state name

/-- A step asks for all of its names, one after the other. -/
theorem step_mk (setting : Setting) (state : State) (names : QueryNames)
    (receiver other target : Option String) (args : Json) (inner : List Step) :
    step setting state (.mk names receiver other target args inner) =
      let target := match names with
        | .one _ => target
        | .many _ => none
      let (state, replies) := each (query setting receiver other target args inner) state
        names.toList
      let (state, events) := state.takeEvents
      (state, .mk names replies events) := by
  unfold step
  rfl

end State

namespace Duo

variable {D : Duo} {s s' : State}

/-- Runs that go on alike stay calm. -/
theorem Calm.map (calm : D.Calm s s') (f : Setting → State → State) :
    D.Calm (f (D.left.setting D.engine) s) (f (D.right.setting D.engine) s') := by
  refine ⟨calm.1, calm.2.imp id ?_⟩
  rintro ⟨sides, rfl⟩
  exact ⟨sides, by rw [sides]⟩

theorem Calm.enterThread (calm : D.Calm s s') :
    (D.thread s.world s'.world).Calm s.enterThread s'.enterThread := by
  refine ⟨calm.1, calm.2.imp id ?_⟩
  rintro ⟨sides, rfl⟩
  exact ⟨by rw [thread, sides], rfl⟩

namespace Meet

theorem clear (meet : D.Meet s s') (name : String) : D.Meet (s.clear name) (s'.clear name) := by
  obtain ⟨base, meets⟩ := meet
  exact ⟨base, meets.clear name⟩

theorem takeEvents (meet : D.Meet s s') : D.Meet s.takeEvents.1 s'.takeEvents.1 := by
  obtain ⟨base, meets⟩ := meet
  exact ⟨base, meets.slots, meets.distinct, meets.holds⟩

theorem clearAll (meet : D.Meet s s') : D.Meet s.clearAll s'.clearAll := by
  obtain ⟨base, meets⟩ := meet
  unfold State.clearAll
  rw [← meets.slots.names]
  exact ⟨base, meets.clears _⟩

/-- Threads that end have the same resources and texts left, which are none. -/
theorem finishThread (meet : D.Meet s s') {reports reports' : List Report}
    (same : Report.observedAll reports = Report.observedAll reports') :
    D.Meet (s.finishThread reports).1 (s'.finishThread reports').1 ∧
      (s.finishThread reports).1.slots = [] ∧
      (s.finishThread reports).2.observed = (s'.finishThread reports').2.observed := by
  refine ⟨meet.clearAll.takeEvents, s.slots_clearAll, ?_⟩
  obtain ⟨base, ended⟩ := meet.clearAll
  have twin := ended.slots.objects.twin
  have holds := ended.holds
  have live := holds.live_eq twin.left twin.right twin.lends
  obtain ⟨_, _, -, -, ⟨_, inv⟩, _, inv'⟩ := holds
  show Transcript.observed (.mk reports _ s.clearAll.world.live
      (outstandingTexts s.clearAll.world.trace)) =
    Transcript.observed (.mk reports' _ s'.clearAll.world.live
      (outstandingTexts s'.clearAll.world.trace))
  rw [Transcript.observed, Transcript.observed, same, live, inv.texts.none_out,
    inv'.texts.none_out]

/-- Two runs that ask for the same names one after the other get the same replies. -/
theorem each {f : Setting → State → String → State × Reply} (names : List String)
    (asks : ∀ {s s'}, D.Meet s s' → D.Calm s s' → ∀ name,
      D.Meet (f (D.left.setting D.engine) s name).1 (f (D.right.setting D.engine) s' name).1 ∧
        (f (D.left.setting D.engine) s name).2.observed name =
          (f (D.right.setting D.engine) s' name).2.observed name)
    (meet : D.Meet s s') (calm : D.Calm s s') :
    D.Meet (State.each (f (D.left.setting D.engine)) s names).1
        (State.each (f (D.right.setting D.engine)) s' names).1 ∧
      Reply.observedAll names (State.each (f (D.left.setting D.engine)) s names).2 =
        Reply.observedAll names (State.each (f (D.right.setting D.engine)) s' names).2 := by
  induction names generalizing s s' with
  | nil => exact ⟨meet, rfl⟩
  | cons name names ih =>
      obtain ⟨first, reply⟩ := asks meet calm name
      obtain ⟨rest, replies⟩ := ih first (calm.map fun setting s => (f setting s name).1)
      exact ⟨rest, congrArg₂ List.cons reply replies⟩

end Meet

end Duo

mutual

/-- Two runs that take the same step from states that meet end in states that meet, and the same can
be observed of it. -/
theorem Duo.Meet.step {D : Duo} {s s' : State} (meet : D.Meet s s') (calm : D.Calm s s') :
    (step : Step) →
    D.Meet (s.step (D.left.setting D.engine) step).1
        (s'.step (D.right.setting D.engine) step).1 ∧
      (s.step (D.left.setting D.engine) step).2.observed =
        (s'.step (D.right.setting D.engine) step).2.observed
  | .mk names receiver other target args inner => by
      have asks (target : Option String) {s s' : State} (meet : D.Meet s s')
          (calm : D.Calm s s') (name : String) :
          D.Meet
              (s.query (D.left.setting D.engine) receiver other target args inner name).1
              (s'.query (D.right.setting D.engine) receiver other target args inner name).1 ∧
            (s.query (D.left.setting D.engine) receiver other target args inner name).2.observed
                name =
              (s'.query (D.right.setting D.engine) receiver other target args inner name).2.observed
                name := by
        unfold State.query
        split
        next =>
          -- a thread is run, by steps that are part of this one
          obtain ⟨ran, reports⟩ := Duo.Meet.steps meet.enterThread calm.enterThread inner
          obtain ⟨ended, empty, transcript⟩ := ran.finishThread reports
          exact ⟨meet.leaveThread ended empty, congrArg Reply.thread transcript⟩
        next => exact meet.ask calm receiver other target args name
      rw [State.step_mk, State.step_mk]
      generalize (match names with
        | .one _ => target
        | .many _ => none) = target
      obtain ⟨ran, replies⟩ := Duo.Meet.each names.toList
        (f := fun setting => State.query setting receiver other target args inner) (asks target)
        meet calm
      refine ⟨ran.takeEvents, ?_⟩
      exact congrArg (Report.mk names · []) replies

theorem Duo.Meet.steps {D : Duo} {s s' : State} (meet : D.Meet s s') (calm : D.Calm s s') :
    (steps : List Step) →
    D.Meet (s.steps (D.left.setting D.engine) steps).1
        (s'.steps (D.right.setting D.engine) steps).1 ∧
      Report.observedAll (s.steps (D.left.setting D.engine) steps).2 =
        Report.observedAll (s'.steps (D.right.setting D.engine) steps).2
  | [] => ⟨meet, rfl⟩
  | first :: rest => by
      obtain ⟨ran, report⟩ := Duo.Meet.step meet calm first
      obtain ⟨ran, reports⟩ := Duo.Meet.steps ran
        (calm.map fun setting s => (s.step setting first).1) rest
      exact ⟨ran, congrArg₂ List.cons report reports⟩

end

end SourceAtlas
