import SourceAtlas.Proofs.Ageless
import SourceAtlas.Proofs.Bridge
import SourceAtlas.Proofs.Standing

/-!
# Sessions with older engines

A session with an engine that cannot be asked everything goes as it does with the engine beside it
that can: step by step the user gets the same replies, and all that tells the two apart is that the
older engine was never asked what it cannot be asked.
-/

namespace SourceAtlas

open Act

/-! ## What is forgotten of a session -/

mutual

/-- A reply, if some properties had never been asked about. -/
def Reply.forget (flags : List CursorFlag) : Reply → Reply
  | .thread transcript => .thread (transcript.forget flags)
  | reply => reply

def Reply.forgetAll (flags : List CursorFlag) : List Reply → List Reply
  | [] => []
  | reply :: replies => reply.forget flags :: Reply.forgetAll flags replies

/-- What a step gives back, if some properties had never been asked about. -/
def Report.forget (flags : List CursorFlag) : Report → Report
  | .mk names replies events =>
    .mk names (Reply.forgetAll flags replies) (events.filter (·.spares flags))

def Report.forgetAll (flags : List CursorFlag) : List Report → List Report
  | [] => []
  | report :: reports => report.forget flags :: Report.forgetAll flags reports

/-- What a thread gives back, if some properties had never been asked about. -/
def Transcript.forget (flags : List CursorFlag) : Transcript → Transcript
  | .mk reports events live texts =>
    .mk (Report.forgetAll flags reports) (events.filter (·.spares flags)) live texts

end

namespace State

/-- A state whose store is as if some properties had never been asked about, and in which some
number of events have been reported. -/
def recast (flags : List CursorFlag) (reported : Nat) (state : State) : State where
  world := state.world.forget flags
  slots := state.slots
  reported := reported

/-- How many events would have been reported if some properties had never been asked about. -/
def spared (flags : List CursorFlag) (state : State) : Nat :=
  ((state.world.trace.drop (state.world.trace.length - state.reported)).filter
    (·.spares flags)).length

/-- The state as it would be if some properties had never been asked about. -/
def forget (flags : List CursorFlag) (state : State) : State :=
  state.recast flags (state.spared flags)

variable {flags : List CursorFlag} {n : Nat} {state : State}

/-! ## Slots -/

theorem recast_store (name : String) (object : Object) :
    (state.recast flags n).store name object = (state.store name object).recast flags n := by
  simp only [store, update, recast, World.forget_release]

theorem recast_storeAll (name : String) (objects : List Object) :
    (state.recast flags n).storeAll name objects =
      (state.storeAll name objects).recast flags n := by
  unfold storeAll
  induction objects.zipIdx generalizing state with
  | nil => rfl
  | cons first rest ih =>
      obtain ⟨object, i⟩ := first
      rw [List.foldl_cons, List.foldl_cons]
      dsimp only
      rw [recast_store, ih]

theorem recast_clear (name : String) :
    (state.recast flags n).clear name = (state.clear name).recast flags n := by
  simp only [clear_eq, update, recast, World.forget_release]

theorem recast_clears (names : List String) :
    names.foldl clear (state.recast flags n) = (names.foldl clear state).recast flags n := by
  induction names generalizing state with
  | nil => rfl
  | cons name names ih => rw [List.foldl_cons, List.foldl_cons, recast_clear, ih]

theorem recast_settle (target : Option String) (answer : Answer) :
    (state.recast flags n).settle target answer = (state.settle target answer).recast flags n := by
  unfold settle
  split
  · exact recast_store _ _
  · exact recast_storeAll _ _
  · simp only [update, recast, World.forget_release]

/-! ## Queries -/

section Queries

variable {engine : Engine} {remembers : Bool}

theorem recast_present (answer : Answer) :
    (state.recast flags n).present ⟨engine, remembers⟩ answer =
      state.present ⟨engine.completed, remembers⟩ answer := by
  have same (object : Object) : engine.describe (state.world.forget flags) object =
      engine.completed.describe state.world object := by
    rw [engine.describe_completed]
    cases object <;> rfl
  cases answer with
  | plain value => rfl
  | object object => exact same object
  | objects objects => exact congrArg Json.arr (List.map_congr_left fun object _ => same object)

theorem recast_finish (target : Option String) (outcome : Except Fault Answer) :
    (state.recast flags n).finish ⟨engine, remembers⟩ target outcome =
      ((state.finish ⟨engine.completed, remembers⟩ target outcome).1.recast flags n,
        (state.finish ⟨engine.completed, remembers⟩ target outcome).2) := by
  cases outcome with
  | ok answer => exact Prod.ext (recast_settle ..) (congrArg Reply.shown (recast_present _))
  | error fault => rfl

theorem recast_run {α : Type} {act : Act α} (agrees : AgreesAt engine remembers state.world act) :
    (state.recast engine.absent n).run ⟨engine, remembers⟩ act =
      ((state.run ⟨engine.completed, remembers⟩ act).1.recast engine.absent n,
        (state.run ⟨engine.completed, remembers⟩ act).2) :=
  run_eq agrees

theorem recast_turn {slot : String} {target : Option String} {act : Act Turn}
    (agrees : AgreesAt engine remembers state.world act) :
    (state.recast engine.absent n).turn ⟨engine, remembers⟩ slot target act =
      ((state.turn ⟨engine.completed, remembers⟩ slot target act).1.recast engine.absent n,
        (state.turn ⟨engine.completed, remembers⟩ slot target act).2) := by
  rcases ran : act.exec ⟨engine.completed, remembers⟩ state.world with ⟨fault | turn, v⟩
  · have older : act.exec ⟨engine, remembers⟩ (state.recast engine.absent n).world =
        (.error fault, v.forget engine.absent) := agrees.trans (by rw [ran])
    rw [turn_error ran, turn_error older]
    rfl
  · have older : act.exec ⟨engine, remembers⟩ (state.recast engine.absent n).world =
        (.ok turn, v.forget engine.absent) := agrees.trans (by rw [ran])
    have shown := @recast_finish engine.absent n
      { state with world := v, slots := state.slots.set slot turn.receiver } engine remembers target
      turn.outcome
    rw [turn_ok ran, turn_ok older]
    exact shown

/-- A query goes the same way with an older engine and a newer one, which is loaded if there is
anything in a slot. -/
theorem recast_ask (loaded : ∀ slot object, state.slots.get? slot = some object →
      state.world.loaded = true) (receiver other target : Option String) (args : Json)
    (name : String) :
    (state.recast engine.absent n).ask ⟨engine, remembers⟩ receiver other target args name =
      ((state.ask ⟨engine.completed, remembers⟩ receiver other target args name).1.recast
          engine.absent n,
        (state.ask ⟨engine.completed, remembers⟩ receiver other target args name).2) := by
  have slots : (state.recast engine.absent n).slots = state.slots := rfl
  cases receiver with
  | none =>
      unfold ask
      dsimp only
      split
      next => rw [recast_clears]
      next =>
        split
        next => rfl
        next act found =>
          have := ageless_sessionQuery? found
          rw [recast_run (Ageless.agrees ..)]
          exact recast_finish ..
  | some slot =>
      unfold ask askSlot
      dsimp only
      rw [slots]
      split
      next => rfl
      next object found =>
        have here := loaded slot object found
        split
        next second =>
          split
          next => rfl
          next companion _ =>
            split
            next act turns =>
              obtain ⟨query, -, turns⟩ := Option.bind_eq_some_iff.1 turns
              have := Object.ageless_pairTurn? turns
              exact recast_turn (Ageless.agrees ..)
            next => rfl
        next =>
          split
          next =>
            split
            next => exact recast_turn (Ageless.agrees ..)
            next => rfl
          next =>
            split
            next act turns => exact recast_turn (Object.agreesAt_turn? turns here remembers)
            next => rfl

end Queries

/-! ## What has been reported -/

theorem reported_settle (target : Option String) (answer : Answer) :
    (state.settle target answer).reported = state.reported := by
  unfold settle
  split
  · rfl
  next name objects =>
    unfold storeAll
    induction objects.zipIdx generalizing state with
    | nil => rfl
    | cons first rest ih => exact ih
  · rfl

theorem reported_clears (names : List String) :
    (names.foldl clear state).reported = state.reported := by
  induction names generalizing state with
  | nil => rfl
  | cons name names ih =>
      rw [List.foldl_cons, ih, clear_eq]
      rfl

/-- No events are reported while a query is answered, and no thread is run. -/
theorem calm_finish (setting : Setting) (target : Option String) (outcome : Except Fault Answer) :
    (state.finish setting target outcome).1.reported = state.reported ∧
      ∀ flags, (state.finish setting target outcome).2.forget flags =
        (state.finish setting target outcome).2 := by
  cases outcome with
  | ok answer => exact ⟨reported_settle target answer, fun _ => rfl⟩
  | error fault => exact ⟨rfl, fun _ => rfl⟩

theorem calm_turn (setting : Setting) (slot : String) (target : Option String) (act : Act Turn) :
    (state.turn setting slot target act).1.reported = state.reported ∧
      ∀ flags, (state.turn setting slot target act).2.forget flags =
        (state.turn setting slot target act).2 := by
  rcases ran : act.exec setting state.world with ⟨fault | turn, v⟩
  · rw [turn_error ran]
    exact ⟨rfl, fun _ => rfl⟩
  · rw [turn_ok ran]
    exact calm_finish setting target turn.outcome

theorem calm_ask (setting : Setting) (receiver other target : Option String) (args : Json)
    (name : String) :
    (state.ask setting receiver other target args name).1.reported = state.reported ∧
      ∀ flags, (state.ask setting receiver other target args name).2.forget flags =
        (state.ask setting receiver other target args name).2 := by
  cases receiver with
  | none =>
      rcases ask_none_cases setting state other target args name with
        ⟨act, -, asked⟩ | ⟨-, names, asked⟩ | ⟨-, asked⟩ <;> rw [asked]
      · exact calm_finish setting target _
      · exact ⟨reported_clears names, fun _ => rfl⟩
      · exact ⟨rfl, fun _ => rfl⟩
  | some slot =>
      unfold ask askSlot
      dsimp only
      repeat' split
      all_goals first
        | exact calm_turn setting _ target _
        | exact ⟨rfl, fun _ => rfl⟩

/-- What has been reported stays so, whatever passes after it. -/
theorem spared_eq {after : State} (suffix : state.world.trace <:+ after.world.trace)
    (reported : after.reported = state.reported)
    (bound : state.reported ≤ state.world.trace.length) :
    after.spared flags = state.spared flags := by
  obtain ⟨events, trace⟩ := suffix
  unfold spared
  rw [← trace, reported, List.length_append, Nat.add_sub_assoc bound, List.drop_length_add_append]

/-- The events that would have been reported are those of the ones that are. -/
theorem takeEvents_forget (state : State) (flags : List CursorFlag) :
    (state.forget flags).takeEvents =
      (state.takeEvents.1.forget flags, state.takeEvents.2.filter (·.spares flags)) := by
  have reported : state.takeEvents.1.spared flags = (state.world.forget flags).trace.length := by
    simp only [spared, takeEvents, Nat.sub_self, List.drop_zero]
    rfl
  refine Prod.ext ?_ ?_
  · rw [forget, forget, reported]
    rfl
  · simp only [takeEvents, List.filter_reverse]
    refine congrArg List.reverse ?_
    show (state.world.trace.filter _).take ((state.world.trace.filter _).length -
      ((state.world.trace.drop _).filter _).length) = _
    generalize state.world.trace.length - state.reported = fresh
    have parts := congrArg (List.filter (·.spares flags)) (state.world.trace.take_append_drop fresh)
    rw [List.filter_append] at parts
    rw [← parts, List.length_append, Nat.add_sub_cancel, List.take_left]

theorem suffix_clears (names : List String) :
    state.world.trace <:+ (names.foldl clear state).world.trace := by
  obtain ⟨events, trace, -⟩ := (state.sheds_clears names).trace
  exact ⟨events, trace.symm⟩

theorem forget_clears (state : State) (names : List String)
    (bound : state.reported ≤ state.world.trace.length) :
    names.foldl clear (state.forget flags) = (names.foldl clear state).forget flags := by
  rw [forget, recast_clears, forget,
    spared_eq (suffix_clears names) (reported_clears names) bound]

theorem forget_clearAll (bound : state.reported ≤ state.world.trace.length) :
    (state.forget flags).clearAll = state.clearAll.forget flags :=
  forget_clears _ _ bound

theorem forget_finishThread (reports : List Report)
    (bound : state.reported ≤ state.world.trace.length) :
    (state.forget flags).finishThread (Report.forgetAll flags reports) =
      ((state.finishThread reports).1.forget flags,
        (state.finishThread reports).2.forget flags) := by
  unfold finishThread
  rw [forget_clearAll bound]
  dsimp only
  rw [takeEvents_forget]
  exact Prod.ext rfl (congrArg (Transcript.mk _ _ _) (outstandingTexts_forget ..))

end State

/-! ## Whole sessions -/

namespace Session.Reached

open State

variable {setting : Setting} {begin state : State}

theorem reported_le (reached : Reached setting begin state) :
    state.reported ≤ state.world.trace.length := by
  induction reached with
  | start => exact Nat.le_refl _
  | @ask begin state receiver other target args name reached ih =>
      rw [(calm_ask setting receiver other target args name).1]
      exact ih.trans (reached.suffix_ask receiver other target args name).length_le
  | clear name _ ih =>
      rw [show (State.clear _ name).reported = _ from reported_clears [name]]
      exact ih.trans (suffix_clears [name]).length_le
  | report | enter => first | exact Nat.le_refl _ | assumption
  | leave _ _ _ _ inner => exact inner

end Session.Reached

variable {engine : Engine} {remembers : Bool} {begin state : State}

theorem Session.Reached.forget_ask
    (reached : Session.Reached ⟨engine.completed, remembers⟩ begin state)
    (receiver other target : Option String) (args : Json) (name : String) :
    (state.forget engine.absent).ask ⟨engine, remembers⟩ receiver other target args name =
      ((state.ask ⟨engine.completed, remembers⟩ receiver other target args name).1.forget
          engine.absent,
        (state.ask ⟨engine.completed, remembers⟩ receiver other target args name).2) := by
  rw [State.forget, State.recast_ask fun _ _ found => reached.loaded found, State.forget,
    State.spared_eq (reached.suffix_ask receiver other target args name)
      (State.calm_ask _ receiver other target args name).1 reached.reported_le]

theorem Session.Reached.forget_each {f g : State → String → State × Reply} (names : List String)
    (asks : ∀ {state}, Session.Reached ⟨engine.completed, remembers⟩ begin state → ∀ name,
      Session.Reached ⟨engine.completed, remembers⟩ begin (g state name).1 ∧
        f (state.forget engine.absent) name =
          ((g state name).1.forget engine.absent, (g state name).2.forget engine.absent))
    (reached : Session.Reached ⟨engine.completed, remembers⟩ begin state) :
    State.each f (state.forget engine.absent) names =
      ((State.each g state names).1.forget engine.absent,
        Reply.forgetAll engine.absent (State.each g state names).2) := by
  induction names generalizing state with
  | nil => rfl
  | cons name names ih =>
      obtain ⟨next, asked⟩ := asks reached name
      unfold State.each
      rw [asked]
      dsimp only
      rw [ih next]
      rfl

mutual

/-- A step goes the same way with an older engine and a newer one, and so do the steps of the
threads that it runs. -/
theorem Session.Reached.forget_step {begin state : State}
    (reached : Session.Reached ⟨engine.completed, remembers⟩ begin state) :
    (step : Step) →
    (state.forget engine.absent).step ⟨engine, remembers⟩ step =
      ((state.step ⟨engine.completed, remembers⟩ step).1.forget engine.absent,
        (state.step ⟨engine.completed, remembers⟩ step).2.forget engine.absent)
  | .mk names receiver other target args inner => by
      have asks (target : Option String) {state : State}
          (reached : Session.Reached ⟨engine.completed, remembers⟩ begin state) (name : String) :
          (state.forget engine.absent).query ⟨engine, remembers⟩ receiver other target args inner
              name =
            ((state.query ⟨engine.completed, remembers⟩ receiver other target args inner
                name).1.forget engine.absent,
              (state.query ⟨engine.completed, remembers⟩ receiver other target args inner
                name).2.forget engine.absent) := by
        unfold State.query
        split
        next =>
          have entered : (state.forget engine.absent).enterThread =
              state.enterThread.forget engine.absent := rfl
          have ran := reached.enter.steps inner
          rw [entered, Session.Reached.forget_steps reached.enter inner]
          dsimp only
          rw [State.forget_finishThread _ ran.reported_le]
          rfl
        next =>
          rw [reached.forget_ask, (State.calm_ask ..).2]
      rw [State.step_mk, State.step_mk]
      dsimp only
      rw [Session.Reached.forget_each names.toList (fun reached name =>
        ⟨reached.query receiver other _ args inner name, asks _ reached name⟩) reached]
      dsimp only
      rw [State.takeEvents_forget]
      rfl

theorem Session.Reached.forget_steps {begin state : State}
    (reached : Session.Reached ⟨engine.completed, remembers⟩ begin state) :
    (steps : List Step) →
    (state.forget engine.absent).steps ⟨engine, remembers⟩ steps =
      ((state.steps ⟨engine.completed, remembers⟩ steps).1.forget engine.absent,
        Report.forgetAll engine.absent (state.steps ⟨engine.completed, remembers⟩ steps).2)
  | [] => rfl
  | first :: rest => by
      unfold State.steps
      rw [Session.Reached.forget_step reached first]
      dsimp only
      rw [Session.Reached.forget_steps (reached.step first) rest]
      rfl

end

namespace Session.Reached

/-- What a newer engine leads to, an older one leads to as well. -/
theorem forget (reached : Reached ⟨engine.completed, remembers⟩ begin state) :
    Reached ⟨engine, remembers⟩ (begin.forget engine.absent) (state.forget engine.absent) := by
  induction reached with
  | start => exact .start
  | @ask begin state receiver other target args name reached ih =>
      have asked : _ = (state.ask _ receiver other target args name).1.forget engine.absent :=
        congrArg Prod.fst (reached.forget_ask receiver other target args name)
      exact asked ▸ ih.ask receiver other target args name
  | @clear begin state name reached ih =>
      have cleared : _ = (state.clear name).forget engine.absent :=
        state.forget_clears [name] reached.reported_le
      exact cleared ▸ ih.clear name
  | @report begin state reached ih =>
      have taken : _ = state.takeEvents.1.forget engine.absent :=
        congrArg Prod.fst (state.takeEvents_forget engine.absent)
      exact taken ▸ ih.report
  | enter reached ih => exact ih.enter
  | leave reached ran empty outer inner => exact outer.leave inner empty

/-- Whatever an older engine leads to comes from what a newer one leads to. -/
theorem unforget (reached : Reached ⟨engine, remembers⟩ begin state) :
    (∃ origin, Reached ⟨engine.completed, remembers⟩ origin origin ∧
      begin = origin.forget engine.absent) ∧
    ∀ origin, Reached ⟨engine.completed, remembers⟩ origin origin →
      begin = origin.forget engine.absent →
      ∃ later, Reached ⟨engine.completed, remembers⟩ origin later ∧
        state = later.forget engine.absent := by
  induction reached with
  | start => exact ⟨⟨{}, .start, rfl⟩, fun origin began same => ⟨origin, began, same⟩⟩
  | ask receiver other target args name _ ih =>
      refine ⟨ih.1, fun origin began same => ?_⟩
      obtain ⟨later, reached, rfl⟩ := ih.2 origin began same
      exact ⟨_, reached.ask receiver other target args name,
        congrArg Prod.fst (reached.forget_ask receiver other target args name)⟩
  | clear name _ ih =>
      refine ⟨ih.1, fun origin began same => ?_⟩
      obtain ⟨later, reached, rfl⟩ := ih.2 origin began same
      exact ⟨_, reached.clear name, later.forget_clears [name] reached.reported_le⟩
  | report _ ih =>
      refine ⟨ih.1, fun origin began same => ?_⟩
      obtain ⟨later, reached, rfl⟩ := ih.2 origin began same
      exact ⟨_, reached.report, congrArg Prod.fst (later.takeEvents_forget _)⟩
  | enter _ ih =>
      obtain ⟨⟨origin, began, same⟩, leads⟩ := ih
      obtain ⟨later, reached, rfl⟩ := leads origin began same
      exact ⟨⟨_, reached.enter, rfl⟩, fun origin began same => ⟨origin, began, same⟩⟩
  | leave _ _ empty outer inner =>
      refine ⟨outer.1, fun origin began same => ?_⟩
      obtain ⟨later, reached, rfl⟩ := outer.2 origin began same
      obtain ⟨ended, ran, rfl⟩ := inner.2 _ reached.enter rfl
      exact ⟨_, reached.leave ran empty, rfl⟩

/-- An older engine is never asked what it cannot be asked. -/
theorem supports (reached : Reached ⟨engine, remembers⟩ begin state) :
    ∀ event ∈ state.world.trace, ∀ flag ∈ event.flag?, engine.supports flag = true := by
  obtain ⟨⟨origin, began, same⟩, leads⟩ := reached.unforget
  obtain ⟨later, -, rfl⟩ := leads origin began same
  intro event member flag asked
  have spared := Event.spares_iff.1 (List.mem_filter.1 member).2 flag asked
  simpa [Engine.supports] using spared

end Session.Reached

/-! ## Asking about properties -/

theorem CursorQuery.ofName?_flag (flag : CursorFlag) (args : Json) :
    CursorQuery.ofName? flag.key args = some (.has flag) := by
  cases flag <;> rfl

/-- A cursor in a slot is asked whether it has a property. The engine is asked about that property
if it can be, and else the answer is no. -/
theorem State.ask_flag {setting : Setting} {state : State} {slot : String} {cursor : Cursor}
    (found : state.slots.get? slot = some (.cursor cursor)) (loaded : state.world.loaded = true)
    (flag : CursorFlag) (target : Option String) (args : Json) :
    state.ask setting (some slot) none target args flag.key =
      if setting.engine.supports flag then
        ({ state with
            world := state.world.note (.asked (.cursorFlag flag) [cursor.raw.origin] none)
            slots := state.slots.set slot (.cursor cursor) },
          .shown (.bool ((setting.engine.cursor cursor.raw.value).flag flag)))
      else
        ({ state with slots := state.slots.set slot (.cursor cursor) }, .shown (.bool false)) := by
  have named : flag.key ≠ "clone" := by cases flag <;> decide
  have turns : (Object.cursor cursor).turn? flag.key args =
      some ((Object.cursor cursor).steady (cursor.answer (.has flag))) := by
    show (CursorQuery.ofName? flag.key args).map _ = _
    rw [CursorQuery.ofName?_flag]
    rfl
  rw [ask_alone found named turns]
  have asked := cursor.exec_has flag setting loaded
  split at asked
  next supported =>
    rw [if_pos supported, turn_ok (exec_bind_ok (exec_bind_ok asked)), Answer.bool, finish_plain]
  next unsupported =>
    rw [if_neg unsupported, turn_ok (exec_bind_ok (exec_bind_ok asked)), Answer.bool, finish_plain]

/-! ## Older and newer engines -/

/-- A session goes the same way with an engine that cannot be asked about some of the recent
properties of cursors and with the one that can be asked about all, and whose tables differ in that
no cursor has one of those. Step by step, and also inside a thread, the replies are the same, and the
slots, cells, memos and resources that are out; only the trace of the newer engine has questions
about these properties as well. The older engine is never asked one of them: the answer is no, and
nothing else happens. -/
theorem older_engines_agree (engine : Engine) (remembers : Bool) :
    let older : Setting := ⟨engine, remembers⟩
    let newer : Setting := ⟨engine.completed, remembers⟩
    (∀ flag, engine.supports flag = false ↔ ∃ recent ∈ engine.missing, recent.flag = flag) ∧
    (∀ flag, engine.completed.supports flag = true) ∧
    { engine.completed.tables with cursors := engine.tables.cursors } = engine.tables ∧
    (∀ c, engine.completed.cursor c = { engine.cursor c with
      flag := fun flag => (engine.cursor c).flag flag && engine.supports flag }) ∧
    (∀ steps, State.steps older {} steps =
        ((State.steps newer {} steps).1.forget engine.absent,
          Report.forgetAll engine.absent (State.steps newer {} steps).2) ∧
      Session.run older steps = (Session.run newer steps).forget engine.absent) ∧
    (∀ begin state, Session.Reached newer begin state →
      Session.Reached older (begin.forget engine.absent) (state.forget engine.absent) ∧
      ∀ receiver other target args name,
        (state.forget engine.absent).ask older receiver other target args name =
          ((state.ask newer receiver other target args name).1.forget engine.absent,
            (state.ask newer receiver other target args name).2)) ∧
    ∀ begin state, Session.Reached older begin state →
      (∃ begin' state', Session.Reached newer begin' state' ∧
        begin = begin'.forget engine.absent ∧ state = state'.forget engine.absent) ∧
      (∀ event ∈ state.world.trace, ∀ flag ∈ event.flag?, engine.supports flag = true) ∧
      ∀ slot cursor flag, state.slots.get? slot = some (.cursor cursor) →
        engine.supports flag = false → ∀ target args,
        state.ask older (some slot) none target args flag.key =
          ({ state with slots := state.slots.set slot (.cursor cursor) }, .shown (.bool false)) := by
  intro older newer
  have run (list : List Step) : State.steps older {} list =
      ((State.steps newer {} list).1.forget engine.absent,
        Report.forgetAll engine.absent (State.steps newer {} list).2) :=
    Session.Reached.start.forget_steps list
  refine ⟨engine.supports_eq_false_iff, engine.completed_supports, rfl, engine.completed_cursor,
    fun list => ⟨run list, ?_⟩, fun begin state reached => ⟨reached.forget, reached.forget_ask⟩,
    fun begin state reached => ⟨?_, reached.supports, ?_⟩⟩
  · have bound := (@Session.Reached.steps newer _ _ .start list).reported_le
    unfold Session.run
    rw [run]
    dsimp only
    rw [State.forget_finishThread _ bound]
  · obtain ⟨⟨origin, began, rfl⟩, leads⟩ := reached.unforget
    obtain ⟨later, led, rfl⟩ := leads origin began rfl
    exact ⟨origin, later, led, rfl, rfl⟩
  · intro slot cursor flag found missing target args
    rw [State.ask_flag found (reached.loaded found), if_neg (by simp [older, missing])]

/-- An engine that is too old to be asked which methods are deleted is not asked about one. -/
theorem older_engines_agree_deleted :
    let engine : Engine :=
      { tables :=
          { sources := [{ name := none, unit := some 0 }], cursors := #[{ flag := fun _ => true }] }
        missing := CursorFlag.recent }
    let state := (Session.parsed.ask ⟨engine, true⟩ (some "u") none (some "c") .null "cursor").1
    ∃ cursor, state.slots.get? "c" = some (.cursor cursor) ∧
      (engine.cursor cursor.raw.value).flag .isDeletedMethod = true ∧
      state.ask ⟨engine, true⟩ (some "c") none none .null "is_deleted_method" =
        ({ state with slots := state.slots.set "c" (.cursor cursor) }, .shown (.bool false)) := by
  intro engine state
  have opened : Session.Reached ⟨engine, true⟩ {} Session.parsed := .parsed rfl rfl
  have reached : Session.Reached ⟨engine, true⟩ {} state :=
    opened.ask (some "u") none (some "c") .null "cursor"
  obtain ⟨-, -, -, -, -, -, older⟩ := older_engines_agree engine true
  have asked := (older {} state reached).2.2 "c" Session.firstRoot .isDeletedMethod rfl rfl none .null
  exact ⟨_, rfl, rfl, asked⟩

end SourceAtlas
