import SourceAtlas.Proofs.Defects
import SourceAtlas.Proofs.Sessions

/-!
# Loading

The engine is loaded on a thread by the first query that needs to find it, whatever comes of that
query, and stays loaded. Objects come from such queries only, so whatever is asked of an object is
asked on a thread that has loaded the engine. A question about a kind is asked without an object: if
it comes too early, it panics.
-/

namespace SourceAtlas

open Act
open Fault (Justified)

/-! ## Loading the engine -/

/-- The queries of a session that load the engine on their thread, whatever comes of them. -/
def loadingQueries : List String :=
  ["create_index", "index_with_config", "database", "version", "editing_defaults"]

/-- Whether an action loads the engine before anything else. -/
def Act.LoadsFirst (setting : Setting) (x : Act α) : Prop :=
  ∀ w, x.exec setting w = x.exec setting { w with loaded := true }

namespace Act.LoadsFirst

variable {setting : Setting} {α β : Type} {x : Act α} {f : α → Act β}

theorem bind (first : LoadsFirst setting x) : LoadsFirst setting (x >>= f) := by
  intro w
  rw [exec_bind, exec_bind, first]

theorem load : LoadsFirst setting Act.load :=
  fun _ => rfl

/-- The engine is loaded when such an action has run, and was loaded whenever it was needed. -/
theorem loaded (first : LoadsFirst setting x) [covered : (sound setting).Covers x] (w : World) :
    (x.exec setting w).2.loaded = true ∧
      (x.exec setting w).1 ≠ .error (.panic .engineNotLoaded) := by
  rw [first]
  exact (covered.holds { w with loaded := true }).loaded rfl

end Act.LoadsFirst

namespace State

variable {setting : Setting} {name : String} {args : Json} {act : Act Answer}

theorem loadsFirst_sessionQuery? (found : sessionQuery? name args = some act)
    (loads : name ∈ loadingQueries) : act.LoadsFirst setting := by
  simp only [loadingQueries, List.mem_cons, List.not_mem_nil, or_false] at loads
  rcases loads with rfl | rfl | rfl | rfl | rfl <;> cases found <;>
    exact .bind (.bind .load)

/-- On a thread that has not loaded the engine, the other queries of the session do nothing; those
about kinds panic. -/
theorem exec_sessionQuery?_unloaded (setting : Setting)
    (found : sessionQuery? name args = some act) (idle : name ∉ loadingQueries) {w : World}
    (unloaded : w.loaded = false) :
    (act.exec setting w).2 = w ∧
      ((name = "cursor_kind" ∨ name = "type_kind") ∧
          (act.exec setting w).1 = .error (.panic .engineNotLoaded) ∨
        (name = "live" ∨ name = "calls") ∧ ∃ value, (act.exec setting w).1 = .ok (.plain value)) := by
  unfold sessionQuery? at found
  split at found <;> first
    | exact absurd (by decide) idle
    | skip
  · cases found
    have asked : (inspectCursorKind ⟨args.int32 "raw"⟩ >>= fun value =>
        pure (Answer.plain value)).exec setting w = (.error (.panic .engineNotLoaded), w) :=
      exec_bind_error (exec_bind_error (exec_ask_unloaded _ _ _ unloaded))
    exact ⟨congrArg Prod.snd asked, .inl ⟨.inl rfl, congrArg Prod.fst asked⟩⟩
  · cases found
    have asked : (inspectTypeKind ⟨args.int32 "raw"⟩ >>= fun value =>
        pure (Answer.plain value)).exec setting w = (.error (.panic .engineNotLoaded), w) :=
      exec_bind_error (exec_bind_error (exec_ask_unloaded _ _ _ unloaded))
    exact ⟨congrArg Prod.snd asked, .inl ⟨.inr rfl, congrArg Prod.fst asked⟩⟩
  · cases found
    exact ⟨rfl, .inr ⟨.inl rfl, _, rfl⟩⟩
  · cases found
    exact ⟨rfl, .inr ⟨.inr rfl, _, rfl⟩⟩
  · exact nomatch found

/-- The engine is loaded after a query of the session if it was before, or if the query loads it. -/
theorem loaded_sessionQuery?_iff (setting : Setting) (found : sessionQuery? name args = some act)
    (w : World) :
    (act.exec setting w).2.loaded = true ↔ w.loaded = true ∨ name ∈ loadingQueries := by
  have covered : (sound setting).Covers act := covers_sessionQuery? found
  by_cases loads : name ∈ loadingQueries
  · have first : act.LoadsFirst setting := loadsFirst_sessionQuery? found loads
    exact ⟨fun _ => .inr loads, fun _ => (first.loaded w).1⟩
  · cases loaded : w.loaded with
    | true => simpa using ((covered.holds w).loaded loaded).1
    | false =>
        rw [(exec_sessionQuery?_unloaded setting found loads loaded).1, loaded]
        simp [loads]

/-- Where the engine is not loaded, it is missed by the queries about kinds. -/
theorem panics_sessionQuery?_iff (setting : Setting) (found : sessionQuery? name args = some act)
    {w : World} (unloaded : w.loaded = false) :
    (act.exec setting w).1 = .error (.panic .engineNotLoaded) ↔
      name = "cursor_kind" ∨ name = "type_kind" := by
  have covered : (sound setting).Covers act := covers_sessionQuery? found
  by_cases loads : name ∈ loadingQueries
  · have first : act.LoadsFirst setting := loadsFirst_sessionQuery? found loads
    refine ⟨fun ended => absurd ended (first.loaded w).2, ?_⟩
    rintro (rfl | rfl) <;> exact absurd loads (by decide)
  · rcases (exec_sessionQuery?_unloaded setting found loads unloaded).2 with
      ⟨kind, ended⟩ | ⟨rfl | rfl, value, ended⟩
    · exact ⟨fun _ => kind, fun _ => ended⟩
    all_goals
      rw [ended]
      simp

end State

/-- A state in the course of a thread, and the names under which the thread has asked the session
something so far. Another thread has names of its own. -/
inductive Session.Heard (setting : Setting) : State → List String → State → Prop
  | start : Heard setting {} [] {}
  | ask {begin state : State} {names : List String} (other target : Option String) (args : Json)
      (name : String) (heard : Heard setting begin names state) :
      Heard setting begin (name :: names) (state.ask setting none other target args name).1
  | askSlot {begin state : State} {names : List String} (slot : String)
      (other target : Option String) (args : Json) (name : String)
      (heard : Heard setting begin names state) :
      Heard setting begin names (state.ask setting (some slot) other target args name).1
  | clear {begin state : State} {names : List String} (name : String)
      (heard : Heard setting begin names state) : Heard setting begin names (state.clear name)
  | report {begin state : State} {names : List String} (heard : Heard setting begin names state) :
      Heard setting begin names state.takeEvents.1
  | enter {begin state : State} {names : List String} (heard : Heard setting begin names state) :
      Heard setting state.enterThread [] state.enterThread
  | leave {begin state inner : State} {names inside : List String}
      (heard : Heard setting begin names state)
      (ran : Heard setting state.enterThread inside inner) (empty : inner.slots = []) :
      Heard setting begin names (state.leaveThread inner)

namespace Session

variable {setting : Setting} {begin state : State} {names : List String}

theorem Heard.reached (heard : Heard setting begin names state) : Reached setting begin state := by
  induction heard with
  | start => exact .start
  | ask other target args name _ reached => exact reached.ask none other target args name
  | askSlot slot other target args name _ reached =>
      exact reached.ask (some slot) other target args name
  | clear name _ reached => exact reached.clear name
  | report _ reached => exact reached.report
  | enter _ reached => exact reached.enter
  | leave _ _ empty reached ran => exact reached.leave ran empty

theorem Reached.heard (reached : Reached setting begin state) :
    ∃ names, Heard setting begin names state := by
  induction reached with
  | start => exact ⟨_, .start⟩
  | ask receiver other target args name _ heard =>
      obtain ⟨names, heard⟩ := heard
      cases receiver with
      | none => exact ⟨_, heard.ask other target args name⟩
      | some slot => exact ⟨_, heard.askSlot slot other target args name⟩
  | clear name _ heard => exact ⟨_, heard.choose_spec.clear name⟩
  | report _ heard => exact ⟨_, heard.choose_spec.report⟩
  | enter _ heard => exact ⟨_, heard.choose_spec.enter⟩
  | leave _ _ empty heard ran =>
      exact ⟨_, heard.choose_spec.leave ran.choose_spec empty⟩

/-- The engine is loaded on a thread that has asked for something that loads it, and only there are
objects. -/
structure Loading (names : List String) (state : State) : Prop where
  loaded_iff : state.world.loaded = true ↔ ∃ name ∈ names, name ∈ loadingQueries
  empty : state.world.loaded = false → state.slots = []

namespace Loading

/-- A thread that has not loaded the engine gets nothing from a query of a slot. -/
theorem askSlot_eq (loading : Loading names state) (unloaded : state.world.loaded = false)
    (slot : String) (other target : Option String) (args : Json) (name : String) :
    state.askSlot setting name slot other target args = (state, .noSlot) := by
  unfold State.askSlot
  rw [loading.empty unloaded]
  rfl

theorem askSlot (loading : Loading names state) (slot : String) (other target : Option String)
    (args : Json) (name : String) :
    Loading names (state.askSlot setting name slot other target args).1 := by
  cases loaded : state.world.loaded with
  | false =>
      rw [loading.askSlot_eq loaded]
      exact loading
  | true =>
      have still := ((State.justified_askSlot setting state name slot other target args).loaded
        loaded).1
      exact ⟨by rw [still, ← loading.loaded_iff, loaded],
        fun unloaded => nomatch still.symm.trans unloaded⟩

/-- A query of the session that loads the engine has loaded it; another one that finds it not loaded
leaves the thread without objects. -/
theorem ask (loading : Loading names state) (other target : Option String) (args : Json)
    (name : String) :
    Loading (name :: names) (state.ask setting none other target args name).1 := by
  have iff : (∃ earlier ∈ name :: names, earlier ∈ loadingQueries) ↔
      state.world.loaded = true ∨ name ∈ loadingQueries := by
    rw [loading.loaded_iff]
    simp [or_comm]
  rcases State.ask_none_cases setting state other target args name with
    ⟨act, found, asked⟩ | ⟨rfl, dropped, asked⟩ | ⟨unknown, asked⟩
  · rw [asked]
    rcases ran : act.exec setting state.world with ⟨outcome, v⟩
    rw [State.run_eq ran]
    have after : (State.finish setting target { state with world := v } outcome).1.world.loaded =
        v.loaded := by
      cases outcome with
      | error fault => rfl
      | ok answer => exact (State.sheds_settle { state with world := v } target answer).loaded
    have loads := State.loaded_sessionQuery?_iff setting found state.world
    rw [ran] at loads
    refine ⟨by rw [after, loads, iff], fun unloaded => ?_⟩
    -- a query that has not loaded the engine has answered something plain at most
    have neither : ¬ (state.world.loaded = true ∨ name ∈ loadingQueries) := fun either =>
      Bool.false_ne_true ((after.symm.trans unloaded).symm.trans (loads.2 either))
    have before : state.world.loaded = false := Bool.eq_false_iff.2 fun loaded => neither (.inl loaded)
    have idle := State.exec_sessionQuery?_unloaded setting found (fun load => neither (.inr load)) before
    rw [ran] at idle
    rcases idle.2 with ⟨-, ended⟩ | ⟨-, value, ended⟩
    · obtain rfl : outcome = _ := ended
      exact loading.empty before
    · obtain rfl : outcome = _ := ended
      rw [State.finish_plain]
      exact loading.empty before
  · rw [asked]
    have same := (State.sheds_clears state dropped).loaded
    refine ⟨by rw [same, iff]; simp [loadingQueries], fun unloaded => ?_⟩
    refine List.eq_nil_iff_forall_not_mem.2 fun slot member => ?_
    have kept := (State.mem_slots_clears member).1
    rw [loading.empty (same.symm.trans unloaded)] at kept
    exact List.not_mem_nil kept
  · rw [asked]
    have idle : name ∉ loadingQueries := by
      intro loads
      simp only [loadingQueries, List.mem_cons, List.not_mem_nil, or_false] at loads
      rcases loads with rfl | rfl | rfl | rfl | rfl <;> cases unknown
    exact ⟨by rw [iff, or_iff_left idle], loading.empty⟩

end Loading

theorem Heard.loading (heard : Heard setting begin names state) : Loading names state := by
  induction heard with
  | start => exact ⟨by simp, fun _ => rfl⟩
  | ask other target args name _ loading => exact loading.ask other target args name
  | askSlot slot other target args name _ loading =>
      exact loading.askSlot slot other target args name
  | @clear _ state _ name _ loading =>
      have same := (state.sheds_clear name).loaded
      refine ⟨by rw [same, loading.loaded_iff], fun unloaded => ?_⟩
      have none := loading.empty (same ▸ unloaded)
      rw [State.clear_eq]
      simp [none, State.update, Slots.erase]
  | report _ loading => exact ⟨loading.loaded_iff, loading.empty⟩
  | enter _ _ => exact ⟨by simp [State.enterThread], fun _ => rfl⟩
  | leave _ _ _ loading _ => exact ⟨loading.loaded_iff, loading.empty⟩

end Session

namespace State

/-- Any query panics with a null cursor where one is shown, and nowhere else. -/
theorem justified_ask (setting : Setting) (state : State) (receiver other target : Option String)
    (args : Json) (name : String) :
    Justified setting.engine state.world
      (state.ask setting receiver other target args name).2.outcome
      (state.ask setting receiver other target args name).1.world := by
  cases receiver with
  | some slot => exact justified_askSlot setting state name slot other target args
  | none =>
      rcases ask_none_cases setting state other target args name with
        ⟨act, found, asked⟩ | ⟨-, names, asked⟩ | ⟨-, asked⟩
      · rw [asked]
        have covered : (sound setting).Covers act := covers_sessionQuery? found
        have justified := covered.holds state.world
        rcases ran : act.exec setting state.world with ⟨outcome, v⟩
        rw [ran] at justified
        rw [run_eq ran]
        exact justified_finish justified
      · rw [asked]
        exact .sheds (v := state.world) (.quiet rfl id fun _ => nofun) (sheds_clears state names)
      · rw [asked]
        exact .quiet rfl id fun _ => nofun

end State

namespace Session

variable {setting : Setting} {begin state : State} {names : List String}

/-- A query finds the engine not loaded if it is about a kind and the first of its thread that needs
the engine, and in no other case. -/
theorem Loading.panics_iff (loading : Loading names state) (receiver other target : Option String)
    (args : Json) (name : String) :
    (state.ask setting receiver other target args name).2 = .fault (.panic .engineNotLoaded) ↔
      receiver = none ∧ (name = "cursor_kind" ∨ name = "type_kind") ∧
        ∀ earlier ∈ names, earlier ∉ loadingQueries := by
  have idle_iff : (∀ earlier ∈ names, earlier ∉ loadingQueries) ↔ state.world.loaded = false := by
    rw [← Bool.not_eq_true, loading.loaded_iff]
    simp
  rw [idle_iff, ← Reply.outcome_eq_error]
  -- once loaded, nothing fails that way; before, there are no objects, and the queries without a
  -- receiver are left
  cases loaded : state.world.loaded with
  | true =>
      have justified := State.justified_ask setting state receiver other target args name
      simpa using (justified.loaded loaded).2
  | false =>
      cases receiver with
      | some slot =>
          show (state.askSlot setting name slot other target args).2.outcome = _ ↔ _
          rw [loading.askSlot_eq loaded]
          simp [Reply.outcome]
      | none =>
          rcases State.ask_none_cases setting state other target args name with
            ⟨act, found, asked⟩ | ⟨rfl, dropped, asked⟩ | ⟨unknown, asked⟩
          · rw [asked]
            rcases ran : act.exec setting state.world with ⟨outcome, v⟩
            rw [State.run_eq ran]
            have ends : (State.finish setting target { state with world := v } outcome).2.outcome =
                .error (.panic .engineNotLoaded) ↔ outcome = .error (.panic .engineNotLoaded) := by
              cases outcome <;> simp [State.finish, Reply.outcome]
            have panics := State.panics_sessionQuery?_iff setting found loaded
            rw [ran] at panics
            rw [ends, panics]
            simp
          · rw [asked]
            simp [Reply.outcome]
          · rw [asked]
            constructor
            · rintro ⟨⟩
            · rintro ⟨-, rfl | rfl, -⟩ <;> cases unknown

end Session

end SourceAtlas
