import SourceAtlas.Proofs.Queries
import SourceAtlas.Proofs.Visits

/-!
# Defects of the engine

A visitation panics in which the engine reports a null cursor, and nothing else panics once the
engine is loaded. What an action ends with is compared here with what the engine has reported to it;
a walk catches the panic of a visitation and hands it on with its next node.
-/

namespace SourceAtlas

/-- Whether the engine reports a null cursor in a visitation. -/
def Event.ShowsNull (engine : Engine) : Event → Prop
  | .asked (.children cursor) _ _ => ¬ Visit.Sound (engine.childReports cursor)
  | .asked (.fields type) _ _ => ¬ Visit.Sound (engine.fieldReports type)
  | _ => False

/-- Whether the panics of a run come from where they may: the run ends with a null cursor if and
only if the engine has reported one, and it finds the engine loaded if it was loaded before. -/
structure Fault.Justified (engine : Engine) (w : World) (outcome : Except Fault α) (v : World) :
    Prop where
  visits : ∃ events, v.trace = events ++ w.trace ∧
    (outcome = .error (.panic .nullCursorVisited) ↔ ∃ event ∈ events, event.ShowsNull engine)
  loaded : w.loaded = true → v.loaded = true ∧ outcome ≠ .error (.panic .engineNotLoaded)

namespace Fault.Justified

variable {engine : Engine} {u v w : World} {α β : Type} {outcome : Except Fault α}

/-- What is no visitation shows no null cursor. -/
theorem talk (events : List Event) (trace : v.trace = events ++ w.trace)
    (loaded : w.loaded = true → v.loaded = true) (quiet : ∀ event ∈ events, ¬ event.ShowsNull engine)
    (sound : ∀ panic, outcome ≠ .error (.panic panic)) : Justified engine w outcome v := by
  refine ⟨⟨events, trace, fun ended => absurd ended (sound _), ?_⟩, fun was => ⟨loaded was, sound _⟩⟩
  rintro ⟨event, member, shows'⟩
  exact absurd shows' (quiet event member)

theorem quiet (trace : v.trace = w.trace) (loaded : w.loaded = true → v.loaded = true)
    (sound : ∀ panic, outcome ≠ .error (.panic panic)) : Justified engine w outcome v :=
  talk [] trace loaded (fun _ absent => absurd absent List.not_mem_nil) sound

/-- An action on a store that nothing was loaded into does not talk to the engine. -/
theorem unloaded (w : World) (unloaded : w.loaded = false) :
    Justified engine w (.error (.panic .engineNotLoaded) : Except Fault α) w :=
  ⟨⟨[], rfl, nofun, nofun⟩, fun loaded => nomatch unloaded.symm.trans loaded⟩

/-- What a run ends with is all that has to be justified, and another run may end so too. -/
theorem congr {other : Except Fault β} (justified : Justified engine w outcome v)
    (same : ∀ panic, other = .error (.panic panic) ↔ outcome = .error (.panic panic)) :
    Justified engine w other v := by
  obtain ⟨events, trace, null⟩ := justified.visits
  refine ⟨⟨events, trace, (same _).trans null⟩, fun was => ?_⟩
  obtain ⟨still, sound⟩ := justified.loaded was
  exact ⟨still, fun ended => sound ((same _).1 ended)⟩

/-- Nothing that has come to its end has seen a null cursor. -/
theorem trans {a : α} {other : Except Fault β}
    (first : Justified engine w (.ok a : Except Fault α) v)
    (second : Justified engine v other u) : Justified engine w other u := by
  obtain ⟨older, trace, null⟩ := first.visits
  obtain ⟨newer, trace', null'⟩ := second.visits
  refine ⟨⟨newer ++ older, by rw [trace', trace, List.append_assoc], null'.trans ?_⟩, fun was =>
    second.loaded (first.loaded was).1⟩
  constructor
  · rintro ⟨event, member, shows'⟩
    exact ⟨event, List.mem_append_left _ member, shows'⟩
  · rintro ⟨event, member, shows'⟩
    rcases List.mem_append.1 member with later | earlier
    · exact ⟨event, later, shows'⟩
    -- the first run would have ended with the panic
    · exact nomatch null.2 ⟨event, earlier, shows'⟩

/-- References are given up without asking the engine anything. -/
theorem sheds (justified : Justified engine w outcome v) (sheds : v.Sheds u) :
    Justified engine w outcome u := by
  obtain ⟨older, trace, null⟩ := justified.visits
  obtain ⟨newer, trace', given⟩ := sheds.trace
  refine ⟨⟨newer ++ older, by rw [trace', trace, List.append_assoc], null.trans ?_⟩, fun was => ?_⟩
  · constructor
    · rintro ⟨event, member, shows'⟩
      exact ⟨event, List.mem_append_right _ member, shows'⟩
    · rintro ⟨event, member, shows'⟩
      rcases List.mem_append.1 member with later | earlier
      · obtain ⟨r, rfl⟩ := given event later
        exact shows'.elim
      · exact ⟨event, earlier, shows'⟩
  · obtain ⟨still, sound⟩ := justified.loaded was
    exact ⟨sheds.loaded.trans still, sound⟩

end Fault.Justified

open Act
open Fault (Justified)

/-- A question that is no visitation shows nothing. -/
theorem Question.not_showsNull {engine : Engine} {question : Question} [plain : question.Plain]
    {operands : List Resource} {memo : Option CellId} :
    ¬ (Event.asked question operands memo).ShowsNull engine := by
  cases question <;> first
    | exact id
    | exact nomatch plain.absent

namespace Act

/-- An action is guaranteed to panic only where it has to. -/
def sound (setting : Setting) : Guarantee setting where
  Holds x := ∀ w : World,
    Justified setting.engine w (x.exec setting w).1 (x.exec setting w).2
  pure _ _ := .quiet rfl id fun _ => nofun
  bind first next w := by
    have before := first w
    rw [exec_bind]
    split
    next a v ran =>
      rw [ran] at before
      exact before.trans (next w a v ran v)
    next fault v ran =>
      rw [ran] at before
      exact before.congr fun _ => by simp
  read _ := .quiet rfl id fun _ => nofun
  get _ := .quiet rfl id fun _ => nofun
  ask question free operands w := by
    cases loaded : w.loaded with
    | false =>
        rw [exec_ask_unloaded _ _ _ loaded]
        exact .unloaded w loaded
    | true =>
        have : question.Plain := ⟨free.plain⟩
        rw [exec_ask _ _ _ loaded]
        exact .talk [.asked question operands none] rfl id
          (by simpa using Question.not_showsNull) fun _ => nofun
  takeText text w :=
    .talk [.textTaken w.texts text] rfl id (by simp [Event.ShowsNull]) fun _ => nofun
  copyText serial text w :=
    .talk [.textReturned serial, .textCopied serial _] rfl id (by simp [Event.ShowsNull])
      fun _ => nofun

variable {setting : Setting}

instance : (sound setting).Requesting where
  request asked w := by
    cases loaded : w.loaded with
    | false =>
        rw [exec_request_unloaded _ loaded]
        exact .unloaded w loaded
    | true =>
        rw [exec_request _ loaded]
        exact .talk [.requested asked] rfl id (by simp [Event.ShowsNull]) fun _ => nofun

instance : (sound setting).Counting where
  retain cells w := by
    show Justified _ w (.ok ()) (w.retainAll cells)
    rw [World.retainAll_eq]
    exact .quiet rfl id fun _ => nofun
  release cells w := .sheds (.quiet (v := w) rfl id fun _ => nofun) (.release w cells)
  alloc _ _ _ := .quiet rfl id fun _ => nofun
  acquire kind label w :=
    .talk [.acquired ⟨kind, w.acquired, label⟩] rfl id (by simp [Event.ShowsNull]) fun _ => nofun
  dispose resource _ :=
    .talk [.disposed resource] rfl id (by simp [Event.ShowsNull]) fun _ => nofun
  countIndex _ := .quiet rfl id fun _ => nofun
  countList _ := .quiet rfl id fun _ => nofun
  addUnit _ _ := .quiet rfl id fun _ => nofun

instance : (sound setting).Renewing where
  renewUnit _ table _ := by cases table <;> exact .quiet rfl id fun _ => nofun

instance : (sound setting).Failing := ⟨fun _ _ => .quiet rfl id fun _ => nofun⟩

instance : (sound setting).Loading := ⟨fun _ => .quiet rfl (fun _ => rfl) fun _ => nofun⟩

instance : (sound setting).Remembering where
  ask question _ operands memo w := by
    cases loaded : w.loaded with
    | false =>
        rw [exec_ask_unloaded _ _ _ loaded]
        exact .unloaded w loaded
    | true =>
        rw [exec_ask _ _ _ loaded]
        exact .talk [.asked question operands memo] rfl id
          (by simpa using Question.not_showsNull) fun _ => nofun
  remember cell slot answer w := by
    show Justified _ w (.ok ()) (w.remember cell slot answer)
    unfold World.remember
    split
    · exact .sheds (v := w.put cell _) (.quiet rfl id fun _ => nofun) (.release ..)
    · exact .quiet rfl id fun _ => nofun
  respell cell spelling w := by
    show Justified _ w (.ok ()) (w.setUnitSpelling cell spelling)
    unfold World.setUnitSpelling
    split <;> exact .quiet rfl id fun _ => nofun

/-- A visitation is justified in its panic by what it has shown, and only by that. -/
theorem justified_visits {question : Question} {operands : List Resource} {reports : List Visit}
    {w : World} {α : Type} {x : List (Nat × Ref) → Act α}
    (shows' : (Event.asked question operands none).ShowsNull setting.engine ↔ ¬ Visit.Sound reports)
    (covered : ∀ nodes, (sound setting).Covers (x nodes)) {result : Except Fault α × World}
    (ran : result = match Visit.collect reports with
      | .ok nodes => (x nodes).exec setting (w.note (.asked question operands none))
      | .error panic => (.error (.panic panic), w.note (.asked question operands none))) :
    Justified setting.engine w result.1 result.2 := by
  subst ran
  by_cases sound : Visit.Sound reports
  · rw [Visit.collect_sound sound]
    have asked : Justified setting.engine w (.ok ()) (w.note (.asked question operands none)) :=
      .talk [.asked question operands none] rfl id
        (by simpa using fun null => shows'.1 null sound) fun _ => nofun
    exact asked.trans ((covered _).holds _)
  · rw [Visit.collect_null sound]
    exact ⟨⟨[.asked question operands none], rfl,
      fun _ => ⟨_, List.mem_singleton_self _, shows'.2 sound⟩, fun _ => rfl⟩,
      fun loaded => ⟨loaded, nofun⟩⟩

instance : (sound setting).Visiting where
  children cursor w := by
    cases loaded : w.loaded with
    | false =>
        rw [cursor.exec_children_unloaded loaded]
        exact .unloaded w loaded
    | true => exact justified_visits Iff.rfl inferInstance (cursor.exec_children loaded)
  fields type w := by
    cases loaded : w.loaded with
    | false =>
        rw [type.exec_fields_unloaded loaded]
        exact .unloaded w loaded
    | true => exact justified_visits Iff.rfl inferInstance (type.exec_fields loaded)

end Act

/-! ## Walks -/

namespace Walk

variable (setting : Setting) (walk : Walk)

/-- A walk hands on the panic of the visitation of a node. -/
theorem justified_advance (w : World) :
    ∃ result v, walk.advance.exec setting w = (.ok result, v) ∧
      Justified setting.engine w result.2 v := by
  unfold advance
  cases walk.pending.getLast? with
  | none => exact ⟨_, w, rfl, .quiet rfl id fun _ => nofun⟩
  | some node =>
      have visited := (inferInstance : (sound setting).Covers node.children).holds w
      rcases ran : node.children.exec setting w with ⟨fault | children, v⟩
      · rw [ran] at visited
        refine ⟨(⟨walk.pending.dropLast⟩, .error fault), v.release (refs node), ?_, ?_⟩
        · rw [exec_bind_ok (exec_attempt _), ran]
          rfl
        · exact (visited.congr fun _ => by simp).sheds (.release v (refs node))
      · rw [ran] at visited
        refine ⟨(⟨walk.pending.dropLast ++ children.reverse⟩, .ok (some node)), v, ?_, ?_⟩
        · rw [exec_bind_ok (exec_attempt _), ran]
          rfl
        · exact visited.congr fun _ => by simp

theorem justified_loop (turns : Nat) (yielded : List Cursor) (w : World) :
    ∃ result v, (drain.loop turns walk yielded).exec setting w = (.ok result, v) ∧
      Justified setting.engine w result.2 v := by
  induction turns generalizing walk yielded w with
  | zero => exact ⟨_, w, rfl, .quiet rfl id fun _ => nofun⟩
  | succ turns ih =>
      obtain ⟨⟨next, outcome⟩, v, ran, visited⟩ := walk.justified_advance setting w
      unfold drain.loop
      rw [exec_bind_ok ran]
      rcases outcome with fault | _ | node
      -- what has been yielded so far is given up
      · exact ⟨_, _, rfl, (visited.congr fun _ => by simp).sheds (.release v (refs yielded.reverse))⟩
      · exact ⟨_, v, rfl, visited.congr fun _ => by simp⟩
      · obtain ⟨result, u, went, later⟩ := ih next (node :: yielded) v
        exact ⟨result, u, went, visited.trans later⟩

theorem justified_turn (query : WalkQuery) (w : World) :
    ∃ t v, (walk.turn query).exec setting w = (.ok t, v) ∧
      Justified setting.engine w t.outcome v := by
  cases query with
  | next =>
      obtain ⟨result, v, ran, visited⟩ := walk.justified_advance setting w
      refine ⟨_, v, exec_bind_ok ran, visited.congr fun _ => ?_⟩
      cases result.2 <;> simp [Except.map]
  | rest =>
      obtain ⟨result, v, ran, visited⟩ := walk.justified_loop setting _ [] w
      refine ⟨_, v, exec_bind_ok (exec_bind_ok exec_engine |>.trans ran), visited.congr fun _ => ?_⟩
      cases result.2 <;> simp [Except.map]

end Walk

/-! ## Queries of objects -/

/-- Whether a reply is a fault, and which. -/
def Reply.outcome : Reply → Except Fault Unit
  | .fault found => .error found
  | _ => .ok ()

theorem Reply.outcome_eq_error {reply : Reply} {found : Fault} :
    reply.outcome = .error found ↔ reply = .fault found := by
  cases reply <;> simp [Reply.outcome]

namespace State

variable {setting : Setting} {state : State} {name slot slot' : String} {args : Json}
variable {other target : Option String} {act : Act Turn}

/-- What an object is asked is justified in its panics, which come with the action or behind it. -/
theorem Poses.justified (poses : state.Poses name args slot other slot' act) (setting : Setting)
    (w : World) :
    Justified setting.engine w ((act.exec setting w).1.bind (·.outcome)) (act.exec setting w).2 := by
  -- a walk returns the fault that it has met; any other action ends with it
  by_cases walks : ∃ (walk : Walk) (query : WalkQuery), act = walk.turn query
  · obtain ⟨walk, query, rfl⟩ := walks
    obtain ⟨t, v, ran, justified⟩ := walk.justified_turn setting query w
    rw [ran]
    exact justified
  · have covered : (sound setting).Covers act :=
      poses.covers (fun walk query same => absurd ⟨walk, query, same⟩ walks) fun _ _ _ _ _ _ =>
        inferInstance
    have answers := poses.returns.resolve_left fun ⟨walk, query, _, same⟩ => walks ⟨walk, query, same⟩
    refine (covered.holds w).congr fun panic => ?_
    rcases ran : act.exec setting w with ⟨fault | t, v⟩
    · simp [Except.bind]
    · obtain ⟨answer, answered⟩ := answers setting w t v ran
      simp [Except.bind, answered]

/-- An answer is stored, or given up, without a panic. -/
theorem justified_finish {outcome : Except Fault Answer} {w : World}
    (justified : Justified setting.engine w outcome state.world) :
    Justified setting.engine w (finish setting target state outcome).2.outcome
      (finish setting target state outcome).1.world := by
  cases outcome with
  | error fault => exact justified.congr fun _ => by simp [finish, Reply.outcome]
  | ok answer =>
      exact (justified.congr fun _ => by simp [finish, Reply.outcome]).sheds
        (sheds_settle state target answer)

/-- A query of an object panics where a null cursor is shown, and nowhere else. -/
theorem justified_askSlot (setting : Setting) (state : State) (name slot : String)
    (other target : Option String) (args : Json) :
    Justified setting.engine state.world
      (state.askSlot setting name slot other target args).2.outcome
      (state.askSlot setting name slot other target args).1.world := by
  rcases askSlot_cases setting state name slot other target args with
    ⟨slot', act, poses, asked⟩ | ⟨reply, asked, sound⟩
  · rw [asked]
    have justified := poses.justified setting state.world
    rcases ran : act.exec setting state.world with ⟨fault | ⟨receiver, outcome⟩, v⟩
    · rw [ran] at justified
      rw [turn_error ran]
      exact justified.congr fun _ => by simp [Except.bind, Reply.outcome]
    · rw [ran] at justified
      rw [turn_ok ran]
      exact justified_finish justified
  · rw [asked]
    refine .quiet rfl id fun panic => ?_
    cases reply with
    | fault fault => exact absurd rfl (sound fault)
    | _ => exact nofun

end State

end SourceAtlas
