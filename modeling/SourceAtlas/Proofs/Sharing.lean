import SourceAtlas.Proofs.Loading
import SourceAtlas.Proofs.Recalling

/-!
# What is shared in a session

However a session goes on, on whatever threads, no query asks for what a cell knows, and no cell
forgets. A cursor shares its memo with its clones. The cursors that a memo remembers are handed out as
they are, so that all of their holders share one memo as well.
-/

namespace SourceAtlas

open Act

variable {setting : Setting} {engine : Engine}

/-! ## Queries -/

namespace State

/-- What may be asked for which cells when the objects in some slots are asked something. -/
def askable (state : State) (receiver other : Option String) : Askable := fun c kind =>
  ∃ slot object, (receiver = some slot ∨ other = some slot) ∧
    state.slots.get? slot = some object ∧ object.askable c kind

variable {state : State} {slot : String} {target : Option String} {A : Askable}

/-- To show and to store an answer concerns no memo. -/
theorem recalling_finish (state : State) {w : World} (recalling : w.Recalling A state.world)
    (setting : Setting) (target : Option String) (outcome : Except Fault Answer) :
    w.Recalling A (state.finish setting target outcome).1.world := by
  cases outcome with
  | ok answer => exact recalling.trans (.still (.sheds (state.sheds_settle target answer)))
  | error fault => exact recalling

theorem recalling_turn {act : Act Turn}
    (recalling : state.world.Recalling A (act.exec setting state.world).2) (slot : String)
    (target : Option String) :
    state.world.Recalling A (state.turn setting slot target act).1.world := by
  rcases ran : act.exec setting state.world with ⟨fault | t, v⟩
  · rw [turn_error ran]
    rwa [ran] at recalling
  · rw [turn_ok ran]
    rw [ran] at recalling
    exact recalling_finish { state with world := v, slots := _ } recalling _ _ _

end State

namespace Session.Reached

variable {begin state : State}

theorem usable_slot (reached : Reached setting begin state) {slot : String} {object : Object}
    (found : state.slots.get? slot = some object) :
    Usable setting.engine (owners state.slots.objects : Held) object :=
  reached.usable object (List.mem_map_of_mem (Slots.mem_of_get? found))

theorem recalling_poses (reached : Reached ⟨engine, true⟩ begin state) {name slot slot' : String}
    {args : Json} {other : Option String} {act : Act Turn}
    (poses : state.Poses name args slot other slot' act) :
    state.world.Recalling (state.askable (some slot) other)
      (act.exec ⟨engine, true⟩ state.world).2 := by
  obtain ⟨facts, τ, inv⟩ := reached.inv
  cases poses with
  | clone found _ _ =>
      exact .still ((inferInstance : (still ⟨engine, true⟩).Covers (Object.steady _ _)).holds _)
  | alone found turns =>
      exact (Object.recalls_turn? rfl (reached.usable_slot found) turns facts _
        ⟨τ, inv⟩).mono
        fun c kind asks => ⟨_, _, .inl rfl, found, asks⟩
  | pair found beside _ turns =>
      refine (Object.recalls_pairTurn? rfl (reached.usable_slot found)
        (reached.usable_slot beside) turns facts _ ⟨τ, inv⟩).mono fun c kind asks => ?_
      exact asks.elim (fun asks => ⟨_, _, .inl rfl, found, asks⟩)
        fun asks => ⟨_, _, .inr rfl, beside, asks⟩

/-- A query asks only what the objects in its slots may ask, and only what is not known. -/
theorem recalling_ask (reached : Reached ⟨engine, true⟩ begin state)
    (receiver other target : Option String) (args : Json) (name : String) :
    state.world.Recalling (state.askable receiver other)
      (state.ask ⟨engine, true⟩ receiver other target args name).1.world := by
  cases receiver with
  | none =>
      rcases State.ask_none_cases ⟨engine, true⟩ state other target args name with
        ⟨act, found, asked⟩ | ⟨-, names, asked⟩ | ⟨-, asked⟩
      · have covered : (still ⟨engine, true⟩).Covers act := State.covers_sessionQuery? found
        rw [asked, State.run_eq (Prod.eta _).symm]
        exact State.recalling_finish { state with world := _ }
          (.still (covered.holds state.world)) _ _ _
      · rw [asked]
        exact .still (.sheds (state.sheds_clears names))
      · rw [asked]
        exact .still (.refl _)
  | some slot =>
      show state.world.Recalling _ (state.askSlot _ name slot other target args).1.world
      rcases State.askSlot_cases ⟨engine, true⟩ state name slot other target args with
        ⟨slot', act, poses, asked⟩ | ⟨reply, asked, -⟩
      · rw [asked]
        exact State.recalling_turn (reached.recalling_poses poses) slot' target
      · rw [asked]
        exact .still (.refl _)

end Session.Reached

/-! ## Sessions -/

/-- The states of a session that come after one of them, on the same thread or on others. -/
inductive Session.Later (setting : Setting) (first : State) : State → Prop
  | here {begin : State} (reached : Reached setting begin first) : Later setting first first
  | ask {state : State} (receiver other target : Option String) (args : Json) (name : String)
      (later : Later setting first state) :
      Later setting first (state.ask setting receiver other target args name).1
  | clear {state : State} (name : String) (later : Later setting first state) :
      Later setting first (state.clear name)
  | report {state : State} (later : Later setting first state) :
      Later setting first state.takeEvents.1
  | enter {state : State} (later : Later setting first state) :
      Later setting first state.enterThread
  | leave {begin outer inner : State} (reached : Reached setting begin outer)
      (ran : Reached setting outer.enterThread inner) (empty : inner.slots = [])
      (later : Later setting first inner) : Later setting first (outer.leaveThread inner)

namespace Session.Later

variable {begin first state : State}

theorem reached (later : Later setting first state) : ∃ begin, Reached setting begin state := by
  induction later with
  | here reached => exact ⟨_, reached⟩
  | ask receiver other target args name _ ih =>
      obtain ⟨begin, reached⟩ := ih
      exact ⟨begin, reached.ask receiver other target args name⟩
  | clear name _ ih =>
      obtain ⟨begin, reached⟩ := ih
      exact ⟨begin, reached.clear name⟩
  | report _ ih =>
      obtain ⟨begin, reached⟩ := ih
      exact ⟨begin, reached.report⟩
  | enter _ ih =>
      obtain ⟨begin, reached⟩ := ih
      exact ⟨_, reached.enter⟩
  | leave reached ran empty _ _ => exact ⟨_, reached.leave ran empty⟩

theorem reached_first (later : Later setting first state) : ∃ begin, Reached setting begin first := by
  induction later with
  | here reached => exact ⟨_, reached⟩
  | ask _ _ _ _ _ _ ih | clear _ _ ih | report _ ih | enter _ ih | leave _ _ _ _ ih => exact ih

/-- Every state of a session comes after its beginning. -/
theorem of_reached (reached : Reached setting begin state) : Later setting {} state := by
  induction reached with
  | start => exact .here .start
  | ask receiver other target args name _ ih => exact ih.ask receiver other target args name
  | clear name _ ih => exact ih.clear name
  | report _ ih => exact ih.report
  | enter _ ih => exact ih.enter
  | leave reached ran empty _ inner => exact .leave reached ran empty inner

/-- However a session goes on, nothing is asked that is known, and nothing is forgotten. -/
theorem recalling (later : Later ⟨engine, true⟩ first state) :
    first.world.Recalling (fun _ _ => True) state.world := by
  induction later with
  | here _ => exact .still (.refl _)
  | ask receiver other target args name later ih =>
      obtain ⟨begin, reached⟩ := later.reached
      exact ih.trans ((reached.recalling_ask receiver other target args name).mono
        fun _ _ _ => trivial)
  | clear name _ ih => exact ih.trans (.still (.sheds (State.sheds_clear _ name)))
  | report _ ih => exact ih
  | enter _ ih => exact ih.trans (.still (.talk rfl [] rfl rfl))
  | leave _ _ _ _ ih => exact ih.trans (.still (.talk rfl [] rfl rfl))

end Session.Later

/-! ## Clones and remembered cursors -/

namespace World

/-- To take references changes no memo. -/
theorem memo_retainAll (w : World) (cells : CellRefs) (c : CellId) :
    (w.retainAll cells).memo c = w.memo c := by
  induction cells generalizing w with
  | nil => rfl
  | cons d cells ih =>
      refine (ih (w.retain d)).trans ?_
      unfold retain memo
      cases found : w.find? d with
      | none => rfl
      | some entry =>
          rw [find?_put found]
          by_cases same : c = d
          · rw [if_pos same, same, found]
            obtain ⟨count, resource, content⟩ := entry
            cases content <;> rfl
          · rw [if_neg same]

/-- What a memo knew it still knows. -/
theorem Recalling.extends_memo {A : Askable} {w v : World} {c : CellId} {entry : Entry}
    {memo : CursorMemo} (recalling : w.Recalling A v) (old : c < w.cells.size)
    (found : v.find? c = some entry) (content : entry.content = .memo memo) :
    (w.memo c).Extends memo := by
  obtain ⟨before, found, more, -⟩ := recalling.kept c old entry found
  rw [content] at more
  generalize same : before.content = first at more
  cases more with
  | refl =>
      rw [memo_eq found same]
      exact .refl memo
  | memo more =>
      rw [memo_eq found same]
      exact more

end World

/-- Whether a getter of the cursor in a slot hands out what the memo remembers then, which is what it
remembered before if there was anything. -/
def State.HandsOut [Holder α] (setting : Setting) (state : State) (slot name : String) (k : Cursor)
    (place : MemoSlot α) (wrap : α → Answer) : Prop :=
  ∀ target args, ∃ a v, place.get (v.memo k.memo) = some a ∧
    (∀ known ∈ place.get (state.world.memo k.memo), a = known) ∧
    state.ask setting (some slot) none target args name =
      finish setting target { state with world := v, slots := state.slots.set slot (.cursor k) }
        (.ok (wrap a))

/-- A clone is the object itself, with references of its own. -/
theorem State.ask_clone {state : State} {slot : String} {object : Object}
    (found : state.slots.get? slot = some object) (clonable : object.isClonable)
    (target : Option String) (args : Json) :
    state.ask setting (some slot) none target args "clone" =
      finish setting target
        { state with
          world := state.world.retainAll (refs object)
          slots := state.slots.set slot object }
        (.ok (.object object)) := by
  have turned : (object.steady (.object <$> Act.keep object)).exec setting state.world =
      (.ok ⟨object, .ok (.object object)⟩, state.world.retainAll (refs object)) := rfl
  have asked : state.ask setting (some slot) none target args "clone" =
      state.turn setting slot target (object.steady (.object <$> Act.keep object)) := by
    simp only [ask, askSlot, found, clonable, if_true]
  rw [asked, turn_ok turned]

namespace Session.Reached

variable {begin state : State} {slot : String} {k : Cursor}

theorem handsOut [Holder α] [Likeness α] [Entity α] (reached : Reached ⟨engine, true⟩ begin state)
    (found : state.slots.get? slot = some (.cursor k)) {name : String} {query : CursorQuery}
    (named : name ≠ "clone") (asks : ∀ args, CursorQuery.ofName? name args = some query)
    {place : MemoSlot α} {Good : Typing → Cursor → α → Prop} (lawful : place.Lawful engine Good)
    {answer : Act α} {wrap : α → Answer} {A : Askable}
    (answers : k.answer query = do return wrap (← Act.keep (← memoized k.memo place answer)))
    (recalls : ∀ {side held}, side.remembers = true → Usable engine held k →
      Recalls engine side held A (memoized k.memo place answer))
    (runs : ∀ {side held facts τ w}, Usable engine held k → Inv engine side facts τ held w →
      ∃ a v τ', answer.exec (side.setting engine) w = (.ok a, v) ∧
        Inv engine side facts τ' (owners a + held) v ∧ Good τ' k a)
    (keeps : ∀ {before after : CursorMemo}, before.Extends after →
      ∀ a ∈ place.get before, place.get after = some a) :
    state.HandsOut ⟨engine, true⟩ slot name k place wrap := by
  intro target args
  have held := reached.usable_slot found
  have usable : Usable engine (owners state.slots.objects : Held) k := ⟨held.coherent, held.within⟩
  obtain ⟨facts, τ, inv⟩ := reached.inv
  obtain ⟨a, v, ran, τ', inv', get, -⟩ := ensures_memoized lawful Entity.refs_eq
    (Cursor.within_memo usable) (fun _ _ inv => runs usable inv) _ ⟨τ, inv⟩
  have recalling := recalls rfl usable facts _ ⟨τ, inv⟩
  rw [ran] at recalling
  refine ⟨a, v.retainAll (refs a), ?_, fun known remembered => ?_, ?_⟩
  · rw [World.memo_retainAll, get]
  -- what was remembered before is remembered still, so it is what is remembered now
  · obtain ⟨before, there, -⟩ := inv.remembers (Cursor.within_memo usable)
    obtain ⟨after, found, content, -⟩ := inv'.remembers (Cursor.within_memo usable)
    have more := recalling.extends_memo (World.lt_size_of_find? there) found content
    exact Option.some.inj (get.symm.trans (keeps more known remembered))
  · have turned : ((Object.cursor k).steady (k.answer query)).exec ⟨engine, true⟩ state.world =
        (.ok ⟨.cursor k, .ok (wrap a)⟩, v.retainAll (refs a)) := by
      rw [answers, Object.steady, exec_bind_ok (exec_bind_ok ran)]
      rfl
    have turns : (Object.cursor k).turn? name args =
        some ((Object.cursor k).steady (k.answer query)) := by
      show (CursorQuery.ofName? name args).map _ = _
      rw [asks]
      rfl
    rw [State.ask_alone found named turns, State.turn_ok turned]

theorem handsOut_canonical (reached : Reached ⟨engine, true⟩ begin state)
    (found : state.slots.get? slot = some (.cursor k)) :
    state.HandsOut ⟨engine, true⟩ slot "canonical" k CursorMemo.canonicalSlot
      fun c => .object (.cursor c) :=
  reached.handsOut found (by decide) (fun _ => rfl) CursorMemo.canonical_lawful rfl
    (fun on usable => Cursor.recalls_canonical on usable)
    (fun usable inv => Cursor.exec_link usable .canonical inv) fun more => more.canonical

theorem handsOut_semanticParent (reached : Reached ⟨engine, true⟩ begin state)
    (found : state.slots.get? slot = some (.cursor k)) :
    state.HandsOut ⟨engine, true⟩ slot "semantic_parent" k CursorMemo.semanticParentSlot
      (.optional .cursor) :=
  reached.handsOut found (by decide) (fun _ => rfl) CursorMemo.semanticParent_lawful rfl
    (fun on usable => Cursor.recalls_semanticParent on usable)
    (fun usable inv => Cursor.exec_parent usable .semanticParent inv) fun more => more.semanticParent

theorem handsOut_lexicalParent (reached : Reached ⟨engine, true⟩ begin state)
    (found : state.slots.get? slot = some (.cursor k)) :
    state.HandsOut ⟨engine, true⟩ slot "lexical_parent" k CursorMemo.lexicalParentSlot
      (.optional .cursor) :=
  reached.handsOut found (by decide) (fun _ => rfl) CursorMemo.lexicalParent_lawful rfl
    (fun on usable => Cursor.recalls_lexicalParent on usable)
    (fun usable inv => Cursor.exec_parent usable .lexicalParent inv) fun more => more.lexicalParent

end Session.Reached

end SourceAtlas
