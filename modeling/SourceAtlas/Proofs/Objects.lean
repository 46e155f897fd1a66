import SourceAtlas.Proofs.Queries
import SourceAtlas.Proofs.Sessions

/-!
# Properties of all objects

A property that no query takes away from the objects in slots, and that whatever a query hands out
has as well, is one of all objects that a session ever has in its slots.
-/

namespace SourceAtlas

open Act

variable {P : Object → Prop}

/-- Whether all objects of an answer have a property. -/
def Answer.Each (P : Object → Prop) : Answer → Prop
  | .plain _ => True
  | .object held => P held
  | .objects held => ∀ object ∈ held, P object

/-- Whether all objects that a turn gives back have a property. -/
structure Turn.Each (P : Object → Prop) (t : Turn) : Prop where
  receiver : P t.receiver
  outcome : ∀ answer, t.outcome = .ok answer → answer.Each P

/-- Whether all objects in slots have a property. -/
def State.Each (P : Object → Prop) (state : State) : Prop :=
  ∀ slot ∈ state.slots, P slot.2

namespace Answer.Each

variable {α : Type} {wrap : α → Object}

theorem optional {value : Option α} (each : ∀ a ∈ value, P (wrap a)) :
    (Answer.optional wrap value).Each P := by
  cases value with
  | none => trivial
  | some a => exact each a rfl

theorem list {values : List α} (each : ∀ a ∈ values, P (wrap a)) :
    (Answer.list wrap values).Each P := by
  intro object member
  obtain ⟨a, found, rfl⟩ := List.mem_map.1 member
  exact each a found

end Answer.Each

/-! ## What is returned from a store on -/

/-- Whether a property holds of what an action returns if it starts from a store. -/
def Act.ReturnsFrom {α : Type} (setting : Setting) (w : World) (x : Act α) (P : α → Prop) : Prop :=
  ∀ a v, x.exec setting w = (.ok a, v) → P a

section From

variable {setting : Setting} {w : World} {α β : Type} {x : Act α} {f : α → Act β} {Q : α → Prop}
variable {R : β → Prop}

theorem Act.Returns.here (returns : Returns x Q) : ReturnsFrom setting w x Q :=
  returns setting w

theorem Act.ReturnsFrom.after (first : ReturnsFrom setting w x Q)
    (next : ∀ a, Q a → Returns (f a) R) : ReturnsFrom setting w (x >>= f) R := by
  intro b v ran
  obtain ⟨a, u, began, ran⟩ := exec_bind_eq_ok ran
  exact next a (first a u began) _ _ _ _ ran

/-- An object that answers stays as it is. -/
theorem Object.each_steady {receiver : Object} {answer : Act Answer} (here : P receiver)
    (answers : ReturnsFrom setting w answer (Answer.Each P)) :
    ReturnsFrom setting w (receiver.steady answer) (Turn.Each P) := by
  refine answers.after fun answer each => .pure ⟨here, ?_⟩
  rintro _ ⟨⟩
  exact each

end From

/-- What takes the place of an object is what is asked for. -/
theorem Object.each_become {old new : Object} (here : P new) : (old.become new).Returns P :=
  Returns.after (Returns.keep here) fun _ sound => .bind fun _ => .pure sound

/-! ## States -/

namespace State

variable {setting : Setting} {state : State}

namespace Each

theorem set (each : state.Each P) (name : String) {object : Object} (new : P object) (w : World) :
    Each P { state with world := w, slots := state.slots.set name object } := by
  intro slot member
  rcases List.mem_cons.1 member with rfl | old
  · exact new
  · exact each slot (List.mem_of_mem_filter old)

theorem storeAll (each : state.Each P) (name : String) {objects : List Object}
    (new : ∀ object ∈ objects, P object) : (state.storeAll name objects).Each P := by
  have entries : ∀ entry ∈ objects.zipIdx, P entry.1 :=
    fun entry member => new _ (List.fst_mem_of_mem_zipIdx member)
  unfold State.storeAll
  generalize objects.zipIdx = numbered at entries
  induction numbered generalizing state with
  | nil => exact each
  | cons entry numbered ih =>
      obtain ⟨here, there⟩ := List.forall_mem_cons.1 entries
      exact ih (each.set _ here _) there

theorem finish (each : state.Each P) (target : Option String) {outcome : Except Fault Answer}
    (new : ∀ answer, outcome = .ok answer → answer.Each P) :
    (State.finish setting target state outcome).1.Each P := by
  cases outcome with
  | error fault => exact each
  | ok answer =>
      have new := new answer rfl
      show (state.settle target answer).Each P
      unfold State.settle
      split
      · exact each.set _ new _
      · exact each.storeAll _ new
      · exact each

theorem clears (each : state.Each P) (names : List String) :
    (names.foldl State.clear state).Each P :=
  fun slot member => each slot (mem_slots_clears member).1

/-- A query keeps a property if the action that it runs does. -/
theorem ask (each : state.Each P)
    (turns : ∀ {name args slot other slot' act}, state.Poses name args slot other slot' act →
      act.ReturnsFrom setting state.world (Turn.Each P))
    (answers : ∀ {name args act}, sessionQuery? name args = some act →
      act.ReturnsFrom setting state.world (Answer.Each P))
    (receiver other target : Option String) (args : Json) (name : String) :
    (state.ask setting receiver other target args name).1.Each P := by
  cases receiver with
  | none =>
      rcases ask_none_cases setting state other target args name with
        ⟨act, found, asked⟩ | ⟨-, names, asked⟩ | ⟨-, asked⟩
      · rw [asked]
        rcases ran : act.exec setting state.world with ⟨outcome, v⟩
        rw [run_eq ran]
        have here : Each P { state with world := v } := each
        refine here.finish target ?_
        rintro answer rfl
        exact answers found _ _ ran
      · rw [asked]
        exact each.clears names
      · rw [asked]
        exact each
  | some slot =>
      show (state.askSlot setting name slot other target args).1.Each P
      rcases askSlot_cases setting state name slot other target args with
        ⟨slot', act, poses, asked⟩ | ⟨reply, asked, -⟩
      · rw [asked]
        rcases ran : act.exec setting state.world with ⟨fault | t, v⟩
        -- a fault leaves the object as it was
        · rw [turn_error ran]
          exact each
        · rw [turn_ok ran]
          have sound := turns poses _ _ ran
          exact (each.set slot' sound.receiver v).finish target sound.outcome
      · rw [asked]
        exact each

end Each

end State

/-- What every query keeps holds of all objects of a session. -/
theorem Session.Reached.each_slot {setting : Setting} {begin state : State}
    (turns : ∀ {begin state}, Session.Reached setting begin state → state.Each P →
      ∀ {name args slot other slot' act}, state.Poses name args slot other slot' act →
        act.ReturnsFrom setting state.world (Turn.Each P))
    (answers : ∀ {name args act}, State.sessionQuery? name args = some act →
      act.Returns (Answer.Each P))
    (reached : Session.Reached setting begin state) : state.Each P := by
  induction reached with
  | start => exact fun _ absent => absurd absent List.not_mem_nil
  | ask receiver other target args name reached each =>
      exact each.ask (turns reached each) (fun found => (answers found).here) receiver other target
        args name
  | clear name _ each => exact each.clears [name]
  | report _ each => exact each
  | enter _ _ => exact fun _ absent => absurd absent List.not_mem_nil
  | leave _ _ _ each _ => exact each

end SourceAtlas
