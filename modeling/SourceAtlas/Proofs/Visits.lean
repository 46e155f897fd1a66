import SourceAtlas.Proofs.Acquire
import SourceAtlas.Proofs.Memo

/-!
# Visits

The engine shows a visitor one node after the other until it is told to stop. The visitor here takes
every node, and stops at the first null one; then nothing of what it has taken is used, and the
defect is reported when the engine has returned.
-/

namespace SourceAtlas

namespace Visit

variable {σ ε : Type}

/-- A visitor that also writes down what it is shown, newest first. -/
def recording (visitor : σ → ε → σ × Bool) (state : σ × List ε) (event : ε) :
    (σ × List ε) × Bool :=
  (((visitor state.1 event).1, event :: state.2), (visitor state.1 event).2)

/-- To write down what is shown does not change what is shown. -/
theorem deliver_recording (visitor : σ → ε → σ × Bool) (state : σ) (seen events : List ε) :
    (deliver (recording visitor) (state, seen) events).1 = deliver visitor state events := by
  induction events generalizing state seen with
  | nil => rfl
  | cons event events ih =>
      simp only [deliver, recording]
      rcases visitor state event with ⟨next, _ | _⟩
      · rfl
      · exact ih next _

/-- The nodes of visits, with their parents. -/
def nodes (visits : List Visit) : List (Nat × Ref) :=
  visits.filterMap fun visit => visit.cursor.map (·, visit.parent)

/-- Whether no visit is of a null cursor. -/
def Sound (visits : List Visit) : Prop :=
  ∀ visit ∈ visits, visit.cursor ≠ none

/-- Where a null cursor is visited, there is a first one. -/
theorem sound_or_null (visits : List Visit) :
    Sound visits ∨ ∃ before parent after, visits = before ++ ⟨none, parent⟩ :: after ∧
      Sound before := by
  induction visits with
  | nil => exact .inl fun _ absent => absurd absent List.not_mem_nil
  | cons visit visits ih =>
      obtain ⟨_ | cursor, parent⟩ := visit
      · exact .inr ⟨[], parent, visits, rfl, fun _ absent => absurd absent List.not_mem_nil⟩
      · rcases ih with sound | ⟨before, null, after, rfl, sound⟩
        · exact .inl (List.forall_mem_cons.2 ⟨nofun, sound⟩)
        · exact .inr ⟨_ :: before, null, after, rfl, List.forall_mem_cons.2 ⟨nofun, sound⟩⟩

/-- Visits without a null cursor are all shown, and all taken. -/
theorem deliver_sound {visits : List Visit} (sound : Sound visits) (collected : Collected)
    (seen rest : List Visit) :
    deliver (recording Collected.add) (collected, seen) (visits ++ rest) =
      deliver (recording Collected.add)
        ({ collected with nodes := (nodes visits).reverse ++ collected.nodes },
          visits.reverse ++ seen) rest := by
  induction visits generalizing collected seen with
  | nil => rfl
  | cons visit visits ih =>
      obtain ⟨here, there⟩ := List.forall_mem_cons.1 sound
      obtain ⟨_ | cursor, parent⟩ := visit
      · exact absurd rfl here
      · refine (ih there _ _).trans ?_
        simp [nodes, Collected.add]

/-- The visitor stops at a null cursor: nothing behind it is shown. -/
theorem deliver_null (collected : Collected) (seen : List Visit) (parent : Ref)
    (rest : List Visit) :
    deliver (recording Collected.add) (collected, seen) (⟨none, parent⟩ :: rest) =
      ({ collected with sawNull := true }, ⟨none, parent⟩ :: seen) :=
  rfl

/-- What the visitor is shown of some visits, in order. -/
def shown (visits : List Visit) : List Visit :=
  (deliver (recording Collected.add) ({}, []) visits).2.reverse

theorem shown_sound {visits : List Visit} (sound : Sound visits) : shown visits = visits := by
  have delivered := deliver_sound sound {} [] []
  rw [List.append_nil] at delivered
  rw [shown, delivered]
  simp [deliver]

theorem shown_null {before : List Visit} (sound : Sound before) (parent : Ref)
    (after : List Visit) :
    shown (before ++ ⟨none, parent⟩ :: after) = before ++ [⟨none, parent⟩] := by
  rw [shown, deliver_sound sound, deliver_null]
  simp

theorem collect_sound {visits : List Visit} (sound : Sound visits) :
    collect visits = .ok (nodes visits) := by
  have delivered := deliver_sound sound {} [] []
  rw [List.append_nil] at delivered
  rw [collect, ← deliver_recording Collected.add {} [] visits, delivered]
  simp [deliver]

theorem collect_null {visits : List Visit} (null : ¬ Sound visits) :
    collect visits = .error .nullCursorVisited := by
  obtain ⟨before, parent, after, rfl, sound⟩ := (sound_or_null visits).resolve_left null
  rw [collect, ← deliver_recording Collected.add {} [] _, deliver_sound sound, deliver_null]
  rfl

end Visit

/-- The visits of the children of a cursor. -/
def Engine.childReports (engine : Engine) (cursor : Ref) : List Visit :=
  (engine.childVisits cursor).map fun (child, parent) => ⟨child, parent⟩

/-- The visits of the fields of a type. They have no parents. -/
def Engine.fieldReports (engine : Engine) (type : Ref) : List Visit :=
  (engine.fieldVisits type).map fun cursor => { cursor }

variable {setting : Setting} {w : World}

namespace Cursor

/-- Handles for the nodes of a visitation are made for all of them, in order. -/
theorem exec_ofVisits (setting : Setting) (nodes : List (Nat × Ref)) (origin : Resource)
    (unit : SourceUnit) (w : World) :
    ∃ cursors v, (ofVisits nodes origin unit).exec setting w = (.ok cursors, v) ∧
      v.trace = w.trace ∧ List.Forall₂ (fun node k => IsNew ⟨some node.1, origin⟩ unit
        (node.2.map fun p => ⟨some p, origin⟩) k) nodes cursors := by
  unfold ofVisits
  induction nodes generalizing w with
  | nil => exact ⟨[], w, rfl, rfl, .nil⟩
  | cons node nodes ih =>
      obtain ⟨cursor, parent⟩ := node
      rw [List.mapM_cons]
      obtain ⟨cursors, v, ran, quiet, others⟩ :=
        ih ((w.alloc none (.memo {})).1.retainAll (refs unit))
      rw [World.retainAll_eq] at quiet
      refine ⟨⟨⟨some cursor, origin⟩, unit, parent.map fun p => ⟨some p, origin⟩, w.cells.size⟩ ::
        cursors, v, ?_, quiet, .cons ⟨rfl, rfl, rfl⟩ others⟩
      rw [Act.exec_bind_ok (exec_make _ _ _), Act.exec_bind_ok ran]
      rfl

/-- The children are visited by one call of the engine. Whether a null cursor was among them is
looked at when the call has returned. -/
theorem exec_children (cursor : Cursor) (loaded : w.loaded = true) :
    cursor.children.exec setting w =
      match Visit.collect (setting.engine.childReports cursor.raw.value) with
      | .ok nodes => (ofVisits nodes cursor.raw.origin cursor.unit).exec setting
          (w.note (.asked (.children cursor.raw.value) [cursor.raw.origin] none))
      | .error panic => (.error (.panic panic),
          w.note (.asked (.children cursor.raw.value) [cursor.raw.origin] none)) := by
  unfold children Raw.ask
  rw [bind_assoc, Act.exec_bind_ok (Act.exec_ask _ _ _ loaded), bind_assoc,
    Act.exec_bind_ok Act.exec_engine, pure_bind]
  unfold Engine.childReports
  cases Visit.collect _ <;> rfl

theorem exec_children_unloaded (cursor : Cursor) (unloaded : w.loaded = false) :
    cursor.children.exec setting w = (.error (.panic .engineNotLoaded), w) :=
  Act.exec_bind_error (Act.exec_bind_error (Act.exec_ask_unloaded _ _ _ unloaded))

end Cursor

namespace SourceType

/-- The fields are visited by one call of the engine as well. -/
theorem exec_fields (type : SourceType) (loaded : w.loaded = true) :
    type.fields.exec setting w =
      match Visit.collect (setting.engine.fieldReports type.raw.value) with
      | .ok nodes => (Cursor.ofVisits nodes type.raw.origin type.unit).exec setting
          (w.note (.asked (.fields type.raw.value) [type.raw.origin] none))
      | .error panic => (.error (.panic panic),
          w.note (.asked (.fields type.raw.value) [type.raw.origin] none)) := by
  unfold fields Raw.ask
  rw [bind_assoc, Act.exec_bind_ok (Act.exec_ask _ _ _ loaded), bind_assoc,
    Act.exec_bind_ok Act.exec_engine, pure_bind]
  unfold Engine.fieldReports
  cases Visit.collect _ <;> rfl

theorem exec_fields_unloaded (type : SourceType) (unloaded : w.loaded = false) :
    type.fields.exec setting w = (.error (.panic .engineNotLoaded), w) :=
  Act.exec_bind_error (Act.exec_bind_error (Act.exec_ask_unloaded _ _ _ unloaded))

end SourceType

end SourceAtlas
