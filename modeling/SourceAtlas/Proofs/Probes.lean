import SourceAtlas.Proofs.Hearing

/-!
# Engines that cannot be asked everything

Some engines are too old to be asked about some properties of cursors. Beside such an engine stands
one that can be asked about all of them, and which says of no cursor that it has one of those. An
action does the same with both engines, but for what the newer one is asked about these properties:
the older one is not asked, and the store looks as if that part of the trace had been forgotten.
Whether an action is so is read off from what it is made of.
-/

namespace SourceAtlas

/-! ## Engines that can be asked everything -/

/-- A cursor that has none of some properties. -/
def CursorEntry.mute (entry : CursorEntry) (flags : List CursorFlag) : CursorEntry :=
  { entry with flag := fun flag => entry.flag flag && !flags.contains flag }

namespace Engine

variable (engine : Engine)

/-- The engine as it would be if it could be asked about all properties, and said of no cursor that
it has one of those that the engine cannot be asked about. -/
def completed : Engine where
  tables := { engine.tables with
    cursors := engine.tables.cursors.map fun entry => entry.mute engine.absent }
  missing := []

theorem supports_eq_false_iff (flag : CursorFlag) :
    engine.supports flag = false ↔ ∃ recent ∈ engine.missing, recent.flag = flag := by
  simp [supports, absent]

variable (c : Ref)

theorem completed_supports (flag : CursorFlag) : engine.completed.supports flag = true := rfl

theorem completed_cursor : engine.completed.cursor c = (engine.cursor c).mute engine.absent := by
  cases c with
  | none => rfl
  | some i =>
      show (engine.tables.cursors.map _)[i]?.getD _ = (engine.tables.cursors[i]?.getD _).mute _
      rw [Array.getElem?_map]
      cases engine.tables.cursors[i]? <;> rfl

theorem completed_flag (flag : CursorFlag) :
    (engine.completed.cursor c).flag flag =
      ((engine.cursor c).flag flag && engine.supports flag) := by
  rw [completed_cursor]
  rfl

/-! What else the engine is asked about cursors, it answers in the same way. -/

theorem completed_cursorText (text : CursorText) :
    engine.completed.cursorText c text = engine.cursorText c text := by
  unfold cursorText
  rw [completed_cursor]
  rfl

theorem completed_cursorLink (link : CursorLink) :
    engine.completed.cursorLink c link = engine.cursorLink c link := by
  unfold cursorLink
  rw [completed_cursor]
  rfl

theorem completed_cursorHash : engine.completed.cursorHash c = engine.cursorHash c := by
  unfold cursorHash
  rw [completed_cursor]
  rfl

theorem completed_sameCursor (d : Ref) :
    engine.completed.sameCursor c d = engine.sameCursor c d := by
  unfold sameCursor cursorNumber
  rw [completed_cursor, completed_cursor]
  rfl

theorem completed_childVisits : engine.completed.childVisits c = engine.childVisits c := by
  unfold childVisits
  rw [completed_cursor]
  rfl

theorem completed_cursorArgument (i : Nat) :
    engine.completed.cursorArgument c i = engine.cursorArgument c i := by
  unfold cursorArgument
  rw [completed_cursor]
  rfl

theorem completed_templateArgumentCount :
    engine.completed.templateArgumentCount c = engine.templateArgumentCount c := by
  unfold templateArgumentCount
  rw [completed_cursor]
  rfl

theorem completed_templateArgument (i : Nat) :
    engine.completed.templateArgument c i = engine.templateArgument c i := by
  unfold templateArgument
  rw [completed_cursor]
  rfl

theorem bound_completed (walk : Walk) : walk.bound engine.completed = walk.bound engine := by
  unfold Walk.bound completed
  dsimp only
  rw [Array.foldl_map, Array.size_map]
  rfl

theorem describe_completed (w : World) (object : Object) :
    engine.completed.describe w object = engine.describe w object := by
  cases object with
  | cursor cursor =>
      simp only [describe, completed_cursorText, completed_cursor]
      rfl
  | _ => rfl

end Engine

/-! ## What an older engine is not asked -/

/-- The property that a question is about, if it is about one. -/
@[reducible] def Question.flag? : Question → Option CursorFlag
  | .cursorFlag flag => some flag
  | _ => none

/-- The property that the engine is asked about. -/
def Event.flag? : Event → Option CursorFlag
  | .asked question _ _ => question.flag?
  | _ => none

/-- Whether an event asks about none of some properties. -/
def Event.spares (flags : List CursorFlag) (event : Event) : Bool :=
  !event.flag?.any flags.contains

theorem Event.spares_iff {flags : List CursorFlag} {event : Event} :
    event.spares flags = true ↔ ∀ flag ∈ event.flag?, flag ∉ flags := by
  unfold spares
  cases event.flag? <;> simp

theorem Event.spares_asked (flags : List CursorFlag) (question : Question)
    [apart : IsAbsent question.flag?] (operands : List Resource) (memo : Option CellId) :
    (Event.asked question operands memo).spares flags = true := by
  rw [spares, flag?, apart.absent]
  rfl

namespace World

variable (flags : List CursorFlag) (w : World)

/-- The store as it would be if some properties had never been asked about. -/
def forget : World :=
  { w with trace := w.trace.filter (·.spares flags) }

theorem forget_note {event : Event} (spared : event.spares flags = true) :
    (w.forget flags).note event = (w.note event).forget flags := by
  simp only [forget, note, List.filter_cons_of_pos spared]

theorem forget_note_probe {flag : CursorFlag} (probed : flag ∈ flags) (operands : List Resource)
    (memo : Option CellId) :
    (w.note (.asked (.cursorFlag flag) operands memo)).forget flags = w.forget flags := by
  have unspared : ¬(Event.asked (.cursorFlag flag) operands memo).spares flags = true := by
    simpa [Event.spares, Event.flag?] using probed
  simp only [forget, note, List.filter_cons_of_neg unspared]

theorem forget_retainAll (cells : CellRefs) :
    (w.forget flags).retainAll cells = (w.retainAll cells).forget flags := by
  induction cells generalizing w with
  | nil => rfl
  | cons cell cells ih =>
      have step : (w.forget flags).retain cell = (w.retain cell).forget flags := by
        unfold retain
        rw [show (w.forget flags).find? cell = w.find? cell from rfl]
        split <;> rfl
      show ((w.forget flags).retain cell).retainAll cells = _
      rw [step, ih]
      rfl

theorem forget_release (cells : CellRefs) :
    (w.forget flags).release cells = (w.release cells).forget flags := by
  induction w, cells using World.release.induct with
  | case1 w => rw [release_nil, release_nil]
  | case2 w cell rest freed ih =>
      have freed' : (w.forget flags).find? cell = none := freed
      rw [release_freed freed, release_freed freed', ih]
  | case3 w cell rest entry found shared ih =>
      have found' : (w.forget flags).find? cell = some entry := found
      rw [release_shared found shared, release_shared found' shared, ← ih]
      rfl
  | case4 w cell rest entry found last ih =>
      have found' : (w.forget flags).find? cell = some entry := found
      rw [release_last found last, release_last found' last, ← ih]
      cases entry.resource <;> rfl

theorem forget_remember [Holder α] (cell : CellId) (slot : MemoSlot α) (answer : α) :
    (w.forget flags).remember cell slot answer = (w.remember cell slot answer).forget flags := by
  unfold remember
  rw [show (w.forget flags).find? cell = w.find? cell from rfl]
  split
  next count resource memo found => exact forget_release flags (w.put cell _) _
  next => rfl

theorem forget_setUnitSpelling (cell : CellId) (spelling : String) :
    (w.forget flags).setUnitSpelling cell spelling =
      (w.setUnitSpelling cell spelling).forget flags := by
  unfold setUnitSpelling
  rw [show (w.forget flags).find? cell = w.find? cell from rfl]
  split <;> rfl

theorem forget_retable (unit : Resource) (table : Option Nat) :
    (w.forget flags).retable unit table = (w.retable unit table).forget flags := by
  cases table <;> rfl

end World

/-! Questions about properties are not counted, and take no texts. -/

theorem countQuestions_forget (flags : List CursorFlag) (w : World) :
    countQuestions (w.forget flags).trace = countQuestions w.trace := by
  have counted : (w.forget flags).trace.filterMap Event.countedAs? =
      w.trace.filterMap Event.countedAs? := by
    rw [World.forget, List.filterMap_filter]
    refine List.filterMap_congr fun event _ => ?_
    cases spared : event.spares flags with
    | true => rfl
    | false =>
        cases event with
        | asked question =>
            cases question <;> first | rfl | cases spared
        | _ => rfl
  unfold countQuestions
  rw [counted]

theorem outstandingTexts_forget (flags : List CursorFlag) (w : World) :
    outstandingTexts (w.forget flags).trace = outstandingTexts w.trace := by
  unfold outstandingTexts World.forget
  generalize (0 : Int) = sum
  induction w.trace generalizing sum with
  | nil => rfl
  | cons event events ih =>
      cases spared : event.spares flags with
      | true =>
          rw [List.filter_cons_of_pos spared]
          exact ih _
      | false =>
          rw [List.filter_cons_of_neg (by simp [spared])]
          refine (ih _).trans ?_
          cases event <;> first | rfl | cases spared

namespace Act

/-! ## Two engines side by side -/

variable {engine : Engine} {remembers : Bool} {w : World} {α β : Type}
variable {x y : Act α} {f : α → Act β}

/-- Whether an action does the same on a store with an engine and with the one beside it that can be
asked everything. What only the newer one is asked is forgotten. -/
def AgreesAt (engine : Engine) (remembers : Bool) (w : World) (x : Act α) : Prop :=
  x.exec ⟨engine, remembers⟩ (w.forget engine.absent) =
    ((x.exec ⟨engine.completed, remembers⟩ w).1,
      (x.exec ⟨engine.completed, remembers⟩ w).2.forget engine.absent)

theorem AgreesAt.bind (first : AgreesAt engine remembers w x)
    (next : ∀ a v, x.exec ⟨engine.completed, remembers⟩ w = (.ok a, v) →
      AgreesAt engine remembers v (f a)) : AgreesAt engine remembers w (x >>= f) := by
  unfold AgreesAt at first ⊢
  rw [exec_bind, exec_bind, first]
  rcases ran : x.exec ⟨engine.completed, remembers⟩ w with ⟨fault | a, v⟩
  · rfl
  · exact next a v ran

/-- Whether an action does the same with older engines and with newer ones. -/
class Ageless (x : Act α) : Prop where
  agrees : ∀ engine remembers w, AgreesAt engine remembers w x

namespace Ageless

theorem bind (first : Ageless x) (next : ∀ a, Ageless (f a)) : Ageless (x >>= f) :=
  ⟨fun engine remembers w => (first.agrees engine remembers w).bind fun a v _ =>
    (next a).agrees engine remembers v⟩

/-! What is read need not be the same for both engines, but what follows it has to be. -/

theorem ofEngine {f : Engine → Act β} (same : ∀ engine, f engine.completed = f engine)
    (next : ∀ engine, Ageless (f engine)) : Ageless (Act.engine >>= f) where
  agrees engine remembers w := by
    have agrees := (next engine).agrees engine remembers w
    unfold AgreesAt at agrees ⊢
    rw [exec_bind_ok exec_engine, exec_bind_ok exec_engine, agrees, same]

theorem ofSetting {f : Setting → Act β}
    (same : ∀ engine remembers, f ⟨engine.completed, remembers⟩ = f ⟨engine, remembers⟩)
    (next : ∀ setting, Ageless (f setting)) : Ageless (read >>= f) where
  agrees engine remembers w := by
    have agrees := (next ⟨engine, remembers⟩).agrees engine remembers w
    unfold AgreesAt at agrees ⊢
    rw [exec_bind_ok exec_read, exec_bind_ok exec_read, agrees, same]

theorem ofStore {f : World → Act β} (same : ∀ flags w, f (w.forget flags) = f w)
    (next : ∀ w, Ageless (f w)) : Ageless (get >>= f) where
  agrees engine remembers w := by
    have agrees := (next w).agrees engine remembers w
    unfold AgreesAt at agrees ⊢
    rw [exec_bind_ok exec_get, exec_bind_ok exec_get, same]
    exact agrees

/-- A change to the store that does not look at what the engine was asked about. -/
theorem updates {f : World → World} (same : ∀ flags w, f (w.forget flags) = (f w).forget flags) :
    Ageless (update f) where
  agrees engine _ w := by
    show (_, _) = (_, _)
    rw [same]
    rfl

theorem updatesGet {f : World → World × α}
    (same : ∀ flags w, f (w.forget flags) = ((f w).1.forget flags, (f w).2)) :
    Ageless (updateGet f) where
  agrees engine remembers w := by
    show (_, _) = (_, _)
    rw [same]
    rfl

end Ageless

/-! ## Putting actions together -/

instance (a : α) : Ageless (pure a : Act α) := ⟨fun _ _ _ => rfl⟩

instance [first : Ageless x] [next : ∀ a, Ageless (f a)] : Ageless (x >>= f) := first.bind next

instance {g : α → β} [first : Ageless x] : Ageless (g <$> x) := by
  rw [← bind_pure_comp]
  infer_instance

instance (c : Prop) [Decidable c] [Ageless x] [Ageless y] : Ageless (if c then x else y) := by
  split <;> infer_instance

instance (list : List α) [each : ∀ a, Ageless (f a)] : Ageless (list.mapM f) := by
  induction list with
  | nil => exact inferInstanceAs (Ageless (pure []))
  | cons a rest ih =>
      rw [List.mapM_cons]
      infer_instance

instance (value : Option α) [each : ∀ a, Ageless (f a)] : Ageless (value.mapM f) := by
  cases value with
  | none => exact inferInstanceAs (Ageless (pure none))
  | some a => exact inferInstanceAs (Ageless (some <$> f a))

/-! ## Small actions -/

instance (fault : Fault) : Ageless (throw fault : Act α) := ⟨fun _ _ _ => rfl⟩

instance : Ageless requireLoaded :=
  .ofStore (fun _ _ => rfl) fun _ => by split <;> infer_instance

instance (asked : Request) : Ageless (request asked) :=
  .bind inferInstance fun _ => .updates fun _ _ => rfl

instance (question : Question) [IsAbsent question.flag?] (operands : List Resource)
    (memo : Option CellId) : Ageless (ask question operands memo) :=
  .bind inferInstance fun _ => .updates fun flags w =>
    w.forget_note flags (Event.spares_asked flags question operands memo)

instance : Ageless load := .updates fun _ _ => rfl

instance (told : EngineText) : Ageless (takeText told) := .updatesGet fun _ _ => rfl

instance (serial : Nat) (told : EngineText) : Ageless (copyText serial told) :=
  .bind (.updates fun _ _ => rfl) fun _ => .bind (.updates fun _ _ => rfl) inferInstance

instance (told : EngineText) : Ageless (text? told) := by
  unfold text?; infer_instance

instance (told : EngineText) : Ageless (text told) := by
  unfold text; infer_instance

instance (unit : Resource) : Ageless (table unit) :=
  .ofStore (fun _ _ => rfl) inferInstance

/-! ### Faults -/

instance (failure : Failure) : Ageless (fail failure : Act α) :=
  inferInstanceAs (Ageless (throw _))

/-- Nothing follows a failure. -/
instance (failure : Failure) : Ageless (fail failure >>= f) := ⟨fun _ _ _ => rfl⟩

instance (result : Except Failure α) : Ageless (ofExcept result) := by
  cases result <;> unfold ofExcept <;> infer_instance

instance (result : Except Panic α) : Ageless (ofPanic result) := by
  cases result <;> unfold ofPanic <;> infer_instance

instance (texts : List Bytes) : Ageless (checkTexts texts) := by
  unfold checkTexts
  split <;> infer_instance

instance [ageless : Ageless x] : Ageless (attempt x) where
  agrees engine remembers w := by
    have agrees := ageless.agrees engine remembers w
    unfold AgreesAt at agrees ⊢
    rw [exec_attempt, exec_attempt, agrees]

/-! ### References -/

instance [Holder α] (value : α) : Ageless (keep value) :=
  .bind (.updates fun flags w => w.forget_retainAll flags _) inferInstance

instance [Holder α] (value : α) : Ageless (drop value) :=
  .updates fun flags w => w.forget_release flags _

instance (resource : Option Resource) (content : Content) : Ageless (newCell resource content) :=
  .bind inferInstance fun _ => .updatesGet fun _ _ => rfl

instance (kind : ResourceKind) (label : Nat) : Ageless (acquire kind label) :=
  .updatesGet fun _ _ => rfl

instance (resource : Resource) : Ageless (dispose resource) := .updates fun _ _ => rfl

/-! ### Memory -/

instance [Holder α] (cell : CellId) (slot : MemoSlot α) (answer : α) :
    Ageless (update (·.remember cell slot answer)) :=
  .updates fun flags w => w.forget_remember flags cell slot answer

instance [Holder α] (cell : CellId) (slot : MemoSlot α) [Ageless x] :
    Ageless (memoized cell slot x) :=
  .ofSetting (fun _ _ => rfl) fun _ => .ofStore (fun _ _ => rfl) fun _ => by
    split <;> infer_instance

end Act

open Act

namespace Raw

variable {α β : Type} {raw : Raw α} {question : Question} {memo : Option CellId}

/-! What the engine is asked about a value is told in the same way if it is no such property. -/

theorem ageless_ask [IsAbsent question.flag?] {answer : Engine → α → β}
    (same : ∀ engine, answer engine.completed raw.value = answer engine raw.value) :
    Ageless (raw.ask question answer memo) :=
  .bind inferInstance fun _ => .ofEngine (fun engine => congrArg pure (same engine)) inferInstance

theorem ageless_derive [IsAbsent question.flag?] {answer : Engine → α → β}
    (same : ∀ engine, answer engine.completed raw.value = answer engine raw.value) :
    Ageless (raw.derive question answer memo) :=
  .bind (ageless_ask same) inferInstance

theorem ageless_askText? [IsAbsent question.flag?] {answer : Engine → α → EngineText}
    (same : ∀ engine, answer engine.completed raw.value = answer engine raw.value) :
    Ageless (raw.askText? question answer memo) :=
  .bind (ageless_ask same) inferInstance

theorem ageless_askText [IsAbsent question.flag?] {answer : Engine → α → EngineText}
    (same : ∀ engine, answer engine.completed raw.value = answer engine raw.value) :
    Ageless (raw.askText question answer memo) :=
  .bind (ageless_ask same) inferInstance

end Raw

end SourceAtlas
