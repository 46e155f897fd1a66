import SourceAtlas.Proofs.Queries

/-!
# Hearing

What passes between the library and the engine can be listened to for events of one sort: readings of
constants, visits to children, names that are handed over. What is heard of two parts of a session is
what is heard of the first, and then of the second.
-/

namespace SourceAtlas

/-! ## What is heard -/

/-- The question that an event is, if it is one. -/
def Event.question? : Event → Option Question
  | .asked question _ _ => some question
  | _ => none

/-- The request that an event is, if it is one. -/
def Event.request? : Event → Option Request
  | .requested made => some made
  | _ => none

/-- Whether a listener hears just some things between two stores, the oldest first. -/
def World.Utters (hears : Event → Option β) (heard : List β) (w v : World) : Prop :=
  ∃ events, v.trace = events ++ w.trace ∧ (events.filterMap hears).reverse = heard

namespace World.Utters

variable {u v w : World} {hears : Event → Option β} {earlier later heard : List β}

theorem of_events (events : List Event) (trace : v.trace = events ++ w.trace)
    (all : (events.filterMap hears).reverse = heard) : Utters hears heard w v :=
  ⟨events, trace, all⟩

/-- Nothing is heard of events that are not listened to. -/
theorem talk (events : List Event) (trace : v.trace = events ++ w.trace)
    (silent : ∀ event ∈ events, hears event = none) : Utters hears [] w v :=
  ⟨events, trace, by rw [List.filterMap_eq_nil_iff.2 silent]; rfl⟩

/-- Where nothing is noted, nothing is heard. -/
theorem still (trace : v.trace = w.trace) : Utters hears [] w v :=
  .talk [] trace fun _ absent => absurd absent List.not_mem_nil

theorem refl (w : World) : Utters hears [] w w :=
  .still rfl

/-- An event that is listened to is heard. -/
theorem note {event : Event} {b : β} (heard : hears event = some b) (w : World) :
    Utters hears [b] w (w.note event) :=
  .of_events [event] rfl (by simp [heard])

theorem trans (first : Utters hears earlier w v) (second : Utters hears later v u) :
    Utters hears (earlier ++ later) w u := by
  obtain ⟨older, trace, rfl⟩ := first
  obtain ⟨newer, trace', rfl⟩ := second
  exact ⟨newer ++ older, by rw [trace', trace, List.append_assoc],
    by rw [List.filterMap_append, List.reverse_append]⟩

/-- The silence that follows changes nothing. -/
theorem hush (first : Utters hears earlier w v) (second : Utters hears [] v u) :
    Utters hears earlier w u := by
  simpa using first.trans second

/-- When references are given up, resources may be disposed of. -/
theorem sheds (deaf : ∀ r, hears (.disposed r) = none) (sheds : w.Sheds v) : Utters hears [] w v := by
  obtain ⟨events, trace, given⟩ := sheds.trace
  refine .talk events trace fun event member => ?_
  obtain ⟨r, rfl⟩ := given event member
  exact deaf r

end World.Utters

/-! ## Silence -/

namespace Act

variable {setting : Setting} {hears : Event → Option β}

/-- Whether a listener is deaf to all but requests, and questions that are out of the ordinary. -/
class Selective (hears : Event → Option β) : Prop where
  deaf : ∀ event : Event, event.request? = none →
    (∀ question ∈ event.question?, question.Free) → hears event = none

/-- Whether a listener is deaf to all but questions that are out of the ordinary. -/
class Attentive (hears : Event → Option β) : Prop where
  deaf : ∀ event : Event, (∀ question ∈ event.question?, question.Free) → hears event = none

/-- Whether a listener is deaf to all but visitations. -/
class Visitor (hears : Event → Option β) : Prop where
  deaf : ∀ event : Event, (∀ question ∈ event.question?, question.Plain) → hears event = none

instance [attentive : Attentive hears] : Selective hears where
  deaf event _ free := attentive.deaf event free

instance [visitor : Visitor hears] : Attentive hears where
  deaf event free := visitor.deaf event fun question asked => ⟨(free question asked).plain⟩

/-- What is neither a request nor a question is not heard. -/
theorem Selective.deaf_other [selective : Selective hears] {event : Event}
    (calm : event.request? = none) (other : event.question? = none) : hears event = none :=
  selective.deaf event calm (by simp [other])

/-- What is no question is not heard. -/
theorem Attentive.deaf_other [attentive : Attentive hears] {event : Event}
    (other : event.question? = none) : hears event = none :=
  attentive.deaf event (by simp [other])

theorem Visitor.deaf_plain [visitor : Visitor hears] (question : Question)
    [plain : question.Plain] (operands : List Resource) (memo : Option CellId) :
    hears (.asked question operands memo) = none :=
  visitor.deaf _ fun _ same => Option.some.inj same ▸ plain

theorem utters_ask {question : Question} {operands : List Resource} {memo : Option CellId}
    (deaf : hears (.asked question operands memo) = none) (w : World) :
    w.Utters hears [] ((ask question operands memo).exec setting w).2 :=
  ask_leads (R := World.Utters hears []) .refl w
    (.talk [.asked question operands memo] rfl (List.forall_mem_singleton.2 deaf))

/-- An action is guaranteed to say nothing that is listened to. -/
def hushed (setting : Setting) (hears : Event → Option β) [Selective hears] :
    Guarantee setting where
  Holds x := ∀ w : World, w.Utters hears [] (x.exec setting w).2
  pure _ := .refl
  bind := bind_leads (R := World.Utters hears []) .hush
  read := .refl
  get := .refl
  ask _ _ _ := utters_ask
    (Selective.deaf _ rfl fun _ same => Option.some.inj same ▸ inferInstance)
  takeText text w :=
    .talk [.textTaken w.texts text] rfl (List.forall_mem_singleton.2 (Selective.deaf_other rfl rfl))
  copyText serial _ _ :=
    .talk [.textReturned serial, .textCopied serial _] rfl (List.forall_mem_cons.2
      ⟨Selective.deaf_other rfl rfl, List.forall_mem_singleton.2 (Selective.deaf_other rfl rfl)⟩)

instance [Attentive hears] : (hushed setting hears).Requesting where
  request asked w := request_leads (R := World.Utters hears []) .refl w
    (.talk [.requested asked] rfl (List.forall_mem_singleton.2 (Attentive.deaf_other rfl)))

section Selective

variable [Selective hears]

instance : (hushed setting hears).Counting where
  retain cells w := .still (by rw [exec_update, World.retainAll_eq])
  release cells w := .sheds (fun _ => Selective.deaf_other rfl rfl) (.release w cells)
  alloc resource content w := .still rfl
  acquire kind label w :=
    .talk [.acquired _] rfl (List.forall_mem_singleton.2 (Selective.deaf_other rfl rfl))
  dispose resource w :=
    .talk [.disposed resource] rfl (List.forall_mem_singleton.2 (Selective.deaf_other rfl rfl))
  countIndex w := .still rfl
  countList w := .still rfl
  addUnit table w := .still rfl

instance : (hushed setting hears).Renewing where
  renewUnit unit table w := by
    cases table <;> exact .still rfl

instance : (hushed setting hears).Failing := ⟨fun _ => .refl⟩

instance : (hushed setting hears).Loading := ⟨fun _ => .still rfl⟩

end Selective

/-! ### Answers that are remembered -/

theorem utters_remember [Holder α] (deaf : ∀ r, hears (.disposed r) = none) (w : World)
    (cell : CellId) (slot : MemoSlot α) (answer : α) :
    w.Utters hears [] (w.remember cell slot answer) := by
  unfold World.remember
  split
  next count resource memo found =>
    have put : World.Utters hears [] w
        (w.put cell (some ⟨count, resource, .memo (slot.set memo answer)⟩)) := .still rfl
    exact put.hush (.sheds deaf (.release _ _))
  next => exact .refl w

/-- An answer is asked for if it is not remembered, or if nothing is. -/
theorem exec_memoized [Holder α] (cell : CellId) (slot : MemoSlot α) (answer : Act α) (w : World) :
    (memoized cell slot answer).exec setting w =
      match setting.remembers, slot.get (w.memo cell) with
      | true, some value => (.ok value, w)
      | _, _ => (do
          let value ← answer
          update (·.remember cell slot value)
          return value).exec setting w := by
  unfold memoized
  rw [exec_bind_ok exec_read, exec_bind_ok exec_get]
  cases setting.remembers with
  | false => rfl
  | true => cases slot.get (w.memo cell) <;> rfl

instance [Selective hears] [Holder α] (cell : CellId) (slot : MemoSlot α) (answer : Act α)
    [covered : (hushed setting hears).Covers answer] :
    (hushed setting hears).Covers (memoized cell slot answer) := by
  have (value : α) : (hushed setting hears).Covers (update (·.remember cell slot value)) :=
    ⟨fun w => utters_remember (fun _ => Selective.deaf_other rfl rfl) w cell slot value⟩
  have asks : (hushed setting hears).Covers (do
      let value ← answer
      update (·.remember cell slot value)
      return value) := inferInstance
  refine ⟨fun w => ?_⟩
  rw [exec_memoized]
  split
  next => exact .refl w
  next => exact asks.holds w

/-- Of an answer that is remembered nothing is heard. -/
theorem utters_memoized [Attentive hears] [Holder α] {cell : CellId} {slot : MemoSlot α}
    {answer : Act α} {heard : List β} {w v : World} {a : α}
    (ran : answer.exec setting w = (.ok a, v)) (utters : w.Utters hears heard v) :
    w.Utters hears (if setting.remembers && (slot.get (w.memo cell)).isSome then [] else heard)
      ((memoized cell slot answer).exec setting w).2 := by
  have asks : w.Utters hears heard ((do
      let value ← answer
      update (·.remember cell slot value)
      return value : Act α).exec setting w).2 := by
    rw [exec_bind_ok ran, exec_bind_ok (exec_update _)]
    exact utters.hush (utters_remember (fun _ => Attentive.deaf_other rfl) v cell slot a)
  rw [exec_memoized]
  cases setting.remembers with
  | false => exact asks
  | true =>
      cases slot.get (w.memo cell) with
      | none => exact asks
      | some value => exact .refl w

/-- A silent action adds nothing to what is heard. -/
theorem utters_exec [Selective hears] {x : Act α} [covered : (hushed setting hears).Covers x] {w v : World}
    {outcome : Except Fault α} (ran : x.exec setting w = (outcome, v)) : w.Utters hears [] v := by
  have silent := covered.holds w
  rwa [ran] at silent

end Act

end SourceAtlas
