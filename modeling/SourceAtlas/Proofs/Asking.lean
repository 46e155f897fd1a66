import SourceAtlas.Proofs.States

/-!
# Queries in lockstep

A query that is asked in two states that meet ends in states that meet, and gives the same reply. If
a unit may be parsed again, then both runs have to see the same units before and after, and how many
references kept it from being parsed again may differ.
-/

namespace SourceAtlas

open Duo

/-! ## What is observed -/

mutual

/-- What can be observed of a reply to a query, apart from how often the engine was asked. -/
def Reply.observed (name : String) : Reply → Reply
  | .shown value => .shown (if name = "calls" then .null else value)
  | .fault fault => .fault fault.observed
  | .thread transcript => .thread transcript.observed
  | reply => reply

def Reply.observedAll : List String → List Reply → List Reply
  | name :: names, reply :: replies => reply.observed name :: Reply.observedAll names replies
  | _, _ => []

/-- What can be observed of a step, apart from what passed to the engine. -/
def Report.observed : Report → Report
  | .mk names replies _ => .mk names (Reply.observedAll names.toList replies) []

def Report.observedAll : List Report → List Report
  | [] => []
  | report :: reports => report.observed :: Report.observedAll reports

/-- What can be observed of a thread, apart from what passed to the engine. -/
def Transcript.observed : Transcript → Transcript
  | .mk reports _ live texts => .mk (Report.observedAll reports) [] live texts

end

namespace Duo

variable {D : Duo} {base : Facts} {K : Grip} {s s' : State}

/-- A slot is empty in both states, or has alike objects in them. -/
theorem SlotsMatch.get?_cases {slots slots' : Slots} (same : D.SlotsMatch slots slots')
    (name : String) :
    slots.get? name = none ∧ slots'.get? name = none ∨
      ∃ o o', slots.get? name = some o ∧ slots'.get? name = some o' ∧ D.Match o o' := by
  obtain ⟨left, right, alike⟩ := same.get? name
  generalize slots.get? name = a, slots'.get? name = b at left right alike ⊢
  cases alike with
  | none => exact .inl ⟨rfl, rfl⟩
  | some alike => exact .inr ⟨_, _, rfl, rfl, left _ rfl, right _ rfl, alike⟩

namespace Meets

/-- What is in a slot can be used. -/
theorem pair {o o' : Object} {name : String} (meets : D.Meets base K s s')
    (found : s.slots.get? name = some o) (found' : s'.slots.get? name = some o')
    (same : D.Match o o') : D.Pair (K.add s.slots.objects s'.slots.objects) o o' := by
  have usable := same.some.pair
    (K.add (s.slots.erase name).objects (s'.slots.erase name).objects)
  rw [← found, ← found', ← Grip.add_split K meets.distinct meets.distinct' name, found, found']
    at usable
  exact ⟨⟨usable.left.coherent _ rfl, usable.left.within⟩,
    ⟨usable.right.coherent _ rfl, usable.right.within⟩, same.alike⟩

/-- Objects that are asked something other than to parse a unit again give the same reply. -/
theorem askSlot (meets : D.Meets base K s s') {name slot : String} {other : Option String}
    (still : other = none → ∀ o, s.slots.get? slot = some o → ¬ o.Reparses name)
    (target : Option String) (args : Json) :
    D.Meets base K (s.askSlot (D.left.setting D.engine) name slot other target args).1
        (s'.askSlot (D.right.setting D.engine) name slot other target args).1 ∧
      (s.askSlot (D.left.setting D.engine) name slot other target args).2 =
        (s'.askSlot (D.right.setting D.engine) name slot other target args).2 := by
  unfold State.askSlot
  rcases meets.slots.get?_cases slot with ⟨found, found'⟩ | ⟨o, o', found, found', same⟩
  · rw [found, found']
    exact ⟨meets, rfl⟩
  rw [found, found']
  cases other with
  | some second =>
      dsimp only
      rcases meets.slots.get?_cases second with ⟨absent, absent'⟩ | ⟨p, p', there, there', alike⟩
      · rw [absent, absent']
        exact ⟨meets, rfl⟩
      rw [there, there']
      -- it is the second object that takes the turn; the first one is held beside it
      have first := meets.pair found found' same
      rw [Grip.add_split K meets.distinct meets.distinct' second, there, there'] at first
      have turns : Option.Rel (D.Turns (K.add (s.slots.erase second).objects
          (s'.slots.erase second).objects) p p') ((PairQuery.ofName? name).bind (o.pairTurn? p))
          ((PairQuery.ofName? name).bind (o'.pairTurn? p')) := by
        cases PairQuery.ofName? name with
        | none => exact .none
        | some query => exact rel_pairTurn? first alike query
      dsimp only
      generalize (PairQuery.ofName? name).bind (o.pairTurn? p) = x,
        (PairQuery.ofName? name).bind (o'.pairTurn? p') = y at turns ⊢
      cases turns with
      | none => exact ⟨meets, rfl⟩
      | some turns => exact meets.turn there there' turns target
  | none =>
      dsimp only
      split
      next =>
        rw [Object.isClonable_eq same.alike]
        split
        next => exact meets.turn found found' (turns_clone same) target
        next => exact ⟨meets, rfl⟩
      next =>
        have turns := rel_turn? (H := K.add (s.slots.erase slot).objects
          (s'.slots.erase slot).objects) same name args (still rfl o found)
        generalize o.turn? name args = x, o'.turn? name args = y at turns ⊢
        cases turns with
        | none => exact ⟨meets, rfl⟩
        | some turns => exact meets.turn found found' turns target

/-- The session that is asked for the same gives the same reply. -/
theorem give {x y : Act Answer} (meets : D.Meets base K s s')
    (gives : D.Gives (K.add s.slots.objects s'.slots.objects)
      (K.add s.slots.objects s'.slots.objects) x y) (target : Option String) :
    D.Meets base K
        (State.finish (D.left.setting D.engine) target (s.run (D.left.setting D.engine) x).1
          (s.run (D.left.setting D.engine) x).2).1
        (State.finish (D.right.setting D.engine) target (s'.run (D.right.setting D.engine) y).1
          (s'.run (D.right.setting D.engine) y).2).1 ∧
      (State.finish (D.left.setting D.engine) target (s.run (D.left.setting D.engine) x).1
          (s.run (D.left.setting D.engine) x).2).2 =
        (State.finish (D.right.setting D.engine) target (s'.run (D.right.setting D.engine) y).1
          (s'.run (D.right.setting D.engine) y).2).2 := by
  rcases gives base _ _ meets.holds with
    ⟨a, a', v, v', ran, ran', same, holds⟩ | ⟨fault, v, v', ran, ran', holds⟩
  · rw [State.run_eq ran, State.run_eq ran']
    have after : D.Meets base (K.add (Except.ok a : Except Fault Answer) (.ok a'))
        { s with world := v } { s' with world := v' } := by
      refine ⟨meets.slots, meets.distinct, ?_⟩
      rw [Grip.add_right_comm]
      exact holds
    exact after.finish same.ok target
  · rw [State.run_eq ran, State.run_eq ran']
    exact ⟨⟨meets.slots, meets.distinct, holds⟩, rfl⟩

/-- How often the engine was asked is told without a change. -/
theorem calls (meets : D.Meets base K s s') (target : Option String) (value value' : Json) :
    D.Meets base K (State.finish (D.left.setting D.engine) target s (.ok (.plain value))).1
      (State.finish (D.right.setting D.engine) target s' (.ok (.plain value'))).1 := by
  have settled (s : State) (value : Json) :
      s.settle target (.plain value) = s.settle target (.plain .null) := by
    cases target <;> rfl
  show D.Meets base K (s.settle target (.plain value)) (s'.settle target (.plain value'))
  rw [settled, settled s']
  refine settle ?_ (Match.plain .null) target
  rwa [Grip.add_eq K rfl rfl]

end Meets

end Duo

/-! ## Parsing again -/

namespace State

variable {setting : Setting} {state : State} {slot : String} {u : SourceUnit} {v : World}
variable {args : Json} {unsaved : List UnsavedFile} {options : Option UInt32}

/-- A unit in a slot that is asked to parse itself again. -/
theorem askSlot_reparse (found : state.slots.get? slot = some (.unit u))
    (asks : UnitQuery.ofName? "reparse" args = some (.reparse unsaved options))
    (setting : Setting) (target : Option String) :
    state.askSlot setting "reparse" slot none target args =
      state.turn setting slot target
        ((Object.unit u).steady (u.answer (.reparse unsaved options))) := by
  unfold askSlot
  rw [found]
  dsimp only
  rw [if_neg (by decide), Object.turn?, asks]
  rfl

theorem turn_reparse_ok (ran : (u.reparse unsaved options).exec setting state.world = (.ok (), v))
    (slot : String) (target : Option String) :
    state.turn setting slot target ((Object.unit u).steady (u.answer (.reparse unsaved options))) =
      finish setting target { state with world := v, slots := state.slots.set slot (.unit u) }
        (.ok .null) :=
  turn_ok (t := ⟨.unit u, .ok .null⟩) (Act.exec_bind_ok (Act.exec_bind_ok ran)) slot target

theorem turn_reparse_error {fault : Fault}
    (ran : (u.reparse unsaved options).exec setting state.world = (.error fault, v))
    (slot : String) (target : Option String) :
    state.turn setting slot target ((Object.unit u).steady (u.answer (.reparse unsaved options))) =
      ({ state with world := v }, .fault fault) :=
  turn_error (Act.exec_bind_error (Act.exec_bind_error ran)) slot target

end State

namespace Duo

variable {D : Duo} {base : Facts} {K : Grip} {s s' : State}

/-- Whether two states meet in which nothing is held but what is in the slots. -/
def Meet (D : Duo) (s s' : State) : Prop :=
  ∃ base, D.Meets base 0 s s'

/-- Whether units may be parsed again by both runs. Either spellings are kept, or the two runs are
one. -/
def Calm (D : Duo) (s s' : State) : Prop :=
  D.shift = {} ∧ (D.engine.KeepsSpelling ∨ D.left = D.right ∧ s = s')

/-- Alike values are within reach of corresponding things. -/
theorem Match.twin [Holder α] [Likeness α] [Entity α] {a b : α} (same : D.Match a b) :
    D.Twin (Grip.add 0 a b) where
  left := by
    show Accompanied (owners a + 0)
    rw [add_zero]
    exact accompanied_owners a
  right := by
    show Accompanied (owners b + 0)
    rw [add_zero]
    exact accompanied_owners b
  lends := by
    show ∀ r', SourceAtlas.Lends (owners b + 0) r' ↔ ∃ r, SourceAtlas.Lends (owners a + 0) r ∧ _
    rw [add_zero, add_zero]
    exact (Entity.twins same.left same.right same.alike).lends

/-- A unit that is parsed again gives the same reply, apart from the number of references. -/
theorem Meets.reparse {u u' : SourceUnit} {slot : String} (meets : D.Meets base 0 s s')
    (found : s.slots.get? slot = some (.unit u)) (found' : s'.slots.get? slot = some (.unit u'))
    (same : D.Match u u') (calm : D.Calm s s') (unsaved : List UnsavedFile)
    (options : Option UInt32) (name : String) (target : Option String) :
    D.Meet
        (s.turn (D.left.setting D.engine) slot target
          ((Object.unit u).steady (u.answer (.reparse unsaved options)))).1
        (s'.turn (D.right.setting D.engine) slot target
          ((Object.unit u').steady (u'.answer (.reparse unsaved options)))).1 ∧
      (s.turn (D.left.setting D.engine) slot target
          ((Object.unit u).steady (u.answer (.reparse unsaved options)))).2.observed name =
        (s'.turn (D.right.setting D.engine) slot target
          ((Object.unit u').steady (u'.answer (.reparse unsaved options)))).2.observed name := by
  let rest : Grip := Grip.add 0 (s.slots.erase slot).objects (s'.slots.erase slot).objects
  have before (unit unit' : SourceUnit) :
      rest.add (some (Object.unit unit)) (some (Object.unit unit')) = rest.add unit unit' := rfl
  have agrees : D.Agrees (rest.add u u') s.world s'.world := by
    have holds := meets.split slot
    rw [found, found', before] at holds
    exact ⟨base, holds⟩
  -- where spellings may change, the two runs have to be one
  have calm' : D.engine.KeepsSpelling ∨
      D.left = D.right ∧ rest.1 = rest.2 ∧ u = u' ∧ s.world = s'.world := by
    refine calm.2.imp id ?_
    rintro ⟨sides, rfl⟩
    cases found.symm.trans found'
    exact ⟨sides, rfl, rfl, rfl⟩
  have twin := (meets.slots.erase slot).objects.twin
  rcases agrees.reparse same twin calm.1 calm' unsaved options with
    ⟨v, v', ran, ran', later, holds⟩ | ⟨fault, fault', v, v', ran, ran', observed, later, holds⟩
  · rw [State.turn_reparse_ok ran, State.turn_reparse_ok ran']
    have object : D.Match (Object.unit u) (.unit u') := same.wrapped
    have null : D.Match (Except.ok Answer.null : Except Fault Answer) (.ok .null) :=
      (Match.plain .null).ok
    refine (finish ⟨meets.slots.set slot object, meets.distinct.set slot _, ?_⟩ null target).imp
      (Exists.intro later) (congrArg _)
    rw [Grip.add_set, Grip.add_eq 0 rfl rfl]
    exact holds
  · rw [State.turn_reparse_error ran, State.turn_reparse_error ran']
    refine ⟨⟨later, meets.slots, meets.distinct, ?_⟩, congrArg Reply.fault observed⟩
    rw [Grip.add_split 0 meets.distinct meets.distinct' slot, found, found', before]
    exact holds

/-- The session that is asked anything but to parse a unit again gives the same reply, as far as it can
be observed. -/
theorem Meets.ask (meets : D.Meets base 0 s s') {receiver other : Option String} {name : String}
    (still : ∀ slot, receiver = some slot → other = none → ∀ o, s.slots.get? slot = some o →
      ¬ o.Reparses name) (target : Option String) (args : Json) :
    D.Meets base 0 (s.ask (D.left.setting D.engine) receiver other target args name).1
        (s'.ask (D.right.setting D.engine) receiver other target args name).1 ∧
      (s.ask (D.left.setting D.engine) receiver other target args name).2.observed name =
        (s'.ask (D.right.setting D.engine) receiver other target args name).2.observed name := by
  unfold State.ask
  cases receiver with
  | some slot => exact (meets.askSlot (still slot rfl) target args).imp id (congrArg _)
  | none =>
      dsimp only
      split
      next => exact ⟨meets.clears _, rfl⟩
      by_cases counted : name = "calls"
      · subst counted
        exact ⟨meets.calls target _ _, rfl⟩
      have twin := meets.slots.objects.twin
      have answers := State.rel_sessionQuery? (H := Grip.add 0 s.slots.objects s'.slots.objects)
        name args counted fun holds => holds.live_eq twin.left twin.right twin.lends
      generalize State.sessionQuery? name args = x, State.sessionQuery? name args = y at answers ⊢
      cases answers with
      | none => exact ⟨meets, rfl⟩
      | some gives => exact (meets.give gives target).imp id (congrArg _)

namespace Meet

/-- An object that is asked anything gives the same reply, as far as it can be observed. -/
theorem observed_askSlot (meet : D.Meet s s') (calm : D.Calm s s') (name slot : String)
    (other target : Option String) (args : Json) :
    D.Meet (s.askSlot (D.left.setting D.engine) name slot other target args).1
        (s'.askSlot (D.right.setting D.engine) name slot other target args).1 ∧
      (s.askSlot (D.left.setting D.engine) name slot other target args).2.observed name =
        (s'.askSlot (D.right.setting D.engine) name slot other target args).2.observed name := by
  obtain ⟨base, meets⟩ := meet
  by_cases still : other = none → ∀ o, s.slots.get? slot = some o → ¬ o.Reparses name
  · exact (meets.askSlot still target args).imp (Exists.intro base) (congrArg _)
  push Not at still
  obtain ⟨rfl, o, found, ⟨u, rfl⟩, rfl⟩ := still
  rcases meets.slots.get?_cases slot with ⟨absent, -⟩ | ⟨o, o', there, found', same⟩
  · exact nomatch absent.symm.trans found
  cases found.symm.trans there
  obtain ⟨u', rfl⟩ : ∃ u', o' = .unit u' := by
    have alike := same.alike
    cases o' <;> first | exact ⟨_, rfl⟩ | exact alike.elim
  obtain ⟨unsaved, options, asked⟩ : ∃ unsaved options,
      UnitQuery.ofName? "reparse" args = some (.reparse unsaved options) := ⟨_, _, rfl⟩
  rw [State.askSlot_reparse found asked, State.askSlot_reparse found' asked]
  exact meets.reparse found found' ⟨same.left, same.right, same.alike⟩ calm unsaved options _
    target

/-- The session that is asked anything gives the same reply, as far as it can be observed. -/
theorem ask (meet : D.Meet s s') (calm : D.Calm s s') (receiver other target : Option String)
    (args : Json) (name : String) :
    D.Meet (s.ask (D.left.setting D.engine) receiver other target args name).1
        (s'.ask (D.right.setting D.engine) receiver other target args name).1 ∧
      (s.ask (D.left.setting D.engine) receiver other target args name).2.observed name =
        (s'.ask (D.right.setting D.engine) receiver other target args name).2.observed name := by
  cases receiver with
  | some slot => exact meet.observed_askSlot calm name slot other target args
  | none =>
      obtain ⟨base, meets⟩ := meet
      have still (slot : String) (absent : (none : Option String) = some slot) : other = none →
          ∀ o, s.slots.get? slot = some o → ¬ o.Reparses name := nomatch absent
      exact (meets.ask still target args).imp (Exists.intro base) id

end Meet

end Duo

end SourceAtlas
