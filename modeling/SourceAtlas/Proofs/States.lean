import SourceAtlas.Proofs.Reparse

/-!
# States in lockstep

Two states of a session meet if their slots hold alike objects under the same names and their stores
agree. Storing, clearing and showing objects keeps them so, and so does a query, whose reply is then
the same.
-/

namespace SourceAtlas

open Duo

/-! ## Slots -/

namespace Slots

/-- The objects in all slots. -/
def objects (slots : Slots) : List Object :=
  slots.map (·.2)

/-- What all slots refer to are the cells of their owners. -/
theorem coe_refs (slots : Slots) :
    (refs slots : Multiset CellId) = (owners slots.objects : Held).map Owner.cell := by
  rw [Multiset.map_coe, ← Entity.refs_eq]
  exact congrArg _ (List.flatMap_map Prod.snd refs slots).symm

/-- Whether no two slots have one name. -/
def Distinct (slots : Slots) : Prop :=
  (slots.map (·.1)).Nodup

theorem erase_of_absent {slots : Slots} {name : String} (absent : name ∉ slots.map (·.1)) :
    slots.erase name = slots := by
  refine List.filter_eq_self.2 fun slot member => ?_
  simp only [bne_iff_ne, ne_eq]
  rintro rfl
  exact absent (List.mem_map_of_mem member)

/-- What all slots hold is what one of them holds, and what the others hold. -/
theorem owners_split {slots : Slots} (distinct : slots.Distinct) (name : String) :
    (owners slots.objects : Held) =
      owners (slots.get? name) + owners (slots.erase name).objects := by
  induction slots with
  | nil => rfl
  | cons slot slots ih =>
      obtain ⟨absent, distinct⟩ := List.nodup_cons.1 distinct
      have cons (rest : Slots) :
          (owners (objects (slot :: rest)) : Held) = owners slot.2 + owners rest.objects :=
        (Multiset.coe_add _ _).symm
      rw [cons]
      by_cases same : slot.1 = name
      · subst same
        have found : get? (slot :: slots) slot.1 = some slot.2 := by simp [get?]
        have rest : Slots.erase (slot :: slots) slot.1 = slots := by
          rw [← erase_of_absent absent]
          simp [Slots.erase]
        rw [found, rest]
        rfl
      · have found : get? (slot :: slots) name = Slots.get? slots name := by simp [get?, same]
        have rest : Slots.erase (slot :: slots) name = slot :: Slots.erase slots name := by
          simp [Slots.erase, same]
        rw [found, rest, cons, ih distinct, add_left_comm]

theorem Distinct.erase {slots : Slots} (distinct : slots.Distinct) (name : String) :
    (slots.erase name).Distinct :=
  List.Nodup.sublist (List.filter_sublist.map _) distinct

theorem Distinct.set {slots : Slots} (distinct : slots.Distinct) (name : String)
    (object : Object) : (slots.set name object).Distinct := by
  refine List.nodup_cons.2 ⟨fun member => ?_, distinct.erase name⟩
  obtain ⟨slot, there, same⟩ := List.mem_map.1 member
  simp [Slots.erase, same] at there

theorem erase_set (slots : Slots) (name : String) (object : Object) :
    (slots.set name object).erase name = slots.erase name := by
  simp [set, erase]

theorem get?_set (slots : Slots) (name : String) (object : Object) :
    (slots.set name object).get? name = some object := by
  simp [set, get?]

theorem get?_erase {slot name : String} (other : slot ≠ name) (slots : Slots) :
    (slots.erase name).get? slot = slots.get? slot := by
  have kept (entry : String × Object) : decide (entry.1 != name ∧ entry.1 == slot) =
      (entry.1 == slot) := by
    by_cases same : entry.1 = slot <;> simp [same, other]
  rw [get?, erase, List.find?_filter]
  simp only [kept, get?]

/-- What a slot holds may be put there again. -/
theorem get?_set_of_ne {slot name : String} (other : slot ≠ name) (slots : Slots)
    (object : Object) : (slots.set name object).get? slot = slots.get? slot := by
  rw [← get?_erase other, erase_set, get?_erase other]

theorem get?_set_again {slots : Slots} {slot : String} {object : Object}
    (found : slots.get? slot = some object) (name : String) :
    (slots.set slot object).get? name = slots.get? name := by
  by_cases same : name = slot
  · rw [same, get?_set, found]
  · have other : ¬ slot = name := Ne.symm same
    have skipped : (slots.set slot object).get? name = (slots.erase slot).get? name := by
      simp [set, get?, other]
    rw [skipped, get?_erase same]

theorem mem_of_get? {slots : Slots} {slot : String} {object : Object}
    (found : slots.get? slot = some object) : (slot, object) ∈ slots := by
  obtain ⟨⟨name, held⟩, there, rfl⟩ := Option.map_eq_some_iff.1 found
  obtain rfl : name = slot := by simpa using List.find?_some there
  exact List.mem_of_find?_eq_some there

end Slots

namespace Duo

variable {D : Duo}

/-- Whether slots hold alike objects under the same names. -/
def SlotsMatch (D : Duo) (slots slots' : Slots) : Prop :=
  List.Forall₂ (fun slot slot' => slot.1 = slot'.1 ∧ D.Match slot.2 slot'.2) slots slots'

namespace SlotsMatch

variable {slots slots' : Slots}

theorem objects (same : D.SlotsMatch slots slots') : D.Match slots.objects slots'.objects := by
  induction same with
  | nil => exact .nil
  | cons first _ ih => exact first.2.cons ih

theorem get? (same : D.SlotsMatch slots slots') (name : String) :
    D.Match (slots.get? name) (slots'.get? name) := by
  induction same with
  | nil => exact .none
  | @cons slot slot' slots slots' first _ ih =>
      by_cases found : slot.1 = name
      · have found' : slot'.1 = name := first.1 ▸ found
        simpa [Slots.get?, found, found'] using first.2.some
      · have found' : slot'.1 ≠ name := first.1 ▸ found
        simpa [Slots.get?, found, found'] using ih

theorem erase (same : D.SlotsMatch slots slots') (name : String) :
    D.SlotsMatch (slots.erase name) (slots'.erase name) := by
  refine List.rel_filter ?_ same
  rintro slot slot' ⟨names, -⟩
  show (slot.1 != name) = true ↔ (slot'.1 != name) = true
  rw [names]

theorem set (same : D.SlotsMatch slots slots') (name : String) {o o' : Object}
    (object : D.Match o o') : D.SlotsMatch (slots.set name o) (slots'.set name o') :=
  .cons ⟨rfl, object⟩ (same.erase name)

theorem names (same : D.SlotsMatch slots slots') : slots.map (·.1) = slots'.map (·.1) := by
  induction same with
  | nil => rfl
  | cons first _ ih => exact congrArg₂ List.cons first.1 ih

end SlotsMatch

/-! ## What is shown and given up -/

variable {base : Facts} {H : Grip} {w w' : World}

/-- Alike objects are described in the same way. -/
theorem Holds.describe_eq {o o' : Object} (holds : D.Holds base H w w') (pair : D.Pair H o o') :
    D.engine.describe w o = D.engine.describe w' o' := by
  obtain ⟨left, right, like⟩ := pair
  cases o <;> cases o' <;> try exact like.elim
  case index.index | unit.unit | walk.walk | database.database => rfl
  case cursor.cursor | type.type | file.file | location.location | range.range | string.string =>
    simp only [Engine.describe, like.1.1]
  case argumentTypes.argumentTypes =>
    simp only [Engine.describe, like.2]
  case inclusion.inclusion =>
    simp only [Engine.describe, like.2.1.1.1, like.2.2.2]
  case tokens.tokens a a' =>
    have remaining : a.remaining = a'.remaining := by
      obtain ⟨batch, next⟩ := a
      obtain ⟨batch', next'⟩ := a'
      obtain ⟨batches, rfl⟩ := like
      cases batches with
      | none => rfl
      | some batches => simp only [TokenStream.remaining, Option.elim, batches.2.2]
    simp only [Engine.describe, remaining]
  case token.token => simp only [Engine.describe, Token.entry, like.1.2.2, like.2]
  case diagnostics.diagnostics a a' =>
    have table : w.table a.unit.resource = w'.table a'.unit.resource :=
      holds.table ⟨⟨left.coherent, left.within⟩, ⟨right.coherent, right.within⟩, like⟩
    simp only [Engine.describe]
    rw [World.table, World.table] at table
    rw [table]
  case diagnostic.diagnostic => simp only [Engine.describe, like.1.2]
  case fixIt.fixIt => simp only [Engine.describe, like.1.1.1, like.2]
  case completion.completion => simp only [Engine.describe, Completion.length, like.2.2]
  case candidate.candidate => simp only [Engine.describe, like.1]
  case chunk.chunk => simp only [Engine.describe, like.1.1.1, like.2]
  case commands.commands => simp only [Engine.describe, like.2.2]
  case command.command => simp only [Engine.describe, like.1.1]

theorem Holds.map_describe_eq {os os' : List Object} (holds : D.Holds base H w w')
    (pair : D.Pair H os os') :
    os.map (D.engine.describe w) = os'.map (D.engine.describe w') := by
  rw [← List.forall₂_eq_eq_eq, List.forall₂_map_left_iff, List.forall₂_map_right_iff]
  exact pair.list fun pair => holds.describe_eq pair

/-- Both runs may give up references that they hold. -/
theorem Holds.drop [Holder α] [Likeness α] [Entity α] {a b : α}
    (holds : D.Holds base (H.add a b) w w') :
    D.Holds base H (w.release (refs a)) (w'.release (refs b)) := by
  rcases same_drop (F := H) a b base w w' holds with
    ⟨_, _, v, v', ran, ran', -, holds⟩ | ⟨_, _, _, ran, _⟩
  · cases ran
    cases ran'
    exact holds
  · exact nomatch ran

/-! ## States -/

/-- Whether two states meet while they hold some more that is in no slot. -/
structure Meets (D : Duo) (base : Facts) (K : Grip) (s s' : State) : Prop where
  slots : D.SlotsMatch s.slots s'.slots
  distinct : s.slots.Distinct
  holds : D.Holds base (K.add s.slots.objects s'.slots.objects) s.world s'.world

variable {K : Grip} {s s' : State} {slots slots' : Slots} {o o' : Object}

/-- What is in all slots is what is in one of them, and what is in the others. -/
theorem Grip.add_split (H : Grip) (distinct : slots.Distinct) (distinct' : slots'.Distinct)
    (name : String) :
    H.add slots.objects slots'.objects =
      (H.add (slots.erase name).objects (slots'.erase name).objects).add (slots.get? name)
        (slots'.get? name) := by
  refine Prod.ext ?_ ?_
  · show (owners slots.objects : Held) + H.1 = _
    rw [Slots.owners_split distinct name, add_assoc]
    rfl
  · show (owners slots'.objects : Held) + H.2 = _
    rw [Slots.owners_split distinct' name, add_assoc]
    rfl

/-- What is put into a slot is there instead of what was in it. -/
theorem Grip.add_set (H : Grip) (slots slots' : Slots) (name : String) (o o' : Object) :
    H.add (slots.set name o).objects (slots'.set name o').objects =
      (H.add (slots.erase name).objects (slots'.erase name).objects).add o o' := by
  rw [Grip.add_right_comm]
  exact Grip.add_cons H o o' _ _

namespace Meets

theorem distinct' (meets : D.Meets base K s s') : s'.slots.Distinct := by
  have distinct := meets.distinct
  rwa [Slots.Distinct, meets.slots.names] at distinct

theorem split (meets : D.Meets base K s s') (name : String) :
    D.Holds base ((K.add (s.slots.erase name).objects (s'.slots.erase name).objects).add
      (s.slots.get? name) (s'.slots.get? name)) s.world s'.world := by
  rw [← Grip.add_split K meets.distinct meets.distinct' name]
  exact meets.holds

/-- An object is put into a slot, and what was there is given up. -/
theorem store (meets : D.Meets base (K.add o o') s s') (same : D.Match o o') (name : String) :
    D.Meets base K (s.store name o) (s'.store name o') where
  slots := meets.slots.set name same
  distinct := meets.distinct.set name o
  holds := by
    show D.Holds base (K.add (s.slots.set name o).objects (s'.slots.set name o').objects) _ _
    rw [Grip.add_set, Grip.add_right_comm]
    exact (meets.split name).drop

theorem storeAll {os os' : List Object} (meets : D.Meets base (K.add os os') s s')
    (same : D.Match os os') (name : String) :
    D.Meets base K (s.storeAll name os) (s'.storeAll name os') := by
  unfold State.storeAll
  obtain ⟨left, right, alike⟩ := same
  generalize 0 = first
  induction alike generalizing s s' first with
  | nil => exact Grip.add_eq K (a := ([] : List Object)) (b := []) rfl rfl ▸ meets
  | @cons o o' os os' alike _ ih =>
      obtain ⟨left, lefts⟩ := List.forall_mem_cons.1 left
      obtain ⟨right, rights⟩ := List.forall_mem_cons.1 right
      rw [Grip.add_cons, Grip.add_right_comm] at meets
      exact ih (meets.store ⟨left, right, alike⟩ _) lefts rights _

end Meets

end Duo

namespace State

/-- Emptying a slot that is empty does nothing. -/
theorem clear_eq (state : State) (name : String) :
    state.clear name = { state with slots := state.slots.erase name }.update
      (·.release (refs (state.slots.get? name))) := by
  unfold clear
  cases found : state.slots.get? name with
  | some object => rfl
  | none =>
      have absent : name ∉ state.slots.map (·.1) := by
        intro member
        obtain ⟨slot, there, named⟩ := List.mem_map.1 member
        rw [Slots.get?, Option.map_eq_none_iff, List.find?_eq_none] at found
        exact found slot there (by simp [named])
      rw [Slots.erase_of_absent absent]
      show state = { state with world := state.world.release [] }
      rw [World.release_nil]

/-- Emptying other slots leaves a slot as it is. -/
theorem get?_clears {slot : String} {names : List String} (other : slot ∉ names) (state : State) :
    (names.foldl clear state).slots.get? slot = state.slots.get? slot := by
  induction names generalizing state with
  | nil => rfl
  | cons name names ih =>
      rw [List.foldl_cons, ih (List.not_mem_of_not_mem_cons other), clear_eq]
      exact Slots.get?_erase (List.ne_of_not_mem_cons other) _

/-- Running an action is executing it on the store. -/
theorem run_eq {setting : Setting} {act : Act α} {state : State} {outcome : Except Fault α}
    {w : World} (ran : act.exec setting state.world = (outcome, w)) :
    state.run setting act = ({ state with world := w }, outcome) := by
  unfold run
  rw [show (act setting).run state.world = (outcome, w) from ran]

/-- An object that is put into an empty slot is all that changes. -/
theorem store_new {state : State} {name : String} (absent : state.slots.get? name = none)
    (object : Object) :
    state.store name object = { state with slots := state.slots.set name object } := by
  rw [store, absent]
  show { state with slots := _, world := state.world.release [] } = _
  rw [World.release_nil]

theorem turn_ok {setting : Setting} {act : Act Turn} {state : State} {t : Turn} {w : World}
    (ran : act.exec setting state.world = (.ok t, w)) (slot : String) (target : Option String) :
    state.turn setting slot target act =
      finish setting target
        { state with world := w, slots := state.slots.set slot t.receiver } t.outcome := by
  rw [State.turn, run_eq ran]

/-- Plain answers leave the state as it is. -/
theorem finish_plain (setting : Setting) (target : Option String) (state : State) (value : Json) :
    state.finish setting target (.ok (.plain value)) = (state, .shown value) := by
  have still : state.world.release [] = state.world := World.release_nil _
  cases target <;>
    exact Prod.ext (congrArg (fun world => { state with world }) still) rfl

theorem turn_error {setting : Setting} {act : Act Turn} {state : State} {fault : Fault} {w : World}
    (ran : act.exec setting state.world = (.error fault, w)) (slot : String)
    (target : Option String) :
    state.turn setting slot target act = ({ state with world := w }, .fault fault) := by
  rw [State.turn, run_eq ran]

end State

namespace Duo.Meets

variable {D : Duo} {base : Facts} {K : Grip} {s s' : State} {o o' : Object}

theorem clear (meets : D.Meets base K s s') (name : String) :
    D.Meets base K (s.clear name) (s'.clear name) := by
  rw [State.clear_eq, State.clear_eq]
  exact ⟨meets.slots.erase name, meets.distinct.erase name, (meets.split name).drop⟩

theorem clears (meets : D.Meets base K s s') (names : List String) :
    D.Meets base K (names.foldl State.clear s) (names.foldl State.clear s') := by
  induction names generalizing s s' with
  | nil => exact meets
  | cons name names ih => exact ih (meets.clear name)

/-- What is handed out is stored or given up. -/
theorem settle {a a' : Answer} (meets : D.Meets base (K.add a a') s s') (same : D.Match a a')
    (target : Option String) : D.Meets base K (s.settle target a) (s'.settle target a') := by
  have dropped :
      D.Meets base K (s.update (·.release (refs a))) (s'.update (·.release (refs a'))) := by
    refine ⟨meets.slots, meets.distinct, Holds.drop ?_⟩
    rw [Grip.add_right_comm]
    exact meets.holds
  obtain ⟨left, right, alike⟩ := same
  cases target with
  | none => exact dropped
  | some name =>
      cases a <;> cases a' <;> try exact alike.elim
      case plain.plain => exact dropped
      case object.object => exact meets.store ⟨left, right, alike⟩ name
      case objects.objects => exact meets.storeAll ⟨left, right, alike⟩ name

/-- Alike answers are shown in the same way. -/
theorem present_eq {a a' : Answer} (meets : D.Meets base (K.add a a') s s') (same : D.Match a a') :
    s.present (D.left.setting D.engine) a = s'.present (D.right.setting D.engine) a' := by
  have holds := meets.holds
  rw [Grip.add_right_comm] at holds
  obtain ⟨left, right, alike⟩ := same.pair (K.add s.slots.objects s'.slots.objects)
  cases a <;> cases a' <;> try exact alike.elim
  case plain.plain => exact alike
  case object.object =>
    exact holds.describe_eq ⟨⟨left.coherent, left.within⟩, ⟨right.coherent, right.within⟩, alike⟩
  case objects.objects =>
    exact congrArg Json.arr (holds.map_describe_eq
      ⟨⟨left.coherent, left.within⟩, ⟨right.coherent, right.within⟩, alike⟩)

/-- Alike outcomes give the same reply. -/
theorem finish {outcome outcome' : Except Fault Answer}
    (meets : D.Meets base (K.add outcome outcome') s s') (same : D.Match outcome outcome')
    (target : Option String) :
    D.Meets base K (State.finish (D.left.setting D.engine) target s outcome).1
        (State.finish (D.right.setting D.engine) target s' outcome').1 ∧
      (State.finish (D.left.setting D.engine) target s outcome).2 =
        (State.finish (D.right.setting D.engine) target s' outcome').2 := by
  obtain ⟨left, right, alike⟩ := same
  cases outcome <;> cases outcome' <;> try exact alike.elim
  case error.error fault fault' =>
    rw [Grip.add_eq K rfl rfl] at meets
    exact ⟨meets, congrArg Reply.fault alike⟩
  case ok.ok a a' =>
    have same : D.Match a a' := ⟨left, right, alike⟩
    exact ⟨Meets.settle meets same target, congrArg Reply.shown (present_eq meets same)⟩

/-- Turns that end alike give the same reply. -/
theorem turn {x y : Act Turn} (meets : D.Meets base K s s') {slot : String}
    (found : s.slots.get? slot = some o) (found' : s'.slots.get? slot = some o')
    (turns : D.Turns (K.add (s.slots.erase slot).objects (s'.slots.erase slot).objects) o o' x y)
    (target : Option String) :
    D.Meets base K (s.turn (D.left.setting D.engine) slot target x).1
        (s'.turn (D.right.setting D.engine) slot target y).1 ∧
      (s.turn (D.left.setting D.engine) slot target x).2 =
        (s'.turn (D.right.setting D.engine) slot target y).2 := by
  have holds := meets.split slot
  rw [found, found'] at holds
  rcases turns base _ _ holds with
    ⟨t, t', v, v', ran, ran', ⟨receiver, outcome⟩, holds⟩ | ⟨fault, v, v', ran, ran', holds⟩
  · rw [State.turn_ok ran, State.turn_ok ran']
    refine finish ⟨meets.slots.set slot receiver, meets.distinct.set slot _, ?_⟩ outcome target
    rw [Grip.add_right_comm, Grip.add_set]
    exact holds
  · rw [State.turn_error ran, State.turn_error ran']
    refine ⟨⟨meets.slots, meets.distinct, ?_⟩, rfl⟩
    rw [Grip.add_split K meets.distinct meets.distinct' slot, found, found']
    exact holds

end Duo.Meets

end SourceAtlas
