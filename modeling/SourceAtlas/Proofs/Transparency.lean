import SourceAtlas.Proofs.Queries
import SourceAtlas.Proofs.Renaming
import SourceAtlas.Proofs.Success

/-!
# Memory is transparent

A session that remembers what the engine answered gives the same replies as one that asks the engine
again and again. What could be observed of the store also stays the same when an object is only
looked at, apart from the numbers of later resources. So queries that only look give the same replies
in any order.
-/

namespace SourceAtlas

open Duo

/-! ## Looking at objects -/

/-- Whether a query moves a stream or a walk on. -/
def Object.Advances (object : Object) (name : String) : Prop :=
  match object with
  | .tokens _ | .walk _ => name = "next" ∨ name = "rest"
  | _ => False

/-- A query to the object in a slot, or to two objects together, whose answer is not stored. -/
structure Inquiry where
  slot : String
  other : Option String := none
  name : String
  args : Json

/-- Asks in some state. -/
def Inquiry.ask (setting : Setting) (inquiry : Inquiry) (state : State) : State × Reply :=
  state.ask setting (some inquiry.slot) inquiry.other none inquiry.args inquiry.name

/-- Whether an object is only looked at: it is neither parsed again nor moved on. -/
def Inquiry.Looks (inquiry : Inquiry) (state : State) : Prop :=
  inquiry.other = none → ∀ object, state.slots.get? inquiry.slot = some object →
    ¬ object.Reparses inquiry.name ∧ ¬ object.Advances inquiry.name

namespace Object

variable {o p : Object}

theorem returns_become (old new : Object) : (old.become new).Returns (· = new) :=
  (Act.Returns.keep (P := (· = new)) rfl).after fun _ same => .bind fun _ => .pure same

/-- A receiver that stays as it is, or is alike afterwards. -/
abbrev Stays (o : Object) (act : Act Turn) : Prop :=
  act.Returns fun turn => Alike id o turn.receiver

theorem stays_steady (o : Object) (answer : Act Answer) : o.Stays (o.steady answer) :=
  .bind fun _ => .pure (Likeness.refl o)

theorem stays_become {old : Object} (alike : Alike id o p) (answer : Answer) :
    o.Stays (do
      let changed ← old.become p
      return ⟨changed, .ok answer⟩) :=
  (returns_become old p).after fun _ same => .pure (same ▸ alike)

theorem stays_location (location : SourceLocation) (query : LocationQuery) :
    (Object.location location).Stays (location.turn query) := by
  have expanded (expansion : Expansion) : Alike id (Object.location location)
      (.location { location with expansion := some expansion }) :=
    Likeness.refl location
  cases query with
  | file | line | column | offset | debug =>
      exact .bind fun _ => .bind fun _ => stays_become (expanded _) _
  | isInSystemHeader | isFromMainFile | unit | cursor => exact stays_steady _ _

theorem stays_chunk (chunk : Chunk) (query : ChunkQuery) :
    (Object.chunk chunk).Stays (chunk.turn query) := by
  have spelled (known : Chunk) (alike : Alike id chunk known) :
      known.spelled.Returns (Alike id chunk) :=
    .bind fun _ => .pure alike
  have classified : chunk.classified.Returns (Alike id chunk) :=
    .bind fun _ => .pure (Likeness.refl chunk)
  cases query with
  | spelling => exact (spelled chunk (Likeness.refl chunk)).after fun _ alike => .pure alike
  | kind => exact .bind fun _ => .pure (Likeness.refl chunk)
  | nested => exact stays_steady _ _
  | debug =>
      exact classified.after fun known alike => (spelled known alike).after fun _ alike =>
        .pure alike

theorem stays_tokens (stream : TokenStream) {name : String} {query : TokensQuery}
    (named : TokensQuery.ofName? name = some query)
    (still : ¬ (Object.tokens stream).Advances name) :
    (Object.tokens stream).Stays (stream.turn query) := by
  unfold TokensQuery.ofName? at named
  split at named <;> cases named <;> first
    | exact absurd (.inl rfl) still
    | exact absurd (.inr rfl) still
    | exact .pure (Likeness.refl stream)

/-- An object that is looked at stays as it is, but for what it learns about itself. -/
theorem stays_turn? {name : String} {args : Json} {act : Act Turn}
    (asks : o.turn? name args = some act) (still : ¬ o.Advances name) : o.Stays act := by
  cases o <;> obtain ⟨query, named, rfl⟩ := Option.map_eq_some_iff.1 asks
  case location location => exact stays_location location query
  case chunk chunk => exact stays_chunk chunk query
  case tokens stream => exact stays_tokens stream named still
  case walk walk =>
    refine absurd ?_ still
    unfold WalkQuery.ofName? at named
    split at named <;> first | exact .inl rfl | exact .inr rfl | exact nomatch named
  all_goals exact stays_steady _ _

theorem stays_pairTurn? {query : PairQuery} {act : Act Turn}
    (asks : o.pairTurn? p query = some act) : p.Stays act := by
  unfold pairTurn? at asks
  split at asks <;> cases asks <;> first
    | exact stays_steady _ _
    | exact .bind fun _ => .bind fun _ => stays_become (Likeness.refl (α := SourceLocation) _) _

end Object

/-! ## States in which objects were looked at -/

namespace State

variable {s s' : State}

theorem slots_finish (setting : Setting) (s : State) (outcome : Except Fault Answer) :
    (s.finish setting none outcome).1.slots = s.slots := by
  cases outcome <;> rfl

/-- A slot holds the receiver after a turn; after a fault all slots are as before. -/
theorem slots_turn {act : Act Turn} {P : Object → Prop}
    (returns : act.Returns fun turn => P turn.receiver) (setting : Setting) (slot : String) :
    (s.turn setting slot none act).1.slots = s.slots ∨
      ∃ o, P o ∧ (s.turn setting slot none act).1.slots = s.slots.set slot o := by
  rcases ran : act.exec setting s.world with ⟨fault | turn, v⟩
  · rw [turn_error ran]
    exact .inl rfl
  · rw [turn_ok ran, slots_finish]
    exact .inr ⟨_, returns _ _ _ _ ran, rfl⟩

/-- Whoever only looks changes at most what one object knows about itself. -/
theorem slots_inquiry (setting : Setting) {inquiry : Inquiry} (looks : inquiry.Looks s) :
    (inquiry.ask setting s).1.slots = s.slots ∨
      ∃ slot o o', s.slots.get? slot = some o ∧ Alike id o o' ∧
        (inquiry.ask setting s).1.slots = s.slots.set slot o' := by
  obtain ⟨slot, other, name, args⟩ := inquiry
  have turned {slot : String} {o : Object} {act : Act Turn} (found : s.slots.get? slot = some o)
      (stays : o.Stays act) :
      (s.turn setting slot none act).1.slots = s.slots ∨
        ∃ slot' p p', s.slots.get? slot' = some p ∧ Alike id p p' ∧
          (s.turn setting slot none act).1.slots = s.slots.set slot' p' :=
    (slots_turn stays setting slot).imp_right fun ⟨o', alike, same⟩ =>
      ⟨slot, o, o', found, alike, same⟩
  show (s.askSlot setting name slot other none args).1.slots = _ ∨ ∃ slot' o o', _ ∧ _ ∧
    (s.askSlot setting name slot other none args).1.slots = _
  rcases askSlot_cases setting s name slot other none args with
    ⟨slot', act, poses, asked⟩ | ⟨reply, asked, -⟩ <;> rw [asked]
  · cases poses with
    | clone found _ _ => exact turned found (Object.stays_steady _ _)
    | alone found asks => exact turned found (Object.stays_turn? asks (looks rfl _ found).2)
    | pair _ found _ asks => exact turned found (Object.stays_pairTurn? asks)
  · exact .inl rfl

/-- The reply of an object depends on the store and on what the slots hold, in whatever order. -/
theorem reply_askSlot (world : s'.world = s.world)
    (slots : ∀ name, s'.slots.get? name = s.slots.get? name) (setting : Setting)
    (name slot : String) (other target : Option String) (args : Json) :
    (s'.askSlot setting name slot other target args).2 =
      (s.askSlot setting name slot other target args).2 := by
  have turned (slot : String) (act : Act Turn) :
      (s'.turn setting slot target act).2 = (s.turn setting slot target act).2 := by
    rcases ran : act.exec setting s.world with ⟨fault | ⟨receiver, outcome⟩, v⟩
    · rw [turn_error ran, turn_error (world ▸ ran)]
    · rw [turn_ok ran, turn_ok (world ▸ ran)]
      rcases outcome with fault | answer
      · rfl
      · cases answer <;> rfl
  unfold askSlot
  rw [slots slot]
  cases s.slots.get? slot with
  | none => rfl
  | some o =>
      cases other with
      | some second =>
          dsimp only
          rw [slots second]
          cases s.slots.get? second with
          | none => rfl
          | some p =>
              dsimp only
              cases (PairQuery.ofName? name).bind (o.pairTurn? p) with
              | none => rfl
              | some act => exact turned second act
      | none =>
          dsimp only
          split
          next =>
            split
            next => exact turned slot _
            next => rfl
          next =>
            cases o.turn? name args with
            | none => rfl
            | some act => exact turned slot act

end State

/-! ## Numbers of later resources -/

/-- What could be observed at a later time can be told by a shift of the numbers of the resources
that had not been acquired yet. -/
theorem Facts.Grows.exists_shift {engine : Engine} {side : Side} {held : Held} {facts later : Facts}
    {w : World} (grows : facts.Grows later) (loaded : later.loaded = facts.loaded)
    (order : At engine side held later w) :
    ∃ (shift : Shift) (shifted : Facts), shift.base = facts.acquired ∧
      shift.Links facts shifted ∧ At engine side held shifted w := by
  obtain ⟨τ, inv⟩ := order
  let shift : Shift := ⟨facts.acquired, later.acquired - facts.acquired, later.units - facts.units,
    later.indexes - facts.indexes, later.lists - facts.lists⟩
  have : Nonempty Resource := ⟨⟨.index, 0, 0⟩⟩
  -- what is said of resources that there are, and of those that are still to come
  let told {α : Type} (old new : Resource → α) (r : Resource) : α :=
    if r.serial < later.acquired then new r else old (Function.invFun shift.rename r)
  have linked {α : Type} {old new : Resource → α}
      (same : ∀ r, r.serial < facts.acquired → new r = old r) (r : Resource) :
      told old new (shift.rename r) = old r := by
    have enough := grows.acquired
    by_cases before : r.serial < facts.acquired
    · have kept : shift.rename r = r := if_pos before
      rw [kept]
      exact (if_pos (before.trans_le enough)).trans (same r before)
    · have moved : ¬ (shift.rename r).serial < later.acquired := by
        rw [show shift.rename r = ⟨r.kind, r.serial + (later.acquired - facts.acquired), _⟩ from
          if_neg before]
        dsimp only
        omega
      exact (if_neg moved).trans
        (congrArg old (Function.leftInverse_invFun shift.rename_injective r))
  refine ⟨shift, { later with
    table := told facts.table later.table, spelling := told facts.spelling later.spelling },
    rfl, ⟨Nat.le_refl _, ?_, ?_, ?_, ?_, loaded, linked grows.table, linked grows.spelling⟩,
    τ, ⟨⟨inv.heap, inv.books, inv.texts, inv.past, ?_⟩, inv.owns, inv.loaded⟩⟩
  · exact (Nat.add_sub_of_le grows.acquired).symm
  · exact (Nat.add_sub_of_le grows.units).symm
  · exact (Nat.add_sub_of_le grows.indexes).symm
  · exact (Nat.add_sub_of_le grows.lists).symm
  · refine { inv.shows with unit := fun {c entry index known r} here found owned content => ?_ }
    obtain ⟨-, o, owns, describes⟩ := inv.heap.described here found
    have acquired := (inv.books.recent owns (describes.1.symm.trans owned)).1
    have before : r.serial < later.acquired :=
      inv.shows.acquired ▸ inv.books.serial_lt acquired
    have unit := inv.shows.unit here found owned content
    exact ⟨unit.1.trans (if_pos before).symm, unit.2.trans (if_pos before).symm⟩

/-! ## Queries that only look -/

/-- Slots that hold alike objects do so as well if the numbers of later resources are shifted. -/
theorem Duo.SlotsMatch.shifted {D : Duo} {H : Grip} {shift : Shift}
    (renames : D.Renames H shift.rename) {slots slots' : Slots}
    (left : ∀ slot ∈ slots, Usable D.engine H.1 slot.2)
    (right : ∀ slot ∈ slots', Usable D.engine H.2 slot.2)
    (alike : List.Forall₂
      (fun slot slot' => slot.1 = slot'.1 ∧ Alike D.shift.rename slot.2 slot'.2) slots slots') :
    { D with shift }.SlotsMatch slots slots' := by
  induction alike with
  | nil => exact .nil
  | cons same _ ih =>
      obtain ⟨left, lefts⟩ := List.forall_mem_cons.1 left
      obtain ⟨right, rights⟩ := List.forall_mem_cons.1 right
      have alike := Object.renamed renames ⟨left, right, same.2⟩
      exact .cons ⟨same.1, left.coherent, right.coherent, alike⟩ (ih lefts rights)

/-- Objects that hold nothing are streams and walks that have ended. -/
theorem Object.ended {o : Object} (empty : owners o = []) :
    (∃ next, o = .tokens ⟨none, next⟩) ∨ o = .walk ⟨[]⟩ := by
  cases o
  case tokens held =>
    obtain ⟨batch, next⟩ := held
    cases batch with
    | none => exact .inl ⟨next, rfl⟩
    | some batch => exact nomatch empty
  case walk held =>
    obtain ⟨pending⟩ := held
    cases pending with
    | nil => exact .inr rfl
    | cons k pending => exact nomatch empty
  case inclusion held =>
    have included := (List.append_eq_nil_iff.1 (List.append_eq_nil_iff.1 empty).1).2
    exact nomatch included
  all_goals exact nomatch empty

/-- What has ended answers nothing together with another object. -/
theorem Object.pairTurn?_ended {o : Object} (empty : owners o = []) (other : Object)
    (query : PairQuery) : o.pairTurn? other query = none := by
  obtain ⟨_, rfl⟩ | rfl := Object.ended empty <;> cases query <;> rfl

theorem Object.isClonable_ended {o : Object} (empty : owners o = []) : o.isClonable = false := by
  obtain ⟨_, rfl⟩ | rfl := Object.ended empty <;> rfl

/-- What has ended answers with a plain value, unless it is moved on. -/
theorem Object.turn?_ended {o : Object} (empty : owners o = []) {name : String} {args : Json}
    {act : Act Turn} (asks : o.turn? name args = some act) (still : ¬ o.Advances name) :
    ∃ value, act = pure ⟨o, .ok (.plain value)⟩ := by
  obtain ⟨next, rfl⟩ | rfl := Object.ended empty
  all_goals
    obtain ⟨query, named, rfl⟩ := Option.map_eq_some_iff.1 asks
  · unfold TokensQuery.ofName? at named
    split at named <;> cases named <;> first
      | exact absurd (.inl rfl) still
      | exact absurd (.inr rfl) still
      | exact ⟨_, rfl⟩
  · unfold WalkQuery.ofName? at named
    split at named <;> cases named <;> first
      | exact absurd (.inl rfl) still
      | exact absurd (.inr rfl) still

/-- Streams and walks that have ended do not use the store when they are looked at. -/
theorem State.inquiry_ended (setting : Setting) {s : State} {inquiry : Inquiry}
    (looks : inquiry.Looks s)
    (empty : ∀ o, s.slots.get? inquiry.slot = some o → owners o = []) :
    (inquiry.ask setting s).1.world = s.world ∧
      ∀ name, (inquiry.ask setting s).1.slots.get? name = s.slots.get? name := by
  obtain ⟨slot, other, name, args⟩ := inquiry
  show (s.askSlot setting name slot other none args).1.world = _ ∧ ∀ name',
    (s.askSlot setting name slot other none args).1.slots.get? name' = _
  rcases askSlot_cases setting s name slot other none args with
    ⟨slot', act, poses, asked⟩ | ⟨reply, asked, -⟩ <;> rw [asked]
  · cases poses with
    | clone found _ clonable =>
        rw [Object.isClonable_ended (empty _ found)] at clonable
        exact nomatch clonable
    | alone found asks =>
        obtain ⟨value, said⟩ := Object.turn?_ended (empty _ found) asks (looks rfl _ found).2
        rw [said, turn_ok (t := ⟨_, .ok (.plain value)⟩) rfl, finish_plain]
        exact ⟨rfl, Slots.get?_set_again found⟩
    | pair found _ _ asks =>
        rw [Object.pairTurn?_ended (empty _ found)] at asks
        exact nomatch asks
  · exact ⟨rfl, fun _ => rfl⟩

namespace Session.Reached

variable {setting : Setting} {begin state : State}

/-- After an object was looked at, the slots hold objects that are like those before. The slots
before are listed here in the order in which they are afterwards. -/
theorem exists_aligned (reached : Reached setting begin state) {inquiry : Inquiry}
    (looks : inquiry.Looks state) :
    ∃ slots : Slots, (∀ name, slots.get? name = state.slots.get? name) ∧ slots.Distinct ∧
      (owners slots.objects : Held) = owners state.slots.objects ∧ slots ⊆ state.slots ∧
      List.Forall₂ (fun slot slot' => slot.1 = slot'.1 ∧ Alike id slot.2 slot'.2) slots
        (inquiry.ask setting state).1.slots := by
  obtain ⟨_, meets⟩ := reached.meet
  have same (slots : Slots) : List.Forall₂
      (fun slot slot' => slot.1 = slot'.1 ∧ Alike id slot.2 slot'.2) slots slots :=
    List.forall₂_same.2 fun slot _ => ⟨rfl, Likeness.refl slot.2⟩
  rcases State.slots_inquiry setting looks with slots | ⟨slot, o, o', found, alike, slots⟩ <;>
    rw [slots]
  · exact ⟨state.slots, fun _ => rfl, meets.distinct, rfl, List.Subset.refl _, same _⟩
  · refine ⟨state.slots.set slot o, Slots.get?_set_again found, meets.distinct.set slot o, ?_,
      List.cons_subset.2 ⟨Slots.mem_of_get? found, List.filter_sublist.subset⟩,
      .cons ⟨rfl, alike⟩ (same _)⟩
    rw [Slots.owners_split meets.distinct slot, found]
    exact (Multiset.coe_add _ _).symm

/-- What was observed before an object was looked at still holds afterwards. -/
theorem grows_inquiry (reached : Reached setting begin state) {inquiry : Inquiry}
    (looks : inquiry.Looks state) {facts : Facts} {τ : Typing}
    (inv : Inv setting.engine ⟨setting.remembers, begin.world, []⟩ facts τ
      (owners state.slots.objects) state.world) :
    ∃ later, facts.Grows later ∧ At setting.engine ⟨setting.remembers, begin.world, []⟩
      (owners (inquiry.ask setting state).1.slots.objects) later
      (inquiry.ask setting state).1.world := by
  obtain ⟨_, meets⟩ := reached.meet
  -- a run beside itself tells what one run does
  have now : (alone setting.engine ⟨setting.remembers, begin.world, []⟩).Meets facts 0 state
      state := by
    refine ⟨meets.slots, meets.distinct, ?_⟩
    rw [Grip.add_to_none]
    exact inv.holds_alone
  have asked := now.askSlot (fun single o found => (looks single o found).1) none inquiry.args
  have holds := asked.1.holds
  rw [Grip.add_to_none] at holds
  obtain ⟨later, -, grows, -, order, -⟩ := holds
  exact ⟨later, grows, order⟩

/-- After an object was looked at, the state meets the one before, up to the numbers of the resources
that were acquired meanwhile. -/
theorem meets_inquiry (reached : Reached setting begin state) {inquiry : Inquiry}
    (looks : inquiry.Looks state) (nonempty : (owners state.slots.objects : Held) ≠ 0) :
    ∃ (D : Duo) (base : Facts) (slots : Slots), D.engine = setting.engine ∧
      D.left.remembers = setting.remembers ∧ D.right.remembers = setting.remembers ∧
      (∀ name, slots.get? name = state.slots.get? name) ∧
      D.Meets base 0 { state with slots } (inquiry.ask setting state).1 := by
  obtain ⟨slots, get, distinct, held, subset, alike⟩ := reached.exists_aligned looks
  have reached' : Reached setting begin (inquiry.ask setting state).1 :=
    reached.ask (some inquiry.slot) inquiry.other none inquiry.args inquiry.name
  obtain ⟨facts, τ, inv⟩ := reached.inv
  obtain ⟨later, grows, order⟩ := reached.grows_inquiry looks inv
  have left : ∀ slot ∈ slots, Usable setting.engine (owners slots.objects : Held) slot.2 := by
    intro slot member
    rw [held]
    exact reached.usable _ (List.mem_map_of_mem (subset member))
  have right : ∀ slot ∈ (inquiry.ask setting state).1.slots, Usable setting.engine
      (owners (inquiry.ask setting state).1.slots.objects : Held) slot.2 :=
    fun slot member => reached'.usable _ (List.mem_map_of_mem member)
  -- something is held, before and after, so that the engine is loaded in both
  have loaded : later.loaded = facts.loaded := by
    rw [inv.loaded nonempty]
    obtain ⟨r, lends⟩ := (accompanied_owners state.slots.objects).exists_lends nonempty
    have alikes : Alike id slots.objects (inquiry.ask setting state).1.slots.objects :=
      List.forall₂_map_left_iff.2 (List.forall₂_map_right_iff.2 (alike.imp fun _ _ same => same.2))
    have twins := Entity.twins (e := setting.engine)
      (List.forall_mem_map.2 fun slot member => (left slot member).coherent)
      (List.forall_mem_map.2 fun slot member => (right slot member).coherent) alikes
    have lends' := (twins.lends r).2 ⟨r, held ▸ lends, rfl⟩
    obtain ⟨τ', inv'⟩ := order
    exact inv'.loaded lends'.ne_zero
  obtain ⟨shift, shifted, base, links, order'⟩ := grows.exists_shift loaded order
  let side : Side := ⟨setting.remembers, begin.world, []⟩
  refine ⟨⟨setting.engine, side, side, shift⟩, facts, slots, rfl, rfl, rfl, get, ?_, distinct, ?_⟩
  · refine SlotsMatch.shifted (D := alone setting.engine side) (H := (owners slots.objects,
      owners (inquiry.ask setting state).1.slots.objects)) (fun r lends => ?_) left right ?_
    · obtain ⟨o, within, owned⟩ := held ▸ lends
      have acquired := (inv.books.recent (inv.alive within).1 owned).1
      have before : r.serial < shift.base :=
        base.symm ▸ inv.shows.acquired ▸ inv.books.serial_lt acquired
      exact (if_pos before).trans (congrFun Shift.rename_zero r).symm
    · rw [show (alone setting.engine side).shift.rename = id from Shift.rename_zero]
      exact alike
  · rw [Grip.add_to_none]
    refine ⟨facts, shifted, .refl facts, links, ⟨τ, ?_⟩, order'⟩
    exact held.symm ▸ inv

/-- After an object was looked at, the replies of all objects are the same as before. -/
theorem reply_after (reached : Reached setting begin state) {first second : Inquiry}
    (looks : first.Looks state)
    (still : second.other = none → ∀ o, state.slots.get? second.slot = some o →
      ¬ o.Reparses second.name) :
    (second.ask setting (first.ask setting state).1).2 = (second.ask setting state).2 := by
  by_cases none : (owners state.slots.objects : Held) = 0
  · obtain ⟨_, meets⟩ := reached.meet
    have empty (o : Object) (found : state.slots.get? first.slot = some o) : owners o = [] := by
      rw [Slots.owners_split meets.distinct first.slot, found] at none
      exact (Multiset.coe_eq_zero _).1 (add_eq_zero.1 none).1
    obtain ⟨world, slots⟩ := State.inquiry_ended setting looks empty
    exact State.reply_askSlot world slots _ _ _ _ _ _
  obtain ⟨D, base, slots, engine, left, right, get, meets⟩ := reached.meets_inquiry looks none
  have still (single : second.other = Option.none) (o : Object)
      (found : Slots.get? slots second.slot = some o) : ¬ o.Reparses second.name :=
    still single o (get _ ▸ found)
  have replies := (meets.askSlot still Option.none second.args).2
  have world : ({ state with slots } : State).world = state.world := rfl
  have before : (second.ask setting { state with slots }).2 = (second.ask setting state).2 :=
    State.reply_askSlot world get _ _ _ _ _ _
  have same (side : Side) (remembers : side.remembers = setting.remembers) :
      side.setting D.engine = setting := by
    rw [Side.setting, engine, remembers]
  rw [same _ left, same _ right] at replies
  exact replies.symm.trans before

end Session.Reached

/-- Only three names are of queries that do not just look. -/
theorem Inquiry.looks_of_name {inquiry : Inquiry}
    (name : inquiry.name ∉ ["reparse", "next", "rest"]) (state : State) : inquiry.Looks state := by
  simp only [List.mem_cons, List.not_mem_nil, or_false, not_or] at name
  refine fun _ object _ => ⟨fun reparses => name.1 reparses.2, fun advances => ?_⟩
  cases object <;> first | exact advances.elim name.2.1 name.2.2 | exact advances

/-- A session gives the same replies whether or not it remembers answers, if parsing again never
changes a spelling. And queries that only look give the same replies in either order. -/
theorem memory_transparent (engine : Engine) :
    (engine.KeepsSpelling → ∀ steps,
      (Session.run ⟨engine, true⟩ steps).observed =
        (Session.run ⟨engine, false⟩ steps).observed) ∧
    ∀ remembers begin state, Session.Reached ⟨engine, remembers⟩ begin state →
      ∀ first second : Inquiry, first.Looks state → second.Looks state →
        (second.ask ⟨engine, remembers⟩ (first.ask ⟨engine, remembers⟩ state).1).2 =
            (second.ask ⟨engine, remembers⟩ state).2 ∧
          (first.ask ⟨engine, remembers⟩ (second.ask ⟨engine, remembers⟩ state).1).2 =
            (first.ask ⟨engine, remembers⟩ state).2 := by
  refine ⟨fun keeps steps => ?_, fun remembers begin state reached first second looks looks' => ?_⟩
  · obtain ⟨ran, reports⟩ := (meet_start engine true false).steps ⟨rfl, .inl keeps⟩ steps
    exact (ran.finishThread reports).2.2
  · exact ⟨reached.reply_after looks fun single o found => (looks' single o found).1,
      reached.reply_after looks' fun single o found => (looks single o found).1⟩

open Session in
/-- The clone of a root knows the name that the root was asked for, and does not ask again. When the
unit is parsed again, under its name, its root is another one and has another name. -/
theorem memory_transparent_reparse :
    let steps := Sample.looks ++ Sample.ask "spelling" (some "d") none :: Sample.renews ++
      [Sample.ask "spelling" (some "c") none]
    let state := Sample.after Sample.looks
    let renewed := Sample.after (Sample.looks ++ Sample.renews)
    let spelling : Inquiry := { slot := "d", name := "spelling", args := .null }
    let type : Inquiry := { slot := "c", name := "type", args := .null }
    Sample.engine.KeepsSpelling ∧ (Sample.engine.unit 0).reparseBecomes = some 1 ∧
      (Session.run ⟨Sample.engine, true⟩ steps).observed =
        (Session.run ⟨Sample.engine, false⟩ steps).observed ∧
      (spelling.ask Sample.setting state).1.world.trace = state.world.trace ∧
      (spelling.ask Sample.setting state).2 = .shown (.str "x") ∧
      (spelling.ask Sample.setting (type.ask Sample.setting state).1).2 =
        (spelling.ask Sample.setting state).2 ∧
      (type.ask Sample.setting (spelling.ask Sample.setting state).1).2 =
        (type.ask Sample.setting state).2 ∧
      (({ spelling with slot := "c" } : Inquiry).ask Sample.setting renewed).2 =
        .shown (.str "y") := by
  have keeps : Sample.engine.KeepsSpelling := by
    intro table table' becomes
    match table with
    | 0 =>
        obtain rfl : 1 = table' := Option.some.inj becomes
        rfl
    | 1 => exact nomatch becomes
    | _ + 2 => exact nomatch becomes
  obtain ⟨runs, looks⟩ := memory_transparent Sample.engine
  have run := runs keeps (Sample.looks ++ Sample.ask "spelling" (some "d") none :: Sample.renews ++
    [Sample.ask "spelling" (some "c") none])
  have renewed : (({ slot := "c", name := "spelling", args := .null } : Inquiry).ask Sample.setting
      (Sample.after (Sample.looks ++ Sample.renews))).2 = .shown (.str "y") := by
    cbv
  have reached := Sample.reached Sample.looks
  dsimp only
  generalize named : Sample.after Sample.looks = state at *
  have known : (({ slot := "d", name := "spelling", args := .null } : Inquiry).ask Sample.setting
      state).1.world.trace = state.world.trace := by
    rw [← named]
    cbv
  have name : (({ slot := "d", name := "spelling", args := .null } : Inquiry).ask Sample.setting
      state).2 = .shown (.str "x") := by
    rw [← named]
    cbv
  obtain ⟨first, second⟩ := looks true {} state reached
    { slot := "c", name := "type", args := .null } { slot := "d", name := "spelling", args := .null }
    (Inquiry.looks_of_name (by decide) _) (Inquiry.looks_of_name (by decide) _)
  exact ⟨keeps, rfl, run, known, name, first, second, renewed⟩

end SourceAtlas
