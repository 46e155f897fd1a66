import Mathlib.Data.List.Perm.Subperm
import SourceAtlas.Proofs.Queries
import SourceAtlas.Proofs.References

/-!
# How long resources are out

A resource of a thread is out exactly as long as an object in some slot keeps it. So the live counts
count what is kept, and they are what the thread has acquired less what it has disposed of.
-/

namespace SourceAtlas

open Relation

/-! ## What was taken and given back -/

def Event.taken? : Event → Option Resource
  | .acquired r => some r
  | _ => none

def Event.given? : Event → Option Resource
  | .disposed r => some r
  | _ => none

/-- The resources of a kind that some events hand out. -/
def takenOf (kind : ResourceKind) (events : List Event) : List Resource :=
  (events.filterMap Event.taken?).filter (·.kind = kind)

/-- The resources of a kind that some events give back. -/
def givenOf (kind : ResourceKind) (events : List Event) : List Resource :=
  (events.filterMap Event.given?).filter (·.kind = kind)

variable {kind : ResourceKind} {events start since : List Event} {event : Event} {r : Resource}

theorem Event.taken?_eq_some : event.taken? = some r ↔ event = .acquired r := by
  cases event <;> simp [taken?]

theorem Event.given?_eq_some : event.given? = some r ↔ event = .disposed r := by
  cases event <;> simp [given?]

theorem mem_takenOf : r ∈ takenOf kind events ↔ .acquired r ∈ events ∧ r.kind = kind := by
  simp [takenOf, Event.taken?_eq_some]

theorem mem_givenOf : r ∈ givenOf kind events ↔ .disposed r ∈ events ∧ r.kind = kind := by
  simp [givenOf, Event.given?_eq_some]

/-- What is picked from events that happen once is picked once. -/
theorem nodup_filterMap {pick : Event → Option Resource} {make : Resource → Event}
    (picks : ∀ {event r}, pick event = some r ↔ event = make r)
    (once : ∀ r, events.count (make r) ≤ 1) : (events.filterMap pick).Nodup := by
  rw [List.nodup_iff_count_le_one]
  intro r
  rw [List.count_filterMap]
  refine le_of_eq_of_le (List.countP_congr fun event _ => ?_) (once r)
  rw [beq_iff_eq, beq_iff_eq, picks]

theorem Clean.nodup_takenOf (clean : Clean events) : (takenOf kind events).Nodup :=
  (nodup_filterMap Event.taken?_eq_some clean.count_acquired_le_one).filter _

theorem Clean.nodup_givenOf (clean : Clean events) : (givenOf kind events).Nodup :=
  (nodup_filterMap Event.given?_eq_some clean.count_disposed_le_one).filter _

/-! ## One thread -/

namespace Inv

variable {engine : Engine} {side : Side} {facts : Facts} {τ : Typing} {held : Held} {w : World}

/-- What a thread has acquired was not acquired before the thread began. -/
theorem not_acquired_at_start (inv : Inv engine side facts τ held w)
    (trace : w.trace = since ++ side.start.trace) (taken : .acquired r ∈ since) :
    .acquired r ∉ side.start.trace := by
  intro before
  have clean : Clean (since ++ side.start.trace) := trace ▸ inv.books.clean
  exact clean.acquired_not_mem_newer before taken

/-- What the cells of a thread own was acquired since the thread began. -/
theorem acquired_of_owned (inv : Inv engine side facts τ held w)
    (trace : w.trace = since ++ side.start.trace) {c : CellId} (here : side.first ≤ c)
    (owned : w.resourceAt c = some r) : .acquired r ∈ since := by
  obtain ⟨entry, o, found, owns, mine⟩ := Books.owner_of_resourceAt inv.heap here owned
  obtain ⟨taken, recent⟩ := inv.books.recent owns mine
  rw [trace] at taken
  rcases List.mem_append.1 taken with taken | before
  · exact taken
  · exact absurd (inv.books.start_lt before) (Nat.not_lt.2 recent)

/-- What a thread has acquired is disposed of as soon as its cell is freed. -/
theorem disposed_iff (inv : Inv engine side facts τ held w)
    (trace : w.trace = since ++ side.start.trace) (taken : .acquired r ∈ since) :
    .disposed r ∈ w.trace ↔ ¬ ∃ c, side.first ≤ c ∧ w.resourceAt c = some r := by
  have found : .acquired r ∈ w.trace := trace ▸ List.mem_append_left _ taken
  have out : IsOut w.trace r ↔ ∃ c, side.first ≤ c ∧ w.resourceAt c = some r := by
    rw [inv.books.out]
    exact or_iff_right fun before => inv.not_acquired_at_start trace taken before.1
  rw [← out, IsOut, not_and, not_not]
  exact ⟨fun gone _ => gone, fun gone => gone found⟩

/-- A thread gives back only what it has acquired. -/
theorem acquired_of_disposed (inv : Inv engine side facts τ held w)
    (trace : w.trace = since ++ side.start.trace) (gone : .disposed r ∈ since) :
    .acquired r ∈ since := by
  have found := inv.books.clean.acquired_of_disposed (trace ▸ List.mem_append_left _ gone)
  rw [trace] at found
  rcases List.mem_append.1 found with taken | before
  · exact taken
  obtain ⟨newer, older, rfl⟩ := List.append_of_mem gone
  have clean : Clean (newer ++ .disposed r :: (older ++ side.start.trace)) := by
    have clean := inv.books.clean
    rwa [trace, List.append_assoc, List.cons_append] at clean
  have absent : .disposed r ∉ side.start.trace := fun again =>
    clean.not_disposed_before (List.mem_append_right _ again)
  have out : IsOut w.trace r := inv.books.out.2 (.inl ⟨before, absent⟩)
  exact absurd (trace ▸ List.mem_append_left _ gone) out.2

/-- Whenever a thread gives something back, more of the kind has been acquired than given back. -/
theorem given_lt_taken (inv : Inv engine side facts τ held w)
    (trace : w.trace = since ++ side.start.trace) {newer older : List Event}
    (split : since = newer ++ .disposed r :: older) :
    (givenOf r.kind older).length < (takenOf r.kind older).length := by
  have clean : Clean (newer ++ .disposed r :: (older ++ side.start.trace)) := by
    have clean := inv.books.clean
    rwa [trace, split, List.append_assoc, List.cons_append] at clean
  -- what is given back was acquired before, and not before the thread began
  have before {s : Resource} {a b : List Event} (same : since = a ++ .disposed s :: b) :
      .acquired s ∈ b := by
    have clean := inv.books.clean
    rw [trace, same, List.append_assoc, List.cons_append] at clean
    refine (List.mem_append.1 clean.acquired_before).resolve_right ?_
    refine inv.not_acquired_at_start trace (inv.acquired_of_disposed trace ?_)
    rw [same]
    exact List.mem_append_right _ (.head _)
  have distinct : (givenOf r.kind (.disposed r :: older)).Nodup := by
    have distinct : (givenOf r.kind _).Nodup := clean.tail.nodup_givenOf
    rw [← List.cons_append] at distinct
    rw [givenOf, List.filterMap_append, List.filter_append] at distinct
    exact (List.nodup_append.1 distinct).1
  have within : givenOf r.kind (.disposed r :: older) ⊆ takenOf r.kind older := by
    intro s member
    obtain ⟨gone, same⟩ := mem_givenOf.1 member
    refine mem_takenOf.2 ⟨?_, same⟩
    rcases List.mem_cons.1 gone with equal | gone
    · cases equal
      exact before split
    · obtain ⟨a, b, rfl⟩ := List.append_of_mem gone
      have found := before (s := s) (a := newer ++ .disposed r :: a) (b := b) (by simp [split])
      exact List.mem_append_right _ (.tail _ found)
  have first : givenOf r.kind (.disposed r :: older) = r :: givenOf r.kind older := by
    simp [givenOf, Event.given?]
  have bound := (List.subperm_of_subset distinct within).length_le
  rwa [first] at bound

/-- What has been acquired and not been given back is what the cells of the thread own. -/
theorem coe_taken_sdiff_given (inv : Inv engine side facts τ held w)
    (trace : w.trace = since ++ side.start.trace) (kind : ResourceKind) :
    (((takenOf kind since).toFinset \ (givenOf kind since).toFinset : Finset Resource) :
      Set Resource) = {r | (∃ c, side.first ≤ c ∧ w.resourceAt c = some r) ∧ r.kind = kind} := by
  ext r
  simp only [Finset.coe_sdiff, Set.mem_sdiff, List.coe_toFinset, Set.mem_ofPred_eq, mem_takenOf,
    mem_givenOf]
  constructor
  · rintro ⟨⟨taken, same⟩, kept⟩
    refine ⟨not_not.1 fun freed => kept ⟨?_, same⟩, same⟩
    have gone := (inv.disposed_iff trace taken).2 freed
    rw [trace] at gone
    refine (List.mem_append.1 gone).resolve_right fun before => ?_
    have clean := inv.books.clean
    rw [trace] at clean
    exact inv.not_acquired_at_start trace taken (clean.tail.acquired_of_disposed before)
  · rintro ⟨⟨c, here, owned⟩, same⟩
    have taken := inv.acquired_of_owned trace here owned
    refine ⟨⟨taken, same⟩, fun gone => ?_⟩
    exact (inv.disposed_iff trace taken).1 (trace ▸ List.mem_append_left _ gone.1) ⟨c, here, owned⟩

/-- What of a kind a thread has acquired is out or was given back. -/
theorem live_add_given (inv : Inv engine side facts τ held w) (accompanied : Accompanied held)
    (trace : w.trace = since ++ side.start.trace) (kind : ResourceKind) :
    w.live.get kind + (givenOf kind since).length = (takenOf kind since).length := by
  have clean : Clean (since ++ side.start.trace) := trace ▸ inv.books.clean
  have prefixed {pick : Event → Option Resource}
      (distinct : (((since ++ side.start.trace).filterMap pick).filter (·.kind = kind)).Nodup) :
      ((since.filterMap pick).filter (·.kind = kind)).Nodup := by
    rw [List.filterMap_append, List.filter_append] at distinct
    exact (List.nodup_append.1 distinct).1
  have taken : (takenOf kind since).Nodup := prefixed clean.nodup_takenOf
  have given : (givenOf kind since).Nodup := prefixed clean.nodup_givenOf
  have within : (givenOf kind since).toFinset ⊆ (takenOf kind since).toFinset := by
    intro r member
    rw [List.mem_toFinset, mem_givenOf] at member
    rw [List.mem_toFinset, mem_takenOf]
    exact ⟨inv.acquired_of_disposed trace member.1, member.2⟩
  have sum := Finset.card_sdiff_add_card_eq_card within
  rw [List.toFinset_card_of_nodup given, List.toFinset_card_of_nodup taken] at sum
  rw [← sum, ← Set.ncard_coe_finset, inv.coe_taken_sdiff_given trace, inv.live_eq accompanied]
  simp only [inv.lends_iff accompanied]

end Inv

/-! ## Sessions -/

namespace Session.Reached

variable {setting : Setting} {begin state : State}

/-- What the slots keep are the resources that the cells of the thread own. -/
theorem keeps_iff (reached : Reached setting begin state) (r : Resource) :
    state.Keeps r ↔ ∃ c, begin.world.cells.size ≤ c ∧ state.world.resourceAt c = some r := by
  obtain ⟨facts, τ, inv⟩ := reached.inv
  exact inv.keeps_iff state.slots.coe_refs r

theorem exists_since (reached : Reached setting begin state) :
    ∃ since, state.world.trace = since ++ begin.world.trace := by
  obtain ⟨facts, τ, inv⟩ := reached.inv
  exact inv.books.suffix

theorem disposed_iff (reached : Reached setting begin state) {since : List Event}
    (trace : state.world.trace = since ++ begin.world.trace) (taken : .acquired r ∈ since) :
    .disposed r ∈ state.world.trace ↔ ¬ state.Keeps r := by
  obtain ⟨facts, τ, inv⟩ := reached.inv
  rw [inv.disposed_iff trace taken, reached.keeps_iff]
  rfl

theorem acquired_of_keeps (reached : Reached setting begin state) {since : List Event}
    (trace : state.world.trace = since ++ begin.world.trace) (kept : state.Keeps r) :
    .acquired r ∈ since := by
  obtain ⟨facts, τ, inv⟩ := reached.inv
  obtain ⟨c, here, owned⟩ := (reached.keeps_iff r).1 kept
  exact inv.acquired_of_owned trace here owned

end Session.Reached

/-- Whether a thread that began in some state has out just what its slots keep, after some events. -/
structure Session.Exact (begin state : State) (since : List Event) : Prop where
  trace : state.world.trace = since ++ begin.world.trace
  finite : ∀ kind, {r | r.kind = kind ∧ .acquired r ∈ since ∧ state.Keeps r}.Finite
  live : ∀ kind, state.world.live.get kind =
    {r | r.kind = kind ∧ .acquired r ∈ since ∧ state.Keeps r}.ncard
  /-- What the thread has acquired is disposed of, unless it is kept. -/
  disposed : ∀ r, .acquired r ∈ since → (.disposed r ∈ state.world.trace ↔ ¬ state.Keeps r)
  acyclic : ∀ c, ¬ TransGen state.world.PointsTo c c
  /-- Every acquisition has raised its count by one, and every disposal has lowered it by one. -/
  balance : ∀ kind,
    state.world.live.get kind + (givenOf kind since).length = (takenOf kind since).length
  /-- Whenever something was disposed of, its count was not zero. -/
  positive : ∀ newer r older, since = newer ++ .disposed r :: older →
    (givenOf r.kind older).length < (takenOf r.kind older).length
  empty : state.slots = [] → state.world.live = {}

/-- In every state that a thread passes through, what is out is what its slots keep; and the step
that disposes of a resource is the one after which no slot keeps it any more. -/
theorem Session.Reached.out_while_kept {setting : Setting} {begin state : State}
    (reached : Session.Reached setting begin state) :
    (∃ since, Session.Exact begin state since) ∧
      ∀ step r, state.Keeps r →
        (.disposed r ∈ (state.step setting step).1.world.trace ↔
          ¬ (state.step setting step).1.Keeps r) := by
  obtain ⟨since, trace⟩ := reached.exists_since
  obtain ⟨facts, τ, inv⟩ := reached.inv
  have accompanied := accompanied_owners state.slots.objects
  have kept (kind : ResourceKind) : {r | r.kind = kind ∧ .acquired r ∈ since ∧ state.Keeps r} =
      ((takenOf kind since).toFinset \ (givenOf kind since).toFinset : Finset Resource) := by
    rw [inv.coe_taken_sdiff_given trace]
    ext r
    constructor
    · exact fun there => ⟨(reached.keeps_iff r).1 there.2.2, there.1⟩
    · intro there
      have keeps := (reached.keeps_iff r).2 there.1
      exact ⟨there.2, reached.acquired_of_keeps trace keeps, keeps⟩
  have live (kind : ResourceKind) : state.world.live.get kind =
      {r | r.kind = kind ∧ .acquired r ∈ since ∧ state.Keeps r}.ncard := by
    rw [kept, inv.coe_taken_sdiff_given trace, inv.live_eq accompanied]
    simp only [inv.lends_iff accompanied]
  refine ⟨⟨since, trace, fun kind => ?_, live, fun r => reached.disposed_iff trace,
    reached.ordered.acyclic, inv.live_add_given accompanied trace,
    fun newer r older => inv.given_lt_taken trace, fun empty => ?_⟩, fun step r before => ?_⟩
  · rw [kept]
    exact Finset.finite_toSet _
  · refine LiveCounts.ext_get fun kind => ?_
    have none : {r | r.kind = kind ∧ .acquired r ∈ since ∧ state.Keeps r} = ∅ := by
      refine Set.eq_empty_of_forall_notMem fun r there => ?_
      obtain ⟨c, root, -⟩ := there.2.2
      rw [empty] at root
      exact absurd root List.not_mem_nil
    rw [live, none, Set.ncard_empty]
    cases kind <;> rfl
  · have after := reached.step step
    obtain ⟨later, trace'⟩ := after.exists_since
    refine after.disposed_iff trace' ?_
    -- what was acquired before the step is among what was acquired before its end
    obtain ⟨newer, grown⟩ := reached.trace_step step
    have same : later = newer ++ since := by
      rw [trace', trace, ← List.append_assoc] at grown
      exact (List.append_cancel_right grown).symm
    rw [same]
    exact List.mem_append_right _ (reached.acquired_of_keeps trace before)

open Session in
/-- Cursors, and what is remembered about them, keep a unit that has lost its slot. It is disposed
of with the last of them. -/
theorem Session.Reached.out_while_kept_unit :
    let unit : Resource := ⟨.unit, 1, 0⟩
    let state := Sample.after (Sample.looks ++ [Sample.drop ["i", "u"]])
    let empty := (state.step Sample.setting (Sample.drop ["c", "d", "e", "l", "t"])).1
    (∃ since, Exact {} state since) ∧ state.world.live = { index := 1, unit := 1 } ∧
      state.Keeps unit ∧ .disposed unit ∈ empty.world.trace ∧ ¬ empty.Keeps unit := by
  dsimp only
  have reached := Sample.reached (Sample.looks ++ [Sample.drop ["i", "u"]])
  -- no more is needed of the state than what is computed here
  generalize named : Sample.after (Sample.looks ++ [Sample.drop ["i", "u"]]) = state at *
  have live : state.world.live = { index := 1, unit := 1 } := by
    rw [← named]
    cbv
  have taken : takenOf .unit state.world.trace = [⟨.unit, 1, 0⟩] := by
    rw [← named]
    cbv
  have given : givenOf .unit state.world.trace = [] := by
    rw [← named]
    cbv
  have last : givenOf .unit (state.step Sample.setting
      (Sample.drop ["c", "d", "e", "l", "t"])).1.world.trace = [⟨.unit, 1, 0⟩] := by
    rw [← named]
    cbv
  obtain ⟨⟨since, exact⟩, leaves⟩ := reached.out_while_kept
  have acquired : .acquired ⟨.unit, 1, 0⟩ ∈ since := by
    rw [← List.append_nil since, ← exact.trace]
    exact (mem_takenOf.1 (taken ▸ List.mem_singleton_self _)).1
  have kept : state.Keeps ⟨.unit, 1, 0⟩ := by
    refine not_not.1 fun free => ?_
    have disposed := mem_givenOf.2 ⟨(exact.disposed _ acquired).2 free, rfl⟩
    exact List.not_mem_nil (given ▸ disposed)
  have gone := (mem_givenOf.1 (last ▸ List.mem_singleton_self _)).1
  exact ⟨⟨since, exact⟩, live, kept, gone, (leaves _ _ kept).1 gone⟩

end SourceAtlas
