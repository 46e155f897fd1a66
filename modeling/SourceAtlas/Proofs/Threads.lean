import SourceAtlas.Proofs.Asking

/-!
# Threads

A thread begins with a store in which nothing is its own. While it runs, the cells of the threads
around it are out of its reach, and when it holds nothing any more it has left none of its own. So
the thread around it finds the store in order.
-/

namespace SourceAtlas

namespace World

variable {v w : World} {first : CellId}

/-- The store in which a new thread begins. -/
def thread (w : World) : World :=
  { w with live := {}, loaded := false }

/-- Cells that have been freed count for nothing. -/
theorem total_eq_of_entries (more : w.cells.size ≤ v.cells.size)
    (same : ∀ c, v.find? c = w.find? c) (first : CellId) (f : Entry → Nat) :
    v.total first f = w.total first f := by
  have entries : v.total first f =
      ∑ c ∈ Finset.Ico first v.cells.size, (w.find? c).elim 0 f :=
    Finset.sum_congr rfl fun c _ => by rw [same]
  rw [entries]
  symm
  refine Finset.sum_subset (Finset.Ico_subset_Ico_right more) fun c there beyond => ?_
  have freed : w.find? c = none := by
    refine find?_eq_none_of_le (Nat.le_of_not_lt fun before => beyond ?_)
    exact Finset.mem_Ico.2 ⟨(Finset.mem_Ico.1 there).1, before⟩
  rw [freed]
  rfl

end World

namespace Inv

variable {engine : Engine} {side : Side} {facts inner : Facts} {τ τ' : Typing} {held : Held}
variable {v w : World}

/-- A store in which nothing has been taken yet is in order. -/
theorem begin {remembers : Bool} (clean : Clean w.trace)
    (known : ∀ {r}, .acquired r ∈ w.trace → r.serial < w.acquired)
    (texts : Settled w.trace w.texts) (live : w.live = {})
    (shows' : Shows engine ⟨remembers, w, []⟩ facts w) :
    Inv engine ⟨remembers, w, []⟩ facts (fun _ => none) 0 w where
  heap :=
    { sound := ⟨nofun, nofun, nofun⟩
      first_le := Nat.le_refl _
      within := nofun
      typed := fun member => absurd member (Multiset.notMem_zero _)
      described := fun here found => absurd (World.lt_size_of_find? found) (Nat.not_lt.2 here)
      counted := by
        intro c here
        have none : w.inner w.cells.size c = 0 := by
          rw [World.inner, World.total, Finset.Ico_self, Finset.sum_empty]
        rw [World.count_eq_zero_of_find? (World.find?_eq_none_of_le here)]
        exact none.symm.trans (Nat.zero_add _).symm }
  books :=
    { clean
      serial_lt := known
      start_lt := known
      start_le := Nat.le_refl _
      recent := nofun
      kind := nofun
      unique := nofun
      borrow := nofun
      out := by
        intro r
        refine ⟨.inl, fun out => out.elim id ?_⟩
        rintro ⟨c, here, owned⟩
        rw [World.resourceAt, World.find?_eq_none_of_le here] at owned
        cases owned
      live := by
        intro kind
        rw [World.tally, World.total, Finset.Ico_self, Finset.sum_empty, live]
        cases kind <;> rfl
      suffix := ⟨[], rfl⟩
      older := fun _ => rfl
      tables := ⟨Nat.le_refl _, fun _ => rfl⟩
      label := nofun
      apart := by
        intro c _ _ here _ number
        obtain ⟨r, owned, -⟩ := World.instanceAt_eq_some.1 number
        rw [World.resourceAt, World.find?_eq_none_of_le here] at owned
        cases owned }
  texts := texts
  past := List.nil_suffix
  shows := shows'
  owns o member := absurd member (Multiset.notMem_zero _)
  loaded := absurd rfl

/-- A thread that begins holds nothing. -/
theorem enter (inv : Inv engine side facts τ held w) :
    Inv engine ⟨side.remembers, w.thread, []⟩ { facts with loaded := false } (fun _ => none) 0
      w.thread :=
  begin inv.books.clean inv.books.serial_lt inv.texts rfl
    { acquired := inv.shows.acquired
      units := inv.shows.units
      indexes := inv.shows.indexes
      lists := inv.shows.lists
      loaded := rfl
      unit := fun here found => absurd (World.lt_size_of_find? found) (Nat.not_lt.2 here) }

/-- Nothing has been taken from the engine at the beginning of a session. -/
theorem start (engine : Engine) (remembers : Bool) :
    Inv engine ⟨remembers, {}, []⟩ ⟨0, 0, 0, 0, false, fun _ => 0, fun _ => ""⟩ (fun _ => none) 0 {} :=
  begin trivial (fun found => absurd found List.not_mem_nil) .nil rfl
    { acquired := rfl
      units := rfl
      indexes := rfl
      lists := rfl
      loaded := rfl
      unit := fun here found => absurd (World.lt_size_of_find? found) (Nat.not_lt.2 here) }

/-- A thread that holds nothing has no cells of its own. -/
theorem find?_eq_none (inv : Inv engine side facts τ 0 w) {c : CellId} (here : side.first ≤ c) :
    w.find? c = none := by
  cases found : w.find? c with
  | none => rfl
  | some entry =>
      obtain ⟨-, o, owns, -⟩ := inv.heap.described here found
      obtain rfl := inv.heap.sound.cell owns
      by_cases owner : o.resource.isSome
      · have within := inv.within_of_alive (fun _ absent => absurd absent (Multiset.notMem_zero _))
          owns owner found
        exact absurd rfl within.ne_zero
      · cases o with
        | cursor k =>
            obtain ⟨k', member, -⟩ := inv.cursor_of_alive owns found
            exact absurd member (Multiset.notMem_zero _)
        | _ => exact absurd rfl owner

/-! ## After a thread

The inner thread has ended, and holds nothing any more. -/

section

variable (inv : Inv engine side facts τ held w)
variable (ended : Inv engine ⟨side.remembers, w.thread, []⟩ inner τ' 0 v)
include ended

theorem leave_entries (c : CellId) : v.find? c = w.find? c := by
  rcases Nat.lt_or_ge c w.cells.size with before | beyond
  · exact ended.books.older before
  · rw [ended.find?_eq_none beyond, World.find?_eq_none_of_le beyond]

theorem leave_resources (c : CellId) : v.resourceAt c = w.resourceAt c := by
  rw [World.resourceAt, World.resourceAt, leave_entries ended]

theorem leave_total (first : CellId) (f : Entry → Nat) : v.total first f = w.total first f :=
  World.total_eq_of_entries ended.heap.first_le (leave_entries ended) first f

theorem leave_isOut (r : Resource) : IsOut v.trace r ↔ IsOut w.trace r := by
  refine ended.books.out.trans ⟨fun out => out.elim id ?_, .inl⟩
  rintro ⟨c, here, owned⟩
  rw [World.resourceAt, ended.find?_eq_none here] at owned
  cases owned

include inv

theorem leave_heap :
    Heap engine side.first τ (held.map Owner.cell)
      { v with live := w.live, loaded := w.loaded } where
  sound := inv.heap.sound
  first_le := inv.heap.first_le.trans ended.heap.first_le
  within owns := (inv.heap.within owns).imp id (Nat.lt_of_lt_of_le · ended.heap.first_le)
  typed := inv.heap.typed
  described here found := inv.heap.described here ((leave_entries ended _).symm.trans found)
  counted {c} here := by
    show v.count c = _ + v.inner side.first c
    rw [World.count, leave_entries ended, ← World.count, World.inner, leave_total ended]
    exact inv.heap.counted here

theorem leave_books :
    Books side.start τ { v with live := w.live, loaded := w.loaded } where
  clean := ended.books.clean
  serial_lt := ended.books.serial_lt
  start_lt := inv.books.start_lt
  start_le := inv.books.start_le.trans ended.books.start_le
  recent owns owned := by
    obtain ⟨newer, trace⟩ := ended.books.suffix
    exact (trace : v.trace = newer ++ w.trace) ▸ inv.books.recent_later newer owns owned
  kind := inv.books.kind
  unique := inv.books.unique
  borrow owns owned borrows := by
    obtain ⟨newer, trace⟩ := ended.books.suffix
    have trace : v.trace = newer ++ w.trace := trace
    have clean : Clean (newer ++ w.trace) := trace ▸ ended.books.clean
    have once := clean.acquired_not_mem_newer (inv.books.recent owns owned).1
    exact inv.books.borrow_later newer once owns owned (trace ▸ borrows)
  out {r} := by
    refine (leave_isOut ended r).trans (inv.books.out.trans ?_)
    exact or_congr_right (exists_congr fun c => by rw [← leave_resources ended c]; rfl)
  live kind := (inv.books.live kind).trans (leave_total ended _ _).symm
  suffix := by
    obtain ⟨newer, trace⟩ := ended.books.suffix
    exact (trace : v.trace = newer ++ w.trace) ▸ inv.books.suffix_later newer
  older before := (leave_entries ended _).trans (inv.books.older before)
  tables := by
    refine ⟨inv.books.tables.1.trans ended.books.tables.1, fun before => ?_⟩
    have earlier := Nat.lt_of_lt_of_le before inv.books.tables.1
    exact (ended.books.tables.2 earlier).trans (inv.books.tables.2 before)
  label owns := (inv.books.label owns).imp id (Nat.lt_of_lt_of_le · ended.books.tables.1)
  apart {c d n} here there mine yours := by
    have same (c : CellId) := World.instanceAt_congr (leave_resources ended c)
    exact inv.books.apart here there ((same c).symm.trans mine) ((same d).symm.trans yours)

theorem leave_unit {c : CellId} {entry : Entry} {context : Index} {spelling : Option String}
    {r : Resource} (here : side.first ≤ c) (found : v.find? c = some entry)
    (owned : entry.resource = some r) (content : entry.content = .unit context spelling) :
    v.table r = facts.table r ∧
      (side.known spelling).getD (engine.unitSpelling (v.table r)) = facts.spelling r := by
  have found : w.find? c = some entry := (leave_entries ended c).symm.trans found
  have label := (inv.unit_known here found owned content).2
  have table : v.table r = w.table r := by
    rw [World.table, World.table, ended.books.tables.2 label]
    rfl
  rw [table]
  exact inv.shows.unit here found owned content

end

/-- The thread around one that has ended finds the store in order. -/
theorem leave (inv : Inv engine side facts τ held w)
    (ended : Inv engine ⟨side.remembers, w.thread, []⟩ inner τ' 0 v) :
    Inv engine side
      { facts with
        acquired := inner.acquired
        units := inner.units
        indexes := inner.indexes
        lists := inner.lists }
      τ held { v with live := w.live, loaded := w.loaded } where
  heap := leave_heap inv ended
  books := leave_books inv ended
  texts := ended.texts
  past := by
    obtain ⟨newer, trace⟩ := ended.books.suffix
    exact inv.past.trans ⟨newer, trace.symm⟩
  shows :=
    { acquired := ended.shows.acquired
      units := ended.shows.units
      indexes := ended.shows.indexes
      lists := ended.shows.lists
      loaded := inv.shows.loaded
      unit := leave_unit inv ended }
  owns := inv.owns
  loaded := inv.loaded

end Inv

namespace Duo

variable {D : Duo} {s s' t t' : State}

/-- Two runs in a new thread each. -/
def thread (D : Duo) (w w' : World) : Duo :=
  { D with
    left := ⟨D.left.remembers, w.thread, []⟩
    right := ⟨D.right.remembers, w'.thread, []⟩ }

namespace Meet

/-- New threads begin in states that meet. -/
theorem enterThread (meet : D.Meet s s') :
    (D.thread s.world s'.world).Meet s.enterThread s'.enterThread := by
  obtain ⟨base, meets⟩ := meet
  obtain ⟨facts, facts', -, links, ⟨τ, inv⟩, τ', inv'⟩ := meets.holds
  have agrees : (D.thread s.world s'.world).Agrees 0 s.world.thread s'.world.thread := by
    refine .of_links (?_ : Shift.Links _ _ _) ⟨_, inv.enter⟩ ⟨_, inv'.enter⟩
    exact { links with loaded := rfl }
  obtain ⟨base, holds⟩ := agrees
  exact ⟨base, .nil, List.nodup_nil, holds⟩

/-- Threads that have ended leave states that meet. -/
theorem leaveThread (meet : D.Meet s s') (ended : (D.thread s.world s'.world).Meet t t')
    (empty : t.slots = []) : D.Meet (s.leaveThread t) (s'.leaveThread t') := by
  obtain ⟨base, meets⟩ := meet
  obtain ⟨_, ended⟩ := ended
  have empty' : t'.slots = [] := by
    have slots := ended.slots
    rw [empty] at slots
    exact List.forall₂_nil_left_iff.1 slots
  have holds := ended.holds
  rw [empty, empty'] at holds
  obtain ⟨inner, inner', -, links', ⟨σ, ended⟩, σ', ended'⟩ := holds
  obtain ⟨facts, facts', -, links, ⟨τ, inv⟩, τ', inv'⟩ := meets.holds
  have agrees : D.Agrees (Grip.add 0 s.slots.objects s'.slots.objects)
      (s.leaveThread t).world (s'.leaveThread t').world := by
    refine .of_links (?_ : Shift.Links _ _ _) ⟨τ, inv.leave ended⟩ ⟨τ', inv'.leave ended'⟩
    exact
      { links with
        base := links'.base
        acquired := links'.acquired
        units := links'.units
        indexes := links'.indexes
        lists := links'.lists }
  obtain ⟨base, holds⟩ := agrees
  exact ⟨base, meets.slots, meets.distinct, holds⟩

end Meet

end Duo

end SourceAtlas
