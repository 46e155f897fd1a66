import SourceAtlas.Proofs.Heap
import SourceAtlas.Proofs.Ledger
import SourceAtlas.Session.Count

/-!
# The books of a thread

What the trace and the counters of a thread say about its cells. A thread begins in some world. The
resources that are out are those that were out then, which the thread does not touch, and those that
its cells own. A resource borrows from its lenders only, and the live counts count owned resources.
-/

namespace SourceAtlas

namespace World

/-- The resource that a cell owns, while it has not been freed. -/
def resourceAt (w : World) (c : CellId) : Option Resource :=
  (w.find? c).bind (·.resource)

/-- The number of the unit instance that a cell owns, while it has not been freed. -/
def instanceAt (w : World) (c : CellId) : Option Nat :=
  (w.resourceAt c).bind fun r => if r.kind = .unit then some r.label else none

/-- One for an entry that owns a resource of a kind. -/
def ofKind (kind : ResourceKind) (entry : Entry) : Nat :=
  if entry.resource.map (·.kind) = some kind then 1 else 0

/-- How many resources of a kind the cells from a first one on own. -/
def tally (w : World) (first : CellId) (kind : ResourceKind) : Nat :=
  w.total first (ofKind kind)

variable {w v : World} {c d : CellId} {entry : Entry}

theorem resourceAt_eq (found : w.find? c = some entry) : w.resourceAt c = entry.resource := by
  rw [resourceAt, found]
  rfl

theorem resourceAt_put (found : w.find? c = some entry) (new : Option Entry) (d : CellId) :
    (w.put c new).resourceAt d = if d = c then new.bind (·.resource) else w.resourceAt d := by
  rw [resourceAt, find?_put found, resourceAt]
  split <;> rfl

theorem resourceAt_alloc (w : World) (resource : Option Resource) (content : Content)
    (d : CellId) :
    (w.alloc resource content).1.resourceAt d =
      if d = w.cells.size then resource else w.resourceAt d := by
  rw [resourceAt, find?_alloc, resourceAt]
  split <;> rfl

theorem resourceAt_size (w : World) : w.resourceAt w.cells.size = none := by
  rw [resourceAt, find?_eq_none_of_le (Nat.le_refl _)]
  rfl

theorem resourceAt_put_none (found : w.find? c = some entry) {r : Resource} :
    (w.put c none).resourceAt d = some r ↔ d ≠ c ∧ w.resourceAt d = some r := by
  rw [resourceAt_put found]
  by_cases same : d = c <;> simp [same]

theorem resourceAt_alloc_some {r s : Resource} {content : Content} :
    (w.alloc (some r) content).1.resourceAt d = some s ↔
      d = w.cells.size ∧ r = s ∨ w.resourceAt d = some s := by
  rw [resourceAt_alloc]
  by_cases same : d = w.cells.size
  · subst same
    simp [resourceAt_size]
  · simp [same]

theorem instanceAt_congr (same : v.resourceAt d = w.resourceAt c) :
    v.instanceAt d = w.instanceAt c := by
  rw [instanceAt, same, instanceAt]

theorem instanceAt_eq_some {n : Nat} :
    w.instanceAt c = some n ↔ ∃ r, w.resourceAt c = some r ∧ r.kind = .unit ∧ r.label = n := by
  unfold instanceAt
  rw [Option.bind_eq_some_iff]
  refine exists_congr fun r => and_congr_right fun _ => ?_
  by_cases unit : r.kind = .unit <;> simp [unit]

theorem instanceAt_of_put_none (found : w.find? c = some entry) {n : Nat}
    (number : (w.put c none).instanceAt d = some n) : w.instanceAt d = some n := by
  obtain ⟨r, owned, unit, label⟩ := instanceAt_eq_some.1 number
  exact instanceAt_eq_some.2 ⟨r, ((resourceAt_put_none found).1 owned).2, unit, label⟩

theorem instanceAt_of_alloc {r : Resource} {content : Content} {n : Nat}
    (number : (w.alloc (some r) content).1.instanceAt d = some n) :
    d = w.cells.size ∧ r.kind = .unit ∧ r.label = n ∨ w.instanceAt d = some n := by
  obtain ⟨s, owned, unit, label⟩ := instanceAt_eq_some.1 number
  rcases resourceAt_alloc_some.1 owned with ⟨new, rfl⟩ | old
  · exact .inl ⟨new, unit, label⟩
  · exact .inr (instanceAt_eq_some.2 ⟨s, old, unit, label⟩)

theorem ofKind_of_owned (kind : ResourceKind) {r : Resource} (owned : entry.resource = some r) :
    ofKind kind entry = if r.kind = kind then 1 else 0 := by
  simp [ofKind, owned]

theorem elim_ofKind (kind : ResourceKind) (new : Option Entry) :
    new.elim 0 (ofKind kind) =
      if (new.bind (·.resource)).map (·.kind) = some kind then 1 else 0 := by
  cases new with
  | none => exact (if_neg nofun).symm
  | some _ => rfl

/-- Whether the last event asked for a resource of some kind, and used no other resources than
some. -/
def Primed (w : World) (kind : ResourceKind) (resources : List Resource) : Prop :=
  ∃ event earlier, w.trace = event :: earlier ∧ event.Provides kind ∧
    ∀ s ∈ event.operands, s ∈ resources

/-- The table entry that a unit has at present. -/
def table (w : World) (unit : Resource) : Nat :=
  w.instances[unit.label]?.getD 0

end World

/-- The books of a thread that began in some world. -/
structure Books (start : World) (τ : Typing) (w : World) : Prop where
  clean : Clean w.trace
  serial_lt : ∀ {r}, .acquired r ∈ w.trace → r.serial < w.acquired
  start_lt : ∀ {r}, .acquired r ∈ start.trace → r.serial < start.acquired
  start_le : start.acquired ≤ w.acquired
  recent : ∀ {c o r}, τ c = some o → o.resource = some r →
    .acquired r ∈ w.trace ∧ start.acquired ≤ r.serial
  kind : ∀ {c o r}, τ c = some o → o.resource = some r → o.kind? = some r.kind
  unique : ∀ {c d o p r}, τ c = some o → τ d = some p → o.resource = some r →
    p.resource = some r → c = d
  borrow : ∀ {c o r s}, τ c = some o → o.resource = some r → Borrows w.trace r s →
    o.source? = some s
  out : ∀ {r}, IsOut w.trace r ↔
    IsOut start.trace r ∨ ∃ c, start.cells.size ≤ c ∧ w.resourceAt c = some r
  live : ∀ kind, w.live.get kind = w.tally start.cells.size kind
  suffix : ∃ newer, w.trace = newer ++ start.trace
  older : ∀ {c}, c < start.cells.size → w.find? c = start.find? c
  tables : start.instances.size ≤ w.instances.size ∧
    ∀ {i}, i < start.instances.size → w.instances[i]? = start.instances[i]?
  label : ∀ {c u}, τ c = some (.unit u) →
    start.instances.size ≤ u.resource.label ∧ u.resource.label < w.instances.size
  /-- Units have numbers of their own. -/
  apart : ∀ {c d n}, start.cells.size ≤ c → start.cells.size ≤ d → w.instanceAt c = some n →
    w.instanceAt d = some n → c = d

namespace Books

variable {engine : Engine} {start : World} {τ : Typing} {cells : Multiset CellId} {w v : World}
variable {c : CellId} {entry : Entry} {o : Owner} {r s : Resource}

/-- The books say nothing about what the cells hold besides their resources. -/
theorem congr (books : Books start τ w) (trace : v.trace = w.trace)
    (acquired : v.acquired = w.acquired) (live : v.live = w.live)
    (resources : ∀ c, start.cells.size ≤ c → v.resourceAt c = w.resourceAt c)
    (tallies : ∀ kind, v.tally start.cells.size kind = w.tally start.cells.size kind)
    (older : ∀ c, c < start.cells.size → v.find? c = w.find? c)
    (tables : w.instances.size ≤ v.instances.size ∧
      ∀ i, i < start.instances.size → v.instances[i]? = w.instances[i]?) : Books start τ v where
  clean := trace ▸ books.clean
  serial_lt found := by
    rw [trace] at found
    rw [acquired]
    exact books.serial_lt found
  start_lt := books.start_lt
  start_le := acquired ▸ books.start_le
  recent owns owned := by
    rw [trace]
    exact books.recent owns owned
  kind := books.kind
  unique := books.unique
  borrow owns owned borrows := books.borrow owns owned (trace ▸ borrows)
  out {r} := by
    rw [trace, books.out]
    refine or_congr_right (exists_congr fun c => and_congr_right fun here => ?_)
    rw [resources c here]
  live kind := by rw [live, tallies, books.live]
  suffix := trace ▸ books.suffix
  older before := (older _ before).trans (books.older before)
  tables := ⟨books.tables.1.trans tables.1, fun before =>
    (tables.2 _ before).trans (books.tables.2 before)⟩
  label owns := by
    have bounds := books.label owns
    exact ⟨bounds.1, bounds.2.trans_le tables.1⟩
  apart here there mine yours := by
    rw [World.instanceAt_congr (resources _ here)] at mine
    rw [World.instanceAt_congr (resources _ there)] at yours
    exact books.apart here there mine yours

/-- Writing a cell does not change the books if what it owns stays the same. -/
theorem put (books : Books start τ w) {new : Option Entry}
    (here : start.cells.size ≤ c) (found : w.find? c = some entry)
    (same : new.bind (·.resource) = entry.resource) : Books start τ (w.put c new) := by
  have resources (d : CellId) : (w.put c new).resourceAt d = w.resourceAt d := by
    rw [World.resourceAt_put found]
    split
    next equal => rw [equal, World.resourceAt_eq found, same]
    next => rfl
  have tallies (kind : ResourceKind) :
      (w.put c new).tally start.cells.size kind = w.tally start.cells.size kind := by
    have moved := World.total_put found here new (f := World.ofKind kind)
    rw [World.elim_ofKind, same] at moved
    exact Nat.add_right_cancel moved
  refine books.congr rfl rfl rfl (fun d _ => resources d) tallies (fun d before => ?_)
    ⟨Nat.le_refl _, fun _ _ => rfl⟩
  exact World.find?_put_ne found _ (Nat.ne_of_lt (Nat.lt_of_lt_of_le before here))

/-! ## Later events -/

theorem serial_lt_cons (books : Books start τ w) {event : Event}
    (other : ∀ r, event ≠ .acquired r) (found : .acquired r ∈ event :: w.trace) :
    r.serial < w.acquired := by
  rcases List.mem_cons.1 found with equal | found
  · exact absurd equal.symm (other r)
  · exact books.serial_lt found

theorem recent_later (books : Books start τ w) (newer : List Event) (owns : τ c = some o)
    (owned : o.resource = some r) :
    .acquired r ∈ newer ++ w.trace ∧ start.acquired ≤ r.serial :=
  (books.recent owns owned).imp_left (List.mem_append_right newer)

theorem borrow_later (books : Books start τ w) (newer : List Event) (once : .acquired r ∉ newer)
    (owns : τ c = some o) (owned : o.resource = some r)
    (borrows : Borrows (newer ++ w.trace) r s) : o.source? = some s :=
  books.borrow owns owned (borrows.of_later newer once)

theorem suffix_later (books : Books start τ w) (newer : List Event) :
    ∃ all, newer ++ w.trace = all ++ start.trace := by
  obtain ⟨before, split⟩ := books.suffix
  exact ⟨newer ++ before, by rw [split, List.append_assoc]⟩

/-- Other events are noted if they use what is out. -/
theorem note (books : Books start τ w) {event : Event} (acquired : ∀ r, event ≠ .acquired r)
    (disposed : ∀ r, event ≠ .disposed r) (out : ∀ r ∈ event.operands, IsOut w.trace r)
    (unmixed : event.Unmixed) : Books start τ (w.note event) :=
  { books with
    clean := by
      refine ⟨books.clean, fun r equal => absurd equal (acquired r), fun r uses => ?_, unmixed⟩
      cases uses with
      | operand member => exact out r member
      | itself => exact absurd rfl (disposed r)
      | lender _ => exact absurd rfl (disposed _)
    serial_lt := books.serial_lt_cons acquired
    recent := books.recent_later [event]
    borrow := by
      refine books.borrow_later [event] ?_
      rw [List.mem_singleton]
      exact (acquired _).symm
    out := (isOut_cons_of_ne (acquired _) (disposed _)).trans books.out
    live := books.live
    suffix := books.suffix_later [event] }

/-- A resource that is owned by a cell is out. -/
theorem isOut (books : Books start τ w)
    (here : start.cells.size ≤ c) (found : w.find? c = some entry)
    (owned : entry.resource = some r) : IsOut w.trace r :=
  books.out.2 (.inr ⟨c, here, (World.resourceAt_eq found).trans owned⟩)

/-! ## Giving a resource back -/

theorem isOut_disposed_iff {trace : List Event} :
    IsOut (.disposed r :: trace) s ↔ IsOut trace s ∧ s ≠ r := by
  by_cases same : s = r
  · subst same
    constructor
    · exact fun out => absurd List.mem_cons_self out.2
    · exact fun out => absurd rfl out.2
  · have other : Event.disposed r ≠ .disposed s :=
      fun equal => same (Event.disposed.inj equal).symm
    exact (isOut_cons_of_ne (by nofun) other).trans (and_iff_left same).symm

theorem isOut_acquired_iff {trace : List Event} (unused : .disposed r ∉ trace) :
    IsOut (.acquired r :: trace) s ↔ IsOut trace s ∨ s = r := by
  by_cases same : s = r
  · subst same
    refine ⟨fun _ => .inr rfl, fun _ => ⟨List.mem_cons_self, ?_⟩⟩
    rw [List.mem_cons, not_or]
    exact ⟨nofun, unused⟩
  · have other : Event.acquired r ≠ .acquired s :=
      fun equal => same (Event.acquired.inj equal).symm
    exact (isOut_cons_of_ne other (by nofun)).trans (or_iff_left same).symm

/-- The owner of a cell that owns a resource owns that resource. -/
theorem owner_of_resourceAt (heap : Heap engine start.cells.size τ cells w)
    (here : start.cells.size ≤ c) (owned : w.resourceAt c = some r) :
    ∃ entry o, w.find? c = some entry ∧ τ c = some o ∧ o.resource = some r := by
  obtain ⟨entry, found, owned⟩ := Option.bind_eq_some_iff.1 owned
  obtain ⟨-, o, owns, describes⟩ := heap.described here found
  exact ⟨entry, o, found, owns, describes.1.symm.trans owned⟩

/-- A resource has one owner. -/
theorem unique_cell (books : Books start τ w) (heap : Heap engine start.cells.size τ cells w)
    {d : CellId} (here : start.cells.size ≤ c) (owned : w.resourceAt c = some r)
    (there : start.cells.size ≤ d) (owned' : w.resourceAt d = some r) : c = d := by
  obtain ⟨-, o, -, owns, mine⟩ := owner_of_resourceAt heap here owned
  obtain ⟨-, p, -, owns', mine'⟩ := owner_of_resourceAt heap there owned'
  exact books.unique owns owns' mine mine'

/-- What a cell's resource borrows from is out while the cell has not been freed. -/
theorem isOut_lender (books : Books start τ w) (heap : Heap engine start.cells.size τ cells w)
    (found : w.find? c = some entry) (owns : τ c = some o) {p : Owner} (lends : p ∈ o.lenders)
    (owned : p.resource = some s) : IsOut w.trace s := by
  obtain ⟨ownsP, entry', found', describes⟩ := heap.alive_of_lends found owns lends
  exact books.isOut (heap.within ownsP).1 found' (describes.1.trans owned)

/-- The resource of a cell that is freed is not out any more, and all others are as before. -/
theorem out_free (books : Books start τ w) (heap : Heap engine start.cells.size τ cells w)
    (here : start.cells.size ≤ c) (found : w.find? c = some entry)
    (owned : entry.resource = some r) :
    IsOut (.disposed r :: w.trace) s ↔
      IsOut start.trace s ∨ ∃ d, start.cells.size ≤ d ∧ (w.put c none).resourceAt d = some s := by
  have mine : w.resourceAt c = some r := (World.resourceAt_eq found).trans owned
  simp only [isOut_disposed_iff, books.out, World.resourceAt_put_none found]
  constructor
  · rintro ⟨before | ⟨d, there, theirs⟩, different⟩
    · exact .inl before
    · refine .inr ⟨d, there, ?_, theirs⟩
      rintro rfl
      exact different (Option.some.inj (theirs.symm.trans mine))
  · rintro (before | ⟨d, there, other, theirs⟩)
    · refine ⟨.inl before, ?_⟩
      -- what was out at the start has been handed out before anything that the thread owns
      rintro rfl
      obtain ⟨-, o, -, owns, owned⟩ := owner_of_resourceAt heap here mine
      exact absurd (books.start_lt before.1) (Nat.not_lt.2 (books.recent owns owned).2)
    · refine ⟨.inr ⟨d, there, theirs⟩, ?_⟩
      rintro rfl
      exact other (books.unique_cell heap there theirs here mine)

theorem live_free (books : Books start τ w) (here : start.cells.size ≤ c)
    (found : w.find? c = some entry) (owned : entry.resource = some r) (kind : ResourceKind) :
    (w.live.modify r.kind (· - 1)).get kind = (w.put c none).tally start.cells.size kind := by
  have before := books.live kind
  have moved : (w.put c none).tally start.cells.size kind + World.ofKind kind entry =
      w.tally start.cells.size kind := World.total_put found here none
  rw [World.ofKind_of_owned kind owned] at moved
  rw [LiveCounts.get_modify]
  split
  next equal =>
    subst equal
    rw [if_pos rfl] at moved
    omega
  next different =>
    rw [if_neg (Ne.symm different)] at moved
    omega

/-- A cell is freed, and its resource is disposed of while its lenders are out. -/
theorem free (books : Books start τ w) (heap : Heap engine start.cells.size τ cells w)
    (found : w.find? c = some entry) (owns : τ c = some o) :
    Books start τ ((w.put c none).disposeOption entry.resource) := by
  have here := (heap.within owns).1
  have describes := (heap.describes found owns).2
  cases owned : entry.resource with
  | none => exact books.put here found owned.symm
  | some r =>
      have mine : o.resource = some r := describes.1.symm.trans owned
      exact
        { books with
          clean := by
            refine ⟨books.clean, nofun, fun s uses => ?_, trivial⟩
            cases uses with
            | operand member => exact absurd member List.not_mem_nil
            | itself => exact books.isOut here found owned
            | lender borrows =>
                -- the cell that is freed still refers to its lender, so that this one is out
                obtain ⟨p, lends, same⟩ :=
                  Owner.exists_lender_of_source (books.borrow owns mine borrows)
                exact books.isOut_lender heap found owns lends same
          serial_lt := books.serial_lt_cons (by nofun)
          recent := books.recent_later [_]
          borrow := by
            refine books.borrow_later [.disposed r] ?_
            rw [List.mem_singleton]
            exact nofun
          out := books.out_free heap here found owned
          live := books.live_free here found owned
          suffix := books.suffix_later [_]
          older := by
            intro d before
            have other : d ≠ c := Nat.ne_of_lt (Nat.lt_of_lt_of_le before here)
            exact (World.find?_put_ne found none other).trans (books.older before)
          tables := books.tables
          label := books.label
          apart := fun here there mine yours => books.apart here there
            (World.instanceAt_of_put_none found mine) (World.instanceAt_of_put_none found yours) }

/-! ## Taking a resource -/

/-- A new memo does not change the books. -/
theorem grow (books : Books start τ w) (heap : Heap engine start.cells.size τ cells w)
    (memo : o.resource = none) (content : Content) :
    Books start (τ.extend o) (w.alloc none content).1 := by
  have resources (d : CellId) : (w.alloc none content).1.resourceAt d = w.resourceAt d := by
    rw [World.resourceAt_alloc]
    split
    next equal =>
      rw [equal, World.resourceAt, World.find?_eq_none_of_le (Nat.le_refl _)]
      rfl
    next => rfl
  have same : Books start τ (w.alloc none content).1 := by
    refine books.congr rfl rfl rfl (fun d _ => resources d) (fun kind => ?_) (fun d before => ?_)
      ⟨Nat.le_refl _, fun _ _ => rfl⟩
    · exact World.total_alloc heap.first_le _ _ _
    · rw [World.find?_alloc, if_neg (Nat.ne_of_lt (Nat.lt_of_lt_of_le before heap.first_le))]
  -- the new owner has no resource, so that whoever has one is not new
  have old {c : CellId} {p : Owner} {r : Resource} (owns : τ.extend o c = some p)
      (owned : p.resource = some r) : τ c = some p := by
    rcases Typing.extend_cases owns with ⟨-, rfl⟩ | owns
    · exact nomatch memo.symm.trans owned
    · exact owns
  exact
    { same with
      recent := fun owns owned => books.recent (old owns owned) owned
      kind := fun owns owned => books.kind (old owns owned) owned
      unique := fun ownsP ownsQ ownedP ownedQ =>
        books.unique (old ownsP ownedP) (old ownsQ ownedQ) ownedP ownedQ
      borrow := fun owns owned => books.borrow (old owns owned) owned
      label := fun owns => books.label (old owns rfl) }

theorem not_acquired_next (books : Books start τ w) (kind : ResourceKind) (label : Nat) :
    .acquired ⟨kind, w.acquired, label⟩ ∉ w.trace :=
  fun found => Nat.lt_irrefl _ (books.serial_lt found)

theorem not_disposed_next (books : Books start τ w) (kind : ResourceKind) (label : Nat) :
    .disposed ⟨kind, w.acquired, label⟩ ∉ w.trace :=
  fun gone => books.not_acquired_next kind label (books.clean.acquired_of_disposed gone)

theorem clean_acquire (books : Books start τ w) {kind : ResourceKind} {lenders : List Resource}
    (primed : w.Primed kind lenders) (label : Nat) : Clean (w.acquire kind label).1.trace := by
  refine ⟨books.clean, fun r equal => ?_, fun r uses => ?_, trivial⟩
  · obtain rfl := Event.acquired.inj equal
    obtain ⟨prior, older, split, provides, -⟩ := primed
    exact ⟨fun s found => books.serial_lt found, prior, older, split, provides⟩
  · cases uses with
    | operand member => exact absurd member List.not_mem_nil

theorem serial_lt_acquire (books : Books start τ w) (kind : ResourceKind) (label : Nat)
    (found : .acquired r ∈ (w.acquire kind label).1.trace) :
    r.serial < (w.acquire kind label).1.acquired := by
  rcases List.mem_cons.1 found with equal | found
  · obtain rfl := Event.acquired.inj equal
    exact Nat.lt_succ_self _
  · exact Nat.lt_succ_of_lt (books.serial_lt found)

/-- What an owner has is not handed out again. -/
theorem ne_next (books : Books start τ w) (owns : τ c = some o) (owned : o.resource = some r)
    (kind : ResourceKind) (label : Nat) : r ≠ ⟨kind, w.acquired, label⟩ := by
  rintro rfl
  exact books.not_acquired_next kind label (books.recent owns owned).1

/-- What is handed out borrows from the lenders that were just used. -/
theorem borrows_next (books : Books start τ w) {kind : ResourceKind} {lenders : List Resource}
    (primed : w.Primed kind lenders) {label : Nat}
    (borrows : Borrows (w.acquire kind label).1.trace ⟨kind, w.acquired, label⟩ s) :
    s ∈ lenders := by
  obtain ⟨event, earlier, split, -, operands⟩ := primed
  have borrows : Borrows (.acquired ⟨kind, w.acquired, label⟩ :: w.trace) _ s := borrows
  rw [split] at borrows
  cases borrows with
  | acquired member => exact operands s member
  | later borrows =>
      rw [← split] at borrows
      exact absurd borrows.acquired_mem (books.not_acquired_next kind label)

theorem out_own (books : Books start τ w) (heap : Heap engine start.cells.size τ cells w)
    (kind : ResourceKind) (label : Nat) (content : Content) :
    IsOut (w.acquire kind label).1.trace s ↔ IsOut start.trace s ∨ ∃ c, start.cells.size ≤ c ∧
      (w.alloc (some ⟨kind, w.acquired, label⟩) content).1.resourceAt c = some s := by
  show IsOut (.acquired _ :: w.trace) s ↔ _
  simp only [isOut_acquired_iff (books.not_disposed_next kind label), books.out, or_assoc,
    World.resourceAt_alloc_some]
  refine or_congr_right ⟨?_, ?_⟩
  · rintro (⟨d, there, owned⟩ | rfl)
    · exact ⟨d, there, .inr owned⟩
    · exact ⟨_, heap.first_le, .inl ⟨rfl, rfl⟩⟩
  · rintro ⟨d, there, ⟨-, rfl⟩ | owned⟩
    · exact .inr rfl
    · exact .inl ⟨d, there, owned⟩

theorem live_own (books : Books start τ w) (here : start.cells.size ≤ w.cells.size)
    (r : Resource) (content : Content) (kind : ResourceKind) :
    (w.live.modify r.kind (· + 1)).get kind =
      (w.alloc (some r) content).1.tally start.cells.size kind := by
  have before := books.live kind
  rw [World.tally] at before ⊢
  rw [World.total_alloc here, World.ofKind_of_owned kind rfl, ← before, LiveCounts.get_modify]
  split
  next equal => rw [equal, if_pos rfl]
  next different => rw [if_neg (Ne.symm different), Nat.add_zero]

/-- A new cell owns a new resource, which borrows from the lenders that were just used. -/
theorem own (books : Books start τ w) (heap : Heap engine start.cells.size τ cells w)
    (fresh : o.cell = w.cells.size) {kind : ResourceKind} {label : Nat}
    (owned : o.resource = some ⟨kind, w.acquired, label⟩) (sort : o.kind? = some kind)
    {lenders : List Resource} (primed : w.Primed kind lenders)
    (known : ∀ s ∈ lenders, o.source? = some s)
    (labelled : ∀ u, o = .unit u → start.instances.size ≤ label ∧ label < w.instances.size)
    (unused : kind = .unit → ∀ c, start.cells.size ≤ c → w.instanceAt c ≠ some label)
    (content : Content) :
    Books start (τ.extend o)
      ((w.acquire kind label).1.alloc (some ⟨kind, w.acquired, label⟩) content).1 where
  clean := books.clean_acquire primed label
  serial_lt := books.serial_lt_acquire kind label
  start_lt := books.start_lt
  start_le := Nat.le_succ_of_le books.start_le
  recent := by
    intro c p r owns owned'
    rcases Typing.extend_cases owns with ⟨-, rfl⟩ | owns
    · obtain rfl := Option.some.inj (owned.symm.trans owned')
      exact ⟨List.mem_cons_self, books.start_le⟩
    · exact books.recent_later [_] owns owned'
  kind := by
    intro c p r owns owned'
    rcases Typing.extend_cases owns with ⟨-, rfl⟩ | owns
    · obtain rfl := Option.some.inj (owned.symm.trans owned')
      exact sort
    · exact books.kind owns owned'
  unique := by
    intro c d p q r ownsP ownsQ ownedP ownedQ
    -- an old owner has a resource with a lower serial than that of the new one
    rcases Typing.extend_cases ownsP with ⟨hereP, rfl⟩ | oldP <;>
      rcases Typing.extend_cases ownsQ with ⟨hereQ, rfl⟩ | oldQ
    · rw [hereP, hereQ]
    · exact absurd (Option.some.inj (ownedP.symm.trans owned)) (books.ne_next oldQ ownedQ kind label)
    · exact absurd (Option.some.inj (ownedQ.symm.trans owned)) (books.ne_next oldP ownedP kind label)
    · exact books.unique oldP oldQ ownedP ownedQ
  borrow := by
    intro c p r s owns owned' borrows
    rcases Typing.extend_cases owns with ⟨-, rfl⟩ | owns
    · obtain rfl := Option.some.inj (owned.symm.trans owned')
      exact known s (books.borrows_next primed borrows)
    · refine books.borrow_later [_] ?_ owns owned' borrows
      rw [List.mem_singleton, Event.acquired.injEq]
      exact books.ne_next owns owned' kind label
  out := books.out_own heap kind label content
  live := books.live_own heap.first_le ⟨kind, w.acquired, label⟩ content
  suffix := books.suffix_later [_]
  older := by
    intro c before
    have here : c ≠ (w.acquire kind label).1.cells.size :=
      Nat.ne_of_lt (Nat.lt_of_lt_of_le before heap.first_le)
    rw [World.find?_alloc, if_neg here]
    exact books.older before
  tables := books.tables
  label := by
    intro c u owns
    rcases Typing.extend_cases owns with ⟨-, rfl⟩ | owns
    · have mine : u.resource = _ := Option.some.inj owned
      rw [mine]
      exact labelled u rfl
    · exact books.label owns
  apart := by
    intro c d n here there mine yours
    rcases World.instanceAt_of_alloc mine with ⟨newC, unit, rfl⟩ | mine <;>
      rcases World.instanceAt_of_alloc yours with ⟨newD, unit', number⟩ | yours
    · rw [newC, newD]
    · exact absurd yours (unused unit d there)
    · subst number
      exact absurd mine (unused unit' c here)
    · exact books.apart here there mine yours

/-- A resource may be given back as soon as it was taken. -/
theorem refuse (books : Books start τ w) (kind : ResourceKind) (label : Nat)
    {lenders : List Resource} (primed : w.Primed kind lenders)
    (out : ∀ s ∈ lenders, IsOut w.trace s) :
    Books start τ ((w.acquire kind label).1.dispose ⟨kind, w.acquired, label⟩) :=
  have unused := books.not_disposed_next kind label
  { books with
    clean := by
      refine ⟨books.clean_acquire primed label, nofun, fun s uses => ?_, trivial⟩
      refine (isOut_acquired_iff unused).2 ?_
      cases uses with
      | operand member => exact absurd member List.not_mem_nil
      | itself => exact .inr rfl
      | lender borrows => exact .inl (out s (books.borrows_next primed borrows))
    serial_lt := by
      intro r found
      rcases List.mem_cons.1 found with equal | found
      · exact nomatch equal
      · exact books.serial_lt_acquire kind label found
    start_le := Nat.le_succ_of_le books.start_le
    recent := books.recent_later [_, _]
    borrow := by
      intro c o r s owns owned borrows
      refine books.borrow_later [_, _] ?_ owns owned borrows
      have other := books.ne_next owns owned kind label
      simpa using other
    out := by
      intro s
      show IsOut (.disposed _ :: .acquired _ :: w.trace) s ↔ _
      rw [isOut_disposed_iff, isOut_acquired_iff unused]
      -- no cell ever owns it, and no serial is used twice: the two events cancel out
      refine Iff.trans ⟨?_, fun out => ⟨.inl out, ?_⟩⟩ books.out
      · rintro ⟨out | rfl, different⟩
        · exact out
        · exact absurd rfl different
      · rintro rfl
        exact books.not_acquired_next kind label out.1
    live := by
      intro k
      have before := books.live k
      show ((w.live.modify kind (· + 1)).modify kind (· - 1)).get k = w.tally _ k
      rw [LiveCounts.get_modify, LiveCounts.get_modify, LiveCounts.get_modify, if_pos rfl]
      split
      next equal =>
        subst equal
        omega
      next => exact before
    suffix := books.suffix_later [_, _]
    older := books.older
    tables := books.tables
    label := books.label }

end Books

end SourceAtlas
