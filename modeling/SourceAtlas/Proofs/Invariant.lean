import Mathlib.Algebra.Ring.Int.Defs
import SourceAtlas.Proofs.Books

/-!
# The invariant

What holds of the store while a thread of a session runs, at each point where the thread holds some
references: its heap and its books are in order, all texts have been returned, and the counters, the
tables of the units and their spellings are what the session says they are.
-/

namespace SourceAtlas

/-- What a session could observe of the store, apart from what it holds. -/
structure Facts where
  acquired : Nat
  units : Nat
  indexes : Nat
  lists : Nat
  loaded : Bool
  /-- The table entry that each unit has at present. -/
  table : Resource → Nat
  /-- The spelling that each unit answers with. -/
  spelling : Resource → String

/-- What is observed after a resource was taken. Should it be a unit, it has an entry of the
tables. -/
def Facts.take (engine : Engine) (facts : Facts) (r : Resource) (entry : Nat) : Facts :=
  { facts with
    acquired := facts.acquired + 1
    table := fun s => if s = r then entry else facts.table s
    spelling := fun s => if s = r then (engine.unit entry).spelling.decoded else facts.spelling s }

theorem Facts.table_take (engine : Engine) (facts : Facts) (r s : Resource) (entry : Nat) :
    (facts.take engine r entry).table s = if s = r then entry else facts.table s :=
  rfl

theorem Facts.spelling_take (engine : Engine) (facts : Facts) (r s : Resource) (entry : Nat) :
    (facts.take engine r entry).spelling s =
      if s = r then (engine.unit entry).spelling.decoded else facts.spelling s :=
  rfl

/-- A thread of a run: whether answers are remembered, the world in which the thread began, and what
had passed at some time that the run looks back to. -/
structure Side where
  remembers : Bool
  start : World
  past : List Event

namespace Side

/-- The first cell of the thread. -/
def first (side : Side) : CellId :=
  side.start.cells.size

/-- What is read of a spelling that was remembered. -/
def known (side : Side) (spelling : Option String) : Option String :=
  if side.remembers then spelling else none

end Side

/-- The spelling of a unit that has an entry of the tables. -/
def Engine.unitSpelling (engine : Engine) (table : Nat) : String :=
  (engine.unit table).spelling.decoded

/-- Whether a store is as some facts say. -/
structure Shows (engine : Engine) (side : Side) (facts : Facts) (w : World) : Prop where
  acquired : w.acquired = facts.acquired
  units : w.instances.size = facts.units
  indexes : w.indexes = facts.indexes
  lists : w.commandLists = facts.lists
  loaded : w.loaded = facts.loaded
  unit : ∀ {c entry index spelling r}, side.first ≤ c → w.find? c = some entry →
    entry.resource = some r → entry.content = .unit index spelling →
    w.table r = facts.table r ∧
      (side.known spelling).getD (engine.unitSpelling (w.table r)) = facts.spelling r

/-! ## Texts -/

/-- By how much an event changes the number of texts that are out. -/
def Event.texts : Event → Int
  | .textTaken .. => 1
  | .textReturned _ => -1
  | _ => 0

theorem outstandingTexts_cons (event : Event) (events : List Event) :
    outstandingTexts (event :: events) = event.texts + outstandingTexts events := by
  have sum (events : List Event) : outstandingTexts events = (events.map Event.texts).sum := by
    unfold outstandingTexts
    rw [List.sum_eq_foldl, List.foldl_map]
    congr 1
    funext sum event
    cases event <;> first | rfl | exact (Int.add_zero sum).symm
  rw [sum, sum, List.map_cons, List.sum_cons]

/-- The number of the text that an event is about, if it is about one. -/
def Event.textSerial? : Event → Option Nat
  | .textTaken serial _ | .textCopied serial _ | .textReturned serial => some serial
  | _ => none

/-- What happens to a text from the time when it is taken until it is returned, newest first. -/
def textLife (serial : Nat) (text : EngineText) : List Event :=
  [.textReturned serial, .textCopied serial (text.map fun bytes => Utf8.decodeLossy bytes.untilNul),
    .textTaken serial text]

/-- Takes a text from the engine, reads it and returns it. -/
def World.tell (w : World) (text : EngineText) : World :=
  { w with trace := textLife w.texts text ++ w.trace, texts := w.texts + 1 }

/-- Takes two texts from the engine, and then reads and returns one after the other. -/
def World.tellBoth (w : World) (first second : EngineText) : World :=
  let copy (text : EngineText) := text.map fun bytes => Utf8.decodeLossy bytes.untilNul
  { w with
    trace := [.textReturned (w.texts + 1), .textCopied (w.texts + 1) (copy second),
      .textReturned w.texts, .textCopied w.texts (copy first), .textTaken (w.texts + 1) second,
      .textTaken w.texts first] ++ w.trace
    texts := w.texts + 2 }

/-- Whether each of the texts that were taken has been read and then returned. -/
structure Settled (trace : List Event) (texts : Nat) : Prop where
  none_out : outstandingTexts trace = 0
  life : ∀ serial < texts, ∃ text,
    trace.filter (·.textSerial? == some serial) = textLife serial text
  fresh : ∀ serial, texts ≤ serial → trace.filter (·.textSerial? == some serial) = []

namespace Settled

variable {trace : List Event} {texts : Nat}

theorem nil : Settled [] 0 :=
  ⟨rfl, fun _ bound => absurd bound (Nat.not_lt_zero _), fun _ _ => rfl⟩

/-- Other events leave the texts alone. -/
theorem cons (settled : Settled trace texts) {event : Event} (other : event.textSerial? = none) :
    Settled (event :: trace) texts := by
  have same (serial : Nat) : (event :: trace).filter (·.textSerial? == some serial) =
      trace.filter (·.textSerial? == some serial) :=
    List.filter_cons_of_neg (by rw [other]; exact Bool.false_ne_true)
  refine ⟨?_, fun serial bound => ?_, fun serial bound => ?_⟩
  · have still : event.texts = 0 := by
      cases event <;> first | rfl | exact nomatch other
    rw [outstandingTexts_cons, still, settled.none_out]
    rfl
  · rw [same]
    exact settled.life serial bound
  · rw [same]
    exact settled.fresh serial bound

/-- Some more texts are taken, read and returned, whatever comes in between. -/
theorem append (settled : Settled trace texts) {events : List Event} {next : Nat}
    (grows : texts ≤ next) (balanced : (events.map Event.texts).sum = 0)
    (old : ∀ serial, serial < texts ∨ next ≤ serial →
      events.filter (·.textSerial? == some serial) = [])
    (new : ∀ serial, texts ≤ serial → serial < next → ∃ text,
      events.filter (·.textSerial? == some serial) = textLife serial text) :
    Settled (events ++ trace) next := by
  refine ⟨?_, fun serial bound => ?_, fun serial bound => ?_⟩
  · clear old new
    have sum (events : List Event) :
        outstandingTexts (events ++ trace) = (events.map Event.texts).sum := by
      induction events with
      | nil => exact settled.none_out
      | cons event events ih =>
          rw [List.cons_append, outstandingTexts_cons, ih, List.map_cons, List.sum_cons]
    rw [sum, balanced]
  · rw [List.filter_append]
    rcases Nat.lt_or_ge serial texts with before | after
    · rw [old serial (.inl before)]
      exact settled.life serial before
    · obtain ⟨text, life⟩ := new serial after bound
      exact ⟨text, by rw [life, settled.fresh serial after, List.append_nil]⟩
  · rw [List.filter_append, old serial (.inr bound), settled.fresh serial (grows.trans bound)]
    rfl

end Settled

/-- What holds of the store while there are references to some cells. -/
structure Core (engine : Engine) (side : Side) (facts : Facts) (τ : Typing)
    (cells : Multiset CellId) (w : World) : Prop where
  heap : Heap engine side.first τ cells w
  books : Books side.start τ w
  texts : Settled w.trace w.texts
  past : side.past <:+ w.trace
  shows : Shows engine side facts w

/-- What holds of the store while a thread holds references to some owners. -/
structure Inv (engine : Engine) (side : Side) (facts : Facts) (τ : Typing) (held : Held)
    (w : World) : Prop extends Core engine side facts τ (held.map Owner.cell) w where
  owns : ∀ o ∈ held, τ.Owns o
  loaded : held ≠ 0 → facts.loaded = true

/-! ## What stays -/

namespace World

variable {w : World} {cell : CellId} {rest : CellRefs} {entry : Entry}

theorem release_nil (w : World) : w.release [] = w := by
  rw [release]

theorem release_freed (freed : w.find? cell = none) : w.release (cell :: rest) = w.release rest := by
  rw [release]
  split
  next => rfl
  next found => cases freed.symm.trans found

/-- One of several references is given up. -/
theorem release_shared (found : w.find? cell = some entry) (shared : 1 < entry.count) :
    w.release (cell :: rest) =
      (w.put cell (some { entry with count := entry.count - 1 })).release rest := by
  rw [release]
  split
  next freed => cases found.symm.trans freed
  next found' =>
    obtain rfl := Option.some.inj (found.symm.trans found')
    rw [if_pos shared]

/-- The last reference is given up, and then those that the cell held. -/
theorem release_last (found : w.find? cell = some entry) (last : ¬ 1 < entry.count) :
    w.release (cell :: rest) =
      ((w.put cell none).disposeOption entry.resource).release (refs entry.content ++ rest) := by
  rw [release]
  split
  next freed => cases found.symm.trans freed
  next found' =>
    obtain rfl := Option.some.inj (found.symm.trans found')
    rw [if_neg last]

end World

/-- To give up references is to lower the counts of cells and to free cells, over and over. -/
theorem World.release_closed {R : World → World → Prop} (refl : ∀ w, R w w)
    (trans : ∀ {u v w}, R w v → R v u → R w u)
    (lower : ∀ {w : World} {c entry}, w.find? c = some entry →
      R w (w.put c (some { entry with count := entry.count - 1 })))
    (free : ∀ {w : World} {c entry}, w.find? c = some entry →
      R w ((w.put c none).disposeOption entry.resource))
    (w : World) (pending : CellRefs) : R w (w.release pending) := by
  induction w, pending using World.release.induct with
  | case1 w =>
      rw [release_nil]
      exact refl w
  | case2 w cell rest freed ih =>
      rw [release_freed freed]
      exact ih
  | case3 w cell rest entry found shared ih =>
      rw [release_shared found shared]
      exact trans (lower found) ih
  | case4 w cell rest entry found last ih =>
      rw [release_last found last]
      exact trans (free found) ih

/-- Whether all cells that have not been freed hold what they held before. -/
def World.Survives (v w : World) : Prop :=
  ∀ ⦃c entry'⦄, v.find? c = some entry' →
    ∃ entry, w.find? c = some entry ∧ entry'.resource = entry.resource ∧
      entry'.content = entry.content

namespace World.Survives

variable {u v w : World} {c : CellId} {entry : Entry}

theorem of_cells (same : v.cells = w.cells) : v.Survives w :=
  fun _ _ found => ⟨_, find?_congr same _ ▸ found, rfl, rfl⟩

theorem trans (first : u.Survives v) (second : v.Survives w) : u.Survives w := by
  intro c entry'' found
  obtain ⟨entry', found', resource', content'⟩ := first found
  obtain ⟨entry, found, resource, content⟩ := second found'
  exact ⟨entry, found, resource'.trans resource, content'.trans content⟩

theorem put (found : w.find? c = some entry) (count : Nat) :
    (w.put c (some { entry with count })).Survives w := by
  intro d entry' found'
  rw [find?_put found] at found'
  split at found'
  next same =>
    cases found'
    exact ⟨entry, same ▸ found, rfl, rfl⟩
  next => exact ⟨entry', found', rfl, rfl⟩

theorem free (found : w.find? c = some entry) (resource : Option Resource) :
    ((w.put c none).disposeOption resource).Survives w := by
  intro d entry' found'
  rw [find?_congr (cells_disposeOption _ _), find?_put found] at found'
  split at found'
  next => exact nomatch found'
  next => exact ⟨entry', found', rfl, rfl⟩

theorem retain (w : World) (c : CellId) : (w.retain c).Survives w := by
  unfold World.retain
  split
  next entry found => exact put found _
  next => exact of_cells rfl

theorem release (w : World) (pending : CellRefs) : (w.release pending).Survives w :=
  release_closed (R := fun w v => v.Survives w) (fun _ => of_cells rfl)
    (fun first second => second.trans first) (fun found => put found _) (fun found => free found _)
    w pending

end World.Survives

namespace Shows

variable {engine : Engine} {side : Side} {facts : Facts} {w v : World}

/-- The facts do not depend on anything but counters, tables and the contents of units. -/
theorem congr (shows' : Shows engine side facts w) (acquired : v.acquired = w.acquired)
    (instances : v.instances = w.instances) (indexes : v.indexes = w.indexes)
    (lists : v.commandLists = w.commandLists) (loaded : v.loaded = w.loaded)
    (units : ∀ {c entry' index spelling}, v.find? c = some entry' →
      entry'.content = .unit index spelling →
      ∃ entry, w.find? c = some entry ∧ entry'.resource = entry.resource ∧
        entry'.content = entry.content) : Shows engine side facts v where
  acquired := acquired.trans shows'.acquired
  units := (congrArg Array.size instances).trans shows'.units
  indexes := indexes.trans shows'.indexes
  lists := lists.trans shows'.lists
  loaded := loaded.trans shows'.loaded
  unit {c entry index spelling r} here found owned content := by
    obtain ⟨before, found, resource, same⟩ := units found content
    have table : v.table r = w.table r := by rw [World.table, World.table, instances]
    rw [table]
    exact shows'.unit here found (resource.symm.trans owned) (same.symm.trans content)

theorem survive (shows' : Shows engine side facts w) (survives : v.Survives w)
    (acquired : v.acquired = w.acquired) (instances : v.instances = w.instances)
    (indexes : v.indexes = w.indexes) (lists : v.commandLists = w.commandLists)
    (loaded : v.loaded = w.loaded) : Shows engine side facts v :=
  shows'.congr acquired instances indexes lists loaded fun found _ => survives found

end Shows

/-! ## Preservation -/

namespace Core

variable {engine : Engine} {side : Side} {facts : Facts} {τ : Typing} {cells : Multiset CellId}
variable {w : World} {c : CellId} {o : Owner} {entry : Entry} {event : Event}

theorem note (core : Core engine side facts τ cells w) (acquired : ∀ r, event ≠ .acquired r)
    (disposed : ∀ r, event ≠ .disposed r) (texts : event.textSerial? = none)
    (out : ∀ r ∈ event.operands, IsOut w.trace r) (unmixed : event.Unmixed) :
    Core engine side facts τ cells (w.note event) where
  heap := core.heap.congr rfl
  books := core.books.note acquired disposed out unmixed
  texts := core.texts.cons texts
  past := core.past.trans (List.suffix_cons _ _)
  shows := core.shows.survive (.of_cells rfl) rfl rfl rfl rfl rfl

/-- Texts that are taken are read and returned. -/
theorem talk (core : Core engine side facts τ cells w) (events : List Event)
    (plain : ∀ event ∈ events, event.textSerial?.isSome) {next : Nat}
    (settled : Settled (events ++ w.trace) next) :
    Core engine side facts τ cells { w with trace := events ++ w.trace, texts := next } where
  heap := core.heap.congr rfl
  books := by
    have noted : Books side.start τ { w with trace := events ++ w.trace } := by
      clear settled
      induction events with
      | nil => exact core.books
      | cons event events ih =>
          have others := ih fun e member => plain e (.tail _ member)
          have text := plain event (.head _)
          cases event <;> first
            | exact absurd text Bool.false_ne_true
            | exact others.note nofun nofun nofun trivial
    exact noted.congr rfl rfl rfl (fun _ _ => rfl) (fun _ => rfl) (fun _ _ => rfl)
      ⟨Nat.le_refl _, fun _ _ => rfl⟩
  texts := settled
  past := core.past.trans (List.suffix_append _ _)
  shows := core.shows.survive (.of_cells rfl) rfl rfl rfl rfl rfl

/-- A text is taken, read and returned. -/
theorem text (core : Core engine side facts τ cells w) (text : EngineText) :
    Core engine side facts τ cells (w.tell text) := by
  refine core.talk (textLife w.texts text) (by simp [textLife, Event.textSerial?]) ?_
  refine core.texts.append (Nat.le_succ _) rfl (fun serial other => ?_) fun serial low high => ?_
  · have different : w.texts ≠ serial := by omega
    simp [textLife, Event.textSerial?, different]
  · obtain rfl : serial = w.texts := by omega
    exact ⟨text, by simp [textLife, Event.textSerial?]⟩

/-- Two texts are taken together, and then read and returned one after the other. -/
theorem twoTexts (core : Core engine side facts τ cells w) (first second : EngineText) :
    Core engine side facts τ cells (w.tellBoth first second) := by
  refine core.talk _ (by simp [Event.textSerial?]) ?_
  refine core.texts.append (Nat.le_add_right _ 2) rfl (fun serial other => ?_)
    fun serial low high => ?_
  · have different : w.texts ≠ serial := by omega
    have different' : w.texts + 1 ≠ serial := by omega
    simp [Event.textSerial?, different, different']
  · obtain rfl | rfl : serial = w.texts ∨ serial = w.texts + 1 := by omega
    · exact ⟨first, by simp [textLife, Event.textSerial?]⟩
    · exact ⟨second, by simp [textLife, Event.textSerial?]⟩

theorem retain (core : Core engine side facts τ cells w) (owns : τ c = some o)
    (found : w.find? c = some entry) :
    Core engine side facts τ (c ::ₘ cells) (w.retain c) := by
  have retained : w.retain c = w.put c (some { entry with count := entry.count + 1 }) := by
    rw [World.retain, found]
  refine ⟨core.heap.retain owns found, ?_, ?_, ?_, ?_⟩
  · rw [retained]
    exact core.books.put (core.heap.within owns).1 found rfl
  · rw [retained]
    exact core.texts
  · rw [retained]
    exact core.past
  · rw [retained]
    exact core.shows.survive (.put found _) rfl rfl rfl rfl rfl

theorem retainAll (core : Core engine side facts τ cells w) (more : List Owner)
    (alive : ∀ o ∈ more, τ.Owns o ∧ ∃ entry, w.find? o.cell = some entry) :
    Core engine side facts τ (more.map Owner.cell + cells)
      (w.retainAll (more.map Owner.cell)) := by
  induction more generalizing cells w with
  | nil => simpa [World.retainAll] using core
  | cons o more ih =>
      obtain ⟨owns, entry, found⟩ := alive o (.head _)
      have rest := ih (core.retain owns found) fun p member => by
        obtain ⟨ownsP, entryP, foundP⟩ := alive p (.tail _ member)
        refine ⟨ownsP, ?_⟩
        rw [World.retain, found]
        dsimp only
        rw [World.find?_put found]
        split
        · exact ⟨_, rfl⟩
        · exact ⟨entryP, foundP⟩
      rw [List.map_cons, ← Multiset.cons_coe, Multiset.cons_add, ← Multiset.add_cons]
      exact rest

/-- Giving up references leaves the rest in order. -/
theorem release (pending : CellRefs) (core : Core engine side facts τ (pending + cells) w) :
    Core engine side facts τ cells (w.release pending) := by
  induction w, pending using World.release.induct generalizing cells with
  | case1 w =>
      rw [World.release_nil]
      simpa using core
  | case2 w cell rest freed ih =>
      -- a cell is not freed while it is referred to
      obtain ⟨entry, found⟩ := core.heap.alive_of_mem (c := cell) (by simp)
      exact nomatch freed.symm.trans found
  | case3 w cell rest entry found shared ih =>
      rw [World.release_shared found shared]
      rw [← Multiset.cons_coe, Multiset.cons_add] at core
      obtain ⟨o, owns⟩ := core.heap.typed (Multiset.mem_cons_self _ _)
      refine ih ⟨core.heap.lower found shared, ?_, core.texts, core.past, ?_⟩
      · exact core.books.put (core.heap.within owns).1 found rfl
      · exact core.shows.survive (.put found _) rfl rfl rfl rfl rfl
  | case4 w cell rest entry found last ih =>
      -- what the freed cell referred to is released next, before the rest
      rw [World.release_last found last]
      rw [← Multiset.cons_coe, Multiset.cons_add] at core
      obtain ⟨o, owns⟩ := core.heap.typed (Multiset.mem_cons_self _ _)
      have positive := (core.heap.describes found owns).1
      refine ih ⟨?_, ?_, ?_, ?_, ?_⟩
      · rw [← Multiset.coe_add, add_assoc]
        exact (core.heap.free found (by omega)).congr (World.cells_disposeOption _ _)
      · exact core.books.free core.heap found owns
      · cases entry.resource with
        | none => exact core.texts
        | some r => exact core.texts.cons rfl
      · cases entry.resource with
        | none => exact core.past
        | some r => exact core.past.trans (List.suffix_cons _ _)
      · refine core.shows.survive (.free found _) ?_ ?_ ?_ ?_ ?_ <;>
          cases entry.resource <;> rfl

/-- A cell that holds a memo may change what it remembers, if the references balance. -/
theorem rememo (core : Core engine side facts τ cells w) {k : Cursor} (owns : τ.Owns (.cursor k))
    (found : w.find? k.memo = some entry) {memo new : CursorMemo}
    (content : entry.content = .memo memo) (remembers : k.Remembers engine τ new)
    {cells' : Multiset CellId} (balance : refs new + cells' = refs memo + cells) :
    Core engine side facts τ cells'
      (w.put k.memo (some { entry with content := .memo new })) where
  heap := core.heap.rememo owns found content remembers balance
  books := core.books.put (core.heap.within owns).1 found rfl
  texts := core.texts
  past := core.past
  shows := by
    refine core.shows.congr rfl rfl rfl rfl rfl fun {d entry' context spelling} found' unit => ?_
    rw [World.find?_put found] at found'
    split at found'
    next =>
      cases found'
      exact nomatch unit
    next => exact ⟨entry', found', rfl, rfl⟩

/-- A unit may remember the spelling that it answers with. -/
theorem respell (core : Core engine side facts τ cells w) {u : SourceUnit}
    (owns : τ.Owns (.unit u)) (found : w.find? u.cell = some entry) :
    Core engine side facts τ cells (w.put u.cell (some
      { entry with content := .unit u.index (some (facts.spelling u.resource)) })) where
  heap := core.heap.respell owns found _
  books := core.books.put (core.heap.within owns).1 found rfl
  texts := core.texts
  past := core.past
  shows :=
    { core.shows with
      unit := by
        intro c entry' context spelling r here found' owned content
        rw [World.find?_put found] at found'
        split at found'
        next same =>
          cases found'
          cases content
          obtain ⟨resource, old, was⟩ := ((core.heap.describes found owns).2).unit
          obtain rfl := Option.some.inj (resource.symm.trans owned)
          obtain ⟨table, answer⟩ :=
            core.shows.unit (core.heap.within owns).1 found resource was
          refine ⟨table, ?_⟩
          unfold Side.known at answer ⊢
          split
          next => rfl
          next off =>
            rw [if_neg off] at answer
            exact answer
        next => exact core.shows.unit here found' owned content }

/-- A new memo. -/
theorem grow (core : Core engine side facts τ cells w) {k : Cursor} (fresh : k.memo = w.cells.size)
    (coherent : Coherent engine k) (unit : τ.Owns (.unit k.unit)) :
    Core engine side facts (τ.extend (.cursor k)) (k.memo ::ₘ cells)
      (w.alloc none (.memo {})).1 where
  heap := by
    refine Heap.alloc (o := .cursor k) ?_ fresh ?_ ?_ ?_
    · simpa [refs, Content.heldRefs] using core.heap
    · exact fun p member => absurd member List.not_mem_nil
    · rintro _ ⟨⟩
      exact ⟨coherent, unit⟩
    · exact ⟨rfl, Cursor.remembers_nothing engine τ k⟩
  books := core.books.grow core.heap rfl _
  texts := core.texts
  past := core.past
  shows := by
    refine core.shows.congr rfl rfl rfl rfl rfl fun {d entry' context spelling} found unit => ?_
    rw [World.find?_alloc] at found
    split at found
    next =>
      cases found
      exact nomatch unit
    next => exact ⟨entry', found, rfl, rfl⟩

/-- The resource of a unit's cell was taken before. -/
theorem unit_known (core : Core engine side facts τ cells w) {context : Index}
    {spelling : Option String} {r : Resource} (here : side.first ≤ c)
    (found : w.find? c = some entry) (owned : entry.resource = some r)
    (content : entry.content = .unit context spelling) :
    r.serial < w.acquired ∧ r.label < w.instances.size := by
  obtain ⟨-, o, owns, describes⟩ := core.heap.described here found
  obtain ⟨u, rfl⟩ := describes.owner_of_unit content
  have same : u.resource = r := Option.some.inj (describes.1.symm.trans owned)
  have label := core.books.label owns
  rw [same] at label
  exact ⟨core.books.serial_lt (core.books.recent owns (congrArg some same)).1, label.2⟩

/-- The number of a unit that is out was given before. -/
theorem instanceAt_lt (core : Core engine side facts τ cells w) {n : Nat} (here : side.first ≤ c)
    (number : w.instanceAt c = some n) : n < w.instances.size := by
  obtain ⟨r, owned, kind, rfl⟩ := World.instanceAt_eq_some.1 number
  obtain ⟨-, o, -, owns, mine⟩ := Books.owner_of_resourceAt core.heap here owned
  have sort := core.books.kind owns mine
  rw [kind] at sort
  cases o with
  | unit u =>
      obtain rfl := Option.some.inj mine
      exact (core.books.label owns).2
  | _ => cases sort

/-- What is known of the units once a new cell owns a new resource. The unit that it may be is known
by its number, and no other unit has that number. -/
theorem shows_own {content : Content} (core : Core engine side facts τ cells w)
    {kind : ResourceKind} {label table : Nat}
    (describes : o.Describes engine τ ⟨1, some ⟨kind, w.acquired, label⟩, content⟩)
    (unit : ∀ u, o = .unit u →
      content = .unit u.index none ∧ w.table ⟨kind, w.acquired, label⟩ = table) :
    Shows engine side (facts.take engine ⟨kind, w.acquired, label⟩ table)
      ((w.acquire kind label).1.alloc (some ⟨kind, w.acquired, label⟩) content).1 where
  acquired := congrArg (· + 1) core.shows.acquired
  units := core.shows.units
  indexes := core.shows.indexes
  lists := core.shows.lists
  loaded := core.shows.loaded
  unit := by
    intro c entry context spelling r here found owned content'
    rw [World.find?_alloc] at found
    split at found
    next =>
      cases found
      cases owned
      obtain ⟨u, rfl⟩ := describes.owner_of_unit content'
      obtain ⟨empty, same⟩ := unit u rfl
      have spelling : spelling = none := (Content.unit.inj (content'.symm.trans empty)).2
      subst spelling
      have answer : side.known none = none := by
        unfold Side.known
        split <;> rfl
      show w.table _ = _ ∧ (side.known none).getD (engine.unitSpelling (w.table _)) = _
      rw [same, answer, Facts.table_take, Facts.spelling_take, if_pos rfl, if_pos rfl]
      exact ⟨rfl, rfl⟩
    next =>
      have older := (core.unit_known here found owned content').1
      have different : r ≠ ⟨kind, w.acquired, label⟩ := by
        rintro rfl
        exact Nat.lt_irrefl _ older
      rw [Facts.table_take, Facts.spelling_take, if_neg different, if_neg different]
      exact core.shows.unit here found owned content'

/-- A new cell owns a new resource. -/
theorem own {content : Content} (core : Core engine side facts τ (refs content + cells) w)
    (fresh : o.cell = w.cells.size) {kind : ResourceKind} {label : Nat}
    (owned : o.resource = some ⟨kind, w.acquired, label⟩) (sort : o.kind? = some kind)
    {lenders : List Resource} (primed : w.Primed kind lenders)
    (known : ∀ s ∈ lenders, o.source? = some s)
    (lends : ∀ p ∈ o.lenders, τ.Owns p)
    (describes : o.Describes engine τ ⟨1, some ⟨kind, w.acquired, label⟩, content⟩) (table : Nat)
    (unused : kind = .unit → ∀ c, side.first ≤ c → w.instanceAt c ≠ some label)
    (unit : ∀ u, o = .unit u → content = .unit u.index none ∧
      side.start.instances.size ≤ label ∧ label < w.instances.size ∧
      w.table ⟨kind, w.acquired, label⟩ = table) :
    Core engine side (facts.take engine ⟨kind, w.acquired, label⟩ table) (τ.extend o)
      (o.cell ::ₘ cells)
      ((w.acquire kind label).1.alloc (some ⟨kind, w.acquired, label⟩) content).1 where
  heap := by
    have heap : Heap engine side.first τ (refs content + cells) (w.acquire kind label).1 :=
      core.heap.congr rfl
    refine heap.alloc fresh lends ?_ describes
    rintro k rfl
    exact nomatch owned
  books := core.books.own core.heap fresh owned sort primed known
    (fun u same => ⟨(unit u same).2.1, (unit u same).2.2.1⟩) unused content
  texts := core.texts.cons rfl
  past := core.past.trans (List.suffix_cons _ _)
  shows := core.shows_own describes fun u same => ⟨(unit u same).1, (unit u same).2.2.2⟩

/-- A resource may be given back as soon as it was taken. -/
theorem refuse (core : Core engine side facts τ cells w) (kind : ResourceKind) (label : Nat)
    {lenders : List Resource} (primed : w.Primed kind lenders)
    (out : ∀ s ∈ lenders, IsOut w.trace s) :
    Core engine side { facts with acquired := facts.acquired + 1 } τ cells
      ((w.acquire kind label).1.dispose ⟨kind, w.acquired, label⟩) where
  heap := core.heap.congr rfl
  books := core.books.refuse kind label primed out
  texts := (core.texts.cons rfl).cons rfl
  past := core.past.trans ((List.suffix_cons _ _).trans (List.suffix_cons _ _))
  shows :=
    { acquired := congrArg (· + 1) core.shows.acquired
      units := core.shows.units
      indexes := core.shows.indexes
      lists := core.shows.lists
      loaded := core.shows.loaded
      unit := core.shows.unit }

/-! ### Counters -/

/-- Counters other than that of the resources are free to change. -/
theorem recount (core : Core engine side facts τ cells w) (indexes lists : Nat) (loaded : Bool) :
    Core engine side { facts with indexes, lists, loaded } τ cells
      { w with indexes, commandLists := lists, loaded } where
  heap := core.heap.congr rfl
  books := core.books.congr rfl rfl rfl (fun _ _ => rfl) (fun _ => rfl) (fun _ _ => rfl)
    ⟨Nat.le_refl _, fun _ _ => rfl⟩
  texts := core.texts
  past := core.past
  shows :=
    { acquired := core.shows.acquired
      units := core.shows.units
      indexes := rfl
      lists := rfl
      loaded := rfl
      unit := core.shows.unit }

theorem table_push {table : Nat} {r : Resource} (older : r.label < w.instances.size) :
    ({ w with instances := w.instances.push table } : World).table r = w.table r := by
  simp [World.table, Array.getElem?_push, Nat.ne_of_lt older]

/-- A new unit instance gets an entry of the tables. -/
theorem push (core : Core engine side facts τ cells w) (table : Nat) :
    Core engine side { facts with units := facts.units + 1 } τ cells
      { w with instances := w.instances.push table } where
  heap := core.heap.congr rfl
  books := by
    refine core.books.congr rfl rfl rfl (fun _ _ => rfl) (fun _ => rfl) (fun _ _ => rfl) ?_
    refine ⟨by simp, fun i before => ?_⟩
    have bound := Nat.lt_of_lt_of_le before core.books.tables.1
    simp [Array.getElem?_push, Nat.ne_of_lt bound]
  texts := core.texts
  past := core.past
  shows :=
    { acquired := core.shows.acquired
      units := by
        rw [Array.size_push, core.shows.units]
      indexes := core.shows.indexes
      lists := core.shows.lists
      loaded := core.shows.loaded
      unit := by
        intro c entry context spelling r here found owned content
        rw [table_push (core.unit_known here found owned content).2]
        exact core.shows.unit here found owned content }

end Core

end SourceAtlas
