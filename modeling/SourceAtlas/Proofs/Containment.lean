import Mathlib.Data.Prod.Lex
import SourceAtlas.Proofs.Bridge
import SourceAtlas.Proofs.Texts

/-!
# What a range contains

A range contains the locations between its two ends, and nothing else: they are in a file of the name that
both ends have, not before the first line and column and not after the last. Which unit a range or a location
comes from, and whether a location remembers where it is, makes no difference.
-/

namespace SourceAtlas

open Act

/-! ## Locations in order -/

namespace SourceLocation

/-- The name of the file that the location is in, if it is in one. -/
def fileName (engine : Engine) (l : SourceLocation) : Option String :=
  l.raw.value.file.map fun i => (engine.file i).name.decoded

/-- The line and the column of the location, in the order of a text. -/
def point (l : SourceLocation) : ℕ ×ₗ ℕ :=
  toLex (l.raw.value.line.toNat, l.raw.value.column.toNat)

end SourceLocation

namespace SourceRange

/-- The location where the range starts. -/
def first (range : SourceRange) : SourceLocation :=
  { raw := ⟨range.raw.value.start, range.raw.origin⟩, unit := range.unit, anchor := range.anchor }

/-- The location where the range ends. -/
def last (range : SourceRange) : SourceLocation :=
  { raw := ⟨range.raw.value.stop, range.raw.origin⟩, unit := range.unit, anchor := range.anchor }

/-- Whether a location is in a file of the name that both ends have, and between them. -/
structure Covers (engine : Engine) (range : SourceRange) (l : SourceLocation) : Prop where
  startFile : range.first.fileName engine = l.fileName engine
  stopFile : range.last.fileName engine = l.fileName engine
  start_le : range.first.point ≤ l.point
  le_stop : l.point ≤ range.last.point

theorem covers_iff {engine : Engine} {range : SourceRange} {l : SourceLocation} :
    range.Covers engine l ↔ range.first.fileName engine = l.fileName engine ∧
      range.last.fileName engine = l.fileName engine ∧
      range.first.point ≤ l.point ∧ l.point ≤ range.last.point :=
  ⟨fun covers => ⟨covers.1, covers.2, covers.3, covers.4⟩, fun ⟨a, b, c, d⟩ => ⟨a, b, c, d⟩⟩

instance (engine : Engine) (range : SourceRange) (l : SourceLocation) :
    Decidable (range.Covers engine l) :=
  decidable_of_iff _ covers_iff.symm

/-- Lines are compared first, and then columns. -/
theorem reaches_iff (a b : SourceLocation) :
    reaches (a.raw.value.line, a.raw.value.column) (b.raw.value.line, b.raw.value.column) = true ↔
      a.point ≤ b.point := by
  rw [SourceLocation.point, SourceLocation.point, Prod.Lex.toLex_le_toLex, reaches]
  simp [UInt32.lt_iff_toNat_lt, UInt32.le_iff_toNat_le, ← UInt32.toNat_inj]

end SourceRange

variable {setting : Setting}

/-! ## Asking -/

namespace SourceLocation

/-- A location that was not asked where it is has nothing to remember. -/
theorem remembers_new {l : SourceLocation} (new : l.expansion = none) : l.Remembers := by
  intro expansion known
  cases new.symm.trans known

/-- What a location says of where it is does not depend on whether it remembers. -/
theorem answers_expand {l : SourceLocation} (remembers : l.Remembers) :
    Answers setting l.expand l.answer := by
  intro w loaded
  unfold expand
  rw [exec_bind_ok exec_read]
  split
  next expansion _ known =>
    exact ⟨w, by rw [remembers expansion known]; rfl, loaded⟩
  next =>
    have asked : Answers setting (l.raw.ask .expansion fun _ place => place) l.raw.value :=
      l.raw.answers_ask _ _ none
    refine asked.bind ?_ w loaded
    exact .pure _

theorem answers_fileName (l : SourceLocation) :
    Answers setting l.answer.fileName (l.fileName setting.engine) := by
  unfold Expansion.fileName answer fileName SourceFile.ofRaw?
  cases l.raw.value.file with
  | none => exact .pure none
  | some i =>
      have named : Answers setting (SourceFile.name ⟨⟨i, l.unit.resource⟩, l.unit⟩)
          (setting.engine.file i).name.decoded :=
        (Raw.answers_ask _ _ _ none).bind (answers_text _)
      exact named.bind (.pure _)

end SourceLocation

namespace SourceRange

variable (range : SourceRange)

theorem answers_startPlace : Answers setting range.startPlace range.first := by
  refine (range.raw.answers_derive .spanStart (fun _ span => span.start) none).bind ?_
  exact .pure _

theorem answers_stopPlace : Answers setting range.stopPlace range.last := by
  refine (range.raw.answers_derive .spanStop (fun _ span => span.stop) none).bind ?_
  exact .pure _

/-- The names are compared with that of the location one after the other, and then the points. -/
theorem answers_containsExpansion (l : SourceLocation) :
    Answers setting (range.containsExpansion l.answer) (decide (range.Covers setting.engine l)) := by
  have started : Answers setting range.first.expand range.first.answer :=
    SourceLocation.answers_expand (SourceLocation.remembers_new rfl)
  have stopped : Answers setting range.last.expand range.last.answer :=
    SourceLocation.answers_expand (SourceLocation.remembers_new rfl)
  unfold containsExpansion
  refine range.answers_startPlace.bind (range.answers_stopPlace.bind ?_)
  refine l.answers_fileName.bind (started.bind (range.first.answers_fileName.bind ?_))
  by_cases startFile : range.first.fileName setting.engine = l.fileName setting.engine
  · rw [if_neg (by simpa using startFile)]
    refine stopped.bind (range.last.answers_fileName.bind ?_)
    by_cases stopFile : range.last.fileName setting.engine = l.fileName setting.engine
    · rw [if_neg (by simpa using stopFile)]
      have inside : decide (range.Covers setting.engine l) =
          (reaches (range.first.raw.value.line, range.first.raw.value.column)
              (l.raw.value.line, l.raw.value.column) &&
            reaches (l.raw.value.line, l.raw.value.column)
              (range.last.raw.value.line, range.last.raw.value.column)) := by
        rw [Bool.eq_iff_iff, decide_eq_true_iff, Bool.and_eq_true, reaches_iff, reaches_iff, covers_iff]
        exact ⟨fun covers => covers.2.2, fun between => ⟨startFile, stopFile, between⟩⟩
      rw [inside]
      exact .pure _
    · rw [if_pos (by simpa using stopFile), decide_eq_false fun covers => stopFile covers.stopFile]
      exact .pure false
  · rw [if_pos (by simpa using startFile), decide_eq_false fun covers => startFile covers.startFile]
    exact .pure false

/-- An end of the range is the location that the engine has for it. -/
theorem answers_start : Answers setting range.start range.first :=
  range.answers_startPlace.bind (answers_keep _)

theorem answers_stop : Answers setting range.stop range.last :=
  range.answers_stopPlace.bind (answers_keep _)

end SourceRange

namespace State

variable {state : State} {slot other : String} {r : SourceRange} {l : SourceLocation}

/-- A range in a slot that is asked about a location in a slot. -/
theorem ask_contains (loaded : state.world.loaded = true)
    (range : state.slots.get? slot = some (.range r))
    (location : state.slots.get? other = some (.location l)) (remembers : l.Remembers)
    (target : Option String) (args : Json) :
    (state.ask setting (some slot) (some other) target args "contains").2 =
      .shown (.bool (decide (r.Covers setting.engine l))) := by
  obtain ⟨w, told, loaded⟩ := SourceLocation.answers_expand remembers state.world loaded
  obtain ⟨v, found, loaded⟩ := r.answers_containsExpansion l w loaded
  let changed : Object := .location { l with expansion := some l.answer }
  obtain ⟨u, became⟩ : ∃ u, ((Object.location l).become changed).exec setting v = (.ok changed, u) :=
    ⟨_, rfl⟩
  let act : Act Turn := do
    let expansion ← l.expand
    let inside ← r.containsExpansion expansion
    let changed ← (Object.location l).become (.location { l with expansion := some expansion })
    return ⟨changed, .ok (.bool inside)⟩
  have turns : (PairQuery.ofName? "contains").bind ((Object.range r).pairTurn? (.location l)) =
      some act := rfl
  have ran : act.exec setting state.world =
      (.ok ⟨changed, .ok (.bool (decide (r.Covers setting.engine l)))⟩, u) := by
    rw [exec_bind_ok told, exec_bind_ok found, exec_bind_ok became]
    rfl
  simp only [ask, askSlot, range, location, turns]
  rw [turn_ok ran, Answer.bool, finish_plain]

/-- A range in a slot that is asked for one of its ends. -/
theorem ask_end (loaded : state.world.loaded = true) (range : state.slots.get? slot = some (.range r))
    {name : String} (named : name ≠ "clone") {query : RangeQuery}
    (asks : RangeQuery.ofName? name = some query) {place : Act SourceLocation}
    (about : r.answer query = do return .object (.location (← place)))
    (answers : Answers setting place l) (target : Option String) (args : Json) :
    ∃ v, state.ask setting (some slot) none target args name =
      finish setting target { state with world := v, slots := state.slots.set slot (.range r) }
        (.ok (.object (.location l))) := by
  obtain ⟨v, ran, -⟩ := answers state.world loaded
  have turns : (Object.range r).turn? name args =
      some ((Object.range r).steady (r.answer query)) := by
    rw [Object.turn?, asks]
    rfl
  refine ⟨v, ?_⟩
  rw [ask_alone range named turns]
  refine turn_ok (t := ⟨.range r, .ok (.object (.location l))⟩) ?_ slot target
  rw [about]
  exact exec_bind_ok ((exec_bind_ok ran).trans rfl)

end State

/-! ## What follows -/

namespace SourceRange

variable {engine : Engine} {range inner : SourceRange} {a b l : SourceLocation}

/-- A range in one file contains its ends just when they are in order. -/
theorem covers_ends (oneFile : range.first.fileName engine = range.last.fileName engine) :
    (range.Covers engine range.first ↔ range.first.point ≤ range.last.point) ∧
      (range.Covers engine range.last ↔ range.first.point ≤ range.last.point) :=
  ⟨⟨fun covers => covers.le_stop, fun ordered => ⟨rfl, oneFile.symm, le_rfl, ordered⟩⟩,
    ⟨fun covers => covers.start_le, fun ordered => ⟨oneFile, rfl, ordered, le_rfl⟩⟩⟩

/-- A range across two files, or whose ends are reversed, contains nothing. -/
theorem not_covers (wrong : range.first.fileName engine ≠ range.last.fileName engine ∨
    range.last.point < range.first.point) (l : SourceLocation) : ¬ range.Covers engine l := by
  intro covers
  rcases wrong with files | reversed
  · exact files (covers.startFile.trans covers.stopFile.symm)
  · exact absurd (covers.start_le.trans covers.le_stop) (not_le.2 reversed)

/-- What is between two locations that are contained is contained. -/
theorem Covers.between (lower : range.Covers engine a) (upper : range.Covers engine b)
    (file : l.fileName engine = a.fileName engine) (after : a.point ≤ l.point)
    (before : l.point ≤ b.point) : range.Covers engine l where
  startFile := lower.startFile.trans file.symm
  stopFile := lower.stopFile.trans file.symm
  start_le := lower.start_le.trans after
  le_stop := before.trans upper.le_stop

/-- What contains both ends of a range contains all that the range contains. -/
theorem Covers.trans (first : range.Covers engine inner.first) (last : range.Covers engine inner.last)
    (covers : inner.Covers engine l) : range.Covers engine l :=
  first.between last covers.startFile.symm covers.start_le covers.le_stop

end SourceRange

/-- A range contains what is between its ends.

In every session a range in a slot that is asked about a location in another one answers yes just when the
file of its start, that of its end and that of the location have one name, and the location is neither before
the start nor after the end, by line and then by column. The ends that it hands out are those. So a range in
one file contains its ends when they are in order, and only then; a range across two files or with reversed
ends contains nothing; with two locations a range contains what is between them, and with the ends of another
range what that one contains. -/
theorem contains_between (setting : Setting) :
    (∀ begin state, Session.Reached setting begin state →
      ∀ slot r, state.slots.get? slot = some (.range r) →
        (∀ other l, state.slots.get? other = some (.location l) → ∀ target args,
          (state.ask setting (some slot) (some other) target args "contains").2 =
            .shown (.bool (decide (r.Covers setting.engine l)))) ∧
        ∀ target args,
          (∃ v, state.ask setting (some slot) none target args "start" =
            State.finish setting target
              { state with world := v, slots := state.slots.set slot (.range r) }
              (.ok (.object (.location r.first)))) ∧
          ∃ v, state.ask setting (some slot) none target args "end" =
            State.finish setting target
              { state with world := v, slots := state.slots.set slot (.range r) }
              (.ok (.object (.location r.last)))) ∧
    ∀ r : SourceRange,
      (r.first.fileName setting.engine = r.last.fileName setting.engine →
        (r.Covers setting.engine r.first ↔ r.first.point ≤ r.last.point) ∧
          (r.Covers setting.engine r.last ↔ r.first.point ≤ r.last.point)) ∧
      (r.first.fileName setting.engine ≠ r.last.fileName setting.engine ∨
          r.last.point < r.first.point → ∀ l, ¬ r.Covers setting.engine l) ∧
      (∀ a b l : SourceLocation, r.Covers setting.engine a → r.Covers setting.engine b →
        l.fileName setting.engine = a.fileName setting.engine → a.point ≤ l.point →
          l.point ≤ b.point → r.Covers setting.engine l) ∧
      ∀ s : SourceRange, r.Covers setting.engine s.first → r.Covers setting.engine s.last →
        ∀ l, s.Covers setting.engine l → r.Covers setting.engine l := by
  refine ⟨fun begin state reached slot r range => ⟨fun other l location target args => ?_,
    fun target args => ⟨?_, ?_⟩⟩, fun r => ⟨SourceRange.covers_ends, SourceRange.not_covers,
      fun a b l lower upper => lower.between upper, fun s first last l => first.trans last⟩⟩
  · have remembers : l.Remembers := (reached.coherent _ (Slots.mem_of_get? location)).2
    exact State.ask_contains (reached.loaded range) range location remembers target args
  · exact State.ask_end (reached.loaded range) range (by decide) rfl rfl r.answers_start target args
  · exact State.ask_end (reached.loaded range) range (by decide) rfl rfl r.answers_stop target args

theorem contains_between_start :
    let tables : Tables := {
      sources := [{ name := none, unit := some 0 }]
      units := #[{}]
      cursors := #[{ extent := ⟨⟨some 0, 2, 3, 0⟩, ⟨some 0, 4, 1, 0⟩⟩ }]
      files := #[{}] }
    let setting : Setting := ⟨⟨tables, []⟩, true⟩
    let begun := (({} : State).ask setting none none (some "i") .null "create_index").1
    let parsed := (begun.ask setting (some "i") none (some "u") .null "parse").1
    let rooted := (parsed.ask setting (some "u") none (some "c") .null "cursor").1
    let ranged := (rooted.ask setting (some "c") none (some "r") .null "extent").1
    let state := (ranged.ask setting (some "r") none (some "l") .null "start").1
    (state.ask setting (some "r") (some "l") none .null "contains").2 = .shown (.bool true) := by
  intro tables setting begun parsed rooted ranged state
  have opened : rooted = Session.rooted := Session.opens_rooted rfl rfl rfl
  have reached : Session.Reached setting {} ranged := by
    show Session.Reached setting {} (rooted.ask setting (some "c") none (some "r") .null "extent").1
    rw [opened]
    exact (Session.Reached.rooted rfl rfl rfl).ask (some "c") none (some "r") .null "extent"
  obtain ⟨range, kept, ends⟩ : ∃ range : SourceRange, ranged.slots.get? "r" = some (.range range) ∧
      range.raw.value = ⟨⟨some 0, 2, 3, 0⟩, ⟨some 0, 4, 1, 0⟩⟩ := by
    obtain ⟨after, range, asked, ends⟩ : ∃ (after : State) (range : SourceRange),
        (Session.rooted.ask setting (some "c") none (some "r") .null "extent").1 =
          after.store "r" (.range range) ∧
        range.raw.value = ⟨⟨some 0, 2, 3, 0⟩, ⟨some 0, 4, 1, 0⟩⟩ := ⟨_, _, rfl, rfl⟩
    refine ⟨range, ?_, ends⟩
    show (rooted.ask setting (some "c") none (some "r") .null "extent").1.slots.get? "r" = _
    rw [opened, asked]
    exact Slots.get?_set ..
  obtain ⟨-, hands⟩ := (contains_between setting).1 _ _ reached "r" range kept
  obtain ⟨v, started⟩ := (hands (some "l") .null).1
  have range_kept : state.slots.get? "r" = some (.range range) := by
    show (ranged.ask setting (some "r") none (some "l") .null "start").1.slots.get? "r" = _
    rw [started]
    exact (Slots.get?_set_of_ne (by decide) _ _).trans (Slots.get?_set ..)
  have start_kept : state.slots.get? "l" = some (.location range.first) := by
    show (ranged.ask setting (some "r") none (some "l") .null "start").1.slots.get? "l" = _
    rw [started]
    exact Slots.get?_set ..
  obtain ⟨contains, -⟩ := (contains_between setting).1 _ _
    (reached.ask (some "r") none (some "l") .null "start") "r" range range_kept
  have oneFile : range.first.fileName setting.engine = range.last.fileName setting.engine := by
    simp only [SourceLocation.fileName, SourceRange.first, SourceRange.last, ends]
  have ordered : range.first.point ≤ range.last.point := by
    simp only [SourceLocation.point, SourceRange.first, SourceRange.last, ends]
    decide
  have covers : range.Covers setting.engine range.first :=
    (((contains_between setting).2 range).1 oneFile).1.2 ordered
  rw [contains "l" range.first start_kept, decide_eq_true covers]

end SourceAtlas
