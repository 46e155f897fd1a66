import SourceAtlas.Proofs.Listings

/-!
# Inclusions

The engine tells of each file in a unit how deep it stands, and which directives led to it. The unit
lists those that a directive of some file includes, in the engine's order. The list is the same as
long as the unit is not parsed again, and the report on inclusions has a row for each element of it.
-/

namespace SourceAtlas

open Act
open CommandLine (SourceArgs Invocation)

/-- Whether an event tells that a directive includes a file: the file does not stand at the top,
there is a directive, and the file is not null. -/
def InclusionEntry.Enters (entry : InclusionEntry) : Prop :=
  entry.depth ≠ 0 ∧ entry.stack ≠ [] ∧ entry.file ≠ none

instance : DecidablePred InclusionEntry.Enters := fun entry =>
  inferInstanceAs (Decidable (entry.depth ≠ 0 ∧ entry.stack ≠ [] ∧ entry.file ≠ none))

/-- A location of a unit that has been asked where it is. -/
def SourceUnit.locate (unit : SourceUnit) (place : Place) : SourceLocation :=
  let new : SourceLocation := { raw := ⟨place, unit.resource⟩, unit }
  { new with expansion := some new.answer }

/-- Whether an element of a unit's list is what an event tells: the file and its depth, where the
directive is that heads the stack, and the file in which that is, if it is in one. -/
structure Inclusion.Recounts (unit : SourceUnit) (entry : InclusionEntry) (inclusion : Inclusion) :
    Prop where
  included : SourceFile.ofRaw? ⟨entry.file, unit.resource⟩ unit = some inclusion.included
  depth : inclusion.depth = entry.depth
  location : entry.stack.head?.map unit.locate = some inclusion.location
  source : inclusion.source =
    SourceFile.ofRaw? ⟨inclusion.location.raw.value.file, unit.resource⟩ unit

/-- The directive of a file below the top is the first of its stack. -/
theorem SourceUnit.directive?_eq_some {entry : InclusionEntry} {place : Place} :
    directive? entry = some place ↔ entry.depth ≠ 0 ∧ entry.stack.head? = some place := by
  unfold directive?
  by_cases top : entry.depth = 0 <;> simp [top]

theorem InclusionEntry.enters_iff {entry : InclusionEntry} :
    entry.Enters ↔ (SourceUnit.directive? entry).isSome = true ∧ entry.file.isSome = true := by
  have below : (SourceUnit.directive? entry).isSome = true ↔ entry.depth ≠ 0 ∧ entry.stack ≠ [] := by
    rw [Option.isSome_iff_exists]
    simp only [SourceUnit.directive?_eq_some, exists_and_left, ← Option.isSome_iff_exists,
      List.isSome_head?, ne_eq]
  rw [below, Option.isSome_iff_ne_none, Enters, and_assoc]

/-- What is told of one by one was told of by something. -/
theorem exists_of_forall₂ {α β : Type} {R : α → β → Prop} {as : List α} {bs : List β}
    (each : List.Forall₂ R as bs) {b : β} (member : b ∈ bs) : ∃ a ∈ as, R a b := by
  induction each with
  | nil => exact absurd member List.not_mem_nil
  | @cons a _ _ _ related _ ih =>
      rcases List.mem_cons.1 member with rfl | later
      · exact ⟨a, List.mem_cons_self, related⟩
      · obtain ⟨a, there, related⟩ := ih later
        exact ⟨a, List.mem_cons_of_mem _ there, related⟩

namespace Inclusion

variable {setting : Setting} {unit : SourceUnit}

/-- An event tells of one element. -/
theorem Recounts.unique : Relator.RightUnique (Recounts unit) := by
  rintro entry ⟨source, included, location, depth⟩ ⟨source', included', location', depth'⟩ first second
  obtain rfl : included = included' := Option.some.inj (first.included.symm.trans second.included)
  obtain rfl : depth = depth' := first.depth.trans second.depth.symm
  obtain rfl : location = location' := Option.some.inj (first.location.symm.trans second.location)
  obtain rfl : source = source' := first.source.trans second.source.symm
  rfl

/-- What is made of an event: nothing, unless a directive includes a file. -/
structure Stands (unit : SourceUnit) (entry : InclusionEntry) (found : Option Inclusion) : Prop where
  present : found.isSome = true ↔ entry.Enters
  made : ∀ inclusion ∈ found, Recounts unit entry inclusion

/-- The events that tell of no inclusion are left out, and the others stay in order. -/
theorem Stands.filterMap {entries : List InclusionEntry} {found : List (Option Inclusion)}
    (each : List.Forall₂ (Stands unit) entries found) :
    List.Forall₂ (Recounts unit) (entries.filter InclusionEntry.Enters) (found.filterMap id) := by
  induction each with
  | nil => exact .nil
  | @cons entry inclusion entries found stands _ ih =>
      cases inclusion with
      | none =>
          have out : ¬ entry.Enters := fun enters => nomatch stands.present.2 enters
          rwa [List.filter_cons_of_neg (by simpa using out)]
      | some inclusion =>
          have enters : entry.Enters := stands.present.1 rfl
          rw [List.filter_cons_of_pos (by simpa using enters)]
          exact .cons (stands.made inclusion rfl) ih

/-- A file is included by a directive, whose place is asked for. -/
theorem answers_make (file : SourceFile) (place : Place) (depth : UInt32) :
    Answers setting (make file { raw := ⟨place, unit.resource⟩, unit } depth)
      ⟨SourceFile.ofRaw? ⟨place.file, unit.resource⟩ unit, file, unit.locate place, depth⟩ := by
  let directive : SourceLocation := { raw := ⟨place, unit.resource⟩, unit }
  have new : directive.Remembers := SourceLocation.remembers_new rfl
  have told : Answers setting directive.expanded (unit.locate place) :=
    (SourceLocation.answers_expand new).bind (.pure _)
  exact told.bind (answers_keep _)

/-- An event is taken over if a directive includes a file. -/
theorem yields_ofEntry (unit : SourceUnit) (entry : InclusionEntry) :
    Yields setting (do
      match SourceUnit.directive? entry, SourceFile.ofRaw? ⟨entry.file, unit.resource⟩ unit with
      | some place, some file =>
        some <$> make file { raw := ⟨place, unit.resource⟩, unit } entry.depth
      | _, _ => return none) (Stands unit entry) := by
  have nothing (out : ¬ entry.Enters) : Stands unit entry none :=
    ⟨iff_of_false Bool.false_ne_true out, fun _ absent => absurd absent (Option.not_mem_none _)⟩
  cases directive : SourceUnit.directive? entry with
  | none =>
      refine .pure (nothing fun enters => ?_)
      have some := (InclusionEntry.enters_iff.1 enters).1
      rw [directive] at some
      exact Bool.false_ne_true some
  | some place =>
      cases file : SourceFile.ofRaw? ⟨entry.file, unit.resource⟩ unit with
      | none =>
          refine .pure (nothing fun enters => ?_)
          exact enters.2.2 (Option.map_eq_none_iff.1 file)
      | some file' =>
          obtain ⟨-, heads⟩ := SourceUnit.directive?_eq_some.1 directive
          have enters : entry.Enters := InclusionEntry.enters_iff.2 ⟨by rw [directive]; rfl, by
            obtain ⟨i, known, -⟩ := Option.map_eq_some_iff.1 file
            exact Option.isSome_of_eq_some known⟩
          dsimp only
          rw [← bind_pure_comp]
          refine (answers_make file' place entry.depth).then (.pure ⟨iff_of_true rfl enters, ?_⟩)
          rintro _ ⟨⟩
          exact ⟨file, rfl, by rw [heads]; rfl, rfl⟩

end Inclusion

/-- A unit lists what the events tell that are there for it. -/
theorem SourceUnit.serves_inclusions {setting : Setting} (unit : SourceUnit) (table : Nat) :
    Serves setting unit.resource table unit.inclusions
      (List.Forall₂ (Inclusion.Recounts unit)
        ((setting.engine.unit table).inclusions.filter InclusionEntry.Enters)) := by
  intro w has
  let asked := w.note (.asked .inclusions [unit.resource] none)
  have told : unit.entry.exec setting asked = (.ok (setting.engine.unit table), asked) := by
    rw [← has.table_eq]
    rfl
  obtain ⟨found, v, ran, each, loaded⟩ := Yields.mapM
    (fun entry (_ : entry ∈ (setting.engine.unit table).inclusions) =>
      @Inclusion.yields_ofEntry setting unit entry) asked has.loaded
  have listed : unit.inclusions.exec setting w = (.ok (found.filterMap id), v) := by
    unfold inclusions
    rw [exec_bind_ok (exec_ask _ _ _ has.loaded), exec_bind_ok told]
    exact exec_bind_ok ran
  exact ⟨_, v, listed, Inclusion.Stands.filterMap each, has.grows (grows_exec listed) loaded⟩

namespace InclusionRow

/-- The row of an element of a unit's list. -/
def ofElement (engine : Engine) (inclusion : Inclusion) : InclusionRow where
  depth := inclusion.depth
  file := (engine.file inclusion.included.raw.value).name.decoded
  includedAt := engine.placeText inclusion.location.raw.value

instance : Legible InclusionRow where
  ofJson? value := do
    let depth ← (value.get "depth").int?
    let file ← (value.get "file").str?
    let includedAt ← (value.get "included_at").str?
    return ⟨.ofNat depth.toNat, file, includedAt⟩
  ofJson?_toJson row := by
    show some (⟨.ofNat row.depth.toNat, row.file, row.includedAt⟩ : InclusionRow) = some row
    rw [UInt32.ofNat_toNat]
  fits row := by
    have narrow : row.depth.toNat < UInt64.size := row.depth.toNat_lt.trans (by decide)
    refine .obj ?_
    simp only [List.mem_cons, List.not_mem_nil, or_false, forall_eq_or_imp, forall_eq]
    exact ⟨Json.fits_nat narrow, .str _, .str _⟩

theorem answers_ofInclusion {setting : Setting} {unit : SourceUnit} {entry : InclusionEntry}
    {inclusion : Inclusion} (recounts : inclusion.Recounts unit entry) :
    Answers setting (ofInclusion inclusion) (ofElement setting.engine inclusion) := by
  have remembers : inclusion.location.Remembers := by
    obtain ⟨place, -, located⟩ := Option.map_eq_some_iff.1 recounts.location
    rw [← located]
    intro expansion known
    exact (Option.some.inj known).symm
  have name : Answers setting inclusion.included.name _ :=
    (Raw.answers_ask _ _ _ none).bind (answers_text _)
  exact name.bind ((SourceLocation.answers_report remembers).bind (.pure _))

end InclusionRow

section Reports

variable {setting : Setting} {host : Host} {source : SourceArgs} {table : Nat}

/-- The report on inclusions has a row for each element of the list of the unit that it loads. -/
theorem exec_inclusionReport (loads : loadedTable? setting host source = some table) :
    ∃ unit found v, List.Forall₂ (Inclusion.Recounts unit)
        ((setting.engine.unit table).inclusions.filter InclusionEntry.Enters) found ∧
      (inclusionReport host source).exec setting {} =
        (.ok (printRows (found.map (InclusionRow.ofElement setting.engine)) source.json), v) := by
  obtain ⟨unit, w, ran, has, -⟩ := exec_loadUnit_of_loads loads
  obtain ⟨found, v, listed, each, has⟩ := unit.serves_inclusions table w has
  have rows : Answers setting (Act.usingEach found InclusionRow.ofInclusion)
      (found.map (InclusionRow.ofElement setting.engine)) := by
    refine Answers.usingEach fun inclusion member => ?_
    obtain ⟨entry, -, recounts⟩ := exists_of_forall₂ each member
    exact InclusionRow.answers_ofInclusion recounts
  have printed := rows.bind (f := fun rows => return printRows rows source.json) (.pure _)
  obtain ⟨u, printed⟩ := printed.released has.loaded (refs unit)
  refine ⟨unit, found, u, each, ?_⟩
  unfold inclusionReport
  rw [exec_bind_ok ran, exec_using, exec_bind_ok listed]
  exact printed

end Reports

end SourceAtlas
