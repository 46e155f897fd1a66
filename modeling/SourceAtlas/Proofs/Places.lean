import SourceAtlas.Proofs.Acquire

/-!
# Files, locations and ranges in lockstep

Two runs that ask about alike files, locations, ranges and inclusions get alike answers. Only one of
them may remember what a location is in terms of lines and columns.
-/

namespace SourceAtlas

open Duo

variable {D : Duo} {H F : Grip}

/-! ## Files -/

namespace SourceFile

variable {file file' : SourceFile}

theorem pair_unit (pair : D.Pair H file file') : D.Pair H file.unit file'.unit :=
  ⟨⟨trivial, pair.left.within⟩, ⟨trivial, pair.right.within⟩, pair.alike.2⟩

theorem rawPair (pair : D.Pair H file file') : D.RawPair H file.raw file'.raw where
  left := by
    rw [show file.raw.origin = _ from pair.left.coherent]
    exact (pair_unit pair).lends.1
  right := by
    rw [show file'.raw.origin = _ from pair.right.coherent]
    exact (pair_unit pair).lends.2
  alike := pair.alike.1

/-- A file that the engine answers with for a unit. -/
theorem pair_ofRaw? {u u' : SourceUnit} (pair : D.Pair H u u') (file : Ref) :
    D.Pair H (ofRaw? ⟨file, u.resource⟩ u) (ofRaw? ⟨file, u'.resource⟩ u') where
  left := ⟨coherent_ofRaw? _ _ _ rfl, fun o member =>
    pair.left.within o (owners_ofRaw? _ _ o member)⟩
  right := ⟨coherent_ofRaw? _ _ _ rfl, fun o member =>
    pair.right.within o (owners_ofRaw? _ _ o member)⟩
  alike := by
    cases file with
    | none => exact .none
    | some i => exact .some ⟨⟨rfl, pair.alike.1⟩, pair.alike⟩

theorem same_name (pair : D.Pair H file file') : D.Same H F file.name file'.name :=
  (rawPair pair).same_askText _ _

theorem same_time (pair : D.Pair H file file') : D.Same H F file.time file'.time :=
  (rawPair pair).same_ask _ _

theorem same_same {other other' : SourceFile} (pair : D.Pair H file file')
    (pair' : D.Pair H other other') : D.Same H F (file.same other) (file'.same other') := by
  refine (same_ask_two (rawPair pair).lends (rawPair pair').lends _ (by nofun) (by nofun)).bind fun _ => ?_
  rw [← pair.alike.1.1, ← pair'.alike.1.1]
  exact same_engine.map _

theorem same_inspect (pair : D.Pair H file file') : D.Same H F file.inspect file'.inspect :=
  (same_name pair).map _

end SourceFile

/-! ## Locations -/

section Anchors

variable {engine : Engine} {held : Held} {u : SourceUnit} {anchor : Option Completion}

/-- A value of a unit or of completion results can be used if those can. -/
theorem within_anchor (unit : Usable engine held u) (anchored : Usable engine held anchor) :
    ∀ o ∈ owners u ++ owners anchor, Within held o := by
  intro o member
  rcases List.mem_append.1 member with member | member
  · exact unit.within o member
  · exact anchored.within o member

theorem renamed_anchor {ρ : Resource → Resource} {u u' : SourceUnit}
    {anchor anchor' : Option Completion} (unit : Alike ρ u u') (anchored : Alike ρ anchor anchor') :
    ρ (anchorResource u anchor) = anchorResource u' anchor' := by
  cases anchored with
  | none => exact unit.1
  | some same => exact same.1

end Anchors

namespace SourceLocation

variable {location location' : SourceLocation}

theorem pair_unit (pair : D.Pair H location location') : D.Pair H location.unit location'.unit :=
  ⟨usable_unit pair.left, usable_unit pair.right, pair.alike.2.1⟩

theorem pair_anchor (pair : D.Pair H location location') :
    D.Pair H location.anchor location'.anchor :=
  ⟨usable_anchor pair.left, usable_anchor pair.right, pair.alike.2.2⟩

theorem rawPair (pair : D.Pair H location location') : D.RawPair H location.raw location'.raw :=
  ⟨lends_origin pair.left, lends_origin pair.right, pair.alike.1⟩

theorem usable_of {engine : Engine} {held : Held} {u : SourceUnit} {anchor : Option Completion}
    {raw : Raw Place} (unit : Usable engine held u) (anchored : Usable engine held anchor)
    (origin : Comes raw.origin u anchor) :
    Usable engine held ({ raw, unit := u, anchor } : SourceLocation) where
  coherent := ⟨origin, fun _ absent => nomatch absent⟩
  within o member := by
    rcases List.mem_append.1 member with member | member
    · exact within_anchor unit anchored o member
    · exact absurd member List.not_mem_nil

/-- A location for what the engine answers of a unit or of completion results. -/
theorem pair_of {u u' : SourceUnit} (unit : D.Pair H u u') {anchor anchor' : Option Completion}
    (anchored : D.Pair H anchor anchor') {r s : Raw Place} (same : r.value = s.value)
    (origin : Comes r.origin u anchor) (origin' : Comes s.origin u' anchor') :
    D.Pair H ({ raw := r, unit := u, anchor } : SourceLocation)
      { raw := s, unit := u', anchor := anchor' } where
  left := usable_of unit.left anchored.left origin
  right := usable_of unit.right anchored.right origin'
  alike := by
    refine ⟨⟨same, ?_⟩, unit.alike, anchored.alike⟩
    rw [origin.origin_eq, origin'.origin_eq]
    exact renamed_anchor unit.alike anchored.alike

/-- What the engine says about alike locations is alike. -/
theorem pair_answer (pair : D.Pair H location location') :
    D.Pair H location.answer location'.answer := by
  have file := SourceFile.pair_ofRaw? (pair_unit pair) location.raw.value.file
  rw [answer, answer, ← pair.alike.1.1]
  exact ⟨⟨file.left.coherent, file.left.within⟩, ⟨file.right.coherent, file.right.within⟩,
    file.alike, rfl, rfl, rfl⟩

/-- A location may remember what the engine says about it. -/
theorem pair_expanded (pair : D.Pair H location location') :
    D.Pair H { location with expansion := some location.answer }
      { location' with expansion := some location'.answer } :=
  ⟨usable_expanded pair.left, usable_expanded pair.right, pair.alike⟩

theorem runs_expand (pair : D.Pair H location location') :
    D.Runs H F location.expand location'.expand
      (fun a b => a = location.answer ∧ b = location'.answer) fun _ _ => H := by
  refine (Runs.of_quiet (tells_expand pair.left) (tells_expand pair.right)
    fun _ _ is is' => ⟨is, is'⟩).mono fun _ _ related => ⟨related, by simp⟩

theorem shares_expand (pair : D.Pair H location location') :
    D.Shares H F location.expand location'.expand :=
  (runs_expand pair).mono fun a b is => by
    rw [is.1, is.2]
    exact ⟨pair_answer pair, rfl⟩

theorem runs_expanded (pair : D.Pair H location location') :
    D.Runs H F location.expanded location'.expanded
      (fun a b => a = { location with expansion := some location.answer } ∧
        b = { location' with expansion := some location'.answer }) fun _ _ => H := by
  refine (runs_expand pair).map ?_
  rintro _ _ ⟨rfl, rfl⟩
  exact ⟨⟨rfl, rfl⟩, rfl⟩

theorem same_isInSystemHeader (pair : D.Pair H location location') :
    D.Same H F location.isInSystemHeader location'.isInSystemHeader :=
  (rawPair pair).same_ask _ _

theorem same_isFromMainFile (pair : D.Pair H location location') :
    D.Same H F location.isFromMainFile location'.isFromMainFile :=
  (rawPair pair).same_ask _ _

theorem same_same {other other' : SourceLocation} (pair : D.Pair H location location')
    (pair' : D.Pair H other other') :
    D.Same H F (location.same other) (location'.same other') := by
  refine (same_ask_two (rawPair pair).lends (rawPair pair').lends _ (by nofun) (by nofun)).bind fun _ => ?_
  rw [← pair.alike.1.1, ← pair'.alike.1.1]
  exact Same.pure _

end SourceLocation

/-! ## Expansions -/

namespace Expansion

variable {expansion expansion' : Expansion}

theorem pair_file (pair : D.Pair H expansion expansion') :
    D.Pair H expansion.file expansion'.file :=
  ⟨⟨pair.left.coherent, pair.left.within⟩, ⟨pair.right.coherent, pair.right.within⟩, pair.alike.1⟩

theorem same_fileName (pair : D.Pair H expansion expansion') :
    D.Same H F expansion.fileName expansion'.fileName :=
  same_optionMapM ((pair_file pair).option SourceFile.same_name)

theorem same_inspect (pair : D.Pair H expansion expansion') :
    D.Same H F expansion.inspect expansion'.inspect := by
  refine (same_fileName pair).bind fun _ => ?_
  rw [pair.alike.2.1, pair.alike.2.2.1]
  exact Same.pure _

end Expansion

theorem SourceLocation.same_inspect {location location' : SourceLocation}
    (pair : D.Pair H location location') : D.Same H F location.inspect location'.inspect :=
  (shares_expand pair).bind fun _ _ pair => Expansion.same_inspect pair

namespace SourceFile

variable {file file' : SourceFile}

theorem shares_place (pair : D.Pair H file file') (position : FilePosition) :
    D.Shares H F (file.place position) (file'.place position) := by
  have same := pair.alike.1.1
  cases position <;>
    refine (same_ask_two (pair_unit pair).lends (rawPair pair).lends _ (by nofun) (by nofun)).bind fun _ => ?_
  all_goals
    refine Runs.pure ?_ rfl
    rw [← same]
    exact SourceLocation.pair_of (pair_unit pair) pair_absent rfl (.of_unit rfl) (.of_unit rfl)

theorem gives_location (pair : D.Pair H file file') (position : FilePosition) :
    D.Gives H F (file.location position) (file'.location position) :=
  (shares_place pair position).bind fun _ _ place => gives_keep place

end SourceFile

/-! ## Ranges -/

namespace SourceRange

variable {range range' : SourceRange}

theorem pair_unit (pair : D.Pair H range range') : D.Pair H range.unit range'.unit where
  left := ⟨trivial, fun o member => pair.left.within o (List.mem_append_left _ member)⟩
  right := ⟨trivial, fun o member => pair.right.within o (List.mem_append_left _ member)⟩
  alike := pair.alike.2.1

theorem pair_anchor (pair : D.Pair H range range') : D.Pair H range.anchor range'.anchor where
  left := ⟨fun _ _ => trivial, fun o member => pair.left.within o (List.mem_append_right _ member)⟩
  right := ⟨fun _ _ => trivial, fun o member =>
    pair.right.within o (List.mem_append_right _ member)⟩
  alike := pair.alike.2.2

theorem rawPair (pair : D.Pair H range range') : D.RawPair H range.raw range'.raw where
  left := by
    rw [show range.raw.origin = _ from pair.left.coherent.origin_eq]
    exact lends_anchor (pair_unit pair).left (pair_anchor pair).left
  right := by
    rw [show range'.raw.origin = _ from pair.right.coherent.origin_eq]
    exact lends_anchor (pair_unit pair).right (pair_anchor pair).right
  alike := pair.alike.1

/-- A range for what the engine answers of a unit or of completion results. -/
theorem pair_of {u u' : SourceUnit} (unit : D.Pair H u u') {anchor anchor' : Option Completion}
    (anchored : D.Pair H anchor anchor') {raw raw' : Raw Span}
    (same : raw.value = raw'.value) (origin : Comes raw.origin u anchor)
    (origin' : Comes raw'.origin u' anchor') :
    D.Pair H ({ raw, unit := u, anchor } : SourceRange)
      { raw := raw', unit := u', anchor := anchor' } where
  left := ⟨origin, within_anchor unit.left anchored.left⟩
  right := ⟨origin', within_anchor unit.right anchored.right⟩
  alike := by
    refine ⟨⟨same, ?_⟩, unit.alike, anchored.alike⟩
    rw [origin.origin_eq, origin'.origin_eq]
    exact renamed_anchor unit.alike anchored.alike

/-- Locations of one unit with one anchor belong to one resource. -/
theorem origin_eq {base : Facts} {w w' : World} (holds : D.Holds base H w w')
    {start start' stop stop' : SourceLocation} (first : D.Pair H start start')
    (last : D.Pair H stop stop')
    (same : (start'.unit.same stop'.unit && sameAnchor start'.anchor stop'.anchor) = true) :
    start.raw.origin = stop.raw.origin ∧ start'.raw.origin = stop'.raw.origin := by
  have units := holds.same_eq (SourceLocation.pair_unit first) (SourceLocation.pair_unit last)
  have anchors :=
    holds.sameAnchor_eq (SourceLocation.pair_anchor first) (SourceLocation.pair_anchor last)
  obtain ⟨facts, facts', -, -, ⟨τ, inv⟩, τ', inv'⟩ := holds
  have source {engine : Engine} {side : Side} {facts : Facts} {τ : Typing} {held : Held}
      {w : World} (inv : Inv engine side facts τ held w) {a b : SourceLocation}
      (left : Usable engine held a) (right : Usable engine held b)
      (same : (a.unit.same b.unit && sameAnchor a.anchor b.anchor) = true) :
      a.raw.origin = b.raw.origin :=
    (inv.same_source_iff (SourceLocation.usable_unit left) (SourceLocation.usable_anchor left)
      left.coherent.1 (SourceLocation.usable_unit right) (SourceLocation.usable_anchor right)
      right.coherent.1).1 same
  exact ⟨source inv first.left last.left (by rw [units, anchors]; exact same),
    source inv' first.right last.right same⟩

theorem gives_ofLocations {start start' stop stop' : SourceLocation}
    (first : D.Pair H start start') (last : D.Pair H stop stop')
    (fails : (start.unit.same stop.unit && sameAnchor start.anchor stop.anchor) = false → F = H) :
    D.Gives H F (ofLocations start stop) (ofLocations start' stop') := by
  refine Runs.of_holds fun holds => ?_
  have units := holds.same_eq (SourceLocation.pair_unit first) (SourceLocation.pair_unit last)
  have anchors :=
    holds.sameAnchor_eq (SourceLocation.pair_anchor first) (SourceLocation.pair_anchor last)
  rw [units, anchors] at fails
  unfold ofLocations
  rw [units, anchors]
  have lends := (SourceLocation.rawPair first).lends
  split
  next same =>
    obtain ⟨origins, origins'⟩ := origin_eq holds first last same
    refine (same_ask_two lends (SourceLocation.rawPair last).lends _ (fun _ => origins)
      fun _ => origins').bind fun _ => ?_
    refine gives_keep (pair_of (SourceLocation.pair_unit first) (SourceLocation.pair_anchor first)
      ?_ first.left.coherent.1 first.right.coherent.1)
    rw [first.alike.1.1, last.alike.1.1]
  next apart =>
    obtain rfl := fails (Bool.not_eq_true _ ▸ apart)
    refine (SourceLocation.pair_unit first).same_spelling.bind fun _ => ?_
    refine (SourceLocation.pair_unit last).same_spelling.bind fun _ => ?_
    exact Runs.fail _

/-- An end of a range comes from the same source. -/
theorem shares_end (pair : D.Pair H range range') (question : Question) (answer : Span → Place) :
    D.Shares H F
      (do
        let raw ← range.raw.derive question fun _ span => answer span
        return ({ raw, unit := range.unit, anchor := range.anchor } : SourceLocation))
      (do
        let raw ← range'.raw.derive question fun _ span => answer span
        return ({ raw, unit := range'.unit, anchor := range'.anchor } : SourceLocation)) := by
  refine ((rawPair pair).runs_derive question _).map ?_
  rintro _ _ ⟨-, rfl, rfl⟩
  exact ⟨SourceLocation.pair_of (pair_unit pair) (pair_anchor pair) rfl pair.left.coherent
    pair.right.coherent, rfl⟩

theorem shares_startPlace (pair : D.Pair H range range') :
    D.Shares H F range.startPlace range'.startPlace :=
  shares_end pair _ _

theorem shares_stopPlace (pair : D.Pair H range range') :
    D.Shares H F range.stopPlace range'.stopPlace :=
  shares_end pair _ _

theorem gives_start (pair : D.Pair H range range') : D.Gives H F range.start range'.start :=
  (shares_startPlace pair).bind fun _ _ place => gives_keep place

theorem gives_stop (pair : D.Pair H range range') : D.Gives H F range.stop range'.stop :=
  (shares_stopPlace pair).bind fun _ _ place => gives_keep place

theorem same_containsExpansion (pair : D.Pair H range range') {point point' : Expansion}
    (inside : D.Pair H point point') :
    D.Same H F (range.containsExpansion point) (range'.containsExpansion point') := by
  refine (shares_startPlace pair).bind fun _ _ start => ?_
  refine (shares_stopPlace pair).bind fun _ _ stop => ?_
  refine (Expansion.same_fileName inside).bind fun name => ?_
  refine (SourceLocation.shares_expand start).bind fun _ _ start => ?_
  refine (Expansion.same_fileName start).bind fun first => ?_
  split
  · exact Same.pure _
  refine (SourceLocation.shares_expand stop).bind fun _ _ stop => ?_
  refine (Expansion.same_fileName stop).bind fun last => ?_
  split
  · exact Same.pure _
  rw [start.alike.2.1, start.alike.2.2.1, stop.alike.2.1, stop.alike.2.2.1, inside.alike.2.1,
    inside.alike.2.2.1]
  exact Same.pure _

theorem same_same {other other' : SourceRange} (pair : D.Pair H range range')
    (pair' : D.Pair H other other') : D.Same H F (range.same other) (range'.same other') := by
  refine (same_ask_two (rawPair pair).lends (rawPair pair').lends _ (by nofun) (by nofun)).bind fun _ => ?_
  rw [← pair.alike.1.1, ← pair'.alike.1.1]
  exact Same.pure _

theorem same_inspect (pair : D.Pair H range range') : D.Same H F range.inspect range'.inspect := by
  refine (shares_startPlace pair).bind fun _ _ start => ?_
  refine (SourceLocation.same_inspect start).bind fun first => ?_
  refine (shares_stopPlace pair).bind fun _ _ stop => ?_
  exact (SourceLocation.same_inspect stop).map _

end SourceRange

/-! ## Inclusions -/

namespace Inclusion

variable {inclusion inclusion' : Inclusion}

theorem pair_included (pair : D.Pair H inclusion inclusion') :
    D.Pair H inclusion.included inclusion'.included where
  left := ⟨pair.left.coherent.2.1, fun o member =>
    pair.left.within o (List.mem_append_left _ (List.mem_append_right _ member))⟩
  right := ⟨pair.right.coherent.2.1, fun o member =>
    pair.right.within o (List.mem_append_left _ (List.mem_append_right _ member))⟩
  alike := pair.alike.2.1

theorem pair_source (pair : D.Pair H inclusion inclusion') :
    D.Pair H inclusion.source inclusion'.source where
  left := ⟨pair.left.coherent.1, fun o member =>
    pair.left.within o (List.mem_append_left _ (List.mem_append_left _ member))⟩
  right := ⟨pair.right.coherent.1, fun o member =>
    pair.right.within o (List.mem_append_left _ (List.mem_append_left _ member))⟩
  alike := pair.alike.1

theorem pair_location (pair : D.Pair H inclusion inclusion') :
    D.Pair H inclusion.location inclusion'.location where
  left := ⟨pair.left.coherent.2.2, fun o member =>
    pair.left.within o (List.mem_append_right _ member)⟩
  right := ⟨pair.right.coherent.2.2, fun o member =>
    pair.right.within o (List.mem_append_right _ member)⟩
  alike := pair.alike.2.2.1

theorem usable_of {engine : Engine} {held : Held} (usable : Usable engine held inclusion.source)
    (usable' : Usable engine held inclusion.included)
    (usable'' : Usable engine held inclusion.location) : Usable engine held inclusion where
  coherent := ⟨usable.coherent, usable'.coherent, usable''.coherent⟩
  within o member := by
    rcases List.mem_append.1 member with member | member
    · rcases List.mem_append.1 member with member | member
      · exact usable.within o member
      · exact usable'.within o member
    · exact usable''.within o member

theorem gives_make {included included' : SourceFile} {directive directive' : SourceLocation}
    (file : D.Pair H included included') (place : D.Pair H directive directive') (depth : UInt32) :
    D.Gives H F (make included directive depth) (make included' directive' depth) := by
  have source := Expansion.pair_file (SourceLocation.pair_answer place)
  have location := SourceLocation.pair_expanded place
  refine (SourceLocation.runs_expanded place).bind ?_
  rintro _ _ ⟨rfl, rfl⟩
  refine gives_keep ⟨?_, ?_, source.alike, file.alike, location.alike, rfl⟩
  · exact usable_of source.left file.left location.left
  · exact usable_of source.right file.right location.right

theorem same_inspect (pair : D.Pair H inclusion inclusion') :
    D.Same H F inclusion.inspect inclusion'.inspect := by
  refine (same_optionMapM ((pair_source pair).option SourceFile.same_inspect)).bind fun _ => ?_
  refine (SourceFile.same_inspect (pair_included pair)).bind fun _ => ?_
  refine (SourceLocation.same_inspect (pair_location pair)).bind fun _ => ?_
  rw [pair.alike.2.2.2]
  exact Same.pure _

end Inclusion

end SourceAtlas
