import SourceAtlas.Proofs.Borrowing
import SourceAtlas.Proofs.Success

/-!
# Where places come from

Each location and each range is tagged with the unit or the completion results that the engine
answered it for. Whatever is derived from one keeps the tag, and the engine is never asked about
places from several sources together: what cannot be joined is refused, and nothing else is.
-/

namespace SourceAtlas

open Duo

/-! ## Sources -/

/-- Whether a resource stems from another one: units and completion results stem from themselves,
and what borrows from them, directly or through other diagnostics, stems from them. -/
inductive Stems (trace : List Event) : Resource → Resource → Prop
  | itself {r : Resource} : r.kind = .unit ∨ r.kind = .completion → Stems trace r r
  | lender {r s source : Resource} : r.kind = .diagnostic ∨ r.kind = .tokens →
      Borrows trace r s → Stems trace s source → Stems trace r source

/-- Whether a resource stems from one source and from no other. -/
def Sourced (trace : List Event) (r source : Resource) : Prop :=
  ∀ s, Stems trace r s ↔ s = source

theorem Sourced.itself {trace : List Event} {r : Resource}
    (root : r.kind = .unit ∨ r.kind = .completion) : Sourced trace r r := by
  intro s
  constructor
  · rintro (_ | ⟨borrower, -, -⟩)
    · rfl
    · rcases root with root | root <;> rcases borrower with borrower | borrower <;>
        exact nomatch root.symm.trans borrower
  · rintro rfl
    exact .itself root

theorem Sourced.single {trace : List Event} {r source tag : Resource}
    (sourced : Sourced trace r source) (same : tag = source) : ∀ t ∈ [tag], Sourced trace r t :=
  List.forall_mem_singleton.2 (same ▸ sourced)

theorem Sourced.many {trace : List Event} {r source : Resource} (sourced : Sourced trace r source)
    {α : Type} {found : List α} {origin : α → Resource} (same : ∀ a ∈ found, origin a = source) :
    ∀ t ∈ found.map origin, Sourced trace r t :=
  List.forall_mem_map.2 fun a there => same a there ▸ sourced

theorem Sourced.lender {trace : List Event} {r s source : Resource}
    (borrower : r.kind = .diagnostic ∨ r.kind = .tokens) (borrows : Borrows trace r s)
    (only : ∀ t, Borrows trace r t → t = s) (sourced : Sourced trace s source) :
    Sourced trace r source := by
  intro t
  rw [← sourced t]
  constructor
  · rintro (root | ⟨-, borrows', stems⟩)
    · rcases root with root | root <;> rcases borrower with borrower | borrower <;>
        exact nomatch root.symm.trans borrower
    · exact only _ borrows' ▸ stems
  · exact .lender borrower borrows

namespace Inv

variable {engine : Engine} {side : Side} {facts : Facts} {τ : Typing} {held : Held} {w : World}
variable {r s : Resource} {o : Owner}

/-- What is within reach is of the kind of its owner. -/
theorem kind_of_within (inv : Inv engine side facts τ held w) (within : Within held o)
    (owned : o.resource = some r) : o.kind? = some r.kind :=
  inv.books.kind (inv.alive within).1 owned

/-- What is within reach and can borrow does so from the one lender that it names. -/
theorem borrows_source (inv : Inv engine side facts τ held w) (within : Within held o)
    (owned : o.resource = some r) (source : o.source? = some s) (can : r.kind.lenders ≠ []) :
    Borrows w.trace r s ∧ ∀ t, Borrows w.trace r t → t = s := by
  have owns := (inv.alive within).1
  have only (t : Resource) (borrows : Borrows w.trace r t) : t = s :=
    Option.some.inj ((inv.books.borrow owns owned borrows).symm.trans source)
  obtain ⟨t, borrows⟩ :=
    inv.books.clean.exists_borrows (inv.isOut ⟨o, within, owned⟩).1 can
  exact ⟨only t borrows ▸ borrows, only⟩

theorem sourced_unit (inv : Inv engine side facts τ held w) {u : SourceUnit}
    (within : Within held (.unit u)) : Sourced w.trace u.resource u.resource :=
  .itself (.inl (Option.some.inj (inv.kind_of_within within rfl)).symm)

/-- Units and completion results are sources. -/
theorem sourced_anchor (inv : Inv engine side facts τ held w) {unit : SourceUnit}
    {anchor : Option Completion} (unitUsable : Usable engine held unit)
    (anchorUsable : Usable engine held anchor) :
    Sourced w.trace (anchorResource unit anchor) (anchorResource unit anchor) := by
  cases anchor with
  | none => exact inv.sourced_unit (unitUsable.within _ (.head _))
  | some results =>
      have kind := inv.kind_of_within (anchorUsable.within _ (.head _)) rfl
      exact .itself (.inr (Option.some.inj kind).symm)

/-- Only the root of a chain of diagnostics is a source. -/
theorem sourced_diagnostic (inv : Inv engine side facts τ held w) {anchor : Option Completion}
    {unit : SourceUnit} (ancestors : List DiagnosticHandle) {handle : DiagnosticHandle}
    (within : Within held (.diagnostic ⟨handle, ancestors, anchor, unit⟩)) :
    Sourced w.trace handle.resource (anchorResource unit anchor) := by
  induction ancestors generalizing handle with
  | nil =>
      have kind : ResourceKind.diagnostic = handle.resource.kind :=
        Option.some.inj (inv.kind_of_within within rfl)
      obtain ⟨borrows, only⟩ := inv.borrows_source within rfl rfl (by rw [← kind]; decide)
      refine .lender (.inl kind.symm) borrows only (inv.sourced_anchor ⟨trivial, ?_⟩ ⟨?_, ?_⟩)
      · intro o member
        obtain rfl := List.mem_singleton.1 member
        exact .lender within (List.mem_append_right _ (.head _))
      · exact fun _ _ => trivial
      · intro o member
        cases anchor with
        | none => exact absurd member List.not_mem_nil
        | some results =>
            obtain rfl := List.mem_singleton.1 member
            exact .lender within (List.mem_append_left _ (List.mem_append_right _ (.head _)))
  | cons first rest ih =>
      have kind : ResourceKind.diagnostic = handle.resource.kind :=
        Option.some.inj (inv.kind_of_within within rfl)
      obtain ⟨borrows, only⟩ := inv.borrows_source within rfl rfl (by rw [← kind]; decide)
      refine .lender (.inl kind.symm) borrows only (ih (.lender within ?_))
      exact List.mem_append_left _ (List.mem_append_left _ (.head _))

theorem sourced_tokens (inv : Inv engine side facts τ held w) {batch : TokenBatch}
    (within : Within held (.tokens batch)) :
    Sourced w.trace batch.resource batch.unit.resource := by
  have kind : ResourceKind.tokens = batch.resource.kind :=
    Option.some.inj (inv.kind_of_within within rfl)
  obtain ⟨borrows, only⟩ := inv.borrows_source within rfl rfl (by rw [← kind]; decide)
  exact .lender (.inr kind.symm) borrows only (inv.sourced_unit (.lender within (.head _)))

/-- What comes from a unit or completion results has them for its source. -/
theorem sourced_place (inv : Inv engine side facts τ held w) {unit : SourceUnit}
    {anchor : Option Completion} {origin : Resource} (comes : Comes origin unit anchor)
    (within : ∀ o ∈ owners unit ++ owners anchor, Within held o) :
    Sourced w.trace origin origin := by
  rw [comes.origin_eq]
  exact inv.sourced_anchor
    ⟨trivial, fun o there => within o (List.mem_append_left _ there)⟩
    ⟨fun _ _ => trivial, fun o there => within o (List.mem_append_right _ there)⟩

end Inv

/-! ## Places -/

/-- The accessors of some objects that give locations or ranges, with the tags of what they give and
the resource that the engine is asked about. -/
inductive Locates (objects : List Object) :
    (α : Type) → Act α → (α → List Resource) → Resource → Prop
  | cursorLocation {k : Cursor} : .cursor k ∈ objects →
      Locates objects _ k.location (fun l => [l.raw.origin]) k.raw.origin
  | cursorExtent {k : Cursor} : .cursor k ∈ objects →
      Locates objects _ k.extent (fun r => [r.raw.origin]) k.raw.origin
  | tokenLocation {token : Token} : .token token ∈ objects →
      Locates objects _ token.location (fun l => [l.raw.origin]) token.batch.resource
  | tokenExtent {token : Token} : .token token ∈ objects →
      Locates objects _ token.extent (fun r => [r.raw.origin]) token.batch.resource
  | fileLocation {file : SourceFile} (position : FilePosition) : .file file ∈ objects →
      Locates objects _ (file.location position) (fun l => [l.raw.origin]) file.raw.origin
  | unitLocation {u : SourceUnit} (name : Bytes) (position : FilePosition) : .unit u ∈ objects →
      Locates objects _ (u.location? name position)
        (fun found => found.toList.map (·.raw.origin)) u.resource
  | unitExtent {u : SourceUnit} (name : Bytes) (start stop : FilePosition) : .unit u ∈ objects →
      Locates objects _ (u.extent? name start stop)
        (fun found => found.toList.map (·.raw.origin)) u.resource
  | inclusions {u : SourceUnit} : .unit u ∈ objects →
      Locates objects _ u.inclusions (·.map (·.location.raw.origin)) u.resource
  | diagnosticLocation {d : Diagnostic} : .diagnostic d ∈ objects →
      Locates objects _ d.location (fun l => [l.raw.origin]) d.handle.resource
  | diagnosticRanges {d : Diagnostic} : .diagnostic d ∈ objects →
      Locates objects _ d.ranges (·.map (·.raw.origin)) d.handle.resource
  | fixIts {d : Diagnostic} : .diagnostic d ∈ objects →
      Locates objects _ d.fixIts (·.map (·.range.raw.origin)) d.handle.resource
  | rangeStart {range : SourceRange} : .range range ∈ objects →
      Locates objects _ range.start (fun l => [l.raw.origin]) range.raw.origin
  | rangeStop {range : SourceRange} : .range range ∈ objects →
      Locates objects _ range.stop (fun l => [l.raw.origin]) range.raw.origin
  | fromStart {start stop : SourceLocation} : .location start ∈ objects →
      Locates objects _ (SourceRange.ofLocations start stop) (fun r => [r.raw.origin])
        start.raw.origin

theorem SourceFile.returns_place (file : SourceFile) (position : FilePosition) :
    (file.place position).Returns (·.raw.origin = file.unit.resource) := by
  cases position <;> exact .bind fun _ => .pure rfl

theorem SourceFile.returns_location (file : SourceFile) (position : FilePosition) :
    (file.location position).Returns (·.raw.origin = file.unit.resource) :=
  (file.returns_place position).after fun _ same => .keep same

theorem SourceUnit.returns_fileHandle? (u : SourceUnit) (name : Bytes) :
    (u.fileHandle? name).Returns fun found => ∀ file ∈ found, file.unit = u := by
  refine .bind fun _ => .bind fun _ => .bind fun _ => .pure fun file found => ?_
  obtain ⟨_, -, rfl⟩ := Option.map_eq_some_iff.1 found
  rfl

theorem SourceRange.returns_ofLocations (start stop : SourceLocation) :
    (SourceRange.ofLocations start stop).Returns (·.raw.origin = start.raw.origin) := by
  unfold SourceRange.ofLocations
  split
  · exact .bind fun _ => .keep rfl
  · exact .bind fun _ => .bind fun _ => .fail _

theorem Raw.returns_derive {α β : Type} (raw : Raw α) (question : Question)
    (answer : Engine → α → β) : (raw.derive question answer).Returns (·.origin = raw.origin) :=
  .bind fun _ => .pure rfl

theorem SourceRange.returns_start (range : SourceRange) :
    range.start.Returns (·.raw.origin = range.raw.origin) := by
  have place : range.startPlace.Returns (·.raw.origin = range.raw.origin) :=
    (range.raw.returns_derive _ _).after fun _ same => .pure same
  exact place.after fun _ same => .keep same

theorem SourceRange.returns_stop (range : SourceRange) :
    range.stop.Returns (·.raw.origin = range.raw.origin) := by
  have place : range.stopPlace.Returns (·.raw.origin = range.raw.origin) :=
    (range.raw.returns_derive _ _).after fun _ same => .pure same
  exact place.after fun _ same => .keep same

theorem Inclusion.returns_make (included : SourceFile) (directive : SourceLocation)
    (depth : UInt32) :
    (Inclusion.make included directive depth).Returns
      (·.location.raw.origin = directive.raw.origin) := by
  have expanded : directive.expanded.Returns (·.raw = directive.raw) := .bind fun _ => .pure rfl
  exact expanded.after fun _ same => .keep (congrArg Raw.origin same)

namespace Diagnostic

theorem returns_span (d : Diagnostic) (span : Span) :
    (d.span span).Returns (·.raw.origin = d.origin) :=
  .keep rfl

theorem returns_location (d : Diagnostic) : d.location.Returns (·.raw.origin = d.origin) := by
  have place : d.place.Returns (·.raw.origin = d.origin) := .bind fun _ => .pure rfl
  exact place.after fun _ same => .keep same

theorem returns_ranges (d : Diagnostic) :
    d.ranges.Returns fun ranges => ∀ r ∈ ranges, r.raw.origin = d.origin :=
  .bind fun _ => .mapM (fun _ => .bind fun _ => d.returns_span _) _

theorem returns_fixIts (d : Diagnostic) :
    d.fixIts.Returns fun fixIts => ∀ f ∈ fixIts, f.range.raw.origin = d.origin := by
  refine .bind fun _ => .mapM (fun _ => .bind fun (_, _) => ?_) _
  exact .bind fun _ => (d.returns_span _).after fun _ same => .pure same

end Diagnostic

theorem SourceUnit.returns_inclusions (u : SourceUnit) :
    u.inclusions.Returns fun found => ∀ i ∈ found, i.location.raw.origin = u.resource := by
  refine .bind fun _ => .bind fun _ => Act.Returns.after (Act.Returns.mapM (P := fun found =>
    ∀ i ∈ found, i.location.raw.origin = u.resource) (fun entry => ?_) _) fun founds holds =>
      .pure fun i member => ?_
  · split
    · exact (Inclusion.returns_make _ _ _).map fun i same => by
        rintro _ ⟨⟩
        exact same
    · refine .pure ?_
      rintro _ ⟨⟩
  · obtain ⟨found, there, same⟩ := List.mem_filterMap.1 member
    exact holds found there i same

theorem SourceUnit.returns_location? (u : SourceUnit) (name : Bytes) (position : FilePosition) :
    (u.location? name position).Returns fun found =>
      ∀ l ∈ found, l.raw.origin = u.resource := by
  refine (u.returns_fileHandle? name).after fun found same => .optionMapM fun file there => ?_
  rw [← same file there]
  exact file.returns_location position

theorem SourceUnit.returns_extent? (u : SourceUnit) (name : Bytes) (start stop : FilePosition) :
    (u.extent? name start stop).Returns fun found => ∀ r ∈ found, r.raw.origin = u.resource := by
  refine (u.returns_fileHandle? name).after fun found same => .optionMapM fun file there => ?_
  rw [← same file there]
  refine (file.returns_place start).after fun first same => .bind fun last => ?_
  rw [← same]
  exact SourceRange.returns_ofLocations first last

namespace Inv

variable {engine : Engine} {side : Side} {facts : Facts} {τ : Typing} {held : Held} {w v : World}

theorem origin_location (inv : Inv engine side facts τ held w) {k : Cursor}
    (usable : Usable engine held k) {l : SourceLocation}
    (ran : k.location.exec (side.setting engine) w = (.ok l, v)) :
    l.raw.origin = k.unit.resource := by
  obtain ⟨_, _, told, ⟨is, -⟩, -⟩ := Cursor.tells_location usable facts w ⟨τ, inv⟩
  obtain rfl := Except.ok.inj (Prod.mk.inj (ran.symm.trans told)).1
  exact (congrArg Raw.origin is).trans usable.coherent.1

theorem origin_extent (inv : Inv engine side facts τ held w) {k : Cursor}
    (usable : Usable engine held k) {r : SourceRange}
    (ran : k.extent.exec (side.setting engine) w = (.ok r, v)) :
    r.raw.origin = k.unit.resource := by
  obtain ⟨_, _, told, rfl, -⟩ := Cursor.tells_extent usable facts w ⟨τ, inv⟩
  obtain rfl := Except.ok.inj (Prod.mk.inj (ran.symm.trans told)).1
  exact usable.coherent.1

end Inv

/-- What an accessor gives is tagged with the source of what the engine was asked about. -/
theorem Locates.sourced {engine : Engine} {side : Side} {facts : Facts} {τ : Typing} {w : World}
    {objects : List Object} (inv : Inv engine side facts τ (owners objects) w)
    (coherent : ∀ object ∈ objects, Coherent engine object) {α : Type} {act : Act α}
    {tags : α → List Resource} {r : Resource} (locates : Locates objects α act tags r) {a : α}
    {v : World} (ran : act.exec (side.setting engine) w = (.ok a, v)) :
    ∀ tag ∈ tags a, Sourced w.trace r tag := by
  have within {object : Object} (member : object ∈ objects) (o : Owner)
      (there : o ∈ owners object) : Within (owners objects : List Owner) o :=
    .of_element member there
  cases locates with
  | @cursorLocation k member =>
      have origin : k.raw.origin = k.unit.resource := (coherent _ member).1
      rw [origin]
      exact (inv.sourced_unit (within member _ (.head _))).single
        (inv.origin_location ⟨coherent _ member, within member⟩ ran)
  | @cursorExtent k member =>
      have origin : k.raw.origin = k.unit.resource := (coherent _ member).1
      rw [origin]
      exact (inv.sourced_unit (within member _ (.head _))).single
        (inv.origin_extent ⟨coherent _ member, within member⟩ ran)
  | @tokenLocation token member =>
      have returns : token.location.Returns (·.raw.origin = token.batch.unit.resource) :=
        .bind fun _ => .keep rfl
      exact (inv.sourced_tokens (within member _ (.head _))).single (returns _ _ _ _ ran)
  | @tokenExtent token member =>
      have returns : token.extent.Returns (·.raw.origin = token.batch.unit.resource) :=
        .bind fun _ => .keep rfl
      exact (inv.sourced_tokens (within member _ (.head _))).single (returns _ _ _ _ ran)
  | @fileLocation file position member =>
      have origin : file.raw.origin = file.unit.resource := coherent _ member
      rw [origin]
      exact (inv.sourced_unit (within member _ (.head _))).single
        (file.returns_location position _ _ _ _ ran)
  | @unitLocation u name position member =>
      exact (inv.sourced_unit (within member _ (.head _))).many fun l there =>
        u.returns_location? name position _ _ _ _ ran l (Option.mem_toList.1 there)
  | @unitExtent u name start stop member =>
      exact (inv.sourced_unit (within member _ (.head _))).many fun r there =>
        u.returns_extent? name start stop _ _ _ _ ran r (Option.mem_toList.1 there)
  | @inclusions u member =>
      exact (inv.sourced_unit (within member _ (.head _))).many (u.returns_inclusions _ _ _ _ ran)
  | @diagnosticLocation d member =>
      exact (inv.sourced_diagnostic d.ancestors (within member _ (.head _))).single
        (d.returns_location _ _ _ _ ran)
  | @diagnosticRanges d member =>
      exact (inv.sourced_diagnostic d.ancestors (within member _ (.head _))).many
        (d.returns_ranges _ _ _ _ ran)
  | @fixIts d member =>
      exact (inv.sourced_diagnostic d.ancestors (within member _ (.head _))).many
        (d.returns_fixIts _ _ _ _ ran)
  | @rangeStart range member =>
      exact (inv.sourced_place (coherent _ member) (within member)).single
        (range.returns_start _ _ _ _ ran)
  | @rangeStop range member =>
      exact (inv.sourced_place (coherent _ member) (within member)).single
        (range.returns_stop _ _ _ _ ran)
  | @fromStart start stop member =>
      have comes : Comes start.raw.origin start.unit start.anchor := (coherent _ member).1
      refine (inv.sourced_place comes fun o there => within member o ?_).single
        (SourceRange.returns_ofLocations start stop _ _ _ _ ran)
      exact List.mem_append_left _ there

/-! ## What is refused -/

/-- Whether nothing was ever mixed, and what some objects can be asked about places is refused if and
only if it would mix sources. -/
structure Separated (setting : Setting) (w : World) (objects : List Object) : Prop where
  /-- What was joined came from one source. -/
  unmixed : ∀ event ∈ w.trace, event.Unmixed
  /-- Places are tagged with the source of what the engine was asked about. -/
  tagged : ∀ (α : Type) (act : Act α) tags r, Locates objects α act tags r →
    ∀ a v, act.exec setting w = (.ok a, v) → ∀ tag ∈ tags a, Sourced w.trace r tag
  /-- There are cursors at locations of units only. -/
  cursorAt : ∀ l, .location l ∈ objects →
    if l.raw.origin.kind = .completion then
      (Cursor.atLocation l).exec setting w = (.error (.failure (.precondition "from_location"
        "a location inside a translation unit" "a code-completion location")), w)
    else ∃ cursor v, (Cursor.atLocation l).exec setting w = (.ok cursor, v)
  /-- A unit has tokens in its own ranges only. -/
  tokensIn : ∀ u range, .unit u ∈ objects → .range range ∈ objects →
    if range.raw.origin = u.resource then
      ∃ stream v, (u.tokens range).exec setting w = (.ok stream, v)
    else ∃ name v, (u.tokens range).exec setting w = (.error (.failure (.precondition "tokens"
      "a range from this translation unit" ("a range from " ++ name))), v)
  /-- Ranges have both ends in one source. -/
  between : ∀ start stop, .location start ∈ objects → .location stop ∈ objects →
    if start.raw.origin = stop.raw.origin then
      ∃ range v, (SourceRange.ofLocations start stop).exec setting w = (.ok range, v)
    else ∃ first second v, (SourceRange.ofLocations start stop).exec setting w =
      (.error (.failure (.precondition "from_locations"
        "two locations from the same translation unit" (first ++ " and " ++ second))), v)
  /-- The ends of an extent are in one file, so only the name of the file can be refused. -/
  extent : ∀ u name start stop, .unit u ∈ objects →
    match firstNul? [name] with
    | some position => (u.extent? name start stop).exec setting w =
        (.error (.failure (.nulAt position)), w)
    | none => ∃ range v, (u.extent? name start stop).exec setting w = (.ok range, v)
  /-- The tokens of a cursor need no check: its extent is in its own unit. -/
  cursorTokens : ∀ k, .cursor k ∈ objects →
    (∃ extent v, k.extent.exec setting w = (.ok extent, v) ∧
      extent.raw.origin = k.unit.resource) ∧
    ∃ stream v, k.tokens.exec setting w = (.ok stream, v)

namespace Inv

variable {engine : Engine} {side : Side} {facts : Facts} {τ : Typing} {held : Held} {w : World}

/-- Whether a place is in completion results shows in its tag. -/
theorem isSome_anchor_iff (inv : Inv engine side facts τ held w) {origin : Resource}
    {unit : SourceUnit} {anchor : Option Completion} (unitUsable : Usable engine held unit)
    (anchorUsable : Usable engine held anchor) (comes : Comes origin unit anchor) :
    anchor.isSome = true ↔ origin.kind = .completion := by
  rw [comes.origin_eq]
  cases anchor with
  | none =>
      have kind : ResourceKind.unit = unit.resource.kind :=
        Option.some.inj (inv.kind_of_within (unitUsable.within _ (.head _)) rfl)
      refine ⟨nofun, fun same => ?_⟩
      exact nomatch kind.trans same
  | some results =>
      have kind : ResourceKind.completion = results.resource.kind :=
        Option.some.inj (inv.kind_of_within (anchorUsable.within _ (.head _)) rfl)
      exact ⟨fun _ => kind.symm, fun _ => rfl⟩

theorem exec_atLocation (inv : Inv engine side facts τ held w) {l : SourceLocation}
    (usable : Usable engine held l) :
    if l.raw.origin.kind = .completion then
      (Cursor.atLocation l).exec (side.setting engine) w = (.error (.failure (.precondition
        "from_location" "a location inside a translation unit" "a code-completion location")), w)
    else ∃ cursor v, (Cursor.atLocation l).exec (side.setting engine) w = (.ok cursor, v) := by
  have anchored := inv.isSome_anchor_iff (SourceLocation.usable_unit usable)
    (SourceLocation.usable_anchor usable) usable.coherent.1
  split
  next inResults =>
    have refused : l.isAnchored = true := anchored.2 inResults
    unfold Cursor.atLocation
    dsimp only
    rw [if_pos refused]
    exact Act.exec_bind_error rfl
  next inUnit =>
    obtain ⟨cursor, v, ran, -⟩ := Runs.succeeds
      (Cursor.gives_atLocation usable.beside fun same => absurd (anchored.1 same) inUnit) inv
    exact ⟨cursor, v, ran⟩

theorem exec_tokens (inv : Inv engine side facts τ held w) {u : SourceUnit} {range : SourceRange}
    (usable : Usable engine held u) (other : Usable engine held range) :
    if range.raw.origin = u.resource then
      ∃ stream v, (u.tokens range).exec (side.setting engine) w = (.ok stream, v)
    else ∃ name v, (u.tokens range).exec (side.setting engine) w = (.error (.failure (.precondition
      "tokens" "a range from this translation unit" ("a range from " ++ name))), v) := by
  have pair : (alone engine side).Pair (held, held) range range := other.beside
  have unit : Usable engine held range.unit := (SourceRange.pair_unit pair).left
  have source := inv.same_source_iff unit (SourceRange.pair_anchor pair).left other.coherent usable
    Usable.absent (.of_unit rfl)
  have refuses : (range.isAnchored || !range.unit.same u) = true ↔ range.raw.origin ≠ u.resource := by
    rw [← not_iff_not, not_not, ← source, SourceRange.isAnchored]
    cases range.anchor <;> simp [sameAnchor]
  split
  next own =>
    obtain ⟨stream, v, ran, -⟩ := Runs.succeeds
      (SourceUnit.gives_tokens usable.beside pair fun same => absurd own (refuses.1 same)) inv
    exact ⟨stream, v, ran⟩
  next foreign =>
    obtain ⟨name, v, ran, -⟩ := SourceUnit.ensures_spelling unit facts w ⟨τ, inv⟩
    refine ⟨name, v, ?_⟩
    unfold SourceUnit.tokens
    dsimp only
    rw [if_pos (refuses.2 foreign), Act.exec_bind_ok ran]
    exact Act.exec_bind_error rfl

theorem exec_ofLocations (inv : Inv engine side facts τ held w) {start stop : SourceLocation}
    (first : Usable engine held start) (last : Usable engine held stop) :
    if start.raw.origin = stop.raw.origin then
      ∃ range v, (SourceRange.ofLocations start stop).exec (side.setting engine) w = (.ok range, v)
    else ∃ name name' v, (SourceRange.ofLocations start stop).exec (side.setting engine) w =
      (.error (.failure (.precondition "from_locations"
        "two locations from the same translation unit" (name ++ " and " ++ name'))), v) := by
  have joins := inv.same_source_iff (SourceLocation.usable_unit first)
    (SourceLocation.usable_anchor first) first.coherent.1 (SourceLocation.usable_unit last)
    (SourceLocation.usable_anchor last) last.coherent.1
  split
  next same =>
    obtain ⟨range, v, ran, -⟩ := Runs.succeeds (SourceRange.gives_ofLocations first.beside
      last.beside fun apart => absurd (joins.2 same) (Bool.eq_false_iff.1 apart)) inv
    exact ⟨range, v, ran⟩
  next apart =>
    obtain ⟨name, v, ran, -, τ', inv'⟩ :=
      SourceUnit.ensures_spelling (SourceLocation.usable_unit first) facts w ⟨τ, inv⟩
    obtain ⟨name', v', ran', -⟩ :=
      SourceUnit.ensures_spelling (SourceLocation.usable_unit last) facts v ⟨τ', inv'⟩
    refine ⟨name, name', v', ?_⟩
    unfold SourceRange.ofLocations
    rw [if_neg fun same => apart (joins.1 same), Act.exec_bind_ok ran, Act.exec_bind_ok ran']
    rfl

end Inv

section Exec

variable {setting : Setting} {w : World}

theorem SourceFile.exec_place (file : SourceFile) (position : FilePosition)
    (loaded : w.loaded = true) :
    ∃ l v, (file.place position).exec setting w = (.ok l, v) ∧ l.unit = file.unit ∧
      l.anchor = none ∧ v.loaded = true := by
  cases position <;>
    exact ⟨_, _, Act.exec_bind_ok (Act.exec_ask _ _ _ loaded), rfl, rfl, loaded⟩

/-- A range between two places of one source is never refused. -/
theorem SourceRange.exec_ofLocations {start stop : SourceLocation}
    (same : (start.unit.same stop.unit && sameAnchor start.anchor stop.anchor) = true)
    (loaded : w.loaded = true) :
    ∃ range v, (SourceRange.ofLocations start stop).exec setting w = (.ok range, v) := by
  unfold SourceRange.ofLocations
  rw [if_pos same, Act.exec_bind_ok (Act.exec_ask _ _ _ loaded)]
  exact ⟨_, _, rfl⟩

/-- The ends of an extent come from one file. -/
theorem SourceFile.exec_extent (file : SourceFile) (start stop : FilePosition)
    (loaded : w.loaded = true) :
    ∃ range v, (do
      SourceRange.ofLocations (← file.place start) (← file.place stop)).exec setting w =
        (.ok range, v) := by
  obtain ⟨first, v, ran, unit, anchor, loaded⟩ := file.exec_place start loaded
  obtain ⟨last, v', ran', unit', anchor', loaded⟩ := file.exec_place stop loaded
  have same : (first.unit.same last.unit && sameAnchor first.anchor last.anchor) = true := by
    rw [unit, unit', anchor, anchor']
    exact Bool.and_eq_true_iff.2 ⟨beq_self_eq_true _, rfl⟩
  rw [Act.exec_bind_ok ran, Act.exec_bind_ok ran']
  exact SourceRange.exec_ofLocations same loaded

end Exec

namespace Inv

variable {engine : Engine} {side : Side} {facts : Facts} {τ : Typing} {held : Held} {w : World}

/-- Of an extent only the name of the file can be refused. -/
theorem exec_extent? (inv : Inv engine side facts τ held w) {u : SourceUnit}
    (usable : Usable engine held u) (name : Bytes) (start stop : FilePosition) :
    match firstNul? [name] with
    | some position => (u.extent? name start stop).exec (side.setting engine) w =
        (.error (.failure (.nulAt position)), w)
    | none => ∃ range v, (u.extent? name start stop).exec (side.setting engine) w =
        (.ok range, v) := by
  split
  next position found =>
    unfold SourceUnit.extent? SourceUnit.fileHandle? Act.checkTexts
    rw [found]
    exact Act.exec_bind_error (Act.exec_bind_error rfl)
  next clean =>
    have loaded := inv.isLoaded (usable.within _ (.head _)).ne_zero
    have checked : (Act.checkTexts [name]).exec (side.setting engine) w = (.ok (), w) := by
      unfold Act.checkTexts
      rw [clean]
      rfl
    have asked : (w.note (.requested (.getFile u.resource name))).loaded = true := loaded
    have found : (u.fileHandle? name).exec (side.setting engine) w =
        (.ok (SourceFile.ofRaw? ⟨engine.fileNamed name, u.resource⟩ u),
          w.note (.requested (.getFile u.resource name))) :=
      (Act.exec_bind_ok checked).trans (Act.exec_bind_ok (Act.exec_request _ loaded))
    unfold SourceUnit.extent?
    rw [Act.exec_bind_ok found]
    cases SourceFile.ofRaw? ⟨engine.fileNamed name, u.resource⟩ u with
    | none => exact ⟨_, _, rfl⟩
    | some file =>
        obtain ⟨range, v, ran⟩ := file.exec_extent start stop asked
        refine ⟨some range, v, ?_⟩
        rw [Option.mapM_some, ← bind_pure_comp, Act.exec_bind_ok ran]
        rfl

/-- The extent of a cursor is in its own unit. -/
theorem exec_cursorTokens (inv : Inv engine side facts τ held w) {k : Cursor}
    (usable : Usable engine held k) :
    (∃ extent v, k.extent.exec (side.setting engine) w = (.ok extent, v) ∧
      extent.raw.origin = k.unit.resource) ∧
    ∃ stream v, k.tokens.exec (side.setting engine) w = (.ok stream, v) := by
  obtain ⟨_, v, ran, rfl, -⟩ := Cursor.tells_extent usable facts w ⟨τ, inv⟩
  refine ⟨⟨_, v, ran, usable.coherent.1⟩, ?_⟩
  obtain ⟨stream, v, ran, -⟩ := Runs.succeeds (Cursor.gives_tokens usable.beside) inv
  exact ⟨stream, v, ran⟩

end Inv

/-- The engine is never asked about places from several sources together. In every state of a
session places are tagged with their source, and what would mix sources is refused. -/
theorem sources_never_mix (setting : Setting) :
    (∀ begin state, Session.Reached setting begin state →
      Separated setting state.world state.slots.objects) ∧
    ∀ host words, ∀ event ∈ (runProgram setting host words).events, event.Unmixed := by
  constructor
  · intro begin state reached
    obtain ⟨facts, τ, inv⟩ := reached.inv
    have usable {object : Object} (member : object ∈ state.slots.objects) :=
      reached.usable object member
    have coherent (object : Object) (member : object ∈ state.slots.objects) :=
      (usable member).coherent
    refine ⟨inv.books.clean.unmixed, fun α act tags r locates a v ran =>
      locates.sourced inv coherent ran, fun l member => ?_, fun u range member member' => ?_,
      fun start stop member member' => ?_, fun u name start stop member => ?_,
      fun k member => ?_⟩
    · exact inv.exec_atLocation ⟨(usable member).coherent, (usable member).within⟩
    · exact inv.exec_tokens ⟨trivial, (usable member).within⟩
        ⟨(usable member').coherent, (usable member').within⟩
    · exact inv.exec_ofLocations ⟨(usable member).coherent, (usable member).within⟩
        ⟨(usable member').coherent, (usable member').within⟩
    · exact inv.exec_extent? ⟨trivial, (usable member).within⟩ name start stop
    · exact inv.exec_cursorTokens ⟨(usable member).coherent, (usable member).within⟩
  · intro host words event member
    obtain ⟨_, _, w, inv, events⟩ := runProgram_inv setting host words
    exact inv.books.clean.unmixed event (events ▸ List.mem_reverse.2 member)

open Session in
/-- Two locations in a unit are joined. A location in it and one in completion results are not, and
neither are locations in two completion results of the unit. There is no cursor in completion
results, and a unit has no tokens in a range of another one. -/
theorem sources_never_mix_completions :
    let state := Sample.after (Sample.looks ++ Sample.mixes)
    let join (slot other : String) := (state.ask Sample.setting slot other none .null "range_to").2
    let apart : Reply := .fault (.failure (.precondition "from_locations"
      "two locations from the same translation unit" "a and a"))
    Separated Sample.setting state.world state.slots.objects ∧
      (∃ range, join "l" "f" = .shown range) ∧ join "l" "p" = apart ∧ join "p" "o" = apart ∧
      (state.ask Sample.setting "p" none none .null "cursor").2 =
        .fault (.failure (.precondition "from_location" "a location inside a translation unit"
          "a code-completion location")) ∧
      (state.ask Sample.setting "v" "e" none .null "tokens_in").2 =
        .fault (.failure (.precondition "tokens" "a range from this translation unit"
          "a range from a")) := by
  have separated := (sources_never_mix Sample.setting).1 {} _
    (Sample.reached (Sample.looks ++ Sample.mixes))
  dsimp only
  generalize named : Sample.after (Sample.looks ++ Sample.mixes) = state at *
  refine ⟨separated, ⟨.obj [("range", .arr [.arr [.str "a", .num 1, .num 1, .num 0],
    .arr [.str "a", .num 2, .num 1, .num 9]])], ?_⟩, ?_, ?_, ?_, ?_⟩
  all_goals
    rw [← named]
    cbv

end SourceAtlas
