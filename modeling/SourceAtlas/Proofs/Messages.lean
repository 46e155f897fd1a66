import SourceAtlas.Proofs.Cursors

/-!
# Diagnostics and completion in lockstep

Two runs take corresponding diagnostics of units, of completion results and of other diagnostics,
and get alike answers about them and about completion candidates, their texts and the chunks of
those.
-/

namespace SourceAtlas

open Duo

variable {D : Duo} {H F : Grip}

/-! ## Diagnostics -/

namespace Diagnostic

variable {d d' : Diagnostic}

section Reach

variable {engine : Engine} {held : Held}

theorem within (usable : Usable engine held d) : Within held (.diagnostic d) :=
  usable.within _ (.head _)

theorem usable_unit (usable : Usable engine held d) : Usable engine held d.unit where
  coherent := trivial
  within o member := by
    obtain rfl := List.mem_singleton.1 member
    exact .lender (within usable) (List.mem_append_right _ (.head _))

theorem usable_anchor (usable : Usable engine held d) : Usable engine held d.anchor where
  coherent _ _ := trivial
  within o member := by
    refine .lender (within usable) (List.mem_append_left _ (List.mem_append_right _ ?_))
    cases found : d.anchor with
    | none =>
        rw [found] at member
        exact absurd member List.not_mem_nil
    | some results =>
        rw [found] at member
        exact member

theorem usable_parent (usable : Usable engine held d) : Usable engine held d.parent where
  coherent parent found := by
    unfold Diagnostic.parent at found
    split at found
    · exact nomatch found
    · cases found
      exact usable.coherent
  within o member := by
    refine .lender (within usable) (List.mem_append_left _ (List.mem_append_left _ ?_))
    cases found : d.parent with
    | none =>
        rw [found] at member
        exact absurd member List.not_mem_nil
    | some parent =>
        rw [found] at member
        exact member

end Reach

theorem pair_unit (pair : D.Pair H d d') : D.Pair H d.unit d'.unit :=
  ⟨usable_unit pair.left, usable_unit pair.right, pair.alike.2.2.2⟩

theorem pair_anchor (pair : D.Pair H d d') : D.Pair H d.anchor d'.anchor :=
  ⟨usable_anchor pair.left, usable_anchor pair.right, pair.alike.2.2.1⟩

theorem pair_parent (pair : D.Pair H d d') : D.Pair H d.parent d'.parent :=
  ⟨usable_parent pair.left, usable_parent pair.right, parent_alike pair.alike⟩

theorem lends_handle (pair : D.Pair H d d') : H.Lends d.handle.resource d'.handle.resource :=
  ⟨⟨_, within pair.left, rfl⟩, _, within pair.right, rfl⟩

/-! ### New diagnostics -/

/-- A diagnostic keeps its unit, its anchor and the diagnostic that it is a note of. -/
theorem founds {engine : Engine} {held : Held} {u : SourceUnit} (usable : Usable engine held u)
    {anchor : Option Completion} (anchored : Usable engine held anchor)
    (ancestors : List DiagnosticHandle) {lenders : List Resource} (entry : Nat)
    (above : ∀ first rest, ancestors = first :: rest →
      Within held (.diagnostic ⟨first, rest, anchor, u⟩))
    (known : ∀ c r, ∀ s ∈ lenders,
      (Owner.diagnostic ⟨⟨c, r, entry⟩, ancestors, anchor, u⟩).source? = some s) :
    Founds engine held .diagnostic lenders (.diagnostic ancestors.head? anchor u)
      fun c r => .diagnostic ⟨⟨c, r, entry⟩, ancestors, anchor, u⟩ where
  cell _ _ := rfl
  kind _ _ := rfl
  describes _ _ _ := ⟨rfl, rfl, rfl, rfl⟩
  within {c r p} member := by
    rcases List.mem_append.1 member with member | member
    · rcases List.mem_append.1 member with member | member
      · cases ancestors with
        | nil => exact absurd member List.not_mem_nil
        | cons first rest =>
            obtain rfl := List.mem_singleton.1 member
            exact above first rest rfl
      · refine anchored.within p ?_
        cases anchor <;> exact member
    · exact usable.within p member
  known := known
  fresh := nofun

/-- The engine may have been asked for a null diagnostic. -/
theorem lockstep_ofRaw? {base : Facts} {u u' : SourceUnit} (unit : D.Pair H u u')
    {anchor anchor' : Option Completion} (anchored : D.Pair H anchor anchor')
    (belongs : ∀ results ∈ anchor, results.unit = u)
    (belongs' : ∀ results ∈ anchor', results.unit = u')
    {ancestors ancestors' : List DiagnosticHandle} {lenders lenders' : List Resource}
    (above : Alike D.shift.rename ancestors ancestors')
    (founds : ∀ entry, Founds D.engine H.1 .diagnostic lenders
      (.diagnostic ancestors.head? anchor u)
      fun c r => .diagnostic ⟨⟨c, r, entry⟩, ancestors, anchor, u⟩)
    (founds' : ∀ entry, Founds D.engine H.2 .diagnostic lenders'
      (.diagnostic ancestors'.head? anchor' u')
      fun c r => .diagnostic ⟨⟨c, r, entry⟩, ancestors', anchor', u'⟩) (entry : Ref) :
    D.Lockstep (D.Asked base H .diagnostic lenders lenders')
      (ofRaw? entry u ancestors anchor) (ofRaw? entry u' ancestors' anchor')
      (fun a b w w' => D.Match a b ∧ D.Holds base (H.add a b) w w') (D.Holds base F) := by
  cases entry with
  | none => exact lockstep_null
  | some entry =>
      refine lockstep_own_asked (founds entry) (founds' entry) (by nofun) rfl
        (fun c r => some (⟨⟨c, r, entry⟩, ancestors, anchor, u⟩ : Diagnostic))
        (fun c r => some (⟨⟨c, r, entry⟩, ancestors', anchor', u'⟩ : Diagnostic))
        (fun _ _ => rfl) (fun _ _ => rfl) fun c r c' r' renamed => Match.some ?_
      exact ⟨belongs, belongs', ⟨renamed, rfl⟩, above, anchored.alike, unit.alike⟩

/-! ### Questions -/

/-- Of two texts that are taken together the second one is read. -/
theorem tells_twoTexts {engine : Engine} {side : Side} {held : Held} (first second : EngineText) :
    Act.Tells engine side held
      (do
        let enable ← Act.takeText first
        let disable ← Act.takeText second
        let _ ← Act.copyText enable first
        return (← Act.copyText disable second).getD "")
      (· = second.decoded) := by
  rintro facts w ⟨τ, inv⟩
  refine ⟨second.decoded, w.tellBoth first second, rfl, rfl, τ, ?_⟩
  simpa using inv.update (inv.toCore.twoTexts first second) rfl

theorem same_ask {β : Type} (pair : D.Pair H d d') (question : Question)
    (answer : DiagnosticEntry → β) : D.Same H F (d.ask question answer) (d'.ask question answer) := by
  unfold ask
  rw [pair.alike.1.2]
  exact (same_ask_one (lends_handle pair) _).bind fun _ => same_engine.map _

theorem same_severity (pair : D.Pair H d d') : D.Same H F d.severity d'.severity :=
  (same_ask pair _ _).map _

/-- A location of the diagnostic belongs to its anchor or its unit. -/
theorem pair_location (pair : D.Pair H d d') (place : Place) :
    D.Pair H ({ raw := ⟨place, d.origin⟩, unit := d.unit, anchor := d.anchor } : SourceLocation)
      { raw := ⟨place, d'.origin⟩, unit := d'.unit, anchor := d'.anchor } :=
  SourceLocation.pair_of (pair_unit pair) (pair_anchor pair) rfl ⟨rfl, pair.left.coherent⟩
    ⟨rfl, pair.right.coherent⟩

theorem shares_place (pair : D.Pair H d d') : D.Shares H F d.place d'.place :=
  (same_ask pair _ _).bind fun _ => Runs.pure (pair_location pair _) rfl

theorem gives_location (pair : D.Pair H d d') : D.Gives H F d.location d'.location :=
  (shares_place pair).bind fun _ _ place => gives_keep place

theorem same_spelling (pair : D.Pair H d d') : D.Same H F d.spelling d'.spelling :=
  (same_ask pair _ _).bind fun _ => same_text _

theorem gives_span (pair : D.Pair H d d') (span : Span) :
    D.Gives H F (d.span span) (d'.span span) :=
  gives_keep (SourceRange.pair_of (pair_unit pair) (pair_anchor pair) rfl
    ⟨rfl, pair.left.coherent⟩ ⟨rfl, pair.right.coherent⟩)

theorem gives_ranges (pair : D.Pair H d d') : D.Gives H F d.ranges d'.ranges := by
  refine (same_ask pair _ _).bind fun _ => gives_mapM (List.forall₂_same.2 fun i _ K le => ?_)
  exact (same_ask (pair.mono le) _ _).bind fun _ => gives_span (pair.mono le) _

theorem gives_fixIts (pair : D.Pair H d d') : D.Gives H F d.fixIts d'.fixIts := by
  refine (same_ask pair _ _).bind fun _ => gives_mapM (List.forall₂_same.2 fun i _ K le => ?_)
  refine (same_ask (pair.mono le) _ _).bind fun found => (same_text found.2).bind fun value => ?_
  exact (gives_span (pair.mono le) _).map fun range range' same =>
    ⟨⟨same.left, same.right, same.alike, rfl⟩, rfl, rfl⟩

theorem same_childCount (pair : D.Pair H d d') : D.Same H F d.childCount d'.childCount :=
  (same_ask_one (lends_handle pair) _).bind fun _ => same_ask pair _ _

theorem lendsTo_handle {engine : Engine} {held : Held} (usable : Usable engine held d) :
    ∀ s ∈ [d.handle.resource], LendsTo held (some .diagnostic) s :=
  List.forall_mem_singleton.2 ⟨_, within usable, rfl, rfl⟩

/-- A note keeps the diagnostic that it is a note of. -/
theorem founds_child {engine : Engine} {held : Held} (usable : Usable engine held d)
    (entry : Nat) :
    Founds engine held .diagnostic [d.handle.resource]
      (.diagnostic (d.handle :: d.ancestors).head? d.anchor d.unit)
      fun c r => .diagnostic ⟨⟨c, r, entry⟩, d.handle :: d.ancestors, d.anchor, d.unit⟩ := by
  refine founds (usable_unit usable) (usable_anchor usable) _ entry ?_ fun c r => ?_
  · rintro _ _ ⟨⟩
    exact within usable
  · exact List.forall_mem_singleton.2 rfl

theorem gives_child? (pair : D.Pair H d d') (i : Nat) :
    D.Gives H F (d.child? i) (d'.child? i) := by
  intro base
  unfold child? ask
  rw [pair.alike.1.2]
  refine Lockstep.bind (Q := fun a b w w' => a = b ∧ D.Asked base H .diagnostic _ _ w w')
    ((lockstep_ask (lendsTo_handle pair.left) (lendsTo_handle pair.right)
      (fun _ _ => ⟨rfl, rfl⟩) (by nofun) (by nofun) (unmixed_singleton _) (unmixed_singleton _)).bind fun _ _ =>
        lockstep_engine_bind fun w w' asked => .inl ⟨_, _, w, w', rfl, rfl, rfl, asked⟩) ?_
  rintro entry _ w w' ⟨rfl, asked⟩
  exact lockstep_ofRaw? (pair_unit pair) (pair_anchor pair) pair.left.coherent
    pair.right.coherent (.cons pair.alike.1 pair.alike.2.1)
    (founds_child pair.left) (founds_child pair.right) entry w w' asked

theorem gives_children (pair : D.Pair H d d') : D.Gives H F d.children d'.children := by
  refine (same_childCount pair).bind fun _ => ?_
  exact (gives_mapM (List.forall₂_same.2 fun i _ K le => gives_child? (pair.mono le) i)).filterMap

theorem same_categoryNumber (pair : D.Pair H d d') :
    D.Same H F d.categoryNumber d'.categoryNumber :=
  same_ask pair _ _

theorem same_categoryName (pair : D.Pair H d d') : D.Same H F d.categoryName d'.categoryName :=
  (same_ask pair _ _).bind fun _ => same_text _

theorem same_enableOption (pair : D.Pair H d d') : D.Same H F d.enableOption d'.enableOption :=
  (same_ask pair _ _).bind fun _ => same_text _

theorem same_disableOption (pair : D.Pair H d d') :
    D.Same H F d.disableOption d'.disableOption := by
  refine (same_ask pair _ _).bind fun entry => ?_
  refine Same.of_tells (a := entry.disableOption.decoded) ?_ ?_ rfl <;>
    exact tells_twoTexts _ _

theorem same_format (pair : D.Pair H d d') (options : Option DisplayOptions) :
    D.Same H H (d.format options) (d'.format options) := by
  have formatted (bits : UInt32) : D.Same H H
      (do
        Act.ask (.formatted bits) [d.handle.resource]
        Act.text ((← Act.engine).formatted d.handle.entry bits))
      (do
        Act.ask (.formatted bits) [d'.handle.resource]
        Act.text ((← Act.engine).formatted d'.handle.entry bits)) := by
    rw [pair.alike.1.2]
    refine (same_ask_one (lends_handle pair) _).bind fun _ => same_engine.bind fun _ => ?_
    exact Duo.same_text _
  cases options with
  | some options => exact (same_ofExcept _).bind fun bits => formatted bits
  | none => exact (same_inquire _).bind fun _ => same_engine.bind fun _ => formatted _

theorem same_inspect (pair : D.Pair H d d') : D.Same H F d.inspect d'.inspect := by
  refine (same_severity pair).bind fun _ => (shares_place pair).bind fun _ _ place => ?_
  refine (SourceLocation.same_inspect place).bind fun _ => ?_
  exact (same_spelling pair).map _

end Diagnostic

theorem FixIt.pair_range {fixIt fixIt' : FixIt} (pair : D.Pair H fixIt fixIt') :
    D.Pair H fixIt.range fixIt'.range :=
  ⟨⟨pair.left.coherent, pair.left.within⟩, ⟨pair.right.coherent, pair.right.within⟩, pair.alike.1⟩

theorem FixIt.same_inspect {fixIt fixIt' : FixIt} (pair : D.Pair H fixIt fixIt') :
    D.Same H F fixIt.inspect fixIt'.inspect := by
  refine (SourceRange.same_inspect (pair_range pair)).bind fun _ => ?_
  rw [pair.alike.2]
  exact Same.pure _

namespace DiagnosticList

variable {list list' : DiagnosticList}

theorem pair_unit (pair : D.Pair H list list') : D.Pair H list.unit list'.unit :=
  ⟨⟨trivial, pair.left.within⟩, ⟨trivial, pair.right.within⟩, pair.alike⟩

theorem same_length (pair : D.Pair H list list') : D.Same H F list.length list'.length := by
  refine (same_ask_one (pair_unit pair).lends _).bind fun _ => same_engine.bind fun _ => ?_
  exact (pair_unit pair).same_table.map _

/-- A diagnostic of a unit keeps the unit. -/
theorem founds {engine : Engine} {held : Held} {u : SourceUnit} (usable : Usable engine held u)
    (entry : Nat) :
    Founds engine held .diagnostic [u.resource] (.diagnostic none none u)
      fun c r => .diagnostic ⟨⟨c, r, entry⟩, [], none, u⟩ :=
  Diagnostic.founds usable
    ⟨fun _ _ => trivial, fun _ absent => absurd absent List.not_mem_nil⟩ [] entry
    (by nofun) fun _ _ => List.forall_mem_singleton.2 rfl

theorem gives_get? (pair : D.Pair H list list') (i : Nat) :
    D.Gives H F (list.get? i) (list'.get? i) := by
  have unit := pair_unit pair
  refine (same_length pair).bind fun length => ?_
  split
  · intro base
    have lends {held : Held} {u : SourceUnit} (usable : Usable D.engine held u) :
        ∀ s ∈ [u.resource], LendsTo held (some .unit) s :=
      List.forall_mem_singleton.2 (lendsTo_unit usable)
    refine (lockstep_ask (lends unit.left) (lends unit.right) (fun _ _ => ⟨rfl, rfl⟩) (by nofun)
      (by nofun) (unmixed_singleton _) (unmixed_singleton _)).bind fun _ _ =>
        lockstep_engine_bind (lockstep_table_bind unit fun table => ?_)
    exact Diagnostic.lockstep_ofRaw? unit pair_absent (fun _ absent => nomatch absent)
      (fun _ absent => nomatch absent) .nil (founds unit.left) (founds unit.right) _
  · exact gives_none

theorem gives_toList (pair : D.Pair H list list') : D.Gives H F list.toList list'.toList := by
  refine (same_length pair).bind fun _ => ?_
  exact (gives_mapM (List.forall₂_same.2 fun i _ K le => gives_get? (pair.mono le) i)).filterMap

theorem same_inspect (pair : D.Pair H list list') : D.Same H F list.inspect list'.inspect :=
  (pair_unit pair).same_inspect.map _

end DiagnosticList

end SourceAtlas
