import SourceAtlas.Proofs.Places

/-!
# Types in lockstep

Two runs make alike handles of cursors, and get alike answers about alike types. The declaration and
the fields of a type are new handles of cursors.
-/

namespace SourceAtlas

open Duo

variable {D : Duo} {H F : Grip}

/-! ## New cursors -/

namespace Cursor

variable {u u' : SourceUnit} {raw raw' : Raw Ref}

/-- New handles of one cursor are alike. -/
theorem gives_make (unit : D.Pair H u u') {r s : Raw Ref} (value : r.value = s.value)
    (origin : r.origin = u.resource) (origin' : s.origin = u'.resource)
    {parent parent' : Option (Raw Ref)} (parents : Alike D.shift.rename parent parent')
    (above : ∀ p ∈ parent, p.origin = u.resource) (above' : ∀ p ∈ parent', p.origin = u'.resource) :
    D.Gives H F (make r u parent) (make s u' parent') := by
  refine Runs.of_quiet (quiet_make (unit.left.within _ (.head _)) origin above)
    (quiet_make (unit.right.within _ (.head _)) origin' above') ?_
  rintro ⟨_, _, _, _⟩ ⟨_, _, _, _⟩ ⟨rfl, rfl, rfl⟩ ⟨rfl, rfl, rfl⟩
  refine ⟨⟨origin, above⟩, ⟨origin', above'⟩, ⟨value, ?_⟩, unit.alike, parents⟩
  rw [origin, origin']
  exact unit.alike.1

theorem gives_makeAt (unit : D.Pair H u u') (target : Ref) :
    D.Gives H F (make ⟨target, u.resource⟩ u none) (make ⟨target, u'.resource⟩ u' none) :=
  gives_make (r := ⟨target, u.resource⟩) (s := ⟨target, u'.resource⟩) unit rfl rfl rfl .none
    (by nofun) (by nofun)

theorem gives_ofRaw? (unit : D.Pair H u u') (value : raw.value = raw'.value)
    (origin : raw.origin = u.resource) (origin' : raw'.origin = u'.resource) :
    D.Gives H F (ofRaw? raw u) (ofRaw? raw' u') := by
  unfold ofRaw?
  rw [value]
  split
  · exact gives_some (gives_make unit value origin origin' .none (by nofun) (by nofun))
  · exact gives_none

/-- The cursors of a visitation. -/
theorem gives_ofVisits (unit : D.Pair H u u') (nodes : List (Nat × Ref)) {origin origin' : Resource}
    (same : origin = u.resource) (same' : origin' = u'.resource) :
    D.Gives H F (ofVisits nodes origin u) (ofVisits nodes origin' u') := by
  refine gives_mapM (List.forall₂_same.2 fun node _ K le => ?_)
  obtain ⟨cursor, parent⟩ := node
  refine gives_make (r := ⟨some cursor, origin⟩) (s := ⟨some cursor, origin'⟩)
    (unit.mono le) rfl same same' ?_ ?_ ?_
  · cases parent with
    | none => exact .none
    | some p => exact .some ⟨rfl, by rw [same, same']; exact unit.alike.1⟩
  · rintro _ member
    obtain ⟨p, -, rfl⟩ := Option.map_eq_some_iff.1 member
    exact same
  · rintro _ member
    obtain ⟨p, -, rfl⟩ := Option.map_eq_some_iff.1 member
    exact same'

end Cursor

/-! ## Types -/

namespace SourceType

variable {type type' : SourceType}

theorem pair_unit (pair : D.Pair H type type') : D.Pair H type.unit type'.unit :=
  ⟨usable_unit pair.left, usable_unit pair.right, pair.alike.2⟩

theorem rawPair (pair : D.Pair H type type') : D.RawPair H type.raw type'.raw :=
  ⟨lends_origin pair.left, lends_origin pair.right, pair.alike.1⟩

/-- A type that the engine answers with for a unit. -/
theorem pair_of {u u' : SourceUnit} (unit : D.Pair H u u') {raw raw' : Raw Ref}
    (same : raw.value = raw'.value) (origin : raw.origin = u.resource)
    (origin' : raw'.origin = u'.resource) : D.Pair H (⟨raw, u⟩ : SourceType) ⟨raw', u'⟩ where
  left := ⟨origin, unit.left.within⟩
  right := ⟨origin', unit.right.within⟩
  alike := by
    refine ⟨⟨same, ?_⟩, unit.alike⟩
    rw [origin, origin']
    exact unit.alike.1

theorem pair_sibling (pair : D.Pair H type type') (target : Ref) :
    D.Pair H (type.sibling target) (type'.sibling target) :=
  pair_of (pair_unit pair) rfl pair.left.coherent pair.right.coherent

theorem same_kind (pair : D.Pair H type type') : D.Same H F type.kind type'.kind := by
  unfold kind
  rw [← pair.alike.1.1]
  exact same_engine.map _

theorem same_require (pair : D.Pair H type type') (operation expected : String) (holds : Bool) :
    D.Same H H (type.require operation expected holds) (type'.require operation expected holds) := by
  unfold require
  split
  · exact Same.pure _
  · exact (same_kind pair).bind fun _ => Runs.fail _

theorem same_spelling (pair : D.Pair H type type') : D.Same H F type.spelling type'.spelling :=
  (rawPair pair).same_askText _ _

theorem same_typedefName (pair : D.Pair H type type') :
    D.Same H F type.typedefName type'.typedefName :=
  (rawPair pair).same_askText _ _

theorem same_has (pair : D.Pair H type type') (flag : TypeFlag) :
    D.Same H F (type.has flag) (type'.has flag) :=
  (rawPair pair).same_ask _ _

theorem same_isFunctionVariadic (pair : D.Pair H type type') :
    D.Same H H type.isFunctionVariadic type'.isFunctionVariadic := by
  refine (same_kind pair).bind fun _ => ?_
  exact (same_require pair _ _ _).bind fun _ => same_has pair _

theorem same_addressSpace (pair : D.Pair H type type') :
    D.Same H F type.addressSpace type'.addressSpace :=
  (rawPair pair).same_ask _ _

theorem shares_follow (pair : D.Pair H type type') (link : TypeLink) :
    D.Shares H F (type.follow link) (type'.follow link) := by
  refine ((rawPair pair).runs_derive _ _).map ?_
  rintro _ _ ⟨-, rfl, rfl⟩
  exact ⟨pair_sibling pair _, rfl⟩

theorem gives_linked (pair : D.Pair H type type') (link : TypeLink) :
    D.Gives H F (type.linked link) (type'.linked link) :=
  (shares_follow pair link).bind fun _ _ target => gives_keep target

theorem runs_declarationRaw? (pair : D.Pair H type type') :
    D.Runs H F type.declarationRaw? type'.declarationRaw?
      (fun a b => a = (D.engine.declaration? type.raw.value).map (⟨·, type.raw.origin⟩) ∧
        b = (D.engine.declaration? type.raw.value).map (⟨·, type'.raw.origin⟩)) fun _ _ => H := by
  refine (Runs.of_quiet (tells_declarationRaw? pair.left) (tells_declarationRaw? pair.right)
    fun _ _ is is' => ⟨is, ?_⟩).mono fun _ _ related => ⟨related, by simp⟩
  rw [is', pair.alike.1.1]

theorem gives_declaration (pair : D.Pair H type type') :
    D.Gives H F type.declaration type'.declaration := by
  refine (runs_declarationRaw? pair).bind ?_
  rintro _ _ ⟨rfl, rfl⟩
  cases D.engine.declaration? type.raw.value with
  | none => exact gives_none
  | some target =>
      exact gives_some (Cursor.gives_make (r := ⟨target, type.raw.origin⟩)
        (s := ⟨target, type'.raw.origin⟩) (pair_unit pair) rfl pair.left.coherent
        pair.right.coherent .none (by nofun) (by nofun))

theorem same_measure (pair : D.Pair H type type') (measure : TypeMeasure) :
    D.Same H F (type.measure measure) (type'.measure measure) :=
  ((rawPair pair).same_ask _ _).map _

theorem same_arraySize (pair : D.Pair H type type') :
    D.Same H F type.arraySize type'.arraySize :=
  (same_measure pair _).map _

theorem gives_elementType (pair : D.Pair H type type') :
    D.Gives H H type.elementType type'.elementType := by
  refine (shares_follow pair _).bind fun _ _ element => ?_
  refine (same_kind element).bind fun _ => ?_
  refine (same_require pair _ _ _).bind fun _ => ?_
  exact gives_keep element

theorem same_elementCount (pair : D.Pair H type type') :
    D.Same H H type.elementCount type'.elementCount := by
  refine (same_measure pair _).bind fun _ => ?_
  exact (same_require pair _ _ _).bind fun _ => Same.pure _

theorem same_align (pair : D.Pair H type type') : D.Same H H type.align type'.align :=
  (same_measure pair _).bind fun _ => same_ofExcept _

theorem same_size (pair : D.Pair H type type') : D.Same H H type.size type'.size :=
  (same_measure pair _).bind fun _ => same_ofExcept _

theorem same_offsetOf (pair : D.Pair H type type') (field : String) :
    D.Same H H (type.offsetOf field) (type'.offsetOf field) := by
  unfold offsetOf
  dsimp only
  split
  · exact Runs.fail _
  · exact ((rawPair pair).same_ask _ _).bind fun _ => same_ofExcept _

theorem same_refQualifier (pair : D.Pair H type type') :
    D.Same H F type.refQualifier type'.refQualifier :=
  ((rawPair pair).same_ask _ _).map _

theorem same_exceptionSpecification (pair : D.Pair H type type') :
    D.Same H F type.exceptionSpecification type'.exceptionSpecification :=
  ((rawPair pair).same_ask _ _).map _

theorem gives_argumentTypes (pair : D.Pair H type type') :
    D.Gives H H type.argumentTypes type'.argumentTypes := by
  refine (same_kind pair).bind fun _ => ?_
  refine (same_require pair _ _ _).bind fun _ => ?_
  refine ((rawPair pair).same_ask _ _).bind fun _ => ?_
  refine gives_keep ⟨⟨?_, ?_⟩, ⟨?_, ?_⟩, pair.alike, rfl⟩
  · exact pair.left.coherent
  · exact pair.left.within
  · exact pair.right.coherent
  · exact pair.right.within

theorem same_templateArgumentCount (pair : D.Pair H type type') :
    D.Same H F type.templateArgumentCount type'.templateArgumentCount :=
  ((rawPair pair).same_ask _ _).map _

/-- A type that the engine answers with, with references of its own. -/
theorem gives_derive {α : Type} {u u' : SourceUnit} (unit : D.Pair H u u') {raw raw' : Raw α}
    (pair : D.RawPair H raw raw') (origin : raw.origin = u.resource)
    (origin' : raw'.origin = u'.resource) (question : Question) (answer : Engine → α → Ref) :
    D.Gives H F (do Act.keep (⟨← raw.derive question answer, u⟩ : SourceType))
      (do Act.keep (⟨← raw'.derive question answer, u'⟩ : SourceType)) := by
  refine (pair.runs_derive question answer).bind ?_
  rintro _ _ ⟨-, rfl, rfl⟩
  exact gives_keep (pair_of unit rfl origin origin')

theorem gives_templateArgument (pair : D.Pair H type type') (i : Nat) :
    D.Gives H F (type.templateArgument i) (type'.templateArgument i) :=
  gives_derive (pair_unit pair) (rawPair pair) pair.left.coherent pair.right.coherent _ _

theorem gives_fields (pair : D.Pair H type type') : D.Gives H H type.fields type'.fields := by
  have record : type.raw.value = type'.raw.value := pair.alike.1.1
  unfold fields
  rw [← record]
  refine ((rawPair pair).same_ask _ _).bind fun _ => ?_
  refine (same_ofPanic _).bind fun _ => ?_
  exact Cursor.gives_ofVisits (pair_unit pair) _ pair.left.coherent pair.right.coherent

theorem same_same {other other' : SourceType} (pair : D.Pair H type type')
    (pair' : D.Pair H other other') : D.Same H F (type.same other) (type'.same other') := by
  refine (same_ask_two (rawPair pair).lends (rawPair pair').lends _ (by nofun) (by nofun)).bind fun _ => ?_
  rw [← pair.alike.1.1, ← pair'.alike.1.1]
  exact same_engine.map _

theorem same_inspect (pair : D.Pair H type type') : D.Same H F type.inspect type'.inspect :=
  (same_kind pair).bind fun _ => (same_spelling pair).map _

end SourceType

namespace ArgumentTypes

variable {types types' : ArgumentTypes}

theorem pair_type (pair : D.Pair H types types') : D.Pair H types.type types'.type :=
  ⟨⟨pair.left.coherent, pair.left.within⟩, ⟨pair.right.coherent, pair.right.within⟩, pair.alike.1⟩

theorem gives_nth (pair : D.Pair H types types') (i : Nat) :
    D.Gives H F (types.nth i) (types'.nth i) :=
  have type := pair_type pair
  SourceType.gives_derive (SourceType.pair_unit type) (SourceType.rawPair type) type.left.coherent
    type.right.coherent _ _

theorem gives_get? (pair : D.Pair H types types') (i : Nat) :
    D.Gives H F (types.get? i) (types'.get? i) := by
  unfold get?
  rw [pair.alike.2]
  split
  · exact gives_some (gives_nth pair i)
  · exact gives_none

theorem gives_toList (pair : D.Pair H types types') :
    D.Gives H F types.toList types'.toList := by
  unfold toList
  rw [pair.alike.2]
  exact gives_mapM (List.forall₂_same.2 fun i _ K le => gives_nth (pair.mono le) i)

theorem same_inspect (pair : D.Pair H types types') :
    D.Same H F types.inspect types'.inspect := by
  refine (SourceType.same_inspect (pair_type pair)).bind fun _ => ?_
  rw [pair.alike.2]
  exact Same.pure _

end ArgumentTypes

end SourceAtlas
