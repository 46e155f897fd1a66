import SourceAtlas.Proofs.Tokens

/-!
# Cursors in lockstep

Two runs that ask about alike cursors get alike answers, whether one of them remembers the answers
or not, and walks from alike cursors yield alike nodes.
-/

namespace SourceAtlas

open Duo

variable {D : Duo} {H F : Grip}

namespace Cursor

variable {k k' : Cursor}

theorem pair_unit (pair : D.Pair H k k') : D.Pair H k.unit k'.unit :=
  ⟨usable_unit pair.left, usable_unit pair.right, pair.alike.2.1⟩

theorem rawPair (pair : D.Pair H k k') : D.RawPair H k.raw k'.raw :=
  ⟨lends_origin pair.left, lends_origin pair.right, pair.alike.1⟩

/-- What an answer of the engine says about one cursor it says about the other one. -/
theorem same_told {α : Type} (pair : D.Pair H k k') {x y : Act α} (answer : Ref → α)
    (left : Act.Tells D.engine D.left H.1 x (· = answer k.raw.value))
    (right : Act.Tells D.engine D.right H.2 y (· = answer k'.raw.value)) : D.Same H F x y :=
  Same.of_tells left right (congrArg answer pair.alike.1.1)

theorem gives_root {u u' : SourceUnit} (unit : D.Pair H u u') : D.Gives H F (root u) (root u') := by
  refine (same_ask_one unit.lends _).bind fun _ => ?_
  refine same_engine.bind fun _ => unit.same_table.bind fun _ => ?_
  exact gives_makeAt unit _

theorem gives_atLocation {location location' : SourceLocation}
    (pair : D.Pair H location location') (fails : location.isAnchored = true → F = H) :
    D.Gives H F (atLocation location) (atLocation location') := by
  have unit := SourceLocation.pair_unit pair
  have anchored : location.isAnchored = location'.isAnchored := isSome_alike pair.alike.2.2
  unfold atLocation
  rw [anchored, ← pair.alike.1.1]
  dsimp only
  split
  next inResults =>
    obtain rfl := fails (anchored.trans inResults)
    exact Runs.fail_bind _
  next unanchored =>
    have origin := pair.right.coherent.1.of_not_anchored unanchored
    rw [← anchored] at unanchored
    have origin' := pair.left.coherent.1.of_not_anchored unanchored
    refine (same_ask_two unit.lends (SourceLocation.rawPair pair).lends _ (fun _ => origin'.symm)
      fun _ => origin.symm).bind fun _ => ?_
    refine same_engine.bind fun _ => unit.same_table.bind fun _ => ?_
    exact gives_ofRaw? unit rfl rfl rfl

theorem same_kind (pair : D.Pair H k k') : D.Same H F k.kind k'.kind :=
  (rawPair pair).same_ask _ _

theorem runs_kind (pair : D.Pair H k k') :
    D.Runs H F k.kind k'.kind (fun a b => a = (D.engine.cursor k.raw.value).kind ∧ b = a)
      fun _ _ => H := by
  refine (Runs.of_quiet (Raw.tells_ask (rawPair pair).left _ _ _)
    (Raw.tells_ask (rawPair pair).right _ _ _) fun _ _ is is' => ?_).mono
    fun _ _ related => ⟨related, by simp⟩
  rw [is, is', pair.alike.1.1]
  exact ⟨rfl, rfl⟩

/-- A cursor that is required to be of some kind is of that kind from then on. -/
theorem runs_require (pair : D.Pair H k k') (operation expected : String) (holds : Bool) :
    D.Runs H H (k.require operation expected holds) (k'.require operation expected holds)
      (fun _ _ => holds = true) fun _ _ => H := by
  unfold require
  split
  next passed => exact Runs.pure passed rfl
  next => exact (same_kind pair).bind fun _ => Runs.fail _

/-! ### Texts and properties -/

theorem same_text? (pair : D.Pair H k k') (text : CursorText) :
    D.Same H F (k.text? text) (k'.text? text) :=
  (rawPair pair).same_askText? _ _

theorem same_text (pair : D.Pair H k k') (text : CursorText) :
    D.Same H F (k.text text) (k'.text text) :=
  (same_text? pair text).map _

theorem same_spelling (pair : D.Pair H k k') : D.Same H F k.spelling k'.spelling :=
  same_told pair (fun c => (D.engine.cursorText c .spelling).decoded) (tells_spelling pair.left)
     (tells_spelling pair.right)

theorem same_displayName (pair : D.Pair H k k') : D.Same H F k.displayName k'.displayName :=
  same_told pair (fun c => (D.engine.cursorText c .displayName).decoded)
    (tells_displayName pair.left) (tells_displayName pair.right)

theorem same_property (pair : D.Pair H k k') (κ : Type) [ClosedKind κ] (trait : CursorTrait) :
    D.Same H F (k.property κ trait) (k'.property κ trait) :=
  ((rawPair pair).same_ask _ _).map _

theorem same_has (pair : D.Pair H k k') (flag : CursorFlag) :
    D.Same H F (k.has flag) (k'.has flag) := by
  refine same_engine.bind fun _ => ?_
  split
  · exact (rawPair pair).same_ask _ _
  · exact Same.pure _

theorem same_hash (pair : D.Pair H k k') : D.Same H F k.hash k'.hash :=
  same_told pair D.engine.cursorHash (tells_hash pair.left) (tells_hash pair.right)

theorem same_same {other other' : Cursor} (pair : D.Pair H k k') (pair' : D.Pair H other other') :
    D.Same H F (k.same other) (k'.same other') := by
  refine (same_ask_two (rawPair pair).lends (rawPair pair').lends _ (by nofun) (by nofun)).bind fun _ => ?_
  rw [← pair.alike.1.1, ← pair'.alike.1.1]
  exact same_engine.map _

theorem same_fieldOffset (pair : D.Pair H k k') : D.Same H H k.fieldOffset k'.fieldOffset :=
  ((rawPair pair).same_ask _ _).bind fun _ => same_ofExcept _

theorem same_bitfieldWidth (pair : D.Pair H k k') :
    D.Same H F k.bitfieldWidth k'.bitfieldWidth :=
  ((rawPair pair).same_ask _ _).map _

/-! ### Places -/

theorem shares_location (pair : D.Pair H k k') : D.Shares H F k.location k'.location := by
  refine (Runs.of_quiet (tells_location pair.left) (tells_location pair.right)
    fun l l' is is' => ?_).mono fun _ _ related => ⟨related, by simp⟩
  refine ⟨usable_location pair.left is, usable_location pair.right is', ?_⟩
  obtain ⟨raw, unit, anchor, -⟩ := is
  obtain ⟨raw', unit', anchor', -⟩ := is'
  refine ⟨?_, ?_, ?_⟩
  · rw [raw, raw', pair.alike.1.1]
    exact ⟨rfl, pair.alike.1.2⟩
  · rw [unit, unit']
    exact pair.alike.2.1
  · rw [anchor, anchor']
    exact .none

theorem gives_location (pair : D.Pair H k k') :
    D.Gives H F (do Act.keep (← k.location)) (do Act.keep (← k'.location)) :=
  (shares_location pair).bind fun _ _ location => gives_keep location

/-- The location of a cursor, for what the engine says about it. -/
theorem pair_placed (pair : D.Pair H k k') : D.Pair H (k.placed D.engine) (k'.placed D.engine) := by
  refine SourceLocation.pair_answer (SourceLocation.pair_of (pair_unit pair) pair_absent ?_
    (.of_unit pair.left.coherent.1) (.of_unit pair.right.coherent.1))
  rw [pair.alike.1.1]

theorem shares_expansion (pair : D.Pair H k k') : D.Shares H F k.expansion k'.expansion := by
  refine (Runs.of_quiet (tells_expansion pair.left) (tells_expansion pair.right)
    fun _ _ is is' => ?_).mono fun _ _ related => ⟨related, by simp⟩
  rw [is, is']
  exact pair_placed pair

theorem pair_extent (pair : D.Pair H k k') :
    D.Pair H ({ raw := ⟨(D.engine.cursor k.raw.value).extent, k.raw.origin⟩, unit := k.unit } :
        SourceRange)
      { raw := ⟨(D.engine.cursor k'.raw.value).extent, k'.raw.origin⟩, unit := k'.unit } :=
  SourceRange.pair_of (pair_unit pair) pair_absent (by rw [pair.alike.1.1])
    (.of_unit pair.left.coherent.1) (.of_unit pair.right.coherent.1)

theorem runs_extent (pair : D.Pair H k k') :
    D.Runs H F k.extent k'.extent (fun a b =>
      a = { raw := ⟨(D.engine.cursor k.raw.value).extent, k.raw.origin⟩, unit := k.unit } ∧
      b = { raw := ⟨(D.engine.cursor k'.raw.value).extent, k'.raw.origin⟩, unit := k'.unit })
      fun _ _ => H :=
  (Runs.of_quiet (tells_extent pair.left) (tells_extent pair.right) fun _ _ is is' =>
    ⟨is, is'⟩).mono fun _ _ related => ⟨related, by simp⟩

theorem gives_extent (pair : D.Pair H k k') :
    D.Gives H F (do Act.keep (← k.extent)) (do Act.keep (← k'.extent)) := by
  refine (runs_extent pair).bind ?_
  rintro _ _ ⟨rfl, rfl⟩
  exact gives_keep (pair_extent pair)

theorem gives_tokens (pair : D.Pair H k k') : D.Gives H F k.tokens k'.tokens := by
  refine (runs_extent pair).bind ?_
  rintro _ _ ⟨rfl, rfl⟩
  exact TokenStream.gives_make (pair_unit pair) (by rw [pair.alike.1.1]) pair.left.coherent.1
    pair.right.coherent.1

/-! ### Types -/

/-- A type that a link leads to. -/
theorem gives_typeLink (pair : D.Pair H k k') (link : CursorTypeLink) :
    D.Gives H F (do Act.keep (⟨← k.typeRaw link, k.unit⟩ : SourceType))
      (do Act.keep (⟨← k'.typeRaw link, k'.unit⟩ : SourceType)) :=
  SourceType.gives_derive (pair_unit pair) (rawPair pair) pair.left.coherent.1
    pair.right.coherent.1 _ _

theorem gives_type (pair : D.Pair H k k') :
    D.Gives H F (do Act.keep (← k.type)) (do Act.keep (← k'.type)) := by
  refine Runs.bind (Runs.of_quiet (tells_type pair.left) (tells_type pair.right) fun _ _ is is' =>
    And.intro is is') ?_
  rintro _ _ ⟨rfl, rfl⟩
  simp only [Multiset.coe_nil, zero_add]
  refine gives_keep (SourceType.pair_of (pair_unit pair) ?_ pair.left.coherent.1
    pair.right.coherent.1)
  rw [pair.alike.1.1]

theorem gives_resultType (pair : D.Pair H k k') : D.Gives H F k.resultType k'.resultType :=
  gives_typeLink pair _

theorem gives_underlyingTypedefType (pair : D.Pair H k k') :
    D.Gives H H k.underlyingTypedefType k'.underlyingTypedefType := by
  refine (same_kind pair).bind fun _ => (same_inquire _).bind fun _ => ?_
  exact (runs_require pair _ _ _).bind fun _ _ _ => gives_typeLink pair _

theorem gives_enumType (pair : D.Pair H k k') : D.Gives H H k.enumType k'.enumType := by
  have raw : D.Runs H H (enumTypeRaw k.raw) (enumTypeRaw k'.raw)
      (fun a b => a = ⟨(D.engine.cursor k.raw.value).type .enumType, k.raw.origin⟩ ∧
        b = ⟨(D.engine.cursor k.raw.value).type .enumType, k'.raw.origin⟩) fun _ _ => H := by
    refine ((rawPair pair).same_ask _ _).bind fun _ => ?_
    split
    · exact Runs.fail_bind _
    · exact ((rawPair pair).runs_derive _ _).mono fun _ _ is => ⟨is.2, rfl⟩
  refine raw.bind ?_
  rintro _ _ ⟨rfl, rfl⟩
  exact gives_keep (SourceType.pair_of (pair_unit pair) rfl pair.left.coherent.1
    pair.right.coherent.1)

theorem same_enumValue (pair : D.Pair H k k') : D.Same H H k.enumValue k'.enumValue := by
  refine (runs_kind pair).bind ?_
  rintro _ _ ⟨rfl, rfl⟩
  refine (runs_require pair _ _ _).bind fun _ _ constant => ?_
  have kind := beq_iff_eq.1 constant
  exact same_told pair D.engine.enumValue (tells_constant pair.left kind)
    (tells_constant pair.right (pair.alike.1.1 ▸ kind))

/-! ### Other cursors -/

/-- What either run knows of a cursor that it remembers makes the two alike. -/
theorem isMatch_of_new {u u' : SourceUnit} (unit : D.Pair H u u') {target target' : Ref}
    (value : target = target') {r r' : Resource} (origin : r = u.resource)
    (origin' : r' = u'.resource) {c c' : Cursor} (new : c.IsNew ⟨target, r⟩ u none)
    (new' : c'.IsNew ⟨target', r'⟩ u' none) : D.Match c c' := by
  obtain ⟨_, _, _, _⟩ := c
  obtain ⟨_, _, _, _⟩ := c'
  obtain ⟨rfl, rfl, rfl⟩ := new
  obtain ⟨rfl, rfl, rfl⟩ := new'
  refine ⟨⟨origin, by nofun⟩, ⟨origin', by nofun⟩, ⟨value, ?_⟩, unit.alike, .none⟩
  rw [origin, origin']
  exact unit.alike.1

theorem isMatch_of_mayBeNew {u u' : SourceUnit} (unit : D.Pair H u u') {target target' : Ref}
    (value : target = target') {r r' : Resource} (origin : r = u.resource)
    (origin' : r' = u'.resource) {c c' : Option Cursor} (new : MayBeNew ⟨target, r⟩ u c)
    (new' : MayBeNew ⟨target', r'⟩ u' c') : D.Match c c' := by
  have both : c.isSome = c'.isSome := by rw [new.1, new'.1, value]
  cases c with
  | none =>
      cases c' with
      | none => exact .none
      | some c' => exact nomatch both
  | some c =>
      cases c' with
      | none => exact nomatch both
      | some c' =>
          exact (isMatch_of_new unit value origin origin' (new.2 c rfl) (new'.2 c' rfl)).some

theorem gives_canonical (pair : D.Pair H k k') :
    D.Gives H F (do Act.keep (← k.canonical)) (do Act.keep (← k'.canonical)) :=
  Runs.of_quiet (quiet_canonical pair.left) (quiet_canonical pair.right) fun _ _ new new' =>
    isMatch_of_new (pair_unit pair) (congrArg (D.engine.cursorLink · .canonical) pair.alike.1.1)
      pair.left.coherent.1 pair.right.coherent.1 new new'

theorem gives_semanticParent (pair : D.Pair H k k') :
    D.Gives H F (do Act.keep (← k.semanticParent)) (do Act.keep (← k'.semanticParent)) :=
  Runs.of_quiet (quiet_semanticParent pair.left) (quiet_semanticParent pair.right)
    fun _ _ new new' => isMatch_of_mayBeNew (pair_unit pair)
      (congrArg (D.engine.cursorLink · .semanticParent) pair.alike.1.1) pair.left.coherent.1
      pair.right.coherent.1 new new'

theorem gives_lexicalParent (pair : D.Pair H k k') :
    D.Gives H F (do Act.keep (← k.lexicalParent)) (do Act.keep (← k'.lexicalParent)) :=
  Runs.of_quiet (quiet_lexicalParent pair.left) (quiet_lexicalParent pair.right)
    fun _ _ new new' => isMatch_of_mayBeNew (pair_unit pair)
      (congrArg (D.engine.cursorLink · .lexicalParent) pair.alike.1.1) pair.left.coherent.1
      pair.right.coherent.1 new new'

/-- A cursor that the engine answers with for another one. -/
theorem gives_deriveCursor (pair : D.Pair H k k') (question : Question)
    (answer : Engine → Ref → Ref) :
    D.Gives H F (do ofRaw? (← k.raw.derive question answer) k.unit)
      (do ofRaw? (← k'.raw.derive question answer) k'.unit) := by
  refine ((rawPair pair).runs_derive question answer).bind ?_
  rintro _ _ ⟨-, rfl, rfl⟩
  exact gives_ofRaw? (pair_unit pair) rfl pair.left.coherent.1 pair.right.coherent.1

theorem gives_linked (pair : D.Pair H k k') (link : CursorLink) :
    D.Gives H F (k.linked link) (k'.linked link) :=
  gives_deriveCursor pair _ _

theorem gives_visitParent (pair : D.Pair H k k') :
    D.Gives H F k.visitParent k'.visitParent := by
  have above := pair.left.coherent.2
  have above' := pair.right.coherent.2
  have alike := pair.alike.2.2
  unfold visitParent
  generalize k.parent = parent, k'.parent = parent' at above above' alike
  cases alike with
  | none => exact gives_none
  | some alike =>
      exact gives_some (gives_make (pair_unit pair) alike.1 (above _ rfl) (above' _ rfl) .none
        (by nofun) (by nofun))

theorem gives_includedFile (pair : D.Pair H k k') :
    D.Gives H H k.includedFile k'.includedFile := by
  refine (same_kind pair).bind fun _ => (runs_require pair _ _ _).bind fun _ _ _ => ?_
  refine ((rawPair pair).runs_derive _ _).bind ?_
  rintro _ _ ⟨-, rfl, rfl⟩
  rw [pair.left.coherent.1, pair.right.coherent.1]
  exact gives_keep (SourceFile.pair_ofRaw? (pair_unit pair) _)

theorem gives_arguments (pair : D.Pair H k k') : D.Gives H F k.arguments k'.arguments := by
  refine ((rawPair pair).same_ask _ _).bind fun _ => ?_
  exact (gives_mapM (List.forall₂_same.2 fun i _ K le =>
    gives_deriveCursor (pair.mono le) _ _)).filterMap

theorem gives_children (pair : D.Pair H k k') : D.Gives H H k.children k'.children := by
  have node : k.raw.value = k'.raw.value := pair.alike.1.1
  unfold children
  rw [← node]
  refine ((rawPair pair).same_ask _ _).bind fun _ => ?_
  refine (same_ofPanic _).bind fun _ => ?_
  exact gives_ofVisits (pair_unit pair) _ pair.left.coherent.1 pair.right.coherent.1

/-! ### Template arguments -/

theorem same_templateArgumentCount (pair : D.Pair H k k') :
    D.Same H F k.templateArgumentCount k'.templateArgumentCount :=
  ((rawPair pair).same_ask _ _).map _

theorem same_templateArgumentKind (pair : D.Pair H k k') (i : Nat) :
    D.Same H F (k.templateArgumentKind i) (k'.templateArgumentKind i) :=
  ((rawPair pair).same_ask _ _).map _

theorem gives_templateArgumentType (pair : D.Pair H k k') (i : Nat) :
    D.Gives H F (k.templateArgumentType i) (k'.templateArgumentType i) :=
  SourceType.gives_derive (pair_unit pair) (rawPair pair) pair.left.coherent.1
    pair.right.coherent.1 _ _

theorem same_templateArgumentValue (pair : D.Pair H k k') (i : Nat) :
    D.Same H F (k.templateArgumentValue i) (k'.templateArgumentValue i) :=
  (rawPair pair).same_ask _ _

theorem same_templateArgumentUnsignedValue (pair : D.Pair H k k') (i : Nat) :
    D.Same H F (k.templateArgumentUnsignedValue i) (k'.templateArgumentUnsignedValue i) :=
  (rawPair pair).same_ask _ _

theorem same_inspect (pair : D.Pair H k k') : D.Same H F k.inspect k'.inspect := by
  refine (same_kind pair).bind fun _ => (same_spelling pair).bind fun _ => ?_
  refine (shares_expansion pair).bind fun _ _ expansion => ?_
  exact (Expansion.same_inspect expansion).map _

end Cursor

/-! ## Walks -/

namespace Walk

variable {walk walk' : Walk}

theorem gives_make {k k' : Cursor} (pair : D.Pair H k k') :
    D.Gives H F (make k) (make k') := by
  refine Gives.map (gives_keep pair) fun a b same => ⟨?_, ?_, ?_⟩
  · have single := same.cons .nil
    exact ⟨single.left, single.right, single.alike⟩
  · exact List.flatMap_singleton _ _
  · exact List.flatMap_singleton _ _

/-- A node is yielded with the references that the walk had to it, unless its children cannot be
visited. -/
theorem runs_advance (same : D.Match walk walk') :
    D.Runs (H.add walk walk') F walk.advance walk'.advance
      (fun a b => D.Match a.1 b.1 ∧ D.Match a.2 b.2) fun a b => (H.add a.1 b.1).add a.2 b.2 := by
  obtain ⟨pending⟩ := walk
  obtain ⟨pending'⟩ := walk'
  have nodes : D.Match pending pending' := ⟨same.left, same.right, same.alike⟩
  unfold advance
  obtain rfl | ⟨others, node, rfl⟩ := List.eq_nil_or_concat' pending
  · obtain rfl := List.forall₂_nil_left_iff.1 nodes.alike
    exact Runs.pure ⟨same, Match.none.left, Match.none.right, .none⟩ (Grip.add_eq _ rfl rfl)
  obtain ⟨others', node', rfl, before, last⟩ := nodes.concat
  -- what the walk holds is what the other nodes hold, and what the next one holds
  have split : H.add (⟨others ++ [node]⟩ : Walk) ⟨others' ++ [node']⟩ =
      (H.add others others').add node node' := by
    show H.add (others ++ [node]) (others' ++ [node']) = _
    rw [Grip.add_append, Grip.add_singleton, Grip.add_right_comm]
  rw [split, List.getLast?_concat, List.getLast?_concat, List.dropLast_concat,
    List.dropLast_concat]
  refine Runs.attempt_bind (Cursor.gives_children (last.pair _)) ?_ ?_
  · intro children children' found
    have walk : D.Match (⟨others ++ children.reverse⟩ : Walk) ⟨others' ++ children'.reverse⟩ := by
      have nodes := before.append found.reverse
      exact ⟨nodes.left, nodes.right, nodes.alike⟩
    refine Runs.pure ⟨walk, last.some.left, last.some.right, last.some.alike⟩ ?_
    show (H.add (others ++ children.reverse) (others' ++ children'.reverse)).add node node' = _
    rw [Grip.add_append, Grip.add_reverse, Grip.add_right_comm H, Grip.add_right_comm _ children]
  · intro fault
    refine (same_drop node node').bind fun _ _ _ => ?_
    exact Runs.pure ⟨⟨before.left, before.right, before.alike⟩, trivial, trivial, rfl⟩
      (Grip.add_eq _ rfl rfl)

theorem bound_eq {ρ : Resource → Resource} (engine : Engine) (alike : Alike ρ walk walk') :
    walk.bound engine = walk'.bound engine := by
  have nodes : List.Forall₂ (Alike ρ) walk.pending walk'.pending := alike
  unfold bound
  rw [nodes.length_eq]

theorem runs_loop (turns : Nat) {yielded yielded' : List Cursor} (same : D.Match walk walk')
    (before : D.Match yielded yielded') :
    D.Runs ((H.add walk walk').add yielded yielded') F (drain.loop turns walk yielded)
      (drain.loop turns walk' yielded') (fun a b => D.Match a.1 b.1 ∧ D.Match a.2 b.2)
      fun a b => (H.add a.1 b.1).add a.2 b.2 := by
  induction turns generalizing walk walk' yielded yielded' with
  | zero =>
      have all := before.reverse
      exact Runs.pure ⟨same, all.left, all.right, all.alike⟩ (Grip.add_reverse _ _ _)
  | succ turns ih =>
      unfold drain.loop
      rw [Grip.add_right_comm]
      refine (runs_advance same).bind ?_
      rintro ⟨walk, outcome⟩ ⟨walk', outcome'⟩ ⟨same, found, found', alike⟩
      cases outcome with
      | ok node =>
          cases outcome' with
          | error fault => exact alike.elim
          | ok node' =>
              have nodes : Alike D.shift.rename node node' := alike
              cases nodes with
              | none =>
                  have all := before.reverse
                  refine Runs.pure ⟨same, all.left, all.right, all.alike⟩ ?_
                  show (H.add walk walk').add yielded.reverse yielded'.reverse = _
                  rw [Grip.add_reverse, Grip.add_right_comm]
                  exact (Grip.add_eq _ rfl rfl).symm
              | @some node node' like =>
                  have next := ih same (Match.cons ⟨found _ rfl, found' _ rfl, like⟩ before)
                  rw [Grip.add_cons, Grip.add_right_comm _ node, Grip.add_right_comm H] at next
                  exact next
      | error fault =>
          cases outcome' with
          | ok node' => exact alike.elim
          | error fault' =>
              obtain rfl : fault = fault' := alike
              -- the walk is kept, and what it has yielded is dropped
              have held : ((H.add yielded yielded').add walk walk').add
                  (Except.error fault : Except Fault (Option Cursor)) (.error fault) =
                  (H.add walk walk').add yielded.reverse yielded'.reverse := by
                rw [Grip.add_eq _ rfl rfl, Grip.add_reverse, Grip.add_right_comm]
              rw [held]
              refine (same_drop _ _).bind fun _ _ _ => ?_
              exact Runs.pure ⟨same, trivial, trivial, rfl⟩ (Grip.add_eq _ rfl rfl)

theorem runs_drain (same : D.Match walk walk') :
    D.Runs (H.add walk walk') F walk.drain walk'.drain
      (fun a b => D.Match a.1 b.1 ∧ D.Match a.2 b.2) fun a b => (H.add a.1 b.1).add a.2 b.2 := by
  unfold drain
  refine same_engine.bind fun engine => ?_
  rw [bound_eq engine same.alike]
  have loop := runs_loop (H := H) (F := F) (walk'.bound engine + 1) same .nil
  rw [Grip.add_eq _ rfl rfl] at loop
  exact loop

end Walk

end SourceAtlas
