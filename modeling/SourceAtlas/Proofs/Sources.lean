import SourceAtlas.Proofs.Completion
import SourceAtlas.Entity.Index

/-!
# Indexes and units in lockstep

Two runs make corresponding indexes and units, and get alike answers about alike units. A unit that
comes with a problem is given back by both. That one parses a unit again is left for later: what may
be parsed again depends on what else is held.
-/

namespace SourceAtlas

open Duo

variable {D : Duo} {H F : Grip} {engine : Engine} {held : Held}

theorem same_checkTexts (texts : List Bytes) :
    D.Same H H (Act.checkTexts texts) (Act.checkTexts texts) := by
  unfold Act.checkTexts
  split
  · exact Runs.fail _
  · exact Same.pure _

namespace SourceUnit

variable {u u' : SourceUnit}

theorem same_entry (pair : D.Pair H u u') : D.Same H F u.entry u'.entry :=
  same_engine.bind fun _ => pair.same_table.map _

theorem usable_index (usable : Usable engine held u) : Usable engine held u.index where
  coherent := trivial
  within o member := by
    obtain rfl := List.mem_singleton.1 member
    exact .lender (usable.within _ (.head _)) (.head _)

theorem pair_index (pair : D.Pair H u u') : D.Pair H u.index u'.index :=
  ⟨usable_index pair.left, usable_index pair.right, pair.alike.2⟩

theorem same_checkStatus (operation : String) (status : Int32)
    (problem? : Int → Option Failure) :
    D.Same H H (checkStatus operation status problem?) (checkStatus operation status problem?) := by
  unfold checkStatus
  split
  · exact Runs.fail _
  · exact Same.pure _

/-- A request about a unit that the engine answers with nothing to give back. -/
theorem same_request (pair : D.Pair H u u') (request : Resource → Request)
    (about : ∀ r, (request r).operands = [r]) :
    D.Same H F (Act.request (request u.resource)) (Act.request (request u'.resource)) := by
  refine Duo.same_request pair.lends.1.ne_zero pair.lends.2.ne_zero ?_ ?_
  · rw [about]
    exact List.forall_mem_singleton.2 pair.lends.1
  · rw [about]
    exact List.forall_mem_singleton.2 pair.lends.2

theorem same_save (pair : D.Pair H u u') (path : Bytes) :
    D.Same H H (u.save path) (u'.save path) := by
  refine (same_checkTexts _).bind fun _ => (same_entry pair).bind fun entry => ?_
  refine (same_ask_one pair.lends _).bind fun _ => ?_
  refine (same_request pair (.save · path entry.saveOptions) fun _ => rfl).bind fun _ => ?_
  exact same_checkStatus _ _ _

/-- Completion results borrow from their unit. -/
theorem founds_completion {engine : Engine} {held : Held} (usable : Usable engine held u)
    (entry : CompletionEntry) :
    Founds engine held .completion [u.resource] (.completion u)
      fun c r => .completion ⟨c, r, u, entry⟩ where
  cell _ _ := rfl
  kind _ _ := rfl
  describes _ _ _ := ⟨rfl, rfl⟩
  within member := usable.within _ member
  known _ _ := List.forall_mem_singleton.2 rfl
  fresh := nofun

theorem gives_complete (pair : D.Pair H u u') (path : Bytes) (line column : UInt32)
    (unsaved : List UnsavedFile) (options : CompleteOptions) :
    D.Gives H H (u.complete path line column unsaved options)
      (u'.complete path line column unsaved options) := by
  refine (same_checkTexts _).bind fun _ base => ?_
  have lends {held : Held} {u : SourceUnit} (usable : Usable D.engine held u) :
      ∀ s ∈ [u.resource], LendsTo held (some .unit) s :=
    List.forall_mem_singleton.2 (lendsTo_unit usable)
  refine (lockstep_request (.complete u.resource path line column unsaved options.bits)
    (.complete u'.resource path line column unsaved options.bits) rfl rfl
    (lends pair.left) (lends pair.right) (by nofun) (by nofun)).bind fun _ _ =>
      lockstep_engine_bind ?_
  cases D.engine.completionAt path line column with
  | none => exact lockstep_null
  | some found =>
      obtain ⟨label, entry⟩ := found
      refine lockstep_own_asked (founds_completion pair.left entry)
        (founds_completion pair.right entry) (by nofun) rfl
        (fun c r => some (⟨c, r, u, entry⟩ : Completion))
        (fun c r => some (⟨c, r, u', entry⟩ : Completion))
        (fun _ _ => rfl) (fun _ _ => rfl) fun c r c' r' renamed => Match.some ?_
      exact ⟨trivial, trivial, renamed, pair.alike, rfl⟩

theorem shares_fileHandle? (pair : D.Pair H u u') (name : Bytes) :
    D.Shares H H (u.fileHandle? name) (u'.fileHandle? name) := by
  refine (same_checkTexts _).bind fun _ => ?_
  refine (same_request pair (.getFile · name) fun _ => rfl).bind fun _ => ?_
  exact same_engine.bind fun _ => Runs.pure (SourceFile.pair_ofRaw? pair _) rfl

theorem gives_file? (pair : D.Pair H u u') (name : Bytes) :
    D.Gives H H (u.file? name) (u'.file? name) :=
  (shares_fileHandle? pair name).bind fun _ _ file => gives_keep file

theorem gives_location? (pair : D.Pair H u u') (name : Bytes) (position : FilePosition) :
    D.Gives H H (u.location? name position) (u'.location? name position) :=
  (shares_fileHandle? pair name).bind fun _ _ file =>
    gives_optionMapM (file.option fun file => SourceFile.gives_location file position)

theorem gives_extent? (pair : D.Pair H u u') (name : Bytes) (start stop : FilePosition) :
    D.Gives H H (u.extent? name start stop) (u'.extent? name start stop) :=
  (shares_fileHandle? pair name).bind fun _ _ file =>
    gives_optionMapM (file.option fun file =>
      (SourceFile.shares_place file start).bind fun _ _ first =>
        (SourceFile.shares_place file stop).bind fun _ _ last =>
          SourceRange.gives_ofLocations first last fun _ => rfl)

theorem gives_tokens (pair : D.Pair H u u') {range range' : SourceRange}
    (other : D.Pair H range range')
    (fails : (range.isAnchored || !range.unit.same u) = true → F = H) :
    D.Gives H F (u.tokens range) (u'.tokens range') := by
  refine Runs.of_holds fun {base w w'} (holds : D.Holds base H w w') => ?_
  have unit := SourceRange.pair_unit other
  have anchored : range.isAnchored = range'.isAnchored := isSome_alike other.alike.2.2
  have same := holds.same_eq unit pair
  unfold tokens
  rw [anchored, same] at fails ⊢
  split
  next outside =>
    obtain rfl := fails outside
    exact unit.same_spelling.bind fun _ => Runs.fail_bind _
  next inside =>
    rw [Bool.or_eq_true, not_or, Bool.not_eq_true, Bool.not_eq_true, Bool.not_eq_false'] at inside
    obtain ⟨left, right⟩ := holds.resource_eq unit pair (same.trans inside.2)
    have free : ¬ range'.isAnchored = true := by
      rw [inside.1]
      exact Bool.false_ne_true
    refine TokenStream.gives_make pair other.alike.1.1 ?_ ?_
    · exact (other.left.coherent.of_not_anchored fun same => free (anchored.symm.trans same)).trans left
    · exact (other.right.coherent.of_not_anchored free).trans right

theorem gives_diagnostics (pair : D.Pair H u u') :
    D.Gives H F u.diagnostics u'.diagnostics :=
  gives_keep ⟨⟨trivial, pair.left.within⟩, ⟨trivial, pair.right.within⟩, pair.alike⟩

theorem gives_inclusions (pair : D.Pair H u u') :
    D.Gives H F u.inclusions u'.inclusions := by
  refine (same_ask_one pair.lends _).bind fun _ => (same_entry pair).bind fun entry => ?_
  refine (gives_mapM (List.forall₂_same.2 fun found _ K le => ?_)).filterMap
  have pair := pair.mono le
  have file := SourceFile.pair_ofRaw? pair found.file
  generalize SourceFile.ofRaw? ⟨found.file, u.resource⟩ u = included,
    SourceFile.ofRaw? ⟨found.file, u'.resource⟩ u' = included' at file ⊢
  cases directive? found with
  | none => exact gives_none
  | some place =>
      cases file.option (R := D.Pair K) id with
      | none => exact gives_none
      | some source =>
          exact gives_some (Inclusion.gives_make source (SourceLocation.pair_of
            (r := ⟨place, u.resource⟩) (s := ⟨place, u'.resource⟩) pair pair_absent rfl
            (.of_unit rfl) (.of_unit rfl)) found.depth)

end SourceUnit

/-! ## Indexes -/

namespace Index

variable {index index' : Index}

theorem within (usable : Usable engine held index) : Within held (.index index) :=
  usable.within _ (.head _)

theorem lends (pair : D.Pair H index index') : H.Lends index.resource index'.resource :=
  ⟨⟨_, within pair.left, rfl⟩, ⟨_, within pair.right, rfl⟩⟩

/-- An index borrows from nothing. -/
theorem founds (engine : Engine) (held : Held) (config : IndexConfig) :
    Founds engine held .index [] .index fun c r => .index ⟨c, r, config⟩ where
  cell _ _ := rfl
  kind _ _ := rfl
  describes _ _ _ := ⟨rfl, trivial⟩
  within member := absurd member List.not_mem_nil
  known _ _ _ member := absurd member List.not_mem_nil
  fresh := nofun

theorem gives_create (config : IndexConfig) : D.Gives H H (create config) (create config) := by
  refine same_load.bind fun _ base => ?_
  refine (lockstep_request (.createIndex config) (.createIndex config) rfl rfl nofun nofun
    (fun lends => absurd rfl lends) fun lends => absurd rfl lends).bind fun _ _ =>
      lockstep_engine_bind ?_
  split
  · refine lockstep_countIndex.bind fun label label' => ?_
    refine lockstep_own (founds _ _ config) (founds _ _ config) (fun _ _ => rfl) (fun _ _ => rfl)
      fun c r c' r' renamed => ⟨trivial, trivial, renamed, rfl⟩
  · exact fun w w' asked => .inr ⟨_, w, w', rfl, rfl, asked.holds⟩

/-- A unit borrows from its index. -/
theorem founds_unit {engine : Engine} {held : Held} (usable : Usable engine held index) :
    Founds engine held .unit [index.resource] (.unit index none)
      fun c r => .unit ⟨c, r, index⟩ where
  cell _ _ := rfl
  kind _ _ := rfl
  describes _ _ _ := ⟨rfl, rfl⟩
  within member := List.mem_singleton.1 member ▸ within usable
  known _ _ := List.forall_mem_singleton.2 rfl
  fresh same := by
    cases same
    rfl

theorem lendsTo {engine : Engine} {held : Held} (usable : Usable engine held index) :
    ∀ s ∈ [index.resource], LendsTo held (some .index) s :=
  List.forall_mem_singleton.2 ⟨_, within usable, rfl, rfl⟩

theorem lockstep_adopt {base : Facts} (pair : D.Pair H index index') (source : SourceEntry)
    (name : String) :
    D.Lockstep (D.Asked base H .unit [index.resource] [index'.resource])
      (index.adopt source name) (index'.adopt source name)
      (fun a b w w' => D.Match a b ∧ D.Holds base (H.add a b) w w') (D.Holds base H) := by
  unfold adopt
  cases source.unit with
  | none => exact fun w w' asked => .inr ⟨_, w, w', rfl, rfl, asked.holds⟩
  | some table =>
      refine (lockstep_push table).bind fun label label' => ?_
      split
      next =>
        exact lockstep_own (founds_unit pair.left) (founds_unit pair.right) (fun _ _ => rfl)
          (fun _ _ => rfl) fun c r c' r' renamed => ⟨trivial, trivial, renamed, pair.alike⟩
      next =>
        exact lockstep_refuse (fun s member => (lendsTo pair.left s member).lends)
          fun s member => (lendsTo pair.right s member).lends

theorem gives_parse (pair : D.Pair H index index') (path : Option Bytes) (args : List String)
    (unsaved : List UnsavedFile) (options : ParseOptions) :
    D.Gives H H (index.parse path args unsaved options) (index'.parse path args unsaved options) := by
  refine (same_checkTexts _).bind fun _ base => ?_
  refine (lockstep_request
    (.parse index.resource path (args.map Utf8.encode) unsaved options.bits)
    (.parse index'.resource path (args.map Utf8.encode) unsaved options.bits) rfl rfl
    (lendsTo pair.left) (lendsTo pair.right) (by nofun) (by nofun)).bind fun _ _ =>
      lockstep_engine_bind ?_
  exact lockstep_adopt pair _ _

theorem gives_read (pair : D.Pair H index index') (path : Bytes) :
    D.Gives H H (index.read path) (index'.read path) := by
  refine (same_checkTexts _).bind fun _ base => ?_
  refine (lockstep_request (.read index.resource path) (.read index'.resource path) rfl rfl
    (lendsTo pair.left) (lendsTo pair.right) (by nofun) (by nofun)).bind fun _ _ => lockstep_engine_bind ?_
  exact lockstep_adopt pair _ _

end Index

end SourceAtlas
