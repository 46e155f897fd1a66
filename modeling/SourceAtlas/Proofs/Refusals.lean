import SourceAtlas.Proofs.Queries
import SourceAtlas.Proofs.Sessions

/-!
# Refused queries

An operation may be refused before the engine is asked, by the engine, or when the library has the
answer in its hands. Then the store is as it was: what the engine had handed out was given back, and
the only answer that is remembered is the name of a unit that the message mentions.
-/

namespace SourceAtlas

/-! ## Stores that are intact -/

/-- Whether all that was acquired was given back later. The newest event comes first. -/
def GivenBack (events : List Event) : Prop :=
  ∀ r newer older, events = newer ++ .acquired r :: older → .disposed r ∈ newer

theorem GivenBack.of_not_acquired {events : List Event}
    (absent : ∀ r, .acquired r ∉ events) : GivenBack events := by
  rintro r newer older rfl
  exact absurd (by simp) (absent r)

theorem GivenBack.append {newer older : List Event} (later : GivenBack newer)
    (earlier : GivenBack older) : GivenBack (newer ++ older) := by
  intro r after before split
  rcases List.append_eq_append_iff.1 split with ⟨between, rfl, rest⟩ | ⟨between, rfl, rest⟩
  · exact List.mem_append_right _ (earlier r between before rest)
  · cases between with
    | nil =>
        have := earlier r [] before (by simpa using rest.symm)
        exact absurd this List.not_mem_nil
    | cons event between =>
        obtain ⟨rfl, rfl⟩ := List.cons.inj rest
        exact later r after between rfl

/-- Whether a cell stays as it is, or is the cell of a unit whose name becomes known. -/
def Entry.Kept (before after : Option Entry) : Prop :=
  after = before ∨ ∃ count resource index name,
    before = some ⟨count, resource, .unit index none⟩ ∧
      after = some ⟨count, resource, .unit index (some name)⟩

/-- Whether a store comes out of something as it went in: no resource more or less is out, and no
cell has changed, but that the names of units may have become known. -/
structure World.Intact (w v : World) : Prop where
  live : v.live = w.live
  cells : ∀ c, Entry.Kept (w.find? c) (v.find? c)
  trace : ∃ events, v.trace = events ++ w.trace ∧ GivenBack events

namespace World.Intact

variable {u v w : World}

theorem of_cells (events : List Event) (live : v.live = w.live) (cells : v.cells = w.cells)
    (trace : v.trace = events ++ w.trace) (back : GivenBack events) : w.Intact v :=
  ⟨live, fun _ => .inl (by rw [find?, find?, cells]), events, trace, back⟩

theorem refl (w : World) : w.Intact w :=
  .of_cells [] rfl rfl (List.nil_append _).symm (.of_not_acquired fun _ => List.not_mem_nil)

theorem trans (first : w.Intact v) (second : v.Intact u) : w.Intact u := by
  refine ⟨second.live.trans first.live, fun c => ?_, ?_⟩
  · rcases second.cells c with same | ⟨count, resource, index, name, found, later⟩
    · rw [same]
      exact first.cells c
    · rcases first.cells c with same | ⟨_, _, _, _, _, named⟩
      · exact .inr ⟨count, resource, index, name, same ▸ found, later⟩
      · exact nomatch named.symm.trans found
  · obtain ⟨older, trace, back⟩ := first.trace
    obtain ⟨newer, trace', back'⟩ := second.trace
    exact ⟨newer ++ older, by rw [trace', trace, List.append_assoc], back'.append back⟩

/-- Events that acquire nothing may be added. -/
theorem talk (live : v.live = w.live) (cells : v.cells = w.cells) (events : List Event)
    (trace : v.trace = events ++ w.trace) (absent : ∀ r, .acquired r ∉ events) : w.Intact v :=
  .of_cells events live cells trace (.of_not_acquired absent)

theorem count_eq (intact : w.Intact v) (c : CellId) : v.count c = w.count c := by
  rcases intact.cells c with same | ⟨count, resource, index, name, found, later⟩
  · rw [World.count, World.count, same]
  · rw [count_eq_of_find? found, count_eq_of_find? later]

theorem memo_eq (intact : w.Intact v) (c : CellId) : v.memo c = w.memo c := by
  rcases intact.cells c with same | ⟨count, resource, index, name, found, later⟩
  · rw [World.memo, World.memo, same]
  · rw [World.memo, World.memo, found, later]

/-- A handle that is given back at once leaves nothing behind. -/
theorem refuse (w : World) (kind : ResourceKind) (label : Nat) :
    w.Intact ((w.acquire kind label).1.dispose (w.acquire kind label).2) := by
  refine .of_cells [.disposed _, .acquired _] ?_ rfl rfl ?_
  · show (w.live.modify kind (· + 1)).modify kind (· - 1) = w.live
    cases kind <;> rfl
  · rintro r (_ | ⟨event, _ | ⟨other, newer⟩⟩) older split
    · exact nomatch (List.cons.inj split).1
    · obtain ⟨rfl, rest⟩ := List.cons.inj split
      obtain rfl := Event.acquired.inj (List.cons.inj rest).1
      exact List.mem_singleton_self _
    · exact absurd (List.cons.inj (List.cons.inj split).2).2 (by simp)

/-- The name of a unit may become known. -/
theorem respell {w : World} {c : CellId} (unknown : w.unitSpelling? c = none) (name : String) :
    w.Intact (w.setUnitSpelling c name) := by
  unfold unitSpelling? at unknown
  unfold setUnitSpelling
  split
  next count resource index spelling found =>
    rw [found] at unknown
    subst unknown
    refine ⟨rfl, fun d => ?_, [], rfl, .of_not_acquired fun _ => List.not_mem_nil⟩
    rw [find?_put found]
    split
    next same => exact .inr ⟨count, resource, index, name, same ▸ found, rfl⟩
    next => exact .inl rfl
  next => exact .refl w

end World.Intact

/-! ## Actions that leave the store intact -/

namespace Act

/-- An action is guaranteed never to end with a failure. -/
def infallible (setting : Setting) : Guarantee setting where
  Holds x := ∀ w failure, (x.exec setting w).1 ≠ .error (.failure failure)
  pure _ _ _ := nofun
  bind first next w failure failed := by
    rw [exec_bind] at failed
    split at failed
    next a v ran => exact next w a v ran v failure failed
    next fault v ran =>
      obtain rfl := Except.error.inj failed
      exact first w failure (congrArg Prod.fst ran)
  read _ _ := nofun
  get _ _ := nofun
  ask question _ operands := ask_ne_failure question operands none
  takeText _ _ _ := nofun
  copyText _ _ _ _ := nofun

/-- An action is guaranteed to leave the store intact, whatever comes of it. -/
def harmless (engine : Engine) : Guarantee ⟨engine, true⟩ where
  Holds x := ∀ w : World, w.Intact (x.exec ⟨engine, true⟩ w).2
  pure _ := .refl
  bind := bind_leads (R := World.Intact) .trans
  read := .refl
  get := .refl
  ask question _ operands w := ask_leads (R := World.Intact) .refl w
    (.talk rfl rfl [.asked question operands none] rfl fun _ => by simp)
  takeText text w := .talk rfl rfl [.textTaken w.texts text] rfl fun _ => by simp
  copyText serial text w :=
    .talk rfl rfl [.textReturned serial, .textCopied serial _] rfl fun _ => by simp

/-- Whether an action never ends with a failure. -/
abbrev Infallible (setting : Setting) (x : Act α) : Prop :=
  (infallible setting).Covers x

/-- Whether an action leaves the store intact, whatever comes of it. -/
abbrev Harmless (engine : Engine) (x : Act α) : Prop :=
  (harmless engine).Covers x

section

variable {setting : Setting}

instance : (infallible setting).Requesting where
  request := request_ne_failure

instance : (infallible setting).Counting where
  retain _ _ _ := nofun
  release _ _ _ := nofun
  alloc _ _ _ _ := nofun
  acquire _ _ _ _ := nofun
  dispose _ _ _ := nofun
  countIndex _ _ := nofun
  countList _ _ := nofun
  addUnit _ _ _ := nofun

instance : (infallible setting).Renewing := ⟨fun _ _ _ _ => nofun⟩

instance : (infallible setting).Panicking := ⟨fun _ _ _ => nofun⟩

instance : (infallible setting).Attempting := ⟨fun _ _ _ => nofun⟩

instance : (infallible setting).Asking where
  ask := ask_ne_failure

instance : (infallible setting).Remembering where
  ask question _ operands memo := Guarantee.Asking.ask question operands memo
  remember _ _ _ _ _ := nofun
  respell _ _ _ _ := nofun

end

section

variable {engine : Engine}

instance : (harmless engine).Requesting where
  request asked w := request_leads (R := World.Intact) .refl w
    (.talk rfl rfl [.requested asked] rfl fun _ => by simp)

instance : (harmless engine).Failing := ⟨fun _ => .refl⟩

instance : (harmless engine).Loading :=
  ⟨fun _ => .talk rfl rfl [] rfl fun _ => List.not_mem_nil⟩

/-- Nothing is lost when a name becomes known, and a name that is known stays as it is. -/
instance : (harmless engine).Naming where
  spelling unit w := by
    unfold SourceUnit.spelling
    rw [exec_bind_ok exec_read, exec_bind_ok exec_get]
    cases known : w.unitSpelling? unit.cell with
    | some spelling => exact .refl w
    | none =>
        cases loaded : w.loaded with
        | false =>
            rw [exec_bind_error (exec_ask_unloaded _ _ _ loaded)]
            exact .refl w
        | true =>
            rw [exec_bind_ok (exec_ask _ _ _ loaded), exec_bind_ok (exec_table _),
              exec_bind_ok exec_engine, exec_bind_ok (exec_text _), exec_bind_ok (exec_update _)]
            have asked (told : EngineText) : w.Intact
                ((w.note (.asked .unitSpelling [unit.resource] unit.cell)).tell told) :=
              .talk rfl rfl (textLife w.texts told ++ [.asked _ _ _]) rfl fun _ => by
                simp [textLife]
            refine (asked _).trans (World.Intact.respell ?_ _)
            exact known

end

end Act

/-! ## Actions that are refused without a trace -/

namespace Act

/-- Whether an action leaves the store intact if it is refused. -/
class Atomic (engine : Engine) (x : Act α) : Prop where
  intact (w : World) {failure : Failure} {v : World}
    (failed : x.exec ⟨engine, true⟩ w = (.error (.failure failure), v)) : w.Intact v

variable {engine : Engine} {α β : Type} {x y : Act α} {f : α → Act β}

instance [harmless : Harmless engine x] : Atomic engine x :=
  ⟨fun w _ v failed => by
    have intact := harmless.holds w
    rwa [failed] at intact⟩

instance [infallible : Infallible ⟨engine, true⟩ x] : Atomic engine x :=
  ⟨fun w failure _ failed => absurd (congrArg Prod.fst failed) (infallible.holds w failure)⟩

/-- What comes after an action that has changed the store must not be refused. -/
instance [first : Atomic engine x] [next : ∀ a, Infallible ⟨engine, true⟩ (f a)] :
    Atomic engine (x >>= f) := by
  refine ⟨fun w failure v failed => ?_⟩
  rw [exec_bind] at failed
  split at failed
  next a u ran =>
    exact absurd (congrArg Prod.fst failed) ((next a).holds u failure)
  next fault u ran =>
    obtain ⟨same, rfl⟩ := Prod.mk.inj failed
    obtain rfl := Except.error.inj same
    exact first.intact w ran

/-- What comes before an action that may be refused must have done no harm. -/
theorem Atomic.after [first : Harmless engine x]
    (next : ∀ w a v, x.exec ⟨engine, true⟩ w = (.ok a, v) → Atomic engine (f a)) :
    Atomic engine (x >>= f) := by
  refine ⟨fun w failure v failed => ?_⟩
  have before := first.holds w
  rw [exec_bind] at failed
  split at failed
  next a u ran =>
    rw [ran] at before
    exact before.trans ((next w a u ran).intact u failed)
  next fault u ran =>
    obtain ⟨-, rfl⟩ := Prod.mk.inj failed
    rwa [ran] at before

instance [Harmless engine x] [next : ∀ a, Atomic engine (f a)] : Atomic engine (x >>= f) :=
  .after fun _ a _ _ => next a

instance (c : Prop) [Decidable c] [Atomic engine x] [Atomic engine y] :
    Atomic engine (if c then x else y) := by
  split <;> infer_instance

instance (value : Option α) [each : ∀ a, Atomic engine (f a)] :
    Atomic engine (value.mapM f) := by
  cases value with
  | none => exact inferInstanceAs (Atomic engine (pure none))
  | some a =>
      show Atomic engine (some <$> f a)
      rw [← bind_pure_comp]
      infer_instance

/-- A handle is kept, or it is given back before a failure is reported. -/
instance (kind : ResourceKind) (label : Nat) (c : Prop) [Decidable c] {own : Resource → Act α}
    [∀ r, Infallible ⟨engine, true⟩ (own r)] (failure : Failure) :
    Atomic engine (do
      let resource ← acquire kind label
      if c then own resource
      else
        dispose resource
        fail failure) := by
  split
  next => infer_instance
  next =>
    refine ⟨fun w _ v failed => ?_⟩
    obtain ⟨-, rfl⟩ := Prod.mk.inj failed
    exact .refuse w kind label

end Act

open Act

variable {engine : Engine}

/-! ### Units and databases -/

namespace SourceUnit

variable (unit : SourceUnit)

instance (unsaved : List UnsavedFile) (options : Option UInt32) :
    Atomic engine (unit.reparse unsaved options) := by
  have (table : Option Nat) : Infallible ⟨engine, true⟩ (update (·.retable unit.resource table)) :=
    ⟨fun _ _ => nofun⟩
  rw [reparse_eq]
  infer_instance

instance (path : Bytes) (line column : UInt32) (unsaved : List UnsavedFile)
    (options : CompleteOptions) :
    Atomic engine (unit.complete path line column unsaved options) := by
  unfold complete
  refine .after fun _ _ _ _ => .after fun _ _ _ _ => .after fun _ _ _ _ => ?_
  split <;> infer_instance

instance (name : Bytes) (position : FilePosition) :
    Atomic engine (unit.location? name position) := by
  unfold location?; infer_instance

instance (start stop : SourceLocation) : Atomic engine (SourceRange.ofLocations start stop) := by
  unfold SourceRange.ofLocations; infer_instance

instance (name : Bytes) (start stop : FilePosition) :
    Atomic engine (unit.extent? name start stop) := by
  unfold extent?; infer_instance

instance (range : SourceRange) : Atomic engine (unit.tokens range) := by
  unfold tokens; infer_instance

instance (query : UnitQuery) : Atomic engine (unit.answer query) := by
  cases query <;> simp only [answer, file?, diagnostics] <;> infer_instance

end SourceUnit

namespace Index

instance (config : IndexConfig) : Atomic engine (create config) := by
  have : Infallible ⟨engine, true⟩
      (updateGet fun w => ({ w with indexes := w.indexes + 1 }, w.indexes)) :=
    ⟨fun _ _ => nofun⟩
  have (label : Nat) : Infallible ⟨engine, true⟩ (do
      let resource ← acquire .index label
      return (⟨← newCell (some resource) .index, resource, config⟩ : Index)) := by
    infer_instance
  unfold create; infer_instance

instance (index : Index) (source : SourceEntry) (name : String) :
    Atomic engine (index.adopt source name) := by
  unfold adopt
  cases source.unit with
  | none => infer_instance
  | some table =>
      have : Harmless engine (updateGet fun w =>
          ({ w with instances := w.instances.push table }, w.instances.size)) :=
        ⟨fun _ => .talk rfl rfl [] rfl fun _ => List.not_mem_nil⟩
      infer_instance

instance (index : Index) (query : IndexQuery) : Atomic engine (index.answer query) := by
  cases query <;> simp only [answer, parse, read] <;> infer_instance

end Index

namespace Database

instance (directory : Bytes) : Atomic engine (openIn directory) := by
  unfold openIn
  split
  next => infer_instance
  next =>
    refine .after fun _ _ _ _ => .after fun _ _ _ _ => .after fun told _ _ _ => ?_
    dsimp only
    split <;> infer_instance

instance (database : Database) (query : DatabaseQuery) : Atomic engine (database.answer query) := by
  cases query <;> simp only [answer, commandsFor, allCommands]
  next => infer_instance
  next => infer_instance
  next => split <;> infer_instance

end Database

/-! ### Cursors and types -/

/-- What is answered about a value is determined by the engine. -/
theorem Raw.eq_of_exec_ask {setting : Setting} {α β : Type} {raw : Raw α} {question : Question}
    {answer : Engine → α → β} {memo : Option CellId} {w v : World} {b : β}
    (ran : (raw.ask question answer memo).exec setting w = (.ok b, v)) :
    b = answer setting.engine raw.value := by
  unfold Raw.ask at ran
  cases loaded : w.loaded with
  | false =>
      rw [exec_bind_error (exec_ask_unloaded _ _ _ loaded)] at ran
      exact nomatch ran
  | true =>
      rw [exec_bind_ok (Act.exec_ask _ _ _ loaded)] at ran
      exact (Except.ok.inj (Prod.mk.inj ran).1).symm

namespace Cursor

variable (cursor : Cursor)

instance : Atomic engine cursor.enumType := by
  unfold enumType; infer_instance

/-- The handle of the integer type is refused for enumerations only. -/
theorem infallible_enumTypeRaw {setting : Setting} {raw : Raw Ref}
    (declares : (setting.engine.cursor raw.value).kind = .enumDecl) :
    Infallible setting (enumTypeRaw raw) := by
  unfold enumTypeRaw
  refine .after fun w kind v ran => ?_
  have known : kind = .enumDecl := (raw.eq_of_exec_ask ran).trans declares
  rw [if_neg (by simp [known])]
  infer_instance

/-- Only a declaration of an enumeration is asked for its integer type. -/
theorem infallible_declared (setting : Setting) (type : SourceType) (found : Option (Raw Ref)) :
    Infallible setting (declared type found) := by
  unfold declared
  cases found with
  | none => infer_instance
  | some declaration =>
      refine .after fun w kind v ran => ?_
      by_cases known : kind = .enumDecl
      · have := infallible_enumTypeRaw ((declaration.eq_of_exec_ask ran).symm.trans known)
        infer_instance
      · rw [if_pos (by simpa using known)]
        infer_instance

theorem infallible_underlying (setting : Setting) (type : SourceType) :
    Infallible setting (underlying type) := by
  have := infallible_declared setting
  unfold underlying
  infer_instance

theorem infallible_integerType {setting : Setting} (type : SourceType) :
    Infallible setting (integerType type) := by
  have := infallible_underlying setting
  rw [integerType_eq]
  dsimp only
  infer_instance

/-- Once the cursor is known to be a constant, nothing can be refused. -/
instance : Atomic engine cursor.enumValue := by
  have (type : SourceType) : Infallible ⟨engine, true⟩ (integerType type) :=
    infallible_integerType type
  unfold enumValue
  infer_instance

instance (query : CursorQuery) : Atomic engine (cursor.answer query) := by
  have := covers_shown (infallible ⟨engine, true⟩)
  cases query <;> simp only [answer, kindSpelling, Cursor.text, fieldOffset, bitfieldWidth,
    resultType, underlyingTypedefType, linked, includedFile, arguments, Walk.make,
    templateArgumentCount, templateArgumentKind, templateArgumentType, templateArgumentValue,
    templateArgumentUnsignedValue] <;>
    infer_instance

end Cursor

namespace SourceType

variable (type : SourceType)

instance (query : TypeQuery) : Atomic engine (type.answer query) := by
  cases query <;> simp only [answer, kindSpelling, spelling, typedefName, isFunctionVariadic,
    linked, elementType, elementCount, arraySize, align, size, addressSpace, refQualifier,
    exceptionSpecification, argumentTypes, templateArgumentCount, templateArgument] <;>
    infer_instance

end SourceType

/-! ### Other objects -/

instance (diagnostic : Diagnostic) (query : DiagnosticQuery) :
    Atomic engine (diagnostic.answer query) := by
  cases query <;> simp only [Diagnostic.answer, Diagnostic.location, Diagnostic.ranges,
    Diagnostic.fixIts, Diagnostic.childCount, Diagnostic.children, Diagnostic.categoryNumber,
    Diagnostic.categoryName, Diagnostic.enableOption] <;> infer_instance

instance (location : SourceLocation) (query : LocationQuery) :
    Atomic engine (location.turn query) := by
  cases query <;> simp only [SourceLocation.turn, Object.steady, Cursor.atLocation] <;>
    infer_instance

namespace Object

instance (receiver : Object) (answer : Act Answer) [Atomic engine answer] :
    Atomic engine (receiver.steady answer) := by
  unfold steady; infer_instance

/-- Whatever an object is asked, it is asked in vain or for good. -/
theorem atomic_turn? {object : Object} {name : String} {args : Json} {act : Act Turn}
    (found : object.turn? name args = some act) : Atomic engine act := by
  cases object <;> obtain ⟨query, -, rfl⟩ := Option.map_eq_some_iff.1 found <;> infer_instance

theorem atomic_pairTurn? {first second : Object} {query : PairQuery} {act : Act Turn}
    (found : first.pairTurn? second query = some act) : Atomic engine act := by
  unfold pairTurn? at found
  split at found <;> cases found <;> infer_instance

end Object

namespace State

theorem atomic_sessionQuery? {name : String} {args : Json} {act : Act Answer}
    (found : sessionQuery? name args = some act) : Atomic engine act := by
  unfold sessionQuery? at found
  split at found <;> cases found <;> infer_instance

end State

/-! ## Outcomes of turns -/

namespace Walk

variable (walk : Walk)

/-- What ends a walk early is a defect of the engine. -/
theorem returns_advance :
    walk.advance.Returns fun result => ∀ failure, result.2 ≠ .error (.failure failure) := by
  unfold advance
  cases walk.pending.getLast? with
  | none => exact .pure fun _ => nofun
  | some node =>
      have visits : (attempt node.children).Returns fun result =>
          ∀ failure, result ≠ .error (.failure failure) := by
        rintro setting w _ _ ⟨⟩ failure failed
        have : Infallible setting node.children := inferInstance
        exact this.holds w failure failed
      refine visits.after fun result sound => ?_
      cases result with
      | ok children => exact .pure fun _ => nofun
      | error fault =>
          exact .bind fun _ => .pure fun failure failed =>
            sound failure (congrArg _ (Except.error.inj failed))

theorem returns_loop (turns : Nat) (yielded : List Cursor) :
    (drain.loop turns walk yielded).Returns fun result =>
      ∀ failure, result.2 ≠ .error (.failure failure) := by
  induction turns generalizing walk yielded with
  | zero => exact .pure fun _ => nofun
  | succ turns ih =>
      refine walk.returns_advance.after fun result sound => ?_
      obtain ⟨walk, _ | _ | node⟩ := result
      · exact .bind fun _ => .pure fun failure failed =>
          sound failure (congrArg _ (Except.error.inj failed))
      · exact .pure fun _ => nofun
      · exact ih walk _

theorem returns_drain :
    walk.drain.Returns fun result => ∀ failure, result.2 ≠ .error (.failure failure) :=
  .bind fun _ => walk.returns_loop _ []

theorem returns_turn (query : WalkQuery) :
    (walk.turn query).Returns fun t => ∀ failure, t.outcome ≠ .error (.failure failure) := by
  have walked {β : Type} {wrap : β → Answer} {result : Walk × Except Fault β}
      (sound : ∀ failure, result.2 ≠ .error (.failure failure)) (failure : Failure) :
      result.2.map wrap ≠ .error (.failure failure) := by
    obtain ⟨walk, found | value⟩ := result
    · exact fun failed => sound failure (congrArg _ (Except.error.inj failed))
    · exact nofun
  cases query with
  | next =>
      refine walk.returns_advance.after fun result sound => ?_
      exact .pure (walked sound)
  | rest =>
      refine walk.returns_drain.after fun result sound => ?_
      exact .pure (walked sound)

end Walk

/-- A turn that comes to its end has not failed on the way. -/
theorem State.Poses.returns_sound {state : State} {name slot slot' : String} {args : Json}
    {other : Option String} {act : Act Turn}
    (poses : state.Poses name args slot other slot' act) :
    act.Returns fun t => ∀ failure, t.outcome ≠ .error (.failure failure) := by
  rcases poses.returns with ⟨walk, query, -, rfl⟩ | answers
  · exact walk.returns_turn query
  · intro setting w t v ran failure failed
    obtain ⟨answer, answered⟩ := answers setting w t v ran
    exact nomatch answered.symm.trans failed

/-! ## Refused queries of a session -/

/-- Once the cursor is known to be a constant of an enumeration, its value is not refused. -/
theorem Cursor.infallible_enumValue {setting : Setting} {k : Cursor}
    (constant : (setting.engine.cursor k.raw.value).kind = .enumConstantDecl) :
    Infallible setting k.enumValue := by
  have (type : SourceType) : Infallible setting (integerType type) := infallible_integerType type
  unfold enumValue
  refine .after fun w kind v ran => ?_
  have known : kind = .enumConstantDecl := (k.raw.eq_of_exec_ask ran).trans constant
  have : Infallible setting
      (k.require "enum_value" "an enum constant declaration" (kind == .enumConstantDecl)) := by
    rw [known]
    exact inferInstanceAs (Infallible setting (pure ()))
  infer_instance

/-- A cursor that is asked for the value of a constant gives its answer to that. -/
theorem State.Poses.enumValue {state : State} {args : Json} {slot slot' : String}
    {other : Option String} {act : Act Turn} {k : Cursor}
    (found : state.slots.get? slot = some (.cursor k))
    (poses : state.Poses "enum_value" args slot other slot' act) :
    act = (Object.cursor k).steady (k.answer .enumValue) := by
  cases poses with
  | clone _ named _ => exact absurd named (by decide)
  | alone here turns =>
      obtain rfl := Option.some.inj (here.symm.trans found)
      exact (Option.some.inj turns).symm
  | pair _ _ named _ => exact nomatch named

/-- What is left of a query that is refused. -/
structure State.Untouched (before after : State) : Prop where
  slots : after.slots = before.slots
  live : after.world.live = before.world.live
  count : ∀ c, after.world.count c = before.world.count c
  /-- Whatever the engine handed out on the way was given back to it. -/
  givenBack : ∃ events, after.world.trace = events ++ before.world.trace ∧ GivenBack events
  texts : outstandingTexts after.world.trace = 0
  memo : ∀ c, after.world.memo c = before.world.memo c
  /-- A message may have made the name of a unit known. -/
  cells : ∀ c, Entry.Kept (before.world.find? c) (after.world.find? c)

namespace Session.Reached

variable {engine : Engine} {begin state : State}

theorem untouched (reached : Reached ⟨engine, true⟩ begin state)
    (receiver other target : Option String) (args : Json) (name : String) {failure : Failure}
    (refused : (state.ask ⟨engine, true⟩ receiver other target args name).2 =
      .fault (.failure failure)) :
    state.Untouched (state.ask ⟨engine, true⟩ receiver other target args name).1 := by
  have settled : outstandingTexts
      (state.ask ⟨engine, true⟩ receiver other target args name).1.world.trace = 0 := by
    obtain ⟨facts, τ, inv⟩ := (reached.ask receiver other target args name).inv
    exact inv.texts.none_out
  have leaves {v : World} (intact : state.world.Intact v)
      (texts : outstandingTexts v.trace = 0) : state.Untouched { state with world := v } :=
    ⟨rfl, intact.live, intact.count_eq, intact.trace, texts, intact.memo_eq, intact.cells⟩
  have faults := State.ask_fault refused
  generalize (state.ask ⟨engine, true⟩ receiver other target args name).1 = after at *
  cases faults with
  | session _ found ran => exact leaves ((State.atomic_sessionQuery? found).intact _ ran) settled
  | object _ poses ran =>
      refine leaves ?_ settled
      cases poses with
      | clone => exact nomatch (Prod.mk.inj ran).1
      | alone _ turns => exact (Object.atomic_turn? turns).intact _ ran
      | pair _ _ _ turns => exact (Object.atomic_pairTurn? turns).intact _ ran
  | turned _ poses ran ended =>
      -- What an object answers in the end is no failure.
      exact absurd ended (poses.returns_sound _ _ _ _ ran failure)

/-- The value of a constant is remembered only where it was found. -/
theorem unremembered (reached : Reached ⟨engine, true⟩ begin state) {slot : String} {k : Cursor}
    (found : state.slots.get? slot = some (.cursor k)) (other target : Option String) (args : Json)
    {failure : Failure}
    (refused : (state.ask ⟨engine, true⟩ (some slot) other target args "enum_value").2 =
      .fault (.failure failure)) : (state.world.memo k.memo).enumValue = none := by
  obtain ⟨facts, τ, inv⟩ := reached.inv
  have usable := reached.usable (.cursor k) (List.mem_map_of_mem (Slots.mem_of_get? found))
  have within : Within (owners state.slots.objects : Held) (.cursor k) :=
    usable.within _ (List.mem_cons_of_mem _ (List.mem_singleton_self _))
  obtain ⟨entry, -, -, remembers⟩ := inv.remembers within
  by_contra known
  obtain ⟨value, known⟩ := Option.ne_none_iff_exists'.1 known
  -- what is remembered was found on a constant, and there nothing is refused
  have constant : Infallible ⟨engine, true⟩ k.enumValue :=
    k.infallible_enumValue (remembers.enumValue value known).2
  have answered : Infallible ⟨engine, true⟩ ((Object.cursor k).steady (k.answer .enumValue)) := by
    have := Cursor.covers_shown (infallible ⟨engine, true⟩)
    unfold Cursor.answer
    infer_instance
  have faults := State.ask_fault refused
  generalize (state.ask _ (some slot) other target args "enum_value").1 = after at faults
  cases faults with
  | session held _ _ => exact nomatch held
  | object held poses ran =>
      cases held
      rw [poses.enumValue found] at ran
      exact answered.holds _ _ (congrArg Prod.fst ran)
  | turned held poses ran ended => exact poses.returns_sound _ _ _ _ ran failure ended

end Session.Reached

/-- A query that is refused has left nothing behind: slots, counts and memos are as before, and what
the engine had handed out was given back. At most the name of a unit became known. The value of a
constant that was refused is not remembered. -/
theorem refused_untouched (engine : Engine) {begin state : State}
    (reached : Session.Reached ⟨engine, true⟩ begin state) (receiver other target : Option String)
    (args : Json) (name : String) {failure : Failure}
    (refused : (state.ask ⟨engine, true⟩ receiver other target args name).2 =
      .fault (.failure failure)) :
    let after := (state.ask ⟨engine, true⟩ receiver other target args name).1
    state.Untouched after ∧ ∀ slot k, receiver = some slot → name = "enum_value" →
      state.slots.get? slot = some (.cursor k) → (after.world.memo k.memo).enumValue = none := by
  have untouched := reached.untouched receiver other target args name refused
  refine ⟨untouched, ?_⟩
  rintro slot k rfl rfl found
  rw [untouched.memo]
  exact reached.unremembered found other target args refused

open Session in
/-- A unit that is handed out beside a status other than 0 is disposed of, and what was remembered
about the root of another unit stays. The root is refused as a constant. -/
theorem refused_untouched_parse :
    let state := Sample.after Sample.looks
    let parse :=
      state.ask Sample.setting (some "i") none (some "v") (.obj [("path", .str "b")]) "parse"
    let value := state.ask Sample.setting (some "c") none none .null "enum_value"
    parse.2 = .fault (.failure (.unitLoad "b" (some .crashed))) ∧ state.Untouched parse.1 ∧
      parse.1.world.trace = .disposed ⟨.unit, 2, 1⟩ :: .acquired ⟨.unit, 2, 1⟩ ::
        .requested (.parse firstIndex.resource (some [98]) [] [] 0) :: state.world.trace ∧
      (parse.1.world.memo firstRoot.memo).spelling = some "x" ∧
      value.2 = .fault (.failure
        (.precondition "enum_value" "an enum constant declaration" "CursorKind::TranslationUnit")) ∧
      state.Untouched value.1 ∧ (value.1.world.memo firstRoot.memo).enumValue = none := by
  have reached := Sample.reached Sample.looks
  dsimp only
  generalize named : Sample.after Sample.looks = state at *
  have parse : (state.ask Sample.setting (some "i") none (some "v") (.obj [("path", .str "b")])
      "parse").2 = .fault (.failure (.unitLoad "b" (some .crashed))) := by
    rw [← named]
    cbv
  have value : (state.ask Sample.setting (some "c") none none .null "enum_value").2 =
      .fault (.failure
        (.precondition "enum_value" "an enum constant declaration" "CursorKind::TranslationUnit")) := by
    rw [← named]
    cbv
  have events : (state.ask Sample.setting (some "i") none (some "v") (.obj [("path", .str "b")])
      "parse").1.world.trace = .disposed ⟨.unit, 2, 1⟩ :: .acquired ⟨.unit, 2, 1⟩ ::
        .requested (.parse firstIndex.resource (some [98]) [] [] 0) :: state.world.trace := by
    rw [← named]
    cbv
  have spelling : (state.world.memo firstRoot.memo).spelling = some "x" := by
    rw [← named]
    cbv
  have found : state.slots.get? "c" = some (.cursor firstRoot) := by
    rw [← named]
    cbv
  obtain ⟨untouched, -⟩ := refused_untouched Sample.engine reached _ _ _ _ _ parse
  obtain ⟨untouched', unremembered⟩ := refused_untouched Sample.engine reached _ _ _ _ _ value
  rw [← untouched.memo] at spelling
  exact ⟨parse, untouched, events, spelling, value, untouched', unremembered _ _ rfl rfl found⟩

end SourceAtlas
