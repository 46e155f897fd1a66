import Mathlib.Data.List.TakeWhile
import SourceAtlas.Proofs.Hearing

/-!
# What crosses into the engine

Eleven operations hand names to the engine. The engine takes a name to end at the first NUL, so each of
them looks at its names first: its path, its arguments and the paths of its unsaved files, in this
order. A name that holds a NUL is refused before anything is asked. Otherwise the names and the
contents cross the boundary once, and the engine reads of them just what was given.
-/

namespace SourceAtlas

open Act

/-! ## Names without NUL -/

namespace Bytes

variable {bytes : Bytes} {position : Nat}

theorem nulPosition?_eq_none : bytes.nulPosition? = none ↔ 0 ∉ bytes := by
  rw [nulPosition?, List.findIdx?_eq_none_iff]
  constructor
  · intro sound held
    exact absurd (sound 0 held) (by decide)
  · intro sound byte held
    exact beq_eq_false_iff_ne.2 fun same => sound (same ▸ held)

/-- The position that is found is that of the first NUL. -/
theorem nulPosition?_eq_some (found : bytes[position]? = some 0) (first : 0 ∉ bytes.take position) :
    bytes.nulPosition? = some position := by
  obtain ⟨bound, read⟩ := List.getElem?_eq_some_iff.1 found
  refine List.findIdx?_eq_some_iff_getElem.2 ⟨bound, by simp [read], fun j earlier => ?_⟩
  intro nul
  refine first ((beq_iff_eq.1 nul) ▸ ?_)
  exact List.mem_take_iff_getElem.2 ⟨j, by omega, rfl⟩

/-- A name without NUL is read as it is. -/
theorem untilNul_eq_self (sound : 0 ∉ bytes) : bytes.untilNul = bytes := by
  refine List.takeWhile_eq_self_iff.2 fun byte held => ?_
  exact bne_iff_ne.2 fun same => sound (same ▸ held)

end Bytes

theorem Utf8.length_encode (text : String) : (encode text).length = text.utf8ByteSize := by
  rw [String.utf8ByteSize, ← String.utf8Encode_toList, List.utf8Encode, List.size_toByteArray]
  rfl

theorem firstNul?_eq_none {texts : List Bytes} :
    firstNul? texts = none ↔ ∀ text ∈ texts, 0 ∉ text := by
  rw [firstNul?, List.findSome?_eq_none_iff]
  exact forall₂_congr fun text _ => Bytes.nulPosition?_eq_none

/-- The texts before the first one that holds a NUL do not matter, nor do those behind it. -/
theorem firstNul?_eq_some {before after : List Bytes} {text : Bytes} {position : Nat}
    (sound : ∀ other ∈ before, 0 ∉ other) (found : text[position]? = some 0)
    (first : 0 ∉ text.take position) :
    firstNul? (before ++ text :: after) = some position := by
  have none : firstNul? before = none := firstNul?_eq_none.2 sound
  rw [firstNul?] at none ⊢
  rw [List.findSome?_append, none, Option.none_or, List.findSome?_cons,
    Bytes.nulPosition?_eq_some found first]

/-! ## What the engine reads -/

/-- What is handed over: a path, if there is one, arguments, and unsaved files, each as its path and
its contents. -/
structure Handed where
  path : Option Bytes := none
  args : List Bytes := []
  unsaved : List (Bytes × Bytes) := []

/-- What the engine reads of an unsaved file. The path ends at the first NUL; the contents have a
length, and do not. -/
def UnsavedFile.read (file : UnsavedFile) : Bytes × Bytes :=
  (file.path.untilNul, (Utf8.encode file.contents).take file.contents.utf8ByteSize)

/-- What the engine reads of what an event hands over to it, if it does. -/
def Event.handed? : Event → Option Handed
  | .requested (.parse _ name args unsaved _) =>
    some ⟨name.map Bytes.untilNul, args.map Bytes.untilNul, unsaved.map UnsavedFile.read⟩
  | .requested (.read _ name) | .requested (.save _ name _) | .requested (.getFile _ name)
  | .requested (.openDatabase name) | .requested (.findCommands _ name) =>
    some { path := name.untilNul }
  | .requested (.reparse _ unsaved _) => some { unsaved := unsaved.map UnsavedFile.read }
  | .requested (.complete _ name _ _ unsaved _) =>
    some { path := name.untilNul, unsaved := unsaved.map UnsavedFile.read }
  | .asked (.offsetOf field) _ _ => some { path := field.untilNul }
  | _ => none

/-- The event itself, if it hands something over. -/
def Event.handing? (event : Event) : Option Event :=
  event.handed?.map fun _ => event

/-- An unsaved file whose path holds no NUL is read with its own contents in full. -/
theorem UnsavedFile.read_eq {file : UnsavedFile} (sound : 0 ∉ file.path) :
    file.read = (file.path, Utf8.encode file.contents) := by
  rw [read, Bytes.untilNul_eq_self sound, List.take_of_length_le (Utf8.length_encode _).le]

theorem UnsavedFile.map_read_eq {files : List UnsavedFile} (sound : ∀ file ∈ files, 0 ∉ file.path) :
    files.map read = files.map fun file => (file.path, Utf8.encode file.contents) :=
  List.map_congr_left fun file member => read_eq (sound file member)

/-! ## Operations -/

/-- An operation that is given names. -/
inductive Handover where
  | parse (index : Index) (path : Option Bytes) (args : List String) (unsaved : List UnsavedFile)
      (options : ParseOptions)
  | read (index : Index) (path : Bytes)
  | reparse (unit : SourceUnit) (unsaved : List UnsavedFile) (options : Option UInt32)
  | save (unit : SourceUnit) (path : Bytes)
  | complete (unit : SourceUnit) (path : Bytes) (line column : UInt32) (unsaved : List UnsavedFile)
      (options : CompleteOptions)
  | file (unit : SourceUnit) (name : Bytes)
  | location (unit : SourceUnit) (name : Bytes) (position : FilePosition)
  | extent (unit : SourceUnit) (name : Bytes) (start stop : FilePosition)
  | commands (held : Database) (name : Bytes)
  | database (directory : Bytes)
  | offsetOf (type : SourceType) (field : String)

namespace Handover

/-- What the operation returns. -/
@[reducible] def Result : Handover → Type
  | .parse .. | .read .. => SourceUnit
  | .reparse .. | .save .. => Unit
  | .complete .. => Option Completion
  | .file .. => Option SourceFile
  | .location .. => Option SourceLocation
  | .extent .. => Option SourceRange
  | .commands .. => Option CommandList
  | .database .. => Database
  | .offsetOf .. => Nat

/-- What the operation does. -/
def act : (op : Handover) → Act op.Result
  | .parse index path args unsaved options => index.parse path args unsaved options
  | .read index path => index.read path
  | .reparse unit unsaved options => unit.reparse unsaved options
  | .save unit path => unit.save path
  | .complete unit path line column unsaved options => unit.complete path line column unsaved options
  | .file unit name => unit.file? name
  | .location unit name position => unit.location? name position
  | .extent unit name start stop => unit.extent? name start stop
  | .commands held name => held.commandsFor name
  | .database directory => Database.openIn directory
  | .offsetOf type field => type.offsetOf field

/-- What the operation is given to hand over. -/
def given : Handover → Handed
  | .parse _ path args unsaved _ =>
    ⟨path, args.map Utf8.encode, unsaved.map fun file => (file.path, Utf8.encode file.contents)⟩
  | .reparse _ unsaved _ =>
    { unsaved := unsaved.map fun file => (file.path, Utf8.encode file.contents) }
  | .complete _ path _ _ unsaved _ =>
    { path, unsaved := unsaved.map fun file => (file.path, Utf8.encode file.contents) }
  | .read _ name | .save _ name | .file _ name | .location _ name _ | .extent _ name _ _
  | .commands _ name | .database name => { path := name }
  | .offsetOf _ field => { path := Utf8.encode field }

/-- The names that the operation is given: path, arguments, paths of unsaved files. -/
def names (op : Handover) : List Bytes :=
  op.given.path.toList ++ op.given.args ++ op.given.unsaved.map (·.1)

/-- Whether the operation is turned away before its names are looked at: a unit that something else
refers to is not parsed again. -/
def Barred (op : Handover) (w : World) : Prop :=
  match op with
  | .reparse unit .. => 1 < w.count unit.cell
  | _ => False

/-- Whether the engine is there to be asked. The operation that opens a database loads it. -/
def Ready (op : Handover) (w : World) : Prop :=
  match op with
  | .database _ => True
  | _ => w.loaded = true

/-- What the engine is asked: to whom the operation is addressed, what it hands over, and how it is
to be done. -/
def event (engine : Engine) (w : World) : Handover → Event
  | .parse index path args unsaved options =>
    .requested (.parse index.resource path (args.map Utf8.encode) unsaved options.bits)
  | .read index path => .requested (.read index.resource path)
  | .reparse unit unsaved options =>
    .requested (.reparse unit.resource unsaved
      (options.getD (engine.unit (w.table unit.resource)).reparseOptions))
  | .save unit path =>
    .requested (.save unit.resource path (engine.unit (w.table unit.resource)).saveOptions)
  | .complete unit path line column unsaved options =>
    .requested (.complete unit.resource path line column unsaved options.bits)
  | .file unit name | .location unit name _ | .extent unit name _ _ =>
    .requested (.getFile unit.resource name)
  | .commands held name => .requested (.findCommands held.resource name)
  | .database directory => .requested (.openDatabase directory)
  | .offsetOf type field => .asked (.offsetOf (Utf8.encode field)) [type.raw.origin] none

/-- The engine reads what was given, if no name holds a NUL. -/
theorem handed?_event (op : Handover) (engine : Engine) (w : World)
    (sound : ∀ name ∈ op.names, 0 ∉ name) : (op.event engine w).handed? = some op.given := by
  have path {name : Bytes} (given : op.given.path = some name) : name.untilNul = name :=
    Bytes.untilNul_eq_self (sound name (by simp [names, given]))
  have unsaved {files : List UnsavedFile}
      (given : op.given.unsaved = files.map fun file => (file.path, Utf8.encode file.contents)) :
      files.map UnsavedFile.read =
        files.map fun file => (file.path, Utf8.encode file.contents) := by
    refine UnsavedFile.map_read_eq fun file member => sound _ ?_
    simp only [names, given, List.map_map, List.mem_append, List.mem_map]
    exact .inr ⟨file, member, rfl⟩
  cases op with
  | parse index name args files options =>
      have args : (args.map Utf8.encode).map Bytes.untilNul = args.map Utf8.encode := by
        refine List.map_congr_left (g := id) (fun arg member => ?_) |>.trans (List.map_id _)
        refine Bytes.untilNul_eq_self (sound arg ?_)
        simp only [names, given, List.mem_append]
        exact .inl (.inr member)
      have name : name.map Bytes.untilNul = name := by
        cases name with
        | none => rfl
        | some name => exact congrArg some (path rfl)
      simp only [event, Event.handed?, args, name, unsaved rfl, given]
  | reparse unit files options => simp only [event, Event.handed?, unsaved rfl, given]
  | complete unit name line column files options =>
      simp only [event, Event.handed?, path rfl, unsaved rfl, given]
  | _ => simp only [event, Event.handed?, path rfl, given]

end Handover

/-! ## What comes after a name has crossed -/

namespace Act

/-- Whether a failure blames something else than a name. -/
class Blameless (failure : Failure) : Prop where
  other : ∀ reason, failure ≠ .invalidArgument reason

/-- Whether an action blames no name, and hands nothing over. -/
class Settles (setting : Setting) (x : Act α) : Prop where
  blameless : ∀ w reason, (x.exec setting w).1 ≠ .error (.failure (.invalidArgument reason))
  silent : ∀ w : World, w.Utters Event.handing? [] (x.exec setting w).2

variable {setting : Setting} {x y : Act α} {f : α → Act β}

theorem Settles.bind (first : Settles setting x) (next : ∀ a, Settles setting (f a)) :
    Settles setting (x >>= f) := by
  constructor
  · intro w reason
    rw [exec_bind]
    split
    next a v ran => exact (next a).blameless v reason
    next fault v ran =>
      have blameless := first.blameless w reason
      rw [ran] at blameless
      exact fun same => blameless (congrArg Except.error (Except.error.inj same))
  · intro w
    have before := first.silent w
    rw [exec_bind]
    split
    next a v ran =>
      rw [ran] at before
      exact before.hush ((next a).silent v)
    next fault v ran => rwa [ran] at before

instance [first : Settles setting x] [next : ∀ a, Settles setting (f a)] :
    Settles setting (x >>= f) :=
  first.bind next

instance (a : α) : Settles setting (pure a : Act α) := ⟨nofun, .refl⟩

instance [Settles setting x] (g : α → β) : Settles setting (g <$> x) := by
  rw [← bind_pure_comp]
  infer_instance

instance (c : Prop) [Decidable c] [Settles setting x] [Settles setting y] :
    Settles setting (if c then x else y) := by
  split <;> infer_instance

instance (value : Option α) [each : ∀ a, Settles setting (f a)] :
    Settles setting (value.mapM f) := by
  cases value with
  | none => exact inferInstanceAs (Settles setting (pure none))
  | some a => exact inferInstanceAs (Settles setting (some <$> f a))

instance : Settles setting (read : Act Setting) := ⟨nofun, .refl⟩

instance : Settles setting (get : Act World) := ⟨nofun, .refl⟩

instance : Settles setting Act.engine := ⟨nofun, .refl⟩

instance (unit : Resource) : Settles setting (table unit) := ⟨nofun, .refl⟩

instance (told : EngineText) : Settles setting (text told) := by
  refine ⟨nofun, fun w => .talk (textLife w.texts told) rfl fun event member => ?_⟩
  simp only [textLife, List.mem_cons, List.not_mem_nil, or_false] at member
  rcases member with rfl | rfl | rfl <;> rfl

instance (failure : Failure) [blameless : Blameless failure] :
    Settles setting (fail failure : Act α) := by
  refine ⟨fun w reason same => ?_, .refl⟩
  exact blameless.other reason (Fault.failure.inj (Except.error.inj same))

/-- A change of the store that notes nothing. -/
theorem Settles.updateGet {change : World → World × α} (trace : ∀ w, (change w).1.trace = w.trace) :
    Settles setting (Act.updateGet change) :=
  ⟨nofun, fun w => .talk [] (trace w) nofun⟩

theorem Settles.update {change : World → World} (trace : ∀ w, (change w).trace = w.trace) :
    Settles setting (Act.update change) :=
  ⟨nofun, fun w => .talk [] (trace w) nofun⟩

instance (kind : ResourceKind) (label : Nat) : Settles setting (acquire kind label) :=
  ⟨nofun, fun _ => .talk [.acquired _] rfl (List.forall_mem_singleton.2 rfl)⟩

instance (resource : Resource) : Settles setting (dispose resource) :=
  ⟨nofun, fun _ => .talk [.disposed resource] rfl (List.forall_mem_singleton.2 rfl)⟩

instance [Holder α] (value : α) : Settles setting (keep value) := by
  refine ⟨nofun, fun w => .talk [] ?_ nofun⟩
  rw [keep, exec_bind_ok (exec_update _), World.retainAll_eq]
  rfl

instance (resource : Option Resource) (content : Content) :
    Settles setting (newCell resource content) := by
  have (content : Content) : Settles setting (Act.updateGet (·.alloc resource content)) :=
    .updateGet fun _ => rfl
  unfold newCell; infer_instance

/-- Questions for places hand nothing over. -/
theorem Settles.ask {question : Question} {operands : List Resource} {memo : Option CellId}
    (silent : (Event.asked question operands memo).handing? = none) :
    Settles setting (Act.ask question operands memo) :=
  ⟨fun w _ => ask_ne_failure question operands memo w _, utters_ask silent⟩

/-- Whether an action hands one thing over, once, and blames no name. -/
structure Passes (setting : Setting) (w : World) (x : Act α) (event : Event) : Prop where
  blameless : ∀ reason, (x.exec setting w).1 ≠ .error (.failure (.invalidArgument reason))
  heard : w.Utters Event.handing? [event] (x.exec setting w).2

namespace Passes

variable {w v : World} {event : Event}

/-- What is handed over crosses at once, and what comes then settles the matter. -/
theorem cross {x : Act α} {a : α} (ran : x.exec setting w = (.ok a, w.note event))
    (hands : event.handing? = some event) (settles : ∀ a, Settles setting (f a)) :
    Passes setting w (x >>= f) event := by
  constructor
  · rw [exec_bind_ok ran]
    exact (settles a).blameless _
  · rw [exec_bind_ok ran]
    exact (World.Utters.note hands w).hush ((settles a).silent _)

/-- Something else may come before. -/
theorem after {x : Act α} {a : α} (ran : x.exec setting w = (.ok a, v))
    (silent : w.Utters Event.handing? [] v) (rest : Passes setting v (f a) event) :
    Passes setting w (x >>= f) event := by
  constructor
  · rw [exec_bind_ok ran]
    exact rest.blameless
  · rw [exec_bind_ok ran]
    simpa using silent.trans rest.heard

end Passes

/-- Whether an action looks at some names before it hands something over. -/
def Looks (setting : Setting) (w : World) (x : Act α) (names : List Bytes) (event : Event) : Prop :=
  match firstNul? names with
  | some position =>
    x.exec setting w = (.error (.failure (.nulAt position)), { w with loaded := true })
  | none => Passes setting w x event

theorem Looks.check {w : World} {names : List Bytes} {f : Unit → Act β} {event : Event}
    (loaded : w.loaded = true) (rest : Passes setting w (f ()) event) :
    Looks setting w (checkTexts names >>= f) names event := by
  unfold Looks checkTexts
  cases firstNul? names with
  | some position =>
      cases w
      cases loaded
      exact exec_bind_error rfl
  | none => exact rest

theorem Looks.congr {w : World} {x y : Act α} {names : List Bytes} {event : Event}
    (same : x.exec setting w = y.exec setting w) (looks : Looks setting w y names event) :
    Looks setting w x names event := by
  unfold Looks at looks ⊢
  split at looks
  next => exact same.trans looks
  next => exact ⟨by rw [same]; exact looks.blameless, by rw [same]; exact looks.heard⟩

theorem firstNul?_singleton (name : Bytes) : firstNul? [name] = name.nulPosition? := by
  rw [firstNul?, List.findSome?_cons]
  cases name.nulPosition? <;> rfl

end Act

/-! ## What the operations hand over -/

variable {setting : Setting} {w : World}

namespace SourceUnit

variable (unit : SourceUnit)

/-- A status is no matter of names. -/
theorem settles_checkStatus (operation : String) (status : Int32) {problem? : Int → Option Failure}
    (others : ∀ code failure, problem? code = some failure → Blameless failure) :
    Settles setting (checkStatus operation status problem?) := by
  unfold checkStatus
  have : Blameless ((problem? status.toInt).getD
      (.unrecognizedCode operation status.toInt)) := by
    cases found : problem? status.toInt with
    | none => exact ⟨nofun⟩
    | some failure => exact others _ _ found
  infer_instance

instance (entry : UnitEntry) : Settles setting (checkStatus "reparse" entry.reparseStatus
    fun code => (LoadProblem.ofCode? code).map .reparse) := by
  refine settles_checkStatus _ _ fun code failure found => ?_
  obtain ⟨problem, -, rfl⟩ := Option.map_eq_some_iff.1 found
  exact ⟨nofun⟩

instance (entry : UnitEntry) : Settles setting (checkStatus "save" entry.saveStatus
    fun code => (SaveProblem.ofCode? code).map .save) := by
  refine settles_checkStatus _ _ fun code failure found => ?_
  obtain ⟨problem, -, rfl⟩ := Option.map_eq_some_iff.1 found
  exact ⟨nofun⟩

theorem looks_reparse (loaded : w.loaded = true) (unsaved : List UnsavedFile)
    (options : Option UInt32) (alone : ¬ 1 < w.count unit.cell) :
    Looks setting w (unit.reparse unsaved options) (unsaved.map (·.path))
      ((Handover.reparse unit unsaved options).event setting.engine w) := by
  have (table : Option Nat) : Settles setting (update (·.retable unit.resource table)) :=
    .update fun w => by cases table <;> rfl
  -- a unit that nothing else refers to passes the guard
  have passed : (unit.reparse unsaved options).exec setting w =
      (unit.askReparse unsaved options >>= fun entry =>
        update (·.retable unit.resource entry.reparseBecomes)).exec setting w := by
    rw [reparse_eq, exec_bind_ok exec_get, if_neg alone]
  refine .congr passed ?_
  unfold askReparse
  simp only [bind_assoc, pure_bind]
  refine .check loaded (.after (show unit.entry.exec setting w = _ from rfl) (.refl w) ?_)
  cases options with
  | some options =>
      refine .after (exec_pure options) (.refl w) ?_
      exact .cross (exec_request _ loaded) rfl fun _ => inferInstance
  | none =>
      have asked (entry : UnitEntry) : (unit.reparseBits entry none).exec setting w =
          (.ok entry.reparseOptions, w.note (.asked .reparseOptions [unit.resource] none)) :=
        exec_bind_ok (exec_ask _ _ _ loaded)
      refine .after (asked _) (.talk [.asked .reparseOptions [unit.resource] none] rfl
        (List.forall_mem_singleton.2 rfl)) ?_
      exact .cross (exec_request _ loaded) rfl fun _ => inferInstance

theorem looks_save (loaded : w.loaded = true) (path : Bytes) :
    Looks setting w (unit.save path) [path] ((Handover.save unit path).event setting.engine w) := by
  refine .check loaded ?_
  refine .after (show unit.entry.exec setting w = _ from rfl) (.refl w) ?_
  refine .after (exec_ask _ _ _ loaded)
    (.talk [.asked .saveOptions [unit.resource] none] rfl (List.forall_mem_singleton.2 rfl)) ?_
  exact .cross (exec_request _ loaded) rfl fun _ => inferInstance

theorem looks_complete (loaded : w.loaded = true) (path : Bytes) (line column : UInt32)
    (unsaved : List UnsavedFile) (options : CompleteOptions) :
    Looks setting w (unit.complete path line column unsaved options)
      (path :: unsaved.map (·.path))
      ((Handover.complete unit path line column unsaved options).event setting.engine w) := by
  refine .check loaded (.cross (exec_request _ loaded) rfl fun _ => .bind inferInstance fun engine => ?_)
  split <;> infer_instance

theorem looks_fileHandle? (loaded : w.loaded = true) (name : Bytes)
    {f : Option SourceFile → Act β} [∀ file, Settles setting (f file)] :
    Looks setting w (unit.fileHandle? name >>= f) [name]
      (.requested (.getFile unit.resource name)) := by
  unfold fileHandle?
  simp only [bind_assoc]
  exact .check loaded (.cross (exec_request _ loaded) rfl fun _ => inferInstance)

instance (file : SourceFile) (position : FilePosition) : Settles setting (file.place position) := by
  cases position with
  | offset offset =>
      have : Settles setting (ask (.placeAtOffset offset) [file.unit.resource, file.raw.origin]) :=
        .ask rfl
      unfold SourceFile.place; infer_instance
  | lineColumn line column =>
      have : Settles setting (ask (.placeAt line column) [file.unit.resource, file.raw.origin]) :=
        .ask rfl
      unfold SourceFile.place; infer_instance

instance (file : SourceFile) (position : FilePosition) :
    Settles setting (file.location position) := by
  unfold SourceFile.location; infer_instance

end SourceUnit

instance (unit : SourceUnit) : Settles setting unit.spelling := by
  have (name : String) : Settles setting (update (·.setUnitSpelling unit.cell name)) :=
    .update fun w => by
      unfold World.setUnitSpelling
      split <;> rfl
  have : Settles setting (ask .unitSpelling [unit.resource] unit.cell) := .ask rfl
  unfold SourceUnit.spelling
  refine .bind inferInstance fun _ => .bind inferInstance fun _ => ?_
  split <;> infer_instance

instance (start stop : SourceLocation) : Settles setting (SourceRange.ofLocations start stop) := by
  have : Settles setting (ask .makeSpan [start.raw.origin, stop.raw.origin]) := .ask rfl
  have (found : String) : Blameless (.precondition "from_locations"
      "two locations from the same translation unit" found) := ⟨nofun⟩
  unfold SourceRange.ofLocations; infer_instance

instance (index : Index) (source : SourceEntry) (name : String) :
    Settles setting (index.adopt source name) := by
  have (table : Nat) : Settles setting (Act.updateGet fun w =>
      ({ w with instances := w.instances.push table }, w.instances.size)) := .updateGet fun _ => rfl
  have (problem : Option LoadProblem) : Blameless (.unitLoad name problem) := ⟨nofun⟩
  unfold Index.adopt
  cases source.unit <;> infer_instance

namespace Index

variable (index : Index)

theorem looks_parse (loaded : w.loaded = true) (path : Option Bytes) (args : List String)
    (unsaved : List UnsavedFile) (options : ParseOptions) :
    Looks setting w (index.parse path args unsaved options)
      (path.toList ++ args.map Utf8.encode ++ unsaved.map (·.path))
      (.requested (.parse index.resource path (args.map Utf8.encode) unsaved options.bits)) :=
  .check loaded (.cross (exec_request _ loaded) rfl fun _ =>
    .bind inferInstance fun _ => inferInstance)

theorem looks_read (loaded : w.loaded = true) (path : Bytes) :
    Looks setting w (index.read path) [path] (.requested (.read index.resource path)) :=
  .check loaded (.cross (exec_request _ loaded) rfl fun _ =>
    .bind inferInstance fun _ => inferInstance)

end Index

namespace Database

instance (held : Database) (commands : Option CommandEntries) :
    Settles setting (held.listOf? commands) := by
  have : Settles setting
      (Act.updateGet fun w => ({ w with commandLists := w.commandLists + 1 }, w.commandLists)) :=
    .updateGet fun _ => rfl
  unfold listOf?
  cases commands <;> infer_instance

theorem looks_commandsFor (held : Database) (loaded : w.loaded = true) (file : Bytes) :
    Looks setting w (held.commandsFor file) [file]
      (.requested (.findCommands held.resource file)) := by
  unfold Looks
  rw [firstNul?_singleton]
  unfold commandsFor
  cases file.nulPosition? with
  | some position =>
      cases w
      cases loaded
      rfl
  | none => exact .cross (exec_request _ loaded) rfl fun _ => inferInstance

theorem looks_openIn (w : World) (directory : Bytes) :
    Looks setting w (openIn directory) [directory] (.requested (.openDatabase directory)) := by
  unfold Looks
  rw [firstNul?_singleton]
  unfold openIn
  cases directory.nulPosition? with
  | some position => rfl
  | none =>
      have (problem : DatabaseProblem) (name : String) : Blameless (.database problem name) :=
        ⟨nofun⟩
      refine .after (exec_update _) (.still rfl) (.cross (exec_request _ rfl) rfl fun _ => ?_)
      refine .bind inferInstance fun engine => ?_
      dsimp only
      split <;> infer_instance

end Database

theorem SourceType.looks_offsetOf (type : SourceType) (loaded : w.loaded = true) (field : String) :
    Looks setting w (type.offsetOf field) [Utf8.encode field]
      (.asked (.offsetOf (Utf8.encode field)) [type.raw.origin] none) := by
  have (offset : Int) : Settles setting (ofExcept (layoutResult "offset_of" offset)) := by
    have (problem : LayoutProblem) : Blameless (.layout problem) := ⟨nofun⟩
    have (code : Int) : Blameless (.unrecognizedCode "offset_of" code) := ⟨nofun⟩
    unfold layoutResult
    split
    · exact inferInstanceAs (Settles setting (pure _))
    · split <;> exact inferInstanceAs (Settles setting (fail _))
  unfold Looks
  rw [firstNul?_singleton]
  unfold offsetOf
  dsimp only
  cases (Utf8.encode field).nulPosition? with
  | some position =>
      cases w
      cases loaded
      rfl
  | none => exact .cross (Raw.exec_ask _ _ _ _ loaded) rfl fun _ => inferInstance

namespace Handover

/-- An operation that is not turned away looks at its names, and hands over what it was given. -/
theorem looks (op : Handover) (ready : op.Ready w) (admitted : ¬ op.Barred w) :
    Looks setting w op.act op.names (op.event setting.engine w) := by
  cases op with
  | parse index path args unsaved options =>
      have names : (parse index path args unsaved options).names =
          path.toList ++ args.map Utf8.encode ++ unsaved.map (·.path) := by
        simp only [Handover.names, given, List.map_map]
        rfl
      rw [names]
      exact index.looks_parse ready path args unsaved options
  | read index path => exact index.looks_read ready path
  | reparse unit unsaved options =>
      have names : (reparse unit unsaved options).names = unsaved.map (·.path) := by
        simp only [Handover.names, given, List.map_map]
        rfl
      rw [names]
      exact unit.looks_reparse ready unsaved options admitted
  | save unit path => exact unit.looks_save ready path
  | complete unit path line column unsaved options =>
      have names : (complete unit path line column unsaved options).names =
          path :: unsaved.map (·.path) := by
        simp only [Handover.names, given, List.map_map]
        rfl
      rw [names]
      exact unit.looks_complete ready path line column unsaved options
  | file unit name => exact unit.looks_fileHandle? ready name
  | location unit name position => exact unit.looks_fileHandle? ready name
  | extent unit name start stop => exact unit.looks_fileHandle? ready name
  | commands held name => exact held.looks_commandsFor ready name
  | database directory => exact Database.looks_openIn w directory
  | offsetOf type field => exact type.looks_offsetOf ready field

theorem exec_barred (setting : Setting) (op : Handover) (barred : op.Barred w) :
    ∃ found, op.act.exec setting w = (.error (.failure (.precondition "reparse"
      "no other live references to the translation unit" found)), w) := by
  cases op with
  | reparse unit unsaved options =>
      have shared : 1 < w.count unit.cell := barred
      exact ⟨_, by rw [act, SourceUnit.exec_reparse, if_pos shared]⟩
  | _ => exact barred.elim

end Handover

end SourceAtlas
