import SourceAtlas.Proofs.ParseRequests
import SourceAtlas.Proofs.Reparse

/-!
# Handles and statuses

Five calls make something of a handle that the engine gives, and two more change or write a unit. The
engine reports with a handle that may be null, with a status of 32 bits, or with both, and it may well
report a problem beside a handle, or success without one. What comes of each call is decided here for
every such report.
-/

namespace SourceAtlas

open Act

/-! ## Codes -/

/-- The status that stands for a problem. -/
def LoadProblem.code : LoadProblem → Int
  | .failure => 1
  | .crashed => 2
  | .invalidArguments => 3
  | .astRead => 4

/-- The status that stands for a problem. -/
def SaveProblem.code : SaveProblem → Int
  | .unknown => 1
  | .sourceErrors => 2
  | .invalidUnit => 3

/-- Whether a reader of codes knows the code of each problem, and no other. -/
def Decodes (read : Int → Option P) (code : P → Int) : Prop :=
  ∀ n p, read n = some p ↔ n = code p

theorem Decodes.intro {read : Int → Option P} {code : P → Int} (encoded : ∀ p, read (code p) = some p)
    (decoded : ∀ n p, read n = some p → n = code p) : Decodes read code :=
  fun n p => ⟨decoded n p, fun same => same ▸ encoded p⟩

theorem LoadProblem.decodes : Decodes ofCode? code := by
  refine .intro (fun p => by cases p <;> rfl) fun n p known => ?_
  unfold ofCode? at known
  split at known <;> cases known <;> rfl

theorem SaveProblem.decodes : Decodes ofCode? code := by
  refine .intro (fun p => by cases p <;> rfl) fun n p known => ?_
  unfold ofCode? at known
  split at known <;> cases known <;> rfl

/-- The failure that a code stands for: a problem that is known by it, or else the bare number and the
operation that gave it. -/
inductive Failure.Reports (operation : String) (code : P → Int) (known : P → Failure) (n : Int) :
    Failure → Prop
  | known (p : P) : n = code p → Reports operation code known n (known p)
  | unknown : (∀ p, n ≠ code p) → Reports operation code known n (.unrecognizedCode operation n)

/-- What is read from a code, or else the number, is the failure that the code stands for. -/
theorem Failure.Reports.of_decodes {read : Int → Option P} {code : P → Int}
    (decodes : Decodes read code) (operation : String) (known : P → Failure) (n : Int) :
    Reports operation code known n
      (((read n).map known).getD (.unrecognizedCode operation n)) := by
  cases found : read n with
  | some p => exact .known p ((decodes n p).1 found)
  | none =>
      refine .unknown fun p same => ?_
      rw [(decodes n p).2 same] at found
      exact nomatch found

/-! ## Taking a handle over -/

/-- The event itself, if a handle is handed out or given back. -/
def Event.turnover? : Event → Option Event
  | .acquired r => some (.acquired r)
  | .disposed r => some (.disposed r)
  | _ => none

/-- Whether a cell has been made that owns a handle which the engine has just handed out. No other
handle has passed, and every other cell owns what it owned. -/
structure World.Gains (w v : World) (cell : CellId) (r : Resource) : Prop where
  new : cell = w.cells.size
  serial : r.serial = w.acquired
  owns : v.resourceAt cell = some r
  others : ∀ other, other ≠ cell → v.resourceAt other = w.resourceAt other
  passed : w.Utters Event.turnover? [.acquired r] v
  live : v.live = w.live.modify r.kind (· + 1)

theorem World.instances_retainAll (w : World) (cells : CellRefs) :
    (w.retainAll cells).instances = w.instances := by
  rw [retainAll_eq]

/-- A handle that is taken over is owned by a new cell. What was done before is to have changed
neither the cells nor the handles. -/
theorem World.Gains.take {w u : World} (kind : ResourceKind) (label : Nat) (content : Content)
    (cells : u.cells = w.cells) (acquired : u.acquired = w.acquired) (live : u.live = w.live)
    (quiet : w.Utters Event.turnover? [] u) :
    let r : Resource := ⟨kind, u.acquired, label⟩
    let kept := (u.acquire kind label).1.retainAll (refs content)
    w.Gains (kept.alloc (some r) content).1 kept.cells.size r := by
  intro r kept
  have size : kept.cells.size = w.cells.size := by
    rw [size_retainAll]
    exact congrArg Array.size cells
  have owned (other : CellId) : kept.resourceAt other = w.resourceAt other := by
    rw [resourceAt_retainAll]
    show (u.find? other).bind _ = (w.find? other).bind _
    rw [find?_congr cells]
  -- to take references leaves all but the counts of cells as it is
  have same : kept = { (u.acquire kind label).1 with cells := kept.cells } := retainAll_eq _ _
  refine ⟨size, acquired, ?_, fun other different => ?_, ?_, ?_⟩
  · rw [resourceAt_alloc, if_pos rfl]
  · rw [resourceAt_alloc, if_neg different, owned]
  · have taken : u.Utters Event.turnover? [.acquired r] (kept.alloc (some r) content).1 :=
      .of_events [.acquired r] (congrArg World.trace same) rfl
    exact quiet.trans taken
  · have counted : kept.live = u.live.modify kind (· + 1) := congrArg World.live same
    show kept.live = _
    rw [counted, live]

/-! ## The calls -/

/-- Whether a call succeeds just under a condition. Otherwise it ends with a failure, never with a
panic, and no handle is left of it. -/
def Act.Decided (setting : Setting) (w : World) (call : Act α) (accepted : Prop)
    (made : α → World → Prop) (refused : Failure → Prop) : Prop :=
  ∃ outcome v, call.exec setting w = (outcome, v) ∧
    (accepted → ∃ a, outcome = .ok a ∧ made a v) ∧
    (¬ accepted → ∃ failure, outcome = .error (.failure failure) ∧ refused failure ∧
      v.live = w.live)

variable {setting : Setting} {w : World}

/-- What a call asks for before it is decided does not matter. -/
theorem Act.Decided.after {x : Act β} {call : β → Act α} {b : β} {u : World} {accepted : Prop}
    {made made' : α → World → Prop} {refused : Failure → Prop}
    (ran : x.exec setting w = (.ok b, u)) (live : u.live = w.live)
    (same : ∀ a v, made a v → made' a v)
    (decided : (call b).Decided setting u accepted made refused) :
    (x >>= call).Decided setting w accepted made' refused := by
  obtain ⟨outcome, v, ran', success, failed⟩ := decided
  refine ⟨outcome, v, (exec_bind_ok ran).trans ran', fun holds => ?_, fun fails => ?_⟩
  · obtain ⟨a, gives, made⟩ := success holds
    exact ⟨a, gives, same a v made⟩
  · obtain ⟨failure, gives, refused, back⟩ := failed fails
    exact ⟨failure, gives, refused, back.trans live⟩

/-- What the engine answers when it is to open the database in a directory: a handle, unless it is
null, and a status. -/
def Engine.opening (engine : Engine) (directory : Bytes) : Option (Nat × DatabaseEntry) × Int32 :=
  match engine.database directory with
  | some (label, entry) => (if entry.hasHandle then some (label, entry) else none, entry.status)
  | none => (none, 1)

/-- A handle that is given back at once leaves the counts of handles as they were. -/
theorem World.live_refuse (w : World) (kind : ResourceKind) (label : Nat) :
    ((w.acquire kind label).1.dispose (w.acquire kind label).2).live = w.live := by
  show (w.live.modify kind (· + 1)).modify kind (· - 1) = w.live
  cases kind <;> rfl

/-- The failure for a source that is not taken over: it names the source, and carries the problem that
has the status for its code, if there is one. -/
def SourceEntry.Refuses (source : SourceEntry) (name : String) (failure : Failure) : Prop :=
  ∃ problem?, failure = .unitLoad name problem? ∧
    ∀ p : LoadProblem, problem? = some p ↔ source.status.toInt = p.code

namespace Index

/-- An index is made unless its handle is null. -/
theorem create_decided (config : IndexConfig) :
    (create config).Decided setting w (setting.engine.tables.createsIndexes = true)
      (fun index v => index.config = config ∧ index.resource.kind = .index ∧
        index.resource.label = w.indexes ∧ w.Gains v index.cell index.resource)
      (· = .libraryLoad "engine refused to create an index") := by
  have began : load.exec setting w = (.ok (), { w with loaded := true }) := rfl
  unfold Decided create
  rw [exec_bind_ok began, exec_bind_ok (exec_request _ rfl), exec_bind_ok exec_engine]
  by_cases creates : setting.engine.tables.createsIndexes = true
  · rw [if_pos creates]
    refine ⟨_, _, rfl, fun _ => ⟨_, rfl, rfl, rfl, rfl, ?_⟩, fun null => absurd creates null⟩
    exact .take .index w.indexes .index rfl rfl rfl
      (.talk [.requested (.createIndex config)] rfl (by simp [Event.turnover?]))
  · rw [if_neg creates]
    exact ⟨_, _, rfl, fun given => absurd given creates, fun _ => ⟨_, rfl, rfl, rfl⟩⟩

/-- Whether a unit of the index has been made of the handle of a source. -/
def Makes (index : Index) (source : SourceEntry) (w : World) (unit : SourceUnit) (v : World) :
    Prop :=
  unit.index = index ∧ unit.resource.kind = .unit ∧
    source.unit = some (v.table unit.resource) ∧ w.Gains v unit.cell unit.resource

/-- What parsing or reading a source gave is taken over if there is a handle and the status is zero.
Any other status is one of four problems, or there is none to tell. -/
theorem adopt_decided (index : Index) (source : SourceEntry) (name : String) :
    (index.adopt source name).Decided setting w (source.unit.isSome ∧ source.status = 0)
      (index.Makes source w) (source.Refuses name) := by
  unfold Decided adopt
  cases handle : source.unit with
  | none =>
      refine ⟨_, _, rfl, fun accepted => ?_, fun _ => ⟨_, rfl, ⟨_, rfl, ?_⟩, rfl⟩⟩
      · exact nomatch accepted.1
      · exact LoadProblem.decodes _
  | some table =>
      by_cases sound : source.status = 0
      · have zero : (source.status == 0) = true := beq_iff_eq.2 sound
        simp only [zero]
        refine ⟨_, _, rfl, fun _ => ⟨_, rfl, rfl, rfl, ?_, ?_⟩, fun refused => ?_⟩
        · refine handle.trans (congrArg some ?_)
          show table = ((World.retainAll _ _).instances[w.instances.size]?).getD 0
          rw [World.instances_retainAll]
          simp [World.acquire, World.note]
        · exact .take .unit w.instances.size (.unit index none) rfl rfl rfl (.still rfl)
        · exact absurd ⟨rfl, sound⟩ refused
      · have other : (source.status == 0) = false := beq_eq_false_iff_ne.2 sound
        simp only [other]
        refine ⟨_, _, rfl, fun accepted => absurd accepted.2 sound,
          fun _ => ⟨_, rfl, ⟨_, rfl, ?_⟩, ?_⟩⟩
        · exact LoadProblem.decodes _
        · exact World.live_refuse ..

theorem Makes.of_note {index : Index} {source : SourceEntry} {request : Request} (unit : SourceUnit)
    (v : World) (makes : index.Makes source (w.note (.requested request)) unit v) :
    index.Makes source w unit v := by
  obtain ⟨same, kind, table, gains⟩ := makes
  have quiet : w.Utters Event.turnover? [] (w.note (.requested request)) :=
    .talk [.requested request] rfl (by simp [Event.turnover?])
  exact ⟨same, kind, table,
    { gains with passed := quiet.trans gains.passed }⟩

/-- A source is asked for, and what comes of it is taken over or refused. -/
theorem adopt_decided_after (index : Index) (made : Request) (find : Engine → SourceEntry)
    (name : String) (loaded : w.loaded = true) :
    let source := find setting.engine
    (do
      request made
      let source := find (← engine)
      index.adopt source name).Decided setting w (source.unit.isSome ∧ source.status = 0)
        (index.Makes source w) (source.Refuses name) := by
  intro source
  have adopted : (do
      let source := find (← engine)
      index.adopt source name).Decided setting (w.note (.requested made))
        (source.unit.isSome ∧ source.status = 0) (index.Makes source (w.note (.requested made)))
        (source.Refuses name) :=
    .after exec_engine rfl (fun _ _ => id) (adopt_decided index source name)
  exact .after (exec_request made loaded) rfl Makes.of_note adopted

theorem parse_decided (index : Index) (path : Option Bytes) {args : List String}
    {unsaved : List UnsavedFile} (options : ParseOptions) (loaded : w.loaded = true)
    (sound : ∀ name ∈ path.toList ++ args.map Utf8.encode ++ unsaved.map (·.path), 0 ∉ name) :
    let source := setting.engine.source path
    (index.parse path args unsaved options).Decided setting w
      (source.unit.isSome ∧ source.status = 0) (index.Makes source w)
      (source.Refuses (path.elim "<command line>" Utf8.decodeLossy)) :=
  .after (exec_checkTexts sound w) rfl (fun _ _ => id)
    (index.adopt_decided_after _ (·.source path) _ loaded)

theorem read_decided (index : Index) {path : Bytes} (loaded : w.loaded = true) (sound : 0 ∉ path) :
    let source := setting.engine.source (some path)
    (index.read path).Decided setting w (source.unit.isSome ∧ source.status = 0)
      (index.Makes source w) (source.Refuses (Utf8.decodeLossy path)) :=
  .after (exec_checkTexts (List.forall_mem_singleton.2 sound) w) rfl (fun _ _ => id)
    (index.adopt_decided_after _ (·.source (some path)) _ loaded)

end Index

/-- Zero means no problem, and is read as an unknown one. -/
theorem DatabaseProblem.ofCode?_getD (status : Int32) :
    let problem := (ofCode? status.toInt).getD .unknown
    (problem = .cannotLoad ↔ status = 1) ∧ (problem = .unknown ↔ status ≠ 1) := by
  intro problem
  by_cases one : status = 1
  · subst one
    have known : problem = .cannotLoad := rfl
    simp [known]
  · have differs : status.toInt ≠ 1 := fun same => one (Int32.toInt_inj.1 same)
    have unknown : problem = .unknown := by
      show (ofCode? status.toInt).getD .unknown = .unknown
      unfold ofCode?
      split
      next => rfl
      next same => exact absurd same differs
      next => rfl
    simp [unknown, one]

namespace Database

/-- Whether a database has been opened with the handle that the engine answered. -/
def Opens (answer : Option (Nat × DatabaseEntry) × Int32) (w : World) (database : Database)
    (v : World) : Prop :=
  answer.1 = some (database.resource.label, database.entry) ∧ database.resource.kind = .database ∧
    w.Gains v database.cell database.resource

/-- The failure for a database that is not opened: it names the directory, and only the status of one
is known for a problem. -/
def Refuses (directory : Bytes) (status : Int32) (failure : Failure) : Prop :=
  ∃ problem, failure = .database problem (Utf8.decodeLossy directory) ∧
    (problem = .cannotLoad ↔ status = 1) ∧ (problem = .unknown ↔ status ≠ 1)

/-- A database is opened if there is a handle and the status is zero. Any other status but one is an
unknown problem, and so is a null handle beside success. -/
theorem open_decided {directory : Bytes} (sound : 0 ∉ directory) :
    let answer := setting.engine.opening directory
    (openIn directory).Decided setting w (answer.1.isSome ∧ answer.2 = 0)
      (Opens answer w) (Refuses directory answer.2) := by
  intro answer
  have named : directory.nulPosition? = none := Bytes.nulPosition?_eq_none.2 sound
  have began : load.exec setting w = (.ok (), { w with loaded := true }) := rfl
  unfold Decided openIn
  rw [exec_bind_ok began, named]
  dsimp only
  rw [exec_bind_ok (exec_request _ rfl), exec_bind_ok exec_engine]
  have asked : w.Utters Event.turnover? []
      (({ w with loaded := true } : World).note (.requested (.openDatabase directory))) :=
    .talk [.requested (.openDatabase directory)] rfl (by simp [Event.turnover?])
  cases found : setting.engine.database directory with
  | none =>
      have null : answer = (none, 1) := by simp [answer, Engine.opening, found]
      rw [null]
      refine ⟨_, _, rfl, ?_, fun _ => ⟨_, rfl, ⟨_, rfl, DatabaseProblem.ofCode?_getD 1⟩, rfl⟩⟩
      rintro ⟨absent, -⟩
      exact nomatch absent
  | some pair =>
      obtain ⟨label, entry⟩ := pair
      have status : answer.2 = entry.status := by simp [answer, Engine.opening, found]
      have refused := DatabaseProblem.ofCode?_getD entry.status
      rw [← status] at refused
      by_cases given : entry.hasHandle = true
      · have handle : answer.1 = some (label, entry) := by
          simp [answer, Engine.opening, found, given]
        by_cases success : entry.status = 0
        · have zero : (entry.status == 0) = true := beq_iff_eq.2 success
          simp only [given, if_true, Option.elim_some, zero]
          refine ⟨_, _, rfl, fun _ => ⟨_, rfl, handle, rfl, ?_⟩, fun fails => ?_⟩
          · exact .take .database label .database rfl rfl rfl asked
          · exact absurd ⟨by simp [handle], status.trans success⟩ fails
        · have other : (entry.status == 0) = false := beq_eq_false_iff_ne.2 success
          simp only [given, if_true, Option.elim_some, other]
          refine ⟨_, _, rfl, fun accepted => absurd (status ▸ accepted.2) success,
            fun _ => ⟨_, rfl, ⟨_, rfl, status ▸ refused⟩, ?_⟩⟩
          exact World.live_refuse ..
      · have null : answer.1 = none := by simp [answer, Engine.opening, found, given]
        simp only [Bool.not_eq_true] at given
        simp only [given]
        refine ⟨_, _, rfl, fun accepted => ?_, fun _ => ⟨_, rfl, ⟨_, rfl, status ▸ refused⟩, rfl⟩⟩
        rw [null] at accepted
        exact nomatch accepted.1

end Database

/-- Whether candidates have been taken over, if the engine answered a handle. -/
def Completion.Gives (unit : SourceUnit) (answer : Option (Nat × CompletionEntry)) (w : World)
    (results? : Option Completion) (v : World) : Prop :=
  (results? = none ↔ answer = none) ∧ (results? = none → v.live = w.live) ∧
    ∀ results, results? = some results → answer = some (results.resource.label, results.entry) ∧
      results.unit = unit ∧ results.resource.kind = .completion ∧
        w.Gains v results.cell results.resource

namespace SourceUnit

/-- A unit is parsed again if the status is zero. -/
theorem reparse_decided (unit : SourceUnit) {unsaved : List UnsavedFile} (options : Option UInt32)
    (loaded : w.loaded = true) (single : ¬ 1 < w.count unit.cell)
    (sound : ∀ name ∈ unsaved.map (·.path), 0 ∉ name) :
    let status := (setting.engine.unit (w.table unit.resource)).reparseStatus
    (unit.reparse unsaved options).Decided setting w (status = 0) (fun _ v => v.live = w.live)
      (Failure.Reports "reparse" LoadProblem.code .reparse status.toInt) := by
  intro status
  have live : (options.elim (w.note (.asked .reparseOptions [unit.resource] none))
      fun _ => w).live = w.live := by
    cases options <;> rfl
  unfold Decided
  rw [exec_reparse, if_neg single, exec_askReparse _ _ _ _ loaded, firstNul?_eq_none.2 sound]
  dsimp only
  by_cases success : (setting.engine.unit (w.table unit.resource)).reparseStatus = 0
  · simp only [if_pos success]
    refine ⟨_, _, rfl, fun _ => ⟨(), rfl, ?_⟩, fun refused => absurd success refused⟩
    cases (setting.engine.unit (w.table unit.resource)).reparseBecomes <;> exact live
  · simp only [if_neg success]
    refine ⟨_, _, rfl, fun zero => absurd zero success, fun _ => ⟨_, rfl, ?_, live⟩⟩
    exact .of_decodes LoadProblem.decodes ..

/-- A unit is written to a file if the status is zero. -/
theorem save_decided (unit : SourceUnit) {path : Bytes} (loaded : w.loaded = true)
    (sound : 0 ∉ path) :
    let status := (setting.engine.unit (w.table unit.resource)).saveStatus
    (unit.save path).Decided setting w (status = 0) (fun _ v => v.live = w.live)
      (Failure.Reports "save" SaveProblem.code .save status.toInt) := by
  intro status
  refine Decided.after (exec_checkTexts (List.forall_mem_singleton.2 sound) w) rfl (fun _ _ => id) ?_
  have entry : unit.entry.exec setting w =
    (.ok (setting.engine.unit (w.table unit.resource)), w) := rfl
  refine Decided.after entry rfl (fun _ _ => id) ?_
  refine Decided.after (exec_ask _ _ _ loaded) rfl (fun _ _ => id) ?_
  refine Decided.after (exec_request _ loaded) rfl (fun _ _ => id) ?_
  unfold Decided
  rw [exec_checkStatus]
  by_cases success : status = 0
  · rw [if_pos success]
    exact ⟨_, _, rfl, fun _ => ⟨(), rfl, rfl⟩, fun refused => absurd success refused⟩
  · rw [if_neg success]
    refine ⟨_, _, rfl, fun zero => absurd zero success, fun _ => ⟨_, rfl, ?_, rfl⟩⟩
    exact .of_decodes SaveProblem.decodes ..

/-- There are candidates unless their handle is null. To have none is no failure. -/
theorem complete_decided (unit : SourceUnit) {path : Bytes} (line column : UInt32)
    {unsaved : List UnsavedFile} (options : CompleteOptions) (loaded : w.loaded = true)
    (sound : ∀ name ∈ path :: unsaved.map (·.path), 0 ∉ name) :
    let answer := setting.engine.completionAt path line column
    (unit.complete path line column unsaved options).Decided setting w True
      (Completion.Gives unit answer w) (fun _ => False) := by
  intro answer
  unfold Decided complete
  rw [exec_bind_ok (exec_checkTexts sound w), exec_bind_ok (exec_request _ loaded),
    exec_bind_ok exec_engine]
  cases found : setting.engine.completionAt path line column with
  | none =>
      refine ⟨_, _, rfl, fun _ => ⟨_, rfl, ?_, fun _ => rfl, fun _ absent => nomatch absent⟩,
        fun refused => absurd trivial refused⟩
      exact ⟨fun _ => found, fun _ => rfl⟩
  | some pair =>
      obtain ⟨label, entry⟩ := pair
      refine ⟨_, _, rfl, fun _ => ⟨_, rfl, ⟨nofun, ?_⟩, nofun, ?_⟩,
        fun refused => absurd trivial refused⟩
      · exact fun absent => nomatch found.symm.trans absent
      · rintro _ ⟨⟩
        refine ⟨found, rfl, rfl, ?_⟩
        exact .take .completion label (.completion unit) rfl rfl rfl
          (.talk [.requested (.complete unit.resource path line column unsaved options.bits)] rfl
            (by simp [Event.turnover?]))

end SourceUnit

/-- What comes of the calls that make something and of those that change or write a unit, for every
handle and every status of 32 bits that the engine may report, names without NUL given. A unit is made
if there is a handle and the status is zero; otherwise the failure names the source, and tells a problem
for four statuses only. A database is opened if there is a handle and the status is zero; otherwise only
the status of one is a problem that is known. To parse a unit again and to write it succeed with the
status zero; otherwise the failure is the problem that the status stands for, or carries the number. An
index fails on a null handle, and a completion has no results then, which is no failure. What has been
made owns the handle in a cell of its own, and there is one more handle of its kind. -/
theorem every_status_decided (setting : Setting) (w : World) :
    (∀ config, (Index.create config).Decided setting w
      (setting.engine.tables.createsIndexes = true)
      (fun index v => index.config = config ∧ index.resource.kind = .index ∧
        index.resource.label = w.indexes ∧ w.Gains v index.cell index.resource)
      (· = .libraryLoad "engine refused to create an index")) ∧
    (∀ directory, 0 ∉ directory →
      let answer := setting.engine.opening directory
      (Database.openIn directory).Decided setting w (answer.1.isSome ∧ answer.2 = 0)
        (Database.Opens answer w) (Database.Refuses directory answer.2)) ∧
    (w.loaded = true →
      (∀ (index : Index) path args unsaved options,
        (∀ name ∈ path.toList ++ args.map Utf8.encode ++ unsaved.map (·.path), 0 ∉ name) →
        let source := setting.engine.source path
        (index.parse path args unsaved options).Decided setting w
          (source.unit.isSome ∧ source.status = 0) (index.Makes source w)
          (source.Refuses (path.elim "<command line>" Utf8.decodeLossy))) ∧
      (∀ (index : Index) path, 0 ∉ path →
        let source := setting.engine.source (some path)
        (index.read path).Decided setting w (source.unit.isSome ∧ source.status = 0)
          (index.Makes source w) (source.Refuses (Utf8.decodeLossy path))) ∧
      (∀ (unit : SourceUnit) unsaved options, ¬ 1 < w.count unit.cell →
        (∀ name ∈ unsaved.map (·.path), 0 ∉ name) →
        let status := (setting.engine.unit (w.table unit.resource)).reparseStatus
        (unit.reparse unsaved options).Decided setting w (status = 0) (fun _ v => v.live = w.live)
          (Failure.Reports "reparse" LoadProblem.code .reparse status.toInt)) ∧
      (∀ (unit : SourceUnit) path, 0 ∉ path →
        let status := (setting.engine.unit (w.table unit.resource)).saveStatus
        (unit.save path).Decided setting w (status = 0) (fun _ v => v.live = w.live)
          (Failure.Reports "save" SaveProblem.code .save status.toInt)) ∧
      ∀ (unit : SourceUnit) path line column unsaved options,
        (∀ name ∈ path :: unsaved.map (·.path), 0 ∉ name) →
        (unit.complete path line column unsaved options).Decided setting w True
          (Completion.Gives unit (setting.engine.completionAt path line column) w)
          (fun _ => False)) := by
  refine ⟨fun _ => Index.create_decided _, fun _ sound => Database.open_decided sound,
    fun loaded => ⟨?parse, ?read, ?reparse, ?save, ?complete⟩⟩
  case parse =>
    intro index path args unsaved options sound
    exact index.parse_decided path options loaded sound
  case read =>
    intro index path sound
    exact index.read_decided loaded sound
  case reparse =>
    intro unit unsaved options single sound
    exact unit.reparse_decided options loaded single sound
  case save =>
    intro unit path sound
    exact unit.save_decided loaded sound
  case complete =>
    intro unit path line column unsaved options sound
    exact unit.complete_decided line column options loaded sound

/-- A status that stands for no problem, beside a handle that is not null. -/
theorem every_status_decided_unknown :
    let setting : Setting :=
      ⟨{ tables := { sources := [{ name := none, status := 7, unit := some 0 }] } }, true⟩
    let w := Session.begun.world
    ∃ v, (Session.firstIndex.parse none [] [] {}).exec setting w =
        (.error (.failure (.unitLoad "<command line>" none)), v) ∧ v.live = w.live := by
  intro setting w
  obtain ⟨-, -, loaded⟩ := every_status_decided setting w
  obtain ⟨parse, -⟩ := loaded rfl
  obtain ⟨outcome, v, ran, -, refused⟩ := parse Session.firstIndex none [] [] {} nofun
  obtain ⟨failure, rfl, ⟨problem?, rfl, told⟩, live⟩ := refused (by decide)
  have none : problem? = none := by
    refine Option.eq_none_iff_forall_ne_some.2 fun p known => ?_
    have same := (told p).1 known
    revert same
    cases p <;> decide
  exact ⟨v, none ▸ ran, live⟩

end SourceAtlas
