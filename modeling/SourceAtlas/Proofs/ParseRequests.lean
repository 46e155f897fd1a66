import Mathlib.Data.Nat.Bitwise
import SourceAtlas.Proofs.Crossing
import SourceAtlas.Proofs.Panics

/-!
# What a report asks the engine to do

The reports on a source file parse it once, with the arguments and the files in memory of its
configuration, the arguments of the command line behind them, and the flags of the configuration.
The report on the syntax tree adds a flag of its own. Only code completion asks for more than that.
-/

namespace SourceAtlas

open Act
open CommandLine (SourceArgs CompleteArgs Command Invocation)

/-! ## Flags -/

/-- The position of the bit that a flag has of its own. -/
def ParseFlag.position : ParseFlag → Nat
  | .detailedProcessingRecord => 0
  | .incomplete => 1
  | .precompiledPreamble => 2
  | .cacheCompletionResults => 3
  | .skipFunctionBodies => 6
  | .includeBriefCommentsInCodeCompletion => 7

theorem ParseFlag.position_injective : Function.Injective position := by
  intro a b same
  cases a <;> cases b <;> first | rfl | exact absurd same (by decide)

namespace ParseOptions

variable {options : ParseOptions} {flag : ParseFlag} {i : Nat}

/-- Whether the bit at a position is set. -/
def has (options : ParseOptions) (i : Nat) : Bool :=
  options.bits.toNat.testBit i

theorem bits_flag (flag : ParseFlag) : flag.options.bits.toNat = 2 ^ flag.position := by
  cases flag <;> rfl

/-- A flag has one bit. -/
theorem has_flag : flag.options.has i = decide (flag.position = i) := by
  rw [has, bits_flag, Nat.testBit_two_pow]

theorem has_union (a b : ParseOptions) : (a ||| b).has i = (a.has i || b.has i) := by
  show (a.bits ||| b.bits).toNat.testBit i = _
  rw [UInt32.toNat_or, Nat.testBit_or]
  rfl

/-- Flags are added one after the other: a bit is set if it was, or if it is that of one of them. -/
theorem has_foldl (flags : List ParseFlag) (options : ParseOptions) :
    (flags.foldl (fun options flag => options ||| flag.options) options).has i =
      (options.has i || flags.any fun flag => decide (flag.position = i)) := by
  induction flags generalizing options with
  | nil => simp
  | cons flag rest ih => rw [List.foldl_cons, ih, has_union, has_flag, List.any_cons, Bool.or_assoc]

/-- A flag is contained in a set just when its bit is set. -/
theorem contains_flag : options.contains flag.options = options.has flag.position := by
  have same : options.bits &&& flag.options.bits = flag.options.bits ↔
      options.has flag.position = true := by
    rw [← UInt32.toNat_inj, UInt32.toNat_and, bits_flag, Nat.and_two_pow, has]
    have positive := (Nat.two_pow_pos flag.position).ne
    cases options.bits.toNat.testBit flag.position <;> simp [positive]
  rw [Bool.eq_iff_iff, ← same]
  exact beq_iff_eq

end ParseOptions

/-- The flag that a command adds to those of the configuration. -/
def CommandLine.Command.flag? : Command → Option ParseFlag
  | .ast .. => some .detailedProcessingRecord
  | _ => none

/-- The options that a command parses its source file with. -/
def CommandLine.Command.options (command : Command) (config : ParseConfig) : ParseOptions :=
  config.parseOptions ||| command.flag?.elim {} ParseFlag.options

/-- The bits that are set are those of the flags that are listed or added. -/
theorem CommandLine.Command.has_options (command : Command) (config : ParseConfig) (i : Nat) :
    (command.options config).has i = true ↔
      ∃ flag ∈ config.options ++ command.flag?.toList, flag.position = i := by
  have empty : ParseOptions.has {} i = false := Nat.zero_testBit i
  have added : (command.flag?.elim {} ParseFlag.options).has i =
      command.flag?.toList.any fun flag => decide (flag.position = i) := by
    cases command.flag? with
    | none => exact empty
    | some flag => simpa using ParseOptions.has_flag
  rw [options, ParseOptions.has_union, ParseConfig.parseOptions, ParseOptions.has_foldl, empty, added,
    Bool.false_or, ← List.any_append, List.any_eq_true]
  simp only [decide_eq_true_eq]

/-! ## Requests -/

namespace CommandLine

/-- The source file that a command is about. -/
def Command.source? : Command → Option SourceArgs
  | .ast source _ _ | .tokens source | .diags source | .includes source | .complete source _ =>
    some source
  | .commands .. | .version => none

/-- The names and arguments that are handed over when a source file is parsed. -/
def SourceArgs.names (source : SourceArgs) (config : ParseConfig) : List Bytes :=
  source.file :: (config.args ++ source.clangArgs).map Utf8.encode ++ config.unsaved.map (·.path)

end CommandLine

/-- Whether a source file can be loaded. -/
def SourceEntry.loads (entry : SourceEntry) : Bool :=
  entry.unit.isSome && entry.status == 0

/-- What the engine is asked to do when a source file is loaded with some options. -/
def loadRequests (source : SourceArgs) (config : ParseConfig) (options : ParseOptions) :
    List Request :=
  [.createIndex {}, .parse ⟨.index, 0, 0⟩ (some source.file)
    ((config.args ++ source.clangArgs).map Utf8.encode) config.unsaved options.bits]

/-- What the engine is asked to do for code completion. -/
def completeRequest (source : SourceArgs) (args : CompleteArgs) (config : ParseConfig) : Request :=
  .complete ⟨.unit, 1, 0⟩ source.file args.line args.column config.unsaved
    (CompleteOptions.bits ⟨args.macros, args.patterns, true⟩)

/-- What the engine is asked to do for a command about a source file. -/
def CommandLine.Command.requests (command : Command) (source : SourceArgs) (config : ParseConfig)
    (engine : Engine) : List Request :=
  loadRequests source config (command.options config) ++
    match command with
    | .complete source args =>
      if (engine.source (some source.file)).loads then [completeRequest source args config] else []
    | _ => []

/-! ## Silence -/

instance : Selective Event.request? where
  deaf _ calm _ := calm

section Silence

variable {setting : Setting}

instance : (hushed setting Event.request?).Asking where
  ask _ _ _ := utters_ask rfl

instance : (hushed setting Event.request?).Panicking := ⟨fun _ => .refl⟩

instance : (hushed setting Event.request?).Remembering where
  ask _ _ _ _ := utters_ask rfl
  remember cell slot answer w := utters_remember (fun _ => rfl) w cell slot answer
  respell cell spelling w := .still (by
    rw [exec_update, World.setUnitSpelling]
    split <;> rfl)

/-- Once a source file is loaded, nothing is requested for a report. -/
instance : (hushed setting Event.request?).Reporting where

end Silence

/-! ## Loading -/

theorem World.Utters.requested (asked : Request) (w : World) :
    w.Utters Event.request? [asked] (w.note (.requested asked)) := by
  have heard : (Event.requested asked).request? = some asked := rfl
  exact .note heard w

section Loading

variable {setting : Setting} {host : Host} {source : SourceArgs} {config : ParseConfig}

/-- What runs stays on a thread where the engine is loaded. -/
theorem isLoaded_exec {x : Act α} [covered : (sound setting).Covers x] {w v : World}
    {outcome : Except Fault α} (loaded : w.loaded = true) (ran : x.exec setting w = (outcome, v)) :
    v.loaded = true := by
  have stays := ((covered.holds w).loaded loaded).1
  rwa [ran] at stays

theorem exec_checkTexts {names : List Bytes} (sound : ∀ name ∈ names, 0 ∉ name) (w : World) :
    (checkTexts names).exec setting w = (.ok (), w) := by
  unfold checkTexts
  rw [firstNul?_eq_none.2 sound]
  rfl

/-- Names that are let through have no NUL in them. -/
theorem checkTexts_eq_ok {names : List Bytes} {w v : World}
    (ran : (checkTexts names).exec setting w = (.ok (), v)) : (∀ name ∈ names, 0 ∉ name) ∧ v = w := by
  unfold checkTexts at ran
  rw [← firstNul?_eq_none]
  cases found : firstNul? names with
  | none =>
      rw [found] at ran
      exact ⟨rfl, (Prod.mk.inj ran).2.symm⟩
  | some position =>
      rw [found] at ran
      exact nomatch ran

/-- The names for code completion are among those that the file was parsed with. -/
theorem sound_unsaved (sound : ∀ name ∈ source.names config, 0 ∉ name) :
    ∀ name ∈ source.file :: config.unsaved.map (·.path), 0 ∉ name := by
  intro name member
  refine sound name ?_
  rcases List.mem_cons.1 member with rfl | member
  · exact List.mem_append_left _ List.mem_cons_self
  · exact List.mem_append_right _ member

/-- An index is made on the way, if the engine makes any. -/
theorem Index.exec_create (creates : setting.engine.tables.createsIndexes = true)
    (config : IndexConfig) (w : World) :
    ∃ cell v, (create config).exec setting w =
        (.ok ⟨cell, ⟨.index, w.acquired, w.indexes⟩, config⟩, v) ∧
      v.loaded = true ∧ v.acquired = w.acquired + 1 ∧ v.instances = w.instances ∧
      w.Utters Event.request? [.createIndex config] v := by
  have began : load.exec setting w = (.ok (), { w with loaded := true }) := rfl
  unfold create
  rw [exec_bind_ok began, exec_bind_ok (exec_request _ rfl), exec_bind_ok exec_engine,
    if_pos creates]
  exact ⟨_, _, rfl, rfl, rfl, rfl, .of_events [.acquired _, .requested _] rfl rfl⟩

/-- A unit is taken over, just when there is a handle without a problem. -/
theorem Index.exec_adopt (index : Index) (source : SourceEntry) (name : String) (w : World) :
    ∃ outcome v, (index.adopt source name).exec setting w = (outcome, v) ∧
      (∀ unit, outcome = .ok unit →
        unit.resource = ⟨.unit, w.acquired, w.instances.size⟩ ∧ source.loads = true) ∧
      (source.loads = true → ∃ unit, outcome = .ok unit) := by
  unfold adopt SourceEntry.loads
  cases source.unit with
  | none => exact ⟨_, _, rfl, nofun, nofun⟩
  | some table =>
      cases sound : source.status == 0 with
      | true =>
          refine ⟨_, _, rfl, ?_, fun _ => ⟨_, rfl⟩⟩
          rintro _ ⟨⟩
          exact ⟨rfl, rfl⟩
      | false => exact ⟨_, _, rfl, nofun, nofun⟩

/-- A source file whose configuration cannot be read is not loaded, and the engine is left alone. -/
theorem exec_loadUnit_error {failure : Failure} (read : source.parseConfig host = .error failure)
    (extra : ParseOptions) (w : World) :
    (loadUnit host source extra).exec setting w = (.error (.failure failure), w) := by
  unfold loadUnit
  rw [read]
  rfl

/-- A source file is parsed once, with what its configuration and its command line say. It gives a
unit if it can be loaded. -/
theorem exec_loadUnit (read : source.parseConfig host = .ok config)
    (creates : setting.engine.tables.createsIndexes = true)
    (sound : ∀ name ∈ source.names config, 0 ∉ name) (extra : ParseOptions) :
    ∃ outcome v, (loadUnit host source extra).exec setting {} = (outcome, v) ∧
      v.loaded = true ∧
      World.Utters Event.request? (loadRequests source config (config.parseOptions ||| extra)) {} v ∧
      (∀ unit, outcome = .ok unit → unit.resource = ⟨.unit, 1, 0⟩ ∧
        (setting.engine.source (some source.file)).loads = true) ∧
      ((setting.engine.source (some source.file)).loads = true → ∃ unit, outcome = .ok unit) := by
  obtain ⟨cell, w, made, loaded, acquired, instances, asked⟩ :=
    Index.exec_create creates {} ({} : World)
  let index : Index := ⟨cell, ⟨.index, 0, 0⟩, {}⟩
  let args := (config.args ++ source.clangArgs).map Utf8.encode
  let parse : Request :=
    .parse index.resource (some source.file) args config.unsaved (config.parseOptions ||| extra).bits
  -- the file is parsed, and what comes of it is taken over
  obtain ⟨outcome, v, adopted, unit, gives⟩ := @Index.exec_adopt setting index
    (setting.engine.source (some source.file)) (Utf8.decodeLossy source.file) (w.note (.requested parse))
  have checked : (checkTexts (source.names config)).exec setting w = (.ok (), w) :=
    exec_checkTexts sound w
  have parsed : (index.parse (some source.file) (config.args ++ source.clangArgs) config.unsaved
      (config.parseOptions ||| extra)).exec setting w = (outcome, v) :=
    (exec_bind_ok checked).trans ((exec_bind_ok (exec_request _ loaded)).trans
      ((exec_bind_ok exec_engine).trans adopted))
  have silent : (w.note (.requested parse)).Utters Event.request? [] v := utters_exec adopted
  refine ⟨outcome, v.release (refs index), ?_, ?_, ?_, fun unit' made => ?_, gives⟩
  · unfold loadUnit
    rw [read]
    exact (exec_bind_ok made).trans ((exec_using index _ w).trans (by rw [parsed]))
  · exact (World.Sheds.release v _).loaded.trans (isLoaded_exec (w := w.note _) loaded adopted)
  · have requested := (World.Utters.requested parse w).hush silent
    exact (asked.trans requested).hush (.sheds (fun _ => rfl) (.release ..))
  · obtain ⟨resource, loads⟩ := unit unit' made
    refine ⟨resource.trans ?_, loads⟩
    show (⟨.unit, w.acquired, w.instances.size⟩ : Resource) = _
    rw [acquired, instances]
    rfl

/-- What is loaded has a configuration with no NUL in its names, and the engine is loaded by then. -/
theorem sound_of_loaded {extra : ParseOptions} {unit : SourceUnit} {v : World}
    (ran : (loadUnit host source extra).exec setting {} = (.ok unit, v)) :
    ∃ config, source.parseConfig host = .ok config ∧ (∀ name ∈ source.names config, 0 ∉ name) ∧
      v.loaded = true := by
  unfold loadUnit at ran
  obtain ⟨config, w, read, ran⟩ := exec_bind_eq_ok ran
  obtain ⟨index, u, -, used⟩ := exec_bind_eq_ok ran
  obtain ⟨x, parsed, rfl⟩ := exec_using_eq_ok used
  obtain ⟨_, y, checked, requested⟩ := exec_bind_eq_ok parsed
  obtain ⟨sound, same⟩ := checkTexts_eq_ok checked
  obtain ⟨_, z, asked, adopted⟩ := exec_bind_eq_ok requested
  rw [same] at asked
  have loaded : u.loaded = true := by
    cases loaded : u.loaded with
    | true => rfl
    | false => exact nomatch (exec_request_unloaded _ loaded).symm.trans asked
  refine ⟨config, ?_, sound, (World.Sheds.release x _).loaded.trans ?_⟩
  · cases given : source.parseConfig host with
    | ok config' =>
        rw [given] at read
        exact congrArg Except.ok (Except.ok.inj (Prod.mk.inj read).1)
    | error failure =>
        rw [given] at read
        exact nomatch read
  · rw [exec_request _ loaded] at asked
    obtain ⟨-, rfl⟩ := Prod.mk.inj asked
    exact isLoaded_exec (w := World.note _ _) loaded adopted

/-- Code completion is asked for once, and does not fail. -/
theorem SourceUnit.exec_complete (unit : SourceUnit) {w : World} (loaded : w.loaded = true)
    {path : Bytes} {unsaved : List UnsavedFile}
    (sound : ∀ name ∈ path :: unsaved.map (·.path), 0 ∉ name) (line column : UInt32)
    (options : CompleteOptions) :
    ∃ results v, (unit.complete path line column unsaved options).exec setting w =
        (.ok results, v) ∧
      results.map (·.entry) = (setting.engine.completionAt path line column).map (·.2) ∧
      w.Utters Event.request?
        [.complete unit.resource path line column unsaved options.bits] v := by
  unfold complete
  rw [exec_bind_ok (exec_checkTexts sound w), exec_bind_ok (exec_request _ loaded),
    exec_bind_ok exec_engine]
  cases setting.engine.completionAt path line column with
  | none => exact ⟨_, _, rfl, rfl, .requested _ w⟩
  | some found =>
      have silent : (hushed setting Event.request?).Covers (do
          let resource ← acquire .completion found.1
          let cell ← newCell (some resource) (.completion unit)
          return some (⟨cell, resource, unit, found.2⟩ : Completion)) := inferInstance
      exact ⟨_, _, rfl, rfl, (World.Utters.requested _ w).hush (silent.holds _)⟩

end Loading

/-! ## Runs -/

section Runs

variable {setting : Setting} {host : Host} {source : SourceArgs} {config : ParseConfig}
variable {words : List Bytes} {invocation : Invocation}

/-- What is heard of a run is what is heard of its report. -/
theorem heard_runProgram {hears : Event → Option β} {heard : List β}
    (parsed : CommandLine.parse words = .ok invocation)
    (utters : World.Utters hears heard {} ((report host invocation.command).exec setting {}).2) :
    (runProgram setting host words).events.filterMap hears = heard := by
  obtain ⟨events, trace, rfl⟩ := utters
  have all : (runProgram setting host words).events =
      ((report host invocation.command).exec setting {}).2.trace.reverse := by
    unfold runProgram
    rw [parsed]
    rcases ran : (report host invocation.command).exec setting {} with ⟨(_ | _) | _, v⟩ <;>
    · replace ran : (report host invocation.command setting).run {} = _ := ran
      simp only [ran]
  rw [all, trace, List.filterMap_reverse]
  exact congrArg (fun all => (all.filterMap hears).reverse) (List.append_nil events)

/-- What is requested for a report on a source file is what is requested to load it, and then what is
requested for the report itself. -/
theorem utters_load_then (extra : ParseOptions) {body : SourceUnit → Act β} {later : List Request}
    (read : source.parseConfig host = .ok config)
    (creates : setting.engine.tables.createsIndexes = true)
    (sound : ∀ name ∈ source.names config, 0 ∉ name)
    (rest : ∀ (unit : SourceUnit) (w : World), w.loaded = true → unit.resource = ⟨.unit, 1, 0⟩ →
      w.Utters Event.request? later ((body unit).exec setting w).2) :
    World.Utters Event.request?
      (loadRequests source config (config.parseOptions ||| extra) ++
        if (setting.engine.source (some source.file)).loads then later else []) {}
      ((loadUnit host source extra >>= fun unit => Act.using unit body).exec setting {}).2 := by
  obtain ⟨outcome, v, ran, loaded, asked, unit, gives⟩ := exec_loadUnit read creates sound extra
  cases outcome with
  | error fault =>
      have fails : ¬ (setting.engine.source (some source.file)).loads = true :=
        fun loads => nomatch (gives loads).choose_spec
      rw [exec_bind_error ran, if_neg fails, List.append_nil]
      exact asked
  | ok unit' =>
      obtain ⟨resource, loads⟩ := unit unit' rfl
      rw [exec_bind_ok ran, if_pos loads, exec_using]
      exact (asked.trans (rest unit' v loaded resource)).hush (.sheds (fun _ => rfl) (.release ..))

/-- A report that requests nothing of its own. -/
theorem utters_load (extra : ParseOptions) {body : SourceUnit → Act β}
    [covered : ∀ unit, (hushed setting Event.request?).Covers (body unit)]
    (read : source.parseConfig host = .ok config)
    (creates : setting.engine.tables.createsIndexes = true)
    (sound : ∀ name ∈ source.names config, 0 ∉ name) :
    World.Utters Event.request? (loadRequests source config (config.parseOptions ||| extra) ++ []) {}
      ((loadUnit host source extra >>= fun unit => Act.using unit body).exec setting {}).2 := by
  have asked := utters_load_then extra read creates sound fun unit w _ _ => (covered unit).holds w
  rwa [ite_self] at asked

/-- Code completion is asked for once, at the given place and with the files in memory that the
source file was parsed with. -/
theorem utters_complete (args : CompleteArgs) (read : source.parseConfig host = .ok config)
    (creates : setting.engine.tables.createsIndexes = true)
    (sound : ∀ name ∈ source.names config, 0 ∉ name) :
    World.Utters Event.request?
      (loadRequests source config (config.parseOptions ||| {}) ++
        if (setting.engine.source (some source.file)).loads then [completeRequest source args config]
        else []) {}
      ((completionReport host source args).exec setting {}).2 := by
  refine utters_load_then {} read creates sound fun unit w loaded resource => ?_
  have given : (Act.ofExcept (source.parseConfig host)).exec setting w = (.ok config, w) := by
    rw [read]
    rfl
  rw [exec_bind_ok given]
  obtain ⟨results, v, ran, -, asked⟩ := unit.exec_complete loaded (sound_unsaved sound) args.line
    args.column ⟨args.macros, args.patterns, true⟩
  have listing := CandidateRow.covers_listing (hushed setting Event.request?) args.limit source.json
  rw [resource] at asked
  rw [exec_bind_ok ran]
  exact asked.hush ((inferInstance : (hushed setting Event.request?).Covers _).holds v)

/-- What is requested for a report on a source file. -/
theorem utters_report {command : Command} (about : command.source? = some source)
    (read : source.parseConfig host = .ok config)
    (creates : setting.engine.tables.createsIndexes = true)
    (sound : ∀ name ∈ source.names config, 0 ∉ name) :
    World.Utters Event.request? (command.requests source config setting.engine) {}
      ((report host command).exec setting {}).2 := by
  cases command with
  | ast _ depth all =>
      cases about
      exact utters_load .detailedProcessingRecord read creates sound
  | tokens =>
      cases about
      exact utters_load {} read creates sound
  | diags =>
      cases about
      exact utters_load {} read creates sound
  | includes =>
      cases about
      exact utters_load {} read creates sound
  | complete _ args =>
      cases about
      exact utters_complete args read creates sound
  | commands | version => exact nomatch about

/-- The reports on a source file begin with loading it. -/
theorem exec_report_error {command : Command} {failure : Failure}
    (about : command.source? = some source) (read : source.parseConfig host = .error failure)
    (w : World) : (report host command).exec setting w = (.error (.failure failure), w) := by
  cases command with
  | commands | version => exact nomatch about
  | _ =>
      cases about
      exact exec_bind_error (exec_loadUnit_error read _ w)

end Runs

/-- The reports on a source file, for every configuration and every list of further arguments. If the
configuration can be read, the names and arguments hold no NUL and the engine makes an index, then the
file is parsed once: at its path, with the arguments of the configuration and the further ones behind
them, with the files in memory of the configuration in order, and with the bits of the flags that the
configuration lists, in whatever order and however often, and of the flag that the report on the syntax
tree adds. Beyond the index and this nothing is requested, but for code completion, which is asked for
once if the file could be loaded: at the given line and column of this path, with the same files in
memory. If the configuration cannot be read, the engine is left alone. -/
theorem source_parsed_once (setting : Setting) (host : Host) {words : List Bytes}
    {invocation : Invocation} {source : SourceArgs}
    (parsed : CommandLine.parse words = .ok invocation)
    (about : invocation.command.source? = some source) :
    let run := runProgram setting host words
    (∀ failure, source.parseConfig host = .error failure → run.events = []) ∧
    ∀ config, source.parseConfig host = .ok config →
      setting.engine.tables.createsIndexes = true →
      (∀ name ∈ source.names config, 0 ∉ name) →
      run.events.filterMap Event.request? =
          invocation.command.requests source config setting.engine ∧
        (∀ i, (invocation.command.options config).has i = true ↔
          ∃ flag ∈ config.options ++ invocation.command.flag?.toList, flag.options.has i = true) ∧
        ∀ flag, (invocation.command.options config).contains flag.options = true ↔
          flag ∈ config.options ++ invocation.command.flag?.toList := by
  intro run
  refine ⟨fun failure read => ?_, fun config read creates sound => ⟨?_, fun i => ?_, fun flag => ?_⟩⟩
  · have quiet : World.Utters some [] {} ((report host invocation.command).exec setting {}).2 := by
      rw [exec_report_error about read]
      exact .refl _
    simpa using heard_runProgram parsed quiet
  · exact heard_runProgram parsed (utters_report about read creates sound)
  · rw [Command.has_options]
    simp only [ParseOptions.has_flag, decide_eq_true_eq]
  · rw [ParseOptions.contains_flag, Command.has_options]
    constructor
    · rintro ⟨other, listed, same⟩
      exact ParseFlag.position_injective same ▸ listed
    · exact fun listed => ⟨flag, listed, rfl⟩

/-- Code completion in a file that is parsed with one argument and without a configuration. -/
theorem source_parsed_once_complete :
    let engine : Engine := { tables := {
      sources := [{ name := some [97], unit := some 0 }], units := #[{}] } }
    let words : List Bytes :=
      ["c", "complete", "a", "--line", "2", "--column", "3", "--", "-y"].map Utf8.encode
    (runProgram ⟨engine, true⟩ { read := fun _ => .ok [] } words).events.filterMap Event.request? =
      [.createIndex {}, .parse ⟨.index, 0, 0⟩ (some [97]) [[45, 121]] [] 0,
        .complete ⟨.unit, 1, 0⟩ [97] 2 3 [] 4] := by
  intro engine words
  let source : SourceArgs := { file := [97], clangArgs := ["-y"] }
  have parsed : CommandLine.parse words =
      .ok { command := .complete source { line := 2, column := 3 } } := by
    cbv
  have sound : ∀ name ∈ source.names {}, 0 ∉ name := by
    decide
  obtain ⟨-, loads⟩ := source_parsed_once ⟨engine, true⟩ { read := fun _ => .ok [] } parsed rfl
  exact (loads {} rfl rfl sound).1.trans (by cbv)

end SourceAtlas
