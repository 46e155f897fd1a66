import SourceAtlas.Proofs.ParseRequests
import SourceAtlas.Proofs.Spellings

/-!
# Command lines

An invocation is spelled by the name of its subcommand and the words of its arguments, in any order,
and by the compiler arguments behind two dashes. Reading the words gives the invocation back, and
whatever words are understood at all, the compiler arguments are what stands behind the first two
dashes.
-/

namespace SourceAtlas.CommandLine

/-! ## The arguments of an invocation -/

/-- A switch, if it is on. -/
def Argument.ifOn (switch : Switch) (on : Bool) : List Argument :=
  if on then [.on switch] else []

/-- A field, if it has a value. -/
def Argument.ifSome (field : Field) (value : Option field.Value) : List Argument :=
  value.toList.map (.of field)

open Argument

/-- What is given for a source file, apart from the compiler arguments. -/
def SourceArgs.arguments (source : SourceArgs) : List Argument :=
  .of .input source.file :: (ifSome .config source.config ++ ifOn .json source.json)

namespace Command

def subcommand : Command → Subcommand
  | .ast .. => .ast
  | .tokens .. => .tokens
  | .diags .. => .diags
  | .includes .. => .includes
  | .complete .. => .complete
  | .commands .. => .commands
  | .version => .version

/-- What is given for a command, apart from the compiler arguments. -/
def arguments : Command → List Argument
  | .ast source depth all => source.arguments ++ (ifSome .depth depth ++ ifOn .all all)
  | .tokens source | .diags source | .includes source => source.arguments
  | .complete source args =>
    source.arguments ++ ([.of .line args.line, .of .column args.column] ++
      ifOn .macros args.macros ++ ifOn .patterns args.patterns ++ ifSome .limit args.limit)
  | .commands directory file json =>
    .of .input directory :: (ifSome .file file ++ ifOn .json json)
  | .version => []

/-- The compiler arguments of a command. -/
def clangArgs (command : Command) : List String :=
  command.source?.elim [] (·.clangArgs)

/-- The paths that are given for a command. -/
def paths : Command → List Bytes
  | .ast source _ _ | .tokens source | .diags source | .includes source | .complete source _ =>
    source.file :: source.config.toList
  | .commands directory file _ => directory :: file.toList
  | .version => []

end Command

/-- What may be given for a subcommand, besides the wish for logs. -/
def Subcommand.keys : Subcommand → List (Switch ⊕ Field)
  | .ast => [.inr .input, .inr .config, .inl .json, .inr .depth, .inl .all]
  | .tokens | .diags | .includes => [.inr .input, .inr .config, .inl .json]
  | .complete => [.inr .input, .inr .config, .inl .json, .inr .line, .inr .column, .inl .macros,
    .inl .patterns, .inr .limit]
  | .commands => [.inr .input, .inr .file, .inl .json]
  | .version => []

/-- What is given for an invocation, apart from the compiler arguments. -/
def Invocation.arguments (invocation : Invocation) : List Argument :=
  ifOn .verbose invocation.verbose ++ invocation.command.arguments

section Arguments

variable {argument : Argument} {switch : Switch} {field : Field}

@[simp, grind =] theorem mem_ifOn {on : Bool} : argument ∈ ifOn switch on ↔
    on = true ∧ argument = .on switch := by
  cases on <;> simp [ifOn]

@[simp, grind =] theorem mem_ifSome {value : Option field.Value} : argument ∈ ifSome field value ↔
    ∃ v, value = some v ∧ argument = .of field v := by
  simp [ifSome, eq_comm]

theorem keys_ifOn (switch : Switch) (on : Bool) :
    ((ifOn switch on).map Argument.key).Sublist [.inl switch] := by
  cases on
  · exact List.nil_sublist _
  · exact List.Sublist.refl _

theorem keys_ifSome (field : Field) (value : Option field.Value) :
    ((ifSome field value).map Argument.key).Sublist [.inr field] := by
  cases value
  · exact List.nil_sublist _
  · exact List.Sublist.refl _

theorem SourceArgs.keys_arguments (source : SourceArgs) : (source.arguments.map Argument.key).Sublist
    [.inr .input, .inr .config, .inl .json] := by
  rw [arguments, List.map_cons, List.map_append]
  exact ((keys_ifSome _ _).append (keys_ifOn _ _)).cons_cons _

/-- The arguments of a command are among what its subcommand takes, and are given once each. -/
theorem Command.keys_arguments (command : Command) :
    (command.arguments.map Argument.key).Sublist command.subcommand.keys := by
  cases command with
  | ast source depth all =>
      rw [arguments, List.map_append, List.map_append]
      exact source.keys_arguments.append ((keys_ifSome _ _).append (keys_ifOn _ _))
  | tokens source | diags source | includes source => exact source.keys_arguments
  | complete source args =>
      simp only [arguments, List.map_append]
      exact source.keys_arguments.append ((((List.Sublist.refl _).append (keys_ifOn _ _)).append
        (keys_ifOn _ _)).append (keys_ifSome _ _))
  | commands directory file json =>
      rw [arguments, List.map_cons, List.map_append]
      exact ((keys_ifSome _ _).append (keys_ifOn _ _)).cons_cons _
  | version => exact List.nil_sublist _

theorem Subcommand.keys_nodup (subcommand : Subcommand) :
    (.inl .verbose :: subcommand.keys).Nodup := by
  cases subcommand <;> simp [keys]

theorem Subcommand.keys_offered (subcommand : Subcommand) :
    ∀ key ∈ .inl .verbose :: subcommand.keys, subcommand.level.Offers key := by
  cases subcommand <;> simp [keys, level, sourceLevel, Level.Offers]

theorem Command.not_mem_verbose (command : Command) : .on .verbose ∉ command.arguments :=
  fun member => (List.nodup_cons.1 command.subcommand.keys_nodup).1
    (command.keys_arguments.subset (List.mem_map_of_mem (f := Argument.key) member))

theorem Invocation.keys_arguments (invocation : Invocation) : (invocation.arguments.map
    Argument.key).Sublist (.inl .verbose :: invocation.command.subcommand.keys) := by
  rw [arguments, List.map_append]
  exact (keys_ifOn _ _).append invocation.command.keys_arguments

/-- Everything that is given for an invocation is offered by its subcommand. -/
theorem Invocation.offered (invocation : Invocation) :
    ∀ argument ∈ invocation.arguments, invocation.command.subcommand.level.Offers argument.key :=
  fun _ member => invocation.command.subcommand.keys_offered _
    (invocation.keys_arguments.subset (List.mem_map_of_mem member))

/-- Compiler arguments are given only for subcommands that take them. -/
theorem Command.takes_clangArgs (command : Command) :
    command.clangArgs = [] ∨ command.subcommand.level.takesClangArgs = true := by
  cases command <;> first | exact .inl rfl | exact .inr rfl

theorem Command.mem_paths {command : Command} {path : Bytes} :
    path ∈ command.paths ↔ .of .input path ∈ command.arguments ∨
      .of .config path ∈ command.arguments ∨ .of .file path ∈ command.arguments := by
  cases command <;> simp [arguments, SourceArgs.arguments, paths]

/-- The values of an invocation may stand as words if its paths may. -/
theorem Invocation.plain {invocation : Invocation}
    (plain : ∀ path ∈ invocation.command.paths, CommandLine.Plain path) :
    ∀ argument ∈ invocation.arguments, argument.Plain := by
  intro argument member
  rcases List.mem_append.1 member with verbose | given
  · obtain ⟨-, rfl⟩ := mem_ifOn.1 verbose
    trivial
  · match argument, given with
    | .on _, _ | .of .depth _, _ | .of .limit _, _ | .of .line _, _ | .of .column _, _ => trivial
    | .of .input path, given => exact plain path (Command.mem_paths.2 (.inl given))
    | .of .config path, given => exact plain path (Command.mem_paths.2 (.inr (.inl given)))
    | .of .file path, given => exact plain path (Command.mem_paths.2 (.inr (.inr given)))

end Arguments

/-! ## The command of a draft -/

namespace Draft

variable {draft : Draft} {arguments : List Argument}

@[simp] theorem get_empty (field : Field) : ({} : Draft).get field = none := by
  cases field <;> rfl

theorem given_empty (key : Switch ⊕ Field) : ({} : Draft).given key = false := by
  cases key with
  | inl switch => rfl
  | inr field => simp [given, isSet_eq]

/-- Whether a draft has just what some arguments give. Whether logs are wished for is left open. -/
structure Holds (draft : Draft) (arguments : List Argument) : Prop where
  get : ∀ field value, draft.get field = some value ↔ .of field value ∈ arguments
  has : ∀ switch, switch ≠ .verbose → (draft.has switch = true ↔ .on switch ∈ arguments)

theorem Holds.withArgs (holds : draft.Holds arguments) (args : List String) :
    Holds { draft with clangArgs := args } arguments where
  get field value := by cases field <;> exact holds.get _ value
  has := holds.has

theorem Holds.get_eq (holds : draft.Holds arguments) (field : Field) {value : Option field.Value}
    (given : ∀ v, .of field v ∈ arguments ↔ value = some v) : draft.get field = value :=
  Option.ext fun v => (holds.get field v).trans (given v)

theorem Holds.has_eq (holds : draft.Holds arguments) (switch : Switch) {on : Bool}
    (ordinary : switch ≠ .verbose) (given : .on switch ∈ arguments ↔ on = true) :
    draft.has switch = on :=
  Bool.eq_iff_iff.2 ((holds.has switch ordinary).trans given)

/-- A draft gives the source file whose arguments it holds, whatever else it holds. -/
theorem Holds.source_eq {source : SourceArgs} {others : List Argument}
    (holds : draft.Holds (source.arguments ++ others))
    (apart : ∀ other ∈ others, other.key ∉ [.inr .input, .inr .config, .inl .json])
    (args : draft.clangArgs = source.clangArgs) : draft.source = .ok source := by
  have input : draft.input = some source.file := holds.get_eq .input fun v => by
    have absent : .of .input v ∉ others := fun other => apart _ other (.head _)
    simpa [SourceArgs.arguments, absent] using eq_comm
  have config : draft.config = source.config := holds.get_eq .config fun v => by
    have absent : .of .config v ∉ others := fun other => apart _ other (.tail _ (.head _))
    simp [SourceArgs.arguments, absent]
  have json : draft.has .json = source.json := holds.has_eq .json (by decide) <| by
    have absent : .on .json ∉ others := fun other => apart _ other (.tail _ (.tail _ (.head _)))
    simp [SourceArgs.arguments, absent]
  rw [Draft.source, input, config, json, args]
  rfl

/-- A draft gives the command whose arguments it holds. -/
theorem Holds.command_eq {command : Command} (holds : draft.Holds command.arguments)
    (args : draft.clangArgs = command.clangArgs) :
    draft.command command.subcommand = .ok command := by
  cases command with
  | ast source depth all =>
      have read : draft.source = .ok source := holds.source_eq (by grind [Argument.key]) args
      have depth_eq : draft.depth = depth := holds.get_eq .depth fun v => by
        simp [Command.arguments, SourceArgs.arguments]
      have all_eq : draft.has .all = all := holds.has_eq .all (by decide) <| by
        simp [Command.arguments, SourceArgs.arguments]
      simp only [Command.subcommand, Draft.command, read, depth_eq, all_eq]
      rfl
  | tokens source | diags source | includes source =>
      have read : draft.source = .ok source := by
        rw [← List.append_nil (Command.arguments _)] at holds
        exact holds.source_eq (by simp) args
      simp only [Command.subcommand, Draft.command, read]
      rfl
  | complete source args' =>
      have read : draft.source = .ok source := holds.source_eq (by grind [Argument.key]) args
      have line : draft.line = some args'.line := holds.get_eq .line fun v => by
        simpa [Command.arguments, SourceArgs.arguments] using eq_comm
      have column : draft.column = some args'.column := holds.get_eq .column fun v => by
        simpa [Command.arguments, SourceArgs.arguments] using eq_comm
      have macros : draft.has .macros = args'.macros := holds.has_eq .macros (by decide) <| by
        simp [Command.arguments, SourceArgs.arguments]
      have patterns : draft.has .patterns = args'.patterns := holds.has_eq .patterns (by decide) <| by
        simp [Command.arguments, SourceArgs.arguments]
      have limit : draft.limit = args'.limit := holds.get_eq .limit fun v => by
        simp [Command.arguments, SourceArgs.arguments]
      simp only [Command.subcommand, Draft.command, read, line, column, macros, patterns, limit]
      rfl
  | commands directory file json =>
      have input : draft.input = some directory := holds.get_eq .input fun v => by
        simpa [Command.arguments] using eq_comm
      have file_eq : draft.file = file := holds.get_eq .file fun v => by
        simp [Command.arguments]
      have json_eq : draft.has .json = json := holds.has_eq .json (by decide) <| by
        simp [Command.arguments]
      simp only [Command.subcommand, Draft.command, input, file_eq, json_eq]
      rfl
  | version => rfl

end Draft

/-! ## Lines -/

/-- The two dashes that end the options. -/
def dashes : Bytes :=
  [dash, dash]

/-- The words of an invocation. The first is the name of the program, and the wish for logs may also
stand before the name of the subcommand. If there are no compiler arguments, the two dashes before them
may be left out. -/
inductive Invocation.Spelled (invocation : Invocation) : List Bytes → Prop
  | intro (program : Bytes) (before after : List Argument) {front back : List (List Bytes)}
      {tail : List Bytes} : (before ++ after).Perm invocation.arguments →
      (∀ argument ∈ before, argument = .on .verbose) →
      List.Forall₂ Argument.Spelled before front → List.Forall₂ Argument.Spelled after back →
      (tail = dashes :: invocation.command.clangArgs.map Utf8.encode ∨
        invocation.command.clangArgs = [] ∧ tail = []) →
      Spelled invocation (program :: (front.flatten ++
        Utf8.encode invocation.command.subcommand.name :: (back.flatten ++ tail)))

/-- Words are read as texts just when they are the encodings of the texts. -/
theorem mapM_readText_eq_ok {words : List Bytes} {texts : List String} :
    words.mapM readText = .ok texts ↔ words = texts.map Utf8.encode := by
  have one (word : Bytes) (text : String) : readText word = .ok text ↔ word = Utf8.encode text := by
    rw [← Utf8.decode?_eq_some_iff, readText]
    cases Utf8.decode? word <;> simp
  induction words generalizing texts with
  | nil => cases texts <;> simp [pure, Except.pure]
  | cons word words ih =>
      rw [List.mapM_cons, bind_eq_ok_iff]
      simp only [bind_eq_ok_iff, one, ih, pure, Except.pure, Except.ok.injEq]
      constructor
      · rintro ⟨text, rfl, texts, rfl, rfl⟩
        rfl
      · intro split
        obtain ⟨text, rest, rfl, rfl, rfl⟩ := List.map_eq_cons_iff.1 split.symm
        exact ⟨text, rfl, rest, rfl, rfl⟩

/-- The compiler arguments are read behind the two dashes, which may be left out if there are none. -/
theorem readLevel_tail {level : Level} {args : List String} {tail : List Bytes}
    (ends : tail = dashes :: args.map Utf8.encode ∨ args = [] ∧ tail = [])
    (taken : args = [] ∨ level.takesClangArgs = true) {progress : Progress} {draft : Draft}
    (settled : progress.settle = .ok draft) (empty : draft.clangArgs = []) :
    readLevel level tail progress = .ok { draft with clangArgs := args } := by
  have bare : { draft with clangArgs := [] } = draft := by rw [← empty]
  rcases ends with rfl | ⟨rfl, rfl⟩
  · rw [readLevel, dashes, Word.ofBytes_escape]
    simp only [Progress.afterEscape]
    by_cases takes : level.takesClangArgs = true
    · rw [if_pos takes, settled, mapM_readText_eq_ok.2 rfl]
      rfl
    · -- behind dashes that nothing follows, also a subcommand without compiler arguments is content
      obtain rfl := taken.resolve_right takes
      rw [if_neg takes, bare]
      exact settled
  · rw [readLevel, settled, bare]

theorem Subcommand.ofBytes?_name (subcommand : Subcommand) :
    ofBytes? (Utf8.encode subcommand.name) = some subcommand := by
  cases subcommand <;> decide

/-- The wish for logs is read before the name of the subcommand. -/
theorem readTop_verbose {words : List Bytes} (spelled : Argument.Spelled (.on .verbose) words)
    (rest : List Bytes) :
    readTop (words ++ rest) {} = readTop rest ⟨Draft.add {} (.on .verbose), .nothing⟩ := by
  have offered : Level.top.Offers (.inl .verbose) := ⟨.head _, nofun, nofun⟩
  have settled : ({} : Progress).settle = .ok {} := rfl
  cases spelled with
  | long =>
      have unnamed : Subcommand.ofBytes? (longWord Switch.verbose.name) = none := by decide
      have other : (longWord Switch.verbose.name == helpName) = false := by decide
      have written : Word.ofBytes (longWord Switch.verbose.name) = _ :=
        Word.ofBytes_long Switch.verbose.name_sound
      rw [List.singleton_append, readTop.eq_def]
      simp only [unnamed, other, written, Progress.long_switch settled offered rfl]
      rfl
  | @short _ letter lettered =>
      obtain rfl : 'v' = letter := Option.some.inj lettered
      have unnamed : Subcommand.ofBytes? [dash, UInt8.ofNat 'v'.toNat] = none := by decide
      have other : ([dash, UInt8.ofNat 'v'.toNat] == helpName) = false := by decide
      rw [List.singleton_append, readTop.eq_def]
      simp only [unnamed, other, Word.ofBytes_short lettered,
        Progress.short_switch settled offered rfl lettered]
      rfl

/-- What is given before the name of the subcommand is the wish for logs at most. -/
theorem readTop_front {before : List Argument} {front : List (List Bytes)}
    (logs : ∀ argument ∈ before, argument = .on .verbose)
    (distinct : (before.map Argument.key).Nodup)
    (spelled : List.Forall₂ Argument.Spelled before front) (rest : List Bytes) :
    readTop (front.flatten ++ rest) {} = readTop rest ⟨Draft.addAll {} before, .nothing⟩ := by
  cases spelled with
  | nil => rfl
  | @cons argument words others others' first more =>
      obtain rfl := logs argument (.head _)
      cases more with
      | nil =>
          rw [List.flatten_cons, List.flatten_nil, List.append_nil]
          exact readTop_verbose first rest
      | @cons other =>
          -- a second wish would be given twice
          obtain rfl := logs other (.tail _ (.head _))
          simp at distinct

section Arranged

variable {invocation : Invocation} {before after : List Argument}
  (arranged : (before ++ after).Perm invocation.arguments)

include arranged

theorem keys_arranged :
    (before.map Argument.key).Nodup ∧ (after.map Argument.key).Nodup := by
  have distinct : ((before ++ after).map Argument.key).Nodup := (arranged.map _).nodup_iff.2
    (invocation.command.subcommand.keys_nodup.sublist invocation.keys_arguments)
  rw [List.map_append, List.nodup_append] at distinct
  exact ⟨distinct.1, distinct.2.1⟩

/-- The draft of what is given behind the name of the subcommand holds the arguments of the command. -/
theorem holds_addAll (logs : ∀ argument ∈ before, argument = .on .verbose) :
    (Draft.addAll {} after).Holds invocation.command.arguments := by
  -- only the wish for logs may have been given before the name, so all the rest stands behind it
  have given (argument : Argument) (ordinary : argument ≠ .on .verbose) :
      argument ∈ after ↔ argument ∈ invocation.command.arguments := by
    have member := arranged.mem_iff (a := argument)
    rw [List.mem_append, Invocation.arguments, List.mem_append, mem_ifOn] at member
    constructor
    · exact fun there => (member.1 (.inr there)).resolve_left fun log => ordinary log.2
    · exact fun there => (member.2 (.inr there)).resolve_left fun log => ordinary (logs _ log)
  refine ⟨fun field value => ?_, fun switch ordinary => ?_⟩
  · rw [Draft.get_addAll (keys_arranged arranged).2 fun _ _ => Draft.given_empty _, Draft.get_empty,
      or_iff_left nofun]
    exact given _ nofun
  · rw [Draft.has_addAll, or_iff_left (by simp [Draft.has])]
    exact given _ fun same => ordinary (Argument.on.inj same)

/-- Logs are wished for if the wish is given before the name of the subcommand or behind it. -/
theorem has_verbose_addAll : ((Draft.addAll {} before).has .verbose ||
    (Draft.addAll {} after).has .verbose) = invocation.verbose := by
  have wish := arranged.mem_iff (a := .on .verbose)
  rw [List.mem_append, Invocation.arguments, List.mem_append, mem_ifOn,
    or_iff_left invocation.command.not_mem_verbose, and_iff_left rfl] at wish
  rw [Bool.eq_iff_iff, Bool.or_eq_true, Draft.has_addAll, Draft.has_addAll, ← wish]
  simp [Draft.has]

end Arranged

theorem Argument.exists_spelled (argument : Argument) : ∃ words, argument.Spelled words := by
  match argument with
  | .on switch => exact ⟨_, .long switch⟩
  | .of .input path => exact ⟨_, .alone path⟩
  | .of .config value | .of .file value | .of .depth value | .of .limit value | .of .line value
  | .of .column value => exact ⟨_, .apart value rfl⟩

/-- The arguments of an invocation can be spelled in any order. -/
theorem Invocation.exists_spelled {invocation : Invocation} {after : List Argument}
    (arranged : after.Perm invocation.arguments) : ∃ words, invocation.Spelled words := by
  choose spell spelled using Argument.exists_spelled
  have back : List.Forall₂ Argument.Spelled after (after.map spell) :=
    List.forall₂_map_right_iff.2 (List.forall₂_same.2 fun argument _ => spelled argument)
  exact ⟨_, .intro [] [] after arranged nofun .nil back (.inl rfl)⟩

/-- An invocation is read back from its words. -/
theorem parse_spelled {invocation : Invocation} {words : List Bytes}
    (plain : ∀ path ∈ invocation.command.paths, Plain path) (spelled : invocation.Spelled words) :
    parse words = .ok invocation := by
  cases spelled with
  | @intro program before after front back tail arranged logs spelledFront spelledBack ends =>
  have member (argument : Argument) (there : argument ∈ after) : argument ∈ invocation.arguments :=
    arranged.mem_iff.1 (List.mem_append_right _ there)
  have start : ({} : Progress).settle = .ok {} := rfl
  -- the subcommand reads its own arguments, then the compiler arguments, and makes the command
  obtain ⟨last, settled, read⟩ := readLevel_spelledAll spelledBack
    (fun argument there => Invocation.plain plain argument (member argument there))
    (fun argument there => invocation.offered argument (member argument there))
    (keys_arranged arranged).2 start (fun _ _ => Draft.given_empty _) tail
  have finished := readLevel_tail ends invocation.command.takes_clangArgs settled
    Draft.clangArgs_addAll
  have holds := (holds_addAll arranged logs).withArgs invocation.command.clangArgs
  show readTop (front.flatten ++ _) {} = _
  rw [readTop_front logs (keys_arranged arranged).1 spelledFront, readTop.eq_def]
  -- the wishes for logs from both sides of the name are put together at the end
  simp only [Subcommand.ofBytes?_name, read, finished, holds.command_eq rfl, bind, Except.bind]
  have verbose := has_verbose_addAll arranged
  exact congrArg (fun verbose => Except.ok (⟨verbose, invocation.command⟩ : Invocation)) verbose

/-- No words spell two invocations. -/
theorem Invocation.Spelled.unique {invocation invocation' : Invocation} {words : List Bytes}
    (spelled : invocation.Spelled words) (spelled' : invocation'.Spelled words)
    (plain : ∀ path ∈ invocation.command.paths, Plain path)
    (plain' : ∀ path ∈ invocation'.command.paths, Plain path) : invocation = invocation' :=
  Except.ok.inj ((parse_spelled plain spelled).symm.trans (parse_spelled plain' spelled'))

/-! ## Compiler arguments -/

/-- The words behind the first two dashes. -/
def beyond (words : List Bytes) : List Bytes :=
  (words.dropWhile (· != dashes)).drop 1

theorem beyond_dashes (words : List Bytes) : beyond (dashes :: words) = words := by
  rw [beyond, List.dropWhile_cons_of_neg (by simp), List.drop_one, List.tail_cons]

theorem beyond_cons {word : Bytes} (other : word ≠ dashes) (words : List Bytes) :
    beyond (word :: words) = beyond words := by
  rw [beyond, List.dropWhile_cons_of_pos (by simpa using other), beyond]

namespace Progress

variable {level : Level} {progress progress' : Progress} {draft : Draft} {word : Bytes}

/-- To look at a pending value collects no compiler argument. -/
theorem clangArgs_settle (settled : progress.settle = .ok draft) :
    draft.clangArgs = progress.draft.clangArgs := by
  obtain ⟨current, pending⟩ := progress
  cases pending with
  | nothing => cases settled; rfl
  | awaiting => exact nomatch settled
  | held field word =>
      obtain ⟨value, rfl⟩ := Draft.exists_of_setOnce settled
      exact Draft.clangArgs_put value

theorem clangArgs_switch {switch : Switch} (read : progress.switch switch = .ok progress') :
    progress'.draft.clangArgs = progress.draft.clangArgs := by
  obtain ⟨draft, settled, read⟩ := bind_eq_ok_iff.1 read
  obtain ⟨draft', turned, ⟨⟩⟩ := bind_eq_ok_iff.1 read
  refine Eq.trans ?_ (clangArgs_settle settled)
  unfold Draft.turnOn at turned
  split at turned
  next => exact nomatch turned
  next => exact nomatch turned
  next =>
    split at turned
    · exact nomatch turned
    · cases turned; rfl

theorem clangArgs_long {name : Bytes} {value : Option Bytes}
    (read : progress.long level name value = .ok progress') :
    progress'.draft.clangArgs = progress.draft.clangArgs := by
  unfold long at read
  split at read
  next => exact clangArgs_switch read
  next => exact nomatch read
  next =>
    obtain ⟨draft, settled, ⟨⟩⟩ := bind_eq_ok_iff.1 read
    exact clangArgs_settle settled
  next =>
    obtain ⟨draft, settled, read⟩ := bind_eq_ok_iff.1 read
    obtain ⟨draft', set, ⟨⟩⟩ := bind_eq_ok_iff.1 read
    obtain ⟨value, rfl⟩ := Draft.exists_of_setOnce set
    exact (Draft.clangArgs_put value).trans (clangArgs_settle settled)
  next => exact nomatch read

theorem clangArgs_short {letters : Bytes} (read : progress.short level letters = .ok progress') :
    progress'.draft.clangArgs = progress.draft.clangArgs := by
  induction letters generalizing progress with
  | nil => cases read; rfl
  | cons letter letters ih =>
      unfold short at read
      split at read
      next =>
        obtain ⟨middle, switched, read⟩ := bind_eq_ok_iff.1 read
        exact (ih read).trans (clangArgs_switch switched)
      next => exact nomatch read

theorem clangArgs_value (read : progress.value level word = .ok progress') :
    progress'.draft.clangArgs = progress.draft.clangArgs := by
  unfold Progress.value at read
  split at read
  next => cases read; rfl
  next =>
    unfold positional at read
    split at read
    · exact nomatch read
    · obtain ⟨draft, settled, ⟨⟩⟩ := bind_eq_ok_iff.1 read
      exact clangArgs_settle settled

end Progress

theorem Word.ofBytes_eq_escape {word : Bytes} : ofBytes word = .escape ↔ word = dashes := by
  refine ⟨fun written => ?_, fun same => same ▸ ofBytes_escape⟩
  match word with
  | [] | [_] => exact nomatch written
  | first :: second :: rest =>
    unfold ofBytes at written
    split at written
    next => exact nomatch written
    next => exact nomatch written
    next first second rest whole =>
      cases whole
      split_ifs at written with plain short bare
      rw [bne_iff_ne, not_not] at plain short
      rw [plain, short, List.isEmpty_iff.1 bare]
      rfl

/-- Where compiler arguments are taken, they are what stands behind the first two dashes. -/
theorem clangArgs_readLevel {level : Level} (takes : level.takesClangArgs = true)
    {words : List Bytes} {progress : Progress} {draft : Draft}
    (empty : progress.draft.clangArgs = []) (read : readLevel level words progress = .ok draft) :
    draft.clangArgs.map Utf8.encode = beyond words := by
  -- Up to the dashes no word collects anything, so `empty` is kept by every step.
  induction words generalizing progress with
  | nil => rw [Progress.clangArgs_settle read, empty]; rfl
  | cons word words ih =>
      by_cases ends : word = dashes
      · subst ends
        rw [readLevel, dashes, Word.ofBytes_escape] at read
        simp only [Progress.afterEscape, if_pos takes] at read
        obtain ⟨settled, -, read⟩ := bind_eq_ok_iff.1 read
        obtain ⟨args, texts, ⟨⟩⟩ := bind_eq_ok_iff.1 read
        rw [beyond_dashes, mapM_readText_eq_ok.1 texts]
      · rw [beyond_cons ends]
        rw [readLevel] at read
        split at read
        next written => exact absurd (Word.ofBytes_eq_escape.1 written) ends
        next =>
          obtain ⟨middle, first, read⟩ := bind_eq_ok_iff.1 read
          exact ih ((Progress.clangArgs_long first).trans empty) read
        next =>
          obtain ⟨middle, first, read⟩ := bind_eq_ok_iff.1 read
          exact ih ((Progress.clangArgs_short first).trans empty) read
        next =>
          obtain ⟨middle, first, read⟩ := bind_eq_ok_iff.1 read
          exact ih ((Progress.clangArgs_value first).trans empty) read

theorem Draft.clangArgs_of_source {draft : Draft} {source : SourceArgs}
    (made : draft.source = .ok source) : source.clangArgs = draft.clangArgs := by
  obtain ⟨file, -, ⟨⟩⟩ := bind_eq_ok_iff.1 made
  rfl

/-- The compiler arguments of a command are those that have been collected, and its subcommand takes
them. -/
theorem Draft.clangArgs_of_command {draft : Draft} {subcommand : Subcommand} {command : Command}
    {source : SourceArgs} (made : draft.command subcommand = .ok command)
    (about : command.source? = some source) :
    subcommand.level.takesClangArgs = true ∧ source.clangArgs = draft.clangArgs := by
  cases subcommand with
  | ast | tokens | diags | includes =>
      obtain ⟨_, read, ⟨⟩⟩ := bind_eq_ok_iff.1 made
      cases about
      exact ⟨rfl, clangArgs_of_source read⟩
  | complete =>
      obtain ⟨_, read, rest⟩ := bind_eq_ok_iff.1 made
      obtain ⟨line, -, rest⟩ := bind_eq_ok_iff.1 rest
      obtain ⟨column, -, ⟨⟩⟩ := bind_eq_ok_iff.1 rest
      cases about
      exact ⟨rfl, clangArgs_of_source read⟩
  | commands =>
      obtain ⟨_, -, ⟨⟩⟩ := bind_eq_ok_iff.1 made
      exact nomatch about
  | version =>
      cases made
      exact nomatch about

/-- Before the name of the subcommand, two dashes are a mistake. -/
theorem readTop_dashes (words : List Bytes) (progress : Progress) (invocation : Invocation) :
    readTop (dashes :: words) progress ≠ .ok invocation := by
  have unnamed : Subcommand.ofBytes? dashes = none := by decide
  have other : (dashes == helpName) = false := by decide
  have written : Word.ofBytes dashes = .escape := rfl
  rw [readTop.eq_def]
  simp only [unnamed, other, written, Bool.false_eq_true, if_false]
  split
  next => simp [readTop.eq_def]
  next => split <;> simp

/-- Of all words that are understood, the compiler arguments are what stands behind the first two
dashes. -/
theorem clangArgs_readTop {words : List Bytes} {progress : Progress} {invocation : Invocation}
    {source : SourceArgs} (read : readTop words progress = .ok invocation)
    (about : invocation.command.source? = some source) :
    source.clangArgs.map Utf8.encode = beyond words := by
  induction words generalizing progress with
  | nil =>
      rw [readTop.eq_def] at read
      cases read
  | cons word words ih =>
      -- so the first two dashes are among the words of the subcommand
      have other : word ≠ dashes := fun same => readTop_dashes words progress invocation (same ▸ read)
      rw [beyond_cons other]
      rw [readTop.eq_def] at read
      simp only at read
      split at read
      next subcommand named =>
        obtain ⟨draft, level, read⟩ := bind_eq_ok_iff.1 read
        obtain ⟨command, made, ⟨⟩⟩ := bind_eq_ok_iff.1 read
        obtain ⟨takes, args⟩ := Draft.clangArgs_of_command made about
        rw [args]
        exact clangArgs_readLevel takes rfl level
      next =>
        split_ifs at read with help
        split at read
        next written => exact absurd (Word.ofBytes_eq_escape.1 written) other
        next =>
          obtain ⟨middle, -, read⟩ := bind_eq_ok_iff.1 read
          exact ih read
        next =>
          obtain ⟨middle, -, read⟩ := bind_eq_ok_iff.1 read
          exact ih read
        next => cases read

/-! ## Reading command lines back -/

/-- An invocation whose paths are plain is read back from all words that spell it: the arguments may
stand in any order and in any spelling, and the compiler arguments may be any texts. What is collected
as compiler arguments from words that are understood is what stands behind the first two dashes, and
nothing else. -/
theorem command_lines_read_back :
    (∀ (invocation : Invocation) (words : List Bytes),
      (∀ path ∈ invocation.command.paths, Plain path) → invocation.Spelled words →
        parse words = .ok invocation) ∧
    ∀ (words : List Bytes) (invocation : Invocation) (source : SourceArgs),
      parse words = .ok invocation → invocation.command.source? = some source →
        source.clangArgs.map Utf8.encode = beyond (words.drop 1) :=
  ⟨fun _ _ => parse_spelled, fun _ _ _ => clangArgs_readTop⟩

/-- A request for candidates. -/
def completion : Invocation where
  verbose := true
  command := .complete ⟨Utf8.encode "a.c", some (Utf8.encode "b.json"), true, ["--json", "", "--"]⟩
    ⟨3, 7, false, true, some 5⟩

/-- The words of the request, with the options from the last to the first. -/
def completionWords : List Bytes :=
  ["cxkit", "-v", "complete", "--limit=5", "--patterns", "--column", "7", "--line=3", "--json",
    "--config", "b.json", "a.c", "--", "--json", "", "--"].map Utf8.encode

theorem command_lines_read_back_complete :
    (∀ path ∈ completion.command.paths, Plain path) ∧ completion.Spelled completionWords ∧
      parse completionWords = .ok completion ∧
      ["--json", "", "--"].map Utf8.encode = beyond (completionWords.drop 1) := by
  have plain : ∀ path ∈ completion.command.paths, Plain path := by
    simp only [completion, Command.paths, Plain]
    decide
  have spelled : completion.Spelled completionWords :=
    .intro (Utf8.encode "cxkit") [.on .verbose] completion.command.arguments.reverse
      ((List.reverse_perm _).append_left _) (by simp) (.cons (.short rfl) .nil)
      (.cons (.joined _ rfl) <| .cons (.long _) <| .cons (.apart _ rfl) <|
        .cons (.joined _ rfl) <| .cons (.long _) <| .cons (.apart _ rfl) <| .cons (.alone _) .nil)
      (.inl rfl)
  have read := command_lines_read_back.1 completion completionWords plain spelled
  exact ⟨plain, spelled, read, command_lines_read_back.2 completionWords completion _ read rfl⟩

end SourceAtlas.CommandLine
