import SourceAtlas.Proofs.Probes

/-!
# Queries of older engines

All queries do the same with an engine that cannot be asked everything and with one that can, but
for one: whether a cursor has a property. An engine that is asked about it has to be loaded, and an
older one may not be asked at all; once an engine is loaded, the two cannot be told apart by that
either.
-/

namespace SourceAtlas

open Act

namespace SourceUnit

variable (unit : SourceUnit)

instance : Ageless unit.spelling := by
  have (spelling : String) : Ageless (update (·.setUnitSpelling unit.cell spelling)) :=
    .updates fun flags w => w.forget_setUnitSpelling flags unit.cell spelling
  have (entry : Nat) : Ageless (do
      let spelling ← text ((← Act.engine).unit entry).spelling
      update (·.setUnitSpelling unit.cell spelling)
      return spelling) :=
    .ofEngine (fun _ => rfl) inferInstance
  exact .ofSetting (fun _ _ => rfl) fun _ => .ofStore (fun _ _ => rfl) fun _ => by
    split <;> infer_instance

instance : Ageless unit.inspect := by
  unfold inspect; infer_instance

instance : Ageless unit.entry :=
  .ofEngine (fun _ => rfl) inferInstance

instance (operation : String) (status : Int32) (problem? : Int → Option Failure) :
    Ageless (checkStatus operation status problem?) := by
  unfold checkStatus; infer_instance

end SourceUnit

/-! ## Files, locations and ranges -/

namespace SourceFile

variable (file : SourceFile)

instance : Ageless file.name := Raw.ageless_askText fun _ => rfl

instance : Ageless file.inspect := by
  unfold inspect; infer_instance

instance : Ageless file.time := Raw.ageless_ask fun _ => rfl

instance (other : SourceFile) : Ageless (file.same other) :=
  .bind inferInstance fun _ => .ofEngine (fun _ => rfl) inferInstance

instance (position : FilePosition) : Ageless (file.place position) := by
  unfold place
  cases position <;> infer_instance

instance (position : FilePosition) : Ageless (file.location position) := by
  unfold location; infer_instance

instance (query : FileQuery) : Ageless (file.answer query) := by
  cases query <;> simp only [answer] <;> infer_instance

end SourceFile

namespace Expansion

variable (expansion : Expansion)

instance : Ageless expansion.fileName := by
  unfold fileName; infer_instance

instance : Ageless expansion.inspect := by
  unfold inspect; infer_instance

end Expansion

namespace SourceLocation

variable (location : SourceLocation)

instance : Ageless location.expand := by
  have : Ageless (location.raw.ask .expansion fun _ place => place) := Raw.ageless_ask fun _ => rfl
  exact .ofSetting (fun _ _ => rfl) fun _ => by split <;> infer_instance

instance : Ageless location.inspect := by
  unfold inspect; infer_instance

instance : Ageless location.isInSystemHeader := Raw.ageless_ask fun _ => rfl

instance : Ageless location.isFromMainFile := Raw.ageless_ask fun _ => rfl

instance (other : SourceLocation) : Ageless (location.same other) := by
  unfold same; infer_instance

end SourceLocation

namespace SourceRange

variable (range : SourceRange)

instance : Ageless range.startPlace :=
  .bind (Raw.ageless_derive fun _ => rfl) inferInstance

instance : Ageless range.stopPlace :=
  .bind (Raw.ageless_derive fun _ => rfl) inferInstance

instance : Ageless range.inspect := by
  unfold inspect; infer_instance

instance (point : Expansion) : Ageless (range.containsExpansion point) := by
  unfold containsExpansion; infer_instance

instance (other : SourceRange) : Ageless (range.same other) := by
  unfold same; infer_instance

instance (start stop : SourceLocation) : Ageless (ofLocations start stop) := by
  unfold ofLocations; infer_instance

instance (query : RangeQuery) : Ageless (range.answer query) := by
  cases query <;> simp only [answer, start, stop] <;> infer_instance

end SourceRange

instance (included : SourceFile) (directive : SourceLocation) (depth : UInt32) :
    Ageless (Inclusion.make included directive depth) := by
  unfold Inclusion.make SourceLocation.expanded; infer_instance

instance (inclusion : Inclusion) (query : InclusionQuery) : Ageless (inclusion.answer query) := by
  cases query <;> simp only [Inclusion.answer, Inclusion.inspect] <;> infer_instance

/-! ## Cursors -/

namespace Cursor

instance (raw : Raw Ref) (unit : SourceUnit) (parent : Option (Raw Ref)) :
    Ageless (make raw unit parent) := by
  unfold make; infer_instance

instance (raw : Raw Ref) (unit : SourceUnit) : Ageless (ofRaw? raw unit) := by
  unfold ofRaw?; infer_instance

instance (nodes : List (Nat × Ref)) (origin : Resource) (unit : SourceUnit) :
    Ageless (ofVisits nodes origin unit) := by
  unfold ofVisits; infer_instance

instance (unit : SourceUnit) : Ageless (root unit) :=
  .bind inferInstance fun _ => .ofEngine (fun _ => rfl) inferInstance

instance (location : SourceLocation) : Ageless (atLocation location) := by
  have : Ageless (do
      let cursor := (← Act.engine).cursorAt (← Act.table location.unit.resource) location.raw.value
      ofRaw? ⟨cursor, location.unit.resource⟩ location.unit) :=
    .ofEngine (fun _ => rfl) inferInstance
  unfold atLocation
  infer_instance

end Cursor

/-- The engine says of what kind a cursor is, whatever it can be asked. -/
instance (raw : Raw Ref) : Ageless (raw.ask .cursorKind fun engine c => (engine.cursor c).kind) :=
  Raw.ageless_ask fun engine => by rw [engine.completed_cursor]; rfl

namespace SourceType

variable (type : SourceType)

instance : Ageless type.kind := .ofEngine (fun _ => rfl) inferInstance

instance : Ageless type.kindSpelling := by
  have (kind : TypeKind) : Ageless (do text ((← Act.engine).typeKindName kind)) :=
    .ofEngine (fun _ => rfl) inferInstance
  unfold kindSpelling
  infer_instance

instance : Ageless type.spelling := Raw.ageless_askText fun _ => rfl

instance : Ageless type.typedefName := Raw.ageless_askText fun _ => rfl

instance (flag : TypeFlag) : Ageless (type.has flag) := Raw.ageless_ask fun _ => rfl

instance : Ageless type.addressSpace := Raw.ageless_ask fun _ => rfl

instance (link : TypeLink) : Ageless (type.follow link) :=
  .bind (Raw.ageless_derive fun _ => rfl) inferInstance

instance : Ageless type.declarationRaw? :=
  .bind (Raw.ageless_derive fun _ => rfl) inferInstance

instance : Ageless type.declaration := by
  unfold declaration
  refine .bind inferInstance fun found => ?_
  cases found <;> infer_instance

instance (measure : TypeMeasure) : Ageless (type.measure measure) :=
  .bind (Raw.ageless_ask fun _ => rfl) inferInstance

instance (operation expected : String) (holds : Bool) :
    Ageless (type.require operation expected holds) := by
  unfold require; infer_instance

instance (field : String) : Ageless (type.offsetOf field) := by
  have : Ageless (type.raw.ask (.offsetOf (Utf8.encode field)) fun engine t =>
      engine.fieldOffset t field) :=
    Raw.ageless_ask fun _ => rfl
  unfold offsetOf
  dsimp only
  split <;> infer_instance

instance : Ageless type.refQualifier := .bind (Raw.ageless_ask fun _ => rfl) inferInstance

instance : Ageless type.exceptionSpecification :=
  .bind (Raw.ageless_ask fun _ => rfl) inferInstance

instance : Ageless type.argumentTypes := by
  have : Ageless (type.raw.ask .argumentTypeCount fun engine t => (engine.type t).argCount) :=
    Raw.ageless_ask fun _ => rfl
  unfold argumentTypes
  infer_instance

instance : Ageless type.templateArgumentCount :=
  .bind (Raw.ageless_ask fun _ => rfl) inferInstance

instance (i : Nat) : Ageless (type.templateArgument i) :=
  .bind (Raw.ageless_derive fun _ => rfl) inferInstance

instance : Ageless type.fields := .bind (Raw.ageless_ask fun _ => rfl) inferInstance

instance (other : SourceType) : Ageless (type.same other) :=
  .bind inferInstance fun _ => .ofEngine (fun _ => rfl) inferInstance

instance : Ageless type.inspect := by
  unfold inspect; infer_instance

instance (query : TypeQuery) : Ageless (type.answer query) := by
  cases query <;> simp only [answer, isFunctionVariadic, linked, elementType, elementCount,
    arraySize, align, size] <;> infer_instance

end SourceType

namespace ArgumentTypes

variable (types : ArgumentTypes)

instance (i : Nat) : Ageless (types.nth i) :=
  .bind (Raw.ageless_derive fun _ => rfl) inferInstance

instance (query : ViewQuery) : Ageless (types.answer query) := by
  cases query <;> simp only [answer, toList, inspect, get?] <;> infer_instance

end ArgumentTypes

/-! ## Tokens -/

namespace TokenStream

instance (unit : SourceUnit) (range : Raw Span) : Ageless (make unit range) :=
  .bind inferInstance fun _ => .ofEngine (fun _ => rfl) inferInstance

instance (stream : TokenStream) : Ageless stream.advance := by
  unfold advance
  cases stream.batch <;> infer_instance

instance (turns : Nat) (stream : TokenStream) (taken : List Token) :
    Ageless (drain.loop turns stream taken) := by
  induction turns generalizing stream taken with
  | zero => exact inferInstanceAs (Ageless (pure _))
  | succ turns ih =>
      unfold drain.loop
      refine .bind inferInstance fun result => ?_
      split <;> infer_instance

instance (stream : TokenStream) (query : TokensQuery) : Ageless (stream.turn query) := by
  cases query <;> simp only [turn, drain] <;> infer_instance

end TokenStream

namespace Token

variable (token : Token)

instance (question : Nat → Question) [∀ i, IsAbsent (question i).flag?] :
    Ageless (token.ask question) := by
  unfold Token.ask; infer_instance

instance (query : TokenQuery) : Ageless (token.answer query) := by
  cases query <;> simp only [answer, spelling, kind, location, extent, cursor, inspect] <;>
    infer_instance

end Token

/-! ## Queries of cursors -/

namespace Cursor

variable (cursor : Cursor)

instance : Ageless cursor.kind := by
  unfold kind; infer_instance

instance : Ageless cursor.kindSpelling := by
  have (kind : CursorKind) : Ageless (do Act.text ((← Act.engine).cursorKindName kind)) :=
    .ofEngine (fun _ => rfl) inferInstance
  unfold kindSpelling
  infer_instance

instance (operation expected : String) (holds : Bool) :
    Ageless (cursor.require operation expected holds) := by
  unfold require; infer_instance

instance (asked : CursorText) : Ageless (cursor.text? asked) :=
  Raw.ageless_askText? fun engine => engine.completed_cursorText ..

instance : Ageless cursor.spelling := by
  have : Ageless (cursor.raw.askText (.cursorText .spelling)
      (fun engine c => engine.cursorText c .spelling) cursor.memo) :=
    Raw.ageless_askText fun engine => engine.completed_cursorText ..
  unfold spelling
  infer_instance

instance : Ageless cursor.displayName := by
  have : Ageless (cursor.raw.askText (.cursorText .displayName)
      (fun engine c => engine.cursorText c .displayName) cursor.memo) :=
    Raw.ageless_askText fun engine => engine.completed_cursorText ..
  unfold displayName
  infer_instance

instance (κ : Type) [ClosedKind κ] (asked : CursorTrait) : Ageless (cursor.property κ asked) :=
  .bind (Raw.ageless_ask fun engine => by rw [engine.completed_cursor]; rfl) inferInstance

instance (asked : CursorTrait) : Ageless (cursor.propertyForm asked) := by
  cases asked <;> unfold propertyForm <;> infer_instance

instance : Ageless cursor.hash := by
  have : Ageless (cursor.raw.ask .cursorHash (fun engine c => engine.cursorHash c) cursor.memo) :=
    Raw.ageless_ask fun engine => engine.completed_cursorHash _
  unfold hash
  infer_instance

instance (other : Cursor) : Ageless (cursor.same other) :=
  .bind inferInstance fun _ =>
    .ofEngine (fun engine => congrArg pure (engine.completed_sameCursor ..)) inferInstance

instance : Ageless cursor.fieldOffset :=
  .bind (Raw.ageless_ask fun engine => by rw [engine.completed_cursor]; rfl) inferInstance

instance : Ageless cursor.bitfieldWidth :=
  .bind (Raw.ageless_ask fun engine => by rw [engine.completed_cursor]; rfl) inferInstance

instance : Ageless cursor.location := by
  have : Ageless (cursor.raw.derive .cursorLocation (fun engine c => (engine.cursor c).location)
      cursor.memo) :=
    Raw.ageless_derive fun engine => by rw [engine.completed_cursor]; rfl
  unfold location
  infer_instance

instance : Ageless cursor.expansion := by
  unfold expansion; infer_instance

instance : Ageless cursor.extent := by
  have : Ageless (cursor.raw.derive .cursorExtent (fun engine c => (engine.cursor c).extent)
      cursor.memo) :=
    Raw.ageless_derive fun engine => by rw [engine.completed_cursor]; rfl
  unfold extent
  infer_instance

instance : Ageless cursor.tokens := by
  unfold tokens; infer_instance

instance (link : CursorTypeLink) (memo : Option CellId) : Ageless (cursor.typeRaw link memo) :=
  Raw.ageless_derive fun engine => by rw [engine.completed_cursor]; rfl

instance : Ageless cursor.type := by
  unfold type; infer_instance

instance (raw : Raw Ref) : Ageless (enumTypeRaw raw) := by
  have : Ageless (raw.derive (.cursorType .enumType) fun engine c =>
      (engine.cursor c).type .enumType) :=
    Raw.ageless_derive fun engine => by rw [engine.completed_cursor]; rfl
  unfold enumTypeRaw
  infer_instance

instance (type : SourceType) (found : Option (Raw Ref)) : Ageless (declared type found) := by
  cases found <;> unfold declared <;> infer_instance

instance (type : SourceType) : Ageless (underlying type) := by
  unfold underlying; infer_instance

instance (type : SourceType) : Ageless (integerType type) := by
  rw [integerType_eq]
  dsimp only
  infer_instance

instance : Ageless cursor.enumValue := by
  have (unsigned : Bool) : Ageless (cursor.raw.ask (.enumConstant unsigned)
      (fun engine c => (engine.cursor c).value) cursor.memo) :=
    Raw.ageless_ask fun engine => by rw [engine.completed_cursor]; rfl
  unfold enumValue
  infer_instance

instance (link : CursorLink) (memo : Option CellId) : Ageless (cursor.linkRaw link memo) :=
  Raw.ageless_derive fun engine => engine.completed_cursorLink ..

instance : Ageless cursor.canonical := by
  unfold canonical; infer_instance

instance : Ageless cursor.semanticParent := by
  unfold semanticParent; infer_instance

instance : Ageless cursor.lexicalParent := by
  unfold lexicalParent; infer_instance

instance : Ageless cursor.visitParent := by
  unfold visitParent
  cases cursor.parent <;> infer_instance

instance : Ageless cursor.includedFile := by
  have : Ageless (cursor.raw.derive .includedFile fun engine c => (engine.cursor c).includedFile) :=
    Raw.ageless_derive fun engine => by rw [engine.completed_cursor]; rfl
  unfold includedFile
  infer_instance

instance : Ageless cursor.arguments := by
  have (i : Nat) : Ageless (cursor.raw.derive (.argument i) fun engine c =>
      engine.cursorArgument c i) :=
    Raw.ageless_derive fun engine => engine.completed_cursorArgument ..
  exact .bind (Raw.ageless_ask fun engine => by rw [engine.completed_cursor]; rfl) inferInstance

instance : Ageless cursor.children :=
  .bind (Raw.ageless_ask fun engine => engine.completed_childVisits _) inferInstance

instance : Ageless cursor.templateArgumentCount :=
  .bind (Raw.ageless_ask fun engine => engine.completed_templateArgumentCount _) inferInstance

instance (i : Nat) : Ageless (cursor.templateArgumentKind i) :=
  .bind (Raw.ageless_ask fun engine => by rw [engine.completed_templateArgument]) inferInstance

instance (i : Nat) : Ageless (cursor.templateArgumentType i) :=
  .bind (Raw.ageless_derive fun engine => by rw [engine.completed_templateArgument]) inferInstance

instance (i : Nat) : Ageless (cursor.templateArgumentValue i) :=
  Raw.ageless_ask fun engine => by rw [engine.completed_templateArgument]

instance (i : Nat) : Ageless (cursor.templateArgumentUnsignedValue i) :=
  Raw.ageless_ask fun engine => by rw [engine.completed_templateArgument]

instance : Ageless cursor.inspect := by
  unfold inspect; infer_instance

/-- An engine that is loaded is asked about a property if it can be, and else the answer is no. -/
theorem exec_has (flag : CursorFlag) (setting : Setting) {w : World} (loaded : w.loaded = true) :
    (cursor.has flag).exec setting w =
      if setting.engine.supports flag then
        (.ok ((setting.engine.cursor cursor.raw.value).flag flag),
          w.note (.asked (.cursorFlag flag) [cursor.raw.origin] none))
      else (.ok false, w) := by
  unfold has
  rw [exec_bind_ok exec_engine]
  split
  · exact Raw.exec_ask _ _ _ _ loaded
  · rfl

/-- Where an older engine is not asked about a property, a newer one that is loaded says no. -/
theorem agreesAt_has {engine : Engine} {w : World} (loaded : w.loaded = true) (remembers : Bool)
    (flag : CursorFlag) : AgreesAt engine remembers w (cursor.has flag) := by
  have loaded' : (w.forget engine.absent).loaded = true := loaded
  unfold AgreesAt
  rw [exec_has _ _ _ loaded, exec_has _ _ _ loaded', if_pos (engine.completed_supports flag),
    engine.completed_flag]
  cases supported : engine.supports flag with
  | true =>
      have spared : flag ∉ engine.absent := by simpa [Engine.supports] using supported
      rw [if_pos rfl, Bool.and_true, World.forget_note]
      exact Event.spares_iff.2 fun _ same => Option.some.inj same ▸ spared
  | false =>
      have missing : flag ∈ engine.absent := by simpa [Engine.supports] using supported
      rw [if_neg Bool.false_ne_true, Bool.and_false, World.forget_note_probe _ _ missing]

/-- Whatever a cursor is asked, it does the same with older engines and with newer ones, unless it
is asked whether it has a property. -/
theorem ageless_answer {query : CursorQuery} (other : ∀ flag, query ≠ .has flag) :
    Ageless (cursor.answer query) := by
  cases query with
  | has flag => exact absurd rfl (other flag)
  | enumValue =>
      refine .bind inferInstance fun value => ?_
      cases value <;> infer_instance
  | _ =>
      simp only [answer, text, resultType, underlyingTypedefType, enumType, linked, Walk.make]
      infer_instance

end Cursor

/-! ## Walks -/

namespace Walk

variable (walk : Walk)

instance : Ageless walk.advance := by
  unfold advance
  cases walk.pending.getLast? with
  | none => infer_instance
  | some node =>
      refine .bind inferInstance fun result => ?_
      cases result <;> infer_instance

instance (turns : Nat) (walk : Walk) (yielded : List Cursor) :
    Ageless (drain.loop turns walk yielded) := by
  induction turns generalizing walk yielded with
  | zero => exact inferInstanceAs (Ageless (pure _))
  | succ turns ih =>
      unfold drain.loop
      refine .bind inferInstance fun result => ?_
      split <;> infer_instance

instance : Ageless walk.drain :=
  .ofEngine (fun engine => by rw [engine.bound_completed]) inferInstance

instance (query : WalkQuery) : Ageless (walk.turn query) := by
  cases query <;> simp only [turn] <;> infer_instance

end Walk

/-! ## Diagnostics -/

namespace Diagnostic

variable (diagnostic : Diagnostic)

instance {β : Type} (question : Question) [IsAbsent question.flag?]
    (told : DiagnosticEntry → β) : Ageless (diagnostic.ask question told) :=
  .bind inferInstance fun _ => .ofEngine (fun _ => rfl) inferInstance

instance (entry : Ref) (unit : SourceUnit) (ancestors : List DiagnosticHandle)
    (anchor : Option Completion) : Ageless (ofRaw? entry unit ancestors anchor) := by
  unfold ofRaw?
  cases entry <;> infer_instance

instance : Ageless diagnostic.place := by
  unfold place; infer_instance

instance (part : Span) : Ageless (diagnostic.span part) := by
  unfold span; infer_instance

instance (i : Nat) : Ageless (diagnostic.child? i) := by
  unfold child?; infer_instance

instance : Ageless diagnostic.inspect := by
  simp only [inspect, severity, spelling]
  infer_instance

instance : Ageless diagnostic.disableOption := by
  unfold disableOption; infer_instance

instance (options : Option DisplayOptions) : Ageless (diagnostic.format options) := by
  have formatted (bits : UInt32) : Ageless (do
      Act.ask (.formatted bits) [diagnostic.handle.resource]
      text ((← Act.engine).formatted diagnostic.handle.entry bits)) :=
    .bind inferInstance fun _ => .ofEngine (fun _ => rfl) inferInstance
  unfold format
  cases options with
  | some options => infer_instance
  | none => exact .bind inferInstance fun _ => .ofEngine (fun _ => rfl) fun _ => formatted _

instance (query : DiagnosticQuery) : Ageless (diagnostic.answer query) := by
  cases query <;> simp only [answer, severity, location, spelling, ranges, fixIts, childCount,
    children, categoryNumber, categoryName, enableOption] <;> infer_instance

end Diagnostic

instance (fixIt : FixIt) (query : FixItQuery) : Ageless (fixIt.answer query) := by
  cases query <;> simp only [FixIt.answer, FixIt.inspect] <;> infer_instance

namespace DiagnosticList

variable (list : DiagnosticList)

instance : Ageless list.length :=
  .bind inferInstance fun _ => .ofEngine (fun _ => rfl) inferInstance

instance (i : Nat) : Ageless (list.get? i) := by
  have : Ageless (do
      let entries := ((← Act.engine).unit (← Act.table list.unit.resource)).diagnostics
      Diagnostic.ofRaw? entries[i]?.join list.unit) :=
    .ofEngine (fun _ => rfl) inferInstance
  unfold get?
  infer_instance

instance (query : ViewQuery) : Ageless (list.answer query) := by
  cases query <;> simp only [answer, toList, inspect] <;> infer_instance

end DiagnosticList

/-! ## Code completion -/

namespace CompletionString

variable (string : CompletionString)

instance {β : Type} (question : Question) [IsAbsent question.flag?] (told : StringEntry → β) :
    Ageless (string.ask question told) :=
  Raw.ageless_ask fun _ => rfl

instance : Ageless string.length := by
  unfold length; infer_instance

instance (i : Nat) : Ageless (string.chunkText i) :=
  .bind (Raw.ageless_ask fun _ => rfl) inferInstance

instance : Ageless string.inspect := by
  simp only [inspect, CompletionString.text, priority, availability]
  infer_instance

instance (query : StringQuery) : Ageless (string.answer query) := by
  cases query <;> simp only [answer, chunks, priority, availability, briefComment,
    CompletionString.text, chunk?] <;> infer_instance

end CompletionString

namespace Chunk

variable (chunk : Chunk)

instance : Ageless chunk.askSpelling :=
  .ofSetting (fun _ _ => rfl) fun _ => by split <;> infer_instance

instance : Ageless chunk.askKind := by
  have : Ageless (chunk.string.raw.ask (.chunkKind chunk.position) fun engine s =>
      (engine.chunk s chunk.position).kind) :=
    Raw.ageless_ask fun _ => rfl
  exact .ofSetting (fun _ _ => rfl) fun _ => by split <;> infer_instance

instance : Ageless chunk.nested :=
  .bind (Raw.ageless_derive fun _ => rfl) inferInstance

instance (query : ChunkQuery) : Ageless (chunk.turn query) := by
  cases query <;> simp only [turn, Object.steady, spelled, classified] <;> infer_instance

end Chunk

instance (candidate : Candidate) (query : CandidateQuery) : Ageless (candidate.answer query) := by
  cases query <;> simp only [Candidate.answer, Candidate.inspect] <;> infer_instance

instance (results : Completion) (query : CompletionQuery) : Ageless (results.answer query) := by
  rcases query with (_ | _ | _ | _ | _) | _ <;>
    simp only [Completion.answer, Completion.toList, Completion.get?, Completion.diagnostics] <;>
    infer_instance

/-! ## Compilation databases -/

namespace CompileCommand

variable (command : CompileCommand)

instance {β : Type} (question : Question) [IsAbsent question.flag?] (told : CommandEntry → β) :
    Ageless (command.ask question told) :=
  Raw.ageless_ask fun _ => rfl

instance : Ageless command.inspect := by
  simp only [inspect, directory, filename, arguments]
  infer_instance

instance (query : CommandQuery) : Ageless (command.answer query) := by
  cases query <;> simp only [answer, directory, filename, arguments] <;> infer_instance

end CompileCommand

namespace CommandList

variable (list : CommandList)

instance : Ageless list.length := by
  unfold length; infer_instance

instance (i : Nat) : Ageless (list.command? i) := by
  unfold command?; infer_instance

instance (i : Nat) : Ageless (list.get? i) := by
  unfold get?; infer_instance

instance (query : ViewQuery) : Ageless (list.answer query) := by
  cases query <;> simp only [answer, toList, inspect] <;> infer_instance

end CommandList

namespace Database

variable (database : Database)

instance (commands : Option CommandEntries) : Ageless (database.listOf? commands) := by
  have : Ageless
      (updateGet fun w => ({ w with commandLists := w.commandLists + 1 }, w.commandLists)) :=
    .updatesGet fun _ _ => rfl
  unfold listOf?
  cases commands <;> infer_instance

instance (query : DatabaseQuery) : Ageless (database.answer query) := by
  cases query with
  | commandsFor file =>
      simp only [answer, commandsFor]
      split <;> infer_instance
  | _ =>
      simp only [answer, allCommands]
      infer_instance

instance (directory : Bytes) : Ageless (openIn directory) := by
  unfold openIn
  split
  next => infer_instance
  next =>
    refine .bind inferInstance fun _ => .bind inferInstance fun _ => .ofEngine (fun _ => rfl) ?_
    intro engine
    dsimp only
    split <;> infer_instance

end Database

/-! ## Indexes and units -/

namespace SourceUnit

variable (unit : SourceUnit)

instance (unsaved : List UnsavedFile) (options : Option UInt32) :
    Ageless (unit.askReparse unsaved options) := by
  unfold askReparse
  cases options <;> unfold reparseBits <;> infer_instance

instance (unsaved : List UnsavedFile) (options : Option UInt32) :
    Ageless (unit.reparse unsaved options) := by
  have (table : Option Nat) : Ageless (update (·.retable unit.resource table)) :=
    .updates fun flags w => w.forget_retable flags unit.resource table
  rw [reparse_eq]
  exact .ofStore (fun _ _ => rfl) inferInstance

instance (path : Bytes) : Ageless (unit.save path) := by
  unfold save; infer_instance

instance (path : Bytes) (line column : UInt32) (unsaved : List UnsavedFile)
    (options : CompleteOptions) : Ageless (unit.complete path line column unsaved options) := by
  unfold complete
  refine .bind inferInstance fun _ => .bind inferInstance fun _ => .ofEngine (fun _ => rfl) ?_
  intro engine
  split <;> infer_instance

instance (name : Bytes) : Ageless (unit.fileHandle? name) :=
  .bind inferInstance fun _ => .bind inferInstance fun _ =>
    .ofEngine (fun _ => rfl) inferInstance

instance (range : SourceRange) : Ageless (unit.tokens range) := by
  unfold tokens; infer_instance

instance : Ageless unit.inclusions := by
  have (entry : InclusionEntry) (place : Option Place) (file : Option SourceFile) :
      Ageless (match place, file with
        | some place, some file => some <$>
          Inclusion.make file { raw := ⟨place, unit.resource⟩, unit } entry.depth
        | _, _ => pure none) := by
    split <;> infer_instance
  unfold inclusions
  infer_instance

instance (query : UnitQuery) : Ageless (unit.answer query) := by
  cases query <;> simp only [answer, diagnostics, file?, location?, extent?] <;> infer_instance

end SourceUnit

namespace Index

instance (config : IndexConfig) : Ageless (create config) := by
  have : Ageless (updateGet fun w => ({ w with indexes := w.indexes + 1 }, w.indexes)) :=
    .updatesGet fun _ _ => rfl
  exact .bind inferInstance fun _ => .bind inferInstance fun _ =>
    .ofEngine (fun _ => rfl) inferInstance

variable (index : Index)

instance (source : SourceEntry) (name : String) : Ageless (index.adopt source name) := by
  have (table : Nat) : Ageless (updateGet fun w =>
      ({ w with instances := w.instances.push table }, w.instances.size)) :=
    .updatesGet fun _ _ => rfl
  unfold adopt
  cases source.unit <;> infer_instance

instance (path : Option Bytes) (args : List String) (unsaved : List UnsavedFile)
    (options : ParseOptions) : Ageless (index.parse path args unsaved options) :=
  .bind inferInstance fun _ => .bind inferInstance fun _ =>
    .ofEngine (fun _ => rfl) inferInstance

instance (path : Bytes) : Ageless (index.read path) :=
  .bind inferInstance fun _ => .bind inferInstance fun _ =>
    .ofEngine (fun _ => rfl) inferInstance

instance (query : IndexQuery) : Ageless (index.answer query) := by
  cases query <;> simp only [answer] <;> infer_instance

end Index

/-! ## Turns of objects and of the session -/

namespace Object

instance (receiver : Object) (answer : Act Answer) [Ageless answer] :
    Ageless (receiver.steady answer) := by
  unfold steady; infer_instance

instance (old new : Object) : Ageless (old.become new) := by
  unfold become; infer_instance

instance (location : SourceLocation) (query : LocationQuery) : Ageless (location.turn query) := by
  cases query <;> simp only [SourceLocation.turn] <;> infer_instance

variable {engine : Engine} {w : World} {name : String} {args : Json} {act : Act Turn}

/-- Whatever an object is asked, it does the same with an older engine and a newer one, once they
are loaded. -/
theorem agreesAt_turn? {object : Object} (found : object.turn? name args = some act)
    (loaded : w.loaded = true) (remembers : Bool) : AgreesAt engine remembers w act := by
  cases object with
  | cursor held =>
      obtain ⟨query, -, rfl⟩ := Option.map_eq_some_iff.1 found
      by_cases property : ∃ flag, query = .has flag
      · obtain ⟨flag, rfl⟩ := property
        refine .bind (.bind (held.agreesAt_has loaded remembers flag) fun _ _ _ => rfl) ?_
        exact fun _ _ _ => rfl
      · have := held.ageless_answer fun flag same => property ⟨flag, same⟩
        exact Ageless.agrees ..
  | location held | tokens held | walk held | chunk held =>
      obtain ⟨query, -, rfl⟩ := Option.map_eq_some_iff.1 found
      exact Ageless.agrees ..
  | _ =>
      obtain ⟨query, -, rfl⟩ := Option.map_eq_some_iff.1 found
      exact Ageless.agrees ..

/-- What two objects are asked together does not depend on the age of the engine. -/
theorem ageless_pairTurn? {first second : Object} {query : PairQuery}
    (found : first.pairTurn? second query = some act) : Ageless act := by
  unfold pairTurn? at found
  split at found <;> cases found <;> infer_instance

end Object

namespace State

instance : Ageless engineVersion :=
  .bind inferInstance fun _ => .bind inferInstance fun _ =>
    .ofEngine (fun _ => rfl) inferInstance

instance : Ageless editingDefaults :=
  .bind inferInstance fun _ => .bind inferInstance fun _ =>
    .ofEngine (fun _ => rfl) inferInstance

instance (kind : CursorKind) : Ageless (inspectCursorKind kind) :=
  .bind inferInstance fun _ => .ofEngine (fun _ => rfl) inferInstance

instance (kind : TypeKind) : Ageless (inspectTypeKind kind) :=
  .bind inferInstance fun _ => .ofEngine (fun _ => rfl) inferInstance

/-- What the session is asked does not depend on the age of the engine. -/
theorem ageless_sessionQuery? {name : String} {args : Json} {act : Act Answer}
    (found : sessionQuery? name args = some act) : Ageless act := by
  unfold sessionQuery? at found
  split at found <;> cases found
  case h_8 =>
    -- how many resources are out
    exact .ofStore (fun _ _ => rfl) inferInstance
  case h_9 =>
    -- how often questions were asked
    refine .ofStore (fun flags w => ?_) inferInstance
    rw [countQuestions_forget]
  all_goals infer_instance

end State

end SourceAtlas
