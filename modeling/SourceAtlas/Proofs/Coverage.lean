import SourceAtlas.Proofs.Guarantees

/-!
# What queries are made of

Whatever an object or the session is asked runs small actions, so a guarantee covers it. There is
one fact for each action that several queries use, and one for the queries of each kind of object.
A query asks of the guarantee what the query does: to fail, to visit children, to remember, to count
references.
-/

namespace SourceAtlas

open Act

variable {setting : Setting} {G : Guarantee setting}

/-! ## Files, locations and ranges -/

namespace SourceFile

variable (file : SourceFile)

instance : G.Covers file.name := by
  unfold name; infer_instance

instance : G.Covers file.inspect := by
  unfold inspect; infer_instance

instance (other : SourceFile) : G.Covers (file.same other) := by
  unfold same; infer_instance

instance (position : FilePosition) : G.Covers (file.place position) := by
  unfold place
  cases position <;> infer_instance

instance [G.Counting] (position : FilePosition) : G.Covers (file.location position) := by
  unfold location; infer_instance

instance [G.Counting] (query : FileQuery) : G.Covers (file.answer query) := by
  cases query <;> simp only [answer, time] <;> infer_instance

end SourceFile

namespace Expansion

variable (expansion : Expansion)

instance : G.Covers expansion.fileName := by
  unfold fileName; infer_instance

instance : G.Covers expansion.inspect := by
  unfold inspect; infer_instance

end Expansion

namespace SourceLocation

variable (location : SourceLocation)

instance : G.Covers location.expand := by
  unfold expand
  refine .bind inferInstance fun _ => ?_
  split <;> infer_instance

instance : G.Covers location.inspect := by
  unfold inspect; infer_instance

instance : G.Covers location.isInSystemHeader := by
  unfold isInSystemHeader; infer_instance

instance : G.Covers location.isFromMainFile := by
  unfold isFromMainFile; infer_instance

instance (other : SourceLocation) : G.Covers (location.same other) := by
  unfold same; infer_instance

end SourceLocation

namespace SourceRange

variable (range : SourceRange)

instance : G.Covers range.startPlace := by
  unfold startPlace; infer_instance

instance : G.Covers range.stopPlace := by
  unfold stopPlace; infer_instance

instance : G.Covers range.inspect := by
  unfold inspect; infer_instance

instance (point : Expansion) : G.Covers (range.containsExpansion point) := by
  unfold containsExpansion; infer_instance

instance (other : SourceRange) : G.Covers (range.same other) := by
  unfold same; infer_instance

instance [G.Counting] [G.Failing] [G.Naming] (start stop : SourceLocation) :
    G.Covers (ofLocations start stop) := by
  unfold ofLocations; infer_instance

instance [G.Counting] (query : RangeQuery) : G.Covers (range.answer query) := by
  cases query <;> simp only [answer, start, stop] <;> infer_instance

end SourceRange

section Counting

variable [G.Counting]

instance (included : SourceFile) (directive : SourceLocation) (depth : UInt32) :
    G.Covers (Inclusion.make included directive depth) := by
  unfold Inclusion.make SourceLocation.expanded; infer_instance

instance (inclusion : Inclusion) (query : InclusionQuery) : G.Covers (inclusion.answer query) := by
  cases query <;> simp only [Inclusion.answer, Inclusion.inspect] <;> infer_instance

/-! ## Cursors -/

namespace Cursor

instance (raw : Raw Ref) (unit : SourceUnit) (parent : Option (Raw Ref)) :
    G.Covers (make raw unit parent) := by
  unfold make; infer_instance

instance (raw : Raw Ref) (unit : SourceUnit) : G.Covers (ofRaw? raw unit) := by
  unfold ofRaw?; infer_instance

instance (nodes : List (Nat × Ref)) (origin : Resource) (unit : SourceUnit) :
    G.Covers (ofVisits nodes origin unit) := by
  unfold ofVisits; infer_instance

end Cursor

end Counting

instance [asks : G.Asking] [G.Counting] [G.Panicking] : G.Visiting where
  children cursor := by
    have (question : Question) (operands : List Resource) : G.Covers (ask question operands) :=
      ⟨asks.ask question operands none⟩
    have covered : G.Covers cursor.children := by
      unfold Cursor.children Raw.ask; infer_instance
    exact covered.holds
  fields type := by
    have (question : Question) (operands : List Resource) : G.Covers (ask question operands) :=
      ⟨asks.ask question operands none⟩
    have covered : G.Covers type.fields := by
      unfold SourceType.fields Raw.ask; infer_instance
    exact covered.holds

namespace SourceType

variable (type : SourceType)

instance : G.Covers type.kind := by
  unfold kind; infer_instance

instance (link : TypeLink) : G.Covers (type.follow link) := by
  unfold follow; infer_instance

instance (flag : TypeFlag) : G.Covers (type.has flag) := by
  unfold has; infer_instance

instance (asked : TypeMeasure) : G.Covers (type.measure asked) := by
  unfold measure; infer_instance

instance : G.Covers type.declarationRaw? := by
  unfold declarationRaw?; infer_instance

instance [G.Counting] : G.Covers type.declaration := by
  unfold declaration
  refine .bind inferInstance fun _ => ?_
  split <;> infer_instance

instance : G.Covers type.inspect := by
  unfold inspect spelling; infer_instance

instance (other : SourceType) : G.Covers (type.same other) := by
  unfold same; infer_instance

instance [visits : G.Visiting] : G.Covers type.fields := ⟨visits.fields type⟩

section Failing

variable [G.Failing]

instance (operation expected : String) (holds : Bool) :
    G.Covers (type.require operation expected holds) := by
  unfold require; infer_instance

instance (field : String) : G.Covers (type.offsetOf field) := by
  unfold offsetOf
  dsimp only
  split <;> infer_instance

instance [G.Counting] [G.Visiting] (query : TypeQuery) : G.Covers (type.answer query) := by
  cases query <;> simp only [answer, kindSpelling, spelling, typedefName, isFunctionVariadic,
    linked, elementType, elementCount, arraySize, align, size, addressSpace, refQualifier,
    exceptionSpecification, argumentTypes, templateArgumentCount, templateArgument] <;>
    infer_instance

end Failing

end SourceType

instance [G.Counting] (types : ArgumentTypes) (i : Nat) : G.Covers (types.nth i) := by
  unfold ArgumentTypes.nth; infer_instance

instance [G.Counting] (types : ArgumentTypes) (query : ViewQuery) :
    G.Covers (types.answer query) := by
  cases query <;> simp only [ArgumentTypes.answer, ArgumentTypes.toList, ArgumentTypes.inspect,
    ArgumentTypes.get?] <;> infer_instance

namespace Cursor

variable (cursor : Cursor)

instance : G.Covers cursor.kind := by
  unfold kind; infer_instance

instance (asked : CursorText) [(Question.cursorText asked).Free] :
    G.Covers (cursor.text? asked) := by
  unfold Cursor.text?; infer_instance

instance (asked : CursorTrait) : G.Covers (cursor.propertyForm asked) := by
  cases asked <;> unfold propertyForm property <;> infer_instance

instance (flag : CursorFlag) : G.Covers (cursor.has flag) := by
  unfold has; infer_instance

instance (other : Cursor) : G.Covers (cursor.same other) := by
  unfold same; infer_instance

instance (link : CursorTypeLink) [(Question.cursorType link).Free] :
    G.Covers (cursor.typeRaw link) := by
  unfold typeRaw; infer_instance

instance (link : CursorLink) [(Question.cursorLink link).Free] :
    G.Covers (cursor.linkRaw link) := by
  unfold linkRaw; infer_instance

instance [visits : G.Visiting] : G.Covers cursor.children := ⟨visits.children cursor⟩

section Failing

variable [G.Failing]

instance (operation expected : String) (holds : Bool) :
    G.Covers (cursor.require operation expected holds) := by
  unfold require; infer_instance

instance (raw : Raw Ref) : G.Covers (enumTypeRaw raw) := by
  unfold enumTypeRaw; infer_instance

instance (type : SourceType) (found : Option (Raw Ref)) : G.Covers (declared type found) := by
  cases found <;> unfold declared <;> infer_instance

instance (type : SourceType) : G.Covers (underlying type) := by
  unfold underlying; infer_instance

instance (type : SourceType) : G.Covers (integerType type) := by
  rw [integerType_eq]
  dsimp only
  infer_instance

instance [G.Counting] (location : SourceLocation) : G.Covers (atLocation location) := by
  unfold atLocation; infer_instance

end Failing

instance [G.Counting] (unit : SourceUnit) : G.Covers (root unit) := by
  unfold root; infer_instance

instance [G.Counting] : G.Covers cursor.visitParent := by
  unfold visitParent
  cases cursor.parent <;> infer_instance

end Cursor
namespace Cursor

variable (cursor : Cursor)

/-! ### What is remembered about cursors -/

section Remembering

variable [G.Remembering]

instance : G.Covers cursor.spelling := by
  unfold spelling; infer_instance

instance : G.Covers cursor.displayName := by
  unfold displayName; infer_instance

instance : G.Covers cursor.hash := by
  unfold hash; infer_instance

section Counting

variable [G.Counting]

instance : G.Covers cursor.location := by
  unfold location; infer_instance

instance : G.Covers cursor.expansion := by
  unfold expansion; infer_instance

instance : G.Covers cursor.inspect := by
  unfold inspect; infer_instance

instance : G.Covers cursor.extent := by
  unfold extent; infer_instance

instance : G.Covers cursor.type := by
  unfold type typeRaw; infer_instance

instance : G.Covers cursor.canonical := by
  unfold canonical linkRaw; infer_instance

instance : G.Covers cursor.semanticParent := by
  unfold semanticParent linkRaw; infer_instance

instance : G.Covers cursor.lexicalParent := by
  unfold lexicalParent linkRaw; infer_instance

instance [G.Failing] : G.Covers cursor.enumValue := by
  unfold enumValue; infer_instance

end Counting

end Remembering

end Cursor

/-! ## Tokens -/

namespace TokenStream

section Counting

variable [G.Counting]

instance (unit : SourceUnit) (range : Raw Span) : G.Covers (make unit range) := by
  unfold make; infer_instance

instance (stream : TokenStream) : G.Covers stream.advance := by
  unfold advance
  cases stream.batch <;> infer_instance

instance (turns : Nat) (stream : TokenStream) (taken : List Token) :
    G.Covers (drain.loop turns stream taken) := by
  induction turns generalizing stream taken with
  | zero => exact inferInstanceAs (G.Covers (pure _))
  | succ turns ih =>
      unfold drain.loop
      refine .bind inferInstance fun _ => ?_
      split <;> infer_instance

instance (stream : TokenStream) (query : TokensQuery) : G.Covers (stream.turn query) := by
  cases query <;> simp only [turn, drain] <;> infer_instance

end Counting

end TokenStream

instance [G.Counting] (token : Token) (query : TokenQuery) : G.Covers (token.answer query) := by
  cases query <;> simp only [Token.answer, Token.spelling, Token.kind, Token.location,
    Token.extent, Token.cursor, Token.inspect, Token.ask] <;> infer_instance

/-! ## Queries of cursors -/

namespace Cursor

variable (cursor : Cursor)

instance [G.Counting] [G.Remembering] : G.Covers cursor.tokens := by
  unfold tokens; infer_instance

end Cursor

/-! ## Diagnostics -/

namespace Diagnostic

variable (diagnostic : Diagnostic)

instance {β : Type} (question : Question) [question.Free] (told : DiagnosticEntry → β) :
    G.Covers (diagnostic.ask question told) := by
  unfold Diagnostic.ask; infer_instance

instance : G.Covers diagnostic.severity := by
  unfold severity; infer_instance

instance : G.Covers diagnostic.place := by
  unfold place; infer_instance

instance : G.Covers diagnostic.spelling := by
  unfold spelling; infer_instance

instance : G.Covers diagnostic.inspect := by
  unfold inspect; infer_instance

instance : G.Covers diagnostic.disableOption := by
  unfold disableOption; infer_instance

instance [G.Failing] (options : Option DisplayOptions) : G.Covers (diagnostic.format options) := by
  unfold format
  cases options <;> infer_instance

section Counting

variable [G.Counting]

instance (entry : Ref) (unit : SourceUnit) (ancestors : List DiagnosticHandle)
    (anchor : Option Completion) : G.Covers (ofRaw? entry unit ancestors anchor) := by
  unfold ofRaw?
  cases entry <;> infer_instance

instance (part : Span) : G.Covers (diagnostic.span part) := by
  unfold span; infer_instance

instance (i : Nat) : G.Covers (diagnostic.child? i) := by
  unfold child?; infer_instance

instance [G.Failing] (query : DiagnosticQuery) : G.Covers (diagnostic.answer query) := by
  cases query <;> simp only [answer, location, ranges, fixIts, childCount, children,
    categoryNumber, categoryName, enableOption] <;> infer_instance

end Counting

end Diagnostic

namespace DiagnosticList

variable (list : DiagnosticList)

instance : G.Covers list.length := by
  unfold length; infer_instance

instance [G.Naming] : G.Covers list.inspect := by
  unfold inspect; infer_instance

section Counting

variable [G.Counting]

instance (i : Nat) : G.Covers (list.get? i) := by
  unfold get?; infer_instance

instance : G.Covers list.toList := by
  unfold toList; infer_instance

instance [G.Naming] (query : ViewQuery) : G.Covers (list.answer query) := by
  cases query <;> simp only [answer] <;> infer_instance

instance (fixIt : FixIt) (query : FixItQuery) : G.Covers (fixIt.answer query) := by
  cases query <;> simp only [FixIt.answer, FixIt.inspect] <;> infer_instance

end Counting

end DiagnosticList

/-! ## Code completion -/

namespace CompletionString

variable (string : CompletionString)

instance {β : Type} (question : Question) [question.Free] (told : StringEntry → β) :
    G.Covers (string.ask question told) := by
  unfold CompletionString.ask; infer_instance

instance : G.Covers string.length := by
  unfold length; infer_instance

instance (i : Nat) : G.Covers (string.chunkText i) := by
  unfold chunkText; infer_instance

instance : G.Covers string.inspect := by
  simp only [inspect, CompletionString.text, priority, availability]
  infer_instance

instance [G.Counting] (query : StringQuery) : G.Covers (string.answer query) := by
  cases query <;> simp only [answer, chunks, priority, availability, briefComment,
    CompletionString.text, chunk?] <;> infer_instance

end CompletionString

namespace Chunk

variable (chunk : Chunk)

instance : G.Covers chunk.askSpelling := by
  unfold askSpelling
  refine .bind inferInstance fun _ => ?_
  split <;> infer_instance

instance : G.Covers chunk.askKind := by
  unfold askKind
  refine .bind inferInstance fun _ => ?_
  split <;> infer_instance

instance [G.Counting] (query : ChunkQuery) : G.Covers (chunk.turn query) := by
  cases query <;> simp only [turn, Object.steady, spelled, classified, nested] <;> infer_instance

end Chunk

section Counting

variable [G.Counting]

instance (candidate : Candidate) (query : CandidateQuery) :
    G.Covers (candidate.answer query) := by
  cases query <;> simp only [Candidate.answer, Candidate.inspect] <;> infer_instance

instance (results : Completion) (query : CompletionQuery) : G.Covers (results.answer query) := by
  rcases query with (_ | _ | _ | _ | _) | _ <;>
    simp only [Completion.answer, Completion.toList, Completion.get?, Completion.diagnostics] <;>
    infer_instance

end Counting

/-! ## Compilation databases -/

namespace CompileCommand

variable (command : CompileCommand)

instance {β : Type} (question : Question) [question.Free] (told : CommandEntry → β) :
    G.Covers (command.ask question told) := by
  unfold CompileCommand.ask; infer_instance

instance : G.Covers command.inspect := by
  simp only [inspect, directory, filename, arguments]
  infer_instance

instance [G.Counting] (query : CommandQuery) : G.Covers (command.answer query) := by
  cases query <;> simp only [answer, directory, filename, arguments] <;> infer_instance

end CompileCommand

namespace CommandList

variable (list : CommandList)

instance : G.Covers list.length := by
  unfold length; infer_instance

instance (i : Nat) : G.Covers (list.command? i) := by
  unfold command?; infer_instance

instance [G.Counting] (i : Nat) : G.Covers (list.get? i) := by
  unfold get?; infer_instance

instance [G.Counting] (query : ViewQuery) : G.Covers (list.answer query) := by
  cases query <;> simp only [answer, toList, inspect] <;> infer_instance

end CommandList

namespace Database

section Counting

variable [counts : G.Counting]

instance (database : Database) (commands : Option CommandEntries) :
    G.Covers (database.listOf? commands) := by
  have : G.Covers
      (updateGet fun w => ({ w with commandLists := w.commandLists + 1 }, w.commandLists)) :=
    ⟨counts.countList⟩
  unfold listOf?
  cases commands <;> infer_instance

instance [G.Failing] [G.Requesting] (database : Database) (file : Bytes) :
    G.Covers (database.commandsFor file) := by
  unfold commandsFor
  split <;> infer_instance

instance [G.Failing] [G.Requesting] (database : Database) (query : DatabaseQuery) :
    G.Covers (database.answer query) := by
  cases query <;> simp only [answer, allCommands] <;> infer_instance

instance [G.Failing] [G.Requesting] [G.Loading] (directory : Bytes) :
    G.Covers (openIn directory) := by
  unfold openIn
  split
  next => infer_instance
  next =>
    refine .after fun _ _ _ _ => .after fun _ _ _ _ => .after fun told _ _ _ => ?_
    dsimp only
    split <;> infer_instance

end Counting

end Database

/-! ## Indexes and units -/

namespace SourceUnit

variable (unit : SourceUnit)

section Requesting

variable [G.Failing] [G.Requesting]

instance (unsaved : List UnsavedFile) (options : Option UInt32) :
    G.Covers (unit.askReparse unsaved options) := by
  unfold askReparse
  cases options <;> unfold reparseBits <;> infer_instance

instance (path : Bytes) : G.Covers (unit.save path) := by
  unfold save; infer_instance

instance (name : Bytes) : G.Covers (unit.fileHandle? name) := by
  unfold fileHandle?; infer_instance

section Counting

variable [counts : G.Counting]

instance [renews : G.Renewing] (unsaved : List UnsavedFile) (options : Option UInt32) :
    G.Covers (unit.reparse unsaved options) := by
  have (table : Option Nat) : G.Covers (update (·.retable unit.resource table)) :=
    ⟨renews.renewUnit unit.resource table⟩
  rw [reparse_eq]
  infer_instance

instance (path : Bytes) (line column : UInt32) (unsaved : List UnsavedFile)
    (options : CompleteOptions) : G.Covers (unit.complete path line column unsaved options) := by
  unfold complete
  refine .bind inferInstance fun _ => .bind inferInstance fun _ => .bind inferInstance fun _ => ?_
  split <;> infer_instance

instance (name : Bytes) : G.Covers (unit.file? name) := by
  unfold file?; infer_instance

instance (name : Bytes) (position : FilePosition) : G.Covers (unit.location? name position) := by
  unfold location?; infer_instance

instance [G.Naming] (name : Bytes) (start stop : FilePosition) :
    G.Covers (unit.extent? name start stop) := by
  unfold extent?; infer_instance

end Counting

end Requesting

instance [G.Failing] [G.Counting] [G.Naming] (range : SourceRange) :
    G.Covers (unit.tokens range) := by
  unfold tokens; infer_instance

instance [G.Counting] : G.Covers unit.inclusions := by
  have (entry : InclusionEntry) (place : Option Place) (file : Option SourceFile) :
      G.Covers (match place, file with
        | some place, some file => some <$>
          Inclusion.make file { raw := ⟨place, unit.resource⟩, unit } entry.depth
        | _, _ => pure none) := by
    split <;> infer_instance
  unfold inclusions
  infer_instance

/-- To parse a unit again is more than some guarantees allow. -/
theorem covers_answer [G.Counting] [G.Failing] [G.Requesting] [G.Naming] (query : UnitQuery)
    (reparses : ∀ unsaved options, query = .reparse unsaved options →
      G.Covers (unit.reparse unsaved options)) : G.Covers (unit.answer query) := by
  cases query with
  | reparse unsaved options =>
      have := reparses unsaved options rfl
      simp only [answer]
      infer_instance
  | _ =>
      simp only [answer, diagnostics]
      infer_instance

instance [G.Counting] [G.Failing] [G.Requesting] [G.Naming] [G.Renewing] (query : UnitQuery) :
    G.Covers (unit.answer query) :=
  unit.covers_answer query fun _ _ _ => inferInstance

end SourceUnit

namespace Index

variable [counts : G.Counting] [G.Failing]

instance [G.Requesting] [G.Loading] (config : IndexConfig) : G.Covers (create config) := by
  have : G.Covers (updateGet fun w => ({ w with indexes := w.indexes + 1 }, w.indexes)) :=
    ⟨counts.countIndex⟩
  have (label : Nat) : G.Covers (do
      let resource ← acquire .index label
      return (⟨← newCell (some resource) .index, resource, config⟩ : Index)) := by
    infer_instance
  unfold create; infer_instance

instance (index : Index) (source : SourceEntry) (name : String) :
    G.Covers (index.adopt source name) := by
  have (table : Nat) : G.Covers (updateGet fun w =>
      ({ w with instances := w.instances.push table }, w.instances.size)) :=
    ⟨counts.addUnit table⟩
  unfold adopt
  cases source.unit <;> infer_instance

instance [G.Requesting] (index : Index) (query : IndexQuery) : G.Covers (index.answer query) := by
  cases query <;> simp only [answer, parse, read] <;> infer_instance

end Index

/-! ## Walks -/

namespace Walk

variable [G.Counting] [G.Visiting] [G.Attempting] (walk : Walk)

instance : G.Covers walk.advance := by
  unfold advance
  cases walk.pending.getLast? with
  | none => infer_instance
  | some node =>
      refine .bind inferInstance fun _ => ?_
      split <;> infer_instance

instance (turns : Nat) (walk : Walk) (yielded : List Cursor) :
    G.Covers (drain.loop turns walk yielded) := by
  induction turns generalizing walk yielded with
  | zero => exact inferInstanceAs (G.Covers (pure _))
  | succ turns ih =>
      unfold drain.loop
      refine .bind inferInstance fun _ => ?_
      split <;> infer_instance

instance (query : WalkQuery) : G.Covers (walk.turn query) := by
  cases query <;> simp only [turn, drain] <;> infer_instance

end Walk

/-! ## Queries -/

section Counting

variable [G.Counting]

instance (location : SourceLocation) [G.Failing] (query : LocationQuery) :
    G.Covers (location.turn query) := by
  cases query <;> simp only [SourceLocation.turn, Object.steady, Object.become] <;> infer_instance

end Counting

namespace Cursor

variable (cursor : Cursor)

instance [G.Remembering] (asked : CursorText) : G.Covers (cursor.text? asked) := by
  unfold Cursor.text?; infer_instance

/-- To show the value of an enumeration constant is covered by any guarantee. -/
theorem covers_shown (G : Guarantee setting) (value : EnumValue) : G.Covers (match value with
    | .signed n => pure (.plain (.obj [("signed", .num n.toInt)]))
    | .unsigned n => (pure (.plain (.obj [("unsigned", .nat n.toNat)])) : Act Answer)) := by
  split <;> infer_instance

instance [G.Counting] [G.Failing] [G.Visiting] [G.Remembering] (query : CursorQuery) :
    G.Covers (cursor.answer query) := by
  have := covers_shown G
  cases query <;> simp only [answer, kindSpelling, Cursor.text, fieldOffset, bitfieldWidth,
    resultType, underlyingTypedefType, enumType, linked, includedFile, arguments, Walk.make,
    templateArgumentCount, templateArgumentKind, templateArgumentType, templateArgumentValue,
    templateArgumentUnsignedValue] <;>
    infer_instance

end Cursor

/-! ## Turns of objects and of the session -/

namespace Object

instance (receiver : Object) (answer : Act Answer) [G.Covers answer] :
    G.Covers (receiver.steady answer) := by
  unfold steady; infer_instance

variable [G.Counting]

instance (old new : Object) : G.Covers (old.become new) := by
  unfold become; infer_instance

/-- Whatever an object is asked, it does what the guarantee allows, if walks do and units that are
parsed again. -/
theorem covers_turn? [G.Failing] [G.Requesting] [G.Visiting] [G.Remembering] {object : Object} {name : String}
    {args : Json} {act : Act Turn} (found : object.turn? name args = some act)
    (walks : ∀ walk query, object = .walk walk → act = walk.turn query → G.Covers act)
    (reparses : ∀ unit unsaved options, object = .unit unit →
      UnitQuery.ofName? name args = some (.reparse unsaved options) →
      G.Covers (unit.reparse unsaved options)) : G.Covers act := by
  cases object with
  | walk held =>
      obtain ⟨query, -, same⟩ := Option.map_eq_some_iff.1 found
      exact walks held query rfl same.symm
  | unit held =>
      obtain ⟨query, named, rfl⟩ := Option.map_eq_some_iff.1 found
      have := held.covers_answer query fun unsaved options same =>
        reparses held unsaved options rfl (same ▸ named)
      infer_instance
  | _ =>
      obtain ⟨query, -, rfl⟩ := Option.map_eq_some_iff.1 found
      infer_instance

/-- Whatever two objects are asked together, they do what the guarantee allows. -/
theorem covers_pairTurn? [G.Failing] [G.Naming] {first second : Object} {query : PairQuery}
    {act : Act Turn} (found : first.pairTurn? second query = some act) : G.Covers act := by
  unfold pairTurn? at found
  split at found <;> cases found <;> infer_instance

end Object

namespace State

instance [G.Loading] : G.Covers engineVersion := by
  unfold engineVersion; infer_instance

instance [G.Loading] : G.Covers editingDefaults := by
  unfold editingDefaults; infer_instance

instance (kind : CursorKind) : G.Covers (inspectCursorKind kind) := by
  unfold inspectCursorKind; infer_instance

instance (kind : TypeKind) : G.Covers (inspectTypeKind kind) := by
  unfold inspectTypeKind; infer_instance

/-- Whatever the session is asked, it does what the guarantee allows. -/
theorem covers_sessionQuery? [G.Counting] [G.Failing] [G.Requesting] [G.Loading] {name : String}
    {args : Json} {act : Act Answer} (found : sessionQuery? name args = some act) : G.Covers act := by
  unfold sessionQuery? at found
  split at found <;> cases found <;> infer_instance

end State

end SourceAtlas
