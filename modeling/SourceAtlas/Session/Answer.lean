import SourceAtlas.Session.Object
import SourceAtlas.Session.Query

/-!
# Answers

How each kind of object answers the queries that it understands. The receiver of a query stays in
its slot, and may come back changed: with what a location or a chunk learnt about itself, or with
the position that a stream or a walk has reached. Objects in an answer are the caller's own.
-/

namespace SourceAtlas

/-- What a query gives. -/
inductive Answer where
  | plain (value : Json)
  | object (object : Object)
  | objects (objects : List Object)
deriving Repr

instance : Holder Answer :=
  ⟨fun answer => match answer with
    | .plain _ => []
    | .object object => refs object
    | .objects objects => refs objects⟩

/-- The receiver after a query, and what came out. -/
structure Turn where
  receiver : Object
  outcome : Except Fault Answer
deriving Repr

namespace Answer

def null : Answer := .plain .null

def text (s : String) : Answer := .plain (.str s)

def nat (n : Nat) : Answer := .plain (.nat n)

def int (n : Int) : Answer := .plain (.num n)

def bool (b : Bool) : Answer := .plain (.bool b)

def form (form : Inspect) : Answer := .text form.render

/-- An object, or null if there is none. -/
def optional (wrap : α → Object) (value : Option α) : Answer :=
  value.elim null fun value => .object (wrap value)

def list (wrap : α → Object) (values : List α) : Answer :=
  .objects (values.map wrap)

end Answer

/-- A query that leaves its receiver as it is. -/
def Object.steady (receiver : Object) (answer : Act Answer) : Act Turn := do
  return ⟨receiver, .ok (← answer)⟩

/-- Replaces the receiver by a value that holds at least as much. -/
def Object.become (old new : Object) : Act Object := do
  let new ← Act.keep new
  Act.drop old
  return new

open Answer

def Index.answer (index : Index) : IndexQuery → Act Answer
  | .parse path args unsaved options => do
    return .object (.unit (← index.parse path args unsaved options))
  | .read path => return .object (.unit (← index.read path))
  | .config =>
    return .plain (.arr [.bool index.config.excludeDeclarationsFromPch,
      .bool index.config.displayDiagnostics])
  | .debug => return form index.inspect

def SourceUnit.answer (unit : SourceUnit) : UnitQuery → Act Answer
  | .cursor => return .object (.cursor (← Cursor.root unit))
  | .index => return .object (.index (← Act.keep unit.index))
  | .spelling => return .text (← unit.spelling)
  | .diagnostics => return .object (.diagnostics (← unit.diagnostics))
  | .inclusions => return .list .inclusion (← unit.inclusions)
  | .debug => return form (← unit.inspect)
  | .reparse unsaved options => do
    unit.reparse unsaved options
    return .null
  | .save path => do
    unit.save path
    return .null
  | .complete path line column unsaved options => do
    return .optional .completion (← unit.complete path line column unsaved options)
  | .file name => return .optional .file (← unit.file? name)
  | .location name position => return .optional .location (← unit.location? name position)
  | .extent name start stop => return .optional .range (← unit.extent? name start stop)

namespace Cursor

/-- The name of a property's kind. -/
def propertyForm (cursor : Cursor) (property : CursorTrait) : Act Inspect :=
  match property with
  | .linkage => ClosedKind.inspect <$> cursor.property LinkageKind property
  | .tlsKind => ClosedKind.inspect <$> cursor.property TlsKind property
  | .storageClass => ClosedKind.inspect <$> cursor.property StorageClass property
  | .availability => ClosedKind.inspect <$> cursor.property AvailabilityKind property
  | .accessSpecifier => ClosedKind.inspect <$> cursor.property AccessSpecifier property
  | .exceptionSpecification =>
    ClosedKind.inspect <$> cursor.property ExceptionSpecificationKind property

/-- The engine's name for the kind. -/
def kindSpelling (cursor : Cursor) : Act String := do
  let kind ← cursor.kind
  Act.ask (.cursorKindName kind) []
  Act.text ((← Act.engine).cursorKindName kind)

def answer (cursor : Cursor) : CursorQuery → Act Answer
  | .kind => return form (← cursor.kind).inspect
  | .kindSpelling => return .text (← cursor.kindSpelling)
  | .spelling => return .text (← cursor.spelling)
  | .displayName => return .text (← cursor.displayName)
  | .text text => return .text (← cursor.text text)
  | .comment text => return .plain (Json.ofOption .str (← cursor.text? text))
  | .property property => return form (← cursor.propertyForm property)
  | .has flag => return .bool (← cursor.has flag)
  | .hash => return .nat (← cursor.hash).toNat
  | .hashFeed => return .plain (.arr [.nat (← cursor.hash).toNat])
  | .bitfieldWidth => return .plain (Json.ofOption .nat (← cursor.bitfieldWidth))
  | .fieldOffset => return .nat (← cursor.fieldOffset)
  | .enumValue => do
    match ← cursor.enumValue with
    | .signed n => return .plain (.obj [("signed", .num n.toInt)])
    | .unsigned n => return .plain (.obj [("unsigned", .nat n.toNat)])
  | .location => return .object (.location (← Act.keep (← cursor.location)))
  | .extent => return .object (.range (← Act.keep (← cursor.extent)))
  | .tokens => return .object (.tokens (← cursor.tokens))
  | .type => return .object (.type (← Act.keep (← cursor.type)))
  | .resultType => return .object (.type (← cursor.resultType))
  | .underlyingTypedefType => return .object (.type (← cursor.underlyingTypedefType))
  | .enumType => return .object (.type (← cursor.enumType))
  | .canonical => return .object (.cursor (← Act.keep (← cursor.canonical)))
  | .semanticParent => return .optional .cursor (← Act.keep (← cursor.semanticParent))
  | .lexicalParent => return .optional .cursor (← Act.keep (← cursor.lexicalParent))
  | .visitParent => return .optional .cursor (← cursor.visitParent)
  | .referenced => return .optional .cursor (← cursor.linked .referenced)
  | .definition => return .optional .cursor (← cursor.linked .definition)
  | .includedFile => return .optional .file (← cursor.includedFile)
  | .arguments => return .list .cursor (← cursor.arguments)
  | .children => return .list .cursor (← cursor.children)
  | .walk => return .object (.walk (← Walk.make cursor))
  | .unit => return .object (.unit (← Act.keep cursor.unit))
  | .debug => return form (← cursor.inspect)
  | .templateArgumentCount => return .plain (Json.ofOption .nat (← cursor.templateArgumentCount))
  | .templateArgumentKind i =>
    return form (ClosedKind.inspect (← cursor.templateArgumentKind i))
  | .templateArgumentType i => return .object (.type (← cursor.templateArgumentType i))
  | .templateArgumentValue i => return .int (← cursor.templateArgumentValue i).toInt
  | .templateArgumentUnsignedValue i =>
    return .nat (← cursor.templateArgumentUnsignedValue i).toNat

end Cursor

namespace SourceType

/-- The engine's name for the kind. -/
def kindSpelling (type : SourceType) : Act String := do
  let kind ← type.kind
  Act.ask (.typeKindName kind) []
  Act.text ((← Act.engine).typeKindName kind)

def answer (type : SourceType) : TypeQuery → Act Answer
  | .kind => return form (← type.kind).inspect
  | .kindSpelling => return .text (← type.kindSpelling)
  | .spelling => return .text (← type.spelling)
  | .typedefName => return .text (← type.typedefName)
  | .has flag => return .bool (← type.has flag)
  | .isFunctionVariadic => return .bool (← type.isFunctionVariadic)
  | .linked link => return .object (.type (← type.linked link))
  | .elementType => return .object (.type (← type.elementType))
  | .elementCount => return .nat (← type.elementCount)
  | .arraySize => return .plain (Json.ofOption .nat (← type.arraySize))
  | .align => return .nat (← type.align)
  | .size => return .nat (← type.size)
  | .addressSpace => return .nat (← type.addressSpace).toNat
  | .declaration => return .optional .cursor (← type.declaration)
  | .refQualifier => return form (ClosedKind.inspect (← type.refQualifier))
  | .exceptionSpecification => return form (ClosedKind.inspect (← type.exceptionSpecification))
  | .argumentTypes => return .object (.argumentTypes (← type.argumentTypes))
  | .fields => return .list .cursor (← type.fields)
  | .unit => return .object (.unit (← Act.keep type.unit))
  | .debug => return form (← type.inspect)
  | .offsetOf field => return .nat (← type.offsetOf field)
  | .templateArgumentCount => return .plain (Json.ofOption .nat (← type.templateArgumentCount))
  | .templateArgument i => return .object (.type (← type.templateArgument i))

end SourceType

def ArgumentTypes.answer (types : ArgumentTypes) : ViewQuery → Act Answer
  | .length => return .nat types.length
  | .isEmpty => return .bool (types.length == 0)
  | .elements => return .list .type (← types.toList)
  | .debug => return form (← types.inspect)
  | .get i => return .optional .type (← types.get? i)

def DiagnosticList.answer (list : DiagnosticList) : ViewQuery → Act Answer
  | .length => return .nat (← list.length)
  | .isEmpty => return .bool ((← list.length) == 0)
  | .elements => return .list .diagnostic (← list.toList)
  | .debug => return form (← list.inspect)
  | .get i => return .optional .diagnostic (← list.get? i)

/-- The queries of completion results: those of a view, and the diagnostics. -/
inductive CompletionQuery where
  | view (query : ViewQuery)
  | diagnostics
deriving DecidableEq, Repr

def CompletionQuery.ofName? (name : String) (args : Json) : Option CompletionQuery :=
  if name = "diagnostics" then some .diagnostics else (ViewQuery.ofName? name args).map .view

def Completion.answer (results : Completion) : CompletionQuery → Act Answer
  | .view .length => return .nat results.length
  | .view .isEmpty => return .bool (results.length == 0)
  | .view .elements => return .list .candidate (← results.toList)
  | .view .debug => return form results.inspect
  | .view (.get i) => return .optional .candidate (← results.get? i)
  | .diagnostics => return .list .diagnostic (← results.diagnostics)

def CommandList.answer (list : CommandList) : ViewQuery → Act Answer
  | .length => return .nat (← list.length)
  | .isEmpty => return .bool ((← list.length) == 0)
  | .elements => return .list .command (← list.toList)
  | .debug => return form (← list.inspect)
  | .get i => return .optional .command (← list.get? i)

def SourceFile.answer (file : SourceFile) : FileQuery → Act Answer
  | .name | .display => return .text (← file.name)
  | .time => return .int (← file.time).toInt
  | .debug => return form (← file.inspect)
  | .unit => return .object (.unit (← Act.keep file.unit))
  | .location position => return .object (.location (← file.location position))

/-- A location that is asked for its file, line, column or offset remembers all four. -/
def SourceLocation.turn (location : SourceLocation) (query : LocationQuery) : Act Turn := do
  let receiver : Object := .location location
  /- Expands the location, and answers from the expansion. -/
  let expanding (answer : Expansion → Act Answer) : Act Turn := do
    let expansion ← location.expand
    let answer ← answer expansion
    let changed ← receiver.become (.location { location with expansion := some expansion })
    return ⟨changed, .ok answer⟩
  match query with
  | .file => expanding fun expansion => return .optional .file (← Act.keep expansion.file)
  | .line => expanding fun expansion => return .nat expansion.line.toNat
  | .column => expanding fun expansion => return .nat expansion.column.toNat
  | .offset => expanding fun expansion => return .nat expansion.offset.toNat
  | .debug => expanding fun expansion => return form (← expansion.inspect)
  | .isInSystemHeader => receiver.steady (return .bool (← location.isInSystemHeader))
  | .isFromMainFile => receiver.steady (return .bool (← location.isFromMainFile))
  | .unit => receiver.steady (return .object (.unit (← Act.keep location.unit)))
  | .cursor => receiver.steady (return .optional .cursor (← Cursor.atLocation location))

def SourceRange.answer (range : SourceRange) : RangeQuery → Act Answer
  | .start => return .object (.location (← range.start))
  | .stop => return .object (.location (← range.stop))
  | .unit => return .object (.unit (← Act.keep range.unit))
  | .debug => return form (← range.inspect)

def Inclusion.answer (inclusion : Inclusion) : InclusionQuery → Act Answer
  | .source => return .optional .file (← Act.keep inclusion.source)
  | .included => return .object (.file (← Act.keep inclusion.included))
  | .location => return .object (.location (← Act.keep inclusion.location))
  | .depth => return .nat inclusion.depth.toNat
  | .isInputFile => return .bool inclusion.isInputFile
  | .debug => return form (← inclusion.inspect)

def TokenStream.turn (stream : TokenStream) (query : TokensQuery) : Act Turn := do
  let receiver : Object := .tokens stream
  match query with
  | .next =>
    let (stream, token) ← stream.advance
    return ⟨.tokens stream, .ok (.optional .token token)⟩
  | .rest =>
    let (stream, tokens) ← stream.drain
    return ⟨.tokens stream, .ok (.list .token tokens)⟩
  | .length => return ⟨receiver, .ok (.nat stream.remaining)⟩
  | .sizeHint =>
    return ⟨receiver, .ok (.plain (.arr [.nat stream.remaining, .nat stream.remaining]))⟩
  | .debug => return ⟨receiver, .ok (form stream.inspect)⟩

def Token.answer (token : Token) : TokenQuery → Act Answer
  | .spelling => return .text (← token.spelling)
  | .kind => return form (ClosedKind.inspect (← token.kind))
  | .location => return .object (.location (← token.location))
  | .extent => return .object (.range (← token.extent))
  | .cursor => return .optional .cursor (← token.cursor)
  | .debug => return form (← token.inspect)

def Walk.turn (walk : Walk) : WalkQuery → Act Turn
  | .next => do
    let (walk, outcome) ← walk.advance
    return ⟨.walk walk, outcome.map (.optional .cursor)⟩
  | .rest => do
    let (walk, outcome) ← walk.drain
    return ⟨.walk walk, outcome.map (.list .cursor)⟩

def Diagnostic.answer (diagnostic : Diagnostic) : DiagnosticQuery → Act Answer
  | .severity => return form (ClosedKind.inspect (← diagnostic.severity))
  | .location => return .object (.location (← diagnostic.location))
  | .spelling | .display => return .text (← diagnostic.spelling)
  | .ranges => return .list .range (← diagnostic.ranges)
  | .fixIts => return .list .fixIt (← diagnostic.fixIts)
  | .children => return .list .diagnostic (← diagnostic.children)
  | .categoryNumber => return .nat (← diagnostic.categoryNumber).toNat
  | .categoryName => return .text (← diagnostic.categoryName)
  | .enableOption => return .text (← diagnostic.enableOption)
  | .disableOption => return .text (← diagnostic.disableOption)
  | .parent => return .optional .diagnostic (← Act.keep diagnostic.parent)
  | .debug => return form (← diagnostic.inspect)
  | .format options => return .text (← diagnostic.format options)

def FixIt.answer (fixIt : FixIt) : FixItQuery → Act Answer
  | .value => return .text fixIt.value
  | .range => return .object (.range (← Act.keep fixIt.range))
  | .debug => return form (← fixIt.inspect)

def Candidate.answer (candidate : Candidate) : CandidateQuery → Act Answer
  | .kind => return form candidate.kind.inspect
  | .string => return .object (.string (← Act.keep candidate.label))
  | .debug => return form (← candidate.inspect)

def CompletionString.answer (string : CompletionString) : StringQuery → Act Answer
  | .length => return .nat (← string.length)
  | .isEmpty => return .bool ((← string.length) == 0)
  | .chunks => return .list .chunk (← string.chunks)
  | .priority => return .nat (← string.priority).toNat
  | .availability => return form (ClosedKind.inspect (← string.availability))
  | .briefComment => return .text (← string.briefComment)
  | .display => return .text (← string.text)
  | .debug => return form (← string.inspect)
  | .chunk i => return .optional .chunk (← string.chunk? i)

/-- A chunk remembers its text and its kind. -/
def Chunk.turn (chunk : Chunk) : ChunkQuery → Act Turn
  | .spelling => do
    let chunk ← chunk.spelled
    return ⟨.chunk chunk, .ok (.text (chunk.spelling.getD ""))⟩
  | .kind => do
    let kind ← chunk.askKind
    return ⟨.chunk { chunk with kind := some kind }, .ok (form (ClosedKind.inspect kind))⟩
  | .nested => (Object.chunk chunk).steady (return .optional .string (← chunk.nested))
  | .debug => do
    let chunk ← (← chunk.classified).spelled
    return ⟨.chunk chunk, .ok (form chunk.inspectKnown)⟩

def Database.answer (database : Database) : DatabaseQuery → Act Answer
  | .all => return .optional .commands (← database.allCommands)
  | .debug => return form database.inspect
  | .commandsFor file => return .optional .commands (← database.commandsFor file)

def CompileCommand.answer (command : CompileCommand) : CommandQuery → Act Answer
  | .directory => return .text (← command.directory)
  | .filename => return .text (← command.filename)
  | .arguments => return .plain (.arr ((← command.arguments).map .str))
  | .list => return .object (.commands (← Act.keep command.list))
  | .debug => return form (← command.inspect)

namespace Object

/-- What an object does when it is asked by name; none if it does not understand the name. -/
def turn? (object : Object) (name : String) (args : Json) : Option (Act Turn) :=
  match object with
  | .index held => (IndexQuery.ofName? name args).map fun q => object.steady (held.answer q)
  | .unit held => (UnitQuery.ofName? name args).map fun q => object.steady (held.answer q)
  | .cursor held => (CursorQuery.ofName? name args).map fun q => object.steady (held.answer q)
  | .type held => (TypeQuery.ofName? name args).map fun q => object.steady (held.answer q)
  | .argumentTypes held => (ViewQuery.ofName? name args).map fun q => object.steady (held.answer q)
  | .file held => (FileQuery.ofName? name args).map fun q => object.steady (held.answer q)
  | .location held => (LocationQuery.ofName? name).map held.turn
  | .range held => (RangeQuery.ofName? name).map fun q => object.steady (held.answer q)
  | .inclusion held => (InclusionQuery.ofName? name).map fun q => object.steady (held.answer q)
  | .tokens held => (TokensQuery.ofName? name).map held.turn
  | .token held => (TokenQuery.ofName? name).map fun q => object.steady (held.answer q)
  | .walk held => (WalkQuery.ofName? name).map held.turn
  | .diagnostics held => (ViewQuery.ofName? name args).map fun q => object.steady (held.answer q)
  | .diagnostic held =>
    (DiagnosticQuery.ofName? name args).map fun q => object.steady (held.answer q)
  | .fixIt held => (FixItQuery.ofName? name).map fun q => object.steady (held.answer q)
  | .completion held =>
    (CompletionQuery.ofName? name args).map fun q => object.steady (held.answer q)
  | .candidate held => (CandidateQuery.ofName? name).map fun q => object.steady (held.answer q)
  | .string held => (StringQuery.ofName? name args).map fun q => object.steady (held.answer q)
  | .chunk held => (ChunkQuery.ofName? name).map held.turn
  | .database held => (DatabaseQuery.ofName? name args).map fun q => object.steady (held.answer q)
  | .commands held => (ViewQuery.ofName? name args).map fun q => object.steady (held.answer q)
  | .command held => (CommandQuery.ofName? name).map fun q => object.steady (held.answer q)

/-- What two objects do when they are asked something together; none if they do not go together.
The receiver of the turn is the second object: a location whose file is compared remembers it. -/
def pairTurn? (first second : Object) (query : PairQuery) : Option (Act Turn) :=
  match query, first, second with
  | .equal, .unit a, .unit b => some (second.steady (return .bool (a.same b)))
  | .equal, .cursor a, .cursor b => some (second.steady (return .bool (← a.same b)))
  | .equal, .type a, .type b => some (second.steady (return .bool (← a.same b)))
  | .equal, .file a, .file b => some (second.steady (return .bool (← a.same b)))
  | .equal, .location a, .location b => some (second.steady (return .bool (← a.same b)))
  | .equal, .range a, .range b => some (second.steady (return .bool (← a.same b)))
  | .contains, .range held, .location point => some do
    let expansion ← point.expand
    let inside ← held.containsExpansion expansion
    let changed ← second.become (.location { point with expansion := some expansion })
    return ⟨changed, .ok (.bool inside)⟩
  | .rangeTo, .location start, .location stop =>
    some (second.steady (return .object (.range (← SourceRange.ofLocations start stop))))
  | .tokensIn, .unit held, .range other =>
    some (second.steady (return .object (.tokens (← held.tokens other))))
  | _, _, _ => none

end Object

end SourceAtlas
