import SourceAtlas.Entity.Database
import SourceAtlas.Entity.Index
import SourceAtlas.Entity.Walk
import SourceAtlas.Json.Basic

/-!
# Objects

Any entity that a session can hand out, so that it can stand in a slot, and how each is described to
the user. A description only looks: it neither asks the engine nor fills a memo.
-/

namespace SourceAtlas

/-- An entity of any kind. -/
inductive Object where
  | index (index : Index)
  | unit (unit : SourceUnit)
  | cursor (cursor : Cursor)
  | type (type : SourceType)
  | argumentTypes (types : ArgumentTypes)
  | file (file : SourceFile)
  | location (location : SourceLocation)
  | range (range : SourceRange)
  | inclusion (inclusion : Inclusion)
  | tokens (stream : TokenStream)
  | token (token : Token)
  | walk (walk : Walk)
  | diagnostics (list : DiagnosticList)
  | diagnostic (diagnostic : Diagnostic)
  | fixIt (fixIt : FixIt)
  | completion (results : Completion)
  | candidate (candidate : Candidate)
  | string (string : CompletionString)
  | chunk (chunk : Chunk)
  | database (database : Database)
  | commands (list : CommandList)
  | command (command : CompileCommand)
deriving Repr

namespace Object

def heldRefs : Object → CellRefs
  | .index held => refs held
  | .unit held => refs held
  | .cursor held => refs held
  | .type held => refs held
  | .argumentTypes held => refs held
  | .file held => refs held
  | .location held => refs held
  | .range held => refs held
  | .inclusion held => refs held
  | .tokens held => refs held
  | .token held => refs held
  | .walk held => refs held
  | .diagnostics held => refs held
  | .diagnostic held => refs held
  | .fixIt held => refs held
  | .completion held => refs held
  | .candidate held => refs held
  | .string held => refs held
  | .chunk held => refs held
  | .database held => refs held
  | .commands held => refs held
  | .command held => refs held

instance : Holder Object := ⟨heldRefs⟩

/-- A stream and a walk have a position of their own and cannot be copied. -/
def isClonable : Object → Bool
  | .tokens _ | .walk _ => false
  | _ => true

end Object

/-! ## Descriptions -/

/-- A text of the engine as it is shown; empty if it has no data. -/
def EngineText.shown (text : EngineText) : Json :=
  .str (text.elim "" fun bytes => Utf8.decodeLossy bytes.untilNul)

namespace Engine

variable (engine : Engine)

def describePlace (place : Place) : Json :=
  .arr [Json.ofOption (fun i => (engine.file i).name.shown) place.file, .nat place.line.toNat,
    .nat place.column.toNat, .nat place.offset.toNat]

def describeSpan (span : Span) : Json :=
  .arr [engine.describePlace span.start, engine.describePlace span.stop]

/-- The texts of all chunks of a completion string. -/
def shownString (s : Ref) : String :=
  String.join ((engine.string s).chunks.map fun chunk =>
    chunk.text.elim "" fun bytes => Utf8.decodeLossy bytes.untilNul)

/-- What is shown of an object. -/
def describe (w : World) (object : Object) : Json :=
  match object with
  | .index _ => .obj [("index", .bool true)]
  | .unit _ => .obj [("unit", .bool true)]
  | .cursor cursor =>
    .obj [("cursor", (engine.cursorText cursor.raw.value .usr).shown),
      ("kind", .num (engine.cursor cursor.raw.value).kind.raw.toInt)]
  | .type type =>
    .obj [("type", (engine.type type.raw.value).spelling.shown),
      ("kind", .num (engine.type type.raw.value).kind.raw.toInt)]
  | .argumentTypes types => .obj [("argument_types", .nat types.length)]
  | .file file => .obj [("file", (engine.file file.raw.value).name.shown)]
  | .location location => .obj [("location", engine.describePlace location.raw.value)]
  | .range range => .obj [("range", engine.describeSpan range.raw.value)]
  | .inclusion inclusion =>
    .obj [("inclusion", (engine.file inclusion.included.raw.value).name.shown),
      ("depth", .nat inclusion.depth.toNat)]
  | .tokens stream => .obj [("tokens", .nat stream.remaining)]
  | .token token =>
    .obj [("token", token.entry.spelling.shown), ("kind", .num token.entry.kind.toInt)]
  | .walk _ => .obj [("preorder", .bool true)]
  | .diagnostics list =>
    let table := w.instances[list.unit.resource.label]?.getD 0
    .obj [("diagnostics", .nat (engine.unit table).diagnostics.length)]
  | .diagnostic diagnostic =>
    let entry := engine.diagnostic diagnostic.handle.entry
    .obj [("diagnostic", entry.spelling.shown), ("severity", .num entry.severity.toInt)]
  | .fixIt fixIt =>
    .obj [("fixit", .str fixIt.value), ("range", engine.describeSpan fixIt.range.raw.value)]
  | .completion results => .obj [("results", .nat results.length)]
  | .candidate candidate => .obj [("result", .num candidate.kind.raw.toInt)]
  | .string string => .obj [("string", .str (engine.shownString string.raw.value))]
  | .chunk chunk =>
    let entry := engine.chunk chunk.string.raw.value chunk.position
    .obj [("chunk", entry.text.shown), ("kind", .num entry.kind.toInt)]
  | .database _ => .obj [("database", .bool true)]
  | .commands list => .obj [("commands", .nat list.commands.length)]
  | .command command =>
    let entry := command.raw.value
    .obj [("command", entry.filename.shown), ("directory", entry.directory.shown),
      ("arguments", .arr (entry.arguments.map EngineText.shown))]

end Engine

end SourceAtlas
