import SourceAtlas.Config
import SourceAtlas.Engine.Tables
import SourceAtlas.EnumValue
import SourceAtlas.Store.Resource

/-!
# Entities

The things that a session hands out. Each is a value together with references to the cells that it
keeps alive: a cell owns a resource, or the memo that a cursor and its clones share. `refs` lists
the references of an entity, in the order in which they are given up.

What a cell owns never changes after it is made, so an entity carries a copy of it and looks into
the store only for memos.
-/

namespace SourceAtlas

/-- The name of a cell of the store. -/
abbrev CellId := Nat

/-- References to cells. -/
abbrev CellRefs := List CellId

/-- The context in which units are made. -/
structure Index where
  cell : CellId
  resource : Resource
  config : IndexConfig
deriving DecidableEq, Repr

/-- A parsed source file with everything that it includes. -/
structure SourceUnit where
  cell : CellId
  resource : Resource
  index : Index
deriving DecidableEq, Repr

/-- The candidates that one completion request gave. -/
structure Completion where
  cell : CellId
  resource : Resource
  unit : SourceUnit
  entry : CompletionEntry
deriving Repr

/-- Tokens that were made together and are given back together. -/
structure TokenBatch where
  cell : CellId
  resource : Resource
  unit : SourceUnit
  tokens : List TokenEntry
deriving Repr

/-- The handle of a message of the compiler. -/
structure DiagnosticHandle where
  cell : CellId
  resource : Resource
  /-- The position of the message in the engine's tables. -/
  entry : Nat
deriving DecidableEq, Repr

/-- A message of the compiler. A note keeps the diagnostic that it belongs to, and a diagnostic from
code completion keeps the candidates. -/
structure Diagnostic where
  handle : DiagnosticHandle
  /-- The diagnostic that it is a note of, and those above it. They share anchor and unit. -/
  ancestors : List DiagnosticHandle := []
  anchor : Option Completion := none
  unit : SourceUnit
deriving Repr

/-- A compilation database. -/
structure Database where
  cell : CellId
  resource : Resource
  entry : DatabaseEntry
deriving Repr

/-- A list of commands of a compilation database. -/
structure CommandList where
  cell : CellId
  resource : Resource
  database : Database
  commands : CommandEntries
deriving Repr

/-- A file that takes part in a unit. -/
structure SourceFile where
  raw : Raw Nat
  unit : SourceUnit
deriving Repr

/-- A location in terms of files, lines and columns. -/
structure Expansion where
  file : Option SourceFile
  line : UInt32
  column : UInt32
  offset : UInt32
deriving Repr

/-- A point in the source. An anchored one points into completion results. -/
structure SourceLocation where
  raw : Raw Place
  unit : SourceUnit
  anchor : Option Completion := none
  /-- What the engine said about it, once it was asked. -/
  expansion : Option Expansion := none
deriving Repr

/-- A span of source text. -/
structure SourceRange where
  raw : Raw Span
  unit : SourceUnit
  anchor : Option Completion := none
deriving Repr

/-- A file that includes another one. -/
structure Inclusion where
  source : Option SourceFile
  included : SourceFile
  location : SourceLocation
  depth : UInt32
deriving Repr

/-- The type of an entity, an expression or a declaration. -/
structure SourceType where
  raw : Raw Ref
  unit : SourceUnit
deriving Repr

/-- The parameter types of a function prototype. -/
structure ArgumentTypes where
  type : SourceType
  length : Nat
deriving Repr

/-- A node of the syntax tree. Clones of a cursor share its memo. -/
structure Cursor where
  raw : Raw Ref
  unit : SourceUnit
  /-- The parent under which it was visited. -/
  parent : Option (Raw Ref) := none
  memo : CellId
deriving Repr

/-- What is remembered of the engine's answers about a cursor. -/
structure CursorMemo where
  spelling : Option String := none
  displayName : Option String := none
  location : Option SourceLocation := none
  extent : Option SourceRange := none
  type : Option SourceType := none
  canonical : Option Cursor := none
  semanticParent : Option (Option Cursor) := none
  lexicalParent : Option (Option Cursor) := none
  enumValue : Option EnumValue := none
  hash : Option UInt32 := none
deriving Repr

/-- The tokens of a batch from a position on. After the end the batch is let go. -/
structure TokenStream where
  batch : Option TokenBatch
  next : Nat := 0
deriving Repr

/-- A token of a batch. -/
structure Token where
  batch : TokenBatch
  position : Nat
deriving Repr

/-- The nodes that a walk in preorder has yet to visit; the last of them is the next one. -/
structure Walk where
  pending : List Cursor
deriving Repr

/-- The diagnostics of a unit. -/
structure DiagnosticList where
  unit : SourceUnit
deriving Repr

/-- A suggested edit. -/
structure FixIt where
  range : SourceRange
  value : String
deriving Repr

/-- A completion candidate. -/
structure Candidate where
  kind : CursorKind
  string : Raw Ref
  results : Completion
deriving Repr

/-- The text of a candidate, in chunks. -/
structure CompletionString where
  raw : Raw Ref
  results : Completion
deriving Repr

/-- A piece of a completion string. -/
structure Chunk where
  string : CompletionString
  position : Nat
  /-- What the engine said about it, once it was asked. -/
  spelling : Option String := none
  kind : Option CompletionChunkKind := none
deriving Repr

/-- One run of a compiler. -/
structure CompileCommand where
  raw : Raw CommandEntry
  list : CommandList
deriving Repr

/-! ## References -/

/-- A type whose values hold references to cells. -/
class Holder (α : Type) where
  /-- The references of a value, one for each time that a cell is held. -/
  refs : α → CellRefs

export Holder (refs)

instance [Holder α] : Holder (Option α) := ⟨fun value => value.elim [] refs⟩

instance [Holder α] : Holder (List α) := ⟨fun values => values.flatMap refs⟩

instance : Holder Index := ⟨fun index => [index.cell]⟩

instance : Holder SourceUnit := ⟨fun unit => [unit.cell]⟩

instance : Holder Completion := ⟨fun results => [results.cell]⟩

instance : Holder TokenBatch := ⟨fun batch => [batch.cell]⟩

instance : Holder DiagnosticHandle := ⟨fun handle => [handle.cell]⟩

instance : Holder Diagnostic := ⟨fun diagnostic => refs diagnostic.handle⟩

instance : Holder Database := ⟨fun database => [database.cell]⟩

instance : Holder CommandList := ⟨fun list => [list.cell]⟩

instance : Holder SourceFile := ⟨fun file => refs file.unit⟩

instance : Holder Expansion := ⟨fun expansion => refs expansion.file⟩

instance : Holder SourceLocation :=
  ⟨fun location => refs location.unit ++ refs location.anchor ++ refs location.expansion⟩

instance : Holder SourceRange := ⟨fun range => refs range.unit ++ refs range.anchor⟩

instance : Holder Inclusion :=
  ⟨fun inclusion => refs inclusion.source ++ refs inclusion.included ++ refs inclusion.location⟩

instance : Holder SourceType := ⟨fun type => refs type.unit⟩

instance : Holder ArgumentTypes := ⟨fun types => refs types.type⟩

instance : Holder Cursor := ⟨fun cursor => refs cursor.unit ++ [cursor.memo]⟩

instance : Holder CursorMemo :=
  ⟨fun memo => refs memo.location ++ refs memo.extent ++ refs memo.type ++ refs memo.canonical ++
    refs memo.semanticParent ++ refs memo.lexicalParent⟩

instance : Holder TokenStream := ⟨fun stream => refs stream.batch⟩

instance : Holder Token := ⟨fun token => refs token.batch⟩

instance : Holder Walk := ⟨fun walk => refs walk.pending⟩

instance : Holder DiagnosticList := ⟨fun list => refs list.unit⟩

instance : Holder FixIt := ⟨fun fixIt => refs fixIt.range⟩

instance : Holder Candidate := ⟨fun candidate => refs candidate.results⟩

instance : Holder CompletionString := ⟨fun string => refs string.results⟩

instance : Holder Chunk := ⟨fun chunk => refs chunk.string⟩

instance : Holder CompileCommand := ⟨fun command => refs command.list⟩

end SourceAtlas
