import SourceAtlas.Config
import SourceAtlas.Engine.Tables

/-!
# The engine

An engine answers by looking into its tables. The functions here say how: what an absent entry
means, when two entities are equal, which source, file, cursor or token a request finds.
-/

namespace SourceAtlas

/-- An engine: its tables, and the recent properties that it is too old to be asked about. -/
structure Engine where
  tables : Tables := {}
  missing : List RecentFlag := []
deriving Inhabited

namespace Engine

variable (engine : Engine)

/-- The properties that the engine cannot be asked about. -/
def absent : List CursorFlag :=
  engine.missing.map (·.flag)

/-- Whether the engine can be asked about a property. -/
def supports (flag : CursorFlag) : Bool :=
  !engine.absent.contains flag

/-! ## Kinds -/

/-- Whether a kind is of a class. -/
def kindIs (kind : CursorKind) (kindClass : KindClass) : Bool :=
  let within (low high : Int32) : Bool := low ≤ kind.raw && kind.raw ≤ high
  match kindClass with
  | .declaration => within 1 39 || within 600 604
  | .reference => within 40 50
  | .expression => within 100 155
  | .statement => within 200 305
  | .attribute => within 400 441
  | .invalid => within 70 73
  | .unit => kind.raw == 350
  | .preprocessing => within 500 503
  | .unexposed => kind.raw == 1 || kind.raw == 100 || kind.raw == 200 || kind.raw == 400

def kindName (names : List (Int32 × Bytes)) (letter : String) (raw : Int32) : EngineText :=
  match names.find? (·.1 == raw) with
  | some (_, name) => some name
  | none => some (Utf8.encode (letter ++ toString raw.toInt))

def cursorKindName (kind : CursorKind) : EngineText :=
  kindName engine.tables.cursorKindNames "K" kind.raw

def typeKindName (kind : TypeKind) : EngineText :=
  kindName engine.tables.typeKindNames "T" kind.raw

/-! ## Sources and units -/

/-- What parsing or reading a source gives. A source that no table speaks of cannot be loaded. -/
def source (name : EngineText) : SourceEntry :=
  (engine.tables.sources.find? (·.name == name)).getD { name, status := 1 }

def unit (table : Nat) : UnitEntry :=
  engine.tables.units[table]?.getD {}

/-- The cursor at a point of a unit. -/
def cursorAt (table : Nat) (place : Place) : Ref :=
  ((engine.unit table).cursorAt.find? fun entry =>
    entry.file == place.file && entry.line == place.line && entry.column == place.column).bind
    (·.cursor)

/-- The tokens of a unit that begin inside a span. -/
def tokensIn (table : Nat) (span : Span) : List TokenEntry :=
  (engine.unit table).tokens.filter fun token =>
    token.location.file == span.start.file && span.start.offset ≤ token.location.offset &&
      token.location.offset < span.stop.offset

/-! ## Files and locations -/

def file (i : Nat) : FileEntry :=
  engine.tables.files[i]?.getD {}

/-- The file with a name. -/
def fileNamed (name : Bytes) : Ref :=
  engine.tables.files.findIdx? (·.name == some name)

def sameFile (a b : Nat) : Bool :=
  (engine.file a).identity.getD a == (engine.file b).identity.getD b

/-- The point of a file at a line and a column. Lines are a thousand bytes apart. -/
def placeAt (file : Nat) (line column : UInt32) : Place :=
  ⟨some file, line, column, line * 1000 + column⟩

/-- The point of a file at an offset. -/
def placeAtOffset (file : Nat) (offset : UInt32) : Place :=
  ⟨some file, offset / 1000, offset % 1000, offset⟩

def isInSystemHeader (place : Place) : Bool :=
  place.file.any fun i => (engine.file i).isSystem

/-- The first file is the main one. -/
def isFromMainFile (place : Place) : Bool :=
  place.file == some 0

/-! ## Cursors -/

/-- What the tables say about a cursor. The null cursor has a kind of its own. -/
def cursor : Ref → CursorEntry
  | none => { kind := .invalidFile }
  | some i => engine.tables.cursors[i]?.getD {}

def cursorNumber (c : Ref) : Int :=
  (engine.cursor c).identity.getD c.number

def sameCursor (a b : Ref) : Bool :=
  engine.cursorNumber a == engine.cursorNumber b

def cursorHash (c : Ref) : UInt32 :=
  .ofInt ((engine.cursor c).hash.getD c.number)

/-- A text about a cursor. Without a word about it, its position serves as its unified name. -/
def cursorText (c : Ref) (text : CursorText) : EngineText :=
  match (engine.cursor c).text text, text with
  | none, .usr => some (Utf8.encode ("c:" ++ toString c.number))
  | value, _ => value

def cursorLink (c : Ref) (link : CursorLink) : Ref :=
  match (engine.cursor c).link link, link with
  | some target, _ => target
  | none, .canonical => c
  | none, _ => none

/-- The visits to the children of a cursor: each child, and the parent it is visited under. -/
def childVisits (c : Ref) : List (Ref × Ref) :=
  let entry := engine.cursor c
  entry.children.map fun child => (child, if entry.orphanChildren then none else c)

def cursorArgument (c : Ref) (i : Nat) : Ref :=
  (engine.cursor c).args[i]?.join

/-- The number of template arguments; -1 where there can be none. -/
def templateArgumentCount (c : Ref) : Int32 :=
  (engine.cursor c).templateArgs.elim (-1) fun args => .ofNat args.length

def templateArgument (c : Ref) (i : Nat) : TemplateArgumentEntry :=
  ((engine.cursor c).templateArgs.bind (·[i]?)).getD {}

/-! ## Types -/

def type : Ref → TypeEntry
  | none => {}
  | some i => engine.tables.types[i]?.getD {}

def sameType (a b : Ref) : Bool :=
  (engine.type a).identity.getD a.number == (engine.type b).identity.getD b.number

def typeLink (t : Ref) (link : TypeLink) : Ref :=
  match (engine.type t).link link, link with
  | some target, _ => target
  | none, .canonical => t
  | none, _ => none

/-- The offset of a field in bits; -5 if there is no such field. -/
def fieldOffset (t : Ref) (name : String) : Int64 :=
  ((engine.type t).offsets.find? (·.1 == name)).elim (-5) (·.2)

def argumentType (t : Ref) (i : Nat) : Ref :=
  (engine.type t).args[i]?.join

def typeTemplateArgumentCount (t : Ref) : Int32 :=
  (engine.type t).templateArgs.elim (-1) fun args => .ofNat args.length

def typeTemplateArgument (t : Ref) (i : Nat) : Ref :=
  ((engine.type t).templateArgs.bind (·[i]?)).join

/-- The visits to the fields of a type. -/
def fieldVisits (t : Ref) : List Ref :=
  (engine.type t).fields

/-! ## Diagnostics and completion -/

def diagnostic (i : Nat) : DiagnosticEntry :=
  engine.tables.diagnostics[i]?.getD {}

/-- A diagnostic as the engine formats it: the formatting bits, and the message. -/
def formatted (i : Nat) (bits : UInt32) : EngineText :=
  some (Utf8.encode ("<" ++ toString bits.toNat ++ "> ") ++ (engine.diagnostic i).message)

/-- The position of the candidates for a point of a file, and the candidates. -/
def completionAt (file : Bytes) (line column : UInt32) : Option (Nat × CompletionEntry) :=
  let entries := engine.tables.completions
  (entries.findIdx? fun entry =>
    entry.file == some file && entry.line == line && entry.column == column).bind fun i =>
    entries[i]?.map fun entry => (i, entry)

def string : Ref → StringEntry
  | none => {}
  | some i => engine.tables.strings[i]?.getD {}

def chunk (s : Ref) (i : Nat) : ChunkEntry :=
  (engine.string s).chunks[i]?.getD {}

/-! ## Compilation databases -/

/-- The position of the database in a directory, and the database. -/
def database (directory : Bytes) : Option (Nat × DatabaseEntry) :=
  let entries := engine.tables.databases
  (entries.findIdx? (·.directory == some directory)).bind fun i =>
    entries[i]?.map fun entry => (i, entry)

end Engine

end SourceAtlas
