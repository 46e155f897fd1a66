import SourceAtlas.Engine.Attribute
import SourceAtlas.Kind.Chunk
import SourceAtlas.Kind.Cursor
import SourceAtlas.Kind.Type
import SourceAtlas.Text.Utf8

/-!
# The tables of an engine

An engine is known by what it answers. Its answers stand in tables, whose entries refer to each
other by position. Whatever a table does not say has the default that is given here.
-/

namespace SourceAtlas

/-- A position in a table; `none` is the null handle, and a position beyond the table is an entity
without attributes. -/
abbrev Ref := Option Nat

/-- The number that stands for a reference where two entities are compared. -/
def Ref.number : Ref → Int
  | none => -1
  | some i => i

/-- Text as the engine hands it out; `none` is a string without data. -/
abbrev EngineText := Option Bytes

/-- A point in a source file. The null location is in no file. -/
structure Place where
  file : Ref := none
  line : UInt32 := 0
  column : UInt32 := 0
  offset : UInt32 := 0
deriving DecidableEq, Repr, Inhabited

/-- A span between two points. -/
structure Span where
  start : Place := {}
  stop : Place := {}
deriving DecidableEq, Repr, Inhabited

/-- What parsing or reading a source gives. -/
structure SourceEntry where
  name : EngineText
  status : Int32 := 0
  unit : Ref := none
deriving Repr, Inhabited

structure TokenEntry where
  kind : Int32 := 0
  spelling : EngineText := none
  location : Place := {}
  extent : Span := {}
  cursor : Ref := none
deriving Repr, Inhabited

/-- A file as it is entered. The stack of inclusions begins with the directive that includes it. -/
structure InclusionEntry where
  file : Ref := none
  stack : List Place := []
  depth : UInt32 := 0
deriving Repr, Inhabited

/-- The cursor at a point. -/
structure CursorAtEntry where
  file : Ref
  line : UInt32
  column : UInt32
  cursor : Ref
deriving Repr, Inhabited

structure UnitEntry where
  spelling : EngineText := none
  root : Ref := some 0
  diagnostics : List Ref := []
  reparseOptions : UInt32 := 0
  reparseStatus : Int32 := 0
  /-- The entry that a unit has after it is reparsed. -/
  reparseBecomes : Option Nat := none
  saveOptions : UInt32 := 0
  saveStatus : Int32 := 0
  cursorAt : List CursorAtEntry := []
  inclusions : List InclusionEntry := []
  tokens : List TokenEntry := []
deriving Repr, Inhabited

structure FileEntry where
  name : EngineText := none
  time : Int64 := 0
  isSystem : Bool := false
  /-- Files with the same number are equal. A file has its position if it has no number. -/
  identity : Option Int := none
deriving Repr, Inhabited

structure TemplateArgumentEntry where
  kind : Int32 := 9
  type : Ref := none
  value : Int64 := 0
  unsignedValue : UInt64 := 0
deriving Repr, Inhabited

structure CursorEntry where
  kind : CursorKind := ⟨0⟩
  /-- Cursors with the same number are equal. A cursor has its position if it has no number. -/
  identity : Option Int := none
  hash : Option Int := none
  text : CursorText → EngineText := fun _ => none
  location : Place := {}
  extent : Span := {}
  type : CursorTypeLink → Ref := fun _ => none
  /-- Where the links lead that the table speaks of. Without a word about it, a cursor is its own
  canonical cursor, and the other links lead nowhere. -/
  link : CursorLink → Option Ref := fun _ => none
  trait : CursorTrait → Int32 := fun _ => 0
  flag : CursorFlag → Bool := fun _ => false
  includedFile : Ref := none
  /-- The value of an enumeration constant; its two readings agree modulo 2^64. -/
  value : Int := 0
  children : List Ref := []
  /-- Whether children are visited without their parent. -/
  orphanChildren : Bool := false
  args : List Ref := []
  argCount : Int32 := -1
  templateArgs : Option (List TemplateArgumentEntry) := none
  fieldOffset : Int64 := -1
  bitfieldWidth : Int32 := -1
deriving Inhabited

structure TypeEntry where
  kind : TypeKind := .invalid
  /-- Types with the same number are equal. A type has its position if it has no number. -/
  identity : Option Int := none
  spelling : EngineText := none
  typedefName : EngineText := none
  declaration : Ref := none
  /-- Where the links lead that the table speaks of. Without a word about it, a type is its own
  canonical type, and the other links lead nowhere. -/
  link : TypeLink → Option Ref := fun _ => none
  flag : TypeFlag → Bool := fun _ => false
  measure : TypeMeasure → Int64 := fun _ => -1
  addressSpace : UInt32 := 0
  refQualifier : Int32 := 0
  exceptionSpecification : Int32 := 0
  /-- The offsets of the fields that have one. -/
  offsets : List (String × Int64) := []
  args : List Ref := []
  argCount : Int32 := -1
  templateArgs : Option (List Ref) := none
  fields : List Ref := []
deriving Inhabited

structure DiagnosticEntry where
  severity : Int32 := 0
  location : Place := {}
  spelling : EngineText := none
  /-- The message as the engine's own formatting shows it. -/
  message : Bytes := []
  ranges : List Span := []
  fixIts : List (Span × EngineText) := []
  children : List Ref := []
  category : UInt32 := 0
  categoryName : EngineText := none
  enableOption : EngineText := none
  disableOption : EngineText := none
deriving Repr, Inhabited

structure CandidateEntry where
  kind : CursorKind := ⟨0⟩
  string : Ref := none
deriving Repr, Inhabited

/-- The candidates at a point of a file. -/
structure CompletionEntry where
  file : EngineText := none
  line : UInt32 := 0
  column : UInt32 := 0
  results : List CandidateEntry := []
  diagnostics : List Ref := []
deriving Repr, Inhabited

structure ChunkEntry where
  kind : Int32 := 0
  text : EngineText := none
  string : Ref := none
deriving Repr, Inhabited

/-- The text of a candidate. -/
structure StringEntry where
  chunks : List ChunkEntry := []
  priority : UInt32 := 0
  availability : Int32 := 0
  brief : EngineText := none
deriving Repr, Inhabited

structure CommandEntry where
  directory : EngineText := none
  filename : EngineText := none
  arguments : List EngineText := []
deriving Repr, Inhabited

/-- Some commands; `none` stands for a null handle. -/
abbrev CommandEntries := List (Option CommandEntry)

structure DatabaseEntry where
  directory : EngineText := none
  status : Int32 := 0
  /-- Whether opening the database gives a handle. -/
  hasHandle : Bool := true
  all : Option CommandEntries := none
  files : List (Bytes × CommandEntries) := []
deriving Repr, Inhabited

/-- Everything that an engine answers. -/
structure Tables where
  version : EngineText := none
  /-- Whether the engine creates indexes at all. -/
  createsIndexes : Bool := true
  editingOptions : UInt32 := 0
  displayOptions : UInt32 := 11
  cursorKindNames : List (Int32 × Bytes) := []
  typeKindNames : List (Int32 × Bytes) := []
  sources : List SourceEntry := []
  units : Array UnitEntry := #[]
  files : Array FileEntry := #[]
  cursors : Array CursorEntry := #[]
  types : Array TypeEntry := #[]
  diagnostics : Array DiagnosticEntry := #[]
  completions : List CompletionEntry := []
  strings : Array StringEntry := #[]
  databases : List DatabaseEntry := []
deriving Inhabited

end SourceAtlas
