import SourceAtlas.Engine.Tables
import SourceAtlas.Json.Basic

/-!
# Reading the tables of an engine

Tables are written in JSON. What is absent or null has its default; numbers wrap to the width of
what they stand for; a text is a JSON string, or a list of bytes where it need not be UTF-8.
-/

namespace SourceAtlas

namespace Json

/-- A number, or a default for anything else. -/
def intOr (default : Int) (value : Json) : Int :=
  value.int?.getD default

def int32 (value : Json) (key : String) (default : Int32 := 0) : Int32 :=
  (value.get key).int?.elim default Int32.ofInt

def int64 (value : Json) (key : String) (default : Int64 := 0) : Int64 :=
  (value.get key).int?.elim default Int64.ofInt

def uint32 (value : Json) (key : String) (default : UInt32 := 0) : UInt32 :=
  (value.get key).int?.elim default UInt32.ofInt

/-- Whether a number is not zero. -/
def flag (value : Json) (key : String) (default : Bool := false) : Bool :=
  (value.get key).bool?.getD default

/-- A text, or a list of bytes in its place. -/
def bytes? : Json → Option Bytes
  | .str s => some (Utf8.encode s)
  | value =>
    match value.get "bytes" with
    | .arr items => some (items.map fun item => UInt8.ofNat (item.intOr 0).toNat)
    | _ => none

/-- A reference; negative numbers are the null handle. -/
def ref (value : Json) : Ref :=
  value.int?.bind fun n => if 0 ≤ n then some n.toNat else none

/-- A reference, if there is a word about it. -/
def ref? (value : Json) : Option Ref :=
  value.int?.map fun _ => value.ref

def refs (value : Json) (key : String) : List Ref :=
  (value.get key).items.map ref

def place (value : Json) : Place where
  file := (value.item 0).ref
  line := .ofInt ((value.item 1).intOr 0)
  column := .ofInt ((value.item 2).intOr 0)
  offset := .ofInt ((value.item 3).intOr 0)

def span (value : Json) : Span where
  start := (value.item 0).place
  stop := (value.item 1).place

/-- The number of items that a list field has, unless another field gives it; -1 without either. -/
def count (value : Json) (key countKey : String) : Int32 :=
  value.int32 countKey
    (match value.get key with
    | .arr items => Int32.ofNat items.length
    | _ => -1)

/-- The items of a list, or of none if there is no list. -/
def items? : Json → Option (List Json)
  | .arr items => some items
  | _ => none

def fieldsOf : Json → List (String × Json)
  | .obj fields => fields
  | _ => []

end Json

def SourceEntry.ofJson (value : Json) : SourceEntry where
  name := (value.get "name").bytes?
  status := value.int32 "status"
  unit := (value.get "unit").ref

def TokenEntry.ofJson (value : Json) : TokenEntry where
  kind := value.int32 "kind"
  spelling := (value.get "spelling").bytes?
  location := (value.get "location").place
  extent := (value.get "extent").span
  cursor := (value.get "cursor").ref

def InclusionEntry.ofJson (value : Json) : InclusionEntry where
  file := (value.get "file").ref
  stack := (value.get "stack").items.map Json.place
  depth := value.uint32 "depth" (.ofNat (value.get "stack").items.length)

def CursorAtEntry.ofJson (value : Json) : CursorAtEntry where
  file := (value.item 0).ref
  line := .ofInt ((value.item 1).intOr 0)
  column := .ofInt ((value.item 2).intOr 0)
  cursor := (value.item 3).ref

def UnitEntry.ofJson (value : Json) : UnitEntry where
  spelling := (value.get "spelling").bytes?
  root := (value.get "root").ref?.getD (some 0)
  diagnostics := value.refs "diagnostics"
  reparseOptions := value.uint32 "reparse_options"
  reparseStatus := value.int32 "reparse_status"
  reparseBecomes := (value.get "reparse_becomes").ref
  saveOptions := value.uint32 "save_options"
  saveStatus := value.int32 "save_status"
  cursorAt := (value.get "cursor_at").items.map CursorAtEntry.ofJson
  inclusions := (value.get "inclusions").items.map InclusionEntry.ofJson
  tokens := (value.get "tokens").items.map TokenEntry.ofJson

def FileEntry.ofJson (value : Json) : FileEntry where
  name := (value.get "name").bytes?
  time := value.int64 "time"
  isSystem := value.flag "system"
  identity := (value.get "eq").int?

def TemplateArgumentEntry.ofJson (value : Json) : TemplateArgumentEntry where
  kind := value.int32 "kind" 9
  type := (value.get "type").ref
  value := value.int64 "value"
  unsignedValue := .ofInt ((value.get "unsigned").intOr 0)

def CursorEntry.ofJson (value : Json) : CursorEntry where
  kind := ⟨value.int32 "kind"⟩
  identity := (value.get "eq").int?
  hash := (value.get "hash").int?
  text text := (value.get text.key).bytes?
  location := (value.get "location").place
  extent := (value.get "extent").span
  type link := (value.get link.key).ref
  link link := (value.get link.key).ref?
  trait trait := value.int32 trait.key
  flag flag := value.flag flag.key
  includedFile := (value.get "included_file").ref
  value := (value.get "value").intOr 0
  children := value.refs "children"
  orphanChildren := value.flag "orphan_children"
  args := value.refs "args"
  argCount := value.count "args" "arg_count"
  templateArgs := (value.get "template_args").items?.map (·.map TemplateArgumentEntry.ofJson)
  fieldOffset := value.int64 "field_offset" (-1)
  bitfieldWidth := value.int32 "bitfield_width" (-1)

def TypeEntry.ofJson (value : Json) : TypeEntry where
  kind := ⟨value.int32 "kind"⟩
  identity := (value.get "eq").int?
  spelling := (value.get "spelling").bytes?
  typedefName := (value.get "typedef_name").bytes?
  declaration := (value.get "declaration").ref
  link link := (value.get link.key).ref?
  flag flag := value.flag flag.key
  measure measure := value.int64 measure.key (-1)
  addressSpace := value.uint32 "address_space"
  refQualifier := value.int32 "ref_qualifier"
  exceptionSpecification := value.int32 "exception_specification_kind"
  offsets := (value.get "offsets").fieldsOf.filterMap fun (name, offset) =>
    offset.int?.map fun n => (name, .ofInt n)
  args := value.refs "args"
  argCount := value.count "args" "arg_count"
  templateArgs := (value.get "template_args").items?.map (·.map Json.ref)
  fields := value.refs "fields"

def DiagnosticEntry.ofJson (value : Json) : DiagnosticEntry where
  severity := value.int32 "severity"
  location := (value.get "location").place
  spelling := (value.get "spelling").bytes?
  message := (value.get "spelling").str?.elim [] Utf8.encode
  ranges := (value.get "ranges").items.map Json.span
  fixIts := (value.get "fixits").items.map fun fixIt => ((fixIt.item 0).span, (fixIt.item 1).bytes?)
  children := value.refs "children"
  category := value.uint32 "category"
  categoryName := (value.get "category_name").bytes?
  enableOption := (value.get "option").bytes?
  disableOption := (value.get "disable_option").bytes?

def CandidateEntry.ofJson (value : Json) : CandidateEntry where
  kind := ⟨value.int32 "kind"⟩
  string := (value.get "string").ref

def CompletionEntry.ofJson (value : Json) : CompletionEntry where
  file := (value.get "file").bytes?
  line := value.uint32 "line"
  column := value.uint32 "column"
  results := (value.get "results").items.map CandidateEntry.ofJson
  diagnostics := value.refs "diagnostics"

def ChunkEntry.ofJson (value : Json) : ChunkEntry where
  kind := value.int32 "kind"
  text := (value.get "text").bytes?
  string := (value.get "string").ref

def StringEntry.ofJson (value : Json) : StringEntry where
  chunks := (value.get "chunks").items.map ChunkEntry.ofJson
  priority := value.uint32 "priority"
  availability := value.int32 "availability"
  brief := (value.get "brief").bytes?

def CommandEntry.ofJson (value : Json) : CommandEntry where
  directory := (value.get "directory").bytes?
  filename := (value.get "filename").bytes?
  arguments := (value.get "arguments").items.map Json.bytes?

/-- A list of commands, in which null is a null handle. -/
def CommandEntries.ofJson? (value : Json) : Option CommandEntries :=
  value.items?.map (·.map fun item => if item.isNull then none else some (.ofJson item))

def DatabaseEntry.ofJson (value : Json) : DatabaseEntry where
  directory := (value.get "directory").bytes?
  status := value.int32 "status"
  hasHandle := value.flag "handle" true
  all := CommandEntries.ofJson? (value.get "all")
  files := (value.get "files").fieldsOf.filterMap fun (name, commands) =>
    (CommandEntries.ofJson? commands).map fun entries => (Utf8.encode name, entries)

/-- Names of kinds, by their numbers in decimal digits. -/
def kindNamesOfJson (value : Json) : List (Int32 × Bytes) :=
  value.fieldsOf.filterMap fun (number, name) => do
    return (Int32.ofInt (← number.toInt?), ← name.bytes?)

/-- The tables that a JSON object holds. -/
def Tables.ofJson (value : Json) : Tables where
  version := (value.get "version").bytes?
  createsIndexes := value.flag "index" true
  editingOptions := value.uint32 "editing_options"
  displayOptions := value.uint32 "display_options" 11
  cursorKindNames := kindNamesOfJson (value.get "cursor_kind_names")
  typeKindNames := kindNamesOfJson (value.get "type_kind_names")
  sources := (value.get "sources").items.map SourceEntry.ofJson
  units := ((value.get "units").items.map UnitEntry.ofJson).toArray
  files := ((value.get "files").items.map FileEntry.ofJson).toArray
  cursors := ((value.get "cursors").items.map CursorEntry.ofJson).toArray
  types := ((value.get "types").items.map TypeEntry.ofJson).toArray
  diagnostics := ((value.get "diagnostics").items.map DiagnosticEntry.ofJson).toArray
  completions := (value.get "completions").items.map CompletionEntry.ofJson
  strings := ((value.get "strings").items.map StringEntry.ofJson).toArray
  databases := (value.get "databases").items.map DatabaseEntry.ofJson

end SourceAtlas
