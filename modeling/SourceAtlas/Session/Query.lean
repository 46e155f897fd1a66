import SourceAtlas.Engine.Reader
import SourceAtlas.Entity.Source
import SourceAtlas.Options

/-!
# Queries

What can be asked of the object in a slot, for each kind of object, and the names under which it is
asked for. The arguments of a query stand beside its name as the fields of a JSON object.
-/

namespace SourceAtlas

/-! ## Arguments -/

namespace Json

/-- A path; empty where there is none. -/
def path (args : Json) (key : String) : Bytes :=
  (args.get key).bytes?.getD []

/-- A position in a list. -/
def nth (args : Json) (key : String := "n") : Nat :=
  ((args.get key).intOr 0).toNat

/-- A position where the engine takes no more than 32 bits. -/
def index (args : Json) (key : String := "n") : Nat :=
  (args.uint32 key).toNat

def strings (args : Json) (key : String) : List String :=
  (args.get key).items.map fun item => item.str?.getD ""

/-- Files in memory, as pairs of a path and its contents. -/
def unsaved (args : Json) : List UnsavedFile :=
  (args.get "unsaved").items.map fun file =>
    ⟨(file.item 0).bytes?.getD [], (file.item 1).str?.getD ""⟩

/-- Bits, if they are given. -/
def bits? (args : Json) (key : String) : Option UInt32 :=
  (args.get key).int?.map UInt32.ofInt

/-- A position in a file: an offset, or a line and a column. -/
def position (args : Json) (key : String) : FilePosition :=
  let value := args.get key
  match value.bits? "offset" with
  | some offset => .offset offset
  | none => .lineColumn (value.uint32 "line") (value.uint32 "column")

def completeOptions (args : Json) : CompleteOptions :=
  let options := args.get "options"
  ⟨options.flag "macros", options.flag "patterns", options.flag "brief"⟩

end Json

/-! ## Queries by the kind of object -/

inductive IndexQuery where
  | parse (path : Option Bytes) (args : List String) (unsaved : List UnsavedFile)
      (options : ParseOptions)
  | read (path : Bytes)
  | config
  | debug
deriving DecidableEq, Repr

def IndexQuery.ofName? (name : String) (args : Json) : Option IndexQuery :=
  match name with
  | "parse" =>
    some (.parse (args.get "path").bytes? (args.strings "args") args.unsaved
      ⟨args.uint32 "options"⟩)
  | "read" => some (.read (args.path "path"))
  | "config" => some .config
  | "debug" => some .debug
  | _ => none

inductive UnitQuery where
  | cursor | index | spelling | diagnostics | inclusions | debug
  | reparse (unsaved : List UnsavedFile) (options : Option UInt32)
  | save (path : Bytes)
  | complete (path : Bytes) (line column : UInt32) (unsaved : List UnsavedFile)
      (options : CompleteOptions)
  | file (name : Bytes)
  | location (name : Bytes) (position : FilePosition)
  | extent (name : Bytes) (start stop : FilePosition)
deriving DecidableEq, Repr

def UnitQuery.ofName? (name : String) (args : Json) : Option UnitQuery :=
  match name with
  | "cursor" => some .cursor
  | "index" => some .index
  | "spelling" => some .spelling
  | "diagnostics" => some .diagnostics
  | "includes" => some .inclusions
  | "debug" => some .debug
  | "reparse" => some (.reparse args.unsaved (args.bits? "options"))
  | "save" => some (.save (args.path "path"))
  | "complete" =>
    some (.complete (args.path "path") (args.uint32 "line") (args.uint32 "column") args.unsaved
      args.completeOptions)
  | "file" => some (.file (args.path "name"))
  | "location" => some (.location (args.path "name") (args.position "at"))
  | "extent" => some (.extent (args.path "name") (args.position "start") (args.position "end"))
  | _ => none

inductive CursorQuery where
  | kind | kindSpelling | spelling | displayName
  /-- A text that is empty where the engine has none. -/
  | text (text : CursorText)
  /-- A comment, which may be absent. -/
  | comment (text : CursorText)
  | property (property : CursorTrait)
  | has (flag : CursorFlag)
  | hash | hashFeed | bitfieldWidth | fieldOffset | enumValue
  | location | extent | tokens
  | type | resultType | underlyingTypedefType | enumType
  | canonical | semanticParent | lexicalParent | visitParent | referenced | definition
  | includedFile | arguments | children | walk | unit | debug
  | templateArgumentCount
  | templateArgumentKind (i : Nat)
  | templateArgumentType (i : Nat)
  | templateArgumentValue (i : Nat)
  | templateArgumentUnsignedValue (i : Nat)
deriving DecidableEq, Repr

/-- The names of the queries of a cursor that have no arguments, flags apart. -/
def CursorQuery.names : List (String × CursorQuery) :=
  [("kind", .kind), ("kind_spelling", .kindSpelling), ("spelling", .spelling),
    ("display_name", .displayName), ("mangled_name", .text .mangledName), ("usr", .text .usr),
    ("objc_type_encoding", .text .objcTypeEncoding), ("brief_comment", .comment .briefComment),
    ("raw_comment", .comment .rawComment), ("linkage", .property .linkage),
    ("tls_kind", .property .tlsKind), ("storage_class", .property .storageClass),
    ("availability", .property .availability), ("access_specifier", .property .accessSpecifier),
    ("exception_specification_kind", .property .exceptionSpecification), ("hash", .hash),
    ("hash_feed", .hashFeed), ("bitfield_width", .bitfieldWidth), ("field_offset", .fieldOffset),
    ("enum_value", .enumValue), ("location", .location), ("extent", .extent), ("tokens", .tokens),
    ("type", .type), ("result_type", .resultType),
    ("underlying_typedef_type", .underlyingTypedefType), ("enum_type", .enumType),
    ("canonical", .canonical), ("semantic_parent", .semanticParent),
    ("lexical_parent", .lexicalParent), ("ast_parent", .visitParent), ("referenced", .referenced),
    ("definition", .definition), ("included_file", .includedFile), ("arguments", .arguments),
    ("children", .children), ("walk_preorder", .walk), ("unit", .unit), ("debug", .debug),
    ("template_argument_count", .templateArgumentCount)]

/-- The names of the queries of a cursor about the argument of a template at a position. -/
def CursorQuery.indexedNames : List (String × (Nat → CursorQuery)) :=
  [("template_argument_kind", .templateArgumentKind),
    ("template_argument_type", .templateArgumentType),
    ("template_argument_value", .templateArgumentValue),
    ("template_argument_unsigned_value", .templateArgumentUnsignedValue)]

def CursorQuery.ofName? (name : String) (args : Json) : Option CursorQuery :=
  names.lookup name <|> (CursorFlag.all.find? (·.key == name)).map .has <|>
    (indexedNames.lookup name).map (· args.index)

inductive TypeQuery where
  | kind | kindSpelling | spelling | typedefName
  | has (flag : TypeFlag)
  | isFunctionVariadic
  | linked (link : TypeLink)
  | elementType | elementCount | arraySize | align | size | addressSpace
  | declaration | refQualifier | exceptionSpecification | argumentTypes | fields | unit | debug
  | offsetOf (field : String)
  | templateArgumentCount
  | templateArgument (i : Nat)
deriving DecidableEq, Repr

def TypeQuery.ofName? (name : String) (args : Json) : Option TypeQuery :=
  match name with
  | "kind" => some .kind
  | "kind_spelling" => some .kindSpelling
  | "spelling" => some .spelling
  | "typedef_name" => some .typedefName
  | "is_const_qualified" => some (.has .isConst)
  | "is_volatile_qualified" => some (.has .isVolatile)
  | "is_restrict_qualified" => some (.has .isRestrict)
  | "is_pod" => some (.has .isPod)
  | "is_function_variadic" => some .isFunctionVariadic
  | "canonical" => some (.linked .canonical)
  | "pointee" => some (.linked .pointee)
  | "result" => some (.linked .result)
  | "array_element_type" => some (.linked .arrayElement)
  | "class_type" => some (.linked .classType)
  | "named_type" => some (.linked .named)
  | "element_type" => some .elementType
  | "element_count" => some .elementCount
  | "array_size" => some .arraySize
  | "align" => some .align
  | "size" => some .size
  | "address_space" => some .addressSpace
  | "declaration" => some .declaration
  | "ref_qualifier" => some .refQualifier
  | "exception_specification_kind" => some .exceptionSpecification
  | "argument_types" => some .argumentTypes
  | "fields" => some .fields
  | "unit" => some .unit
  | "debug" => some .debug
  | "offset_of" => some (.offsetOf ((args.get "field").str?.getD ""))
  | "template_argument_count" => some .templateArgumentCount
  | "template_argument_type" => some (.templateArgument args.index)
  | _ => none

/-- The queries of something with a length whose elements are got by position. -/
inductive ViewQuery where
  | length | isEmpty | elements | debug
  | get (i : Nat)
deriving DecidableEq, Repr

def ViewQuery.ofName? (name : String) (args : Json) : Option ViewQuery :=
  match name with
  | "len" => some .length
  | "is_empty" => some .isEmpty
  | "iter" => some .elements
  | "debug" => some .debug
  | "get" => some (.get args.nth)
  | _ => none

inductive FileQuery where
  | name | time | display | debug | unit
  | location (position : FilePosition)
deriving DecidableEq, Repr

def FileQuery.ofName? (name : String) (args : Json) : Option FileQuery :=
  match name with
  | "name" => some .name
  | "time" => some .time
  | "display" => some .display
  | "debug" => some .debug
  | "unit" => some .unit
  | "location" => some (.location (.lineColumn (args.uint32 "line") (args.uint32 "column")))
  | "location_at_offset" => some (.location (.offset (args.uint32 "offset")))
  | _ => none

inductive LocationQuery where
  | file | line | column | offset | isInSystemHeader | isFromMainFile | unit | debug | cursor
deriving DecidableEq, Repr

def LocationQuery.ofName? : String → Option LocationQuery
  | "file" => some .file
  | "line" => some .line
  | "column" => some .column
  | "offset" => some .offset
  | "is_in_system_header" => some .isInSystemHeader
  | "is_from_main_file" => some .isFromMainFile
  | "unit" => some .unit
  | "debug" => some .debug
  | "cursor" => some .cursor
  | _ => none

inductive RangeQuery where
  | start | stop | unit | debug
deriving DecidableEq, Repr

def RangeQuery.ofName? : String → Option RangeQuery
  | "start" => some .start
  | "end" => some .stop
  | "unit" => some .unit
  | "debug" => some .debug
  | _ => none

inductive InclusionQuery where
  | source | included | location | depth | isInputFile | debug
deriving DecidableEq, Repr

def InclusionQuery.ofName? : String → Option InclusionQuery
  | "source" => some .source
  | "include" => some .included
  | "location" => some .location
  | "depth" => some .depth
  | "is_input_file" => some .isInputFile
  | "debug" => some .debug
  | _ => none

inductive TokensQuery where
  | next | rest | length | sizeHint | debug
deriving DecidableEq, Repr

def TokensQuery.ofName? : String → Option TokensQuery
  | "next" => some .next
  | "rest" => some .rest
  | "len" => some .length
  | "size_hint" => some .sizeHint
  | "debug" => some .debug
  | _ => none

inductive TokenQuery where
  | spelling | kind | location | extent | cursor | debug
deriving DecidableEq, Repr

def TokenQuery.ofName? : String → Option TokenQuery
  | "spelling" => some .spelling
  | "kind" => some .kind
  | "location" => some .location
  | "extent" => some .extent
  | "cursor" => some .cursor
  | "debug" => some .debug
  | _ => none

inductive WalkQuery where
  | next | rest
deriving DecidableEq, Repr

def WalkQuery.ofName? : String → Option WalkQuery
  | "next" => some .next
  | "rest" => some .rest
  | _ => none

inductive DiagnosticQuery where
  | severity | location | spelling | ranges | fixIts | children | categoryNumber | categoryName
  | enableOption | disableOption | parent | display | debug
  | format (options : Option DisplayOptions)
deriving DecidableEq, Repr

def DiagnosticQuery.ofName? (name : String) (args : Json) : Option DiagnosticQuery :=
  match name with
  | "severity" => some .severity
  | "location" => some .location
  | "spelling" => some .spelling
  | "ranges" => some .ranges
  | "fixits" => some .fixIts
  | "children" => some .children
  | "category_number" => some .categoryNumber
  | "category_name" => some .categoryName
  | "option" => some .enableOption
  | "disable_option" => some .disableOption
  | "parent" => some .parent
  | "display" => some .display
  | "debug" => some .debug
  | "format" => some (.format ((args.bits? "options").map fun bits => ⟨bits⟩))
  | _ => none

inductive FixItQuery where
  | value | range | debug
deriving DecidableEq, Repr

def FixItQuery.ofName? : String → Option FixItQuery
  | "value" => some .value
  | "range" => some .range
  | "debug" => some .debug
  | _ => none

inductive CandidateQuery where
  | kind | string | debug
deriving DecidableEq, Repr

def CandidateQuery.ofName? : String → Option CandidateQuery
  | "kind" => some .kind
  | "string" => some .string
  | "debug" => some .debug
  | _ => none

inductive StringQuery where
  | length | isEmpty | chunks | priority | availability | briefComment | display | debug
  | chunk (i : Nat)
deriving DecidableEq, Repr

def StringQuery.ofName? (name : String) (args : Json) : Option StringQuery :=
  match name with
  | "len" => some .length
  | "is_empty" => some .isEmpty
  | "chunks" => some .chunks
  | "priority" => some .priority
  | "availability" => some .availability
  | "brief_comment" => some .briefComment
  | "display" => some .display
  | "debug" => some .debug
  | "chunk" => some (.chunk args.nth)
  | _ => none

inductive ChunkQuery where
  | spelling | kind | nested | debug
deriving DecidableEq, Repr

def ChunkQuery.ofName? : String → Option ChunkQuery
  | "spelling" => some .spelling
  | "kind" => some .kind
  | "string" => some .nested
  | "debug" => some .debug
  | _ => none

inductive DatabaseQuery where
  | all | debug
  | commandsFor (file : Bytes)
deriving DecidableEq, Repr

def DatabaseQuery.ofName? (name : String) (args : Json) : Option DatabaseQuery :=
  match name with
  | "all" => some .all
  | "debug" => some .debug
  | "commands_for" => some (.commandsFor (args.path "file"))
  | _ => none

inductive CommandQuery where
  | directory | filename | arguments | list | debug
deriving DecidableEq, Repr

def CommandQuery.ofName? : String → Option CommandQuery
  | "directory" => some .directory
  | "filename" => some .filename
  | "arguments" => some .arguments
  | "list" => some .list
  | "debug" => some .debug
  | _ => none

/-- A question about two objects. -/
inductive PairQuery where
  | equal | contains | rangeTo | tokensIn
deriving DecidableEq, Repr

def PairQuery.ofName? : String → Option PairQuery
  | "eq" => some .equal
  | "contains" => some .contains
  | "range_to" => some .rangeTo
  | "tokens_in" => some .tokensIn
  | _ => none

end SourceAtlas
