import SourceAtlas.Config
import SourceAtlas.Engine.Attribute
import SourceAtlas.Entity.Basic

/-!
# The trace of a session

Everything that passes between the library and the engine is an event: requests that make or change
something, questions about what there is, resources and texts that are handed out and given back.
-/

namespace SourceAtlas

/-- Something that the engine is to do. -/
inductive Request where
  | createIndex (config : IndexConfig)
  | parse (index : Resource) (name : Option Bytes) (args : List Bytes)
      (unsaved : List UnsavedFile) (options : UInt32)
  | read (index : Resource) (name : Bytes)
  | reparse (unit : Resource) (unsaved : List UnsavedFile) (options : UInt32)
  | save (unit : Resource) (name : Bytes) (options : UInt32)
  | complete (unit : Resource) (name : Bytes) (line column : UInt32)
      (unsaved : List UnsavedFile) (options : UInt32)
  | getFile (unit : Resource) (name : Bytes)
  | openDatabase (directory : Bytes)
  | findCommands (database : Resource) (file : Bytes)
deriving DecidableEq, Repr

/-- The resources that a request is about. -/
def Request.operands : Request → List Resource
  | .createIndex _ | .openDatabase _ => []
  | .parse index .. | .read index _ => [index]
  | .reparse unit .. | .save unit .. | .complete unit .. | .getFile unit _ => [unit]
  | .findCommands database _ => [database]

/-- Something that the engine is asked about what there is. Positions count from zero. A visitation
names what is visited. -/
inductive Question where
  -- the engine itself
  | version | editingOptions | displayOptions
  | cursorKindName (kind : CursorKind) | typeKindName (kind : TypeKind)
  | kindIs (kind : CursorKind) (kindClass : KindClass)
  -- units
  | unitSpelling | rootCursor | diagnosticCount | unitDiagnostic (i : Nat) | inclusions
  | reparseOptions | saveOptions | tokenize (span : Span) | cursorAt (place : Place)
  -- files, locations and ranges
  | fileName | fileTime | sameFile
  | placeAt (line column : UInt32) | placeAtOffset (offset : UInt32)
  | expansion | isInSystemHeader | isFromMainFile | samePlace
  | makeSpan | spanStart | spanStop | sameSpan
  -- cursors
  | cursorKind | cursorText (text : CursorText) | cursorLocation | cursorExtent
  | cursorTrait (property : CursorTrait) | cursorFlag (flag : CursorFlag)
  | cursorType (link : CursorTypeLink) | cursorLink (link : CursorLink) | sameCursor | cursorHash
  | enumConstant (unsigned : Bool) | includedFile | argumentCount | argument (i : Nat)
  | templateArgumentCount | templateArgumentKind (i : Nat) | templateArgumentType (i : Nat)
  | templateArgumentValue (i : Nat) | templateArgumentUnsignedValue (i : Nat)
  | children (cursor : Ref) | fieldOffset | bitfieldWidth
  -- types
  | typeSpelling | typedefName | typeDeclaration | typeLink (link : TypeLink)
  | typeFlag (flag : TypeFlag) | typeMeasure (measure : TypeMeasure) | addressSpace | refQualifier
  | typeExceptionSpecification | offsetOf (field : Bytes)
  | argumentTypeCount | argumentType (i : Nat)
  | typeTemplateArgumentCount | typeTemplateArgument (i : Nat) | fields (type : Ref) | sameType
  -- tokens of a batch
  | tokenKind (i : Nat) | tokenSpelling (i : Nat) | tokenLocation (i : Nat) | tokenExtent (i : Nat)
  | tokenCursor (i : Nat)
  -- diagnostics
  | severity | diagnosticLocation | diagnosticSpelling | rangeCount | range (i : Nat) | fixItCount
  | fixIt (i : Nat) | childDiagnostics | childDiagnosticCount | childDiagnostic (i : Nat)
  | category | categoryName | enableOption | disableOption | formatted (bits : UInt32)
  -- completion
  | completionDiagnosticCount | completionDiagnostic (i : Nat)
  | chunkCount | chunkText (i : Nat) | chunkKind (i : Nat) | chunkString (i : Nat) | priority
  | candidateAvailability | candidateComment
  -- compilation databases
  | allCommands | commandCount | command (i : Nat) | commandDirectory | commandFilename
  | commandArgumentCount | commandArgument (i : Nat)
deriving DecidableEq, Repr

/-- Something that passes between the library and the engine. -/
inductive Event where
  | requested (request : Request)
  /-- A question about values that live as long as some resources. If there is a memo for the
  answer, `memo` is its cell. -/
  | asked (question : Question) (operands : List Resource) (memo : Option CellId)
  | acquired (resource : Resource)
  | disposed (resource : Resource)
  /-- A text that the engine hands out. It may have no data. -/
  | textTaken (serial : Nat) (text : EngineText)
  /-- What is read of a text before it is returned. -/
  | textCopied (serial : Nat) (copy : Option String)
  | textReturned (serial : Nat)
deriving DecidableEq, Repr

/-- The resources that are used by an event. -/
def Event.operands : Event → List Resource
  | .requested request => request.operands
  | .asked _ operands _ => operands
  | _ => []

end SourceAtlas
