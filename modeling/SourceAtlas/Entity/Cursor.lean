import SourceAtlas.Entity.Source
import SourceAtlas.Entity.Token
import SourceAtlas.Entity.Type
import SourceAtlas.Kind.Entity

/-!
# Cursors

The nodes of the syntax tree. What never changes about a node and is asked for often is remembered
in a memo, which all clones of the cursor share: each question of that kind goes to the engine once.
-/

namespace SourceAtlas

namespace CursorMemo

def spellingSlot : MemoSlot String :=
  ⟨(·.spelling), fun memo value => { memo with spelling := some value }⟩

def displayNameSlot : MemoSlot String :=
  ⟨(·.displayName), fun memo value => { memo with displayName := some value }⟩

def locationSlot : MemoSlot SourceLocation :=
  ⟨(·.location), fun memo value => { memo with location := some value }⟩

def extentSlot : MemoSlot SourceRange :=
  ⟨(·.extent), fun memo value => { memo with extent := some value }⟩

def typeSlot : MemoSlot SourceType :=
  ⟨(·.type), fun memo value => { memo with type := some value }⟩

def canonicalSlot : MemoSlot Cursor :=
  ⟨(·.canonical), fun memo value => { memo with canonical := some value }⟩

def semanticParentSlot : MemoSlot (Option Cursor) :=
  ⟨(·.semanticParent), fun memo value => { memo with semanticParent := some value }⟩

def lexicalParentSlot : MemoSlot (Option Cursor) :=
  ⟨(·.lexicalParent), fun memo value => { memo with lexicalParent := some value }⟩

def enumValueSlot : MemoSlot EnumValue :=
  ⟨(·.enumValue), fun memo value => { memo with enumValue := some value }⟩

def hashSlot : MemoSlot UInt32 :=
  ⟨(·.hash), fun memo value => { memo with hash := some value }⟩

end CursorMemo

namespace Cursor

/-- The root of a unit. -/
def root (unit : SourceUnit) : Act Cursor := do
  Act.ask .rootCursor [unit.resource]
  let root := ((← Act.engine).unit (← Act.table unit.resource)).root
  make ⟨root, unit.resource⟩ unit none

/-- The cursor of the entity at a location of a unit. Locations in completion results are not part
of the syntax tree. -/
def atLocation (location : SourceLocation) : Act (Option Cursor) := do
  if location.isAnchored then
    Act.fail (.precondition "from_location" "a location inside a translation unit"
      "a code-completion location")
  let unit := location.unit
  Act.ask (.cursorAt location.raw.value) [unit.resource, location.raw.origin]
  let cursor := (← Act.engine).cursorAt (← Act.table unit.resource) location.raw.value
  ofRaw? ⟨cursor, unit.resource⟩ unit

def kind (cursor : Cursor) : Act CursorKind :=
  cursor.raw.ask .cursorKind fun engine c => (engine.cursor c).kind

/-- Fails unless a condition on the cursor holds. -/
def require (cursor : Cursor) (operation expected : String) (holds : Bool) : Act Unit := do
  unless holds do
    Act.fail (.precondition operation expected (← cursor.kind).inspect.render)

/-! ## Texts -/

/-- A text that is not remembered; none if it has no data. -/
def text? (cursor : Cursor) (text : CursorText) : Act (Option String) :=
  cursor.raw.askText? (.cursorText text) fun engine c => engine.cursorText c text

/-- A text that is not remembered; empty if it has no data. -/
def text (cursor : Cursor) (text : CursorText) : Act String := do
  return (← cursor.text? text).getD ""

/-- The name of the entity. -/
def spelling (cursor : Cursor) : Act String :=
  Act.memoized cursor.memo CursorMemo.spellingSlot <|
    cursor.raw.askText (.cursorText .spelling) (fun engine c => engine.cursorText c .spelling)
      cursor.memo

/-- The name with more detail, such as the parameters of a function. -/
def displayName (cursor : Cursor) : Act String :=
  Act.memoized cursor.memo CursorMemo.displayNameSlot <|
    cursor.raw.askText (.cursorText .displayName)
      (fun engine c => engine.cursorText c .displayName) cursor.memo

/-! ## Properties -/

/-- A property that is one of a few kinds. -/
def property (κ : Type) [ClosedKind κ] (cursor : Cursor) (property : CursorTrait) : Act κ := do
  return ClosedKind.ofRaw (← cursor.raw.ask (.cursorTrait property) fun engine c =>
    (engine.cursor c).trait property)

/-- Whether the cursor has a property. An engine that cannot be asked about it is not asked. -/
def has (cursor : Cursor) (flag : CursorFlag) : Act Bool := do
  if (← Act.engine).supports flag then
    cursor.raw.ask (.cursorFlag flag) fun engine c => (engine.cursor c).flag flag
  else return false

/-- The engine's hash of the cursor. Equal cursors have equal hashes. -/
def hash (cursor : Cursor) : Act UInt32 :=
  Act.memoized cursor.memo CursorMemo.hashSlot <|
    cursor.raw.ask .cursorHash (fun engine c => engine.cursorHash c) cursor.memo

def same (a b : Cursor) : Act Bool := do
  Act.ask .sameCursor [a.raw.origin, b.raw.origin]
  return (← Act.engine).sameCursor a.raw.value b.raw.value

/-- The offset of a field in bits from the start of its record. -/
def fieldOffset (cursor : Cursor) : Act Nat := do
  let offset ← cursor.raw.ask .fieldOffset fun engine c => (engine.cursor c).fieldOffset
  Act.ofExcept (layoutResult "field_offset" offset.toInt)

/-- The width of a bit-field. -/
def bitfieldWidth (cursor : Cursor) : Act (Option Nat) := do
  let width ← cursor.raw.ask .bitfieldWidth fun engine c => (engine.cursor c).bitfieldWidth
  return natOf? width.toInt

/-! ## Places -/

/-- Where the entity is. The location belongs to the memo. -/
def location (cursor : Cursor) : Act SourceLocation :=
  Act.memoized cursor.memo CursorMemo.locationSlot do
    let raw ← cursor.raw.derive .cursorLocation (fun engine c => (engine.cursor c).location)
      cursor.memo
    Act.keep { raw, unit := cursor.unit }

/-- Where the entity is, in terms of files, lines and columns, which the memo remembers as well. -/
def expansion (cursor : Cursor) : Act Expansion := do
  let location ← cursor.location
  let expansion ← location.expand
  let expanded ← Act.keep { location with expansion := some expansion }
  Act.update (·.remember cursor.memo CursorMemo.locationSlot expanded)
  return expansion

/-- The source text of the entity. The range belongs to the memo. -/
def extent (cursor : Cursor) : Act SourceRange :=
  Act.memoized cursor.memo CursorMemo.extentSlot do
    let raw ← cursor.raw.derive .cursorExtent (fun engine c => (engine.cursor c).extent)
      cursor.memo
    Act.keep { raw, unit := cursor.unit }

/-- The tokens of the entity's source text. -/
def tokens (cursor : Cursor) : Act TokenStream := do
  TokenStream.make cursor.unit (← cursor.extent).raw

/-! ## Types -/

/-- The handle of a type that the cursor leads to. -/
def typeRaw (cursor : Cursor) (link : CursorTypeLink) (memo : Option CellId := none) :
    Act (Raw Ref) :=
  cursor.raw.derive (.cursorType link) (fun engine c => (engine.cursor c).type link) memo

/-- The type of the entity. It belongs to the memo. -/
def type (cursor : Cursor) : Act SourceType :=
  Act.memoized cursor.memo CursorMemo.typeSlot do
    Act.keep ⟨← cursor.typeRaw .type cursor.memo, cursor.unit⟩

/-- The type that a function returns. -/
def resultType (cursor : Cursor) : Act SourceType := do
  Act.keep ⟨← cursor.typeRaw .resultType, cursor.unit⟩

/-- The type that a typedef gives a name to. -/
def underlyingTypedefType (cursor : Cursor) : Act SourceType := do
  let kind ← cursor.kind
  Act.ask (.kindIs kind .declaration) []
  cursor.require "underlying_typedef_type" "a declaration" (Engine.kindIs kind .declaration)
  Act.keep ⟨← cursor.typeRaw .underlyingTypedefType, cursor.unit⟩

/-- The handle of the integer type of an enumeration. -/
def enumTypeRaw (cursor : Raw Ref) : Act (Raw Ref) := do
  let kind ← cursor.ask .cursorKind fun engine c => (engine.cursor c).kind
  if kind != .enumDecl then
    Act.fail (.precondition "enum_type" "an enum declaration" kind.inspect.render)
  cursor.derive (.cursorType .enumType) fun engine c => (engine.cursor c).type .enumType

/-- The integer type of an enumeration. -/
def enumType (cursor : Cursor) : Act SourceType := do
  Act.keep ⟨← enumTypeRaw cursor.raw, cursor.unit⟩

/-- The integer type behind the type of an enumeration constant: sugar is peeled, typedefs are made
canonical, and an enumeration leads to its integer type. -/
def integerType (type : SourceType) : Act SourceType := do
  let type ← if (← type.kind) == .elaborated then type.follow .named else pure type
  let type ← if (← type.kind) == .typedef then type.follow .canonical else pure type
  if (← type.kind) != .enum then return type
  match ← type.declarationRaw? with
  | none => return type
  | some declaration =>
    let kind ← declaration.ask .cursorKind fun engine c => (engine.cursor c).kind
    if kind != .enumDecl then return type
    let integer : SourceType := ⟨← enumTypeRaw declaration, type.unit⟩
    integer.follow .canonical

/-- The value of an enumeration constant, read with the signedness of the integer type. -/
def enumValue (cursor : Cursor) : Act EnumValue := do
  cursor.require "enum_value" "an enum constant declaration"
    ((← cursor.kind) == CursorKind.enumConstantDecl)
  Act.memoized cursor.memo CursorMemo.enumValueSlot do
    let unsigned := (← (← integerType (← cursor.type)).kind).isUnsignedInteger
    let value ← cursor.raw.ask (.enumConstant unsigned) (fun engine c => (engine.cursor c).value)
      cursor.memo
    return if unsigned then .unsigned (.ofInt value) else .signed (.ofInt value)

/-! ## Other cursors -/

/-- The handle of a cursor that the cursor leads to. -/
def linkRaw (cursor : Cursor) (link : CursorLink) (memo : Option CellId := none) :
    Act (Raw Ref) :=
  cursor.raw.derive (.cursorLink link) (fun engine c => engine.cursorLink c link) memo

/-- A cursor that the cursor leads to, which is not remembered. -/
def linked (cursor : Cursor) (link : CursorLink) : Act (Option Cursor) := do
  ofRaw? (← cursor.linkRaw link) cursor.unit

/-- The cursor that stands for all declarations of the entity. It belongs to the memo. -/
def canonical (cursor : Cursor) : Act Cursor :=
  Act.memoized cursor.memo CursorMemo.canonicalSlot do
    make (← cursor.linkRaw .canonical cursor.memo) cursor.unit none

/-- The cursor of the enclosing entity. It belongs to the memo, which also remembers that there is
none. -/
def semanticParent (cursor : Cursor) : Act (Option Cursor) :=
  Act.memoized cursor.memo CursorMemo.semanticParentSlot do
    ofRaw? (← cursor.linkRaw .semanticParent cursor.memo) cursor.unit

/-- The cursor of the enclosing text. It belongs to the memo, which also remembers that there is
none. -/
def lexicalParent (cursor : Cursor) : Act (Option Cursor) :=
  Act.memoized cursor.memo CursorMemo.lexicalParentSlot do
    ofRaw? (← cursor.linkRaw .lexicalParent cursor.memo) cursor.unit

/-- The parent under which the cursor was visited. -/
def visitParent (cursor : Cursor) : Act (Option Cursor) := do
  match cursor.parent with
  | some raw => some <$> make raw cursor.unit none
  | none => return none

/-- The file that an inclusion directive pulls in. -/
def includedFile (cursor : Cursor) : Act (Option SourceFile) := do
  cursor.require "included_file" "an inclusion directive"
    ((← cursor.kind) == CursorKind.inclusionDirective)
  let raw ← cursor.raw.derive .includedFile fun engine c => (engine.cursor c).includedFile
  Act.keep (SourceFile.ofRaw? raw cursor.unit)

/-- The parameters of a function, or the arguments of a call. Null ones are left out. -/
def arguments (cursor : Cursor) : Act (List Cursor) := do
  let count ← cursor.raw.ask .argumentCount fun engine c => (engine.cursor c).argCount
  let found ← (List.range (countOf count)).mapM fun i => do
    ofRaw? (← cursor.raw.derive (.argument i) fun engine c => engine.cursorArgument c i) cursor.unit
  return found.filterMap id

/-- The direct children. Every call visits them anew. -/
def children (cursor : Cursor) : Act (List Cursor) := do
  let visits ← cursor.raw.ask (.children cursor.raw.value) fun engine c => engine.childVisits c
  let nodes ← Act.ofPanic (Visit.collect (visits.map fun (child, parent) => ⟨child, parent⟩))
  ofVisits nodes cursor.raw.origin cursor.unit

/-! ## Template arguments -/

/-- The number of template arguments of a specialization. -/
def templateArgumentCount (cursor : Cursor) : Act (Option Nat) := do
  let count ← cursor.raw.ask .templateArgumentCount fun engine c => engine.templateArgumentCount c
  return natOf? count.toInt

def templateArgumentKind (cursor : Cursor) (i : Nat) : Act TemplateArgumentKind := do
  return .ofRaw (← cursor.raw.ask (.templateArgumentKind i) fun engine c =>
    (engine.templateArgument c i).kind)

def templateArgumentType (cursor : Cursor) (i : Nat) : Act SourceType := do
  let raw ← cursor.raw.derive (.templateArgumentType i) fun engine c =>
    (engine.templateArgument c i).type
  Act.keep ⟨raw, cursor.unit⟩

def templateArgumentValue (cursor : Cursor) (i : Nat) : Act Int64 :=
  cursor.raw.ask (.templateArgumentValue i) fun engine c => (engine.templateArgument c i).value

def templateArgumentUnsignedValue (cursor : Cursor) (i : Nat) : Act UInt64 :=
  cursor.raw.ask (.templateArgumentUnsignedValue i) fun engine c =>
    (engine.templateArgument c i).unsignedValue

def inspect (cursor : Cursor) : Act Inspect := do
  let kind ← cursor.kind
  let spelling ← cursor.spelling
  let location ← (← cursor.expansion).inspect
  return .record "Cursor"
    [("kind", kind.inspect), ("spelling", .text spelling), ("location", location)]

end Cursor

end SourceAtlas
