import SourceAtlas.Entity.Ask
import SourceAtlas.Entity.Visit
import SourceAtlas.Kind.Entity

/-!
# Types

The types of cursors, and what can be asked about them. Sizes and offsets come back as numbers that
are negative where there is no answer; none of those is handed on.
-/

namespace SourceAtlas

/-- A new handle of a cursor, which shares its memo with no other. -/
def Cursor.make (raw : Raw Ref) (unit : SourceUnit) (parent : Option (Raw Ref)) :
    Act Cursor := do
  let memo ← Act.newCell none (.memo {})
  return ⟨raw, ← Act.keep unit, parent, memo⟩

/-- A new handle of a cursor that the engine answers, if it is not null. -/
def Cursor.ofRaw? (raw : Raw Ref) (unit : SourceUnit) : Act (Option Cursor) := do
  if raw.value.isSome then some <$> Cursor.make raw unit none else return none

/-- Handles for the cursors of a visitation. A null parent is no parent. -/
def Cursor.ofVisits (nodes : List (Nat × Ref)) (origin : Resource) (unit : SourceUnit) :
    Act (List Cursor) :=
  nodes.mapM fun (cursor, parent) =>
    Cursor.make ⟨some cursor, origin⟩ unit (parent.map fun p => ⟨some p, origin⟩)

/-- An answer as a count; a negative answer stands for none. -/
def natOf? (n : Int) : Option Nat :=
  if 0 ≤ n then some n.toNat else none

/-- A number of items; a negative one counts as none at all. -/
def countOf (n : Int32) : Nat :=
  n.toInt.toNat

namespace SourceType

/-- The kind is part of the handle, so the engine is not asked for it. -/
def kind (type : SourceType) : Act TypeKind :=
  return ((← Act.engine).type type.raw.value).kind

/-- Fails unless a condition on the type holds. -/
def require (type : SourceType) (operation expected : String) (holds : Bool) : Act Unit := do
  unless holds do
    Act.fail (.precondition operation expected (← type.kind).inspect.render)

def spelling (type : SourceType) : Act String :=
  type.raw.askText .typeSpelling fun engine t => (engine.type t).spelling

/-- The name of a typedef; empty for other types. -/
def typedefName (type : SourceType) : Act String :=
  type.raw.askText .typedefName fun engine t => (engine.type t).typedefName

def has (type : SourceType) (flag : TypeFlag) : Act Bool :=
  type.raw.ask (.typeFlag flag) fun engine t => (engine.type t).flag flag

def isFunctionVariadic (type : SourceType) : Act Bool := do
  type.require "is_function_variadic" "a function prototype"
    ((← type.kind) == TypeKind.functionProto)
  type.has .isVariadic

def addressSpace (type : SourceType) : Act UInt32 :=
  type.raw.ask .addressSpace fun engine t => (engine.type t).addressSpace

/-- The type at the end of a link, without references of its own. -/
def follow (type : SourceType) (link : TypeLink) : Act SourceType := do
  let raw ← type.raw.derive (.typeLink link) fun engine t => engine.typeLink t link
  return ⟨raw, type.unit⟩

/-- The type at the end of a link. It may be a null type. -/
def linked (type : SourceType) (link : TypeLink) : Act SourceType := do
  Act.keep (← type.follow link)

/-- The handle of the declaration that introduced the type. Builtin types have none. -/
def declarationRaw? (type : SourceType) : Act (Option (Raw Ref)) := do
  let raw ← type.raw.derive .typeDeclaration fun engine t => (engine.type t).declaration
  if raw.value.isNone then return none
  let kind ← raw.ask .cursorKind fun engine c => (engine.cursor c).kind
  return if kind == .noDeclFound then none else some raw

/-- The declaration that introduced the type. -/
def declaration (type : SourceType) : Act (Option Cursor) := do
  match ← type.declarationRaw? with
  | some raw => some <$> Cursor.make raw type.unit none
  | none => return none

def measure (type : SourceType) (measure : TypeMeasure) : Act Int := do
  let n ← type.raw.ask (.typeMeasure measure) fun engine t => (engine.type t).measure measure
  return n.toInt

/-- The number of elements of an array of constant size. -/
def arraySize (type : SourceType) : Act (Option Nat) := do
  return natOf? (← type.measure .arraySize)

/-- The type of the elements of an array, a vector or a complex type. -/
def elementType (type : SourceType) : Act SourceType := do
  let element ← type.follow .element
  type.require "element_type" "an array, vector or complex type" ((← element.kind) != .invalid)
  Act.keep element

/-- The number of elements of an array or a vector. -/
def elementCount (type : SourceType) : Act Nat := do
  let count ← type.measure .elementCount
  type.require "element_count" "an array or vector type" (0 ≤ count)
  return count.toNat

/-- The alignment in bytes. -/
def align (type : SourceType) : Act Nat := do
  Act.ofExcept (layoutResult "align" (← type.measure .align))

/-- The size in bytes. -/
def size (type : SourceType) : Act Nat := do
  Act.ofExcept (layoutResult "size" (← type.measure .size))

/-- The offset of a field in bits. -/
def offsetOf (type : SourceType) (field : String) : Act Nat := do
  let name := Utf8.encode field
  if let some position := name.nulPosition? then Act.fail (.nulAt position)
  let offset ← type.raw.ask (.offsetOf name) fun engine t => engine.fieldOffset t field
  Act.ofExcept (layoutResult "offset_of" offset.toInt)

def refQualifier (type : SourceType) : Act RefQualifierKind := do
  return .ofRaw (← type.raw.ask .refQualifier fun engine t => (engine.type t).refQualifier)

def exceptionSpecification (type : SourceType) : Act ExceptionSpecificationKind := do
  return .ofRaw (← type.raw.ask .typeExceptionSpecification fun engine t =>
    (engine.type t).exceptionSpecification)

/-- The parameter types of a function prototype. -/
def argumentTypes (type : SourceType) : Act ArgumentTypes := do
  type.require "argument_types" "a function prototype"
    ((← type.kind) == TypeKind.functionProto)
  let count ← type.raw.ask .argumentTypeCount fun engine t => (engine.type t).argCount
  Act.keep ⟨type, countOf count⟩

/-- The number of template arguments, if the type is a specialization. -/
def templateArgumentCount (type : SourceType) : Act (Option Nat) := do
  let count ← type.raw.ask .typeTemplateArgumentCount fun engine t =>
    engine.typeTemplateArgumentCount t
  return natOf? count.toInt

def templateArgument (type : SourceType) (i : Nat) : Act SourceType := do
  let raw ← type.raw.derive (.typeTemplateArgument i) fun engine t =>
    engine.typeTemplateArgument t i
  Act.keep ⟨raw, type.unit⟩

/-- The fields of a record, in the order of their declarations. -/
def fields (type : SourceType) : Act (List Cursor) := do
  let visits ← type.raw.ask (.fields type.raw.value) fun engine t => engine.fieldVisits t
  let nodes ← Act.ofPanic (Visit.collect (visits.map fun cursor => { cursor }))
  Cursor.ofVisits nodes type.raw.origin type.unit

def same (a b : SourceType) : Act Bool := do
  Act.ask .sameType [a.raw.origin, b.raw.origin]
  return (← Act.engine).sameType a.raw.value b.raw.value

def inspect (type : SourceType) : Act Inspect := do
  return .record "Type"
    [("kind", (← type.kind).inspect), ("spelling", .text (← type.spelling))]

end SourceType

namespace ArgumentTypes

/-- The type of one parameter. -/
def nth (types : ArgumentTypes) (i : Nat) : Act SourceType := do
  let raw ← types.type.raw.derive (.argumentType i) fun engine t => engine.argumentType t i
  Act.keep ⟨raw, types.type.unit⟩

def get? (types : ArgumentTypes) (i : Nat) : Act (Option SourceType) := do
  if i < types.length then some <$> types.nth i else return none

def toList (types : ArgumentTypes) : Act (List SourceType) :=
  (List.range types.length).mapM types.nth

def inspect (types : ArgumentTypes) : Act Inspect := do
  return .record "ArgumentTypes" [("ty", ← types.type.inspect), ("len", .nat types.length)]

end ArgumentTypes

end SourceAtlas
