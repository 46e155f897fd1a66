/-!
# Attributes

What an engine can be asked about a cursor or a type by name, grouped by the kind of answer. Each
attribute has the key under which the engine's tables hold it.
-/

namespace SourceAtlas

/-- A text about a cursor. -/
inductive CursorText where
  | spelling | displayName | mangledName | usr | objcTypeEncoding | briefComment | rawComment
deriving DecidableEq, Repr

def CursorText.key : CursorText → String
  | .spelling => "spelling"
  | .displayName => "display_name"
  | .mangledName => "mangled_name"
  | .usr => "usr"
  | .objcTypeEncoding => "objc_type_encoding"
  | .briefComment => "brief_comment"
  | .rawComment => "raw_comment"

/-- A property of a cursor that is one of a few kinds. -/
inductive CursorTrait where
  | linkage | tlsKind | storageClass | availability | accessSpecifier
  | exceptionSpecification
deriving DecidableEq, Repr

def CursorTrait.key : CursorTrait → String
  | .linkage => "linkage"
  | .tlsKind => "tls_kind"
  | .storageClass => "storage_class"
  | .availability => "availability"
  | .accessSpecifier => "access_specifier"
  | .exceptionSpecification => "exception_specification_kind"

/-- A property that a cursor has or has not. -/
inductive CursorFlag where
  | isDefinition | isAnonymous | isBitfield | isConstMethod | isConvertingConstructor
  | isCopyConstructor | isDefaultConstructor | isMoveConstructor | isDefaultMethod
  | isDeletedMethod | isCopyAssignmentOperatorMethod | isMoveAssignmentOperatorMethod
  | isExplicitMethod | isMutableField | isPureVirtualMethod | isStaticMethod | isVirtualMethod
  | isAbstractRecord | isScopedEnum
deriving DecidableEq, Repr

namespace CursorFlag

def all : List CursorFlag :=
  [.isDefinition, .isAnonymous, .isBitfield, .isConstMethod, .isConvertingConstructor,
    .isCopyConstructor, .isDefaultConstructor, .isMoveConstructor, .isDefaultMethod,
    .isDeletedMethod, .isCopyAssignmentOperatorMethod, .isMoveAssignmentOperatorMethod,
    .isExplicitMethod, .isMutableField, .isPureVirtualMethod, .isStaticMethod, .isVirtualMethod,
    .isAbstractRecord, .isScopedEnum]

def key : CursorFlag → String
  | .isDefinition => "is_definition"
  | .isAnonymous => "is_anonymous"
  | .isBitfield => "is_bitfield"
  | .isConstMethod => "is_const_method"
  | .isConvertingConstructor => "is_converting_constructor"
  | .isCopyConstructor => "is_copy_constructor"
  | .isDefaultConstructor => "is_default_constructor"
  | .isMoveConstructor => "is_move_constructor"
  | .isDefaultMethod => "is_default_method"
  | .isDeletedMethod => "is_deleted_method"
  | .isCopyAssignmentOperatorMethod => "is_copy_assignment_operator_method"
  | .isMoveAssignmentOperatorMethod => "is_move_assignment_operator_method"
  | .isExplicitMethod => "is_explicit_method"
  | .isMutableField => "is_mutable_field"
  | .isPureVirtualMethod => "is_pure_virtual_method"
  | .isStaticMethod => "is_static_method"
  | .isVirtualMethod => "is_virtual_method"
  | .isAbstractRecord => "is_abstract_record"
  | .isScopedEnum => "is_scoped_enum"

end CursorFlag

/-- A property that engines of some age cannot be asked about. -/
inductive RecentFlag where
  | isDeletedMethod | isCopyAssignmentOperatorMethod | isMoveAssignmentOperatorMethod
  | isExplicitMethod
deriving DecidableEq, Repr

def RecentFlag.flag : RecentFlag → CursorFlag
  | .isDeletedMethod => .isDeletedMethod
  | .isCopyAssignmentOperatorMethod => .isCopyAssignmentOperatorMethod
  | .isMoveAssignmentOperatorMethod => .isMoveAssignmentOperatorMethod
  | .isExplicitMethod => .isExplicitMethod

def CursorFlag.recent : List RecentFlag :=
  [.isDeletedMethod, .isCopyAssignmentOperatorMethod, .isMoveAssignmentOperatorMethod,
    .isExplicitMethod]

/-- A type that a cursor leads to. -/
inductive CursorTypeLink where
  | type | resultType | underlyingTypedefType | enumType
deriving DecidableEq, Repr

def CursorTypeLink.key : CursorTypeLink → String
  | .type => "type"
  | .resultType => "result_type"
  | .underlyingTypedefType => "underlying_typedef_type"
  | .enumType => "enum_type"

/-- A cursor that a cursor leads to. -/
inductive CursorLink where
  | canonical | semanticParent | lexicalParent | referenced | definition
deriving DecidableEq, Repr

def CursorLink.key : CursorLink → String
  | .canonical => "canonical"
  | .semanticParent => "semantic_parent"
  | .lexicalParent => "lexical_parent"
  | .referenced => "referenced"
  | .definition => "definition"

/-- A property that a type has or has not. -/
inductive TypeFlag where
  | isConst | isVolatile | isRestrict | isVariadic | isPod
deriving DecidableEq, Repr

def TypeFlag.key : TypeFlag → String
  | .isConst => "const"
  | .isVolatile => "volatile"
  | .isRestrict => "restrict"
  | .isVariadic => "variadic"
  | .isPod => "pod"

/-- A type that a type leads to. -/
inductive TypeLink where
  | canonical | pointee | result | arrayElement | element | classType | named
deriving DecidableEq, Repr

def TypeLink.key : TypeLink → String
  | .canonical => "canonical"
  | .pointee => "pointee"
  | .result => "result"
  | .arrayElement => "array_element_type"
  | .element => "element_type"
  | .classType => "class_type"
  | .named => "named_type"

/-- A number about a type. Engines answer a negative number where there is none. -/
inductive TypeMeasure where
  | arraySize | elementCount | align | size
deriving DecidableEq, Repr

def TypeMeasure.key : TypeMeasure → String
  | .arraySize => "array_size"
  | .elementCount => "element_count"
  | .align => "align"
  | .size => "size"

/-- A class of cursor kinds. -/
inductive KindClass where
  | declaration | reference | expression | statement | attribute | invalid | unit
  | preprocessing | unexposed
deriving DecidableEq, Repr

def KindClass.all : List KindClass :=
  [.declaration, .reference, .expression, .statement, .attribute, .invalid, .unit,
    .preprocessing, .unexposed]

end SourceAtlas
