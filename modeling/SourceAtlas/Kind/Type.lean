import SourceAtlas.Text.Inspect

/-!
# Type kinds

A type kind is a number that the engine chooses; the kinds that this library relies on, and the ones
it can name, are listed here.
-/

namespace SourceAtlas

/-- The kind of a type. The set is open: it grows with every engine. -/
structure TypeKind where
  raw : Int32
deriving DecidableEq, Repr

namespace TypeKind

/-- The kinds that have a name here. Engines know others, and newer engines know more. -/
def names : List (Int32 × String) :=
  [
    (0, "Invalid"),
    (1, "Unexposed"),
    (2, "Void"),
    (3, "Bool"),
    (4, "Char_U"),
    (5, "UChar"),
    (6, "Char16"),
    (7, "Char32"),
    (8, "UShort"),
    (9, "UInt"),
    (10, "ULong"),
    (11, "ULongLong"),
    (12, "UInt128"),
    (13, "Char_S"),
    (14, "SChar"),
    (15, "WChar"),
    (16, "Short"),
    (17, "Int"),
    (18, "Long"),
    (19, "LongLong"),
    (20, "Int128"),
    (21, "Float"),
    (22, "Double"),
    (23, "LongDouble"),
    (24, "NullPtr"),
    (25, "Overload"),
    (26, "Dependent"),
    (101, "Pointer"),
    (102, "BlockPointer"),
    (103, "LValueReference"),
    (104, "RValueReference"),
    (105, "Record"),
    (106, "Enum"),
    (107, "Typedef"),
    (110, "FunctionNoProto"),
    (111, "FunctionProto"),
    (112, "ConstantArray"),
    (113, "Vector"),
    (114, "IncompleteArray"),
    (115, "VariableArray"),
    (116, "DependentSizedArray"),
    (117, "MemberPointer"),
    (118, "Auto"),
    (119, "Elaborated")]

/-- The name of a kind, if it has one here. -/
def name? (kind : TypeKind) : Option String :=
  (names.find? (·.1 == kind.raw)).map (·.2)

def inspect (kind : TypeKind) : Inspect :=
  match kind.name? with
  | some name => .word ("TypeKind::" ++ name)
  | none => .tuple "TypeKind" [.int kind.raw.toInt]

def invalid : TypeKind := ⟨0⟩

def enum : TypeKind := ⟨106⟩

def typedef : TypeKind := ⟨107⟩

def functionProto : TypeKind := ⟨111⟩

def elaborated : TypeKind := ⟨119⟩

/-- The nine unsigned integer kinds, from the unsigned character to the unsigned 128-bit integer. -/
def isUnsignedInteger (kind : TypeKind) : Bool :=
  4 ≤ kind.raw && kind.raw ≤ 12

end TypeKind

end SourceAtlas
