import SourceAtlas.Text.Inspect

/-!
# Cursor kinds

A cursor kind is a number that the engine chooses; the kinds that this library relies on, and the
ones it can name, are listed here.
-/

namespace SourceAtlas

/-- The kind of entity that a cursor points at. The set is open: it grows with every engine. -/
structure CursorKind where
  raw : Int32
deriving DecidableEq, Repr

namespace CursorKind

/-- The kinds that have a name here. Engines know others, and newer engines know more. -/
def names : List (Int32 × String) :=
  [
    (1, "UnexposedDecl"),
    (2, "StructDecl"),
    (3, "UnionDecl"),
    (4, "ClassDecl"),
    (5, "EnumDecl"),
    (6, "FieldDecl"),
    (7, "EnumConstantDecl"),
    (8, "FunctionDecl"),
    (9, "VarDecl"),
    (10, "ParmDecl"),
    (20, "TypedefDecl"),
    (21, "CXXMethod"),
    (22, "Namespace"),
    (23, "LinkageSpec"),
    (24, "Constructor"),
    (25, "Destructor"),
    (26, "ConversionFunction"),
    (27, "TemplateTypeParameter"),
    (28, "NonTypeTemplateParameter"),
    (29, "TemplateTemplateParameter"),
    (30, "FunctionTemplate"),
    (31, "ClassTemplate"),
    (32, "ClassTemplatePartialSpecialization"),
    (33, "NamespaceAlias"),
    (34, "UsingDirective"),
    (35, "UsingDeclaration"),
    (36, "TypeAliasDecl"),
    (39, "CXXAccessSpecifier"),
    (43, "TypeRef"),
    (44, "CXXBaseSpecifier"),
    (45, "TemplateRef"),
    (46, "NamespaceRef"),
    (47, "MemberRef"),
    (70, "InvalidFile"),
    (71, "NoDeclFound"),
    (72, "NotImplemented"),
    (73, "InvalidCode"),
    (100, "UnexposedExpr"),
    (101, "DeclRefExpr"),
    (102, "MemberRefExpr"),
    (103, "CallExpr"),
    (106, "IntegerLiteral"),
    (107, "FloatingLiteral"),
    (109, "StringLiteral"),
    (110, "CharacterLiteral"),
    (111, "ParenExpr"),
    (112, "UnaryOperator"),
    (114, "BinaryOperator"),
    (200, "UnexposedStmt"),
    (202, "CompoundStmt"),
    (205, "IfStmt"),
    (207, "WhileStmt"),
    (209, "ForStmt"),
    (214, "ReturnStmt"),
    (231, "DeclStmt"),
    (350, "TranslationUnit"),
    (400, "UnexposedAttr"),
    (500, "PreprocessingDirective"),
    (501, "MacroDefinition"),
    (502, "MacroExpansion"),
    (503, "InclusionDirective")]

/-- The name of a kind, if it has one here. -/
def name? (kind : CursorKind) : Option String :=
  (names.find? (·.1 == kind.raw)).map (·.2)

def inspect (kind : CursorKind) : Inspect :=
  match kind.name? with
  | some name => .word ("CursorKind::" ++ name)
  | none => .tuple "CursorKind" [.int kind.raw.toInt]

def enumDecl : CursorKind := ⟨5⟩

def enumConstantDecl : CursorKind := ⟨7⟩

def invalidFile : CursorKind := ⟨70⟩

def noDeclFound : CursorKind := ⟨71⟩

def inclusionDirective : CursorKind := ⟨503⟩

end CursorKind

end SourceAtlas
