import SourceAtlas.Json.Failure
import SourceAtlas.Text.Inspect

/-!
# Failures

What can go wrong, as causes, and the wording of each. The engine reports some failures as numbers:
each family of such numbers has a reader `ofCode?` here, which knows none that means success.
-/

namespace SourceAtlas

/-- Why the engine could not load or reparse a unit. -/
inductive LoadProblem where
  | failure | crashed | invalidArguments | astRead
deriving DecidableEq, Repr

namespace LoadProblem

def ofCode? : Int → Option LoadProblem
  | 1 => some .failure
  | 2 => some .crashed
  | 3 => some .invalidArguments
  | 4 => some .astRead
  | _ => none

def message : LoadProblem → String
  | .failure => "failure"
  | .crashed => "engine crashed"
  | .invalidArguments => "invalid arguments"
  | .astRead => "AST read error"

def name : LoadProblem → String
  | .failure => "Failure"
  | .crashed => "Crashed"
  | .invalidArguments => "InvalidArguments"
  | .astRead => "AstRead"

end LoadProblem

/-- Why a unit could not be written to disk. -/
inductive SaveProblem where
  | unknown | sourceErrors | invalidUnit
deriving DecidableEq, Repr

namespace SaveProblem

def ofCode? : Int → Option SaveProblem
  | 1 => some .unknown
  | 2 => some .sourceErrors
  | 3 => some .invalidUnit
  | _ => none

def message : SaveProblem → String
  | .unknown => "unknown I/O failure"
  | .sourceErrors =>
    "translation errors are present; inspect the translation unit's diagnostics"
  | .invalidUnit => "translation unit is invalid"

def name : SaveProblem → String
  | .unknown => "Unknown"
  | .sourceErrors => "TranslationErrors"
  | .invalidUnit => "InvalidTranslationUnit"

end SaveProblem

/-- Why a compilation database could not be opened. -/
inductive DatabaseProblem where
  | unknown | cannotLoad
deriving DecidableEq, Repr

namespace DatabaseProblem

def ofCode? : Int → Option DatabaseProblem
  | 0 => some .unknown
  | 1 => some .cannotLoad
  | _ => none

def message : DatabaseProblem → String
  | .unknown => "unknown error"
  | .cannotLoad => "database could not be loaded"

def name : DatabaseProblem → String
  | .unknown => "Unknown"
  | .cannotLoad => "CannotLoadDatabase"

end DatabaseProblem

/-- Why a record has no layout that could be asked for. -/
inductive LayoutProblem where
  | invalid | incomplete | dependent | notConstantSize | invalidFieldName | undeduced
deriving DecidableEq, Repr

namespace LayoutProblem

def ofCode? : Int → Option LayoutProblem
  | -1 => some .invalid
  | -2 => some .incomplete
  | -3 => some .dependent
  | -4 => some .notConstantSize
  | -5 => some .invalidFieldName
  | -6 => some .undeduced
  | _ => none

def message : LayoutProblem → String
  | .invalid => "invalid type"
  | .incomplete => "incomplete type"
  | .dependent => "dependent type"
  | .notConstantSize => "type is not of constant size"
  | .invalidFieldName => "no field with that name"
  | .undeduced => "undeduced type"

def name : LayoutProblem → String
  | .invalid => "Invalid"
  | .incomplete => "Incomplete"
  | .dependent => "Dependent"
  | .notConstantSize => "NotConstantSize"
  | .invalidFieldName => "InvalidFieldName"
  | .undeduced => "Undeduced"

end LayoutProblem

/-- Why a file could not be read. -/
inductive FileProblem where
  | missing | isDirectory | notUtf8
  /-- Any other reason, as the operating system words it. -/
  | other (reason : String)
deriving DecidableEq, Repr

def FileProblem.message : FileProblem → String
  | .missing => "No such file or directory (os error 2)"
  | .isDirectory => "Is a directory (os error 21)"
  | .notUtf8 => "stream did not contain valid UTF-8"
  | .other reason => reason

/-- A failed operation. -/
inductive Failure where
  | io (problem : FileProblem)
  | json (problem : Json.Failure)
  | libraryLoad (reason : String)
  | unitLoad (name : String) (problem : Option LoadProblem)
  | save (problem : SaveProblem)
  | reparse (problem : LoadProblem)
  | database (problem : DatabaseProblem) (directory : String)
  | precondition (operation expected found : String)
  | layout (problem : LayoutProblem)
  | invalidFormatOptions (bits : UInt32)
  | invalidArgument (reason : String)
  | unrecognizedCode (operation : String) (code : Int)
deriving DecidableEq, Repr

namespace Failure

/-- A name, an argument or a path that holds a NUL, which the engine would take for its end. -/
def nulAt (position : Nat) : Failure :=
  .invalidArgument ("nul byte found in provided data at position: " ++ toString position)

def message : Failure → String
  | .io problem => "I/O error: " ++ problem.message
  | .json problem => "JSON serialization/deserialization error: " ++ problem.message
  | .libraryLoad reason => "could not load libclang: " ++ reason
  | .unitLoad name none => "could not parse " ++ name
  | .unitLoad name (some problem) => "could not parse " ++ name ++ " (" ++ problem.message ++ ")"
  | .save problem => "could not save translation unit: " ++ problem.message
  | .reparse problem => "could not reparse translation unit: " ++ problem.message
  | .database problem directory =>
    "could not open compilation database in " ++ directory ++ ": " ++ problem.message
  | .precondition operation expected found =>
    operation ++ " requires " ++ expected ++ ", found " ++ found
  | .layout problem => "layout query failed: " ++ problem.message
  | .invalidFormatOptions bits =>
    "invalid diagnostic format options: 0x" ++ Text.hex bits.toNat
  | .invalidArgument reason => "invalid argument: " ++ reason
  | .unrecognizedCode operation code =>
    operation ++ " returned unrecognized status " ++ toString code

/-- The name of the kind of failure. -/
def kind : Failure → String
  | .io _ => "Io"
  | .json _ => "Json"
  | .libraryLoad _ => "LibraryLoad"
  | .unitLoad _ _ => "TranslationUnitLoad"
  | .save _ => "Save"
  | .reparse _ => "Reparse"
  | .database _ _ => "Database"
  | .precondition _ _ _ => "Precondition"
  | .layout _ => "Layout"
  | .invalidFormatOptions _ => "InvalidFormatOptions"
  | .invalidArgument _ => "InvalidArgument"
  | .unrecognizedCode _ _ => "UnrecognizedCode"

def inspect (failure : Failure) : Inspect :=
  match failure with
  | .io problem => .tuple failure.kind [.text problem.message]
  | .json problem => .tuple failure.kind [.text problem.message]
  | .libraryLoad reason => .tuple failure.kind [.text reason]
  | .unitLoad name problem =>
    .record failure.kind
      [("name", .text name), ("code", .option (problem.map fun p => .word p.name))]
  | .save problem => .tuple failure.kind [.word problem.name]
  | .reparse problem => .tuple failure.kind [.word problem.name]
  | .database problem directory =>
    .record failure.kind [("kind", .word problem.name), ("directory", .text directory)]
  | .precondition operation expected found =>
    .record failure.kind
      [("operation", .text operation), ("expected", .text expected), ("found", .text found)]
  | .layout problem => .tuple failure.kind [.word problem.name]
  | .invalidFormatOptions bits => .tuple failure.kind [.nat bits.toNat]
  | .invalidArgument reason => .tuple failure.kind [.text reason]
  | .unrecognizedCode operation code =>
    .record failure.kind [("operation", .text operation), ("code", .int code)]

end Failure

/-- A size or an offset: an answer that is not negative is one, and a negative one is a reason why
there is none. -/
def layoutResult (operation : String) (value : Int) : Except Failure Nat :=
  if 0 ≤ value then .ok value.toNat
  else match LayoutProblem.ofCode? value with
    | some problem => .error (.layout problem)
    | none => .error (.unrecognizedCode operation value)

end SourceAtlas
