import SourceAtlas.Entity.Completion
import SourceAtlas.Entity.Cursor

/-!
# Source units

A parsed source file with everything that it includes. A unit can be parsed again only while nothing
else refers to it: what was taken from it before would be stale.
-/

namespace SourceAtlas

/-- The position of the first NUL in the first text that holds one. -/
def firstNul? (texts : List Bytes) : Option Nat :=
  texts.findSome? Bytes.nulPosition?

/-- Fails if a text holds a NUL, where the engine would take it to end. -/
def Act.checkTexts (texts : List Bytes) : Act Unit := do
  if let some position := firstNul? texts then fail (.nulAt position)

namespace SourceUnit

/-- What the tables say about the unit at present. -/
def entry (unit : SourceUnit) : Act UnitEntry := do
  return (← Act.engine).unit (← Act.table unit.resource)

/-- The outcome of an operation that reports a status: zero is success. -/
def checkStatus (operation : String) (status : Int32) (problem? : Int → Option Failure) :
    Act Unit := do
  if status != 0 then
    Act.fail ((problem? status.toInt).getD (.unrecognizedCode operation status.toInt))

/-- Parses the unit again, with other contents for some files. Nothing but the one handle that is
used may refer to the unit. -/
def reparse (unit : SourceUnit) (unsaved : List UnsavedFile) (options : Option UInt32) :
    Act Unit := do
  let references := (← get).count unit.cell
  if 1 < references then
    Act.fail (.precondition "reparse" "no other live references to the translation unit"
      (toString references ++ " references"))
  Act.checkTexts (unsaved.map (·.path))
  let entry ← unit.entry
  let options ← match options with
    | some options => pure options
    | none => do
      Act.ask .reparseOptions [unit.resource]
      pure entry.reparseOptions
  Act.request (.reparse unit.resource unsaved options)
  checkStatus "reparse" entry.reparseStatus fun code => (LoadProblem.ofCode? code).map .reparse
  Act.update (·.retable unit.resource entry.reparseBecomes)

/-- Writes the unit to a file. -/
def save (unit : SourceUnit) (path : Bytes) : Act Unit := do
  Act.checkTexts [path]
  let entry ← unit.entry
  Act.ask .saveOptions [unit.resource]
  Act.request (.save unit.resource path entry.saveOptions)
  checkStatus "save" entry.saveStatus fun code => (SaveProblem.ofCode? code).map .save

/-- The candidates for a line and a column of a file, both counted from one; none if the engine has
no results. -/
def complete (unit : SourceUnit) (path : Bytes) (line column : UInt32)
    (unsaved : List UnsavedFile) (options : CompleteOptions) : Act (Option Completion) := do
  Act.checkTexts (path :: unsaved.map (·.path))
  Act.request (.complete unit.resource path line column unsaved options.bits)
  match (← Act.engine).completionAt path line column with
  | none => return none
  | some (label, entry) =>
    let resource ← Act.acquire .completion label
    let cell ← Act.newCell (some resource) (.completion unit)
    return some ⟨cell, resource, unit, entry⟩

/-- The file with a name, if it takes part in the unit, without references of its own. -/
def fileHandle? (unit : SourceUnit) (name : Bytes) : Act (Option SourceFile) := do
  Act.checkTexts [name]
  Act.request (.getFile unit.resource name)
  return SourceFile.ofRaw? ⟨(← Act.engine).fileNamed name, unit.resource⟩ unit

/-- The file with a name, if it takes part in the unit. -/
def file? (unit : SourceUnit) (name : Bytes) : Act (Option SourceFile) := do
  Act.keep (← unit.fileHandle? name)

/-- The location of a position in the file with a name. -/
def location? (unit : SourceUnit) (name : Bytes) (position : FilePosition) :
    Act (Option SourceLocation) := do
  (← unit.fileHandle? name).mapM (·.location position)

/-- The range between two positions in the file with a name. -/
def extent? (unit : SourceUnit) (name : Bytes) (start stop : FilePosition) :
    Act (Option SourceRange) := do
  (← unit.fileHandle? name).mapM fun file => do
    SourceRange.ofLocations (← file.place start) (← file.place stop)

/-- The tokens of a range, which must come from this unit. -/
def tokens (unit : SourceUnit) (range : SourceRange) : Act TokenStream := do
  if range.isAnchored || !range.unit.same unit then
    let other ← range.unit.spelling
    Act.fail (.precondition "tokens" "a range from this translation unit"
      ("a range from " ++ other))
  TokenStream.make unit range.raw

def diagnostics (unit : SourceUnit) : Act DiagnosticList :=
  Act.keep ⟨unit⟩

/-- The directive of a file that is entered below the input file: the first of its stack. -/
def directive? (entry : InclusionEntry) : Option Place :=
  if entry.depth == 0 then none else entry.stack.head?

/-- The files that are included, directly or through others. -/
def inclusions (unit : SourceUnit) : Act (List Inclusion) := do
  Act.ask .inclusions [unit.resource]
  let entries := (← unit.entry).inclusions
  let found ← entries.mapM fun entry => do
    match directive? entry, SourceFile.ofRaw? ⟨entry.file, unit.resource⟩ unit with
    | some place, some file =>
      some <$> Inclusion.make file { raw := ⟨place, unit.resource⟩, unit } entry.depth
    | _, _ => return none
  return found.filterMap id

end SourceUnit

end SourceAtlas
