import SourceAtlas.Entity.Ask

/-!
# Files, locations and ranges

A location is asked for its file, line, column and offset together, once. A range is a pair of
locations that come from the same source: either the unit, or one set of completion results.
-/

namespace SourceAtlas

/-- A position in a file. -/
inductive FilePosition where
  /-- Bytes from the start of the file. -/
  | offset (offset : UInt32)
  /-- Both count from one. -/
  | lineColumn (line column : UInt32)
deriving DecidableEq, Repr

namespace SourceFile

/-- The file for an answer of the engine, if it is not null. -/
def ofRaw? (raw : Raw Ref) (unit : SourceUnit) : Option SourceFile :=
  raw.value.map fun i => ⟨⟨i, raw.origin⟩, unit⟩

/-- The full name of the file. -/
def name (file : SourceFile) : Act String :=
  file.raw.askText .fileName fun engine i => (engine.file i).name

/-- When the file was last modified, in seconds since 1970. -/
def time (file : SourceFile) : Act Int64 :=
  file.raw.ask .fileTime fun engine i => (engine.file i).time

def same (a b : SourceFile) : Act Bool := do
  Act.ask .sameFile [a.raw.origin, b.raw.origin]
  return (← Act.engine).sameFile a.raw.value b.raw.value

/-- The location of a position, without references of its own. -/
def place (file : SourceFile) (position : FilePosition) : Act SourceLocation := do
  let operands := [file.unit.resource, file.raw.origin]
  match position with
  | .offset offset =>
    Act.ask (.placeAtOffset offset) operands
    let place := Engine.placeAtOffset file.raw.value offset
    return { raw := ⟨place, file.unit.resource⟩, unit := file.unit }
  | .lineColumn line column =>
    Act.ask (.placeAt line column) operands
    let place := Engine.placeAt file.raw.value line column
    return { raw := ⟨place, file.unit.resource⟩, unit := file.unit }

/-- The location of a position. -/
def location (file : SourceFile) (position : FilePosition) : Act SourceLocation := do
  Act.keep (← file.place position)

def inspect (file : SourceFile) : Act Inspect := do
  return .tuple "File" [.text (← file.name)]

end SourceFile

namespace Expansion

/-- The name of the file, if there is a file. -/
def fileName (expansion : Expansion) : Act (Option String) :=
  expansion.file.mapM SourceFile.name

def inspect (expansion : Expansion) : Act Inspect := do
  return .record "SourceLocation"
    [("file", .option ((← expansion.fileName).map .text)),
      ("line", .nat expansion.line.toNat), ("column", .nat expansion.column.toNat)]

end Expansion

namespace SourceLocation

/-- Whether the location points into completion results. -/
def isAnchored (location : SourceLocation) : Bool :=
  location.anchor.isSome

/-- What the location is in terms of files, lines and columns. No references are taken. -/
def expand (location : SourceLocation) : Act Expansion := do
  match (← read).remembers, location.expansion with
  | true, some expansion => return expansion
  | _, _ =>
    let place ← location.raw.ask .expansion fun _ place => place
    let file := SourceFile.ofRaw? ⟨place.file, location.unit.resource⟩ location.unit
    return ⟨file, place.line, place.column, place.offset⟩

/-- The location with its expansion. No references are taken. -/
def expanded (location : SourceLocation) : Act SourceLocation := do
  return { location with expansion := some (← location.expand) }

def isInSystemHeader (location : SourceLocation) : Act Bool :=
  location.raw.ask .isInSystemHeader fun engine place => engine.isInSystemHeader place

def isFromMainFile (location : SourceLocation) : Act Bool :=
  location.raw.ask .isFromMainFile fun _ place => Engine.isFromMainFile place

def same (a b : SourceLocation) : Act Bool := do
  Act.ask .samePlace [a.raw.origin, b.raw.origin]
  return a.raw.value == b.raw.value

def inspect (location : SourceLocation) : Act Inspect := do
  (← location.expand).inspect

end SourceLocation

/-- Whether two anchors are one. -/
def sameAnchor : Option Completion → Option Completion → Bool
  | none, none => true
  | some a, some b => a.cell == b.cell
  | _, _ => false

namespace SourceRange

/-- Whether the range points into completion results. -/
def isAnchored (range : SourceRange) : Bool :=
  range.anchor.isSome

/-- The range between two locations, which must come from the same source. -/
def ofLocations (start stop : SourceLocation) : Act SourceRange := do
  if start.unit.same stop.unit && sameAnchor start.anchor stop.anchor then
    Act.ask .makeSpan [start.raw.origin, stop.raw.origin]
    let span : Span := ⟨start.raw.value, stop.raw.value⟩
    Act.keep { raw := ⟨span, start.raw.origin⟩, unit := start.unit, anchor := start.anchor }
  else
    let first ← start.unit.spelling
    let second ← stop.unit.spelling
    Act.fail (.precondition "from_locations" "two locations from the same translation unit"
      (first ++ " and " ++ second))

/-- The first location of the range, without references of its own. -/
def startPlace (range : SourceRange) : Act SourceLocation := do
  let raw ← range.raw.derive .spanStart fun _ span => span.start
  return { raw, unit := range.unit, anchor := range.anchor }

/-- The last location of the range, without references of its own. -/
def stopPlace (range : SourceRange) : Act SourceLocation := do
  let raw ← range.raw.derive .spanStop fun _ span => span.stop
  return { raw, unit := range.unit, anchor := range.anchor }

def start (range : SourceRange) : Act SourceLocation := do
  Act.keep (← range.startPlace)

def stop (range : SourceRange) : Act SourceLocation := do
  Act.keep (← range.stopPlace)

/-- Whether a point comes after a start or is it, by line and then by column. -/
def reaches (start point : UInt32 × UInt32) : Bool :=
  start.1 < point.1 || start.1 == point.1 && start.2 ≤ point.2

/-- Whether an expanded location is in the file of both ends and not outside of them. -/
def containsExpansion (range : SourceRange) (point : Expansion) : Act Bool := do
  let start ← range.startPlace
  let stop ← range.stopPlace
  let name ← point.fileName
  let start ← start.expand
  if (← start.fileName) != name then return false
  let stop ← stop.expand
  if (← stop.fileName) != name then return false
  return reaches (start.line, start.column) (point.line, point.column) &&
    reaches (point.line, point.column) (stop.line, stop.column)

def same (a b : SourceRange) : Act Bool := do
  Act.ask .sameSpan [a.raw.origin, b.raw.origin]
  return a.raw.value == b.raw.value

def inspect (range : SourceRange) : Act Inspect := do
  let start ← (← range.startPlace).inspect
  let stop ← (← range.stopPlace).inspect
  return .record "SourceRange" [("start", start), ("end", stop)]

end SourceRange

namespace Inclusion

/-- The inclusion of a file by a directive. The including file is that of the directive. -/
def make (included : SourceFile) (directive : SourceLocation) (depth : UInt32) :
    Act Inclusion := do
  let location ← directive.expanded
  Act.keep ⟨location.expansion.bind (·.file), included, location, depth⟩

/-- The input file itself has depth zero. -/
def isInputFile (inclusion : Inclusion) : Bool :=
  inclusion.depth == 0

def inspect (inclusion : Inclusion) : Act Inspect := do
  let source ← inclusion.source.mapM SourceFile.inspect
  let included ← inclusion.included.inspect
  let location ← inclusion.location.inspect
  return .record "FileInclusion"
    [("source", .option source), ("include", included), ("location", location),
      ("depth", .nat inclusion.depth.toNat)]

end Inclusion

end SourceAtlas
