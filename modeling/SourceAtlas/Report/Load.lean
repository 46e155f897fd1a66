import SourceAtlas.CommandLine.Invocation
import SourceAtlas.Directory
import SourceAtlas.Entity.Index
import SourceAtlas.Report.Table

/-!
# Loading what a report is about

A report parses one source file, with the arguments of its configuration before those of its command
line. Everything that it takes from the engine is given up when it ends, in whatever way it ends.
-/

namespace SourceAtlas

/-- Runs an action with something that is given up afterwards, also if the action has a fault. -/
def Act.using [Holder α] (value : α) (act : α → Act β) : Act β := do
  let outcome ← Act.attempt (act value)
  drop value
  match outcome with
  | .ok result => return result
  | .error fault => throw fault

/-- Runs an action with each of some things that are given up when all have had their turn. -/
def Act.usingEach [Holder α] (values : List α) (act : α → Act β) : Act (List β) :=
  Act.using values fun values => values.mapM act

/-- What a run finds around it. -/
structure Host where
  /-- The files that it may read. -/
  read : FileReader
  /-- Whether the filter of the log lets the records of reports through. The default one does. -/
  keepsRecords : Bool := true

/-- Where only the files are given, the log has its default filter. -/
instance : Coe FileReader Host := ⟨fun read => { read }⟩

/-- Keeps a record. Its text is put together only if it is kept, and goes to a file that nothing
reads again. -/
def Act.record (host : Host) (text : Act String) : Act Unit := do
  if host.keepsRecords then
    let _ ← text
    return ()

namespace CommandLine.SourceArgs

/-- The configuration that the command line names, or the default one. -/
def parseConfig (source : SourceArgs) (host : Host) : Except Failure ParseConfig :=
  match source.config with
  | some path => ParseConfig.ofFile (host.read path)
  | none => .ok {}

end CommandLine.SourceArgs

open CommandLine (SourceArgs)

/-- Parses the source file. The index is kept by the unit alone. -/
def loadUnit (host : Host) (source : SourceArgs) (extra : ParseOptions := {}) :
    Act SourceUnit := do
  let config ← Act.ofExcept (source.parseConfig host)
  Act.using (← Index.create {}) fun index =>
    index.parse (some source.file) (config.args ++ source.clangArgs) config.unsaved
      (config.parseOptions ||| extra)

/-- A location as a file, a line and a column, or a dash if it is in no file. -/
def Expansion.report (expansion : Expansion) : Act String := do
  match expansion.file with
  | some file =>
    return (← file.name) ++ ":" ++ toString expansion.line.toNat ++ ":" ++
      toString expansion.column.toNat
  | none => return "-"

def SourceLocation.report (location : SourceLocation) : Act String := do
  (← location.expand).report

/-- The engine's name for a kind of cursor. -/
def CursorKind.spelling (kind : CursorKind) : Act String := do
  Act.ask (.cursorKindName kind) []
  Act.text ((← Act.engine).cursorKindName kind)

end SourceAtlas
