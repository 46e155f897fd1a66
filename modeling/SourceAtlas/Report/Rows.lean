import SourceAtlas.Entity.Database
import SourceAtlas.Report.Load

/-!
# Reports in rows

The tokens of a source file, its diagnostics, the files that it includes, the candidates for code
completion at a point of it, and the commands of a compilation database.
-/

namespace SourceAtlas

open CommandLine (SourceArgs CompleteArgs)

/-! ## Tokens -/

structure TokenRow where
  kind : String
  spelling : String
  location : String
  /-- The kind of the token's cursor, or a dash. -/
  cursor : String
deriving DecidableEq, Repr

instance : Tabular TokenRow where
  header := ["Kind", "Spelling", "Location", "Cursor"]
  cells row := [row.kind, row.spelling, row.location, row.cursor]
  toJson row := .obj [("kind", .str row.kind), ("spelling", .str row.spelling),
    ("location", .str row.location), ("cursor", .str row.cursor)]

namespace TokenRow

def ofToken (token : Token) : Act TokenRow := do
  let kind ← token.kind
  let spelling ← token.spelling
  let location ← Act.using (← token.location) SourceLocation.report
  let cursor ← Act.using (← token.cursor) fun cursor => do
    match cursor with
    | some cursor => (← cursor.kind).spelling
    | none => return "-"
  return ⟨(ClosedKind.inspect kind).render, spelling, location, cursor⟩

/-- The rows of the tokens that are still to come. Each token is given up after its row, and the
stream lets the batch go at its end. -/
def ofStream : Nat → TokenStream → Act (List TokenRow)
  | 0, _ => return []
  | turns + 1, stream => do
    match ← stream.advance with
    | (_, none) => return []
    | (stream, some token) =>
      let row ← Act.using token ofToken
      return row :: (← ofStream turns stream)

end TokenRow

/-- Prints the tokens of a source file. -/
def tokenReport (host : Host) (source : SourceArgs) : Act String := do
  Act.using (← loadUnit host source) fun unit => do
    let rows ← Act.using (← Cursor.root unit) fun root => do
      let stream ← root.tokens
      TokenRow.ofStream (stream.remaining + 1) stream
    Act.record host do
      return toString rows.length ++ " token(s) in " ++ (← unit.spelling)
    return printRows rows source.json

/-! ## Diagnostics -/

structure DiagnosticRow where
  /-- The severity in lower case, indented for notes. -/
  severity : String
  location : String
  message : String
  option : String
  /-- The suggested edits, which only JSON shows. -/
  fixIts : List String
deriving DecidableEq, Repr

instance : Tabular DiagnosticRow where
  header := ["Severity", "Location", "Message", "Option"]
  cells row := [row.severity, row.location, row.message, row.option]
  toJson row := .obj ([("severity", .str row.severity), ("location", .str row.location),
    ("message", .str row.message), ("option", .str row.option)] ++
    if row.fixIts.isEmpty then [] else [("fixits", .arr (row.fixIts.map .str))])

namespace DiagnosticRow

/-- An edit: where it goes, and the new text. -/
def ofFixIt (fixIt : FixIt) : Act String := do
  let start ← (← fixIt.range.startPlace).report
  return start ++ " -> " ++ Text.quote fixIt.value

def ofDiagnostic (nested : Bool) (diagnostic : Diagnostic) : Act DiagnosticRow := do
  let severity := (ClosedKind.inspect (← diagnostic.severity)).render.toLower
  let location ← (← diagnostic.place).report
  let message ← diagnostic.spelling
  let option ← diagnostic.enableOption
  let fixIts ← Act.usingEach (← diagnostic.fixIts) ofFixIt
  return ⟨if nested then "  " ++ severity else severity, location, message, option, fixIts⟩

/-- The row of a diagnostic, and those of its notes. -/
def ofTree (diagnostic : Diagnostic) : Act (List DiagnosticRow) := do
  let row ← ofDiagnostic false diagnostic
  let notes ← (List.range (← diagnostic.childCount)).mapM fun i => do
    Act.using (← diagnostic.child? i) fun child => child.mapM (ofDiagnostic true)
  return row :: notes.filterMap id

/-- Whether a diagnostic is an error, and its rows. The severity is asked for once more for the
row. -/
def ofTreeCounted (diagnostic : Diagnostic) : Act (Bool × List DiagnosticRow) := do
  let severity ← diagnostic.severity
  let rows ← ofTree diagnostic
  return (severity.isError, rows)

end DiagnosticRow

/-- Prints the diagnostics of a source file. -/
def diagnosticReport (host : Host) (source : SourceArgs) : Act String := do
  Act.using (← loadUnit host source) fun unit => do
    let found ← Act.using (← unit.diagnostics) fun list => do
      (List.range (← list.length)).mapM fun i => do
        Act.using (← list.get? i) fun diagnostic =>
          diagnostic.elim (return (false, [])) DiagnosticRow.ofTreeCounted
    let rows := (found.map (·.2)).flatten
    Act.record host do
      return toString rows.length ++ " diagnostic(s), " ++ toString (found.countP (·.1)) ++
        " error(s) in " ++ (← unit.spelling)
    return printRows rows source.json

/-! ## Included files -/

structure InclusionRow where
  depth : UInt32
  file : String
  includedAt : String
deriving DecidableEq, Repr

instance : Tabular InclusionRow where
  header := ["Depth", "File", "Included At"]
  cells row := [toString row.depth.toNat, row.file, row.includedAt]
  toJson row := .obj [("depth", .nat row.depth.toNat), ("file", .str row.file),
    ("included_at", .str row.includedAt)]

def InclusionRow.ofInclusion (inclusion : Inclusion) : Act InclusionRow := do
  let file ← inclusion.included.name
  let location ← inclusion.location.report
  return ⟨inclusion.depth, file, location⟩

/-- Prints the files that a source file includes. -/
def inclusionReport (host : Host) (source : SourceArgs) : Act String := do
  Act.using (← loadUnit host source) fun unit => do
    let rows ← Act.usingEach (← unit.inclusions) InclusionRow.ofInclusion
    return printRows rows source.json

/-! ## Completion candidates -/

structure CandidateRow where
  priority : UInt32
  kind : String
  name : String
  signature : String
  comment : String
deriving DecidableEq, Repr

instance : Tabular CandidateRow where
  header := ["Priority", "Kind", "Name", "Signature", "Comment"]
  cells row := [toString row.priority.toNat, row.kind, row.name, row.signature, row.comment]
  toJson row := .obj [("priority", .nat row.priority.toNat), ("kind", .str row.kind),
    ("name", .str row.name), ("signature", .str row.signature), ("comment", .str row.comment)]

namespace CandidateRow

/-- The text of the first of some chunks that the user would type; empty if there is none. -/
def typedText : List Chunk → Act String
  | [] => return ""
  | chunk :: chunks => do
    if (← chunk.askKind) == .typedText then chunk.askSpelling else typedText chunks

def ofCandidate (candidate : Candidate) : Act CandidateRow := do
  let string := candidate.label
  let name ← Act.using (← string.chunks) typedText
  let priority ← string.priority
  let kind ← candidate.kind.spelling
  let signature ← string.text
  let comment ← string.briefComment
  return ⟨priority, kind, name, signature, comment⟩

/-- Rows are sorted by priority, and then by name. -/
def precedes (a b : CandidateRow) : Bool :=
  a.priority < b.priority || a.priority == b.priority && a.name ≤ b.name

/-- The rows in order, as many as are wanted. Equal ones stay in the engine's order. -/
def select (limit : Option UInt64) (rows : List CandidateRow) : List CandidateRow :=
  let sorted := rows.mergeSort precedes
  match limit with
  | some limit => sorted.take limit.toNat
  | none => sorted

end CandidateRow

/-- Prints the candidates for code completion. -/
def completionReport (host : Host) (source : SourceArgs) (args : CompleteArgs) :
    Act String := do
  Act.using (← loadUnit host source) fun unit => do
    let unsaved := (← Act.ofExcept (source.parseConfig host)).unsaved
    let options : CompleteOptions := ⟨args.macros, args.patterns, true⟩
    let results ← unit.complete source.file args.line args.column unsaved options
    Act.using results fun results => do
      match results with
      | none => return ""
      | some results =>
        let rows ← Act.usingEach (← results.toList) CandidateRow.ofCandidate
        return printRows (CandidateRow.select args.limit rows) source.json

/-! ## Compile commands -/

structure CommandRow where
  directory : String
  file : String
  command : String
deriving DecidableEq, Repr

instance : Tabular CommandRow where
  header := ["Directory", "File", "Command"]
  cells row := [row.directory, row.file, row.command]
  toJson row := .obj [("directory", .str row.directory), ("file", .str row.file),
    ("command", .str row.command)]

def CommandRow.ofCommand (command : CompileCommand) : Act CommandRow := do
  let directory ← command.directory
  let file ← command.filename
  let arguments ← command.arguments
  return ⟨directory, file, " ".intercalate arguments⟩

/-- Prints the commands of a compilation database, for one file or for all. -/
def commandReport (directory : Bytes) (file : Option Bytes) (json : Bool) : Act String := do
  Act.using (← Database.openIn directory) fun database => do
    let list ← match file with
      | some file => database.commandsFor file
      | none => database.allCommands
    let rows ← Act.using list fun list => do
      match list with
      | none => return []
      | some list => Act.usingEach (← list.toList) CommandRow.ofCommand
    return printRows rows json

end SourceAtlas
