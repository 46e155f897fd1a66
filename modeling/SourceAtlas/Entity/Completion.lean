import SourceAtlas.Entity.Diagnostic
import SourceAtlas.Kind.Chunk
import SourceAtlas.Kind.Entity

/-!
# Code completion

The candidates for a point in a file, their texts, and the diagnostics that came up on the way. All
of them live as long as the results of the request.
-/

namespace SourceAtlas

namespace CompletionString

/-- Asks about the string. -/
def ask (string : CompletionString) (question : Question) (answer : StringEntry → β) : Act β :=
  string.raw.ask question fun engine s => answer (engine.string s)

/-- How many chunks the string has. -/
def length (string : CompletionString) : Act Nat :=
  string.ask .chunkCount (·.chunks.length)

/-- A chunk of the string, which has not been asked about anything yet. -/
def chunk? (string : CompletionString) (i : Nat) : Act (Option Chunk) := do
  if i < (← string.length) then some <$> Act.keep { string, position := i } else return none

/-- All chunks of the string. -/
def chunks (string : CompletionString) : Act (List Chunk) := do
  (List.range (← string.length)).mapM fun i => Act.keep { string, position := i }

/-- Lower is more likely to be what the user wants. -/
def priority (string : CompletionString) : Act UInt32 :=
  string.ask .priority (·.priority)

def availability (string : CompletionString) : Act AvailabilityKind := do
  return .ofRaw (← string.ask .candidateAvailability (·.availability))

def briefComment (string : CompletionString) : Act String := do
  Act.text (← string.ask .candidateComment (·.brief))

/-- The text of one chunk. -/
def chunkText (string : CompletionString) (i : Nat) : Act String := do
  Act.text (← string.raw.ask (.chunkText i) fun engine s => (engine.chunk s i).text)

/-- The texts of all chunks, one after the other. -/
def text (string : CompletionString) : Act String := do
  return String.join (← (List.range (← string.length)).mapM string.chunkText)

def inspect (string : CompletionString) : Act Inspect := do
  let text ← string.text
  let priority ← string.priority
  let availability ← string.availability
  return .record "CompletionString"
    [("text", .text text), ("priority", .nat priority.toNat),
      ("availability", ClosedKind.inspect availability)]

end CompletionString

namespace Chunk

/-- The text of the chunk. -/
def askSpelling (chunk : Chunk) : Act String := do
  match (← read).remembers, chunk.spelling with
  | true, some spelling => return spelling
  | _, _ => chunk.string.chunkText chunk.position

/-- The part that the chunk plays in its string. -/
def askKind (chunk : Chunk) : Act CompletionChunkKind := do
  match (← read).remembers, chunk.kind with
  | true, some kind => return kind
  | _, _ =>
    return .ofRaw (← chunk.string.raw.ask (.chunkKind chunk.position) fun engine s =>
      (engine.chunk s chunk.position).kind)

/-- The chunk with its text. -/
def spelled (chunk : Chunk) : Act Chunk := do
  return { chunk with spelling := some (← chunk.askSpelling) }

/-- The chunk with its kind. -/
def classified (chunk : Chunk) : Act Chunk := do
  return { chunk with kind := some (← chunk.askKind) }

/-- The string that an optional chunk stands for. -/
def nested (chunk : Chunk) : Act (Option CompletionString) := do
  let raw ← chunk.string.raw.derive (.chunkString chunk.position) fun engine s =>
    (engine.chunk s chunk.position).string
  if raw.value.isSome then some <$> Act.keep ⟨raw, chunk.string.results⟩ else return none

/-- What the chunk knows of itself. -/
def inspectKnown (chunk : Chunk) : Inspect :=
  .record "CompletionChunk"
    [("kind", ClosedKind.inspect (chunk.kind.getD (.ofRaw 0))),
      ("spelling", .text (chunk.spelling.getD ""))]

end Chunk

namespace Candidate

/-- The text of the candidate, without references of its own. -/
def label (candidate : Candidate) : CompletionString :=
  ⟨candidate.string, candidate.results⟩

def inspect (candidate : Candidate) : Act Inspect := do
  return .record "CodeCompletionResult"
    [("kind", candidate.kind.inspect), ("string", ← candidate.label.inspect)]

end Candidate

namespace Completion

/-- How many candidates there are. They are part of the handle, so the engine is not asked. -/
def length (results : Completion) : Nat :=
  results.entry.results.length

/-- A candidate, without references of its own. -/
def candidate? (results : Completion) (i : Nat) : Option Candidate :=
  results.entry.results[i]?.map fun entry =>
    ⟨entry.kind, ⟨entry.string, results.resource⟩, results⟩

def get? (results : Completion) (i : Nat) : Act (Option Candidate) :=
  Act.keep (results.candidate? i)

def toList (results : Completion) : Act (List Candidate) :=
  Act.keep ((List.range results.length).filterMap results.candidate?)

/-- The diagnostics that came up during completion. Null ones are left out. -/
def diagnostics (results : Completion) : Act (List Diagnostic) := do
  Act.ask .completionDiagnosticCount [results.resource]
  let found ← (List.range results.entry.diagnostics.length).mapM fun i => do
    Act.ask (.completionDiagnostic i) [results.resource]
    Diagnostic.ofRaw? results.entry.diagnostics[i]?.join results.unit [] (some results)
  return found.filterMap id

def inspect (results : Completion) : Inspect :=
  .record "CodeCompletionResults" [("len", .nat results.length)]

end Completion

end SourceAtlas
