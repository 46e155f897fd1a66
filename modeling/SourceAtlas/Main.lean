import SourceAtlas.Engine.Reader
import SourceAtlas.Json.Parser
import SourceAtlas.Program

/-!
# The command line

The outermost layer: it reads the files that a run needs, runs the program, prints what comes out,
and ends with the exit code. The engine is a file with its tables, named by an environment variable.
-/

namespace SourceAtlas

/-- The environment variable that names the file with the tables of the engine. -/
def engineVariable : String := "SOURCE_ATLAS_ENGINE"

/-- Reads a file from the file system. -/
def readFile (path : String) : IO (Except FileProblem Bytes) := do
  try
    return .ok (← IO.FS.readBinFile path).toList
  catch
    | .noFileOrDirectory .. => return .error .missing
    | .inappropriateType .. => return .error .isDirectory
    | problem => return .error (.other (toString problem))

/-- The engine, or why it cannot be loaded. -/
def loadEngine : IO (Except Failure Engine) := do
  let some path ← IO.getEnv engineVariable
    | return .error (.libraryLoad (engineVariable ++ " is not set"))
  match ← readFile path with
  | .error problem => return .error (.libraryLoad problem.message)
  | .ok bytes =>
    match Json.parse (Utf8.decodeLossy bytes) with
    | .ok tables => return .ok { tables := Tables.ofJson tables }
    | .error problem => return .error (.libraryLoad problem.message)

/-- The files that the program may read: the configuration that its command line names. -/
def readConfig (words : List Bytes) : IO FileReader := do
  let config := (CommandLine.parse words).toOption.bind (·.command.config)
  match config with
  | none => return fun _ => .error .missing
  | some path =>
    let contents ← readFile (Utf8.decodeLossy path)
    return fun _ => contents

end SourceAtlas

open SourceAtlas

def main (args : List String) : IO UInt32 := do
  let words := (programName :: args).map Utf8.encode
  match ← loadEngine with
  | .error failure =>
    IO.eprintln ("error: " ++ failure.message)
    return 1
  | .ok engine =>
    let result := runProgram { engine } (← readConfig words) words
    IO.print result.output
    IO.eprint result.errors
    return result.exitCode.toUInt32
