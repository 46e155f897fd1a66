import SourceAtlas.CommandLine.Parser
import SourceAtlas.Report.Ast
import SourceAtlas.Report.Rows

/-!
# The program

What one run does: it reads its command line, makes the report that is asked for, and ends with an
exit code.
-/

namespace SourceAtlas

def programName : String := "cxkit"

/-- The name and the version of the program. -/
def programVersion : String := programName ++ " 0.1.0"

/-- Prints the versions of the program and of the engine. -/
def versionReport : Act String := do
  Act.load
  Act.ask .version []
  return programVersion ++ "\n" ++ (← Act.text (← Act.engine).tables.version) ++ "\n"

/-- The report that a command asks for. -/
def report (host : Host) : CommandLine.Command → Act String
  | .ast source depth all => astReport host source ⟨depth, all⟩
  | .tokens source => tokenReport host source
  | .diags source => diagnosticReport host source
  | .includes source => inclusionReport host source
  | .complete source args => completionReport host source args
  | .commands directory file json => commandReport directory file json
  | .version => versionReport

/-- How a run of the program ends. -/
structure RunResult where
  exitCode : Nat
  /-- What was written to standard output. -/
  output : String := ""
  /-- The message on standard error. -/
  errors : String := ""
  /-- Whether logging was set up: it is as soon as the command line has been understood. -/
  logs : Bool := true
  /-- What passed to the engine and back, oldest first. -/
  events : List Event := []
deriving Repr

/-- Runs the program. The first word of the command line is its name. -/
def runProgram (setting : Setting) (host : Host) (words : List Bytes) : RunResult :=
  match CommandLine.parse words with
  | .error problem =>
    { exitCode := problem.exitCode
      output := if problem = .versionRequested then programVersion ++ "\n" else ""
      logs := false }
  | .ok invocation =>
    let (outcome, world) := (report host invocation.command setting).run {}
    let events := world.trace.reverse
    match outcome with
    | .ok output => { exitCode := 0, output, events }
    | .error (.failure failure) =>
      { exitCode := 1, errors := "error: " ++ failure.message ++ "\n", events }
    | .error (.panic panic) => { exitCode := 101, errors := panic.message ++ "\n", events }

end SourceAtlas
