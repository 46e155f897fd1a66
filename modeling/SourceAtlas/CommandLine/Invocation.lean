import SourceAtlas.Text.Utf8

/-!
# Invocations

What one run of the program is asked to do, after its command line has been read, and the ways in
which a command line can fail to say so.
-/

namespace SourceAtlas.CommandLine

/-- Where a source file comes from, how to parse it, and how to print the result. -/
structure SourceArgs where
  file : Bytes
  /-- The configuration file. -/
  config : Option Bytes := none
  /-- Print JSON instead of a table. -/
  json : Bool := false
  /-- Further compiler arguments. -/
  clangArgs : List String := []
deriving DecidableEq, Repr

/-- Where to complete, and what to show. -/
structure CompleteArgs where
  line : UInt32
  column : UInt32
  macros : Bool := false
  patterns : Bool := false
  /-- The greatest number of candidates to show. -/
  limit : Option UInt64 := none
deriving DecidableEq, Repr

/-- One of the jobs of the program. -/
inductive Command where
  /-- Print the syntax tree, down to a depth, of the main file or of all files. -/
  | ast (source : SourceArgs) (depth : Option UInt64) (all : Bool)
  | tokens (source : SourceArgs)
  | diags (source : SourceArgs)
  | includes (source : SourceArgs)
  | complete (source : SourceArgs) (args : CompleteArgs)
  /-- Print the entries of a compilation database, for one file or for all. -/
  | commands (directory : Bytes) (file : Option Bytes) (json : Bool)
  | version
deriving DecidableEq, Repr

/-- The configuration file that a command reads. -/
def Command.config : Command → Option Bytes
  | .ast source _ _ | .tokens source | .diags source | .includes source | .complete source _ =>
    source.config
  | .commands .. | .version => none

/-- A command, and whether to log to standard error as well. -/
structure Invocation where
  verbose : Bool := false
  command : Command
deriving DecidableEq, Repr

/-- Why a command line gives no invocation. A request for help or for the version is no mistake. -/
inductive Problem where
  | helpRequested
  | versionRequested
  /-- Nothing was given at all, which shows the help text. -/
  | nothingGiven
  | missingSubcommand
  | unknownSubcommand
  | unknownArgument
  /-- An option or a switch was given twice. -/
  | repeatedArgument
  | missingArgument
  /-- An option has no value, or a path is empty. -/
  | missingValue
  /-- A value is not the number that is wanted. -/
  | malformedValue
  /-- A switch was given a value. -/
  | unwantedValue
  | notUtf8
deriving DecidableEq, Repr

/-- The exit code of a run that ends with a problem. -/
def Problem.exitCode : Problem → Nat
  | .helpRequested | .versionRequested => 0
  | _ => 2

end SourceAtlas.CommandLine
