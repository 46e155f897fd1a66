import SourceAtlas.CommandLine.Invocation

/-!
# The grammar of the command line

Which switches, options and positional arguments each command takes, the values that they accept,
and how the collected arguments of a command make an `Invocation`.
-/

namespace SourceAtlas.CommandLine

/-- An argument that is present or absent. -/
inductive Switch where
  | verbose | help | version | json | all | macros | patterns
deriving DecidableEq, Repr

namespace Switch

/-- The name after the two dashes. -/
def name : Switch → String
  | .verbose => "verbose"
  | .help => "help"
  | .version => "version"
  | .json => "json"
  | .all => "all"
  | .macros => "macros"
  | .patterns => "patterns"

/-- The letter after a single dash. -/
def letter? : Switch → Option Char
  | .verbose => some 'v'
  | .help => some 'h'
  | .version => some 'V'
  | _ => none

end Switch

/-- An argument that has a value. `input` is the positional one: a source file, or the directory of
a compilation database. -/
inductive Field where
  | input | config | file | depth | limit | line | column
deriving DecidableEq, Repr

/-- The name after the two dashes. -/
def Field.name? : Field → Option String
  | .input => none
  | .config => some "config"
  | .file => some "file"
  | .depth => some "depth"
  | .limit => some "limit"
  | .line => some "line"
  | .column => some "column"

/-! ## Values -/

/-- The number that some decimal digits spell, of which there must be one at least. -/
def digits? : List Char → Option Nat
  | [] => none
  | digits =>
    if digits.all Char.isDigit then
      some (digits.foldl (fun value digit => value * 10 + (digit.toNat - '0'.toNat)) 0)
    else none

/-- Digits, after at most one plus sign. -/
def unsigned? : List Char → Option Nat
  | '+' :: digits => digits? digits
  | digits => digits? digits

/-- Digits, after at most one sign. -/
def signed? : List Char → Option Int
  | '-' :: digits => (digits? digits).map fun value => -(value : Int)
  | digits => (unsigned? digits).map Int.ofNat

def readText (value : Bytes) : Except Problem String :=
  match Utf8.decode? value with
  | some text => .ok text
  | none => .error .notUtf8

def readPath (value : Bytes) : Except Problem Bytes :=
  if value.isEmpty then .error .missingValue else .ok value

/-- A count of 64 bits, which has no minus sign. -/
def readCount (value : Bytes) : Except Problem UInt64 := do
  match unsigned? (← readText value).toList with
  | some n => if n < UInt64.size then .ok (.ofNat n) else .error .malformedValue
  | none => .error .malformedValue

/-- A line or a column. Its sign is read before its range is checked, so that `-0` is zero. -/
def readPlace (value : Bytes) : Except Problem UInt32 := do
  match signed? (← readText value).toList with
  | some n => if 0 ≤ n ∧ n < UInt32.size then .ok (.ofNat n.toNat) else .error .malformedValue
  | none => .error .malformedValue

/-! ## Collected arguments -/

/-- The arguments of one command that have been read so far. -/
structure Draft where
  switches : List Switch := []
  input : Option Bytes := none
  config : Option Bytes := none
  file : Option Bytes := none
  depth : Option UInt64 := none
  limit : Option UInt64 := none
  line : Option UInt32 := none
  column : Option UInt32 := none
  clangArgs : List String := []
deriving DecidableEq, Repr

namespace Draft

def has (draft : Draft) (switch : Switch) : Bool :=
  draft.switches.contains switch

def isSet (draft : Draft) : Field → Bool
  | .input => draft.input.isSome
  | .config => draft.config.isSome
  | .file => draft.file.isSome
  | .depth => draft.depth.isSome
  | .limit => draft.limit.isSome
  | .line => draft.line.isSome
  | .column => draft.column.isSome

/-- Reads the value of an argument. -/
def set (draft : Draft) (field : Field) (value : Bytes) : Except Problem Draft := do
  match field with
  | .input => return { draft with input := some (← readPath value) }
  | .config => return { draft with config := some (← readPath value) }
  | .file => return { draft with file := some (← readPath value) }
  | .depth => return { draft with depth := some (← readCount value) }
  | .limit => return { draft with limit := some (← readCount value) }
  | .line => return { draft with line := some (← readPlace value) }
  | .column => return { draft with column := some (← readPlace value) }

/-- Reads the value of an argument that may be given only once. -/
def setOnce (draft : Draft) (field : Field) (value : Bytes) : Except Problem Draft :=
  if draft.isSet field then .error .repeatedArgument else draft.set field value

/-- Notes a switch. Help and the version are answered at once. -/
def turnOn (draft : Draft) (switch : Switch) : Except Problem Draft :=
  match switch with
  | .help => .error .helpRequested
  | .version => .error .versionRequested
  | _ =>
    if draft.has switch then .error .repeatedArgument
    else .ok { draft with switches := switch :: draft.switches }

end Draft

/-! ## Levels -/

/-- What may be given at one level of the command line: before the subcommand's name or after it. -/
structure Level where
  switches : List Switch
  fields : List Field := []
  /-- Whether everything after `--` is a compiler argument. -/
  takesClangArgs : Bool := false
deriving DecidableEq, Repr

namespace Level

/-- Before the name of the subcommand. -/
def top : Level where
  switches := [.verbose, .help, .version]

def switchNamed? (level : Level) (name : Bytes) : Option Switch :=
  level.switches.find? fun switch => Utf8.encode switch.name == name

def switchLettered? (level : Level) (letter : UInt8) : Option Switch :=
  level.switches.find? fun switch =>
    (switch.letter?.map fun c => UInt8.ofNat c.toNat) == some letter

def fieldNamed? (level : Level) (name : Bytes) : Option Field :=
  level.fields.find? fun field => field.name?.map Utf8.encode == some name

end Level

/-- The name of a command. -/
inductive Subcommand where
  | ast | tokens | diags | includes | complete | commands | version
deriving DecidableEq, Repr

namespace Subcommand

def all : List Subcommand :=
  [.ast, .tokens, .diags, .includes, .complete, .commands, .version]

def name : Subcommand → String
  | .ast => "ast"
  | .tokens => "tokens"
  | .diags => "diags"
  | .includes => "includes"
  | .complete => "complete"
  | .commands => "commands"
  | .version => "version"

def ofBytes? (name : Bytes) : Option Subcommand :=
  all.find? fun subcommand => Utf8.encode subcommand.name == name

/-- The level of a command that parses a source file. -/
def sourceLevel (switches : List Switch) (fields : List Field) : Level where
  switches := [.json] ++ switches ++ [.verbose, .help]
  fields := [.input, .config] ++ fields
  takesClangArgs := true

def level : Subcommand → Level
  | .ast => sourceLevel [.all] [.depth]
  | .tokens | .diags | .includes => sourceLevel [] []
  | .complete => sourceLevel [.macros, .patterns] [.line, .column, .limit]
  | .commands => { switches := [.json, .verbose, .help], fields := [.input, .file] }
  | .version => { switches := [.verbose, .help] }

end Subcommand

namespace Draft

/-- The value of an argument that must be given. -/
def required (value : Option α) : Except Problem α :=
  match value with
  | some value => .ok value
  | none => .error .missingArgument

def source (draft : Draft) : Except Problem SourceArgs := do
  return ⟨← required draft.input, draft.config, draft.has .json, draft.clangArgs⟩

/-- The command that the collected arguments of a subcommand make. -/
def command (draft : Draft) : Subcommand → Except Problem Command
  | .ast => return .ast (← draft.source) draft.depth (draft.has .all)
  | .tokens => return .tokens (← draft.source)
  | .diags => return .diags (← draft.source)
  | .includes => return .includes (← draft.source)
  | .complete => do
    let source ← draft.source
    let line ← required draft.line
    let column ← required draft.column
    return .complete source
      ⟨line, column, draft.has .macros, draft.has .patterns, draft.limit⟩
  | .commands => return .commands (← required draft.input) draft.file (draft.has .json)
  | .version => return .version

end Draft

end SourceAtlas.CommandLine
