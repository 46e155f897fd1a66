import SourceAtlas.CommandLine.Grammar

/-!
# Reading a command line

Words are read from left to right. The value of an option or of a positional argument is looked at
only when the next switch, option or positional argument begins, or at the end: a mistake in how
words are written is reported before a mistake in a value that stands in front of it.
-/

namespace SourceAtlas.CommandLine

/-- A word by the way it is written. -/
inductive Word where
  /-- Two dashes, which end the options. -/
  | escape
  /-- Two dashes, a name, and perhaps an equals sign and a value. -/
  | long (name : Bytes) (value : Option Bytes)
  /-- A dash and letters. -/
  | short (letters : Bytes)
  /-- Anything else, a single dash included. -/
  | value
deriving DecidableEq, Repr

def dash : UInt8 := 0x2D

def equals : UInt8 := 0x3D

/-- The part before the first equals sign, and the part after it if there is one. -/
def splitValue (text : Bytes) : Bytes × Option Bytes :=
  (text.takeWhile (· != equals),
    match text.dropWhile (· != equals) with
    | [] => none
    | _ :: value => some value)

def Word.ofBytes (word : Bytes) : Word :=
  match word with
  | [] | [_] => .value
  | first :: second :: rest =>
    if first != dash then .value
    else if second != dash then .short (second :: rest)
    else if rest.isEmpty then .escape
    else .long (splitValue rest).1 (splitValue rest).2

/-- An argument whose value has not been looked at yet. -/
inductive Pending where
  | nothing
  /-- An option whose value has not come yet. -/
  | awaiting (field : Field)
  | held (field : Field) (value : Bytes)
deriving DecidableEq, Repr

/-- The state between two words of a level. -/
structure Progress where
  draft : Draft := {}
  pending : Pending := .nothing
deriving DecidableEq, Repr

namespace Progress

/-- Looks at the pending value. -/
def settle (progress : Progress) : Except Problem Draft :=
  match progress.pending with
  | .nothing => .ok progress.draft
  | .awaiting _ => .error .missingValue
  | .held field value => progress.draft.setOnce field value

/-- Whether the positional argument has been given. -/
def hasInput (progress : Progress) : Bool :=
  progress.draft.isSet .input ||
    match progress.pending with
    | .held .input _ => true
    | _ => false

def switch (progress : Progress) (switch : Switch) : Except Problem Progress := do
  return { draft := ← (← progress.settle).turnOn switch }

def long (level : Level) (name : Bytes) (value : Option Bytes) (progress : Progress) :
    Except Problem Progress := do
  match level.switchNamed? name, level.fieldNamed? name, value with
  | some switch, _, none => progress.switch switch
  | some _, _, some _ => .error .unwantedValue
  | none, some field, none =>
    return { draft := ← progress.settle, pending := .awaiting field }
  | none, some field, some value =>
    return { draft := ← (← progress.settle).setOnce field value }
  | none, none, _ => .error .unknownArgument

/-- Reads a cluster of letters, each of which must be a switch. -/
def short (level : Level) : Bytes → Progress → Except Problem Progress
  | [], progress => .ok progress
  | letter :: letters, progress =>
    match level.switchLettered? letter with
    | some switch => do short level letters (← progress.switch switch)
    | none => .error .unknownArgument

/-- Takes a word as the positional argument. -/
def positional (level : Level) (value : Bytes) (progress : Progress) :
    Except Problem Progress := do
  if progress.hasInput || !level.fields.contains .input then .error .unknownArgument
  else return { draft := ← progress.settle, pending := .held .input value }

/-- Takes a word as the value of the option that awaits one, or as the positional argument. -/
def value (level : Level) (value : Bytes) (progress : Progress) : Except Problem Progress :=
  match progress.pending with
  | .awaiting field => .ok { progress with pending := .held field value }
  | _ => progress.positional level value

/-- Reads the words after `--`. -/
def afterEscape (level : Level) (words : List Bytes) (progress : Progress) :
    Except Problem Draft := do
  if level.takesClangArgs then
    let draft ← progress.settle
    return { draft with clangArgs := ← words.mapM readText }
  else
    (← words.foldlM (fun progress word => progress.positional level word) progress).settle

end Progress

/-- Reads the words after the name of a subcommand. -/
def readLevel (level : Level) : List Bytes → Progress → Except Problem Draft
  | [], progress => progress.settle
  | word :: words, progress => do
    match Word.ofBytes word with
    | .escape => progress.afterEscape level words
    | .long name value => readLevel level words (← progress.long level name value)
    | .short letters => readLevel level words (← progress.short level letters)
    | .value => readLevel level words (← progress.value level word)

def helpName : Bytes := Utf8.encode "help"

/-- Reads the words after `help`: at most the name of one command, which has none below it. -/
def readHelp : List Bytes → Problem
  | [] => .helpRequested
  | [name] =>
    if (Subcommand.ofBytes? name).isSome || name == helpName then .helpRequested
    else .unknownSubcommand
  | _ => .unknownSubcommand

/-- Reads the words from the one where the name of a subcommand may stand. -/
def readTop : List Bytes → Progress → Except Problem Invocation
  | [], progress =>
    .error (if progress.draft.switches.isEmpty then .nothingGiven else .missingSubcommand)
  | word :: words, progress => do
    match Subcommand.ofBytes? word with
    | some subcommand =>
      let draft ← readLevel subcommand.level words {}
      let command ← draft.command subcommand
      return ⟨progress.draft.has .verbose || draft.has .verbose, command⟩
    | none =>
      if word == helpName then .error (readHelp words)
      else match Word.ofBytes word with
        | .escape =>
          match words with
          | [] => readTop [] progress
          | word :: _ =>
            if (Subcommand.ofBytes? word).isSome || word == helpName then .error .unknownArgument
            else .error .unknownSubcommand
        | .long name value => readTop words (← progress.long .top name value)
        | .short letters => readTop words (← progress.short .top letters)
        | .value => .error .unknownSubcommand

/-- The invocation that the words of a command line ask for. The first word names the program. -/
def parse (words : List Bytes) : Except Problem Invocation :=
  readTop (words.drop 1) {}

end SourceAtlas.CommandLine
