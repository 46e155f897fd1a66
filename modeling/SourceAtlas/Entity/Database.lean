import SourceAtlas.Entity.Ask

/-!
# Compilation databases

The recorded runs of a compiler: for a file, or all of them.
-/

namespace SourceAtlas

namespace CompileCommand

/-- Asks about the command. -/
def ask (command : CompileCommand) (question : Question) (answer : CommandEntry → β) : Act β :=
  command.raw.ask question fun _ entry => answer entry

/-- The directory in which the compiler runs. -/
def directory (command : CompileCommand) : Act String := do
  Act.text (← command.ask .commandDirectory (·.directory))

/-- The file that is compiled. -/
def filename (command : CompileCommand) : Act String := do
  Act.text (← command.ask .commandFilename (·.filename))

/-- The whole command line, the compiler first. -/
def arguments (command : CompileCommand) : Act (List String) := do
  let count ← command.ask .commandArgumentCount (·.arguments.length)
  (List.range count).mapM fun i => do
    Act.text (← command.ask (.commandArgument i) (·.arguments[i]?.join))

def inspect (command : CompileCommand) : Act Inspect := do
  let directory ← command.directory
  let filename ← command.filename
  let arguments ← command.arguments
  return .record "CompileCommand"
    [("directory", .text directory), ("filename", .text filename),
      ("arguments", .list (arguments.map .text))]

end CompileCommand

namespace CommandList

def length (list : CommandList) : Act Nat := do
  Act.ask .commandCount [list.resource]
  return list.commands.length

/-- A command of the list, without references of its own; none beyond the end, and none if the
engine has a null handle there. -/
def command? (list : CommandList) (i : Nat) : Act (Option CompileCommand) := do
  if i < (← list.length) then
    Act.ask (.command i) [list.resource]
    return list.commands[i]?.join.map fun entry => ⟨⟨entry, list.resource⟩, list⟩
  else return none

def get? (list : CommandList) (i : Nat) : Act (Option CompileCommand) := do
  Act.keep (← list.command? i)

/-- All commands of the list. Null ones are left out. -/
def toList (list : CommandList) : Act (List CompileCommand) := do
  let found ← (List.range (← list.length)).mapM list.get?
  return found.filterMap id

def inspect (list : CommandList) : Act Inspect := do
  let forms ← (List.range (← list.length)).mapM fun i => do
    (← list.command? i).mapM CompileCommand.inspect
  return .list (forms.filterMap id)

end CommandList

namespace Database

/-- Opens the database in a directory. Its handle is given back if there is a handle but the engine
reports a problem. -/
def openIn (directory : Bytes) : Act Database := do
  Act.load
  if let some position := directory.nulPosition? then Act.fail (.nulAt position)
  Act.request (.openDatabase directory)
  let found := (← Act.engine).database directory
  let status := found.elim 1 (·.2.status)
  match found with
  | some (label, entry) =>
    if entry.hasHandle then
      let resource ← Act.acquire .database label
      if status == 0 then
        return ⟨← Act.newCell (some resource) .database, resource, entry⟩
      Act.dispose resource
  | none => pure ()
  let problem := (DatabaseProblem.ofCode? status.toInt).getD .unknown
  Act.fail (.database problem (Utf8.decodeLossy directory))

/-- Takes over the handle of a list of commands, if it is not null. -/
def listOf? (database : Database) (commands : Option CommandEntries) :
    Act (Option CommandList) := do
  match commands with
  | none => return none
  | some commands =>
    let label ← Act.updateGet fun w =>
      ({ w with commandLists := w.commandLists + 1 }, w.commandLists)
    let resource ← Act.acquire .commands label
    let cell ← Act.newCell (some resource) (.commands database)
    return some ⟨cell, resource, database, commands⟩

/-- The commands that compile a file. -/
def commandsFor (database : Database) (file : Bytes) : Act (Option CommandList) := do
  if let some position := file.nulPosition? then Act.fail (.nulAt position)
  Act.request (.findCommands database.resource file)
  database.listOf? ((database.entry.files.find? (·.1 == file)).map (·.2))

/-- All commands of the database. -/
def allCommands (database : Database) : Act (Option CommandList) := do
  Act.ask .allCommands [database.resource]
  database.listOf? database.entry.all

def inspect (_ : Database) : Inspect :=
  .sealed "CompilationDatabase"

end Database

end SourceAtlas
