import SourceAtlas.Proofs.Crossing
import SourceAtlas.Proofs.Decoding

/-!
# The paths of commands

A database reports the paths of its commands as bytes, and is asked with bytes for the commands that
compile a file. In between a path is text. So a path that is valid text comes back as it was
reported, while of any other path each piece that is no character comes back as U+FFFD, and the
engine is then asked for a path that it has not reported.
-/

namespace SourceAtlas

open Act

/-- A path that a command hands out. -/
inductive CommandPath where
  | directory
  | filename
deriving DecidableEq, Repr

namespace CommandPath

/-- Hands the path out. -/
def read : CommandPath → CompileCommand → Act String
  | .directory => CompileCommand.directory
  | .filename => CompileCommand.filename

/-- What the engine reports for the path. -/
def reported (command : CompileCommand) : CommandPath → EngineText
  | .directory => command.raw.value.directory
  | .filename => command.raw.value.filename

variable {setting : Setting} {w : World} {command : CompileCommand} {bytes : Bytes}

/-- What is handed out is what was reported, up to the first NUL, read as text. -/
theorem exec_read (path : CommandPath) (command : CompileCommand) (loaded : w.loaded = true) :
    ∃ v, (path.read command).exec setting w = (.ok (path.reported command).decoded, v) ∧
      v.loaded = true := by
  cases path <;>
  · refine ⟨_, (exec_bind_ok (Raw.exec_ask _ _ _ _ loaded)).trans (exec_text _), ?_⟩
    exact loaded

theorem decoded_reported {path : CommandPath} (reported : path.reported command = some bytes)
    (sound : 0 ∉ bytes) : (path.reported command).decoded = Utf8.decodeLossy bytes := by
  rw [reported, EngineText.decoded, Option.map_some, Option.getD_some,
    Bytes.untilNul_eq_self sound]

end CommandPath

/-- A path of a command goes out as text and comes back as bytes, whatever bytes without NUL the
engine reported for it. The command hands it out with U+FFFD for each piece that is no character. To
look for the commands that compile this file the engine is asked once, for the bytes of that text.
They are the bytes it reported if these are valid UTF-8, and only then. -/
theorem valid_paths_round_trip (setting : Setting) (held : Database) (command : CompileCommand)
    (path : CommandPath) {w : World} (loaded : w.loaded = true) {bytes : Bytes}
    (reported : path.reported command = some bytes) (sound : 0 ∉ bytes) :
    ∃ text v, (path.read command).exec setting w = (.ok text, v) ∧
      text = Utf8.decodeLossy bytes ∧
      v.Utters Event.handing? [.requested (.findCommands held.resource (Utf8.encode text))]
        ((held.commandsFor (Utf8.encode text)).exec setting v).2 ∧
      (Utf8.encode text = bytes ↔ (Utf8.decode? bytes).isSome) := by
  obtain ⟨v, ran, loaded⟩ := @CommandPath.exec_read setting w path command loaded
  rw [CommandPath.decoded_reported reported sound] at ran
  refine ⟨_, v, ran, rfl, ?_, Utf8.encode_decodeLossy_iff⟩
  -- the text holds no NUL either, so that it is not refused
  have looks : Looks setting v _ _ _ :=
    held.looks_commandsFor loaded (Utf8.encode (Utf8.decodeLossy bytes))
  rw [Looks, firstNul?_eq_none.2 (List.forall_mem_singleton.2
    (Utf8.nul_not_mem_decodeLossy sound))] at looks
  exact looks.heard

/-- A file name one of whose bytes is no character. -/
theorem valid_paths_round_trip_broken :
    let held : Database := ⟨0, ⟨.database, 0, 0⟩, {}⟩
    let list : CommandList := ⟨1, ⟨.commands, 1, 0⟩, held, []⟩
    let command : CompileCommand := ⟨⟨{ filename := some [97, 255, 46, 99] }, list.resource⟩, list⟩
    let w : World := { loaded := true }
    w.loaded = true ∧ CommandPath.filename.reported command = some [97, 255, 46, 99] ∧
      (0 : UInt8) ∉ [97, 255, 46, 99] ∧
      ∃ text v, command.filename.exec ⟨{}, true⟩ w = (.ok text, v) ∧
        Utf8.encode text = [97, 0xEF, 0xBF, 0xBD, 46, 99] ∧
        ¬ (Utf8.encode text = [97, 255, 46, 99]) := by
  intro held list command w
  have sound : (0 : UInt8) ∉ [97, 255, 46, 99] := by decide
  obtain ⟨text, v, ran, read, -, same⟩ :=
    valid_paths_round_trip ⟨{}, true⟩ held command .filename (w := w) rfl rfl sound
  refine ⟨rfl, rfl, sound, text, v, ran, ?_, fun valid => ?_⟩
  · rw [read]
    cbv
  · exact absurd (same.1 valid) (by cbv; decide)

/-- So not every path comes back: of a database whose one command has such a file name, the engine
is asked for the commands of another file than it reported. -/
theorem broken_path_altered :
    let entry : CommandEntry := { directory := some [100], filename := some [97, 255, 46, 99] }
    let engine : Engine :=
      { tables := { databases := [{ directory := some [100], all := some [some entry] }] } }
    let asks : Act Unit := do
      let held ← Database.openIn [100]
      for list in ← held.allCommands do
        for command in ← list.toList do
          let _ ← held.commandsFor (Utf8.encode (← command.filename))
    (asks.exec ⟨engine, true⟩ {}).2.trace.filterMap Event.handing? =
      [.requested (.findCommands ⟨.database, 0, 0⟩ [97, 0xEF, 0xBF, 0xBD, 46, 99]),
        .requested (.openDatabase [100])] := by
  cbv

end SourceAtlas
