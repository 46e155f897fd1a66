import SourceAtlas.Json.Printer
import SourceAtlas.Json.Reader
import SourceAtlas.Options
import SourceAtlas.Text.Utf8

/-!
# Configurations

Settings of an index, and how to parse a unit: compiler arguments, flags and in-memory files. Both
are kept as JSON. A field that is left out has its default, and an unknown field is skipped.
-/

namespace SourceAtlas

/-- Settings for a new index. -/
structure IndexConfig where
  /-- Leave declarations from precompiled headers out of visitation. -/
  excludeDeclarationsFromPch : Bool := false
  /-- Let the engine print diagnostics while it parses. -/
  displayDiagnostics : Bool := false
deriving DecidableEq, Repr, Inhabited

/-- A parse option by its name in configuration files. -/
inductive ParseFlag where
  | detailedProcessingRecord
  | incomplete
  | precompiledPreamble
  | cacheCompletionResults
  | skipFunctionBodies
  | includeBriefCommentsInCodeCompletion
deriving DecidableEq, Repr

namespace ParseFlag

def options : ParseFlag → ParseOptions
  | .detailedProcessingRecord => .detailedProcessingRecord
  | .incomplete => .incomplete
  | .precompiledPreamble => .precompiledPreamble
  | .cacheCompletionResults => .cacheCompletionResults
  | .skipFunctionBodies => .skipFunctionBodies
  | .includeBriefCommentsInCodeCompletion => .includeBriefCommentsInCodeCompletion

/-- The name in configuration files. -/
def key : ParseFlag → String
  | .detailedProcessingRecord => "detailed_processing_record"
  | .incomplete => "incomplete"
  | .precompiledPreamble => "precompiled_preamble"
  | .cacheCompletionResults => "cache_completion_results"
  | .skipFunctionBodies => "skip_function_bodies"
  | .includeBriefCommentsInCodeCompletion => "include_brief_comments_in_code_completion"

def name : ParseFlag → String
  | .detailedProcessingRecord => "DetailedProcessingRecord"
  | .incomplete => "Incomplete"
  | .precompiledPreamble => "PrecompiledPreamble"
  | .cacheCompletionResults => "CacheCompletionResults"
  | .skipFunctionBodies => "SkipFunctionBodies"
  | .includeBriefCommentsInCodeCompletion => "IncludeBriefCommentsInCodeCompletion"

def all : List ParseFlag :=
  [.detailedProcessingRecord, .incomplete, .precompiledPreamble, .cacheCompletionResults,
    .skipFunctionBodies, .includeBriefCommentsInCodeCompletion]

end ParseFlag

/-- Contents to use for a path instead of what is on disk. -/
structure UnsavedFile where
  path : Bytes
  contents : String
deriving DecidableEq, Repr

/-- How to parse a unit. -/
structure ParseConfig where
  args : List String := []
  options : List ParseFlag := []
  unsaved : List UnsavedFile := []
deriving DecidableEq, Repr, Inhabited

/-- The union of the listed flags. -/
def ParseConfig.parseOptions (config : ParseConfig) : ParseOptions :=
  config.options.foldl (fun options flag => options ||| flag.options) {}

namespace IndexConfig

def inspect (config : IndexConfig) : Inspect :=
  .record "IndexConfig"
    [("exclude_declarations_from_pch", .bool config.excludeDeclarationsFromPch),
      ("display_diagnostics", .bool config.displayDiagnostics)]

def toJson (config : IndexConfig) : Json :=
  .obj [("exclude_declarations_from_pch", .bool config.excludeDeclarationsFromPch),
    ("display_diagnostics", .bool config.displayDiagnostics)]

open Json.Reader

/-- The fields that have been read so far. -/
structure Draft where
  exclude : Option Bool := none
  display : Option Bool := none

def Draft.finish (draft : Draft) : IndexConfig :=
  ⟨draft.exclude.getD false, draft.display.getD false⟩

def Draft.field (name : String) (draft : Draft) : Json.Reader Draft := do
  match name with
  | "exclude_declarations_from_pch" =>
    return { draft with exclude := some (← once name draft.exclude.isSome bool) }
  | "display_diagnostics" =>
    return { draft with display := some (← once name draft.display.isSome bool) }
  | _ => unknownField; pure draft

def reader : Json.Reader IndexConfig :=
  record "struct IndexConfig"
    (do
      let exclude ← item? true bool
      let display ← if exclude.isSome then item? false bool else pure none
      pure (Draft.finish ⟨exclude, display⟩))
    (Draft.finish <$> fields Draft.field {})

/-- The settings that a JSON text holds. -/
def parse (text : String) : Except Failure IndexConfig :=
  (reader.run text).mapError .json

end IndexConfig

namespace UnsavedFile

def toJson (file : UnsavedFile) : Json :=
  .obj [("path", .str (Utf8.decodeLossy file.path)), ("contents", .str file.contents)]

open Json.Reader

/-- The fields that have been read so far. -/
structure Draft where
  path : Option String := none
  contents : Option String := none

def pathField : Json.Reader String :=
  text "path string"

def contentsField : Json.Reader String :=
  text "a string"

def Draft.finish (draft : Draft) : Json.Reader UnsavedFile := do
  let some path := draft.path | refuse (.missingField "path")
  let some contents := draft.contents | refuse (.missingField "contents")
  pure ⟨Utf8.encode path, contents⟩

def Draft.field (name : String) (draft : Draft) : Json.Reader Draft := do
  match name with
  | "path" => return { draft with path := some (← once name draft.path.isSome pathField) }
  | "contents" =>
    return { draft with contents := some (← once name draft.contents.isSome contentsField) }
  | _ => unknownField; pure draft

def reader : Json.Reader UnsavedFile :=
  record "struct UnsavedFile"
    (do
      let expected := "struct UnsavedFile with 2 elements"
      let some p ← item? true pathField | refuse (.invalidLength 0 expected)
      let some c ← item? false contentsField | refuse (.invalidLength 1 expected)
      pure ⟨Utf8.encode p, c⟩)
    (do (← fields Draft.field {}).finish)

end UnsavedFile

namespace ParseConfig

def toJson (config : ParseConfig) : Json :=
  .obj [("args", .arr (config.args.map .str)),
    ("options", .arr (config.options.map fun flag => .str flag.key)),
    ("unsaved", .arr (config.unsaved.map UnsavedFile.toJson))]

open Json.Reader

/-- The fields that have been read so far. -/
structure Draft where
  args : Option (List String) := none
  options : Option (List ParseFlag) := none
  unsaved : Option (List UnsavedFile) := none

def Draft.finish (draft : Draft) : ParseConfig :=
  ⟨draft.args.getD [], draft.options.getD [], draft.unsaved.getD []⟩

def argsField : Json.Reader (List String) :=
  list (text "a string")

def optionsField : Json.Reader (List ParseFlag) :=
  list (variant (ParseFlag.all.map fun flag => (flag.key, flag)))

def unsavedField : Json.Reader (List UnsavedFile) :=
  list UnsavedFile.reader

def Draft.field (name : String) (draft : Draft) : Json.Reader Draft := do
  match name with
  | "args" => return { draft with args := some (← once name draft.args.isSome argsField) }
  | "options" =>
    return { draft with options := some (← once name draft.options.isSome optionsField) }
  | "unsaved" =>
    return { draft with unsaved := some (← once name draft.unsaved.isSome unsavedField) }
  | _ => unknownField; pure draft

def reader : Json.Reader ParseConfig :=
  record "struct ParseConfig"
    (do
      let args ← item? true argsField
      let options ← if args.isSome then item? false optionsField else pure none
      let unsaved ← if options.isSome then item? false unsavedField else pure none
      pure (Draft.finish ⟨args, options, unsaved⟩))
    (Draft.finish <$> fields Draft.field {})

/-- The configuration that a JSON text holds. -/
def parse (text : String) : Except Failure ParseConfig :=
  (reader.run text).mapError .json

/-- The configuration in a file: what reading the file gave, which must be UTF-8 and hold JSON. -/
def ofFile (contents : Except FileProblem Bytes) : Except Failure ParseConfig := do
  let bytes ← contents.mapError .io
  match Utf8.decode? bytes with
  | some text => parse text
  | none => .error (.io .notUtf8)

end ParseConfig

end SourceAtlas
