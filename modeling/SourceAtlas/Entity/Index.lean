import SourceAtlas.Entity.SourceUnit

/-!
# Indexes

The context in which units are made, by parsing a source file or by reading one that was saved.
-/

namespace SourceAtlas

namespace Index

/-- Makes an index. -/
def create (config : IndexConfig) : Act Index := do
  Act.load
  Act.request (.createIndex config)
  if (← Act.engine).tables.createsIndexes then
    let label ← Act.updateGet fun w => ({ w with indexes := w.indexes + 1 }, w.indexes)
    let resource ← Act.acquire .index label
    return ⟨← Act.newCell (some resource) .index, resource, config⟩
  else Act.fail (.libraryLoad "engine refused to create an index")

/-- Takes over what parsing or reading a source gave. A handle that comes with a problem is given
back. -/
def adopt (index : Index) (source : SourceEntry) (name : String) : Act SourceUnit := do
  if let some table := source.unit then
    let label ← Act.updateGet fun w =>
      ({ w with instances := w.instances.push table }, w.instances.size)
    let resource ← Act.acquire .unit label
    if source.status == 0 then
      return ⟨← Act.newCell (some resource) (.unit index none), resource, index⟩
    Act.dispose resource
  Act.fail (.unitLoad name (LoadProblem.ofCode? source.status.toInt))

/-- Parses a source file with compiler arguments and contents for some files. Without a path the
arguments name the file. -/
def parse (index : Index) (path : Option Bytes) (args : List String) (unsaved : List UnsavedFile)
    (options : ParseOptions) : Act SourceUnit := do
  let args := args.map Utf8.encode
  Act.checkTexts (path.toList ++ args ++ unsaved.map (·.path))
  Act.request (.parse index.resource path args unsaved options.bits)
  let source := (← Act.engine).source path
  index.adopt source (path.elim "<command line>" Utf8.decodeLossy)

/-- Reads a unit that was saved before. -/
def read (index : Index) (path : Bytes) : Act SourceUnit := do
  Act.checkTexts [path]
  Act.request (.read index.resource path)
  let source := (← Act.engine).source (some path)
  index.adopt source (Utf8.decodeLossy path)

def inspect (index : Index) : Inspect :=
  .record "Index" [("config", index.config.inspect)]

end Index

end SourceAtlas
