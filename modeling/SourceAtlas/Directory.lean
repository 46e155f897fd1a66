import SourceAtlas.Failure
import SourceAtlas.Text.Utf8

/-!
# Files that are read

The program reads files by their paths and in no other way. A directory of files is one place where
they can come from: paths are walked part by part from it, as they are in a file system.
-/

namespace SourceAtlas

/-- What reading the file at a path gives. -/
abbrev FileReader := Bytes → Except FileProblem Bytes

/-- A directory that holds files and no further directories. -/
structure Directory where
  /-- The names of the files and what they hold. -/
  files : List (Bytes × Bytes)
deriving DecidableEq, Repr

namespace Directory

/-- Where a path has led so far. -/
inductive Place where
  | here
  /-- A directory above this one, of which nothing is known. -/
  | above
  | file (contents : Bytes)
deriving DecidableEq, Repr

/-- The problem of a path that goes on after the name of a file. -/
def notDirectory : FileProblem := .other "Not a directory (os error 20)"

/-- The problem of a path, or of a part of one, that no file can have. -/
def nameTooLong : FileProblem := .other "File name too long (os error 36)"

/-- The bytes that a part of a path can have at most. -/
def maxPart : Nat := 255

/-- The bytes that a path can have at most. -/
def maxPath : Nat := 4095

/-- Follows one part of a path. An empty part, which stands between two slashes, is a dot. -/
def step (directory : Directory) (place : Place) (part : Bytes) : Except FileProblem Place :=
  let dot := Utf8.encode "."
  let dots := Utf8.encode ".."
  match place with
  | .file _ => .error notDirectory
  | .above =>
    if part = [] ∨ part = dot ∨ part = dots then .ok .above
    else if maxPart < part.length then .error nameTooLong
    else .error .missing
  | .here =>
    if part = [] ∨ part = dot then .ok .here
    else if part = dots then .ok .above
    else
      match directory.files.lookup part with
      | some contents => .ok (.file contents)
      | none => .error (if maxPart < part.length then nameTooLong else .missing)

/-- Reads the file at a path. A path that starts with a slash leaves the directory. -/
def read (directory : Directory) : FileReader := fun path => do
  let slash : UInt8 := 0x2f
  if path = [] then throw .missing
  if maxPath < path.length then throw nameTooLong
  let start := if path.head? = some slash then Place.above else .here
  match ← (path.splitOn slash).foldlM directory.step start with
  | .file contents => return contents
  | .here | .above => throw .isDirectory

end Directory

end SourceAtlas
