import SourceAtlas.Text.Inspect

/-!
# Closed kinds

The small enumerations of the engine are closed: each number either has a name here or is kept as
it is. Reading a number and taking it back loses nothing.
-/

namespace SourceAtlas

/-- A closed enumeration of the engine. -/
class ClosedKind (κ : Type) where
  ofRaw : Int32 → κ
  raw : κ → Int32
  /-- The name of a kind; none for a number without a meaning. -/
  name? : κ → Option String

namespace ClosedKind

variable {κ : Type} [ClosedKind κ]

def isUnknown (kind : κ) : Bool :=
  (name? kind).isNone

/-- The name of a kind, or its number if it has none. -/
def inspect (kind : κ) : Inspect :=
  match name? kind with
  | some name => .word name
  | none => .tuple "Unknown" [.int (raw kind).toInt]

end ClosedKind

end SourceAtlas
