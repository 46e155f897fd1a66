import SourceAtlas.Kind.Closed

/-!
# Severities

How serious a diagnostic is.
-/

namespace SourceAtlas

/-- How serious a diagnostic is. -/
inductive Severity where
  | ignored | note | warning | error | fatal
  /-- A number without a meaning here. -/
  | unknown (raw : Int32)
deriving DecidableEq, Repr

namespace Severity

def ofRaw : Int32 → Severity
  | 0 => .ignored
  | 1 => .note
  | 2 => .warning
  | 3 => .error
  | 4 => .fatal
  | raw => .unknown raw

def raw : Severity → Int32
  | .ignored => 0
  | .note => 1
  | .warning => 2
  | .error => 3
  | .fatal => 4
  | .unknown raw => raw

def name? : Severity → Option String
  | .ignored => some "Ignored"
  | .note => some "Note"
  | .warning => some "Warning"
  | .error => some "Error"
  | .fatal => some "Fatal"
  | .unknown _ => none

/-- Errors and worse. -/
def isError : Severity → Bool
  | .error | .fatal => true
  | _ => false

instance : ClosedKind Severity := ⟨ofRaw, raw, name?⟩

end Severity

end SourceAtlas
