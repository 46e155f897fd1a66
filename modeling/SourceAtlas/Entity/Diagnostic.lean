import SourceAtlas.Entity.Source
import SourceAtlas.Kind.Severity
import SourceAtlas.Options

/-!
# Diagnostics

The messages of the compiler, for a unit or for a completion request. Each is a resource of its own.
What it borrows from, a parent diagnostic or completion results, it keeps alive.
-/

namespace SourceAtlas

namespace Diagnostic

/-- Takes over the handle of a diagnostic, if it is not null. -/
def ofRaw? (entry : Ref) (unit : SourceUnit) (ancestors : List DiagnosticHandle := [])
    (anchor : Option Completion := none) : Act (Option Diagnostic) := do
  match entry with
  | none => return none
  | some entry =>
    let resource ← Act.acquire .diagnostic entry
    let cell ← Act.newCell (some resource) (.diagnostic ancestors.head? anchor unit)
    return some ⟨⟨cell, resource, entry⟩, ancestors, anchor, unit⟩

/-- The diagnostic that this one is a note of. -/
def parent (diagnostic : Diagnostic) : Option Diagnostic :=
  match diagnostic.ancestors with
  | [] => none
  | handle :: ancestors => some { diagnostic with handle, ancestors }

/-- Asks about the diagnostic. -/
def ask (diagnostic : Diagnostic) (question : Question) (answer : DiagnosticEntry → β) :
    Act β := do
  Act.ask question [diagnostic.handle.resource]
  return answer ((← Act.engine).diagnostic diagnostic.handle.entry)

/-- The resource that the locations of the diagnostic belong to. -/
def origin (diagnostic : Diagnostic) : Resource :=
  diagnostic.anchor.elim diagnostic.unit.resource (·.resource)

def severity (diagnostic : Diagnostic) : Act Severity := do
  return .ofRaw (← diagnostic.ask .severity (·.severity))

/-- The location, without references of its own. -/
def place (diagnostic : Diagnostic) : Act SourceLocation := do
  let place ← diagnostic.ask .diagnosticLocation (·.location)
  return { raw := ⟨place, diagnostic.origin⟩, unit := diagnostic.unit, anchor := diagnostic.anchor }

def location (diagnostic : Diagnostic) : Act SourceLocation := do
  Act.keep (← diagnostic.place)

/-- The text of the message. -/
def spelling (diagnostic : Diagnostic) : Act String := do
  Act.text (← diagnostic.ask .diagnosticSpelling (·.spelling))

/-- A range that the diagnostic is about. -/
def span (diagnostic : Diagnostic) (span : Span) : Act SourceRange :=
  Act.keep
    { raw := ⟨span, diagnostic.origin⟩, unit := diagnostic.unit, anchor := diagnostic.anchor }

/-- The ranges that the diagnostic highlights. -/
def ranges (diagnostic : Diagnostic) : Act (List SourceRange) := do
  let count ← diagnostic.ask .rangeCount (·.ranges.length)
  (List.range count).mapM fun i => do
    diagnostic.span (← diagnostic.ask (.range i) (·.ranges[i]?.getD {}))

/-- The edits that the diagnostic suggests. -/
def fixIts (diagnostic : Diagnostic) : Act (List FixIt) := do
  let count ← diagnostic.ask .fixItCount (·.fixIts.length)
  (List.range count).mapM fun i => do
    let (span, value) ← diagnostic.ask (.fixIt i) (·.fixIts[i]?.getD default)
    let value ← Act.text value
    return ⟨← diagnostic.span span, value⟩

/-- How many notes the engine has for the diagnostic. -/
def childCount (diagnostic : Diagnostic) : Act Nat := do
  Act.ask .childDiagnostics [diagnostic.handle.resource]
  diagnostic.ask .childDiagnosticCount (·.children.length)

/-- A note of the diagnostic, if it is not null. -/
def child? (diagnostic : Diagnostic) (i : Nat) : Act (Option Diagnostic) := do
  let entry ← diagnostic.ask (.childDiagnostic i) (·.children[i]?.join)
  ofRaw? entry diagnostic.unit (diagnostic.handle :: diagnostic.ancestors) diagnostic.anchor

/-- The notes of the diagnostic. Null ones are left out. -/
def children (diagnostic : Diagnostic) : Act (List Diagnostic) := do
  let found ← (List.range (← diagnostic.childCount)).mapM diagnostic.child?
  return found.filterMap id

def categoryNumber (diagnostic : Diagnostic) : Act UInt32 :=
  diagnostic.ask .category (·.category)

def categoryName (diagnostic : Diagnostic) : Act String := do
  Act.text (← diagnostic.ask .categoryName (·.categoryName))

/-- The compiler option that turns the diagnostic on. -/
def enableOption (diagnostic : Diagnostic) : Act String := do
  Act.text (← diagnostic.ask .enableOption (·.enableOption))

/-- The compiler option that turns the diagnostic off. The engine answers with the other option as
well, whose text is returned first. -/
def disableOption (diagnostic : Diagnostic) : Act String := do
  let entry ← diagnostic.ask .disableOption id
  let enable ← Act.takeText entry.enableOption
  let disable ← Act.takeText entry.disableOption
  let _ ← Act.copyText enable entry.enableOption
  return (← Act.copyText disable entry.disableOption).getD ""

/-- The diagnostic as the compiler would print it, with given parts or with the engine's choice of
them. -/
def format (diagnostic : Diagnostic) (options : Option DisplayOptions) : Act String := do
  let bits ← match options with
    | some options => Act.ofExcept options.validate
    | none => do
      Act.ask .displayOptions []
      pure (← Act.engine).tables.displayOptions
  Act.ask (.formatted bits) [diagnostic.handle.resource]
  Act.text ((← Act.engine).formatted diagnostic.handle.entry bits)

def inspect (diagnostic : Diagnostic) : Act Inspect := do
  let severity ← diagnostic.severity
  let location ← (← diagnostic.place).inspect
  return .record "Diagnostic"
    [("severity", ClosedKind.inspect severity), ("location", location),
      ("spelling", .text (← diagnostic.spelling))]

end Diagnostic

def FixIt.inspect (fixIt : FixIt) : Act Inspect := do
  return .record "FixIt" [("range", ← fixIt.range.inspect), ("value", .text fixIt.value)]

namespace DiagnosticList

/-- How many diagnostics the engine has for the unit. -/
def length (list : DiagnosticList) : Act Nat := do
  Act.ask .diagnosticCount [list.unit.resource]
  return ((← Act.engine).unit (← Act.table list.unit.resource)).diagnostics.length

/-- A diagnostic of the unit; none beyond the end, and none where the engine has a null handle. -/
def get? (list : DiagnosticList) (i : Nat) : Act (Option Diagnostic) := do
  if i < (← list.length) then
    Act.ask (.unitDiagnostic i) [list.unit.resource]
    let entries := ((← Act.engine).unit (← Act.table list.unit.resource)).diagnostics
    Diagnostic.ofRaw? entries[i]?.join list.unit
  else return none

/-- All diagnostics of the unit. Null ones are left out. -/
def toList (list : DiagnosticList) : Act (List Diagnostic) := do
  let found ← (List.range (← list.length)).mapM list.get?
  return found.filterMap id

def inspect (list : DiagnosticList) : Act Inspect := do
  return .record "Diagnostics" [("unit", ← list.unit.inspect)]

end DiagnosticList

end SourceAtlas
