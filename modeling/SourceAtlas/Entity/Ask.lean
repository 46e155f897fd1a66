import SourceAtlas.Store.Act

/-!
# Asking about raw values

A question about a raw value uses the resource that the value belongs to, and what the engine
answers with belongs to that resource as well. The spelling of a unit is remembered in the unit's
own cell.
-/

namespace SourceAtlas

namespace Raw

/-- Asks about a value. -/
def ask (raw : Raw α) (question : Question) (answer : Engine → α → β)
    (memo : Option CellId := none) : Act β := do
  Act.ask question [raw.origin] memo
  return answer (← Act.engine) raw.value

/-- Asks about a value for another value of the same resource. -/
def derive (raw : Raw α) (question : Question) (answer : Engine → α → β)
    (memo : Option CellId := none) : Act (Raw β) := do
  return ⟨← raw.ask question answer memo, raw.origin⟩

/-- Asks about a value for a text; none if the text has no data. -/
def askText? (raw : Raw α) (question : Question) (answer : Engine → α → EngineText)
    (memo : Option CellId := none) : Act (Option String) := do
  Act.text? (← raw.ask question answer memo)

/-- Asks about a value for a text; empty if the text has no data. -/
def askText (raw : Raw α) (question : Question) (answer : Engine → α → EngineText)
    (memo : Option CellId := none) : Act String := do
  Act.text (← raw.ask question answer memo)

end Raw

namespace SourceUnit

/-- The name of the main source file. It is asked for once, and kept when the unit is reparsed. -/
def spelling (unit : SourceUnit) : Act String := do
  match (← read).remembers, (← get).unitSpelling? unit.cell with
  | true, some spelling => return spelling
  | _, _ =>
    Act.ask .unitSpelling [unit.resource] unit.cell
    let table ← Act.table unit.resource
    let spelling ← Act.text ((← Act.engine).unit table).spelling
    Act.update (·.setUnitSpelling unit.cell spelling)
    return spelling

/-- Whether two values are handles of one unit. -/
def same (a b : SourceUnit) : Bool :=
  a.cell == b.cell

def inspect (unit : SourceUnit) : Act Inspect := do
  return .record "TranslationUnit" [("spelling", .text (← unit.spelling))]

end SourceUnit

end SourceAtlas
