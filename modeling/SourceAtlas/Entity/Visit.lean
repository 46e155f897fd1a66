import SourceAtlas.Entity.Ask

/-!
# Visits

The engine reports the children of a cursor and the fields of a type by calling a visitor, which can
ask it to stop. The visitor here collects what it is shown, and stops at a null cursor, which no
engine should report. Whether one was seen is looked at only when the engine has returned.
-/

namespace SourceAtlas

/-- A report of the engine: a cursor, and the cursor that it is visited under. -/
structure Visit where
  cursor : Ref
  parent : Ref := none
deriving DecidableEq, Repr

namespace Visit

/-- Shows events to a visitor, in order, until it asks to stop. -/
def deliver (visitor : σ → ε → σ × Bool) : σ → List ε → σ
  | state, [] => state
  | state, event :: events =>
    match visitor state event with
    | (state, true) => deliver visitor state events
    | (state, false) => state

/-- What has been collected, newest first, and whether a null cursor was seen. -/
structure Collected where
  nodes : List (Nat × Ref) := []
  sawNull : Bool := false
deriving DecidableEq, Repr

/-- Collects a cursor and goes on, or stops at a null cursor. -/
def Collected.add (collected : Collected) (visit : Visit) : Collected × Bool :=
  match visit.cursor with
  | some cursor => ({ collected with nodes := (cursor, visit.parent) :: collected.nodes }, true)
  | none => ({ collected with sawNull := true }, false)

/-- The cursors that are reported, with their parents, in order. A null cursor is a defect. -/
def collect (visits : List Visit) : Except Panic (List (Nat × Ref)) :=
  let collected := deliver Collected.add {} visits
  if collected.sawNull then .error .nullCursorVisited else .ok collected.nodes.reverse

end Visit

/-- The value of a computation that may have met a defect. -/
def Act.ofPanic (result : Except Panic α) : Act α :=
  match result with
  | .ok value => return value
  | .error panic => throw (.panic panic)

end SourceAtlas
