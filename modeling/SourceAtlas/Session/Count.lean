import SourceAtlas.Store.Trace

/-!
# Counting questions

The questions that are counted for the user of a session, by name: those about cursors whose answers
cost the engine some work, and those that are remembered elsewhere.
-/

namespace SourceAtlas

/-- The name under which a question is counted, if it is. -/
def Question.countedAs? : Question → Option String
  | .cursorText .usr => none
  | .cursorText text => some text.key
  | .cursorLocation => some "location"
  | .cursorExtent => some "extent"
  | .cursorType link => some link.key
  | .cursorLink link => some link.key
  | .cursorHash => some "hash"
  | .enumConstant _ => some "enum_value"
  | .children _ => some "visit_children"
  | .unitSpelling => some "unit_spelling"
  | .expansion => some "expansion"
  | .tokenize _ => some "tokenize"
  | .chunkText _ => some "chunk_text"
  | .chunkKind _ => some "chunk_kind"
  | _ => none

/-- The name under which an event is counted, if it is. -/
def Event.countedAs? : Event → Option String
  | .asked question _ _ => question.countedAs?
  | _ => none

/-- How often each counted question was asked, in the order in which they first were. -/
def countQuestions (events : List Event) : List (String × Nat) :=
  let names := events.filterMap Event.countedAs?
  names.eraseDups.map fun name => (name, names.count name)

/-- How many texts have been taken from the engine and not been returned. -/
def outstandingTexts (events : List Event) : Int :=
  events.foldl (fun sum event => match event with
    | .textTaken .. => sum + 1
    | .textReturned _ => sum - 1
    | _ => sum) 0

end SourceAtlas
