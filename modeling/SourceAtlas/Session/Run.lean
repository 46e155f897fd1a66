import SourceAtlas.Session.Answer
import SourceAtlas.Session.Count
import SourceAtlas.Session.Step

/-!
# Running a session

Steps are run one after the other over a store and named slots. What a step puts into a slot
replaces what was there; what no slot takes is given up at the end of its query. When the steps are
done, the slots are emptied in the order of their names.
-/

namespace SourceAtlas

/-- The objects of a thread by the names of their slots. -/
abbrev Slots := List (String × Object)

namespace Slots

def get? (slots : Slots) (name : String) : Option Object :=
  (slots.find? (·.1 == name)).map (·.2)

def erase (slots : Slots) (name : String) : Slots :=
  slots.filter (·.1 != name)

def set (slots : Slots) (name : String) (object : Object) : Slots :=
  (name, object) :: slots.erase name

end Slots

instance : Holder Slots := ⟨fun slots => slots.flatMap fun slot => refs slot.2⟩

/-- The state of a session between two steps. -/
structure State where
  world : World := {}
  slots : Slots := []
  /-- How many events have been reported. -/
  reported : Nat := 0
deriving Inhabited

mutual

/-- What a query gives back to the user. -/
inductive Reply where
  /-- A plain value, or the description of an object. -/
  | shown (value : Json)
  | fault (fault : Fault)
  /-- No object is in the slot. -/
  | noSlot
  /-- The object does not understand the query. -/
  | badQuery
  | notClonable
  /-- What the steps of another thread gave. -/
  | thread (transcript : Transcript)

/-- What a step gives back: its replies, and what passed to the engine and back, oldest first. -/
inductive Report where
  | mk (names : QueryNames) (replies : List Reply) (events : List Event)

/-- What a thread gives back: a report for each step, what passed while the slots were emptied, the
resources that are still out, and the number of texts that were not returned. -/
inductive Transcript where
  | mk (reports : List Report) (events : List Event) (live : LiveCounts) (texts : Int)

end

namespace State

/-- Runs an action on the store. -/
def run (setting : Setting) (act : Act α) (state : State) : State × Except Fault α :=
  let (outcome, world) := (act setting).run state.world
  ({ state with world }, outcome)

/-- Changes the store. -/
def update (f : World → World) (state : State) : State :=
  { state with world := f state.world }

/-- The events that have not been reported, oldest first. They count as reported from then on. -/
def takeEvents (state : State) : State × List Event :=
  let length := state.world.trace.length
  ({ state with reported := length }, (state.world.trace.take (length - state.reported)).reverse)

/-- Puts an object into a slot, and gives up what was there. -/
def store (state : State) (name : String) (object : Object) : State :=
  let old := state.slots.get? name
  { state with slots := state.slots.set name object }.update (·.release (refs old))

/-- Empties a slot. -/
def clear (state : State) (name : String) : State :=
  match state.slots.get? name with
  | some object => { state with slots := state.slots.erase name }.update (·.release (refs object))
  | none => state

/-- Puts the elements of a list into slots that are named by their positions. -/
def storeAll (state : State) (name : String) (objects : List Object) : State :=
  (objects.zipIdx).foldl (fun state (object, i) => state.store (name ++ "." ++ toString i) object)
    state

/-- What is shown of an answer. -/
def present (setting : Setting) (state : State) : Answer → Json
  | .plain value => value
  | .object object => setting.engine.describe state.world object
  | .objects objects => .arr (objects.map (setting.engine.describe state.world))

/-- Stores an answer in a slot, or gives it up. -/
def settle (state : State) (target : Option String) (answer : Answer) : State :=
  match target, answer with
  | some name, .object object => state.store name object
  | some name, .objects objects => state.storeAll name objects
  | _, _ => state.update (·.release (refs answer))

/-- Shows an answer, and then stores it or gives it up. -/
def finish (setting : Setting) (target : Option String) (state : State) :
    Except Fault Answer → State × Reply
  | .ok answer => (state.settle target answer, .shown (state.present setting answer))
  | .error fault => (state, .fault fault)

/-- Asks the object in a slot something. The slot has the changed object before the answer is
stored. -/
def turn (setting : Setting) (slot : String) (target : Option String) (act : Act Turn)
    (state : State) : State × Reply :=
  match state.run setting act with
  | (state, .ok { receiver, outcome }) =>
    finish setting target { state with slots := state.slots.set slot receiver } outcome
  | (state, .error fault) => (state, .fault fault)

/-- Asks the object in a slot by name, and with another slot given asks of the two together. -/
def askSlot (setting : Setting) (name slot : String) (other target : Option String) (args : Json)
    (state : State) : State × Reply :=
  match state.slots.get? slot with
  | none => (state, .noSlot)
  | some object =>
    match other with
    | some second =>
      match state.slots.get? second with
      | none => (state, .noSlot)
      | some companion =>
        match (PairQuery.ofName? name).bind (object.pairTurn? companion) with
        | some act => turn setting second target act state
        | none => (state, .badQuery)
    | none =>
      if name = "clone" then
        if object.isClonable then
          turn setting slot target (object.steady (.object <$> Act.keep object)) state
        else (state, .notClonable)
      else
        match object.turn? name args with
        | some act => turn setting slot target act state
        | none => (state, .badQuery)

/-! ## Queries of the session itself -/

/-- The version of the engine. -/
def engineVersion : Act String := do
  Act.load
  Act.ask .version []
  Act.text (← Act.engine).tables.version

/-- The engine's parse options for a unit that will be edited and reparsed. -/
def editingDefaults : Act UInt32 := do
  Act.load
  Act.ask .editingOptions []
  return (← Act.engine).tables.editingOptions

/-- The engine's name for a kind of cursor, and the classes that the kind is in. -/
def inspectCursorKind (kind : CursorKind) : Act Json := do
  Act.ask (.cursorKindName kind) []
  let spelling ← Act.text ((← Act.engine).cursorKindName kind)
  let classes ← KindClass.all.mapM fun kindClass => do
    Act.ask (.kindIs kind kindClass) []
    return Json.bool (Engine.kindIs kind kindClass)
  return .obj [("debug", .str kind.inspect.render), ("spelling", .str spelling),
    ("is", .arr classes)]

/-- The engine's name for a kind of type. -/
def inspectTypeKind (kind : TypeKind) : Act Json := do
  Act.ask (.typeKindName kind) []
  let spelling ← Act.text ((← Act.engine).typeKindName kind)
  return .obj [("debug", .str kind.inspect.render), ("spelling", .str spelling)]

/-- A query that does not go to a slot; none if there is none of the name. -/
def sessionQuery? (name : String) (args : Json) : Option (Act Answer) :=
  match name with
  | "create_index" => some do
    return .object (.index (← Index.create ⟨args.flag "exclude", false⟩))
  | "index_with_config" => some do
    return .object (.index (← Index.create ⟨args.flag "exclude", args.flag "display"⟩))
  | "database" => some do
    return .object (.database (← Database.openIn (args.path "directory")))
  | "version" => some do return .text (← engineVersion)
  | "editing_defaults" => some do return .nat (← editingDefaults).toNat
  | "cursor_kind" => some do return .plain (← inspectCursorKind ⟨args.int32 "raw"⟩)
  | "type_kind" => some do return .plain (← inspectTypeKind ⟨args.int32 "raw"⟩)
  | "live" => some do
    return .plain (.arr ((← get).live.toList.map .nat))
  | "calls" => some do
    return .plain (.obj ((countQuestions (← get).trace).map fun (name, n) => (name, .nat n)))
  | _ => none

/-- Asks the session something, or an object of it. -/
def ask (setting : Setting) (receiver other target : Option String) (args : Json) (state : State)
    (name : String) : State × Reply :=
  match receiver with
  | some slot => askSlot setting name slot other target args state
  | none =>
    if name = "drop" then
      ((args.strings "slots").foldl clear state, .shown .null)
    else
      match sessionQuery? name args with
      | none => (state, .badQuery)
      | some act =>
        match state.run setting act with
        | (state, outcome) => finish setting target state outcome

/-- Empties all slots, in the order of their names. -/
def clearAll (state : State) : State :=
  ((state.slots.map (·.1)).mergeSort).foldl clear state

/-- The state in which a new thread begins: it shares the store, and has no slots, no resources and
no loaded engine of its own. -/
def enterThread (state : State) : State :=
  { state with
    slots := []
    world := { state.world with live := {}, loaded := false } }

/-- The state of a thread after another one has ended. -/
def leaveThread (outer inner : State) : State :=
  { inner with
    slots := outer.slots
    world := { inner.world with live := outer.world.live, loaded := outer.world.loaded } }

/-- Ends a thread. -/
def finishThread (state : State) (reports : List Report) : State × Transcript :=
  let state := state.clearAll
  let (state, events) := state.takeEvents
  (state, .mk reports events state.world.live (outstandingTexts state.world.trace))

/-- Runs something for each element of a list, and collects the results in order. -/
def each (f : State → α → State × β) : State → List α → State × List β
  | state, [] => (state, [])
  | state, a :: as =>
    let (state, b) := f state a
    let (state, bs) := each f state as
    (state, b :: bs)

mutual

/-- Runs a step. -/
def step (setting : Setting) (state : State) : Step → State × Report
  | .mk names receiver other target args inner =>
    let target := match names with
      | .one _ => target
      | .many _ => none
    let query (state : State) (name : String) : State × Reply :=
      if receiver.isNone && name == "thread" then
        let (after, reports) := steps setting state.enterThread inner
        let (after, transcript) := after.finishThread reports
        (leaveThread state after, .thread transcript)
      else ask setting receiver other target args state name
    let (state, replies) := each query state names.toList
    let (state, events) := state.takeEvents
    (state, .mk names replies events)

/-- Runs steps in order. -/
def steps (setting : Setting) (state : State) : List Step → State × List Report
  | [] => (state, [])
  | first :: rest =>
    let (state, report) := step setting state first
    let (state, reports) := steps setting state rest
    (state, report :: reports)

end

end State

/-- Runs a session from the beginning to its end. -/
def Session.run (setting : Setting) (steps : List Step) : Transcript :=
  let (state, reports) := State.steps setting {} steps
  (state.finishThread reports).2

end SourceAtlas
