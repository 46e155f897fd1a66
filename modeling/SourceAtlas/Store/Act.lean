import SourceAtlas.Engine.Basic
import SourceAtlas.Failure
import SourceAtlas.Store.World

/-!
# Actions

What the operations of the library are made of: they read the engine, change the store, and may end
with a fault. A fault leaves the store as it was when it arose.
-/

namespace SourceAtlas

/-- A defect of the engine or of its user that no operation can report. -/
inductive Panic where
  | nullCursorVisited
  | engineNotLoaded
deriving DecidableEq, Repr

def Panic.message : Panic → String
  | .nullCursorVisited => "engine visitor produced a null cursor"
  | .engineNotLoaded => "a `libclang` shared library is not loaded on this thread"

/-- Why an action did not end normally. -/
inductive Fault where
  | failure (failure : Failure)
  | panic (panic : Panic)
deriving DecidableEq, Repr

/-- What actions read. -/
structure Setting where
  engine : Engine
  /-- Whether answers are remembered. Without memory, every question goes to the engine. -/
  remembers : Bool := true
deriving Inhabited

/-- A computation over the store. -/
abbrev Act := ReaderT Setting (ExceptT Fault (StateM World))

namespace Act

def engine : Act Engine :=
  return (← read).engine

/-- Changes the store. -/
def update (f : World → World) : Act Unit :=
  modify f

/-- Changes the store and takes what comes out. -/
def updateGet (f : World → World × α) : Act α :=
  modifyGet fun w => ((f w).2, (f w).1)

def fail (failure : Failure) : Act α :=
  throw (.failure failure)

/-- The value of a computation that may fail. -/
def ofExcept (result : Except Failure α) : Act α :=
  match result with
  | .ok value => return value
  | .error failure => fail failure

/-- Runs an action and gives back its fault as a value. What the action changed stays. -/
def attempt (act : Act α) : Act (Except Fault α) := fun setting =>
  ExceptT.mk (.ok <$> (act setting).run)

/-! ## Talking to the engine -/

/-- No call reaches an engine that has not been loaded on the thread. -/
def requireLoaded : Act Unit := do
  unless (← get).loaded do throw (.panic .engineNotLoaded)

/-- Loads the engine on the present thread. -/
def load : Act Unit :=
  update fun w => { w with loaded := true }

def request (request : Request) : Act Unit := do
  requireLoaded
  update (·.note (.requested request))

/-- Asks a question about values that belong to some resources. `memo` is the cell in which the
answer will be remembered. -/
def ask (question : Question) (operands : List Resource) (memo : Option CellId := none) :
    Act Unit := do
  requireLoaded
  update (·.note (.asked question operands memo))

/-- Takes a text from the engine. -/
def takeText (text : EngineText) : Act Nat :=
  updateGet fun w => ({ w.note (.textTaken w.texts text) with texts := w.texts + 1 }, w.texts)

/-- Copies a text that was taken, up to its first NUL, and returns it to the engine. -/
def copyText (serial : Nat) (text : EngineText) : Act (Option String) := do
  let copy := text.map fun bytes => Utf8.decodeLossy bytes.untilNul
  update (·.note (.textCopied serial copy))
  update (·.note (.textReturned serial))
  return copy

/-- The text that the engine answers; none if the text has no data. -/
def text? (text : EngineText) : Act (Option String) := do
  copyText (← takeText text) text

/-- The text that the engine answers; empty if the text has no data. -/
def text (text : EngineText) : Act String :=
  return (← text? text).getD ""

/-- The table entry that a unit instance has at present. -/
def table (unit : Resource) : Act Nat :=
  return (← get).instances[unit.label]?.getD 0

/-! ## References -/

/-- Takes references to what a value holds. -/
def keep [Holder α] (value : α) : Act α := do
  update (·.retainAll (refs value))
  return value

/-- Gives up the references that a value holds. -/
def drop [Holder α] (value : α) : Act Unit :=
  update (·.release (refs value))

/-- Makes a cell. The cell takes references to what its content holds. -/
def newCell (resource : Option Resource) (content : Content) : Act CellId := do
  updateGet (·.alloc resource (← keep content))

def acquire (kind : ResourceKind) (label : Nat) : Act Resource :=
  updateGet (·.acquire kind label)

def dispose (resource : Resource) : Act Unit :=
  update (·.dispose resource)

/-! ## Memory -/

/-- The answer that is remembered in a memo, or else a new one, which is remembered from then on.
The memo takes over the references of the new answer. -/
def memoized [Holder α] (cell : CellId) (slot : MemoSlot α) (answer : Act α) : Act α := do
  match (← read).remembers, slot.get ((← get).memo cell) with
  | true, some value => return value
  | _, _ =>
    let value ← answer
    update (·.remember cell slot value)
    return value

end Act

/-- Text, numbers and the like hold no references. -/
instance : Holder String := ⟨fun _ => []⟩

instance : Holder EnumValue := ⟨fun _ => []⟩

instance : Holder UInt32 := ⟨fun _ => []⟩

end SourceAtlas
