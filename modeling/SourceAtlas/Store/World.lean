import SourceAtlas.Store.Trace

/-!
# The store

A store of cells with reference counts. A cell owns a resource of the engine, a memo, or both a
resource and what was remembered about it, and it holds references to the cells that its resource
borrows from. When the last reference to a cell is given up, its resource is disposed of first, and
then the references that the cell holds are given up, in order.
-/

namespace SourceAtlas

/-- What a cell holds besides its resource. -/
inductive Content where
  | index
  | unit (index : Index) (spelling : Option String)
  | diagnostic (parent : Option DiagnosticHandle) (anchor : Option Completion) (unit : SourceUnit)
  | tokens (unit : SourceUnit)
  | completion (unit : SourceUnit)
  | database
  | commands (database : Database)
  | memo (memo : CursorMemo)
deriving Repr

/-- The references that a cell holds, in the order in which they are given up. -/
def Content.heldRefs : Content → CellRefs
  | .index | .database => []
  | .unit owner _ => refs owner
  | .diagnostic parent anchor owner => refs parent ++ refs anchor ++ refs owner
  | .tokens owner | .completion owner => refs owner
  | .commands owner => refs owner
  | .memo held => refs held

instance : Holder Content := ⟨Content.heldRefs⟩

/-- A cell of the store. -/
structure Entry where
  /-- How many references to the cell there are. -/
  count : Nat
  resource : Option Resource
  content : Content
deriving Repr

/-- The state of a session, apart from the entities that its user holds. -/
structure World where
  /-- The cells by name; `none` where a cell has been freed. -/
  cells : Array (Option Entry) := #[]
  /-- What has passed between the library and the engine, newest first. -/
  trace : List Event := []
  /-- The table entry that each unit instance has at present. -/
  instances : Array Nat := #[]
  /-- How many resources have been acquired. -/
  acquired : Nat := 0
  /-- How many indexes have been made. -/
  indexes : Nat := 0
  /-- How many lists of commands have been asked for. -/
  commandLists : Nat := 0
  /-- How many texts have been taken from the engine. -/
  texts : Nat := 0
  /-- The resources of the present thread that are out. -/
  live : LiveCounts := {}
  /-- Whether the engine has been loaded on the present thread. -/
  loaded : Bool := false
deriving Repr, Inhabited

namespace World

def find? (w : World) (cell : CellId) : Option Entry :=
  w.cells[cell]?.join

/-- How many references to a cell there are. -/
def count (w : World) (cell : CellId) : Nat :=
  ((w.find? cell).map (·.count)).getD 0

def note (w : World) (event : Event) : World :=
  { w with trace := event :: w.trace }

/-- Writes a cell that exists. -/
def put (w : World) (cell : CellId) (entry : Option Entry) : World :=
  { w with cells := w.cells.setIfInBounds cell entry }

/-- How many cells have not been freed. -/
def population (w : World) : Nat :=
  w.cells.countP Option.isSome

/-- Notes that the engine has handed out a resource. -/
def acquire (w : World) (kind : ResourceKind) (label : Nat) : World × Resource :=
  let resource : Resource := ⟨kind, w.acquired, label⟩
  ({ w.note (.acquired resource) with
      acquired := w.acquired + 1, live := w.live.modify kind (· + 1) }, resource)

/-- Gives a resource back to the engine. -/
def dispose (w : World) (resource : Resource) : World :=
  { w.note (.disposed resource) with live := w.live.modify resource.kind (· - 1) }

def disposeOption (w : World) (resource : Option Resource) : World :=
  resource.elim w w.dispose

/-- Makes a cell with one reference to it. It takes over the references of its content. -/
def alloc (w : World) (resource : Option Resource) (content : Content) : World × CellId :=
  ({ w with cells := w.cells.push (some ⟨1, resource, content⟩) }, w.cells.size)

/-- Adds a reference to a cell. -/
def retain (w : World) (cell : CellId) : World :=
  match w.find? cell with
  | some entry => w.put cell (some { entry with count := entry.count + 1 })
  | none => w

theorem cells_disposeOption (w : World) (resource : Option Resource) :
    (w.disposeOption resource).cells = w.cells := by
  cases resource <;> rfl

theorem find?_eq_some {w : World} {cell : CellId} {entry : Entry}
    (h : w.find? cell = some entry) :
    ∃ bound : cell < w.cells.size, w.cells[cell] = some entry := by
  unfold find? at h
  rw [Option.join_eq_some_iff] at h
  exact Array.getElem?_eq_some_iff.1 h

theorem population_put_some {w : World} {cell : CellId} {entry : Entry} (new : Entry)
    (h : w.find? cell = some entry) : (w.put cell (some new)).population = w.population := by
  obtain ⟨bound, read⟩ := find?_eq_some h
  have positive : 0 < w.cells.countP Option.isSome :=
    Array.countP_pos_iff.2 ⟨_, Array.getElem_mem bound, by simp [read]⟩
  simp only [population, put, Array.setIfInBounds, bound, dite_true, Array.countP_set, read,
    Option.isSome_some, if_true]
  omega

theorem population_put_none {w : World} {cell : CellId} {entry : Entry}
    (h : w.find? cell = some entry) : (w.put cell none).population < w.population := by
  obtain ⟨bound, read⟩ := find?_eq_some h
  have positive : 0 < w.cells.countP Option.isSome :=
    Array.countP_pos_iff.2 ⟨_, Array.getElem_mem bound, by simp [read]⟩
  simp only [population, put, Array.setIfInBounds, bound, dite_true, Array.countP_set, read,
    Option.isSome_some, if_true, Option.isSome_none]
  simp only [Bool.false_eq_true, if_false]
  omega

/-- Adds the references of some entities. -/
def retainAll (w : World) (cells : CellRefs) : World :=
  cells.foldl retain w

/-- Gives up references, in order. A cell without further references is freed: its resource is
disposed of, and then the references that it holds are given up before the rest. -/
def release (w : World) : CellRefs → World
  | [] => w
  | cell :: rest =>
    match _found : w.find? cell with
    | none => release w rest
    | some entry =>
      if 1 < entry.count then
        release (w.put cell (some { entry with count := entry.count - 1 })) rest
      else
        release ((w.put cell none).disposeOption entry.resource) (refs entry.content ++ rest)
termination_by refs => (w.population, refs.length)
decreasing_by
  · exact Prod.Lex.right _ (Nat.lt_succ_self _)
  · rw [Prod.lex_def]
    exact .inr ⟨population_put_some _ _found, Nat.lt_succ_self _⟩
  · rw [Prod.lex_def]
    refine .inl ?_
    show ((w.put cell none).disposeOption entry.resource).cells.countP _ < _
    rw [cells_disposeOption]
    exact population_put_none _found

/-! ## Memos -/

/-- What is remembered about a cursor. -/
def memo (w : World) (cell : CellId) : CursorMemo :=
  match w.find? cell with
  | some { content := .memo memo, .. } => memo
  | _ => {}

def unitSpelling? (w : World) (cell : CellId) : Option String :=
  match w.find? cell with
  | some { content := .unit _ spelling, .. } => spelling
  | _ => none

/-- Remembers the spelling of a unit. -/
def setUnitSpelling (w : World) (cell : CellId) (spelling : String) : World :=
  match w.find? cell with
  | some { count, resource, content := .unit index _ } =>
    w.put cell (some ⟨count, resource, .unit index (some spelling)⟩)
  | _ => w

/-! ## Units -/

/-- Gives a unit another entry of the tables, if there is one. -/
def retable (w : World) (unit : Resource) (table : Option Nat) : World :=
  match table with
  | some table => { w with instances := w.instances.setIfInBounds unit.label table }
  | none => w

end World

/-- A place in a memo. -/
structure MemoSlot (α : Type) where
  get : CursorMemo → Option α
  set : CursorMemo → α → CursorMemo

/-- Remembers an answer about a cursor. The memo takes over the references of the answer, and gives
up those of the answer that was there before. -/
def World.remember [Holder α] (w : World) (cell : CellId) (slot : MemoSlot α) (answer : α) :
    World :=
  match w.find? cell with
  | some { count, resource, content := .memo memo } =>
    (w.put cell (some ⟨count, resource, .memo (slot.set memo answer)⟩)).release
      (refs (slot.get memo))
  | _ => w

end SourceAtlas
