/-!
# Resources

The engine hands out resources that must be given back to it. Every raw value that it answers lives
as long as the resource from which it was asked.
-/

namespace SourceAtlas

/-- The kinds of resource that must be given back. -/
inductive ResourceKind where
  | index | unit | diagnostic | tokens | completion | database | commands
deriving DecidableEq, Repr

namespace ResourceKind

def all : List ResourceKind :=
  [.index, .unit, .diagnostic, .tokens, .completion, .database, .commands]

def name : ResourceKind → String
  | .index => "index"
  | .unit => "unit"
  | .diagnostic => "diagnostic"
  | .tokens => "tokens"
  | .completion => "completion"
  | .database => "database"
  | .commands => "commands"

end ResourceKind

/-- A resource that the engine has handed out. -/
structure Resource where
  kind : ResourceKind
  /-- A number that no other resource has. -/
  serial : Nat
  /-- The number under which the engine gets it back: that of an instance, a table entry or a list,
  or the number of tokens. -/
  label : Nat
deriving DecidableEq, Repr

/-- A value that the engine has answered, and the resource that it is part of. -/
structure Raw (α : Type) where
  value : α
  origin : Resource
deriving DecidableEq, Repr

/-- How many resources of each kind are out. -/
structure LiveCounts where
  index : Nat := 0
  unit : Nat := 0
  diagnostic : Nat := 0
  tokens : Nat := 0
  completion : Nat := 0
  database : Nat := 0
  commands : Nat := 0
deriving DecidableEq, Repr

namespace LiveCounts

def get (counts : LiveCounts) : ResourceKind → Nat
  | .index => counts.index
  | .unit => counts.unit
  | .diagnostic => counts.diagnostic
  | .tokens => counts.tokens
  | .completion => counts.completion
  | .database => counts.database
  | .commands => counts.commands

/-- Changes the count of one kind. -/
def modify (counts : LiveCounts) (kind : ResourceKind) (f : Nat → Nat) : LiveCounts :=
  match kind with
  | .index => { counts with index := f counts.index }
  | .unit => { counts with unit := f counts.unit }
  | .diagnostic => { counts with diagnostic := f counts.diagnostic }
  | .tokens => { counts with tokens := f counts.tokens }
  | .completion => { counts with completion := f counts.completion }
  | .database => { counts with database := f counts.database }
  | .commands => { counts with commands := f counts.commands }

/-- The counts in the order in which the kinds are listed. -/
def toList (counts : LiveCounts) : List Nat :=
  ResourceKind.all.map counts.get

theorem get_modify (counts : LiveCounts) (kind other : ResourceKind) (f : Nat → Nat) :
    (counts.modify kind f).get other =
      if other = kind then f (counts.get kind) else counts.get other := by
  cases kind <;> cases other <;> rfl

end LiveCounts

end SourceAtlas
