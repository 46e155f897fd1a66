import SourceAtlas.Entity.Walk
import SourceAtlas.Report.Load

/-!
# The report on the syntax tree

A node for each cursor, with the nodes of its children below it, down to a depth if one is given.
Below the root only cursors in the main file are shown, unless all are asked for.
-/

namespace SourceAtlas

/-- A node of the tree that is shown. -/
inductive AstNode where
  | mk (kind spelling location : String) (children : List AstNode)
deriving Repr

namespace AstNode

mutual

/-- The lines of a node and of those below it, each with two blanks for every level. -/
def text (level : Nat) : AstNode → String
  | .mk kind spelling location children =>
    String.ofList (List.replicate (2 * level) ' ') ++ kind ++ " '" ++ spelling ++ "' <" ++
      location ++ ">\n" ++ textAll (level + 1) children

def textAll (level : Nat) : List AstNode → String
  | [] => ""
  | node :: nodes => node.text level ++ textAll level nodes

end

mutual

/-- A node as a JSON object, which has no key for children if there are none. -/
def toJson : AstNode → Json
  | .mk kind spelling location children =>
    .obj ([("kind", .str kind), ("spelling", .str spelling), ("location", .str location)] ++
      match children with
      | [] => []
      | first :: rest => [("children", .arr (first.toJson :: toJsonAll rest))])

def toJsonAll : List AstNode → List Json
  | [] => []
  | node :: nodes => node.toJson :: toJsonAll nodes

end

end AstNode

/-- Which cursors the tree shows. -/
structure AstScope where
  /-- The number of levels below the root. -/
  depth : Option UInt64
  /-- Whether cursors outside of the main file are shown. -/
  all : Bool
deriving DecidableEq, Repr

namespace AstScope

/-- Whether a child is shown. -/
def shows (scope : AstScope) (child : Cursor) : Act Bool := do
  if scope.all then return true
  (← child.location).isFromMainFile

/-- How many levels a tree can have at most: as many as the depth allows, or, if no cursor is below
itself, as many as there are cursors. -/
def levels (scope : AstScope) (engine : Engine) : Nat :=
  match scope.depth with
  | some depth => depth.toNat
  | none => engine.tables.cursors.size + 1

/-- The node of a cursor, and those below it in as many levels as are left. The children of a node
are visited before it is asked about itself. -/
def node (scope : AstScope) : Nat → Cursor → Act AstNode
  | 0, cursor => describe cursor []
  | levels + 1, cursor => do
    let children ← Act.usingEach (← cursor.children) fun child => do
      if ← scope.shows child then some <$> scope.node levels child else return none
    describe cursor (children.filterMap id)
where
  describe (cursor : Cursor) (children : List AstNode) : Act AstNode := do
    let kind ← (← cursor.kind).spelling
    let spelling ← cursor.spelling
    let location ← (← cursor.expansion).report
    return .mk kind spelling location children

end AstScope

open CommandLine (SourceArgs)

/-- Prints the syntax tree. Macros are part of it. -/
def astReport (host : Host) (source : SourceArgs) (scope : AstScope) : Act String := do
  Act.using (← loadUnit host source .detailedProcessingRecord) fun unit => do
    let engine ← Act.engine
    let tree ← Act.using (← Cursor.root unit) (scope.node (scope.levels engine))
    return if source.json then tree.toJson.pretty ++ "\n" else tree.text 0

end SourceAtlas
