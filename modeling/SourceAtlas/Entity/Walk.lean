import SourceAtlas.Entity.Cursor

/-!
# Walks in preorder

A walk yields a cursor and all of its descendants, each before its children. The children of a node
are visited when the node is yielded, so a walk that is abandoned early visits no more than it has
to.
-/

namespace SourceAtlas

namespace Walk

/-- A walk from a cursor. -/
def make (root : Cursor) : Act Walk := do
  return ⟨[← Act.keep root]⟩

/-- The next node, and the walk after it. A node whose children cannot be visited is not yielded,
and the walk goes on with the nodes that were pending besides it. -/
def advance (walk : Walk) : Act (Walk × Except Fault (Option Cursor)) := do
  match walk.pending.getLast? with
  | none => return (walk, .ok none)
  | some node =>
    let others := walk.pending.dropLast
    match ← Act.attempt node.children with
    | .ok children => return (⟨others ++ children.reverse⟩, .ok (some node))
    | .error fault =>
      Act.drop node
      return (⟨others⟩, .error fault)

/-- How many nodes a walk can yield at most if no node is below itself. Then no path is longer than
the table of cursors, and no node has more children than all entries of the table together. -/
def bound (engine : Engine) (walk : Walk) : Nat :=
  let cursors := engine.tables.cursors
  let children := cursors.foldl (fun sum entry => sum + entry.children.length) 0
  walk.pending.length * (children + 2).pow (cursors.size + 2)

/-- All nodes that are still to come, and the walk after them. -/
def drain (walk : Walk) : Act (Walk × Except Fault (List Cursor)) := do
  loop (walk.bound (← Act.engine) + 1) walk []
where
  /-- Yields nodes until there are none, or until one cannot be yielded; then those before it are
  let go. -/
  loop : Nat → Walk → List Cursor → Act (Walk × Except Fault (List Cursor))
    | 0, walk, yielded => return (walk, .ok yielded.reverse)
    | turns + 1, walk, yielded => do
      match ← walk.advance with
      | (walk, .ok (some node)) => loop turns walk (node :: yielded)
      | (walk, .ok none) => return (walk, .ok yielded.reverse)
      | (walk, .error fault) =>
        Act.drop yielded.reverse
        return (walk, .error fault)

end Walk

end SourceAtlas
