import SourceAtlas.Proofs.JsonGrammar
import SourceAtlas.Report.Ast
import SourceAtlas.Session.Step

/-!
# Printed trees

A tree is printed as text, with an entry for each node, or as JSON, from which the tree can be read
back. Both print the same nodes in the same order.
-/

namespace SourceAtlas

/-- What is told about a node of a tree, and how far it is below the root. -/
structure AstEntry where
  depth : Nat
  kind : String
  spelling : String
  location : String
deriving DecidableEq, Repr

/-- The entry as it is printed, with two blanks for every level. -/
def AstEntry.text (entry : AstEntry) : String :=
  String.ofList (List.replicate (2 * entry.depth) ' ') ++ entry.kind ++ " '" ++ entry.spelling ++
    "' <" ++ entry.location ++ ">\n"

namespace AstNode

mutual

/-- The entries of a node at some depth and of those below it, in preorder. -/
def entries (depth : Nat) : AstNode → List AstEntry
  | .mk kind spelling location children =>
    ⟨depth, kind, spelling, location⟩ :: entriesAll (depth + 1) children

def entriesAll (depth : Nat) : List AstNode → List AstEntry
  | [] => []
  | node :: nodes => node.entries depth ++ entriesAll depth nodes

end

theorem entriesAll_eq_flatMap (depth : Nat) (nodes : List AstNode) :
    entriesAll depth nodes = nodes.flatMap (entries depth) := by
  induction nodes with
  | nil => rfl
  | cons node nodes ih => rw [entriesAll, ih, List.flatMap_cons]

/-! ## Text -/

mutual

/-- The text of a tree has one entry for each node, and nothing else. -/
theorem text_eq_join (depth : Nat) : (node : AstNode) →
    node.text depth = String.join ((node.entries depth).map AstEntry.text)
  | .mk kind spelling location children => by
    rw [text, entries, List.map_cons, String.join_cons, textAll_eq_join (depth + 1) children]
    rfl

theorem textAll_eq_join (depth : Nat) : (nodes : List AstNode) →
    textAll depth nodes = String.join ((entriesAll depth nodes).map AstEntry.text)
  | [] => rfl
  | node :: nodes => by
    rw [textAll, entriesAll, List.map_append, String.join_append, text_eq_join depth node,
      textAll_eq_join depth nodes]

end

/-! ## JSON -/

/-- The tree that a JSON value stands for. A node without a key for children has none. -/
def ofJson? (value : Json) : Option AstNode := do
  let kind ← (value.get "kind").str?
  let spelling ← (value.get "spelling").str?
  let location ← (value.get "location").str?
  let children ← (value.get "children").items.attach.mapM fun ⟨child, _⟩ => ofJson? child
  return .mk kind spelling location children
termination_by sizeOf value
decreasing_by
  rename_i member
  exact Nat.lt_of_lt_of_le (Json.sizeOf_lt_of_mem_items member)
    (Json.sizeOf_get_le value "children")

theorem ofJson?_eq (value : Json) : ofJson? value = (do
    let kind ← (value.get "kind").str?
    let spelling ← (value.get "spelling").str?
    let location ← (value.get "location").str?
    let children ← (value.get "children").items.mapM ofJson?
    return .mk kind spelling location children) := by
  rw [ofJson?]
  simp [List.mapM_subtype]

theorem items_children (kind spelling location : String) (children : List AstNode) :
    ((mk kind spelling location children).toJson.get "children").items = toJsonAll children := by
  cases children <;> rfl

mutual

/-- A tree is read back from its JSON value. -/
theorem ofJson?_toJson : (node : AstNode) → ofJson? node.toJson = some node
  | .mk kind spelling location children => by
    have texts : ((mk kind spelling location children).toJson.get "kind").str? = some kind ∧
        ((mk kind spelling location children).toJson.get "spelling").str? = some spelling ∧
        ((mk kind spelling location children).toJson.get "location").str? = some location := by
      cases children <;> exact ⟨rfl, rfl, rfl⟩
    rw [ofJson?_eq, texts.1, texts.2.1, texts.2.2, items_children, mapM_toJsonAll children]
    rfl

theorem mapM_toJsonAll : (nodes : List AstNode) → (toJsonAll nodes).mapM ofJson? = some nodes
  | [] => rfl
  | node :: nodes => by
    rw [toJsonAll, List.mapM_cons, ofJson?_toJson node, mapM_toJsonAll nodes]
    rfl

end

mutual

/-- There are no numbers in a tree, so all of them are read. -/
theorem fits_toJson : (node : AstNode) → node.toJson.Fits
  | .mk kind spelling location children => by
    have below := fits_toJsonAll children
    unfold toJson
    refine .obj fun field member => ?_
    rcases List.mem_append.1 member with text | more
    · obtain rfl | rfl | rfl : field = _ ∨ field = _ ∨ field = _ := by simpa using text
      all_goals exact .str _
    · cases children with
      | nil => exact absurd more List.not_mem_nil
      | cons first rest =>
          obtain rfl := List.mem_singleton.1 more
          exact .arr below

theorem fits_toJsonAll : (nodes : List AstNode) → ∀ value ∈ toJsonAll nodes, value.Fits
  | [] => List.forall_mem_nil _
  | node :: nodes => List.forall_mem_cons.2 ⟨fits_toJson node, fits_toJsonAll nodes⟩

end

/-- A tree is read back from its JSON text. -/
theorem read_toJson (node : AstNode) :
    (Json.parse (node.toJson.pretty ++ "\n")).map ofJson? = .ok (some node) := by
  rw [Json.parse_pretty (fits_toJson node)]
  exact congrArg Except.ok (ofJson?_toJson node)

/-! ## Levels -/

/-- A tree without what is below some levels. -/
def cut : Nat → AstNode → AstNode
  | 0, .mk kind spelling location _ => .mk kind spelling location []
  | levels + 1, .mk kind spelling location children =>
    .mk kind spelling location (children.map (cut levels))

end AstNode

end SourceAtlas
