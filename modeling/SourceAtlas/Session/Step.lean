import SourceAtlas.Json.Basic

/-!
# Steps

A session is a list of steps. A step asks one query, or several of the same slot, and may put what
comes out into a slot. A step can also run steps of its own on a new thread.
-/

namespace SourceAtlas

/-- The names of the queries of a step. -/
inductive QueryNames where
  | one (name : String)
  /-- Several queries, whose results are not kept. -/
  | many (names : List String)
deriving DecidableEq, Repr

def QueryNames.toList : QueryNames → List String
  | .one name => [name]
  | .many names => names

/-- A step of a session. -/
inductive Step where
  /-- Queries of the object in a slot, or of the session; the second object of those that need one;
  the slot for the result; the arguments, which are fields of an object; and the steps of a new
  thread. -/
  | mk (names : QueryNames) (receiver other target : Option String) (args : Json)
      (inner : List Step)

namespace Json

theorem sizeOf_get_le (value : Json) (key : String) : sizeOf (value.get key) ≤ sizeOf value := by
  unfold get
  split
  · rename_i fields
    cases h : fields.find? (·.1 == key) with
    | none => simp
    | some field =>
      have member := List.sizeOf_lt_of_mem (List.mem_of_find?_eq_some h)
      have : sizeOf field.2 < sizeOf field := by cases field; simp +arith
      simp only [Option.elim_some, obj.sizeOf_spec]
      omega
  · cases value <;> simp +arith

theorem sizeOf_lt_of_mem_items {value item : Json} (h : item ∈ value.items) :
    sizeOf item < sizeOf value := by
  unfold items at h
  split at h
  · have := List.sizeOf_lt_of_mem h
    simp only [arr.sizeOf_spec]
    omega
  · simp at h

end Json

/-- The step that a JSON object holds. -/
def Step.ofJson (value : Json) : Step :=
  let names :=
    match value.get "q" with
    | .arr names => QueryNames.many (names.map fun name => name.str?.getD "")
    | name => .one (name.str?.getD "")
  let inner := (value.get "steps").items.attach.map fun ⟨item, _⟩ => Step.ofJson item
  .mk names (value.get "on").str? (value.get "other").str? (value.get "as").str? value inner
termination_by sizeOf value
decreasing_by
  rename_i member
  exact Nat.lt_of_lt_of_le (Json.sizeOf_lt_of_mem_items member) (Json.sizeOf_get_le value "steps")

end SourceAtlas
