/-!
# JSON values

The data in which engine tables are written and answers are printed. All numbers are whole, and an
object keeps its keys in the order in which they were written.
-/

namespace SourceAtlas

/-- A JSON value. -/
inductive Json where
  | null
  | bool (b : Bool)
  | num (n : Int)
  | str (s : String)
  | arr (items : List Json)
  | obj (fields : List (String × Json))
deriving Repr, Inhabited, BEq

namespace Json

/-- The value of a key; null for an absent key and for values that are not objects. -/
def get (value : Json) (key : String) : Json :=
  match value with
  | .obj fields => (fields.find? (·.1 == key)).elim .null (·.2)
  | _ => .null

/-- The element at a position; null beyond the end and for values that are not lists. -/
def item (value : Json) (n : Nat) : Json :=
  match value with
  | .arr items => items[n]?.getD .null
  | _ => .null

/-- The elements of a list; none for other values. -/
def items : Json → List Json
  | .arr items => items
  | _ => []

def isNull : Json → Bool
  | .null => true
  | _ => false

def str? : Json → Option String
  | .str s => some s
  | _ => none

/-- A number, or a truth value read as one. -/
def int? : Json → Option Int
  | .num n => some n
  | .bool b => some (if b then 1 else 0)
  | _ => none

/-- A truth value, or a number read as one. -/
def bool? : Json → Option Bool
  | .bool b => some b
  | .num n => some (n != 0)
  | _ => none

/-- The value of an optional value: null if there is none. -/
def ofOption (toJson : α → Json) : Option α → Json
  | none => .null
  | some a => toJson a

def nat (n : Nat) : Json := .num n

end Json

end SourceAtlas
