import SourceAtlas.Json.Basic
import SourceAtlas.Json.Reader

/-!
# Reading any JSON value

`Json.parse` reads a whole text as a value, whatever its shape. Numbers have to be whole.
-/

namespace SourceAtlas.Json

namespace Reader

mutual

/-- Any value. Every call takes a character, so the length of what remains bounds the depth of the
calls. -/
def value : Nat → Reader Json
  | 0 => failAtNext .endInValue
  | turns + 1 => do
    match ← peekValue with
    | none => failAtNext .endInValue
    | some 'n' => skip; word ['u', 'l', 'l']; pure .null
    | some 't' => skip; word ['r', 'u', 'e']; pure (.bool true)
    | some 'f' => skip; word ['a', 'l', 's', 'e']; pure (.bool false)
    | some '"' => skip; .str <$> textBody
    | some '[' => skip; .arr <$> valueItems turns true
    | some '\x7b' => skip; .obj <$> valueFields turns true
    | some '-' => skip; whole (← number true)
    | some c => if c.isDigit then whole (← number false) else failAtNext .expectedValue

def valueItems : Nat → Bool → Reader (List Json)
  | 0, _ => failAtNext .endInList
  | turns + 1, first => do
    if ← anotherItem first then
      let item ← value turns
      return item :: (← valueItems turns false)
    else skip; pure []

def valueFields : Nat → Bool → Reader (List (String × Json))
  | 0, _ => failAtNext .endInObject
  | turns + 1, first => do
    if ← anotherKey first then
      let name ← key
      colon
      let item ← value turns
      return (name, item) :: (← valueFields turns false)
    else skip; pure []

/-- A number that is an integer. -/
def whole : Number → Reader Json
  | .natural n => pure (.num n)
  | .negative n => pure (.num (-n))
  | .float x => located (refuse (.invalidType (Number.float x).found "a whole number"))

end

end Reader

/-- The value that a text holds. -/
def parse (text : String) : Except Failure Json :=
  Reader.run (do Reader.value (2 * (← getThe Source).rest.length + 2)) text

end SourceAtlas.Json
