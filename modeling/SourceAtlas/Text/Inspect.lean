import SourceAtlas.Text.Combining
import SourceAtlas.Text.Unprintable
import SourceAtlas.Text.Wide

/-!
# The inspection form of values

Every value has a one-line form for people who look into a running session: records as
`Name { field: value }`, texts in quotes with everything invisible escaped. `Inspect` is that form
before it is written, and `Inspect.render` writes it.
-/

namespace SourceAtlas

namespace Text

/-- A number in lower-case hexadecimal digits. -/
def hex (n : Nat) : String :=
  String.ofList (Nat.toDigits 16 n)

/-- A character by its code point. -/
def escapeCode (c : Char) : String :=
  "\\u\x7b" ++ hex c.toNat ++ "\x7d"

/-- One character inside double quotes. Characters that extend the one before them, and those that
are not drawn, are escaped like the unprintable ones, so that no quoted text hides anything. -/
def escapeChar (c : Char) : String :=
  if c = '\x00' then "\\0"
  else if c = '\t' then "\\t"
  else if c = '\n' then "\\n"
  else if c = '\r' then "\\r"
  else if c = '"' then "\\\""
  else if c = '\\' then "\\\\"
  else if ' ' ≤ c ∧ c ≤ '~' then c.toString
  else if combining.contains c || ignorable.contains c || unprintable.contains c then escapeCode c
  else c.toString

/-- A text in double quotes. -/
def quote (s : String) : String :=
  "\"" ++ String.join (s.toList.map escapeChar) ++ "\""

end Text

/-- The inspection form of a value. -/
inductive Inspect where
  /-- A number, a truth value or a bare name. -/
  | word (s : String)
  | text (s : String)
  | tuple (name : String) (items : List Inspect)
  | record (name : String) (fields : List (String × Inspect))
  /-- A record that shows none of its fields. -/
  | sealed (name : String)
  | list (items : List Inspect)
deriving Repr

namespace Inspect

def bool (b : Bool) : Inspect :=
  .word (if b then "true" else "false")

def nat (n : Nat) : Inspect :=
  .word (toString n)

def int (n : Int) : Inspect :=
  .word (toString n)

/-- An optional value: `None`, or `Some(..)` around the value. -/
def option : Option Inspect → Inspect
  | none => .word "None"
  | some value => .tuple "Some" [value]

mutual

/-- The written form, on one line. -/
def render : Inspect → String
  | .word s => s
  | .text s => Text.quote s
  | .tuple name items => name ++ "(" ++ renderItems items ++ ")"
  | .record name [] => name
  | .record name fields => name ++ " \x7b " ++ renderFields fields ++ " \x7d"
  | .sealed name => name ++ " \x7b .. \x7d"
  | .list items => "[" ++ renderItems items ++ "]"

/-- Values with commas between them. -/
def renderItems : List Inspect → String
  | [] => ""
  | [item] => item.render
  | item :: items => item.render ++ ", " ++ renderItems items

/-- Named values with commas between them. -/
def renderFields : List (String × Inspect) → String
  | [] => ""
  | [(name, value)] => name ++ ": " ++ value.render
  | (name, value) :: fields => name ++ ": " ++ value.render ++ ", " ++ renderFields fields

end

end Inspect

end SourceAtlas
