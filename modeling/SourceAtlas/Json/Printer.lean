import SourceAtlas.Json.Basic
import SourceAtlas.Text.Inspect

/-!
# Printing JSON

`compact` writes a value without any blanks, `pretty` with one element a line and two blanks of
indentation for each level. Only quotes, backslashes and control characters are escaped in texts.
-/

namespace SourceAtlas.Json

/-- One character of a text. -/
def escapeChar (c : Char) : List Char :=
  match c with
  | '"' => ['\\', '"']
  | '\\' => ['\\', '\\']
  | '\n' => ['\\', 'n']
  | '\r' => ['\\', 'r']
  | '\t' => ['\\', 't']
  | '\x08' => ['\\', 'b']
  | '\x0c' => ['\\', 'f']
  | c =>
    if c < ' ' then
      ['\\', 'u', '0', '0', Nat.digitChar (c.toNat / 16), Nat.digitChar (c.toNat % 16)]
    else [c]

/-- A text in quotes. -/
def quote (s : String) : String :=
  String.ofList ('"' :: s.toList.flatMap escapeChar ++ ['"'])

mutual

def compact : Json → String
  | .null => "null"
  | .bool true => "true"
  | .bool false => "false"
  | .num n => toString n
  | .str s => quote s
  | .arr items => "[" ++ compactItems items ++ "]"
  | .obj fields => "\x7b" ++ compactFields fields ++ "\x7d"

def compactItems : List Json → String
  | [] => ""
  | [item] => item.compact
  | item :: items => item.compact ++ "," ++ compactItems items

def compactFields : List (String × Json) → String
  | [] => ""
  | [(key, value)] => quote key ++ ":" ++ value.compact
  | (key, value) :: fields => quote key ++ ":" ++ value.compact ++ "," ++ compactFields fields

end

/-- A line break and the indentation of a level. -/
def newline (level : Nat) : String :=
  String.ofList ('\n' :: List.replicate (2 * level) ' ')

mutual

/-- A value whose lines after the first are indented for a level. -/
def prettyAt (level : Nat) : Json → String
  | .arr [] => "[]"
  | .arr items => "[" ++ prettyItems (level + 1) items ++ newline level ++ "]"
  | .obj [] => "\x7b\x7d"
  | .obj fields => "\x7b" ++ prettyFields (level + 1) fields ++ newline level ++ "\x7d"
  | .null => "null"
  | .bool true => "true"
  | .bool false => "false"
  | .num n => toString n
  | .str s => quote s

def prettyItems (level : Nat) : List Json → String
  | [] => ""
  | [item] => newline level ++ prettyAt level item
  | item :: items => newline level ++ prettyAt level item ++ "," ++ prettyItems level items

def prettyFields (level : Nat) : List (String × Json) → String
  | [] => ""
  | [(key, value)] => newline level ++ quote key ++ ": " ++ prettyAt level value
  | (key, value) :: fields =>
    newline level ++ quote key ++ ": " ++ prettyAt level value ++ "," ++ prettyFields level fields

end

def pretty (value : Json) : String :=
  prettyAt 0 value

end SourceAtlas.Json
