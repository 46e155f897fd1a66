import SourceAtlas.Text.Inspect

/-!
# Why a JSON text is refused

A text can break the grammar, or it can be well formed and not of the expected shape. `Cause` lists
both kinds of reason and `Failure.message` words them, with the place in the text where the reason
arose.
-/

namespace SourceAtlas.Json

/-- What stands in a text where something else was expected. -/
inductive Found where
  | null
  | bool (b : Bool)
  | integer (n : Int)
  /-- A number with a fraction or an exponent, or one too large for an integer, as it is written. -/
  | float (text : String)
  | string (s : String)
  | sequence
  | map
deriving DecidableEq, Repr

def Found.text : Found → String
  | .null => "null"
  | .bool b => if b then "boolean `true`" else "boolean `false`"
  | .integer n => "integer `" ++ toString n ++ "`"
  | .float text => "floating point `" ++ text ++ "`"
  | .string s => "string " ++ Text.quote s
  | .sequence => "sequence"
  | .map => "map"

/-- Reasons to refuse a text. -/
inductive Cause where
  | endInValue
  | endInList
  | endInObject
  | endInString
  | expectedColon
  | expectedListEnd
  | expectedObjectEnd
  | expectedIdent
  | expectedValue
  | invalidEscape
  | invalidNumber
  | numberOutOfRange
  | loneSurrogate
  | endOfHexEscape
  | controlCharacter
  | keyNotString
  | trailingComma
  | trailingCharacters
  | invalidType (found : Found) (expected : String)
  | invalidLength (length : Nat) (expected : String)
  | unknownVariant (name : String) (expected : List String)
  | missingField (name : String)
  | duplicateField (name : String)
deriving DecidableEq, Repr

/-- Names in backquotes, as a choice. -/
def oneOf (names : List String) : String :=
  match names.map fun name => "`" ++ name ++ "`" with
  | [] => "there are no variants"
  | [a] => "expected " ++ a
  | [a, b] => "expected " ++ a ++ " or " ++ b
  | names => "expected one of " ++ ", ".intercalate names

def Cause.text : Cause → String
  | .endInValue => "EOF while parsing a value"
  | .endInList => "EOF while parsing a list"
  | .endInObject => "EOF while parsing an object"
  | .endInString => "EOF while parsing a string"
  | .expectedColon => "expected `:`"
  | .expectedListEnd => "expected `,` or `]`"
  | .expectedObjectEnd => "expected `,` or `\x7d`"
  | .expectedIdent => "expected ident"
  | .expectedValue => "expected value"
  | .invalidEscape => "invalid escape"
  | .invalidNumber => "invalid number"
  | .numberOutOfRange => "number out of range"
  | .loneSurrogate => "lone leading surrogate in hex escape"
  | .endOfHexEscape => "unexpected end of hex escape"
  | .controlCharacter => "control character (\\u0000-\\u001F) found while parsing a string"
  | .keyNotString => "key must be a string"
  | .trailingComma => "trailing comma"
  | .trailingCharacters => "trailing characters"
  | .invalidType found expected => "invalid type: " ++ found.text ++ ", expected " ++ expected
  | .invalidLength length expected =>
    "invalid length " ++ toString length ++ ", expected " ++ expected
  | .unknownVariant name expected => "unknown variant `" ++ name ++ "`, " ++ oneOf expected
  | .missingField name => "missing field `" ++ name ++ "`"
  | .duplicateField name => "duplicate field `" ++ name ++ "`"

/-- A place in a text: the line, from one, and the number of bytes of the line before the place. -/
structure Position where
  line : Nat := 1
  column : Nat := 0
deriving DecidableEq, Repr

/-- A refusal of a text. A reason without a place yet takes that of the value it is about. -/
structure Failure where
  cause : Cause
  position : Option Position := none
deriving DecidableEq, Repr

/-- The wording of a refusal. -/
def Failure.message (failure : Failure) : String :=
  match failure.position with
  | none => failure.cause.text
  | some p =>
    failure.cause.text ++ " at line " ++ toString p.line ++ " column " ++ toString p.column

end SourceAtlas.Json
