import SourceAtlas.Text.Inspect

/-!
# Values of enumeration constants

The value of a constant is read with or without a sign, as the integer type of its enumeration asks.
-/

namespace SourceAtlas

/-- The value of an enumeration constant, by the signedness of the enumeration's integer type. -/
inductive EnumValue where
  | signed (n : Int64)
  | unsigned (n : UInt64)
deriving DecidableEq, Repr

namespace EnumValue

def toInt : EnumValue → Int
  | .signed n => n.toInt
  | .unsigned n => n.toNat

/-- The decimal digits, with a minus sign for negative values. -/
def text (value : EnumValue) : String :=
  toString value.toInt

def inspect (value : EnumValue) : Inspect :=
  match value with
  | .signed _ => .tuple "Signed" [.int value.toInt]
  | .unsigned _ => .tuple "Unsigned" [.int value.toInt]

/-- The value as a signed number, if it fits into 64 bits. -/
def asSigned (value : EnumValue) : Option Int :=
  if value.toInt < 0x8000000000000000 then some value.toInt else none

/-- The value as a number without a sign, if it has none. -/
def asUnsigned (value : EnumValue) : Option Nat :=
  if 0 ≤ value.toInt then some value.toInt.toNat else none

end EnumValue

end SourceAtlas
