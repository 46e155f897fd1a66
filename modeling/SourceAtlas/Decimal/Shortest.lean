/-!
# The shortest decimal form of a floating-point number

A finite number is `m * 2 ^ q`. The reals that round to it form an interval around it, ends included
exactly if `m` is even. Among the decimals in that interval, `shortest?` takes one with the fewest
digits, and of those the nearest to the number. All comparisons are exact, on natural numbers.
-/

namespace SourceAtlas.Decimal

/-- A decimal `digits * 10 ^ exponent`. -/
structure Scientific where
  digits : Nat
  exponent : Int
deriving DecidableEq, Repr

/-- A positive binary number `mantissa * 2 ^ exponent`. The gap below it is half the gap above it
when `narrowBelow` holds: this is so at the powers of two. -/
structure Binary where
  mantissa : Nat
  exponent : Int
  narrowBelow : Bool
deriving Repr

/-- A ratio of natural numbers. -/
structure Ratio where
  num : Nat
  den : Nat

namespace Ratio

def lt (a b : Ratio) : Bool := a.num * b.den < b.num * a.den

def le (a b : Ratio) : Bool := a.num * b.den ≤ b.num * a.den

/-- `n * base ^ e`. -/
def scaled (n base : Nat) (e : Int) : Ratio :=
  if 0 ≤ e then ⟨n * base.pow e.toNat, 1⟩ else ⟨n, base.pow (-e).toNat⟩

end Ratio

/-- The number itself and the ends of its rounding interval, all times four. -/
def Binary.interval (b : Binary) : Ratio × Ratio × Ratio :=
  let below := if b.narrowBelow then 1 else 2
  (.scaled (4 * b.mantissa - below) 2 (b.exponent - 2),
    .scaled (4 * b.mantissa) 2 (b.exponent - 2),
    .scaled (4 * b.mantissa + 2) 2 (b.exponent - 2))

/-- Whether a decimal rounds to the number. -/
def Binary.admits (b : Binary) (d : Scientific) : Bool :=
  let value := Ratio.scaled d.digits 10 d.exponent
  let (low, _, high) := b.interval
  if b.mantissa % 2 = 0 then low.le value && value.le high else low.lt value && value.lt high

/-- The largest multiple of `10 ^ exponent` that is not above the number. -/
def Binary.floorAt (b : Binary) (exponent : Int) : Nat :=
  let value := Ratio.scaled b.mantissa 2 b.exponent
  let unit := Ratio.scaled 1 10 exponent
  (value.num * unit.den) / (value.den * unit.num)

/-- The nearer of the number's two neighbours among the multiples of `10 ^ exponent`, of those that
round to the number. A tie goes to the even multiple. -/
def Binary.onGrid? (b : Binary) (exponent : Int) : Option Scientific :=
  let floor := b.floorAt exponent
  let lower : Scientific := ⟨floor, exponent⟩
  let upper : Scientific := ⟨floor + 1, exponent⟩
  match b.admits lower && floor != 0, b.admits upper with
  | false, false => none
  | true, false => some lower
  | false, true => some upper
  | true, true =>
    let middle := Ratio.scaled (2 * floor + 1) 10 exponent
    let twice := Ratio.scaled (2 * b.mantissa) 2 b.exponent
    if twice.lt middle then some lower
    else if middle.lt twice then some upper
    else if floor % 2 = 0 then some lower else some upper

/-- The number of decimal digits of a natural number. -/
def digitCount (n : Nat) : Nat :=
  (Nat.toDigits 10 n).length

/-- The decimal exponent of the leading digit: `10 ^ e ≤ number < 10 ^ (e + 1)`. -/
def Binary.leading (b : Binary) : Int :=
  let value := Ratio.scaled b.mantissa 2 b.exponent
  if value.den ≤ value.num then (digitCount (value.num / value.den) : Int) - 1
  else
    let quotient := value.den / value.num
    let guess : Int := -(digitCount quotient : Int)
    -- the guess is exact unless the number is itself a power of ten
    if (Ratio.scaled 1 10 (guess + 1)).le value then guess + 1 else guess

/-- The shortest decimal that rounds to the number. Seventeen digits always suffice. -/
def Binary.shortest (b : Binary) : Scientific :=
  let leading := b.leading
  let grids := (List.range 17).map fun (n : Nat) => leading - (n : Int)
  (grids.findSome? b.onGrid?).getD ⟨b.floorAt (leading - 16), leading - 16⟩

/-- The positive finite number with some bits; `none` for zero, the infinities and NaN. -/
def ofBits? (bits : UInt64) : Option Binary :=
  let raw : Nat := bits.toNat
  let biased : Nat := (raw >>> 52) % 0x800
  let fraction : Nat := raw % 0x10000000000000
  if biased = 2047 then none
  else if biased = 0 then
    if fraction = 0 then none else some ⟨fraction, -1074, false⟩
  else some ⟨fraction + 0x10000000000000, (biased : Int) - 1075, fraction == 0 && biased != 1⟩

/-- The digits of a decimal as they stand, without trailing zeros, and the exponent of the first. -/
def Scientific.normal (d : Scientific) : List Char × Int :=
  let digits := Nat.toDigits 10 d.digits
  ((digits.reverse.dropWhile (· == '0')).reverse, d.exponent + (digits.length : Int) - 1)

/-- Where a decimal is written by position, and how its exponent is written otherwise. -/
structure Style where
  /-- Least and greatest exponent of the first digit that is still written by position. -/
  leastPositional : Int
  greatestPositional : Int

/-- Numbers in failure texts: by position from 0.00001 up to sixteen digits before the point, always
with a point there, and otherwise with a signed exponent. -/
def plain : Style := ⟨-5, 15⟩

/-- A decimal in a style. -/
def Scientific.text (style : Style) (d : Scientific) : String :=
  let (digits, exponent) := d.normal
  if style.leastPositional ≤ exponent ∧ exponent ≤ style.greatestPositional then
    if exponent < 0 then
      "0." ++ String.ofList (List.replicate (-exponent - 1).toNat '0' ++ digits)
    else
      let whole := exponent.toNat + 1
      let padded := digits ++ List.replicate (whole - digits.length) '0'
      let fraction := padded.drop whole
      String.ofList (padded.take whole) ++ "." ++
        (if fraction.isEmpty then "0" else String.ofList fraction)
  else
    let sign := if exponent < 0 then "-" else "+"
    let tail := digits.drop 1
    String.ofList (digits.take 1) ++ (if tail.isEmpty then "" else "." ++ String.ofList tail) ++
      "e" ++ sign ++ toString exponent.natAbs

/-- A floating-point number in a style. -/
def floatText (style : Style) (x : Float) : String :=
  let bits := x.toBits
  let signBit := 0x8000000000000000
  let sign := if signBit ≤ bits.toNat then "-" else ""
  let magnitude := bits.toNat % signBit
  if magnitude = 0 then sign ++ "0.0"
  else match ofBits? (UInt64.ofNat magnitude) with
    | some b => sign ++ b.shortest.text style
    | none => if magnitude = 0x7FF0000000000000 then sign ++ "inf" else "NaN"

end SourceAtlas.Decimal
