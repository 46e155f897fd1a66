/-!
# UTF-8

Text crosses the engine boundary as bytes that end at the first NUL and need not be valid UTF-8.
`decodeLossy` reads such bytes: a valid character is kept, and each longest piece that could have
begun a character, but did not become one, is replaced by U+FFFD. `decode?` is the strict reading.
-/

namespace SourceAtlas

/-- Text in the form in which the engine holds it. -/
abbrev Bytes := List UInt8

namespace Utf8

/-- The bytes of a text. -/
def encode (s : String) : Bytes :=
  s.toList.flatMap String.utf8EncodeChar

/-- What the first byte of a multi-byte character promises. -/
structure Lead where
  /-- How many bytes follow. -/
  tails : Nat
  /-- The bits of the character that the first byte carries. -/
  bits : Nat
  /-- Least and greatest value of the byte after the first one: this excludes overlong forms,
  surrogates and values above U+10FFFF. -/
  low : UInt8 := 0x80
  high : UInt8 := 0xBF
deriving DecidableEq, Repr

/-- The bytes that can begin a multi-byte character. -/
def lead? (b : UInt8) : Option Lead :=
  if b < 0xC2 then none
  else if b ≤ 0xDF then some { tails := 1, bits := b.toNat - 0xC0 }
  else if b = 0xE0 then some { tails := 2, bits := 0, low := 0xA0 }
  else if b = 0xED then some { tails := 2, bits := 0xD, high := 0x9F }
  else if b ≤ 0xEF then some { tails := 2, bits := b.toNat - 0xE0 }
  else if b = 0xF0 then some { tails := 3, bits := 0, low := 0x90 }
  else if b ≤ 0xF3 then some { tails := 3, bits := b.toNat - 0xF0 }
  else if b = 0xF4 then some { tails := 3, bits := 4, high := 0x8F }
  else none

/-- Splits off at most `n` continuation bytes, the first of them between `low` and `high`. -/
def splitTails : Nat → UInt8 → UInt8 → Bytes → Bytes × Bytes
  | 0, _, _, rest => ([], rest)
  | _ + 1, _, _, [] => ([], [])
  | n + 1, low, high, b :: rest =>
    if low ≤ b ∧ b ≤ high then
      let split := splitTails n 0x80 0xBF rest
      (b :: split.1, split.2)
    else ([], b :: rest)

/-- The character that a first byte's bits and its continuation bytes spell. -/
def join (bits : Nat) (tails : Bytes) : Char :=
  Char.ofNat (tails.foldl (fun value tail => value * 64 + (tail.toNat - 0x80)) bits)

/-- One step of reading: a character, or `none` for a piece that is not one, and what remains. -/
def next (b : UInt8) (rest : Bytes) : Option Char × Bytes :=
  if b < 0x80 then (some (Char.ofNat b.toNat), rest)
  else match lead? b with
    | none => (none, rest)
    | some lead =>
      let split := splitTails lead.tails lead.low lead.high rest
      (if split.1.length = lead.tails then some (join lead.bits split.1) else none, split.2)

theorem splitTails_length (n : Nat) (low high : UInt8) (rest : Bytes) :
    (splitTails n low high rest).2.length ≤ rest.length := by
  induction n generalizing low high rest with
  | zero => simp [splitTails]
  | succ n ih =>
    cases rest with
    | nil => simp [splitTails]
    | cons b rest =>
      simp only [splitTails]
      split
      · exact Nat.le_succ_of_le (ih _ _ _)
      · exact Nat.le_refl _

theorem next_length (b : UInt8) (rest : Bytes) : (next b rest).2.length ≤ rest.length := by
  unfold next
  split
  · exact Nat.le_refl _
  · split
    · exact Nat.le_refl _
    · exact splitTails_length _ _ _ _

/-- The characters of some bytes, in order, with `none` for each piece that is not one. -/
def decode : Bytes → List (Option Char)
  | [] => []
  | b :: rest => (next b rest).1 :: decode (next b rest).2
termination_by bytes => bytes.length
decreasing_by exact Nat.lt_succ_of_le (next_length b rest)

/-- The text of some bytes, with U+FFFD for each piece that is not a character. -/
def decodeLossy (bytes : Bytes) : String :=
  String.ofList ((decode bytes).map (·.getD '\uFFFD'))

/-- The text of some bytes, if every piece of them is a character. -/
def decode? (bytes : Bytes) : Option String :=
  ((decode bytes).mapM id).map String.ofList

end Utf8

/-- The bytes before the first NUL, where the engine's strings end. -/
def Bytes.untilNul (bytes : Bytes) : Bytes :=
  bytes.takeWhile (· != 0)

/-- The position of the first NUL, if there is one. -/
def Bytes.nulPosition? (bytes : Bytes) : Option Nat :=
  bytes.findIdx? (· == 0)

end SourceAtlas
