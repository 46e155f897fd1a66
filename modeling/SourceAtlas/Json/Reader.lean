import SourceAtlas.Decimal.Shortest
import SourceAtlas.Json.Failure

/-!
# Reading JSON texts

A reader takes what it expects from the front of a text and fails with the reason and the place
otherwise. Readers are built for the type that is wanted, so a refusal says what was expected where.
A value that nobody asks for is read by `ignored`, which only checks the grammar.

A failure has its place in bytes: at the character that was looked at (`failAtNext`), or before it
(`failHere`). The expectations of the wanted type fail without a place; `located` gives them the one
that reading has reached by then.
-/

namespace SourceAtlas.Json

/-- A text that is being read. -/
structure Source where
  rest : List Char
  position : Position := {}
deriving DecidableEq, Repr

namespace Source

/-- The place after one more byte. -/
def peekPosition (source : Source) : Position :=
  match source.rest with
  | [] => source.position
  | '\n' :: _ => ⟨source.position.line + 1, 0⟩
  | _ => ⟨source.position.line, source.position.column + 1⟩

/-- The text after one more character. -/
def next (source : Source) : Source :=
  match source.rest with
  | [] => source
  | c :: rest =>
    if c = '\n' then ⟨rest, ⟨source.position.line + 1, 0⟩⟩
    else ⟨rest, ⟨source.position.line, source.position.column + c.utf8Size⟩⟩

/-- The text after at most `n` more bytes, which must not split a character that is read later. -/
def skipBytes : Nat → Source → Source
  | 0, source => source
  | n + 1, source =>
    match source.rest with
    | [] => source
    | c :: rest =>
      if c.utf8Size ≤ n + 1 then skipBytes (n + 1 - c.utf8Size) source.next
      else ⟨c :: rest, ⟨source.position.line, source.position.column + (n + 1)⟩⟩
termination_by n => n
decreasing_by
  have := c.utf8Size_pos
  omega

end Source

/-- Readers of a value. -/
abbrev Reader := ExceptT Failure (StateM Source)

namespace Reader

def failHere (cause : Cause) : Reader α := do
  throw ⟨cause, some (← getThe Source).position⟩

def failAtNext (cause : Cause) : Reader α := do
  throw ⟨cause, some (← getThe Source).peekPosition⟩

/-- Fails without a place. -/
def refuse (cause : Cause) : Reader α :=
  throw ⟨cause, none⟩

/-- The next character, which stays in the text. -/
def peek : Reader (Option Char) :=
  return (← getThe Source).rest.head?

def skip : Reader Unit :=
  modifyThe Source Source.next

def isBlank (c : Char) : Bool :=
  c == ' ' || c == '\n' || c == '\t' || c == '\r'

/-- The text after the blanks at its front. -/
def afterBlanks (rest : List Char) (position : Position) : Source :=
  match rest with
  | [] => ⟨[], position⟩
  | c :: tail =>
    if isBlank c then
      afterBlanks tail (if c = '\n' then ⟨position.line + 1, 0⟩
        else ⟨position.line, position.column + 1⟩)
    else ⟨c :: tail, position⟩

/-- The next character that is not blank, which stays in the text. -/
def peekValue : Reader (Option Char) := do
  modifyThe Source fun source => afterBlanks source.rest source.position
  peek

/-- The outcome of a reader, as a value. -/
def attempt (reader : Reader α) : Reader (Except Failure α) :=
  ExceptT.lift reader.run

/-- Gives a failure without a place the place that reading has reached. -/
def located (reader : Reader α) : Reader α := do
  match ← attempt reader with
  | .ok a => pure a
  | .error failure =>
    let position := (← getThe Source).position
    throw { failure with position := some (failure.position.getD position) }

/-! ## Words, numbers and texts -/

/-- The rest of a word whose first letter has been read. -/
def word : List Char → Reader Unit
  | [] => pure ()
  | c :: cs => do
    match ← peek with
    | none => failHere .endInValue
    | some d => if d = c then skip; word cs else failAtNext .expectedIdent

/-- A number as it is read: whole as long as it fits into 64 bits. -/
inductive Number where
  | natural (n : Nat)
  | negative (n : Nat)
  | float (x : Float)

def Number.found : Number → Found
  | .natural n => .integer n
  | .negative n => .integer (-n)
  | .float x => .float (Decimal.floatText Decimal.plain x)

def digit? (c : Char) : Option Nat :=
  if c.isDigit then some (c.toNat - '0'.toNat) else none

/-- A run of digits: their value after `value` and how many they are. -/
def digitRun (rest : List Char) (value count : Nat) : Nat × Nat :=
  match rest with
  | [] => (value, count)
  | c :: rest =>
    match digit? c with
    | none => (value, count)
    | some d => digitRun rest (value * 10 + d) (count + 1)

/-- Takes a run of digits from the text. -/
def digits : Reader (Nat × Nat) := do
  let (value, count) := digitRun (← getThe Source).rest 0 0
  modifyThe Source fun source => ⟨source.rest.drop count,
    ⟨source.position.line, source.position.column + count⟩⟩
  pure (value, count)

/-- Digits are taken into a 64-bit significand as long as it does not overflow; the rest of them
only count. The result is the significand and the number of digits left out. -/
def significand (rest : List Char) (count : Nat) (value : Nat) : Nat × Nat :=
  match count, rest with
  | 0, _ => (value, 0)
  | _, [] => (value, 0)
  | count + 1, c :: rest =>
    let grown := value * 10 + (digit? c).getD 0
    if grown < UInt64.size then significand rest count grown else (value, count + 1)

/-- `significand * 10 ^ exponent` by repeated scaling in steps that a float can hold. -/
def scale : Nat → Float → Int → Option Float
  | 0, _, _ => some 0
  | steps + 1, x, exponent =>
    if exponent.natAbs ≤ 308 then
      let power := Float.ofScientific 1 false exponent.natAbs
      if 0 ≤ exponent then
        let y := x * power
        if y.isInf then none else some y
      else some (x / power)
    else if x == 0 then some x
    else if 0 ≤ exponent then none
    else scale steps (x / Float.ofScientific 1 false 308) (exponent + 308)

def floatOf (negative : Bool) (significand : Nat) (exponent : Int) : Reader Number := do
  match scale 5 (UInt64.ofNat significand).toFloat exponent with
  | none => failHere .numberOutOfRange
  | some x => pure (.float (if negative then -x else x))

/-- Exponents have to be below this. -/
def exponentLimit : Nat := 0x80000000

/-- The exponent of a number, from its letter on. -/
def exponentPart (negative : Bool) (significand : Nat) (exponent : Int) : Reader Number := do
  skip
  let sign ← peek
  let down := sign == some '-'
  if sign == some '+' || down then skip
  match ← peek with
  | none => failHere .endInValue
  | some c =>
    if (digit? c).isNone then failAtNext .invalidNumber
    else
      let rest := (← getThe Source).rest
      let (value, _) ← digits
      if exponentLimit ≤ value then
        if significand != 0 && !down then
          -- the reason arises at the digit that overflows
          let taken := (List.range rest.length).find? fun n =>
            exponentLimit ≤ (digitRun (rest.take (n + 1)) 0 0).1
          let back := (digitRun rest 0 0).2 - (taken.getD 0 + 1)
          let position := (← getThe Source).position
          throw ⟨.numberOutOfRange, some { position with column := position.column - back }⟩
        else pure (.float (if negative then -0.0 else 0.0))
      else floatOf negative significand (if down then exponent - value else exponent + value)

def exponentOrEnd (negative : Bool) (significand : Nat) (exponent : Int) : Reader Number := do
  match ← peek with
  | some 'e' | some 'E' => exponentPart negative significand exponent
  | _ => floatOf negative significand exponent

/-- The fraction of a number, from its point on. -/
def fractionPart (negative : Bool) (value : Nat) (exponent : Int) : Reader Number := do
  skip
  let rest := (← getThe Source).rest
  let (_, count) ← digits
  if count = 0 then
    match ← peek with
    | some _ => failAtNext .invalidNumber
    | none => failAtNext .endInValue
  else
    let (value, left) := significand rest count value
    exponentOrEnd negative value (exponent - ((count - left : Nat) : Int))

/-- A number, after its sign. -/
def number (negative : Bool) : Reader Number := do
  match ← peek with
  | none => failHere .endInValue
  | some c =>
    if (digit? c).isNone then failAtNext .invalidNumber
    else
      let rest := (← getThe Source).rest
      let (value, count) ←
        if c = '0' then do
          skip
          match (← peek).bind digit? with
          | some _ => failAtNext .invalidNumber
          | none => pure (0, 1)
        else digits
      let (head, left) := significand rest count 0
      match ← peek with
      | some '.' => fractionPart negative head left
      | some 'e' | some 'E' => exponentPart negative head left
      | _ =>
        if left != 0 then floatOf negative head left
        else if !negative then pure (.natural value)
        else if value = 0 ∨ 0x8000000000000000 < value then
          pure (.float (-(UInt64.ofNat value).toFloat))
        else pure (.negative value)

def hexDigit? (c : Char) : Option Nat :=
  if c.isDigit then some (c.toNat - '0'.toNat)
  else if 'a' ≤ c ∧ c ≤ 'f' then some (c.toNat - 'a'.toNat + 10)
  else if 'A' ≤ c ∧ c ≤ 'F' then some (c.toNat - 'A'.toNat + 10)
  else none

/-- Four hexadecimal digits. -/
def hexFour : Reader Nat := do
  let source ← getThe Source
  match source.rest with
  | a :: b :: c :: d :: _ =>
    match hexDigit? a, hexDigit? b, hexDigit? c, hexDigit? d with
    | some a, some b, some c, some d =>
      modifyThe Source (Source.skipBytes 4)
      pure (((a * 16 + b) * 16 + c) * 16 + d)
    | _, _, _, _ => broken
  | _ => broken
where
  /-- Four bytes that are not digits, or fewer than four. -/
  broken : Reader Nat := do
    let source ← getThe Source
    let bytes := (source.rest.take 4).foldl (fun n c => n + c.utf8Size) 0
    modifyThe Source (Source.skipBytes 4)
    if bytes < 4 then failHere .endInString else failHere .invalidEscape

/-- The rest of an escape by code, after `\u`. A character outside the basic plane takes two. -/
def unicodeEscape : Reader Char := do
  let n ← hexFour
  if 0xDC00 ≤ n ∧ n ≤ 0xDFFF then failHere .loneSurrogate
  else if 0xD800 ≤ n ∧ n ≤ 0xDBFF then
    required '\\'
    required 'u'
    let low ← hexFour
    if low < 0xDC00 ∨ 0xDFFF < low then failHere .loneSurrogate
    else pure (Char.ofNat ((n - 0xD800) * 0x400 + (low - 0xDC00) + 0x10000))
  else pure (Char.ofNat n)
where
  /-- A character of the second escape of a pair. -/
  required (c : Char) : Reader Unit := do
    match ← peek with
    | none => failHere .endInString
    | some d => if d = c then skip else failAtNext .endOfHexEscape

/-- An escape, after its backslash. -/
def escape : Reader Char := do
  match ← peek with
  | none => failHere .endInString
  | some 'u' => skip; unicodeEscape
  | some '"' => skip; pure '"'
  | some '\\' => skip; pure '\\'
  | some '/' => skip; pure '/'
  | some 'b' => skip; pure '\x08'
  | some 'f' => skip; pure '\x0c'
  | some 'n' => skip; pure '\n'
  | some 'r' => skip; pure '\r'
  | some 't' => skip; pure '\t'
  | some _ => failAtNext .invalidEscape

/-- The rest of a text, after its opening quote. Each turn takes at least one character, so the
length of what remains bounds the turns. -/
def textTail : Nat → List Char → Reader String
  | 0, _ => failHere .endInString
  | turns + 1, done => do
    match ← peek with
    | none => failHere .endInString
    | some '"' => skip; pure (String.ofList done.reverse)
    | some '\\' => skip; let c ← escape; textTail turns (c :: done)
    | some c =>
      if c < ' ' then failAtNext .controlCharacter
      else skip; textTail turns (c :: done)

/-- A text, after its opening quote. -/
def textBody : Reader String := do
  textTail ((← getThe Source).rest.length + 1) []

/-! ## Values of an expected type -/

/-- What stands at the front of the text, as the reason why it is not what was expected. -/
def unexpected (expected : String) : Reader α := located do
  match ← peek with
  | some 'n' => skip; word ['u', 'l', 'l']; refuse (.invalidType .null expected)
  | some 't' => skip; word ['r', 'u', 'e']; refuse (.invalidType (.bool true) expected)
  | some 'f' => skip; word ['a', 'l', 's', 'e']; refuse (.invalidType (.bool false) expected)
  | some '-' => skip; refuse (.invalidType (← number true).found expected)
  | some '"' => skip; refuse (.invalidType (.string (← textBody)) expected)
  | some '[' => refuse (.invalidType .sequence expected)
  | some '\x7b' => refuse (.invalidType .map expected)
  | some c =>
    if c.isDigit then refuse (.invalidType (← number false).found expected)
    else failAtNext .expectedValue
  | none => failAtNext .expectedValue

/-- A text that is then judged by `accept`. -/
def textAs (expected : String) (accept : String → Reader α) : Reader α := do
  match ← peekValue with
  | none => failAtNext .endInValue
  | some '"' => skip; let s ← textBody; located (accept s)
  | some _ => unexpected expected

def text (expected : String) : Reader String :=
  textAs expected pure

def bool : Reader Bool := do
  match ← peekValue with
  | none => failAtNext .endInValue
  | some 't' => skip; word ['r', 'u', 'e']; pure true
  | some 'f' => skip; word ['a', 'l', 's', 'e']; pure false
  | some _ => unexpected "a boolean"

/-- The value null, which carries nothing. -/
def unit : Reader Unit := do
  match ← peekValue with
  | none => failAtNext .endInValue
  | some 'n' => skip; word ['u', 'l', 'l']
  | some _ => unexpected "unit"

/-! ## Values that nobody asks for -/

/-- The rest of a number that only has to be well formed, after its sign. -/
def ignoredNumber : Reader Unit := do
  match ← peek with
  | some '0' =>
    skip
    if ((← peek).bind digit?).isSome then failAtNext .invalidNumber
  | some c => if c.isDigit then discard digits else failAtNext .invalidNumber
  | none => failHere .invalidNumber
  match ← peek with
  | some '.' =>
    skip
    let (_, count) ← digits
    if count = 0 then failAtNext .invalidNumber
    match ← peek with
    | some 'e' | some 'E' => ignoredExponent
    | _ => pure ()
  | some 'e' | some 'E' => ignoredExponent
  | _ => pure ()
where
  ignoredExponent : Reader Unit := do
    skip
    match ← peek with
    | some '+' | some '-' => skip
    | _ => pure ()
    match ← peek with
    | some c => if c.isDigit then discard digits else failAtNext .invalidNumber
    | none => failHere .invalidNumber

/-- The rest of a text that only has to be well formed, after its opening quote. -/
def ignoredText : Nat → Reader Unit
  | 0 => failHere .endInString
  | turns + 1 => do
    match ← peek with
    | none => failHere .endInString
    | some '"' => skip
    | some '\\' =>
      skip
      match ← peek with
      | none => failHere .endInString
      | some 'u' => skip; discard hexFour
      | some c =>
        if "\"\\/bfnrt".contains c then skip else failAtNext .invalidEscape
      ignoredText turns
    | some c => if c < ' ' then failHere .controlCharacter else skip; ignoredText turns

mutual

/-- A value that only has to be well formed. Every call takes a character, so the length of what
remains bounds the depth of the calls. -/
def ignored : Nat → Reader Unit
  | 0 => failAtNext .endInValue
  | turns + 1 => do
    match ← peekValue with
    | none => failAtNext .endInValue
    | some 'n' => skip; word ['u', 'l', 'l']
    | some 't' => skip; word ['r', 'u', 'e']
    | some 'f' => skip; word ['a', 'l', 's', 'e']
    | some '-' => skip; ignoredNumber
    | some '"' => skip; ignoredText turns
    | some '[' => skip; ignoredItems turns true
    | some '\x7b' => skip; ignoredFields turns true
    | some c => if c.isDigit then ignoredNumber else failAtNext .expectedValue

/-- The rest of a list that only has to be well formed. -/
def ignoredItems : Nat → Bool → Reader Unit
  | 0, _ => failAtNext .endInList
  | turns + 1, first => do
    match ← peekValue with
    | none => failAtNext .endInList
    | some ']' => skip
    | some ',' =>
      if first then failAtNext .expectedValue
      else skip; ignored turns; ignoredItems turns false
    | some _ =>
      if first then ignored turns; ignoredItems turns false
      else failAtNext .expectedListEnd

/-- The rest of an object that only has to be well formed. -/
def ignoredFields : Nat → Bool → Reader Unit
  | 0, _ => failAtNext .endInObject
  | turns + 1, first => do
    match ← peekValue with
    | none => failAtNext .endInObject
    | some '\x7d' => skip
    | some c =>
      if first then ignoredField turns
      else if c = ',' then skip; ignoredField turns
      else failAtNext .expectedObjectEnd

/-- A key and its value, and the rest of the object around them. -/
def ignoredField : Nat → Reader Unit
  | 0 => failAtNext .endInObject
  | turns + 1 => do
    match ← peekValue with
    | some '"' => skip
    | some _ => failAtNext .keyNotString
    | none => failAtNext .endInObject
    ignoredText turns
    match ← peekValue with
    | some ':' => skip
    | some _ => failAtNext .expectedColon
    | none => failAtNext .endInObject
    ignored turns
    ignoredFields turns false

end

/-- A value that only has to be well formed. -/
def ignoredValue : Reader Unit := do
  ignored (2 * (← getThe Source).rest.length + 2)

/-! ## Lists, objects and enumerations -/

/-- Whether another element follows in a list; `first` before any has been read. -/
def anotherItem (first : Bool) : Reader Bool := do
  match ← peekValue with
  | none => failAtNext .endInList
  | some ']' => pure false
  | some c =>
    if first then pure true
    else if c = ',' then
      skip
      match ← peekValue with
      | some ']' => failAtNext .trailingComma
      | some _ => pure true
      | none => failAtNext .endInValue
    else failAtNext .expectedListEnd

/-- Whether another key follows in an object; `first` before any has been read. -/
def anotherKey (first : Bool) : Reader Bool := do
  match ← peekValue with
  | none => failAtNext .endInObject
  | some '\x7d' => pure false
  | some c =>
    if first then
      if c = '"' then pure true else failAtNext .keyNotString
    else if c = ',' then
      skip
      match ← peekValue with
      | some '"' => pure true
      | some '\x7d' => failAtNext .trailingComma
      | some _ => failAtNext .keyNotString
      | none => failAtNext .endInValue
    else failAtNext .expectedObjectEnd

/-- A key that is there, according to `anotherKey`. -/
def key : Reader String := do
  skip
  textBody

/-- The colon between a key and its value. -/
def colon : Reader Unit := do
  match ← peekValue with
  | some ':' => skip
  | some _ => failAtNext .expectedColon
  | none => failAtNext .endInObject

def listEnd : Reader Unit := do
  match ← peekValue with
  | some ']' => skip
  | some ',' =>
    skip
    match ← peekValue with
    | some ']' => failAtNext .trailingComma
    | _ => failAtNext .trailingCharacters
  | some _ => failAtNext .trailingCharacters
  | none => failAtNext .endInList

def objectEnd : Reader Unit := do
  match ← peekValue with
  | some '\x7d' => skip
  | some ',' => failAtNext .trailingComma
  | some _ => failAtNext .trailingCharacters
  | none => failAtNext .endInObject

/-- Reads what is inside brackets and then their end. The end is looked for even after a failure
inside: a failure without a place gets the place that is reached by then. -/
def enclosed (inside : Reader α) (close : Reader Unit) : Reader α := located do
  skip
  let inside ← attempt inside
  let close ← attempt close
  match inside, close with
  | .ok a, .ok () => pure a
  | .error failure, _ => throw failure
  | .ok _, .error failure => throw failure

/-- The elements of a list, from the next one on. -/
def itemsTail (item : Reader α) : Nat → Bool → Reader (List α)
  | 0, _ => pure []
  | turns + 1, first => do
    if ← anotherItem first then
      let a ← item
      return a :: (← itemsTail item turns false)
    else pure []

/-- A list. -/
def list (item : Reader α) : Reader (List α) := do
  match ← peekValue with
  | none => failAtNext .endInValue
  | some '[' => enclosed (do itemsTail item ((← getThe Source).rest.length + 1) true) listEnd
  | some _ => unexpected "a sequence"

/-- The next element of a list that is read element by element; none at its end. -/
def item? (first : Bool) (item : Reader α) : Reader (Option α) := do
  if ← anotherItem first then some <$> item else pure none

/-- The fields of an object, from the next key on: `field` reads the value of a key into what has
been read so far. -/
def fieldsTail (field : String → σ → Reader σ) : Nat → Bool → σ → Reader σ
  | 0, _, done => pure done
  | turns + 1, first, done => do
    if ← anotherKey first then
      let name ← key
      let done ← field name done
      fieldsTail field turns false done
    else pure done

def fields (field : String → σ → Reader σ) (start : σ) : Reader σ := do
  fieldsTail field ((← getThe Source).rest.length + 1) true start

/-- The value of a field that may stand once. -/
def once (name : String) (already : Bool) (value : Reader α) : Reader α := do
  if already then refuse (.duplicateField name)
  else colon; value

/-- The value of a field without a meaning. -/
def unknownField : Reader Unit := do
  colon
  ignoredValue

/-- A record, written as an object or as the list of its fields in order. -/
def record (expected : String) (ofList ofObject : Reader α) : Reader α := do
  match ← peekValue with
  | none => failAtNext .endInValue
  | some '[' => enclosed ofList listEnd
  | some '\x7b' => enclosed ofObject objectEnd
  | some _ => unexpected expected

/-- One of some names, written as a text or as the key of an object with the single value null. -/
def variant (names : List (String × α)) : Reader α := do
  match ← peekValue with
  | none => failAtNext .endInValue
  | some '"' => name
  | some '\x7b' =>
    skip
    if ← anotherKey true then
      let a ← name
      colon
      unit
      match ← peekValue with
      | some '\x7d' => skip; pure a
      | some _ => failHere .expectedValue
      | none => failHere .endInObject
    else failAtNext .expectedValue
  | some _ => failAtNext .expectedValue
where
  name : Reader α :=
    textAs "variant identifier" fun s =>
      match names.find? (·.1 == s) with
      | some (_, a) => pure a
      | none => refuse (.unknownVariant s (names.map (·.1)))

/-- Reads a whole text. -/
def run (reader : Reader α) (text : String) : Except Failure α :=
  let whole : Reader α := do
    let a ← reader
    match ← peekValue with
    | some _ => failAtNext .trailingCharacters
    | none => pure a
  (StateT.run (ExceptT.run whole) ⟨text.toList, {}⟩).1

end Reader

end SourceAtlas.Json
