import SourceAtlas.Text.Combining
import SourceAtlas.Text.Emoji
import SourceAtlas.Text.Ligature
import SourceAtlas.Text.Wide

/-!
# The width of text

How many columns of a terminal a line of text takes. Most characters take one, some two and some
none. A character can also be drawn together with those after it, so a line is read from its end:
the state says what the characters after the present one begin with.
-/

namespace SourceAtlas.Text

/-- What the characters after a place begin with, as far as it matters for the character there. -/
inductive Following where
  | plain
  | lineFeed
  /-- An Arabic alef, perhaps after marks. A lam before it is drawn together with it. -/
  | alef
  /-- The last character of a ligature of another script. -/
  | hebrewLamed | bugineseYa | bugineseVowel | khmerLetter | tifinaghLetter | tifinaghJoined
  | lisuTone | turkicI
  /-- A vowel sign of Kirat Rai, which can be the end of a longer one. -/
  | kiratRaiE | kiratRaiAi
  /-- A picture, and a modifier of the picture before it. -/
  | picture | modifier
  /-- One letter that stands for a region, and more of them. Two make a flag. -/
  | regionLetter | regionLetters
  /-- A joiner and a picture. What stands before it is drawn together with the picture. -/
  | joinedPicture
  /-- The frame of a key, a joiner and a picture. -/
  | joinedKey
  /-- Letters that stand for a region, a joiner and a picture: one letter, then pairs of letters
  without and with a letter left over. -/
  | joinedLetter | joinedPairs | joinedPairsAndLetter
  /-- The tags that end the name of a region on a flag, a joiner and a picture: how many letters
  there are, or how many digits. -/
  | regionTags (letters : Nat)
  | regionDigitTags (digits : Nat)
deriving DecidableEq, Repr

/-- A selector of the way in which the character before it is drawn. -/
inductive Selector where
  | asPicture | asText
  /-- Asks for the wide form of a quotation mark. -/
  | asWide
deriving DecidableEq, Repr

/-- The state of reading a line from its end. -/
structure WidthState where
  following : Following := .plain
  /-- Whether a joiner stands before the last character of a ligature. -/
  joined : Bool := false
  asPicture : Bool := false
  asText : Bool := false
  asWide : Bool := false
deriving DecidableEq, Repr

/-- The selector that a character is. -/
def Selector.ofChar? (c : Char) : Option Selector :=
  if c == '\uFE0F' then some .asPicture
  else if c == '\uFE0E' then some .asText
  else if c == '\uFE01' then some .asWide
  else none

namespace Following

/-- Whether marks and joiners can stand before the last character of a ligature. -/
def isLigatureEnd : Following → Bool
  | .hebrewLamed | .bugineseYa | .bugineseVowel | .khmerLetter | .tifinaghLetter
  | .tifinaghJoined | .lisuTone | .turkicI => true
  | _ => false

/-- Whether a selector leaves it as it is. Before anything else a selector stands for itself. -/
def outlivesSelector (following : Following) : Bool :=
  following == .alef || following.isLigatureEnd

/-- Whether a character that a selector makes a picture joins the picture after it. -/
def joinsSelected (following : Following) : Bool :=
  following == .joinedPicture || following == .joinedKey

end Following

namespace WidthState

/-- The state before a selector. -/
def select (state : WidthState) (selector : Selector) : WidthState :=
  let kept := if state.following.outlivesSelector then state else {}
  match selector with
  | .asPicture =>
    if state.following.joinsSelected then { following := state.following, asPicture := true }
    else { kept with asPicture := true }
  | .asText => { kept with asText := true }
  | .asWide => { kept with asWide := true }

/-- The state before a selector of pictures that stands after no character with such a form. -/
def unselect (state : WidthState) : WidthState :=
  if !state.asPicture then state
  else if state.following.outlivesSelector then { state with asPicture := false }
  else {}

end WidthState

namespace Width

/-- The letters that stand for a region in pairs. -/
def isRegionLetter (c : Char) : Bool :=
  0x1F1E6 ≤ c.toNat && c.toNat ≤ 0x1F1FF

def isPictureModifier (c : Char) : Bool :=
  0x1F3FB ≤ c.toNat && c.toNat ≤ 0x1F3FF

def isLetterTag (c : Char) : Bool :=
  0xE0061 ≤ c.toNat && c.toNat ≤ 0xE007A

def isDigitTag (c : Char) : Bool :=
  0xE0030 ≤ c.toNat && c.toNat ≤ 0xE0039

/-- The tag that ends a name in tags. -/
def isEndTag (c : Char) : Bool :=
  c.toNat == 0xE007F

/-- The flag that a name in tags can follow. -/
def isBlackFlag (c : Char) : Bool :=
  c.toNat == 0x1F3F4

/-- The quotation marks with a wide form. -/
def isQuotationMark (c : Char) : Bool :=
  between '\u2018' '\u2019' c || between '\u201C' '\u201D' c

/-- The width of a character by itself. Controls are counted as one column. -/
def ofChar (c : Char) : Nat :=
  if c ≤ '\u00A0' then 1
  else if c == '\u2D7F' then 1
  else if c == '\u115F' || c == '\u17A4' then 2
  else if c == '\u17D8' then 3
  else if ignorable.contains c || combining.contains c || syllableTails.contains c ||
      overlaid.contains c || keptForMarks.contains c then 0
  else if wide.contains c || keptForWide.contains c then 2
  else 1

/-- What a character begins. -/
def begins (c : Char) : Following :=
  if isArabicAlef c then .alef
  else if c == '\u05DC' then .hebrewLamed
  else if c == '\u1A10' then .bugineseYa
  else if isKhmerLetter c then .khmerLetter
  else if isTifinaghLetter c then .tifinaghLetter
  else if c == '\uA4FC' || c == '\uA4FD' then .lisuTone
  else if c.toNat == 0x10C03 then .turkicI
  else if c.toNat == 0x16D67 then .kiratRaiE
  else if c.toNat == 0x16D68 then .kiratRaiAi
  else if isRegionLetter c then .regionLetter
  else if isPictureModifier c then .modifier
  else if pictures.contains c then .picture
  else .plain

/-- Whether an Arabic ligature reaches over a character: it takes no column, and letters on both
sides of it join. -/
def isReachedOver (c : Char) : Bool :=
  ofChar c == 0 && !keepsApart.contains c

/-- The columns that a character adds to those after it, and what it and they begin with, if it is
drawn together with what follows. -/
def together? (following : Following) (joined : Bool) (c : Char) : Option (Int × Following) :=
  match following with
  | .plain | .lineFeed => none
  | .alef =>
    if isArabicLam c then some (0, .plain)
    else if isReachedOver c then some (0, .alef)
    else none
  | .hebrewLamed => if joined && c == '\u05D0' then some (0, .plain) else none
  | .bugineseYa => if joined && c == '\u1A17' then some (0, .bugineseVowel) else none
  | .bugineseVowel => if c == '\u1A15' then some (0, .plain) else none
  | .khmerLetter => if c == '\u17D2' then some (-1, .plain) else none
  | .tifinaghLetter =>
    if c == '\u2D7F' then some (1, .tifinaghJoined)
    else if joined && isTifinaghLetter c then some (0, .plain)
    else none
  | .tifinaghJoined => if isTifinaghLetter c then some (-1, .plain) else none
  | .lisuTone => if between '\uA4F8' '\uA4FB' c then some (0, .plain) else none
  | .turkicI => if joined && c.toNat == 0x10C32 then some (0, .plain) else none
  | .kiratRaiE =>
    if c.toNat == 0x16D63 || c.toNat == 0x16D69 then some (0, .plain)
    else if c.toNat == 0x16D67 then some (0, .kiratRaiAi)
    else if c.toNat == 0x16D68 then some (1, .kiratRaiE)
    else none
  | .kiratRaiAi => if c.toNat == 0x16D63 then some (0, .plain) else none
  | .picture => if c == '\u200D' then some (0, .joinedPicture) else none
  | .modifier =>
    if modifiable.contains c then some (0, .picture)
    else if c == '\u200D' then some (0, .joinedPicture)
    else none
  | .regionLetter => if isRegionLetter c then some (1, .regionLetters) else none
  | .regionLetters =>
    if isRegionLetter c then some (1, .regionLetters)
    else if c == '\u200D' then some (0, .joinedPicture)
    else none
  | .joinedPicture =>
    if c == '\u20E3' then some (0, .joinedKey)
    else if isRegionLetter c then some (1, .joinedLetter)
    else if isEndTag c then some (0, .regionTags 0)
    else if isPictureModifier c then some (0, .modifier)
    else if pictures.contains c then some (0, .picture)
    else none
  | .joinedKey => none
  | .joinedLetter => if isRegionLetter c then some (-1, .joinedPairs) else none
  | .joinedPairs =>
    if isRegionLetter c then some (3, .joinedPairsAndLetter)
    else if c == '\u200D' then some (0, .joinedPicture)
    else none
  | .joinedPairsAndLetter =>
    if isRegionLetter c then some (-3, .joinedPairs)
    else if c == '\u200D' then some (0, .joinedPicture)
    else none
  | .regionTags letters =>
    if isLetterTag c && letters < 6 then some (0, .regionTags (letters + 1))
    else if isDigitTag c && letters < 5 then some (0, .regionDigitTags 1)
    else if isBlackFlag c && 3 ≤ letters then some (0, .picture)
    else none
  | .regionDigitTags digits =>
    if isDigitTag c && digits < 3 then some (0, .regionDigitTags (digits + 1))
    else if isBlackFlag c && digits == 3 then some (0, .picture)
    else none

/-- Whether a selector turns a picture into text that takes one column. -/
def hasNarrowText (c : Char) : Bool :=
  styled.contains c && pictures.contains c && !(0x1F200 ≤ c.toNat && c.toNat ≤ 0x1F2FF)

/-- The columns of a character after which no selector stands, and the state before it. -/
def stepUnselected (c : Char) (following : Following) (joined : Bool) : Int × WidthState :=
  if following.isLigatureEnd && c == '\u200D' then (0, { following, joined := true })
  else if following.isLigatureEnd && isTransparentMark c then (0, { following, joined })
  else
    match together? following joined c with
    | some (columns, following) => (columns, { following })
    | none => (ofChar c, { following := begins c })

/-- The columns that a character adds to those after it, and the state before it. -/
def step (c : Char) (state : WidthState) : Int × WidthState :=
  if state.asPicture && styled.contains c then
    (if state.following.joinsSelected then 0 else 2, { following := .picture })
  else
    let state := state.unselect
    if c == '\n' then (1, { following := .lineFeed })
    else if c == '\r' && state == { following := .lineFeed } then (0, {})
    else if c ≤ '\u00A0' then (1, {})
    else
      match Selector.ofChar? c with
      | some selector => (0, state.select selector)
      | none =>
        if state.asText && hasNarrowText c then (1, {})
        else if state.asWide && isQuotationMark c then (2, {})
        else stepUnselected c state.following state.joined

end Width

/-- The columns that a line takes. -/
def width (line : String) : Nat :=
  (line.toList.foldr (fun c (sum, state) =>
    let (columns, state) := Width.step c state
    (sum + columns, state)) ((0 : Int), ({} : WidthState))).1.toNat

end SourceAtlas.Text
