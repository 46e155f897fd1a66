import Mathlib.Data.String.Basic
import Mathlib.Data.UInt
import SourceAtlas.Text.Utf8

/-!
# Reading UTF-8

What `Utf8.decode` says about bytes, in terms of how characters are encoded. At each position it
reads the character whose encoding begins there. Where no encoding begins it reads, as one piece,
the longest beginning of an encoding, or a single byte if not even one byte begins any
(`decode_eq_iff`). So a text is read back from its encoding (`decodeLossy_encode`). The encodings of
texts are in the order of the texts (`encode_lt_iff`).
-/

namespace SourceAtlas.Utf8

variable {b : UInt8} {low high : UInt8} {n bits : Nat} {tails rest after : Bytes} {c : Char}

/-! ## What encodings look like -/

/-- Whether bytes can continue a character, when the first of them has to lie between two
bounds. -/
def Fits : UInt8 → UInt8 → Bytes → Prop
  | _, _, [] => True
  | low, high, b :: rest => low ≤ b ∧ b ≤ high ∧ Fits 0x80 0xBF rest

/-- The first bytes of characters of two bytes. -/
theorem lead?_two : ∀ bits < 32, 2 ≤ bits →
    lead? (UInt8.ofNat (bits + 0xC0)) = some { tails := 1, bits } := by
  decide

/-- The first bytes of characters of three bytes. What may follow excludes overlong forms and
surrogates. -/
theorem lead?_three : ∀ bits < 16, lead? (UInt8.ofNat (bits + 0xE0)) = some
    { tails := 2, bits, low := if bits = 0 then 0xA0 else 0x80
      high := if bits = 13 then 0x9F else 0xBF } := by
  decide

/-- The first bytes of characters of four bytes. What may follow excludes overlong forms and values
above U+10FFFF. -/
theorem lead?_four : ∀ bits < 5, lead? (UInt8.ofNat (bits + 0xF0)) = some
    { tails := 3, bits, low := if bits = 0 then 0x90 else 0x80
      high := if bits = 4 then 0x8F else 0xBF } := by
  decide

/-- There are no other first bytes. -/
theorem lead?_cases : ∀ b < 256, (lead? (UInt8.ofNat b)).isSome →
    (∃ bits < 32, 2 ≤ bits ∧ b = bits + 0xC0) ∨ (∃ bits < 16, b = bits + 0xE0) ∨
      ∃ bits < 5, b = bits + 0xF0 := by
  decide +kernel

theorem toNat_ofNat {m : Nat} (bound : m < 256) : (UInt8.ofNat m).toNat = m :=
  UInt8.toNat_ofNat_of_lt' bound

/-- A byte that carries six bits. -/
theorem continuation (m : Nat) :
    0x80 ≤ UInt8.ofNat (m % 64 + 0x80) ∧ UInt8.ofNat (m % 64 + 0x80) ≤ 0xBF := by
  rw [UInt8.le_iff_toNat_le, UInt8.le_iff_toNat_le, toNat_ofNat (by omega)]
  change 0x80 ≤ m % 64 + 0x80 ∧ m % 64 + 0x80 ≤ 0xBF
  omega

theorem le_continuation {p : Prop} [Decidable p] {m : Nat} (bound : p → low.toNat ≤ m % 64 + 0x80) :
    (if p then low else 0x80) ≤ UInt8.ofNat (m % 64 + 0x80) := by
  split
  next holds =>
    rw [UInt8.le_iff_toNat_le, toNat_ofNat (by omega)]
    exact bound holds
  next => exact (continuation m).1

theorem continuation_le {p : Prop} [Decidable p] {m : Nat}
    (bound : p → m % 64 + 0x80 ≤ high.toNat) :
    UInt8.ofNat (m % 64 + 0x80) ≤ if p then high else 0xBF := by
  split
  next holds =>
    rw [UInt8.le_iff_toNat_le, toNat_ofNat (by omega)]
    exact bound holds
  next => exact (continuation m).2

theorem encodeChar_ofNat {v : Nat} (valid : v.isValidChar) :
    String.utf8EncodeChar (Char.ofNat v) =
      if v ≤ 0x7F then [UInt8.ofNat v]
      else if v ≤ 0x7FF then [UInt8.ofNat (v / 64 % 32 + 0xC0), UInt8.ofNat (v % 64 + 0x80)]
      else if v ≤ 0xFFFF then [UInt8.ofNat (v / 4096 % 16 + 0xE0),
        UInt8.ofNat (v / 64 % 64 + 0x80), UInt8.ofNat (v % 64 + 0x80)]
      else [UInt8.ofNat (v / 262144 % 8 + 0xF0), UInt8.ofNat (v / 4096 % 64 + 0x80),
        UInt8.ofNat (v / 64 % 64 + 0x80), UInt8.ofNat (v % 64 + 0x80)] := by
  have same : (Char.ofNat v).val.toNat = v := by
    rw [Char.ofNat, dif_pos valid]
    rfl
  rw [String.utf8EncodeChar, same]

/-- A character is encoded as one byte, or as a first byte and what that byte promises. -/
theorem encodeChar_cases (c : Char) :
    (∃ b, b < 0x80 ∧ c = Char.ofNat b.toNat ∧ String.utf8EncodeChar c = [b]) ∨
      ∃ b lead tails, String.utf8EncodeChar c = b :: tails ∧ lead? b = some lead ∧
        tails.length = lead.tails ∧ Fits lead.low lead.high tails ∧ c = join lead.bits tails := by
  obtain ⟨v, valid, rfl⟩ : ∃ v, v.isValidChar ∧ c = Char.ofNat v :=
    ⟨c.toNat, c.valid, (Char.ofNat_toNat c).symm⟩
  rw [encodeChar_ofNat valid]
  have range : v < 0xD800 ∨ 0xDFFF < v ∧ v < 0x110000 := valid
  have last : (UInt8.ofNat (v % 64 + 0x80)).toNat = v % 64 + 0x80 := toNat_ofNat (by omega)
  have inner : (UInt8.ofNat (v / 64 % 64 + 0x80)).toNat = v / 64 % 64 + 0x80 :=
    toNat_ofNat (by omega)
  have outer : (UInt8.ofNat (v / 4096 % 64 + 0x80)).toNat = v / 4096 % 64 + 0x80 :=
    toNat_ofNat (by omega)
  split
  · left
    refine ⟨UInt8.ofNat v, ?_, ?_, rfl⟩
    · rw [UInt8.lt_iff_toNat_lt, toNat_ofNat (by omega)]
      change v < 0x80
      omega
    · rw [toNat_ofNat (by omega)]
  right
  split
  · refine ⟨_, _, _, rfl, lead?_two (v / 64 % 32) (by omega) (by omega), rfl, ?_, ?_⟩
    · exact ⟨(continuation v).1, (continuation v).2, trivial⟩
    · refine congrArg Char.ofNat ?_
      simp only [List.foldl, last]
      omega
  split
  · refine ⟨_, _, _, rfl, lead?_three (v / 4096 % 16) (by omega), rfl, ?_, ?_⟩
    · refine ⟨le_continuation fun overlong => ?_, continuation_le fun surrogate => ?_,
        (continuation v).1, (continuation v).2, trivial⟩
      · change 0xA0 ≤ v / 64 % 64 + 0x80
        omega
      · change v / 64 % 64 + 0x80 ≤ 0x9F
        omega
    · refine congrArg Char.ofNat ?_
      simp only [List.foldl, inner, last]
      omega
  · refine ⟨_, _, _, rfl, lead?_four (v / 262144 % 8) (by omega), rfl, ?_, ?_⟩
    · refine ⟨le_continuation fun overlong => ?_, continuation_le fun large => ?_,
        (continuation (v / 64)).1, (continuation (v / 64)).2, (continuation v).1,
        (continuation v).2, trivial⟩
      · change 0x90 ≤ v / 4096 % 64 + 0x80
        omega
      · change v / 4096 % 64 + 0x80 ≤ 0x8F
        omega
    · refine congrArg Char.ofNat ?_
      simp only [List.foldl, outer, inner, last]
      omega

theorem ofNat_eq {m : Nat} (same : m = b.toNat) : UInt8.ofNat m = b := by
  rw [same, UInt8.ofNat_toNat]

/-- What the bounds on a continuation byte say about its value. -/
theorem Fits.values (fits : Fits 0x80 0xBF (b :: rest)) :
    0x80 ≤ b.toNat ∧ b.toNat ≤ 0xBF ∧ Fits 0x80 0xBF rest :=
  ⟨UInt8.le_iff_toNat_le.1 fits.1, UInt8.le_iff_toNat_le.1 fits.2.1, fits.2.2⟩

theorem Fits.values_of_bounded {p q : Prop} [Decidable p] [Decidable q]
    (fits : Fits (if p then low else 0x80) (if q then high else 0xBF) (b :: rest))
    (below : 0x80 ≤ low) (above : high ≤ 0xBF) :
    (p → low.toNat ≤ b.toNat) ∧ (q → b.toNat ≤ high.toNat) ∧ Fits 0x80 0xBF (b :: rest) := by
  obtain ⟨least, greatest, fits⟩ := fits
  refine ⟨fun holds => ?_, fun holds => ?_, ?_, ?_, fits⟩
  · rw [if_pos holds] at least
    exact UInt8.le_iff_toNat_le.1 least
  · rw [if_pos holds] at greatest
    exact UInt8.le_iff_toNat_le.1 greatest
  · split at least
    · exact UInt8.le_trans below least
    · exact least
  · split at greatest
    · exact UInt8.le_trans greatest above
    · exact greatest

/-- What a first byte promises makes a character. -/
theorem encodeChar_join {lead : Lead} (leads : lead? b = some lead)
    (length : tails.length = lead.tails) (fits : Fits lead.low lead.high tails) :
    String.utf8EncodeChar (join lead.bits tails) = b :: tails := by
  have first : UInt8.ofNat b.toNat = b := UInt8.ofNat_toNat
  obtain ⟨bits, bound, least, same⟩ | ⟨bits, bound, same⟩ | ⟨bits, bound, same⟩ :=
    lead?_cases b.toNat b.toNat_lt (by rw [first, leads]; rfl)
  · rw [← first, same, lead?_two bits bound least] at leads
    obtain rfl := Option.some.inj leads
    obtain ⟨s, rfl⟩ := List.length_eq_one_iff.1 length
    obtain ⟨low, high, -⟩ := fits.values
    have value : join bits [s] = Char.ofNat (bits * 64 + (s.toNat - 0x80)) := rfl
    rw [value, encodeChar_ofNat (.inl (by omega)), if_neg (by omega), if_pos (by omega),
      @ofNat_eq b _ (by omega), @ofNat_eq s _ (by omega)]
  · rw [← first, same, lead?_three bits bound] at leads
    obtain rfl := Option.some.inj leads
    obtain ⟨s, t, rfl⟩ := List.length_eq_two.1 length
    obtain ⟨overlong, surrogate, fits⟩ := fits.values_of_bounded (by decide) (by decide)
    obtain ⟨low, high, fits⟩ := fits.values
    obtain ⟨low', high', -⟩ := fits.values
    -- the bounds on the second byte keep out what is shorter, and the surrogates
    change bits = 0 → 0xA0 ≤ s.toNat at overlong
    change bits = 13 → s.toNat ≤ 0x9F at surrogate
    have value : join bits [s, t] =
        Char.ofNat ((bits * 64 + (s.toNat - 0x80)) * 64 + (t.toNat - 0x80)) := rfl
    have valid : ((bits * 64 + (s.toNat - 0x80)) * 64 + (t.toNat - 0x80)).isValidChar := by
      change _ < 0xD800 ∨ 0xDFFF < _ ∧ _ < 0x110000
      omega
    rw [value, encodeChar_ofNat valid, if_neg (by omega), if_neg (by omega), if_pos (by omega),
      @ofNat_eq b _ (by omega), @ofNat_eq s _ (by omega), @ofNat_eq t _ (by omega)]
  · rw [← first, same, lead?_four bits bound] at leads
    obtain rfl := Option.some.inj leads
    obtain ⟨s, t, u, rfl⟩ := List.length_eq_three.1 length
    obtain ⟨overlong, large, fits⟩ := fits.values_of_bounded (by decide) (by decide)
    obtain ⟨low, high, fits⟩ := fits.values
    obtain ⟨low', high', fits⟩ := fits.values
    obtain ⟨low'', high'', -⟩ := fits.values
    -- here they keep out what is shorter, and what is beyond the last code point
    change bits = 0 → 0x90 ≤ s.toNat at overlong
    change bits = 4 → s.toNat ≤ 0x8F at large
    have value : join bits [s, t, u] = Char.ofNat (((bits * 64 + (s.toNat - 0x80)) * 64 +
        (t.toNat - 0x80)) * 64 + (u.toNat - 0x80)) := rfl
    have valid : (((bits * 64 + (s.toNat - 0x80)) * 64 + (t.toNat - 0x80)) * 64 +
        (u.toNat - 0x80)).isValidChar := by
      change _ < 0xD800 ∨ 0xDFFF < _ ∧ _ < 0x110000
      omega
    rw [value, encodeChar_ofNat valid, if_neg (by omega), if_neg (by omega), if_neg (by omega),
      @ofNat_eq b _ (by omega), @ofNat_eq s _ (by omega), @ofNat_eq t _ (by omega),
      @ofNat_eq u _ (by omega)]

/-- A byte that begins no longer character is a character if it is below 0x80. -/
theorem lead?_eq_none (small : b < 0x80) : lead? b = none := by
  have below : b < 0xC2 := UInt8.lt_of_lt_of_le small (by decide)
  rw [lead?, if_pos below]

/-- The encoding of each character, by its first byte. -/
theorem encodeChar_eq_cons_iff : String.utf8EncodeChar c = b :: tails ↔
    (b < 0x80 ∧ c = Char.ofNat b.toNat ∧ tails = []) ∨
      ∃ lead, lead? b = some lead ∧ tails.length = lead.tails ∧ Fits lead.low lead.high tails ∧
        c = join lead.bits tails := by
  constructor
  · intro encoded
    obtain ⟨b', small, same, single⟩ | ⟨b', lead, tails', several, rest⟩ := encodeChar_cases c
    · rw [single] at encoded
      cases encoded
      exact .inl ⟨small, same, rfl⟩
    · rw [several] at encoded
      cases encoded
      exact .inr ⟨lead, rest⟩
  · rintro (⟨small, rfl, rfl⟩ | ⟨lead, leads, length, fits, rfl⟩)
    · have bound : b.toNat < 0x80 := UInt8.lt_iff_toNat_lt.1 small
      rw [encodeChar_ofNat (.inl (by omega)), if_pos (by omega), UInt8.ofNat_toNat]
    · exact encodeChar_join leads length fits

theorem exists_encodeChar_eq (c : Char) : ∃ b tails, String.utf8EncodeChar c = b :: tails :=
  List.exists_cons_of_ne_nil String.utf8EncodeChar_ne_nil

/-! ## What is split off -/

theorem Fits.left (fits : Fits low high (tails ++ rest)) : Fits low high tails := by
  induction tails generalizing low high with
  | nil => trivial
  | cons b tails ih => exact ⟨fits.1, fits.2.1, ih fits.2.2⟩

/-- Bytes that fit can be continued to any length. -/
theorem Fits.exists_append (bounds : low ≤ high) (fits : Fits low high tails) (n : Nat) :
    ∃ more, more.length = n ∧ Fits low high (tails ++ more) := by
  induction tails generalizing low high with
  | cons b tails ih =>
      obtain ⟨more, length, fits'⟩ := ih (by decide) fits.2.2
      exact ⟨more, length, fits.1, fits.2.1, fits'⟩
  | nil =>
      induction n generalizing low high with
      | zero => exact ⟨[], rfl, trivial⟩
      | succ n ih =>
          obtain ⟨more, length, fits'⟩ :=
            @ih 0x80 0xBF (by decide) trivial
          exact ⟨low :: more, congrArg (· + 1) length, UInt8.le_refl _, bounds, fits'⟩

theorem splitTails_append (n : Nat) (low high : UInt8) (rest : Bytes) :
    (splitTails n low high rest).1 ++ (splitTails n low high rest).2 = rest := by
  induction n, low, high, rest using splitTails.induct with
  | case1 | case2 => rfl
  | case3 _ _ _ _ _ fits ih => rw [splitTails, if_pos fits, List.cons_append, ih]
  | case4 _ _ _ _ _ misfit => rw [splitTails, if_neg misfit, List.nil_append]

theorem splitTails_fits (n : Nat) (low high : UInt8) (rest : Bytes) :
    (splitTails n low high rest).1.length ≤ n ∧
      Fits low high (splitTails n low high rest).1 := by
  induction n, low, high, rest using splitTails.induct with
  | case1 => exact ⟨Nat.le_refl _, trivial⟩
  | case2 => exact ⟨Nat.zero_le _, trivial⟩
  | case3 _ _ _ _ _ fits ih =>
      rw [splitTails, if_pos fits]
      exact ⟨Nat.succ_le_succ ih.1, fits.1, fits.2, ih.2⟩
  | case4 _ _ _ _ _ misfit =>
      rw [splitTails, if_neg misfit]
      exact ⟨Nat.zero_le _, trivial⟩

/-- As much is split off as fits. -/
theorem length_le_splitTails (fits : Fits low high tails) (bound : tails.length ≤ n) :
    tails.length ≤ (splitTails n low high (tails ++ after)).1.length := by
  induction tails generalizing n low high with
  | nil => exact Nat.zero_le _
  | cons b tails ih =>
      obtain _ | n := n
      · exact absurd bound (Nat.not_succ_le_zero _)
      rw [List.cons_append, splitTails, if_pos ⟨fits.1, fits.2.1⟩]
      exact Nat.succ_le_succ (ih fits.2.2 (Nat.le_of_succ_le_succ bound))

theorem Lead.low_le_high {lead : Lead} (leads : lead? b = some lead) : lead.low ≤ lead.high := by
  have all : ∀ b < 256, ∀ lead ∈ lead? (UInt8.ofNat b), lead.low ≤ lead.high := by
    decide +kernel
  exact all b.toNat b.toNat_lt lead (by rw [UInt8.ofNat_toNat, leads]; rfl)

/-! ## What is read -/

/-- Whether bytes are the beginning of the encoding of some character, but not all of it. -/
def Begins (piece : Bytes) : Prop :=
  ∃ c more, more ≠ [] ∧ String.utf8EncodeChar c = piece ++ more

/-- Whether a piece that begins some bytes is the longest one that could have become a character, or
else a single byte. -/
structure Broken (piece rest : Bytes) : Prop where
  nonempty : piece ≠ []
  begins : Begins piece ∨ piece.length = 1
  longest : ∀ longer after, piece ++ rest = longer ++ after → Begins longer →
    longer.length ≤ piece.length
  not_character : ∀ c after, piece ++ rest ≠ String.utf8EncodeChar c ++ after

/-- How bytes are read: a character where the encoding of one begins, and else a broken piece, for
which there is no character. -/
inductive Reads : Bytes → List (Option Char) → Prop
  | done : Reads [] []
  | character {c : Char} {rest : Bytes} {out : List (Option Char)} :
      Reads rest out → Reads (String.utf8EncodeChar c ++ rest) (some c :: out)
  | broken {piece rest : Bytes} {out : List (Option Char)} :
      Broken piece rest → Reads rest out → Reads (piece ++ rest) (none :: out)

theorem begins_cons_iff : Begins (b :: tails) ↔
    ∃ lead, lead? b = some lead ∧ tails.length < lead.tails ∧ Fits lead.low lead.high tails := by
  constructor
  · rintro ⟨c, more, some, encoded⟩
    rw [List.cons_append] at encoded
    obtain ⟨-, -, nothing⟩ | ⟨lead, leads, length, fits, -⟩ := encodeChar_eq_cons_iff.1 encoded
    · exact absurd (List.append_eq_nil_iff.1 nothing).2 some
    · have positive := List.length_pos_iff.2 some
      rw [List.length_append] at length
      exact ⟨lead, leads, by omega, fits.left⟩
  · rintro ⟨lead, leads, length, fits⟩
    obtain ⟨more, missing, fits⟩ :=
      fits.exists_append (Lead.low_le_high leads) (lead.tails - tails.length)
    refine ⟨join lead.bits (tails ++ more), more, ?_, encodeChar_join leads ?_ fits⟩
    · rw [← List.length_pos_iff]
      omega
    · rw [List.length_append]
      omega

/-- Where the encoding of a character begins, that character is read. -/
theorem next_of_encodeChar (encoded : String.utf8EncodeChar c = b :: tails) :
    next b (tails ++ rest) = (some c, rest) := by
  obtain ⟨small, rfl, rfl⟩ | ⟨lead, leads, length, fits, rfl⟩ := encodeChar_eq_cons_iff.1 encoded
  · rw [next, if_pos small]
    rfl
  · have large : ¬ b < 0x80 := fun small => nomatch leads.symm.trans (lead?_eq_none small)
    have most : tails.length ≤ (splitTails _ _ _ (tails ++ rest)).1.length :=
      length_le_splitTails fits (Nat.le_of_eq length)
    have least := (splitTails_fits lead.tails lead.low lead.high (tails ++ rest)).1
    have whole := splitTails_append lead.tails lead.low lead.high (tails ++ rest)
    obtain ⟨same, rest'⟩ := List.append_inj whole (by omega)
    rw [next, if_neg large, leads]
    dsimp only
    rw [same, rest', if_pos length]

/-- A piece is broken where nothing longer fits and what fits is not all that is promised. -/
theorem Broken.intro (large : ¬ b < 0x80) (begins : Begins (b :: tails) ∨ tails = [])
    (longest : ∀ lead, lead? b = some lead → ∀ longer after, tails ++ rest = longer ++ after →
      Fits lead.low lead.high longer → longer.length ≤ lead.tails →
      longer.length ≤ tails.length ∧ longer.length < lead.tails) :
    Broken (b :: tails) rest where
  nonempty := List.cons_ne_nil _ _
  begins := begins.imp_right fun none => by rw [none]; rfl
  longest := by
    rintro (_ | ⟨b', longer⟩) after split begins
    · exact Nat.zero_le _
    · cases List.head_eq_of_cons_eq split
      obtain ⟨lead, leads, length, fits⟩ := begins_cons_iff.1 begins
      exact Nat.succ_le_succ
        (longest lead leads longer after (List.tail_eq_of_cons_eq split) fits length.le).1
  not_character c after split := by
    obtain ⟨b', longer, encoded⟩ := exists_encodeChar_eq c
    rw [encoded] at split
    cases List.head_eq_of_cons_eq split
    obtain ⟨small, -⟩ | ⟨lead, leads, length, fits, -⟩ := encodeChar_eq_cons_iff.1 encoded
    · exact large small
    · have short := longest lead leads longer after (List.tail_eq_of_cons_eq split) fits length.le
      omega

/-- Of two broken pieces that begin the same bytes, neither is longer. -/
theorem Broken.length_le {piece piece' rest rest' : Bytes} (broken : Broken piece rest)
    (broken' : Broken piece' rest') (same : piece ++ rest = piece' ++ rest') :
    piece'.length ≤ piece.length := by
  rcases broken'.begins with begins | single
  · exact broken.longest piece' rest' same begins
  · have := List.length_pos_iff.2 broken.nonempty
    omega

/-- One step of reading reads a character, or a broken piece. -/
theorem next_cases (b : UInt8) (rest : Bytes) :
    (∃ c tails after, next b rest = (some c, after) ∧ rest = tails ++ after ∧
      String.utf8EncodeChar c = b :: tails) ∨
    ∃ tails after, next b rest = (none, after) ∧ rest = tails ++ after ∧
      Broken (b :: tails) after := by
  by_cases small : b < 0x80
  · exact .inl ⟨_, [], rest, by rw [next, if_pos small], rfl,
      encodeChar_eq_cons_iff.2 (.inl ⟨small, rfl, rfl⟩)⟩
  cases leads : lead? b with
  | none =>
      refine .inr ⟨[], rest, by rw [next, if_neg small, leads], rfl, .intro small (.inr rfl) ?_⟩
      exact fun lead leads' => nomatch leads.symm.trans leads'
  | some lead =>
      have whole := splitTails_append lead.tails lead.low lead.high rest
      obtain ⟨bound, fits⟩ := splitTails_fits lead.tails lead.low lead.high rest
      have most {longer after : Bytes} (split : rest = longer ++ after)
          (fits : Fits lead.low lead.high longer) (short : longer.length ≤ lead.tails) :=
        split ▸ @length_le_splitTails _ _ _ longer after fits short
      have result : next b rest =
          let split := splitTails lead.tails lead.low lead.high rest
          (if split.1.length = lead.tails then some (join lead.bits split.1) else none,
            split.2) := by
        rw [next, if_neg small, leads]
      generalize splitTails lead.tails lead.low lead.high rest = split at *
      obtain ⟨tails, after⟩ := split
      dsimp only at result whole bound fits most
      -- all the bytes that were promised make a character; fewer are the longest broken piece
      by_cases full : tails.length = lead.tails
      · refine .inl ⟨_, tails, after, ?_, whole.symm, encodeChar_join leads full fits⟩
        rw [result, if_pos full]
      · have partly : tails.length < lead.tails := Nat.lt_of_le_of_ne bound full
        refine .inr ⟨tails, after, by rw [result, if_neg full], whole.symm, .intro small ?_ ?_⟩
        · exact .inl (begins_cons_iff.2 ⟨lead, leads, partly, fits⟩)
        · intro lead' leads' longer after' split fits short
          obtain rfl := Option.some.inj (leads.symm.trans leads')
          have := most (whole.symm.trans split) fits short
          omega

theorem reads_decode (bytes : Bytes) : Reads bytes (decode bytes) := by
  induction bytes using decode.induct with
  | case1 =>
      rw [decode]
      exact .done
  | case2 b rest ih =>
      rw [decode]
      obtain ⟨c, tails, after, result, rfl, encoded⟩ | ⟨tails, after, result, rfl, broken⟩ :=
        next_cases b rest
      · rw [result] at ih ⊢
        have read := Reads.character (c := c) ih
        rwa [encoded] at read
      · rw [result] at ih ⊢
        exact Reads.broken broken ih

/-- How bytes are read is unique. -/
theorem Reads.unique {bytes : Bytes} {out : List (Option Char)} (reads : Reads bytes out) :
    out = decode bytes := by
  induction reads with
  | done => rw [decode]
  | @character c rest out _ ih =>
      obtain ⟨b, tails, encoded⟩ := exists_encodeChar_eq c
      rw [encoded, List.cons_append, decode, next_of_encodeChar encoded, ih]
  | @broken piece rest out broken _ ih =>
      obtain ⟨b, tails, rfl⟩ := List.exists_cons_of_ne_nil broken.nonempty
      rw [List.cons_append, decode]
      obtain ⟨c, tails', after, result, split, encoded⟩ | ⟨tails', after, result, split, broken'⟩ :=
        next_cases b (tails ++ rest)
      · refine absurd ?_ (broken.not_character c after)
        rw [List.cons_append, split, encoded, List.cons_append]
      · have same : b :: tails ++ rest = b :: tails' ++ after := congrArg (b :: ·) split
        obtain ⟨-, rfl⟩ := List.append_inj same
          (Nat.le_antisymm (broken'.length_le broken same.symm) (broken.length_le broken' same))
        rw [result, ih]

/-- What is read from bytes is the only way in which they can be read. -/
theorem decode_eq_iff {bytes : Bytes} {out : List (Option Char)} :
    decode bytes = out ↔ Reads bytes out :=
  ⟨fun same => same ▸ reads_decode bytes, fun reads => reads.unique.symm⟩

theorem decode_encode (s : String) : decode (encode s) = s.toList.map some := by
  rw [decode_eq_iff, encode]
  induction s.toList with
  | nil => exact .done
  | cons c rest ih => exact .character ih

/-- Valid text is read unchanged. -/
theorem decodeLossy_encode (s : String) : decodeLossy (encode s) = s := by
  rw [decodeLossy, decode_encode, List.map_map]
  exact (congrArg String.ofList (List.map_id _)).trans String.ofList_toList

/-- What is read of a text's encoding, if every piece of it has to be a character, is the text. -/
theorem Reads.eq_encode {bytes : Bytes} {chars : List Char} (reads : Reads bytes (chars.map some)) :
    bytes = chars.flatMap String.utf8EncodeChar := by
  generalize read : chars.map some = out at reads
  induction reads generalizing chars with
  | done => rw [List.map_eq_nil_iff.1 read, List.flatMap_nil]
  | character _ ih =>
      obtain ⟨_, rest, rfl, first, others⟩ := List.map_eq_cons_iff.1 read
      cases first
      rw [List.flatMap_cons, ih others]
  | broken =>
      obtain ⟨_, _, _, absent, _⟩ := List.map_eq_cons_iff.1 read
      exact nomatch absent

/-- All of a list is found, just when the list holds what was found and nothing that is absent. -/
theorem mapM_id_eq_some {out : List (Option α)} {found : List α} :
    out.mapM id = some found ↔ out = found.map some := by
  induction out generalizing found with
  | nil => cases found <;> simp
  | cons head rest ih =>
      cases head with
      | none => cases found <;> simp
      | some a =>
          rw [List.mapM_cons, show (id (some a) : Option α) = some a from rfl,
            Option.bind_eq_bind, Option.bind_some, Option.bind_eq_bind, Option.bind_eq_some_iff]
          constructor
          · rintro ⟨others, all, ⟨⟩⟩
            rw [ih.1 all, List.map_cons]
          · intro split
            obtain ⟨_, others, rfl, ⟨⟩, rest⟩ := List.map_eq_cons_iff.1 split.symm
            exact ⟨others, ih.2 rest.symm, rfl⟩

/-- Bytes are read as a text, if every piece of them has to be a character, just when they are its
encoding. -/
theorem decode?_eq_some_iff {bytes : Bytes} {text : String} :
    decode? bytes = some text ↔ bytes = encode text := by
  constructor
  · intro read
    obtain ⟨chars, found, rfl⟩ := Option.map_eq_some_iff.1 read
    have reads := reads_decode bytes
    rw [mapM_id_eq_some.1 found] at reads
    rw [reads.eq_encode, encode, String.toList_ofList]
  · rintro rfl
    rw [decode?, decode_encode, mapM_id_eq_some.2 rfl]
    exact congrArg some String.ofList_toList

/-- Reading bytes and encoding what was read changes nothing, just when the bytes are a text's. -/
theorem encode_decodeLossy_iff {bytes : Bytes} :
    encode (decodeLossy bytes) = bytes ↔ (decode? bytes).isSome := by
  rw [Option.isSome_iff_exists]
  constructor
  · exact fun same => ⟨_, decode?_eq_some_iff.2 same.symm⟩
  · rintro ⟨text, read⟩
    rw [decode?_eq_some_iff.1 read, decodeLossy_encode]

/-- Where no NUL is read, none is written. -/
theorem nul_not_mem_decodeLossy {bytes : Bytes} (sound : 0 ∉ bytes) :
    0 ∉ encode (decodeLossy bytes) := by
  rw [encode, decodeLossy, String.toList_ofList]
  have reads := reads_decode bytes
  generalize decode bytes = out at reads
  induction reads with
  | done => exact List.not_mem_nil
  | character _ ih =>
      rw [List.mem_append, not_or] at sound
      rw [List.map_cons, List.flatMap_cons, List.mem_append, not_or]
      exact ⟨sound.1, ih sound.2⟩
  | broken _ _ ih =>
      rw [List.mem_append, not_or] at sound
      rw [List.map_cons, List.flatMap_cons, List.mem_append, not_or]
      exact ⟨by decide, ih sound.2⟩

/-! ## The order of texts -/

/-- The encoding of a greater character is greater at the first byte where the encodings differ. -/
theorem encodeChar_append_lt {c d : Char} (less : c < d) (s t : Bytes) :
    String.utf8EncodeChar c ++ s < String.utf8EncodeChar d ++ t := by
  obtain ⟨v, valid, same, rfl⟩ : ∃ v, v.isValidChar ∧ c.toNat = v ∧ c = Char.ofNat v :=
    ⟨c.toNat, c.valid, rfl, (Char.ofNat_toNat c).symm⟩
  obtain ⟨w, valid', same', rfl⟩ : ∃ w, w.isValidChar ∧ d.toNat = w ∧ d = Char.ofNat w :=
    ⟨d.toNat, d.valid, rfl, (Char.ofNat_toNat d).symm⟩
  have lt : v < w := by
    rw [← same, ← same']
    exact less
  -- the digits of a character in base 64
  have two (n : Nat) : n / 4096 = n / 64 / 64 := by omega
  have three (n : Nat) : n / 262144 = n / 64 / 64 / 64 := by omega
  have range : v < 0x110000 := by rcases valid with h | h <;> omega
  have range' : w < 0x110000 := by rcases valid' with h | h <;> omega
  rw [encodeChar_ofNat valid, encodeChar_ofNat valid']
  simp only [two, three]
  split_ifs <;> simp (disch := omega) only [List.cons_append, List.nil_append,
    List.cons_lt_cons_iff, UInt8.lt_iff_toNat_lt, ← UInt8.toNat_inj, toNat_ofNat] <;> omega

theorem encode_lt {s t : String} (less : s < t) : encode s < encode t := by
  have chars : ∀ a b : List Char, a < b →
      a.flatMap String.utf8EncodeChar < b.flatMap String.utf8EncodeChar := by
    intro a b less
    induction less with
    | @nil d rest =>
        obtain ⟨x, tails, encoded⟩ := exists_encodeChar_eq d
        rw [List.flatMap_cons, encoded]
        exact .nil
    | rel below => exact encodeChar_append_lt below _ _
    | cons _ ih => exact List.append_left_lt ih
  exact chars _ _ (String.lt_iff_toList_lt.1 less)

/-- Texts are in the order of their bytes. -/
theorem encode_lt_iff {s t : String} : encode s < encode t ↔ s < t := by
  refine ⟨fun less => ?_, encode_lt⟩
  rcases lt_trichotomy s t with below | rfl | above
  · exact below
  · exact absurd less (List.lt_irrefl _)
  · exact absurd (encode_lt above) (List.lt_asymm less)

theorem encode_le_iff {s t : String} : encode s ≤ encode t ↔ s ≤ t := by
  rw [← not_lt, ← encode_lt_iff]
  exact Iff.rfl

end SourceAtlas.Utf8

namespace SourceAtlas.Bytes

/-- What is read of bytes has no NUL in it, and it goes on to the first NUL or to the end. -/
theorem untilNul_spec (bytes : Bytes) : 0 ∉ bytes.untilNul ∧
    (bytes = bytes.untilNul ∨ ∃ after, bytes = bytes.untilNul ++ 0 :: after) := by
  induction bytes with
  | nil => exact ⟨List.not_mem_nil, .inl rfl⟩
  | cons b rest ih =>
      unfold untilNul at ih ⊢
      by_cases zero : b = 0
      · rw [List.takeWhile_cons_of_neg (by simp [zero])]
        exact ⟨List.not_mem_nil, .inr ⟨rest, by rw [zero]; rfl⟩⟩
      · rw [List.takeWhile_cons_of_pos (by simpa using zero)]
        refine ⟨fun member => ?_, ih.2.imp (congrArg (b :: ·)) ?_⟩
        · rcases List.mem_cons.1 member with same | member
          · exact zero same.symm
          · exact ih.1 member
        · rintro ⟨after, split⟩
          exact ⟨after, congrArg (b :: ·) split⟩

end SourceAtlas.Bytes
