import SourceAtlas.Json.Parser
import SourceAtlas.Json.Printer

/-!
# What readers of JSON take

A reader that succeeds takes some characters from the front of a text and leaves the rest (`Takes`).
Here are the readers of blanks and words, of the characters between quotes, and of whole numbers, with
the ways in which these may be written.
-/

namespace SourceAtlas.Json

namespace Reader

variable {α β : Type} {x : Reader α} {f : α → Reader β} {a : α} {b : β}
variable {front mid rest : List Char} {c : Char}

/-! ## What a reader takes -/

/-- Whether a reader takes some characters from the front of a text, and leaves the rest. -/
def Takes (x : Reader α) (front : List Char) (a : α) (rest : List Char) : Prop :=
  ∀ position, ∃ after, StateT.run (ExceptT.run x) ⟨front ++ rest, position⟩ =
    (.ok a, (⟨rest, after⟩ : Source))

namespace Takes

theorem result (takes : Takes x front a rest) (position : Position) :
    (StateT.run (ExceptT.run x) ⟨front ++ rest, position⟩).1 = .ok a := by
  obtain ⟨after, ran⟩ := takes position
  rw [ran]

theorem pure (a : α) (rest : List Char) : Takes (Pure.pure a) [] a rest :=
  fun position => ⟨position, rfl⟩

theorem bind (first : Takes x front a (mid ++ rest)) (next : Takes (f a) mid b rest) :
    Takes (x >>= f) (front ++ mid) b rest := by
  intro position
  obtain ⟨between, ran⟩ := first position
  obtain ⟨after, ran'⟩ := next between
  refine ⟨after, ?_⟩
  rw [List.append_assoc, ExceptT.run_bind, StateT.run_bind, ran]
  exact ran'

/-- What only looks at the text takes nothing. -/
theorem look (first : Takes x [] a (front ++ rest)) (next : Takes (f a) front b rest) :
    Takes (x >>= f) front b rest :=
  first.bind next

/-- What comes last may take nothing. -/
theorem finish (first : Takes x front a rest) (next : Takes (f a) [] b rest) :
    Takes (x >>= f) front b rest := by
  simpa using (show Takes x front a ([] ++ rest) from first).bind next

theorem map {g : α → β} (takes : Takes x front a rest) : Takes (g <$> x) front (g a) rest := by
  rw [← bind_pure_comp]
  exact takes.finish (.pure _ _)

/-- What is there to read is no secret. -/
theorem inspect {g : Source → Reader α}
    (takes : ∀ position, Takes (g ⟨front ++ rest, position⟩) front a rest) :
    Takes (getThe Source >>= g) front a rest :=
  fun position => takes position position

/-- What changes the text takes what it leaves out. -/
theorem modify {change : Source → Source}
    (leaves : ∀ position, (change ⟨front ++ rest, position⟩).rest = rest) :
    Takes (modifyThe Source change) front () rest := by
  intro position
  have left := leaves position
  show ∃ after, (Except.ok (), change ⟨front ++ rest, position⟩) = (Except.ok (), ⟨rest, after⟩)
  generalize change ⟨front ++ rest, position⟩ = source at left
  exact ⟨source.position, by rw [← left]⟩

end Takes

theorem takes_peek (rest : List Char) : Takes peek [] rest.head? rest :=
  fun position => ⟨position, rfl⟩

theorem next_cons (c : Char) (rest : List Char) (position : Position) :
    ∃ after, Source.next ⟨c :: rest, position⟩ = ⟨rest, after⟩ := by
  simp only [Source.next]
  split <;> exact ⟨_, rfl⟩

theorem takes_skip (c : Char) (rest : List Char) : Takes skip [c] () rest :=
  .modify fun position => by
    obtain ⟨after, next⟩ := next_cons c rest position
    rw [List.singleton_append, next]

/-- Blanks are passed over before a value. -/
theorem takes_peekValue {blanks : List Char} (blank : ∀ c ∈ blanks, isBlank c = true)
    (solid : ∀ c ∈ rest.head?, isBlank c = false) : Takes peekValue blanks rest.head? rest := by
  refine .finish (.modify fun position => ?_) (takes_peek rest)
  show (afterBlanks (blanks ++ rest) position).rest = rest
  induction blanks generalizing position with
  | nil =>
      cases rest with
      | nil => rfl
      | cons c rest => rw [List.nil_append, afterBlanks, if_neg (by simp [solid c rfl])]
  | cons c blanks ih =>
      rw [List.cons_append, afterBlanks, if_pos (blank c (.head _))]
      exact ih (fun d member => blank d (.tail _ member)) _

/-! ## Words -/

theorem takes_word (letters rest : List Char) : Takes (word letters) letters () rest := by
  induction letters with
  | nil => exact .pure () rest
  | cons c letters ih =>
      unfold word
      refine (takes_peek (c :: (letters ++ rest))).look ?_
      simp only [List.head?_cons, if_true]
      exact (takes_skip c (letters ++ rest)).bind ih

/-! ## Escapes -/

/-- Digits that take a byte each are passed over together. -/
theorem rest_skipBytes {front : List Char} (small : ∀ c ∈ front, c.utf8Size = 1)
    (rest : List Char) (position : Position) :
    (Source.skipBytes front.length ⟨front ++ rest, position⟩).rest = rest := by
  induction front generalizing position with
  | nil => rw [List.length_nil, Source.skipBytes, List.nil_append]
  | cons c front ih =>
      have size : c.utf8Size = 1 := small c (.head _)
      rw [List.length_cons, List.cons_append, Source.skipBytes]
      simp only [size, Nat.add_sub_cancel, Nat.le_add_left, if_true]
      obtain ⟨after, next⟩ := next_cons c (front ++ rest) position
      rw [next]
      exact ih (fun d member => small d (.tail _ member)) _

theorem utf8Size_of_hexDigit? {n : Nat} (digit : hexDigit? c = some n) : c.utf8Size = 1 := by
  have ascii : c.val ≤ 0x7f := by
    unfold hexDigit? at digit
    split at digit
    next decimal =>
      simp only [Char.isDigit, Bool.and_eq_true, decide_eq_true_eq] at decimal
      exact Nat.le_trans decimal.2 (by decide)
    split at digit
    next lower => exact Nat.le_trans lower.2 (by decide)
    split at digit
    next upper => exact Nat.le_trans upper.2 (by decide)
    exact nomatch digit
  exact if_pos ascii

/-- What four digits in base sixteen stand for. -/
def codeUnit? : List Char → Option Nat
  | [a, b, c, d] => do
    return ((((← hexDigit? a) * 16 + (← hexDigit? b)) * 16 + (← hexDigit? c)) * 16 + (← hexDigit? d))
  | _ => none

theorem codeUnit?_eq_some {digits : List Char} {n : Nat} (unit : codeUnit? digits = some n) :
    ∃ a b c d i j k l, digits = [a, b, c, d] ∧ hexDigit? a = some i ∧ hexDigit? b = some j ∧
      hexDigit? c = some k ∧ hexDigit? d = some l ∧ n = ((i * 16 + j) * 16 + k) * 16 + l := by
  unfold codeUnit? at unit
  split at unit
  next a b c d =>
    obtain ⟨i, first, unit⟩ := Option.bind_eq_some_iff.1 unit
    obtain ⟨j, second, unit⟩ := Option.bind_eq_some_iff.1 unit
    obtain ⟨k, third, unit⟩ := Option.bind_eq_some_iff.1 unit
    obtain ⟨l, fourth, unit⟩ := Option.bind_eq_some_iff.1 unit
    exact ⟨a, b, c, d, i, j, k, l, rfl, first, second, third, fourth, (Option.some.inj unit).symm⟩
  next => exact nomatch unit

theorem takes_hexFour {digits : List Char} {n : Nat} (unit : codeUnit? digits = some n)
    (rest : List Char) : Takes hexFour digits n rest := by
  obtain ⟨a, b, c, d, i, j, k, l, rfl, first, second, third, fourth, rfl⟩ := codeUnit?_eq_some unit
  have small : ∀ e ∈ [a, b, c, d], e.utf8Size = 1 := by
    simp [utf8Size_of_hexDigit? first, utf8Size_of_hexDigit? second, utf8Size_of_hexDigit? third,
      utf8Size_of_hexDigit? fourth]
  unfold hexFour
  refine .inspect fun position => ?_
  simp only [List.cons_append, first, second, third, fourth]
  exact .finish (.modify (rest_skipBytes small rest)) (.pure _ _)

/-- The character that a backslash and another character stand for. -/
def shorthand? : Char → Option Char
  | '"' => some '"'
  | '\\' => some '\\'
  | '/' => some '/'
  | 'b' => some '\x08'
  | 'f' => some '\x0c'
  | 'n' => some '\n'
  | 'r' => some '\r'
  | 't' => some '\t'
  | _ => none

/-- The ways to write a character between quotes. -/
inductive SpellsChar : Char → List Char → Prop
  | plain {c : Char} : c ≠ '"' → c ≠ '\\' → ¬ c < ' ' → SpellsChar c [c]
  | short {code c : Char} : shorthand? code = some c → SpellsChar c ['\\', code]
  | unit {digits : List Char} {n : Nat} : codeUnit? digits = some n → n < 0xD800 ∨ 0xDFFF < n →
      SpellsChar (Char.ofNat n) ('\\' :: 'u' :: digits)
  /-- A character outside the basic plane. -/
  | pair {digits digits' : List Char} {high low : Nat} :
      codeUnit? digits = some high → 0xD800 ≤ high ∧ high ≤ 0xDBFF →
      codeUnit? digits' = some low → 0xDC00 ≤ low ∧ low ≤ 0xDFFF →
      SpellsChar (Char.ofNat ((high - 0xD800) * 0x400 + (low - 0xDC00) + 0x10000))
        ('\\' :: 'u' :: (digits ++ '\\' :: 'u' :: digits'))

theorem takes_required (c : Char) (rest : List Char) :
    Takes (unicodeEscape.required c) [c] () rest := by
  unfold unicodeEscape.required
  refine (takes_peek (c :: rest)).look ?_
  simp only [List.head?_cons, if_true]
  exact takes_skip c rest

/-- A character is written as it is, or as an escape of it. -/
theorem SpellsChar.cases {code : List Char} (spells : SpellsChar c code) :
    code = [c] ∧ c ≠ '"' ∧ c ≠ '\\' ∧ ¬ c < ' ' ∨
      ∃ tail, code = '\\' :: tail ∧ ∀ rest, Takes escape tail c rest := by
  cases spells with
  | plain quote backslash control => exact .inl ⟨rfl, quote, backslash, control⟩
  | @short code c stands =>
      refine .inr ⟨_, rfl, fun rest => (takes_peek (code :: rest)).look ?_⟩
      have takes (d : Char) : Takes (do skip; Pure.pure d) [code] d rest :=
        (takes_skip code rest).finish (.pure d rest)
      unfold shorthand? at stands
      split at stands
      case h_9 => exact nomatch stands
      all_goals
        obtain rfl := Option.some.inj stands
        exact takes _
  | @unit digits n unit plain =>
      refine .inr ⟨_, rfl, fun rest => (takes_peek _).look ((takes_skip 'u' _).bind ?_)⟩
      unfold unicodeEscape
      refine (takes_hexFour unit rest).finish ?_
      rw [if_neg (by omega), if_neg (by omega)]
      exact .pure _ _
  | @pair digits digits' high low unit isHigh unit' isLow =>
      refine .inr ⟨_, rfl, fun rest => (takes_peek _).look ((takes_skip 'u' _).bind ?_)⟩
      unfold unicodeEscape
      refine (takes_hexFour unit _).bind ?_
      rw [if_neg (by omega), if_pos isHigh]
      refine (takes_required '\\' _).bind ((takes_required 'u' _).bind ?_)
      refine (takes_hexFour unit' rest).finish ?_
      rw [if_neg (by omega)]
      exact .pure _ _

/-- A digit below sixteen, as it is printed. -/
theorem hexDigit?_digitChar : ∀ n < 16, hexDigit? (Nat.digitChar n) = some n := by
  decide

/-- A character is printed in one of the ways to write it. -/
theorem spells_escapeChar (c : Char) : SpellsChar c (escapeChar c) := by
  unfold escapeChar
  split
  case h_8 quote backslash _ _ _ _ _ =>
    by_cases control : c < ' '
    · have small : c.toNat < 32 := control
      have unit : codeUnit? ['0', '0', Nat.digitChar (c.toNat / 16), Nat.digitChar (c.toNat % 16)] =
          some (c.toNat / 16 * 16 + c.toNat % 16) := by
        simp only [codeUnit?, hexDigit?_digitChar _ (show c.toNat / 16 < 16 by omega),
          hexDigit?_digitChar _ (show c.toNat % 16 < 16 by omega), show hexDigit? '0' = some 0 from rfl]
        simp
      rw [Nat.div_add_mod'] at unit
      have spells := SpellsChar.unit unit (by omega)
      rw [Char.ofNat_toNat] at spells
      rwa [if_pos control]
    · rw [if_neg control]
      exact .plain quote backslash control
  all_goals exact .short rfl

/-! ## Texts -/

/-- The ways to write some characters between quotes. -/
inductive SpellsText : List Char → List Char → Prop
  | nil : SpellsText [] []
  | cons {c : Char} {code chars body : List Char} : SpellsChar c code → SpellsText chars body →
      SpellsText (c :: chars) (code ++ body)

/-- No character is left out. -/
theorem SpellsText.length_le {chars body : List Char} (spells : SpellsText chars body) :
    chars.length ≤ body.length := by
  induction spells with
  | nil => exact Nat.le_refl _
  | @cons c code chars body first _ ih =>
      have nonempty : 1 ≤ code.length := by
        obtain ⟨rfl, -⟩ | ⟨tail, rfl, -⟩ := first.cases <;> simp
      simp only [List.length_append, List.length_cons]
      omega

/-- The rest of a text is read from what is written of it. -/
theorem takes_textTail {chars body : List Char} (spells : SpellsText chars body) {turns : Nat}
    (done rest : List Char) (enough : chars.length < turns) :
    Takes (textTail turns done) (body ++ ['"']) (String.ofList (done.reverse ++ chars)) rest := by
  induction spells generalizing turns done with
  | nil =>
      obtain _ | turns := turns
      · exact absurd enough (Nat.not_lt_zero _)
      rw [List.append_nil]
      exact (takes_peek _).look ((takes_skip '"' rest).finish (.pure _ rest))
  | @cons c code chars body first _ ih =>
      obtain _ | turns := turns
      · exact absurd enough (Nat.not_lt_zero _)
      have later := ih (c :: done) (Nat.lt_of_succ_lt_succ enough)
      rw [List.reverse_cons, List.append_assoc, List.singleton_append] at later
      rw [List.append_assoc]
      obtain ⟨rfl, quote, backslash, plain⟩ | ⟨tail, rfl, takes⟩ := first.cases
      · refine (takes_peek _).look ?_
        simp only [List.cons_append, List.nil_append, List.head?_cons, if_neg plain]
        exact (takes_skip c _).bind later
      · refine (takes_peek _).look ?_
        exact (takes_skip '\\' _).bind ((takes _).bind later)

/-- The ways to write a text. -/
def Quotes (s : String) (text : List Char) : Prop :=
  ∃ body, SpellsText s.toList body ∧ text = '"' :: (body ++ ['"'])

/-- A text is printed in one of the ways to write it. -/
theorem quotes_quote (s : String) : Quotes s (quote s).toList := by
  have spells (chars : List Char) : SpellsText chars (chars.flatMap escapeChar) := by
    induction chars with
    | nil => exact .nil
    | cons c chars ih => exact .cons (spells_escapeChar c) ih
  exact ⟨_, spells s.toList, by rw [quote, String.toList_ofList]; rfl⟩

/-- After its opening quote, a text is read to its closing quote. -/
theorem takes_textBody {s : String} {body : List Char} (spells : SpellsText s.toList body)
    (rest : List Char) : Takes textBody (body ++ ['"']) s rest := by
  have enough : s.toList.length < (body ++ ['"'] ++ rest).length + 1 := by
    have := spells.length_le
    simp only [List.length_append]
    omega
  have takes := takes_textTail spells [] rest enough
  rw [List.reverse_nil, List.nil_append, String.ofList_toList] at takes
  exact .inspect fun _ => takes

/-- A key is read between its quotes. -/
theorem takes_key {name : String} {text : List Char} (quotes : Quotes name text)
    (rest : List Char) : Takes key text name rest := by
  obtain ⟨body, spells, rfl⟩ := quotes
  exact (takes_skip '"' _).bind (takes_textBody spells rest)

/-! ## Whole numbers -/

/-- Whether no digit comes next. -/
def EndsDigits (rest : List Char) : Prop :=
  ∀ c ∈ rest.head?, digit? c = none

/-- Whether nothing comes next that could go on a number. -/
def EndsNumber (rest : List Char) : Prop :=
  ∀ c ∈ rest.head?, digit? c = none ∧ c ≠ '.' ∧ c ≠ 'e' ∧ c ≠ 'E'

theorem EndsNumber.digits (ends : EndsNumber rest) : EndsDigits rest :=
  fun c next => (ends c next).1

theorem digit?_of_isDigit (digit : c.isDigit = true) : digit? c = some (c.toNat - '0'.toNat) := by
  rw [digit?, if_pos digit]

section

variable {run : List Char} (digits_run : ∀ c ∈ run, c.isDigit = true)

include digits_run

theorem digitRun_append (ends : EndsDigits rest) (value count : Nat) :
    digitRun (run ++ rest) value count = (Nat.ofDigitChars 10 run value, count + run.length) := by
  induction run generalizing value count with
  | nil =>
      rw [List.nil_append, Nat.ofDigitChars_nil]
      cases rest with
      | nil => rfl
      | cons c rest => rw [digitRun, ends c rfl]; rfl
  | cons c run ih =>
      obtain ⟨digit, others⟩ := List.forall_mem_cons.1 digits_run
      rw [List.cons_append, digitRun, digit?_of_isDigit digit, Nat.ofDigitChars_cons]
      simp only [ih others, List.length_cons, Nat.mul_comm]
      congr 1
      omega

/-- A run of digits is taken to its end. -/
theorem takes_digits (ends : EndsDigits rest) :
    Takes digits run (Nat.ofDigitChars 10 run 0, run.length) rest := by
  unfold digits
  refine .inspect fun position => ?_
  simp only [digitRun_append digits_run ends, Nat.zero_add]
  refine .finish (.modify fun position => ?_) (.pure _ _)
  exact List.drop_left

theorem le_ofDigitChars (value : Nat) : value ≤ Nat.ofDigitChars 10 run value := by
  induction run generalizing value with
  | nil => exact Nat.le_refl _
  | cons c run ih =>
      rw [Nat.ofDigitChars_cons]
      have := ih (List.forall_mem_cons.1 digits_run).2 (10 * value + (c.toNat - '0'.toNat))
      omega

/-- No digit is left out of a number that fits into 64 bits. -/
theorem significand_append (value : Nat) (fits : Nat.ofDigitChars 10 run value < UInt64.size) :
    significand (run ++ rest) run.length value = (Nat.ofDigitChars 10 run value, 0) := by
  induction run generalizing value with
  | nil => cases rest <;> rfl
  | cons c run ih =>
      obtain ⟨digit, others⟩ := List.forall_mem_cons.1 digits_run
      rw [Nat.ofDigitChars_cons] at fits ⊢
      have grown := Nat.lt_of_le_of_lt (le_ofDigitChars others _) fits
      rw [List.cons_append, List.length_cons, significand, digit?_of_isDigit digit, Option.getD_some,
        Nat.mul_comm, if_pos grown]
      exact ih others _ fits

end

/-- A digit is none of some other characters. -/
theorem ne_of_isDigit {d : Char} (digit : c.isDigit = true) (other : d.isDigit = false) : c ≠ d := by
  rintro rfl
  exact nomatch digit.symm.trans other

theorem isBlank_of_isDigit (digit : c.isDigit = true) : isBlank c = false := by
  simp [isBlank, ne_of_isDigit digit]

theorem toDigits_cons (n : Nat) : ∃ c tail, Nat.toDigits 10 n = c :: tail ∧ c.isDigit = true := by
  obtain ⟨c, tail, printed⟩ := List.exists_cons_of_ne_nil (Nat.toDigits_ne_nil (n := n) (b := 10))
  refine ⟨c, tail, printed, Nat.isDigit_of_mem_toDigits (b := 10) (n := n) (by decide) (by decide) ?_⟩
  rw [printed]
  exact .head _

/-- A whole number is printed as its digits, behind a sign if it is negative. -/
theorem toList_int (n : Int) : (toString n).toList =
    (if n < 0 then ['-'] else []) ++ Nat.toDigits 10 n.natAbs := by
  cases n with
  | ofNat n => exact Nat.toList_repr
  | negSucc n =>
      rw [if_pos (Int.negSucc_lt_zero n)]
      show ("-" ++ Nat.repr (n + 1)).toList = _
      rw [String.toList_append, Nat.toList_repr]
      rfl

/-- A whole number is known by what is printed of it. -/
theorem int_eq_of_toString {m n : Int} (same : toString m = toString n) : m = n := by
  have digits {m n : Nat} (same : Nat.toDigits 10 m = Nat.toDigits 10 n) : m = n := by
    rw [← Nat.ofDigitChars_ten_toDigits (n := m), same, Nat.ofDigitChars_ten_toDigits]
  have unsigned {m n : Nat} : Nat.toDigits 10 m ≠ '-' :: Nat.toDigits 10 n := by
    obtain ⟨c, tail, printed, digit⟩ := toDigits_cons m
    rw [printed]
    exact fun same => ne_of_isDigit digit (by decide) (List.cons.inj same).1
  have chars := congrArg String.toList same
  rw [toList_int, toList_int] at chars
  split at chars <;> split at chars
  case isTrue.isTrue =>
    have abs := digits (List.cons.inj chars).2
    omega
  case isTrue.isFalse => exact absurd chars.symm unsigned
  case isFalse.isTrue => exact absurd chars unsigned
  case isFalse.isFalse =>
    have abs := digits chars
    omega

/-- A whole number as it is read. -/
def signed (negative : Bool) (n : Nat) : Number :=
  if negative then .negative n else .natural n

/-- The digits of a number, with no zero at their front. -/
theorem toDigits_head {n : Nat} (positive : n ≠ 0) :
    ∃ c tail, Nat.toDigits 10 n = c :: tail ∧ c.isDigit = true ∧ c ≠ '0' := by
  induction n using Nat.strongRecOn with
  | _ n ih =>
    rw [Nat.toDigits_eq_if (by decide)]
    split
    next small => exact ⟨_, [], rfl, by simpa using small, by simpa using positive⟩
    next large =>
      obtain ⟨c, tail, digits, digit, nonzero⟩ := ih (n / 10) (by omega) (by omega)
      exact ⟨c, tail ++ _, by rw [digits, List.cons_append], digit, nonzero⟩

/-- The digits of a number are read together, also a zero of its own. -/
theorem takes_wholePart {n : Nat} {tail : List Char} {next : Nat × Nat → Reader β}
    (printed : Nat.toDigits 10 n = c :: tail) (ends : EndsDigits rest)
    (takes : Takes (next (n, (c :: tail).length)) [] b rest) :
    Takes (if c = '0' then do
        skip
        match (← peek).bind digit? with
        | some _ => failAtNext .invalidNumber >>= next
        | none => Pure.pure (0, 1) >>= next
      else digits >>= next) (c :: tail) b rest := by
  by_cases zero : n = 0
  · subst zero
    obtain ⟨rfl, rfl⟩ : '0' = c ∧ [] = tail := List.cons_eq_cons.1 printed
    refine (takes_skip '0' rest).finish ((takes_peek rest).look ?_)
    have stops : rest.head?.bind digit? = none := Option.bind_eq_none_iff.2 ends
    rw [stops]
    exact takes
  · obtain ⟨d, tail', same, digit, nonzero⟩ := toDigits_head zero
    obtain ⟨rfl, rfl⟩ : c = d ∧ tail = tail' := List.cons_eq_cons.1 (printed.symm.trans same)
    have run : ∀ e ∈ c :: tail, e.isDigit = true := fun e member =>
      Nat.isDigit_of_mem_toDigits (b := 10) (n := n) (by decide) (by decide) (printed ▸ member)
    have whole := takes_digits run ends
    rw [← printed, Nat.ofDigitChars_ten_toDigits, printed] at whole
    rw [if_neg nonzero]
    exact whole.finish takes

/-- A number is read as it is printed. -/
theorem takes_number {n : Nat} (negative : Bool) (fits : n < UInt64.size)
    (sign : negative = true → 0 < n ∧ n ≤ 0x8000000000000000) (ends : EndsNumber rest) :
    Takes (number negative) (Nat.toDigits 10 n) (signed negative n) rest := by
  have run : ∀ c ∈ Nat.toDigits 10 n, c.isDigit = true :=
    fun c member => Nat.isDigit_of_mem_toDigits (by decide) (by decide) member
  have whole : significand (Nat.toDigits 10 n ++ rest) (Nat.toDigits 10 n).length 0 = (n, 0) := by
    have value := Nat.ofDigitChars_ten_toDigits (n := n)
    rw [significand_append run 0 (value.symm ▸ fits), value]
  obtain ⟨c, tail, printed, digit⟩ := toDigits_cons n
  rw [printed] at whole ⊢
  unfold number
  refine (takes_peek (c :: tail ++ rest)).look ?_
  simp only [List.cons_append, List.head?_cons, digit?_of_isDigit digit, Option.isNone_some,
    Bool.false_eq_true, if_false]
  refine .inspect fun _ => takes_wholePart printed ends.digits ?_
  simp only [whole]
  refine (takes_peek rest).look ?_
  split
  next point => exact absurd rfl (ends _ point).2.1
  next mark => exact absurd rfl (ends _ mark).2.2.1
  next mark => exact absurd rfl (ends _ mark).2.2.2
  next =>
    cases negative with
    | false => exact .pure _ _
    | true =>
        obtain ⟨positive, small⟩ := sign rfl
        rw [if_neg (by simp), if_neg (by simp), if_neg (by omega)]
        exact .pure _ _

end Reader

end SourceAtlas.Json
