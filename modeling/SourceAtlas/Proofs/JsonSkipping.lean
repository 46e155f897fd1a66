import SourceAtlas.Proofs.JsonGrammar

/-!
# Values that nobody asks for

The value of an unknown key is passed over, whatever it is, if it is well formed. That is a matter of
the grammar alone: its numbers may have fractions and exponents, and be as large as they like, and its
texts may have escapes that stand for no character.
-/

namespace SourceAtlas.Json

open Reader

variable {text rest : List Char}

/-! ## Numbers -/

/-- Some digits, at least one. -/
def Digits (text : List Char) : Prop :=
  text ≠ [] ∧ ∀ c ∈ text, c.isDigit = true

/-- What stands before the point: a zero, or digits that start with another one. -/
inductive WholePart : List Char → Prop
  | zero : WholePart ['0']
  | digits {text : List Char} : Digits text → text.head? ≠ some '0' → WholePart text

inductive Fraction : List Char → Prop
  | none : Fraction []
  | digits {text : List Char} : Digits text → Fraction ('.' :: text)

inductive Exponent : List Char → Prop
  | none : Exponent []
  | digits {mark : Char} {sign text : List Char} : mark ∈ ['e', 'E'] →
      sign ∈ [[], ['+'], ['-']] → Digits text → Exponent (mark :: (sign ++ text))

/-- A number without a sign. -/
inductive Unsigned : List Char → Prop
  | intro {whole fraction exponent : List Char} : WholePart whole → Fraction fraction →
      Exponent exponent → Unsigned (whole ++ (fraction ++ exponent))

theorem Digits.cons (digits : Digits text) : ∃ c tail, text = c :: tail ∧ c.isDigit = true := by
  obtain ⟨c, tail, rfl⟩ := List.exists_cons_of_ne_nil digits.1
  exact ⟨c, tail, rfl, digits.2 c (.head _)⟩

theorem Digits.takes (digits : Digits text) (ends : EndsDigits rest) :
    Takes (discard Reader.digits) text () rest := by
  unfold discard
  exact (takes_digits digits.2 ends).map

theorem Exponent.ends (exponent : Exponent text) (ends : EndsNumber rest) :
    EndsDigits (text ++ rest) := by
  cases exponent with
  | none => exact ends.digits
  | digits mark =>
      intro c next
      obtain rfl := Option.some.inj next
      simp only [List.mem_cons, List.not_mem_nil, or_false] at mark
      rcases mark with rfl | rfl <;> rfl

theorem Fraction.ends (fraction : Fraction text) (ends : EndsDigits rest) :
    EndsDigits (text ++ rest) := by
  cases fraction with
  | none => exact ends
  | digits =>
      intro c next
      obtain rfl := Option.some.inj next
      rfl

/-- The exponent of a number is passed over, from its letter on. -/
theorem takes_ignoredExponent {mark : Char} {sign : List Char} (signed : sign ∈ [[], ['+'], ['-']])
    (digits : Digits text) (ends : EndsDigits rest) :
    Takes ignoredNumber.ignoredExponent (mark :: (sign ++ text)) () rest := by
  obtain ⟨c, tail, rfl, digit⟩ := digits.cons
  unfold ignoredNumber.ignoredExponent
  refine Takes.bind (takes_skip mark _) ((takes_peek _).look ?_)
  extract_lets next
  have last : Takes (next ()) (c :: tail) () rest := by
    refine (takes_peek _).look ?_
    simp only [List.cons_append, List.head?_cons, digit, if_true]
    exact digits.takes ends
  simp only [List.mem_cons, List.not_mem_nil, or_false] at signed
  rcases signed with rfl | rfl | rfl
  · split
    next plus => exact absurd (Option.some.inj plus) (ne_of_isDigit digit (by decide))
    next minus => exact absurd (Option.some.inj minus) (ne_of_isDigit digit (by decide))
    next => exact last
  · exact Takes.bind (takes_skip '+' _) last
  · exact Takes.bind (takes_skip '-' _) last

/-- A number ends, or it goes on with an exponent. -/
theorem Exponent.cases (exponent : Exponent text) (ends : EndsNumber rest) :
    text = [] ∨ ∃ mark tail, text = mark :: tail ∧ (mark = 'e' ∨ mark = 'E') ∧
      Takes ignoredNumber.ignoredExponent (mark :: tail) () rest := by
  cases exponent with
  | none => exact .inl rfl
  | @digits mark sign text marks signed digits =>
      refine .inr ⟨_, _, rfl, ?_, takes_ignoredExponent signed digits ends.digits⟩
      simpa using marks

/-- A number is passed over, after its sign. -/
theorem takes_ignoredNumber (number : Unsigned text) (ends : EndsNumber rest) :
    Takes ignoredNumber text () rest := by
  obtain @⟨whole, fraction, exponent, isWhole, isFraction, isExponent⟩ := number
  have stops : EndsDigits ((fraction ++ exponent) ++ rest) := by
    rw [List.append_assoc]
    exact isFraction.ends (isExponent.ends ends)
  unfold ignoredNumber
  refine (takes_peek _).look ?_
  extract_lets last next
  -- behind the fraction
  have ended : Takes (last ()) exponent () rest := by
    refine (takes_peek _).look ?_
    obtain rfl | ⟨mark, tail, rfl, rfl | rfl, takes⟩ := isExponent.cases ends
    · split
      next mark => exact absurd rfl (ends _ mark).2.2.1
      next mark => exact absurd rfl (ends _ mark).2.2.2
      next => exact .pure () rest
    all_goals exact takes
  -- behind the digits before the point
  have later : Takes (next ()) (fraction ++ exponent) () rest := by
    refine (takes_peek _).look ?_
    cases isFraction with
    | none =>
        obtain rfl | ⟨mark, tail, rfl, rfl | rfl, takes⟩ := isExponent.cases ends
        · split
          next point => exact absurd rfl (ends _ point).2.1
          next mark => exact absurd rfl (ends _ mark).2.2.1
          next mark => exact absurd rfl (ends _ mark).2.2.2
          next => exact .pure () rest
        all_goals exact takes
    | @digits text digits =>
        have some : text.length ≠ 0 := fun none => digits.1 (List.length_eq_zero_iff.1 none)
        rw [List.cons_append]
        refine (takes_skip '.' _).bind ?_
        refine Takes.bind (takes_digits digits.2 (isExponent.ends ends)) ?_
        simp only [some, if_false]
        exact ended
  cases isWhole with
  | zero =>
      refine Takes.bind (takes_skip '0' _) ((takes_peek _).look ?_)
      have none : (((fraction ++ exponent) ++ rest).head?.bind digit?).isSome = false := by
        rw [Option.bind_eq_none_iff.2 stops]
        rfl
      rw [none, if_neg (by decide)]
      exact later
  | digits digits nonzero =>
      obtain ⟨c, tail, rfl, digit⟩ := digits.cons
      have plain : c ≠ '0' := fun same => nonzero (congrArg some same)
      simp only [List.cons_append, List.head?_cons]
      rw [if_pos digit, ← List.cons_append]
      exact Takes.bind (digits.takes stops) later

/-! ## Texts -/

/-- What may stand between the quotes of a text: escapes by code need not stand for a character. -/
inductive Body : List Char → Prop
  | nil : Body []
  | plain {c : Char} {body : List Char} :
      c ≠ '"' → c ≠ '\\' → ¬ c < ' ' → Body body → Body (c :: body)
  | short {code : Char} {body : List Char} :
      (shorthand? code).isSome → Body body → Body ('\\' :: code :: body)
  | unit {digits body : List Char} :
      (codeUnit? digits).isSome → Body body → Body ('\\' :: 'u' :: (digits ++ body))

theorem shorthand_spec {code : Char} (stands : (shorthand? code).isSome) :
    code ≠ 'u' ∧ "\"\\/bfnrt".contains code = true := by
  unfold shorthand? at stands
  split at stands
  case h_9 => exact nomatch stands
  all_goals simp

/-- The rest of a text is passed over, after its opening quote. -/
theorem takes_ignoredText {body : List Char} (isBody : Body body) {turns : Nat}
    (enough : body.length < turns) (rest : List Char) :
    Takes (ignoredText turns) (body ++ ['"']) () rest := by
  induction isBody generalizing turns with
  | nil =>
      obtain _ | turns := turns
      · exact absurd enough (Nat.not_lt_zero _)
      exact (takes_peek _).look (takes_skip '"' rest)
  | plain quote backslash control _ ih =>
      obtain _ | turns := turns
      · exact absurd enough (Nat.not_lt_zero _)
      refine (takes_peek _).look ?_
      simp only [List.cons_append, List.head?_cons, if_neg control]
      exact (takes_skip _ _).bind (ih (Nat.lt_of_succ_lt_succ enough))
  | @short code body stands _ ih =>
      obtain _ | turns := turns
      · exact absurd enough (Nat.not_lt_zero _)
      simp only [List.length_cons] at enough
      refine (takes_peek _).look ((takes_skip '\\' _).bind ?_)
      extract_lets next
      have later : Takes (next ()) (body ++ ['"']) () rest := ih (by omega)
      obtain ⟨plain, listed⟩ := shorthand_spec stands
      refine (takes_peek _).look ?_
      simp only [List.cons_append, List.head?_cons, listed, if_true]
      exact (takes_skip code _).bind later
  | @unit digits body unit _ ih =>
      obtain _ | turns := turns
      · exact absurd enough (Nat.not_lt_zero _)
      obtain ⟨n, spells⟩ := Option.isSome_iff_exists.1 unit
      simp only [List.length_cons, List.length_append] at enough
      have later : Takes (ignoredText turns) (body ++ ['"']) () rest := ih (by omega)
      refine (takes_peek _).look ((takes_skip '\\' _).bind ((takes_peek _).look ?_))
      refine (takes_skip 'u' _).bind ?_
      show Takes _ ((digits ++ body) ++ ['"']) () rest
      rw [List.append_assoc]
      exact (takes_hexFour spells _).map.bind later

/-! ## Values -/

/-- What is still to come of a text: a value, or the members of a list or of an object and its end. -/
inductive Symbol where
  | value
  | items (first : Bool)
  | fields (first : Bool)

/-- The texts that are well formed. -/
inductive WellFormed : Symbol → List Char → Prop
  | null : WellFormed .value ['n', 'u', 'l', 'l']
  | true : WellFormed .value ['t', 'r', 'u', 'e']
  | false : WellFormed .value ['f', 'a', 'l', 's', 'e']
  | number {text : List Char} : Unsigned text → WellFormed .value text
  | negative {text : List Char} : Unsigned text → WellFormed .value ('-' :: text)
  | text {body : List Char} : Body body → WellFormed .value ('"' :: (body ++ ['"']))
  | list {text : List Char} : WellFormed (.items Bool.true) text → WellFormed .value ('[' :: text)
  | object {text : List Char} :
      WellFormed (.fields Bool.true) text → WellFormed .value ('\x7b' :: text)
  | listEnd (first : Bool) {blanks : List Char} :
      Blank blanks → WellFormed (.items first) (blanks ++ [']'])
  | item {first : Bool} {gap text rest : List Char} : Separates first gap →
      WellFormed .value text → WellFormed (.items Bool.false) rest →
      WellFormed (.items first) (gap ++ (text ++ rest))
  | objectEnd (first : Bool) {blanks : List Char} :
      Blank blanks → WellFormed (.fields first) (blanks ++ ['\x7d'])
  | field {first : Bool} {gap name gap' text rest : List Char} : Separates first gap →
      Body name → Assigns gap' → WellFormed .value text → WellFormed (.fields Bool.false) rest →
      WellFormed (.fields first) (gap ++ ('"' :: (name ++ ('"' :: (gap' ++ (text ++ rest))))))

theorem Unsigned.cons (number : Unsigned text) : ∃ c tail, text = c :: tail ∧ c.isDigit = true := by
  obtain @⟨whole, fraction, exponent, isWhole, -, -⟩ := number
  cases isWhole with
  | zero => exact ⟨'0', _, rfl, rfl⟩
  | digits digits =>
      obtain ⟨c, tail, rfl, digit⟩ := digits.cons
      exact ⟨c, _, rfl, digit⟩

namespace WellFormed

theorem solid (formed : WellFormed .value text) : Solid text := by
  cases formed with
  | null => exact ⟨'n', _, rfl, by decide⟩
  | true => exact ⟨'t', _, rfl, by decide⟩
  | false => exact ⟨'f', _, rfl, by decide⟩
  | number number =>
      obtain ⟨c, tail, rfl, digit⟩ := number.cons
      exact ⟨c, tail, rfl, isBlank_of_isDigit digit, ne_of_isDigit digit (by decide),
        ne_of_isDigit digit (by decide)⟩
  | negative => exact ⟨'-', _, rfl, by decide⟩
  | text => exact ⟨'"', _, rfl, by decide⟩
  | list => exact ⟨'[', _, rfl, by decide⟩
  | object => exact ⟨'\x7b', _, rfl, by decide⟩

theorem length_pos {symbol : Symbol} (formed : WellFormed symbol text) : 0 < text.length := by
  cases symbol with
  | value =>
      obtain ⟨c, tail, rfl, -⟩ := formed.solid
      exact Nat.succ_pos _
  | items first =>
      cases formed with
      | listEnd => simp
      | item _ value =>
          obtain ⟨c, tail, rfl, -⟩ := value.solid
          simp only [List.length_append, List.length_cons]
          omega
  | fields first =>
      cases formed with
      | objectEnd => simp
      | field =>
          simp only [List.length_append, List.length_cons]
          omega

theorem ends_items (formed : WellFormed (.items Bool.false) text) (rest : List Char) :
    EndsNumber (text ++ rest) := by
  cases formed with
  | listEnd _ blank => exact ends_close blank (by decide) rest
  | item separates =>
      rw [List.append_assoc]
      exact ends_separator separates _

theorem ends_fields (formed : WellFormed (.fields Bool.false) text) (rest : List Char) :
    EndsNumber (text ++ rest) := by
  cases formed with
  | objectEnd _ blank => exact ends_close blank (by decide) rest
  | field separates =>
      rw [List.append_assoc]
      exact ends_separator separates _

end WellFormed

/-- A number is passed over as a value. -/
theorem takes_ignored_number (number : Unsigned text) {blanks : List Char} (blank : Blank blanks)
    (ends : EndsNumber rest) (turns : Nat) : Takes (ignored (turns + 1)) (blanks ++ text) () rest := by
  obtain ⟨c, tail, rfl, digit⟩ := number.cons
  unfold ignored
  refine (sees blank (isBlank_of_isDigit digit) _).bind ?_
  split
  case h_9 same =>
    obtain rfl := Option.some.inj same
    rw [if_pos digit]
    exact takes_ignoredNumber number ends
  case h_1 absent => exact nomatch absent
  all_goals
    next same => exact absurd (Option.some.inj same) (ne_of_isDigit digit (by decide))

section Members

variable {turns : Nat} {first : Bool} {gap tail : List Char}

/-- An element of a list is passed over with what separates it from the one before, and then the
rest. -/
theorem takes_ignoredItem (separates : Separates first gap) (solid : Solid text)
    (reads : ∀ blanks, Blank blanks → Takes (ignored turns) (blanks ++ text) () (tail ++ rest))
    (later : Takes (ignoredItems turns false) tail () rest) :
    Takes (ignoredItems (turns + 1) first) (gap ++ (text ++ tail)) () rest := by
  obtain ⟨before, behind, blank, blank', rfl⟩ := separates
  unfold ignoredItems
  cases first with
  | true =>
      have here : Takes (do ignored turns; ignoredItems turns false) (text ++ tail) () rest :=
        (reads [] .nil).bind later
      obtain ⟨c, front, rfl, plain, shut, separate⟩ := solid
      refine Takes.bind (sees (blank.append blank') plain _) ?_
      split
      case h_1 absent => exact nomatch absent
      case h_2 closed => exact absurd (Option.some.inj closed) shut
      case h_3 comma => exact absurd (Option.some.inj comma) separate
      case h_4 => exact here
  | false =>
      rw [List.append_assoc]
      refine (sees blank (by decide) _).bind ((takes_skip ',' _).bind ?_)
      show Takes _ (behind ++ (text ++ tail)) () rest
      rw [← List.append_assoc]
      exact (reads behind blank').bind later

/-- A key is passed over with its value, and then the rest. -/
theorem takes_ignoredField {name : List Char} (isBody : Body name) (enough : name.length < turns)
    (assigns : Assigns gap)
    (reads : ∀ blanks, Blank blanks → Takes (ignored turns) (blanks ++ text) () (tail ++ rest))
    (later : Takes (ignoredFields turns false) tail () rest) {blanks : List Char}
    (blank : Blank blanks) : Takes (ignoredField (turns + 1))
      (blanks ++ ('"' :: (name ++ ('"' :: (gap ++ (text ++ tail)))))) () rest := by
  obtain ⟨before, behind, blank', blank'', rfl⟩ := assigns
  unfold ignoredField
  refine (sees blank (by decide) _).bind ((takes_skip '"' _).bind ?_)
  show Takes _ (name ++ ('"' :: ((before ++ ':' :: behind) ++ (text ++ tail)))) () rest
  rw [List.append_cons, List.append_assoc before]
  refine (takes_ignoredText isBody enough _).bind ?_
  refine (sees blank' (by decide) _).bind ((takes_skip ':' _).bind ?_)
  show Takes _ (behind ++ (text ++ tail)) () rest
  rw [← List.append_assoc]
  exact (reads behind blank'').bind later

theorem takes_ignoredFields (separates : Separates first gap)
    (field : ∀ blanks, Blank blanks → Takes (ignoredField turns) (blanks ++ '"' :: text) () rest) :
    Takes (ignoredFields (turns + 1) first) (gap ++ '"' :: text) () rest := by
  obtain ⟨before, behind, blank, blank', rfl⟩ := separates
  unfold ignoredFields
  cases first with
  | true => exact Takes.bind (sees (blank.append blank') (by decide) _) (field [] .nil)
  | false =>
      rw [List.append_assoc]
      exact (sees blank (by decide) _).bind ((takes_skip ',' _).bind (field behind blank'))

end Members

/-- Whether a part of a text is passed over, in some turns. -/
def Passes (turns : Nat) (text rest : List Char) : Symbol → Prop
  | .value => ∀ blanks, Blank blanks → EndsNumber rest → Takes (ignored turns) (blanks ++ text) () rest
  | .items first => Takes (ignoredItems turns first) text () rest
  | .fields first => Takes (ignoredFields turns first) text () rest

/-- What is well formed is passed over. -/
theorem WellFormed.passes {symbol : Symbol} (formed : WellFormed symbol text) (turns : Nat)
    (enough : 2 * text.length ≤ turns + 1) (rest : List Char) :
    Passes (turns + 1) text rest symbol := by
  -- every call spends a turn, and no more than two calls are made for a character
  induction formed generalizing turns rest with
  | null =>
      intro blanks blank _
      unfold ignored
      exact (sees blank (by decide) _).bind ((takes_skip 'n' _).bind (takes_word ['u', 'l', 'l'] rest))
  | true =>
      intro blanks blank _
      unfold ignored
      exact (sees blank (by decide) _).bind ((takes_skip 't' _).bind (takes_word ['r', 'u', 'e'] rest))
  | false =>
      intro blanks blank _
      unfold ignored
      exact (sees blank (by decide) _).bind
        ((takes_skip 'f' _).bind (takes_word ['a', 'l', 's', 'e'] rest))
  | number number => exact fun blanks blank ends => takes_ignored_number number blank ends turns
  | negative number =>
      intro blanks blank ends
      unfold ignored
      exact (sees blank (by decide) _).bind ((takes_skip '-' _).bind (takes_ignoredNumber number ends))
  | @text body isBody =>
      intro blanks blank _
      simp only [List.length_cons, List.length_append] at enough
      unfold ignored
      exact (sees blank (by decide) _).bind
        ((takes_skip '"' _).bind (takes_ignoredText isBody (by omega) rest))
  | @list text formed ih =>
      intro blanks blank _
      rw [List.length_cons] at enough
      obtain ⟨turns, rfl⟩ : ∃ more, turns = more + 1 := ⟨turns - 1, by omega⟩
      have takes : Takes (ignoredItems (turns + 1) Bool.true) text () rest :=
        ih turns (by omega) rest
      unfold ignored
      exact (sees blank (by decide) _).bind ((takes_skip '[' _).bind takes)
  | @object text formed ih =>
      intro blanks blank _
      rw [List.length_cons] at enough
      obtain ⟨turns, rfl⟩ : ∃ more, turns = more + 1 := ⟨turns - 1, by omega⟩
      have takes : Takes (ignoredFields (turns + 1) Bool.true) text () rest :=
        ih turns (by omega) rest
      unfold ignored
      exact (sees blank (by decide) _).bind ((takes_skip '\x7b' _).bind takes)
  | listEnd first blank =>
      unfold Passes ignoredItems
      exact takes_bracket blank (by decide) (takes_skip ']' rest)
  | @item first gap text tail separates value others ih ih' =>
      have here := value.length_pos
      have after := others.length_pos
      simp only [List.length_append] at enough
      obtain ⟨turns, rfl⟩ : ∃ more, turns = more + 1 := ⟨turns - 1, by omega⟩
      refine takes_ignoredItem separates value.solid (fun blanks blank => ?_) ?_
      · exact ih turns (by omega) (tail ++ rest) blanks blank (others.ends_items rest)
      · exact ih' turns (by omega) rest
  | objectEnd first blank =>
      unfold Passes ignoredFields
      exact takes_bracket blank (by decide) (takes_skip '\x7d' rest)
  | @field first gap name gap' text tail separates isBody assigns value others ih ih' =>
      have here := value.length_pos
      simp only [List.length_append, List.length_cons] at enough
      obtain ⟨turns, rfl⟩ : ∃ more, turns = more + 2 := ⟨turns - 2, by omega⟩
      refine takes_ignoredFields separates fun blanks blank => ?_
      refine takes_ignoredField isBody (by omega) assigns (fun blanks blank => ?_) ?_ blank
      · exact ih turns (by omega) (tail ++ rest) blanks blank (others.ends_fields rest)
      · exact ih' turns (by omega) rest

/-- A value that nobody asks for is passed over if it is well formed. -/
theorem takes_ignoredValue (formed : WellFormed .value text) {blanks : List Char}
    (blank : Blank blanks) (ends : EndsNumber rest) :
    Takes ignoredValue (blanks ++ text) () rest := by
  refine .inspect fun _ => formed.passes _ ?_ rest blanks blank ends
  simp only [List.length_append]
  omega

end SourceAtlas.Json
