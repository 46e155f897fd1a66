import SourceAtlas.Proofs.JsonTexts

/-!
# Reading JSON texts back

The texts of a value: its tokens in order, with any blanks between them, and each text in any of the
ways to write it (`Spells`). What is printed of a value is one of its texts, on one line or on many,
and a value is read back from each of them (`parse_spelled`).
-/

namespace SourceAtlas.Json

namespace Reader

variable {rest : List Char}

/-! ## Between tokens -/

def Blank (gap : List Char) : Prop :=
  ∀ c ∈ gap, isBlank c = true

theorem Blank.nil : Blank [] :=
  List.forall_mem_nil _

theorem Blank.append {gap gap' : List Char} (first : Blank gap) (second : Blank gap') :
    Blank (gap ++ gap') :=
  List.forall_mem_append.2 ⟨first, second⟩

/-- What stands in front of an element: a comma, unless it is the first. -/
def comma (first : Bool) : List Char :=
  if first then [] else [',']

/-- Whether a stretch of text stands between two members, or before the first of them. -/
def Separates (first : Bool) (gap : List Char) : Prop :=
  ∃ before after, Blank before ∧ Blank after ∧ gap = before ++ (comma first ++ after)

/-- Whether a stretch of text stands between a key and its value. -/
def Assigns (gap : List Char) : Prop :=
  ∃ before after, Blank before ∧ Blank after ∧ gap = before ++ ':' :: after

/-- Whether a text starts with what could start a value: with no blank, with no comma, and with no
end of a list. -/
def Solid (text : List Char) : Prop :=
  ∃ c tail, text = c :: tail ∧ isBlank c = false ∧ c ≠ ']' ∧ c ≠ ','

theorem Solid.append {text : List Char} (solid : Solid text) (rest : List Char) :
    Solid (text ++ rest) := by
  obtain ⟨c, tail, rfl, plain, shut, separate⟩ := solid
  exact ⟨c, tail ++ rest, rfl, plain, shut, separate⟩

section

variable {blanks : List Char} (blank : Blank blanks)

include blank

/-- A token is looked at behind some blanks. -/
theorem sees {c : Char} (plain : isBlank c = false) (rest : List Char) :
    Takes peekValue blanks (some c) (c :: rest) :=
  takes_peekValue blank (by simpa using plain)

theorem takes_bracket {c : Char} (plain : isBlank c = false) {x : Option Char → Reader α} {a : α}
    (takes : Takes (x (some c)) [c] a rest) : Takes (peekValue >>= x) (blanks ++ [c]) a rest :=
  (sees blank plain rest).bind takes

end

theorem takes_anotherItem {first : Bool} {gap : List Char} (separates : Separates first gap)
    (solid : Solid rest) : Takes (anotherItem first) gap true rest := by
  obtain ⟨before, after, blank, blank', rfl⟩ := separates
  obtain ⟨c, tail, rfl, plain, shut, -⟩ := solid
  cases first with
  | true =>
      refine (sees (blank.append blank') plain tail).finish ?_
      simp only [if_true]
      exact .pure true _
  | false =>
      refine (sees blank (by decide) _).bind ((takes_skip ',' _).bind
        ((sees blank' plain tail).finish ?_))
      split
      next closed => exact absurd (Option.some.inj closed) shut
      next => exact .pure true _
      next absent => exact nomatch absent

theorem takes_anotherKey {first : Bool} {gap name : List Char} {s : String}
    (separates : Separates first gap) (quotes : Quotes s name) :
    Takes (anotherKey first) gap true (name ++ rest) := by
  obtain ⟨before, after, blank, blank', rfl⟩ := separates
  obtain ⟨body, -, rfl⟩ := quotes
  cases first with
  | true => exact (sees (blank.append blank') (by decide) _).finish (.pure true _)
  | false =>
      exact (sees blank (by decide) _).bind ((takes_skip ',' _).bind
        ((sees blank' (by decide) _).finish (.pure true _)))

/-- A colon is taken, and the blanks behind it are left. -/
theorem takes_colon {blanks : List Char} (blank : Blank blanks) (rest : List Char) :
    Takes colon (blanks ++ [':']) () rest :=
  takes_bracket blank (by decide) (takes_skip ':' rest)

end Reader

open Reader

/-! ## The texts of a value -/

/-- Whether a whole number is read as one: it fits into 64 bits, with a sign if it is negative. -/
def Narrow (n : Int) : Prop :=
  -0x8000000000000000 ≤ n ∧ n < 0x10000000000000000

/-- What is still to come of a text: a value, or the members of a list or of an object and its end. -/
inductive Part where
  | value (v : Json)
  | items (first : Bool) (items : List Json)
  | fields (first : Bool) (fields : List (String × Json))

/-- The ways to write a part of a JSON text. -/
inductive Spells : Part → List Char → Prop
  | null : Spells (.value .null) ['n', 'u', 'l', 'l']
  | true : Spells (.value (.bool true)) ['t', 'r', 'u', 'e']
  | false : Spells (.value (.bool false)) ['f', 'a', 'l', 's', 'e']
  | num {n : Int} : Narrow n → Spells (.value (.num n)) (toString n).toList
  | str {s : String} {text : List Char} : Quotes s text → Spells (.value (.str s)) text
  | arr {items : List Json} {text : List Char} :
      Spells (.items Bool.true items) text → Spells (.value (.arr items)) ('[' :: text)
  | obj {fields : List (String × Json)} {text : List Char} :
      Spells (.fields Bool.true fields) text → Spells (.value (.obj fields)) ('\x7b' :: text)
  | itemsEnd (first : Bool) {blanks : List Char} :
      Blank blanks → Spells (.items first []) (blanks ++ [']'])
  | item {first : Bool} {v : Json} {items : List Json} {gap text rest : List Char} :
      Separates first gap → Spells (.value v) text → Spells (.items Bool.false items) rest →
      Spells (.items first (v :: items)) (gap ++ (text ++ rest))
  | fieldsEnd (first : Bool) {blanks : List Char} :
      Blank blanks → Spells (.fields first []) (blanks ++ ['\x7d'])
  | field {first : Bool} {name : String} {v : Json} {fields : List (String × Json)}
      {gap key gap' text rest : List Char} :
      Separates first gap → Quotes name key → Assigns gap' → Spells (.value v) text →
      Spells (.fields Bool.false fields) rest →
      Spells (.fields first ((name, v) :: fields)) (gap ++ (key ++ (gap' ++ (text ++ rest))))

theorem ends_mark {c : Char} (mark : c ∈ [',', ']', '\x7d']) (rest : List Char) :
    EndsNumber (c :: rest) := by
  intro d next
  obtain rfl : c = d := Option.some.inj next
  revert mark
  simp only [List.mem_cons, List.not_mem_nil, or_false]
  rintro (rfl | rfl | rfl) <;> decide

/-- Blanks end a number. -/
theorem ends_blank {blanks rest : List Char} (blank : Blank blanks) (ends : EndsNumber rest) :
    EndsNumber (blanks ++ rest) := by
  cases blanks with
  | nil => exact ends
  | cons b blanks =>
      intro c next
      obtain rfl : b = c := Option.some.inj next
      have plain := blank b (.head _)
      simp only [isBlank, Bool.or_eq_true, beq_iff_eq] at plain
      rcases plain with ((rfl | rfl) | rfl) | rfl <;> decide

/-- A number ends where another member or none follows. -/
theorem ends_separator {gap : List Char} (separates : Separates false gap) (rest : List Char) :
    EndsNumber (gap ++ rest) := by
  obtain ⟨before, after, blank, -, rfl⟩ := separates
  rw [List.append_assoc]
  exact ends_blank blank (ends_mark (by decide) _)

theorem ends_close {blanks : List Char} (blank : Blank blanks) {c : Char}
    (mark : c ∈ [',', ']', '\x7d']) (rest : List Char) : EndsNumber (blanks ++ [c] ++ rest) := by
  rw [List.append_assoc]
  exact ends_blank blank (ends_mark mark _)

namespace Spells

variable {text : List Char}

/-- A value starts with its first token. -/
theorem solid {v : Json} (spells : Spells (.value v) text) : Solid text := by
  cases spells with
  | null => exact ⟨'n', _, rfl, by decide⟩
  | true => exact ⟨'t', _, rfl, by decide⟩
  | false => exact ⟨'f', _, rfl, by decide⟩
  | @num n =>
      obtain ⟨c, tail, printed, digit⟩ := toDigits_cons n.natAbs
      rw [toList_int, printed]
      split
      · exact ⟨'-', _, rfl, by decide⟩
      · exact ⟨c, tail, rfl, isBlank_of_isDigit digit, ne_of_isDigit digit (by decide),
          ne_of_isDigit digit (by decide)⟩
  | str quotes =>
      obtain ⟨body, -, rfl⟩ := quotes
      exact ⟨'"', _, rfl, by decide⟩
  | arr => exact ⟨'[', _, rfl, by decide⟩
  | obj => exact ⟨'\x7b', _, rfl, by decide⟩

theorem length_pos {part : Part} (spells : Spells part text) : 0 < text.length := by
  have present {v : Json} {text : List Char} (spells : Spells (.value v) text) :
      0 < text.length := by
    obtain ⟨c, tail, rfl, -⟩ := spells.solid
    exact Nat.succ_pos _
  cases part with
  | value v => exact present spells
  | items first items =>
      cases spells with
      | itemsEnd => simp
      | item _ value =>
          have := present value
          simp only [List.length_append]
          omega
  | fields first fields =>
      cases spells with
      | fieldsEnd => simp
      | field _ _ _ value =>
          have := present value
          simp only [List.length_append]
          omega

/-- A number ends where more members or the end of the list follow. -/
theorem ends_items {items : List Json} (spells : Spells (.items Bool.false items) text)
    (rest : List Char) : EndsNumber (text ++ rest) := by
  cases spells with
  | itemsEnd _ blank => exact ends_close blank (by decide) rest
  | item separates =>
      rw [List.append_assoc]
      exact ends_separator separates _

theorem ends_fields {fields : List (String × Json)} (spells : Spells (.fields Bool.false fields) text)
    (rest : List Char) : EndsNumber (text ++ rest) := by
  cases spells with
  | fieldsEnd _ blank => exact ends_close blank (by decide) rest
  | field separates =>
      rw [List.append_assoc]
      exact ends_separator separates _

end Spells

/-! ## Reading -/

/-- Whether a part of a text is read as what it stands for, in some turns. -/
def Reads (turns : Nat) (text rest : List Char) : Part → Prop
  | .value v => ∀ blanks, Blank blanks → EndsNumber rest → Takes (value turns) (blanks ++ text) v rest
  | .items first items => Takes (valueItems turns first) text items rest
  | .fields first fields => Takes (valueFields turns first) text fields rest

theorem takes_integer {n : Int} (narrow : Narrow n) (turns : Nat) {blanks rest : List Char}
    (blank : Blank blanks) (ends : EndsNumber rest) :
    Takes (value (turns + 1)) (blanks ++ (toString n).toList) (.num n) rest := by
  obtain ⟨low, high⟩ := narrow
  rw [toList_int]
  unfold value
  by_cases negative : n < 0
  · have takes := takes_number (n := n.natAbs) Bool.true (by simp only [UInt64.size]; omega)
      (fun _ => by omega) ends
    have same : (n.natAbs : Int) = -n := by omega
    rw [if_pos negative]
    refine (sees blank (by decide) _).bind ((takes_skip '-' _).bind (takes.finish ?_))
    show Takes (Pure.pure (.num (-(n.natAbs : Int)))) [] (Json.num n) rest
    rw [same, Int.neg_neg]
    exact .pure _ rest
  · have takes := takes_number (n := n.natAbs) Bool.false (by simp only [UInt64.size]; omega) nofun
      ends
    have same' : (n.natAbs : Int) = n := by omega
    obtain ⟨c, tail, printed, digit⟩ := toDigits_cons n.natAbs
    rw [printed] at takes ⊢
    rw [if_neg negative, List.nil_append]
    refine (sees blank (isBlank_of_isDigit digit) _).bind ?_
    split
    case h_9 same =>
      obtain rfl := Option.some.inj same
      rw [if_pos digit]
      refine takes.finish ?_
      show Takes (Pure.pure (.num (n.natAbs : Int))) [] (Json.num n) rest
      rw [same']
      exact .pure _ rest
    case h_1 absent => exact nomatch absent
    all_goals
      next same => exact absurd (Option.some.inj same) (ne_of_isDigit digit (by decide))

/-- A value is read from each of its texts. -/
theorem Spells.reads {part : Part} {text : List Char} (spells : Spells part text) (turns : Nat)
    (enough : 2 * text.length ≤ turns + 1) (rest : List Char) : Reads (turns + 1) text rest part := by
  -- every call spends a turn, and no more than two calls are made for a character
  induction spells generalizing turns rest with
  | null =>
      intro blanks blank _
      unfold value
      exact (sees blank (by decide) _).bind ((takes_skip 'n' _).bind
        ((takes_word ['u', 'l', 'l'] rest).finish (Takes.pure Json.null rest)))
  | true =>
      intro blanks blank _
      unfold value
      exact (sees blank (by decide) _).bind ((takes_skip 't' _).bind
        ((takes_word ['r', 'u', 'e'] rest).finish (Takes.pure (Json.bool Bool.true) rest)))
  | false =>
      intro blanks blank _
      unfold value
      exact (sees blank (by decide) _).bind ((takes_skip 'f' _).bind
        ((takes_word ['a', 'l', 's', 'e'] rest).finish (Takes.pure (Json.bool Bool.false) rest)))
  | num narrow => exact fun blanks blank ends => takes_integer narrow turns blank ends
  | str quotes =>
      intro blanks blank _
      obtain ⟨body, spells, rfl⟩ := quotes
      unfold value
      exact (sees blank (by decide) _).bind
        ((takes_skip '"' _).bind (takes_textBody spells rest).map)
  | @arr items text spells ih =>
      intro blanks blank _
      rw [List.length_cons] at enough
      obtain ⟨turns, rfl⟩ : ∃ more, turns = more + 1 := ⟨turns - 1, by omega⟩
      have takes : Takes (valueItems (turns + 1) Bool.true) text items rest :=
        ih turns (by omega) rest
      unfold value
      exact (sees blank (by decide) _).bind ((takes_skip '[' _).bind takes.map)
  | @obj fields text spells ih =>
      intro blanks blank _
      rw [List.length_cons] at enough
      obtain ⟨turns, rfl⟩ : ∃ more, turns = more + 1 := ⟨turns - 1, by omega⟩
      have takes : Takes (valueFields (turns + 1) Bool.true) text fields rest :=
        ih turns (by omega) rest
      unfold value
      exact (sees blank (by decide) _).bind ((takes_skip '\x7b' _).bind takes.map)
  | itemsEnd first blank =>
      unfold Reads valueItems
      refine Takes.bind ((sees blank (by decide) rest).finish (.pure Bool.false _)) ?_
      exact (takes_skip ']' rest).finish (.pure [] rest)
  | @item first v items gap text tail separates value others ih ih' =>
      have here := value.length_pos
      have later := others.length_pos
      simp only [List.length_append] at enough
      obtain ⟨turns, rfl⟩ : ∃ more, turns = more + 1 := ⟨turns - 1, by omega⟩
      unfold Reads valueItems
      refine Takes.bind (a := Bool.true) (takes_anotherItem separates ?_) ?_
      · exact (value.solid.append tail).append rest
      rw [if_pos rfl]
      refine Takes.bind (ih turns (by omega) _ [] .nil (others.ends_items rest)) ?_
      exact Takes.finish (ih' turns (by omega) rest) (.pure _ _)
  | fieldsEnd first blank =>
      unfold Reads valueFields
      refine Takes.bind ((sees blank (by decide) rest).finish (.pure Bool.false _)) ?_
      exact (takes_skip '\x7d' rest).finish (.pure [] rest)
  | @field first name v fields gap key gap' text tail separates quotes assigns value others ih ih' =>
      have here := value.length_pos
      have later := others.length_pos
      simp only [List.length_append] at enough
      obtain ⟨turns, rfl⟩ : ∃ more, turns = more + 1 := ⟨turns - 1, by omega⟩
      obtain ⟨before, after, blank, blank', rfl⟩ := assigns
      unfold Reads valueFields
      refine Takes.bind (a := Bool.true) ?_ ?_
      · rw [List.append_assoc]
        exact takes_anotherKey separates quotes
      rw [if_pos rfl]
      refine Takes.bind (takes_key quotes _) ?_
      rw [List.append_cons, List.append_assoc]
      refine Takes.bind (takes_colon blank _) ?_
      rw [← List.append_assoc]
      refine Takes.bind (ih turns (by omega) _ after blank' (others.ends_fields rest)) ?_
      exact Takes.finish (ih' turns (by omega) rest) (.pure _ _)

/-- What a reader takes of a whole text, if it leaves blanks only. -/
theorem Reader.run_eq_ok {x : Reader α} {a : α} {front after : List Char}
    (takes : Takes x front a after) (blank : Blank after) :
    run x (String.ofList (front ++ after)) = .ok a := by
  have ends : Takes peekValue after none [] := takes_peekValue blank nofun
  have first : Takes x front a (after ++ []) := by rwa [List.append_nil]
  unfold run
  rw [String.toList_ofList, ← List.append_nil (front ++ after)]
  exact Takes.result (first.bind (ends.finish (.pure a []))) {}

/-- The value that a text holds is read from it, whatever blanks stand before and behind it. -/
theorem parse_spelled {v : Json} {before text after : List Char} (blank : Blank before)
    (spells : Spells (.value v) text) (blank' : Blank after) :
    parse (String.ofList (before ++ text ++ after)) = .ok v := by
  have ends : EndsNumber after := by
    have none : EndsNumber [] := nofun
    simpa using ends_blank blank' none
  refine run_eq_ok (.inspect fun _ => spells.reads _ ?_ after before blank ends) blank'
  simp only [List.length_append]
  omega

/-! ## Printing -/

/-- Whether all numbers of a value are read as whole numbers. -/
inductive Fits : Json → Prop
  | null : Fits .null
  | bool (b : Bool) : Fits (.bool b)
  | num {n : Int} : Narrow n → Fits (.num n)
  | str (s : String) : Fits (.str s)
  | arr {items : List Json} : (∀ item ∈ items, Fits item) → Fits (.arr items)
  | obj {fields : List (String × Json)} : (∀ field ∈ fields, Fits field.2) → Fits (.obj fields)

theorem fits_nat {n : Nat} (bound : n < UInt64.size) : Fits (.nat n) := by
  refine .num ⟨?_, ?_⟩
  · have := Int.natCast_nonneg n
    omega
  · exact Int.ofNat_lt.2 bound

theorem blank_newline (level : Nat) : Blank (newline level).toList := by
  intro c member
  rw [newline, String.toList_ofList] at member
  rcases List.mem_cons.1 member with rfl | member
  · rfl
  · rw [List.eq_of_mem_replicate member]
    rfl

/-- Members are separated by a comma, and by what stands behind it. -/
theorem separates_comma (first : Bool) {gap : List Char} (blank : Blank gap) :
    Separates first (comma first ++ gap) :=
  ⟨[], gap, .nil, blank, rfl⟩

section Members

variable {α : Type} {print : α → List Char} {gap close : List Char}

/-- Some members with their separators, and what closes them. -/
def membersText (print : α → List Char) (gap close : List Char) : Bool → List α → List Char
  | _, [] => close
  | first, a :: rest => (comma first ++ gap) ++ (print a ++ membersText print gap close false rest)

/-- Members that are joined with commas are separated by them. -/
theorem joined_append (joined : List α → String) (one : ∀ a, (joined [a]).toList = gap ++ print a)
    (more : ∀ a b rest, (joined (a :: b :: rest)).toList =
      gap ++ (print a ++ ',' :: (joined (b :: rest)).toList)) (a : α) (rest : List α) :
    (joined (a :: rest)).toList ++ close = membersText print gap close true (a :: rest) := by
  induction rest generalizing a with
  | nil => simp [one, membersText, comma]
  | cons b rest ih =>
      have later := ih b
      simp only [membersText, comma, if_true, Bool.false_eq_true, if_false, List.nil_append] at later ⊢
      rw [more, List.append_assoc, List.append_assoc, List.cons_append, later]
      simp

end Members

section Layout

variable {print : Json → List Char} {gap close pad : List Char}
variable (blank : Blank gap) (blank' : Blank close) (blank'' : Blank pad)

include blank blank'

theorem spells_items {items : List Json} (each : ∀ v ∈ items, Spells (.value v) (print v))
    (first : Bool) :
    Spells (.items first items) (membersText print gap (close ++ [']']) first items) := by
  induction items generalizing first with
  | nil => exact .itemsEnd first blank'
  | cons v items ih =>
      obtain ⟨value, others⟩ := List.forall_mem_cons.1 each
      exact .item (separates_comma first blank) value (ih others false)

include blank''

theorem spells_fields {fields : List (String × Json)}
    (each : ∀ field ∈ fields, Spells (.value field.2) (print field.2)) (first : Bool) :
    Spells (.fields first fields) (membersText
      (fun field => (quote field.1).toList ++ (':' :: pad ++ print field.2)) gap (close ++ ['\x7d'])
      first fields) := by
  induction fields generalizing first with
  | nil => exact .fieldsEnd first blank'
  | cons field fields ih =>
      obtain ⟨value, others⟩ := List.forall_mem_cons.1 each
      have assigns : Assigns (':' :: pad) := ⟨[], pad, .nil, blank'', rfl⟩
      have spells := Spells.field (separates_comma first blank) (quotes_quote field.1) assigns value
        (ih others false)
      simpa [membersText] using spells

end Layout

/-- A list is printed as one of its texts if its elements are. -/
theorem spells_arr (joined : List Json → String) (print : Json → List Char) (gap : List Char)
    {close : List Char} (one : ∀ v, (joined [v]).toList = gap ++ print v)
    (more : ∀ v w items, (joined (v :: w :: items)).toList =
      gap ++ (print v ++ ',' :: (joined (w :: items)).toList))
    (blank : Blank gap) (blank' : Blank close) {v : Json} {items : List Json}
    (each : ∀ w ∈ v :: items, Spells (.value w) (print w)) :
    Spells (.value (.arr (v :: items)))
      ('[' :: ((joined (v :: items)).toList ++ (close ++ [']']))) := by
  rw [joined_append joined one more]
  exact .arr (spells_items blank blank' each true)

/-- An object is printed as one of its texts if the values of its fields are. -/
theorem spells_obj (joined : List (String × Json) → String) (print : Json → List Char)
    (gap pad : List Char) {close : List Char}
    (one : ∀ f : String × Json, (joined [f]).toList =
      gap ++ ((quote f.1).toList ++ (':' :: pad ++ print f.2)))
    (more : ∀ (f g : String × Json) fields, (joined (f :: g :: fields)).toList =
      gap ++ (((quote f.1).toList ++ (':' :: pad ++ print f.2)) ++ ',' :: (joined (g :: fields)).toList))
    (blank : Blank gap) (blank' : Blank close) (blank'' : Blank pad) {field : String × Json}
    {fields : List (String × Json)}
    (each : ∀ f ∈ field :: fields, Spells (.value f.2) (print f.2)) :
    Spells (.value (.obj (field :: fields)))
      ('\x7b' :: ((joined (field :: fields)).toList ++ (close ++ ['\x7d']))) := by
  rw [joined_append joined one more]
  exact .obj (spells_fields blank blank' blank'' each true)

/-- A value is printed on one line as one of its texts. -/
theorem spells_compact {v : Json} (fits : v.Fits) : Spells (.value v) v.compact.toList := by
  induction fits with
  | null => exact .null
  | bool b => cases b with
    | false => exact .false
    | true => exact .true
  | num narrow => exact .num narrow
  | str s => exact .str (quotes_quote s)
  | @arr items _ ih =>
      cases items with
      | nil => exact .arr (.itemsEnd true .nil)
      | cons v items =>
          have spells := spells_arr compactItems (fun v => v.compact.toList) []
            (fun v => by simp [compactItems]) (fun v w items => by simp [compactItems]) .nil .nil ih
          simpa [compact] using spells
  | @obj fields _ ih =>
      cases fields with
      | nil => exact .obj (.fieldsEnd true .nil)
      | cons field fields =>
          have spells := spells_obj compactFields (fun v => v.compact.toList) [] []
            (fun f => by simp [compactFields]) (fun f g fields => by simp [compactFields])
            .nil .nil .nil ih
          simpa [compact] using spells

/-- A value is printed on several lines as one of its texts. -/
theorem spells_prettyAt {v : Json} (fits : v.Fits) (level : Nat) :
    Spells (.value v) (prettyAt level v).toList := by
  induction fits generalizing level with
  | null => simpa [prettyAt] using Spells.null
  | bool b => cases b with
    | false => simpa [prettyAt] using Spells.false
    | true => simpa [prettyAt] using Spells.true
  | num narrow => simpa [prettyAt] using Spells.num narrow
  | str s => simpa [prettyAt] using Spells.str (quotes_quote s)
  | @arr items _ ih =>
      cases items with
      | nil => simpa [prettyAt] using Spells.arr (.itemsEnd true .nil)
      | cons v items =>
          have spells := spells_arr (prettyItems (level + 1)) (fun v => (prettyAt (level + 1) v).toList)
            (newline (level + 1)).toList (fun v => by simp [prettyItems])
            (fun v w items => by simp [prettyItems]) (blank_newline (level + 1)) (blank_newline level)
            (fun w member => ih w member (level + 1))
          simpa [prettyAt] using spells
  | @obj fields _ ih =>
      cases fields with
      | nil => simpa [prettyAt] using Spells.obj (.fieldsEnd true .nil)
      | cons field fields =>
          have pad : Blank [' '] := by simp [Blank]; decide
          have spells := spells_obj (prettyFields (level + 1)) (fun v => (prettyAt (level + 1) v).toList)
            (newline (level + 1)).toList [' '] (fun f => by simp [prettyFields])
            (fun f g fields => by simp [prettyFields]) (blank_newline (level + 1))
            (blank_newline level) pad (fun f member => ih f member (level + 1))
          simpa [prettyAt] using spells

/-- What is printed of a value is read back as the value. -/
theorem parse_pretty {v : Json} (fits : v.Fits) : parse (v.pretty ++ "\n") = .ok v := by
  have line : Blank ['\n'] := by simp [Blank]; decide
  have read := parse_spelled .nil (spells_prettyAt fits 0) line
  simpa [pretty] using read

end SourceAtlas.Json
