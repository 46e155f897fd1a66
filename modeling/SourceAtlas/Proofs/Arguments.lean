import SourceAtlas.CommandLine.Parser
import SourceAtlas.Proofs.Decoding
import SourceAtlas.Proofs.JsonTexts

/-!
# Arguments of the command line

An argument is a switch, or a field with its value. It is spelled by its name behind two dashes, or by a
letter behind one, and its value follows in a word of its own or behind an equals sign. However it is
spelled, reading its words adds the argument to the draft, and nothing else.
-/

namespace SourceAtlas.CommandLine

/-- Two attempts succeed one after the other just when each of them does. -/
theorem bind_eq_ok_iff {ε α β : Type} {x : Except ε α} {f : α → Except ε β} {b : β} :
    x >>= f = .ok b ↔ ∃ a, x = .ok a ∧ f a = .ok b := by
  cases x <;> simp [bind, Except.bind]

/-! ## Values -/

/-- What the value of an argument is, once it has been read. -/
abbrev Field.Value : Field → Type
  | .input | .config | .file => Bytes
  | .depth | .limit => UInt64
  | .line | .column => UInt32

/-- The word for a value. Numbers are written in decimal digits. -/
def Field.spell : (field : Field) → field.Value → Bytes
  | .input, path | .config, path | .file, path => path
  | .depth, n | .limit, n => Utf8.encode (toString n.toNat)
  | .line, n | .column, n => Utf8.encode (toString n.toNat)

/-- Whether a path may stand as a word of its own: it is not empty, and it starts with no dash. -/
def Plain (path : Bytes) : Prop :=
  path ≠ [] ∧ path.head? ≠ some dash

/-- Whether a value may stand as a word of its own. Numbers always may. -/
def Field.Plain : (field : Field) → field.Value → Prop
  | .input, path | .config, path | .file, path => CommandLine.Plain path
  | _, _ => True

section Numbers

variable (n : Nat)

theorem digits?_toDigits : digits? (Nat.toDigits 10 n) = some n := by
  have digits : (Nat.toDigits 10 n).all Char.isDigit = true := List.all_eq_true.2 fun _ member =>
    Nat.isDigit_of_mem_toDigits (b := 10) (by decide) (by decide) member
  have value : (Nat.toDigits 10 n).foldl
      (fun value digit => value * 10 + (digit.toNat - '0'.toNat)) 0 = n := by
    simp only [Nat.mul_comm _ 10]
    exact Nat.ofDigitChars_ten_toDigits
  obtain ⟨c, tail, printed, -⟩ := Json.Reader.toDigits_cons n
  rw [printed] at digits value ⊢
  rw [digits?, if_pos digits, value]
  exact List.cons_ne_nil c tail

theorem unsigned?_toDigits : unsigned? (Nat.toDigits 10 n) = some n := by
  obtain ⟨c, tail, printed, digit⟩ := Json.Reader.toDigits_cons n
  have plus : c ≠ '+' := Json.Reader.ne_of_isDigit digit rfl
  rw [← digits?_toDigits n, printed, unsigned?]
  rintro rest ⟨⟩
  exact plus rfl

theorem signed?_toDigits : signed? (Nat.toDigits 10 n) = some (n : Int) := by
  obtain ⟨c, tail, printed, digit⟩ := Json.Reader.toDigits_cons n
  have minus : c ≠ '-' := Json.Reader.ne_of_isDigit digit rfl
  have read := unsigned?_toDigits n
  rw [printed] at read ⊢
  rw [signed?, read]
  · rfl
  · rintro rest ⟨⟩
    exact minus rfl

end Numbers

/-- A text is read from its encoding. -/
theorem readText_encode (text : String) : readText (Utf8.encode text) = .ok text := by
  rw [readText, Utf8.decode?_eq_some_iff.2 rfl]

theorem readCount_spelled (n : UInt64) : readCount (Utf8.encode (toString n.toNat)) = .ok n := by
  have read : unsigned? (toString n.toNat).toList = some n.toNat := by
    rw [show (toString n.toNat).toList = _ from Nat.toList_repr, unsigned?_toDigits]
  unfold readCount
  simp only [readText_encode, bind, Except.bind, read]
  rw [if_pos n.toNat_lt_size, UInt64.ofNat_toNat]

theorem readPlace_spelled (n : UInt32) : readPlace (Utf8.encode (toString n.toNat)) = .ok n := by
  have read : signed? (toString n.toNat).toList = some (n.toNat : Int) := by
    rw [show (toString n.toNat).toList = _ from Nat.toList_repr, signed?_toDigits]
  unfold readPlace
  simp only [readText_encode, bind, Except.bind, read]
  rw [if_pos ⟨Int.natCast_nonneg _, Int.ofNat_lt.2 n.toNat_lt_size⟩, Int.toNat_natCast,
    UInt32.ofNat_toNat]

/-- A number starts with a digit. -/
theorem plain_decimal (n : Nat) : Plain (Utf8.encode (toString n)) := by
  obtain ⟨c, tail, printed, digit⟩ := Json.Reader.toDigits_cons n
  obtain ⟨b, tails, encoded⟩ := Utf8.exists_encodeChar_eq c
  have first : b ≠ dash := by
    rintro rfl
    -- a dash encodes only itself, which is no digit, and it leads no longer sequence
    obtain ⟨-, rfl, -⟩ | ⟨lead, leads, -⟩ := Utf8.encodeChar_eq_cons_iff.1 encoded
    · exact absurd digit (by decide)
    · exact nomatch (Utf8.lead?_eq_none (by decide)).symm.trans leads
  rw [Utf8.encode, show (toString n).toList = _ from Nat.toList_repr, printed, List.flatMap_cons,
    encoded]
  exact ⟨List.cons_ne_nil _ _, fun same => first (Option.some.inj same)⟩

theorem Field.plain_spell {field : Field} {value : field.Value} (plain : field.Plain value) :
    CommandLine.Plain (field.spell value) := by
  cases field with
  | input | config | file => exact plain
  | depth | limit | line | column => exact plain_decimal _

/-! ## The fields of a draft -/

namespace Draft

variable {draft : Draft} {field other : Field}

/-- The value of a field that has been read. -/
def get (draft : Draft) : (field : Field) → Option field.Value
  | .input => draft.input
  | .config => draft.config
  | .file => draft.file
  | .depth => draft.depth
  | .limit => draft.limit
  | .line => draft.line
  | .column => draft.column

/-- Gives a field a value. -/
def put (draft : Draft) : (field : Field) → field.Value → Draft
  | .input, path => { draft with input := some path }
  | .config, path => { draft with config := some path }
  | .file, path => { draft with file := some path }
  | .depth, n => { draft with depth := some n }
  | .limit, n => { draft with limit := some n }
  | .line, n => { draft with line := some n }
  | .column, n => { draft with column := some n }

@[simp] theorem get_put (value : field.Value) : (draft.put field value).get field = some value := by
  cases field <;> rfl

theorem get_put_of_ne (different : field ≠ other) (value : field.Value) :
    (draft.put field value).get other = draft.get other := by
  cases field <;> cases other <;> first | rfl | exact absurd rfl different

@[simp] theorem switches_put (value : field.Value) :
    (draft.put field value).switches = draft.switches := by
  cases field <;> rfl

@[simp] theorem clangArgs_put (value : field.Value) :
    (draft.put field value).clangArgs = draft.clangArgs := by
  cases field <;> rfl

theorem isSet_eq (draft : Draft) (field : Field) : draft.isSet field = (draft.get field).isSome := by
  cases field <;> rfl

/-- The value of an argument is read from its word. -/
theorem set_spell {value : field.Value} (plain : field.Plain value) :
    draft.set field (field.spell value) = .ok (draft.put field value) := by
  cases field with
  | input | config | file =>
      have filled : value.isEmpty = false := by simpa using plain.1
      simp only [set, Field.spell, readPath, filled]
      rfl
  | depth | limit => simp only [set, Field.spell, readCount_spelled]; rfl
  | line | column => simp only [set, Field.spell, readPlace_spelled]; rfl

/-- To read the value of an argument is to give it some value. -/
theorem exists_of_set {word : Bytes} {draft' : Draft} (read : draft.set field word = .ok draft') :
    ∃ value, draft' = draft.put field value := by
  cases field
  all_goals
    obtain ⟨value, -, ⟨⟩⟩ := bind_eq_ok_iff.1 read
    exact ⟨value, rfl⟩

end Draft

/-! ## Arguments -/

/-- An argument of a command: a switch that is on, or a field with its value. -/
inductive Argument where
  | on (switch : Switch)
  | of (field : Field) (value : field.Value)

/-- The word with two dashes for a name. -/
def longWord (name : String) : Bytes :=
  dash :: dash :: Utf8.encode name

namespace Argument

/-- What may be given only once. -/
def key : Argument → Switch ⊕ Field
  | .on switch => .inl switch
  | .of field _ => .inr field

/-- Whether the value of an argument may stand as a word of its own. -/
def Plain : Argument → Prop
  | .on _ => True
  | .of field value => field.Plain value

/-- The words that spell an argument. -/
inductive Spelled : Argument → List Bytes → Prop
  | long (switch : Switch) : Spelled (.on switch) [longWord switch.name]
  | short {switch : Switch} {letter : Char} : switch.letter? = some letter →
      Spelled (.on switch) [[dash, UInt8.ofNat letter.toNat]]
  | alone (path : Bytes) : Spelled (.of .input path) [path]
  | apart {field : Field} {name : String} (value : field.Value) : field.name? = some name →
      Spelled (.of field value) [longWord name, field.spell value]
  | joined {field : Field} {name : String} (value : field.Value) : field.name? = some name →
      Spelled (.of field value) [longWord name ++ equals :: field.spell value]

end Argument

namespace Draft

variable {draft : Draft} {argument : Argument} {arguments : List Argument}

/-- The draft with one more argument. -/
def add (draft : Draft) : Argument → Draft
  | .on switch => { draft with switches := switch :: draft.switches }
  | .of field value => draft.put field value

/-- Whether something has been given. -/
def given (draft : Draft) : Switch ⊕ Field → Bool
  | .inl switch => draft.has switch
  | .inr field => draft.isSet field

theorem has_add (switch : Switch) : (draft.add argument).has switch = true ↔
    argument = .on switch ∨ draft.has switch = true := by
  cases argument with
  | on other => simp [add, has, @eq_comm _ switch other]
  | of field value => simp [add, has]

@[simp] theorem get_add_on (switch : Switch) (field : Field) :
    (draft.add (.on switch)).get field = draft.get field := by
  cases field <;> rfl

/-- A field that has not been given before has the value that is added for it. -/
theorem get_add (fresh : draft.given argument.key = false) {field : Field} {value : field.Value} :
    (draft.add argument).get field = some value ↔
      argument = .of field value ∨ draft.get field = some value := by
  cases argument with
  | on switch => simp
  | of other value' =>
      by_cases same : other = field
      · subst same
        have absent : draft.get other = none := by
          simpa [given, Argument.key, isSet_eq] using fresh
        simp [add, absent]
      · simp [add, get_put_of_ne same, same]

/-- What has been given once an argument is added is the argument, and what was given before. -/
theorem given_add (key : Switch ⊕ Field) : (draft.add argument).given key = true ↔
    argument.key = key ∨ draft.given key = true := by
  cases key with
  | inl switch =>
      refine (has_add switch).trans (or_congr_left ?_)
      cases argument <;> simp [Argument.key]
  | inr field =>
      simp only [given, isSet_eq]
      cases argument with
      | on switch => simp [Argument.key]
      | of other value =>
          by_cases same : other = field
          · subst same
            simp [add, Argument.key]
          · simp [add, get_put_of_ne same, Argument.key, same]

/-- Where arguments are given once each, what comes later has not been given once the first is. -/
theorem fresh_add (distinct : ((argument :: arguments).map Argument.key).Nodup)
    (fresh : ∀ other ∈ argument :: arguments, draft.given other.key = false) :
    ∀ other ∈ arguments, (draft.add argument).given other.key = false := by
  intro other member
  rw [Bool.eq_false_iff, Ne, given_add, not_or]
  refine ⟨fun same => (List.nodup_cons.1 distinct).1 ?_, by simp [fresh other (.tail _ member)]⟩
  exact same ▸ List.mem_map_of_mem member

/-- The draft with some more arguments. -/
def addAll (draft : Draft) (arguments : List Argument) : Draft :=
  arguments.foldl add draft

theorem has_addAll (switch : Switch) : (draft.addAll arguments).has switch = true ↔
    .on switch ∈ arguments ∨ draft.has switch = true := by
  induction arguments generalizing draft with
  | nil => simp [addAll]
  | cons argument rest ih =>
      refine ih.trans ?_
      rw [has_add, List.mem_cons, ← or_assoc, or_comm (a := _ ∈ rest), eq_comm (a := argument)]

/-- Fields have the values that are added for them, if each is added once. -/
theorem get_addAll (distinct : (arguments.map Argument.key).Nodup)
    (fresh : ∀ argument ∈ arguments, draft.given argument.key = false)
    {field : Field} {value : field.Value} : (draft.addAll arguments).get field = some value ↔
      .of field value ∈ arguments ∨ draft.get field = some value := by
  induction arguments generalizing draft with
  | nil => simp [addAll]
  | cons argument rest ih =>
      refine (ih (List.nodup_cons.1 distinct).2 (fresh_add distinct fresh)).trans ?_
      rw [get_add (fresh argument (.head _)), List.mem_cons, ← or_assoc, or_comm (a := _ ∈ rest),
        eq_comm (a := argument)]

theorem clangArgs_addAll : (draft.addAll arguments).clangArgs = draft.clangArgs := by
  induction arguments generalizing draft with
  | nil => rfl
  | cons argument rest ih =>
      refine ih.trans ?_
      cases argument with
      | on switch => rfl
      | of field value => exact clangArgs_put value

end Draft

end SourceAtlas.CommandLine
