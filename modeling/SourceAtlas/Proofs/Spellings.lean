import Mathlib.Data.List.TakeWhile
import SourceAtlas.Proofs.Arguments

/-!
# Reading arguments

The words that spell an argument are told apart by how they begin, and what they name is found among
what may be given. However an argument is spelled, and whatever has been read before it, its words add
it to the draft.
-/

namespace SourceAtlas.CommandLine

/-! ## Names -/

theorem encode_injective : Function.Injective Utf8.encode :=
  Function.LeftInverse.injective Utf8.decodeLossy_encode

/-- What is found is the only thing that there is to find. -/
theorem find?_unique {α : Type} {p : α → Bool} {list : List α} {a : α} (member : a ∈ list)
    (holds : p a = true) (unique : ∀ b, p b = true → b = a) : list.find? p = some a := by
  cases found : list.find? p with
  | none => exact absurd holds (List.find?_eq_none.1 found a member)
  | some b => rw [unique b (List.find?_some found)]

theorem Switch.name_injective : Function.Injective Switch.name := by
  intro s t same
  cases s <;> cases t <;> first | rfl | exact absurd same (by decide)

theorem Field.name?_unique {field other : Field} {name : String} (named : field.name? = some name)
    (same : other.name? = some name) : other = field := by
  cases field <;> cases other <;> cases named <;> first | rfl | exact absurd same (by decide)

theorem Field.name?_ne_switch (field : Field) (switch : Switch) : field.name? ≠ some switch.name := by
  cases field <;> cases switch <;> decide

namespace Level

variable {level : Level} {switch : Switch} {field : Field} {name : String}

theorem switchNamed?_of_mem (member : switch ∈ level.switches) :
    level.switchNamed? (Utf8.encode switch.name) = some switch := by
  refine find?_unique member BEq.rfl fun other same => ?_
  exact Switch.name_injective (encode_injective (eq_of_beq same))

theorem switchNamed?_of_field (named : field.name? = some name) :
    level.switchNamed? (Utf8.encode name) = none := by
  refine List.find?_eq_none.2 fun switch _ same => field.name?_ne_switch switch ?_
  rw [named, encode_injective (eq_of_beq same)]

theorem fieldNamed?_of_mem (member : field ∈ level.fields) (named : field.name? = some name) :
    level.fieldNamed? (Utf8.encode name) = some field := by
  refine find?_unique member (by simp [named]) fun other same => ?_
  obtain ⟨name', named', same⟩ := Option.map_eq_some_iff.1 (eq_of_beq same)
  rw [encode_injective same] at named'
  exact Field.name?_unique named named'

theorem switchLettered?_of_mem {letter : Char} (member : switch ∈ level.switches)
    (lettered : switch.letter? = some letter) :
    level.switchLettered? (UInt8.ofNat letter.toNat) = some switch := by
  refine find?_unique member (by simp [lettered]) fun other same => ?_
  cases switch <;> cases other <;> cases lettered <;>
    first | rfl | exact absurd (eq_of_beq same) (by decide)

end Level

/-! ## Words -/

/-- A name is not empty and has no equals sign in it. -/
theorem Switch.name_sound (switch : Switch) :
    Utf8.encode switch.name ≠ [] ∧ equals ∉ Utf8.encode switch.name := by
  cases switch <;> decide

theorem Field.name_sound {field : Field} {name : String} (named : field.name? = some name) :
    Utf8.encode name ≠ [] ∧ equals ∉ Utf8.encode name := by
  cases field <;> cases named <;> decide

namespace Word

variable {name value word : Bytes}

theorem splitValue_name (sound : equals ∉ name) : splitValue name = (name, none) := by
  have all : ∀ byte ∈ name, (byte != equals) = true := fun byte member =>
    bne_iff_ne.2 fun same => sound (same ▸ member)
  rw [splitValue, List.takeWhile_eq_self_iff.2 all, List.dropWhile_eq_nil_iff.2 all]

theorem splitValue_joined (sound : equals ∉ name) :
    splitValue (name ++ equals :: value) = (name, some value) := by
  have all : ∀ byte ∈ name, (byte != equals) = true := fun byte member =>
    bne_iff_ne.2 fun same => sound (same ▸ member)
  rw [splitValue, List.takeWhile_append_of_pos all, List.dropWhile_append_of_pos all,
    List.takeWhile_cons_of_neg (by simp), List.dropWhile_cons_of_neg (by simp), List.append_nil]

theorem ofBytes_long (sound : name ≠ [] ∧ equals ∉ name) :
    ofBytes (dash :: dash :: name) = .long name none := by
  obtain ⟨first, rest, rfl⟩ := List.exists_cons_of_ne_nil sound.1
  show Word.long (splitValue (first :: rest)).1 (splitValue (first :: rest)).2 = _
  rw [splitValue_name sound.2]

theorem ofBytes_short {switch : Switch} {letter : Char} (lettered : switch.letter? = some letter) :
    ofBytes [dash, UInt8.ofNat letter.toNat] = .short [UInt8.ofNat letter.toNat] := by
  cases switch <;> cases lettered <;> rfl

theorem ofBytes_joined (sound : name ≠ [] ∧ equals ∉ name) :
    ofBytes (dash :: dash :: (name ++ equals :: value)) = .long name (some value) := by
  obtain ⟨first, rest, rfl⟩ := List.exists_cons_of_ne_nil sound.1
  show Word.long (splitValue (first :: rest ++ equals :: value)).1
    (splitValue (first :: rest ++ equals :: value)).2 = _
  rw [splitValue_joined sound.2]

theorem ofBytes_plain (plain : Plain word) : ofBytes word = .value := by
  match word, plain with
  | [], _ | [_], _ => rfl
  | first :: second :: rest, plain =>
    have other : (first != dash) = true := bne_iff_ne.2 fun same => plain.2 (congrArg some same)
    simp only [ofBytes, other, if_true]

theorem ofBytes_escape : ofBytes [dash, dash] = .escape :=
  rfl

end Word

/-! ## Reading an argument -/

namespace Draft

variable {draft draft' : Draft} {field : Field}

theorem setOnce_spell (fresh : draft.isSet field = false) {value : field.Value}
    (plain : field.Plain value) :
    draft.setOnce field (field.spell value) = .ok (draft.put field value) := by
  rw [setOnce, if_neg (by simp [fresh]), set_spell plain]

theorem exists_of_setOnce {word : Bytes} (read : draft.setOnce field word = .ok draft') :
    ∃ value, draft' = draft.put field value := by
  unfold setOnce at read
  split at read
  · exact nomatch read
  · exact exists_of_set read

theorem turnOn_of_fresh {switch : Switch} (ordinary : switch ≠ .help ∧ switch ≠ .version)
    (fresh : draft.has switch = false) : draft.turnOn switch = .ok (draft.add (.on switch)) := by
  unfold turnOn
  split
  next => exact absurd rfl ordinary.1
  next => exact absurd rfl ordinary.2
  next => rw [if_neg (by simp [fresh])]; rfl

end Draft

/-- Whether something may be given at a level, and is read on its own. Help and the version are not,
as they are answered at once. -/
def Level.Offers (level : Level) : Switch ⊕ Field → Prop
  | .inl switch => switch ∈ level.switches ∧ switch ≠ .help ∧ switch ≠ .version
  | .inr field => field ∈ level.fields

namespace Progress

variable {level : Level} {progress : Progress} {draft : Draft}
  (settled : progress.settle = .ok draft)

include settled

/-- Whether the positional argument has been given is seen from the draft that the pending value
makes. -/
theorem hasInput_eq : progress.hasInput = draft.isSet .input := by
  obtain ⟨current, pending⟩ := progress
  cases pending with
  | nothing => cases settled; exact Bool.or_false _
  | awaiting => exact nomatch settled
  | held field word =>
      -- a held positional argument counts as given before it is in the draft
      obtain ⟨value, rfl⟩ := Draft.exists_of_setOnce settled
      by_cases same : field = .input
      · subst same
        exact Bool.or_true _
      · rw [Draft.isSet_eq, Draft.get_put_of_ne same, ← Draft.isSet_eq, hasInput]
        cases field <;> first | exact absurd rfl same | exact Bool.or_false _

theorem switch_eq {switch : Switch} (ordinary : switch ≠ .help ∧ switch ≠ .version)
    (fresh : draft.has switch = false) :
    progress.switch switch = .ok ⟨draft.add (.on switch), .nothing⟩ := by
  simp only [Progress.switch, settled, bind, Except.bind, Draft.turnOn_of_fresh ordinary fresh]
  rfl

theorem long_switch {switch : Switch} (offered : level.Offers (.inl switch))
    (fresh : draft.has switch = false) :
    progress.long level (Utf8.encode switch.name) none =
      .ok ⟨draft.add (.on switch), .nothing⟩ := by
  unfold long
  simp only [Level.switchNamed?_of_mem offered.1]
  exact switch_eq settled offered.2 fresh

theorem short_switch {switch : Switch} (offered : level.Offers (.inl switch))
    (fresh : draft.has switch = false) {letter : Char} (lettered : switch.letter? = some letter) :
    progress.short level [UInt8.ofNat letter.toNat] = .ok ⟨draft.add (.on switch), .nothing⟩ := by
  rw [short, Level.switchLettered?_of_mem offered.1 lettered]
  simp only [switch_eq settled offered.2 fresh, bind, Except.bind, short]

theorem long_apart {field : Field} (offered : level.Offers (.inr field)) {name : String}
    (named : field.name? = some name) :
    progress.long level (Utf8.encode name) none = .ok ⟨draft, .awaiting field⟩ := by
  unfold long
  simp only [Level.switchNamed?_of_field named, Level.fieldNamed?_of_mem offered named, settled,
    bind, Except.bind]
  rfl

theorem long_joined {field : Field} (offered : level.Offers (.inr field)) {name : String}
    (named : field.name? = some name) (fresh : draft.isSet field = false) {value : field.Value}
    (plain : field.Plain value) :
    progress.long level (Utf8.encode name) (some (field.spell value)) =
      .ok ⟨draft.add (.of field value), .nothing⟩ := by
  unfold long
  simp only [Level.switchNamed?_of_field named, Level.fieldNamed?_of_mem offered named, settled,
    bind, Except.bind, Draft.setOnce_spell fresh plain]
  rfl

theorem value_alone (offered : level.Offers (.inr .input)) (fresh : draft.isSet .input = false)
    (path : Bytes) : progress.value level path = .ok ⟨draft, .held .input path⟩ := by
  have room : (progress.hasInput || !level.fields.contains .input) = false := by
    rw [hasInput_eq settled, fresh, List.contains_iff_mem.2 offered]
    rfl
  have positional : progress.positional level path = .ok ⟨draft, .held .input path⟩ := by
    unfold Progress.positional
    simp only [room, settled, bind, Except.bind]
    rfl
  unfold Progress.value
  split
  -- an option that still waits for its value would not have been settled
  next awaiting => simp [settle, awaiting] at settled
  next => exact positional

end Progress

/-- The words of an argument add it to the draft, whatever words follow. -/
theorem readLevel_spelled {level : Level} {argument : Argument} {words : List Bytes}
    (spelled : argument.Spelled words) (plain : argument.Plain) (offered : level.Offers argument.key)
    {progress : Progress} {draft : Draft} (settled : progress.settle = .ok draft)
    (fresh : draft.given argument.key = false) (rest : List Bytes) :
    ∃ progress', progress'.settle = .ok (draft.add argument) ∧
      readLevel level (words ++ rest) progress = readLevel level rest progress' := by
  -- A value that is a word of its own stays pending after it, and only the next step puts it into the
  -- draft. What is preserved is therefore the draft that settling would make.
  cases spelled with
  | long switch =>
      refine ⟨⟨draft.add (.on switch), .nothing⟩, rfl, ?_⟩
      rw [List.singleton_append, readLevel, longWord, Word.ofBytes_long switch.name_sound]
      simp only [Progress.long_switch settled offered fresh, bind, Except.bind]
  | @short switch letter lettered =>
      refine ⟨⟨draft.add (.on switch), .nothing⟩, rfl, ?_⟩
      rw [List.singleton_append, readLevel, Word.ofBytes_short lettered]
      simp only [Progress.short_switch settled offered fresh lettered, bind, Except.bind]
  | alone path =>
      have held := @Draft.setOnce_spell draft .input fresh path plain
      refine ⟨⟨draft, .held .input path⟩, held, ?_⟩
      rw [List.singleton_append, readLevel, Word.ofBytes_plain plain]
      simp only [Progress.value_alone settled offered fresh, bind, Except.bind]
  | @apart field name value named =>
      refine ⟨⟨draft, .held field (field.spell value)⟩, Draft.setOnce_spell fresh plain, ?_⟩
      rw [List.cons_append, List.singleton_append, readLevel, longWord,
        Word.ofBytes_long (Field.name_sound named)]
      simp only [Progress.long_apart settled offered named, bind, Except.bind]
      -- the second word is the value that the option waits for
      rw [readLevel, Word.ofBytes_plain (Field.plain_spell plain)]
      rfl
  | @joined field name value named =>
      refine ⟨⟨draft.add (.of field value), .nothing⟩, rfl, ?_⟩
      have joined : longWord name ++ equals :: field.spell value =
        dash :: dash :: (Utf8.encode name ++ equals :: field.spell value) := rfl
      rw [List.singleton_append, readLevel, joined, Word.ofBytes_joined (Field.name_sound named)]
      simp only [Progress.long_joined settled offered named fresh plain, bind, Except.bind]

/-- The words of arguments that are given once each add them to the draft. -/
theorem readLevel_spelledAll {level : Level} {arguments : List Argument} {words : List (List Bytes)}
    (spelled : List.Forall₂ Argument.Spelled arguments words)
    (plain : ∀ argument ∈ arguments, argument.Plain)
    (offered : ∀ argument ∈ arguments, level.Offers argument.key)
    (distinct : (arguments.map Argument.key).Nodup) {progress : Progress} {draft : Draft}
    (settled : progress.settle = .ok draft)
    (fresh : ∀ argument ∈ arguments, draft.given argument.key = false) (rest : List Bytes) :
    ∃ progress', progress'.settle = .ok (draft.addAll arguments) ∧
      readLevel level (words.flatten ++ rest) progress = readLevel level rest progress' := by
  induction spelled generalizing progress draft with
  | nil => exact ⟨progress, settled, rfl⟩
  | @cons argument word arguments words spelled others ih =>
      -- the first argument is new to the draft, and the others stay new once it is added
      rw [List.forall_mem_cons] at plain offered
      obtain ⟨step, settled, read⟩ := readLevel_spelled spelled plain.1 offered.1 settled
        (fresh argument (.head _)) (words.flatten ++ rest)
      obtain ⟨last, settled, read'⟩ := ih plain.2 offered.2 (List.nodup_cons.1 distinct).2 settled
        (Draft.fresh_add distinct fresh)
      refine ⟨last, settled, ?_⟩
      rw [List.flatten_cons, List.append_assoc, read, read']

end SourceAtlas.CommandLine
