import SourceAtlas.Proofs.Hearing
import SourceAtlas.Proofs.Sharing

/-!
# Constants

The value of a constant of an enumeration is read with or without a sign. What decides is the integer
type behind the type of the constant, however the type is written: the sugar of an elaborated name is
peeled, a typedef stands for its canonical type, and an enumeration for its integer type.
-/

namespace SourceAtlas

open Act

/-! ## The nine kinds -/

/-- The names of the kinds of the integers without a sign. -/
def TypeKind.unsignedNames : List String :=
  ["Char_U", "UChar", "Char16", "Char32", "UShort", "UInt", "ULong", "ULongLong", "UInt128"]

/-- The integers without a sign are told by the names of their kinds. -/
theorem TypeKind.isUnsignedInteger_iff (kind : TypeKind) :
    kind.isUnsignedInteger ↔ ∃ name ∈ unsignedNames, kind.name? = some name := by
  obtain ⟨raw⟩ := kind
  constructor
  · intro unsigned
    have within : 4 ≤ raw.toInt ∧ raw.toInt ≤ 12 := by
      simpa [isUnsignedInteger, Int32.le_iff_toInt_le] using unsigned
    have cases : raw = 4 ∨ raw = 5 ∨ raw = 6 ∨ raw = 7 ∨ raw = 8 ∨ raw = 9 ∨ raw = 10 ∨
        raw = 11 ∨ raw = 12 := by
      simp only [← Int32.toInt_inj, Int32.reduceToInt]
      omega
    rcases cases with rfl | rfl | rfl | rfl | rfl | rfl | rfl | rfl | rfl
    all_goals exact ⟨_, by simp [unsignedNames], rfl⟩
  · rintro ⟨name, member, named⟩
    obtain ⟨entry, found, rfl⟩ := Option.map_eq_some_iff.1 named
    obtain rfl : entry.1 = raw := by simpa using List.find?_some found
    have within : ∀ entry ∈ names, entry.2 ∈ unsignedNames → isUnsignedInteger ⟨entry.1⟩ := by
      decide
    exact within entry (List.mem_of_find?_eq_some found) member

/-! ## Readings of a value -/

namespace EnumValue

variable {value : EnumValue}

theorem asSigned_eq_some {n : Int} : value.asSigned = some n ↔ value.toInt = n ∧ n < 2 ^ 63 := by
  unfold asSigned
  grind

theorem asUnsigned_eq_some {n : Nat} : value.asUnsigned = some n ↔ value.toInt = n := by
  unfold asUnsigned
  grind

end EnumValue

/-! ## The integer type behind a type -/

namespace Engine

variable (engine : Engine)

/-- Whether the values of constants of a type are read without a sign. -/
def readsUnsigned (t : Ref) : Bool :=
  (engine.type (engine.integerType t)).kind.isUnsignedInteger

/-- Whether a type is an enumeration that is declared by a cursor. -/
structure IsEnum (t declaration : Ref) : Prop where
  kind : (engine.type t).kind = .enum
  declared : (engine.type t).declaration = declaration
  present : declaration.isSome
  enum : (engine.cursor declaration).kind = .enumDecl

/-- How a type may be written: as it is, by a typedef that stands for it, directly or through any
number of typedefs, or by an elaborated name of either. -/
inductive Writes (t : Ref) : Ref → Prop
  | itself : Writes t t
  | typedef {s : Ref} : (engine.type s).kind = .typedef → engine.typeLink s .canonical = t →
      Writes t s
  | elaborated {s : Ref} : (engine.type s).kind = .elaborated → engine.typeLink s .named = t →
      Writes t s
  | elaboratedTypedef {s u : Ref} : (engine.type s).kind = .elaborated →
      engine.typeLink s .named = u → (engine.type u).kind = .typedef →
      engine.typeLink u .canonical = t → Writes t s

variable {engine} {t s declaration : Ref}

/-- The cursor of a declaration is neither null nor the cursor that stands for none. -/
theorem declaration?_eq_some : engine.declaration? t = some declaration ↔
    (engine.type t).declaration = declaration ∧ declaration.isSome ∧
      (engine.cursor declaration).kind ≠ .noDeclFound := by
  unfold declaration?
  dsimp only
  constructor
  · intro found
    split_ifs at found with null absent
    obtain rfl := Option.some.inj found
    exact ⟨rfl, by simpa [Option.isSome_iff_ne_none] using null, by simpa using absent⟩
  · rintro ⟨rfl, present, kind⟩
    rw [if_neg (by simpa [Option.isSome_iff_ne_none] using present), if_neg (by simpa using kind)]

/-- An enumeration leads to the canonical type of its integer type. -/
theorem IsEnum.underlying_eq (enum : engine.IsEnum t declaration) :
    engine.underlying t =
      engine.typeLink ((engine.cursor declaration).type .enumType) .canonical := by
  have declared : engine.declaration? t = some declaration := by
    refine declaration?_eq_some.2 ⟨enum.declared, enum.present, ?_⟩
    rw [enum.enum]
    decide
  simp [underlying, enum.kind, declared, enum.enum]

/-- Any other type is left as it is. -/
theorem underlying_eq_self (other : ∀ declaration, ¬ engine.IsEnum t declaration) :
    engine.underlying t = t := by
  unfold underlying
  split_ifs with kind
  · rfl
  · cases found : engine.declaration? t with
    | none => rfl
    | some declaration =>
        obtain ⟨declared, present, -⟩ := declaration?_eq_some.1 found
        dsimp only
        split_ifs with declares
        · rfl
        · exact absurd ⟨by simpa using kind, declared, present, by simpa using declares⟩
            (other declaration)

/-- An elaborated name and then a typedef are looked through, once each. -/
theorem integerType_eq_underlying (engine : Engine) {t : Ref} :
    let named := if (engine.type t).kind = .elaborated then engine.typeLink t .named else t
    let aliased :=
      if (engine.type named).kind = .typedef then engine.typeLink named .canonical else named
    engine.integerType t = engine.underlying aliased := by
  simp [integerType, unsugared, aliased]

/-- However a type is written, the same integer type is behind it. -/
theorem Writes.integerType_eq (writes : engine.Writes t s)
    (elaborated : (engine.type t).kind ≠ .elaborated) (typedef : (engine.type t).kind ≠ .typedef) :
    engine.integerType s = engine.underlying t := by
  rw [integerType_eq_underlying]
  cases writes with
  | itself => rw [if_neg elaborated, if_neg typedef]
  | typedef kind canonical =>
      have plain : (engine.type s).kind ≠ .elaborated := by
        rw [kind]
        decide
      rw [if_neg plain, if_pos kind, canonical]
  | elaborated kind named => rw [if_pos kind, named, if_neg typedef]
  | elaboratedTypedef kind named kind' canonical =>
      rw [if_pos kind, named, if_pos kind', canonical]

/-- What is read is the engine's value, up to a multiple of two to the power of 64. -/
theorem toInt_enumValue (c : Ref) :
    (engine.enumValue c).toInt =
      if engine.readsUnsigned ((engine.cursor c).type .type) then (engine.cursor c).value % 2 ^ 64
      else (engine.cursor c).value.bmod (2 ^ 64) := by
  have value : engine.enumValue c = if engine.readsUnsigned ((engine.cursor c).type .type) then
      .unsigned (.ofInt (engine.cursor c).value) else .signed (.ofInt (engine.cursor c).value) := rfl
  rw [value]
  split_ifs with unsigned
  · show ((UInt64.ofInt (engine.cursor c).value).toNat : Int) = _
    rw [UInt64.ofInt, UInt64.toNat_ofNat']
    omega
  · exact Int64.toInt_ofInt

/-- The value of a constant is a signed number if it is below the sign bit, and a number without a
sign if it has none. -/
theorem readings_enumValue (c : Ref) :
    let value : Int := if engine.readsUnsigned ((engine.cursor c).type .type) then
      (engine.cursor c).value % 2 ^ 64 else (engine.cursor c).value.bmod (2 ^ 64)
    (∀ n : Int, (engine.enumValue c).asSigned = some n ↔ value = n ∧ n < 2 ^ 63) ∧
      ∀ n : Nat, (engine.enumValue c).asUnsigned = some n ↔ value = n := by
  intro value
  have read : (engine.enumValue c).toInt = value := engine.toInt_enumValue c
  exact ⟨fun n => read ▸ EnumValue.asSigned_eq_some, fun n => read ▸ EnumValue.asUnsigned_eq_some⟩

/-- The value of a constant depends on its type only through the type that is written, and on the type
of an enumeration only through the canonical type of its integer type. -/
theorem enumValue_congr {c c' t' declaration' : Ref}
    (value : (engine.cursor c).value = (engine.cursor c').value)
    (plain : (engine.type t).kind ≠ .elaborated ∧ (engine.type t).kind ≠ .typedef)
    (plain' : (engine.type t').kind ≠ .elaborated ∧ (engine.type t').kind ≠ .typedef)
    (writes : engine.Writes t ((engine.cursor c).type .type))
    (writes' : engine.Writes t' ((engine.cursor c').type .type))
    (same : t = t' ∨ engine.IsEnum t declaration ∧ engine.IsEnum t' declaration' ∧
      engine.typeLink ((engine.cursor declaration).type .enumType) .canonical =
        engine.typeLink ((engine.cursor declaration').type .enumType) .canonical) :
    engine.enumValue c = engine.enumValue c' := by
  have behind : engine.underlying t = engine.underlying t' := by
    rcases same with rfl | ⟨enum, enum', canonical⟩
    · rfl
    · rw [enum.underlying_eq, enum'.underlying_eq, canonical]
  unfold enumValue
  rw [writes.integerType_eq plain.1 plain.2, writes'.integerType_eq plain'.1 plain'.2, behind, value]

end Engine

/-! ## Asking for a value -/

/-- Whether an event reads the value of a constant, and if so, whether without a sign. -/
def Event.reading? : Event → Option Bool
  | .asked (.enumConstant unsigned) _ _ => some unsigned
  | _ => none

instance : Attentive Event.reading? where
  deaf event free := by
    unfold Event.reading?
    split
    next => exact absurd (free _ rfl).free (by simp)
    next => rfl

/-- What is shown of the value of a constant. -/
def EnumValue.shown : EnumValue → Json
  | .signed n => .obj [("signed", .num n.toInt)]
  | .unsigned n => .obj [("unsigned", .nat n.toNat)]

namespace Cursor

variable {engine : Engine} {side : Side} {held : Held} {facts : Facts} {k : Cursor} {w : World}

instance (setting : Setting) (k : Cursor) : (hushed setting Event.reading?).Covers k.type := by
  have (memo : Option CellId) : (hushed setting Event.reading?).Covers
      (ask (.cursorType .type) [k.raw.origin] memo) :=
    ⟨utters_ask rfl⟩
  unfold type typeRaw Raw.derive Raw.ask
  infer_instance

/-- Reads the value of a constant, whether or not it is remembered. -/
def readConstant (k : Cursor) : Act EnumValue := do
  let kind ← (← integerType (← k.type)).kind
  let value ← k.raw.ask (.enumConstant kind.isUnsignedInteger)
    (fun engine c => (engine.cursor c).value) k.memo
  return if kind.isUnsignedInteger then .unsigned (.ofInt value) else .signed (.ofInt value)

/-- The value is read unless it is remembered, if the cursor is a constant of an enumeration. -/
theorem enumValue_eq (k : Cursor) :
    k.enumValue = (do
      k.require "enum_value" "an enum constant declaration"
        ((← k.kind) == CursorKind.enumConstantDecl)
      memoized k.memo CursorMemo.enumValueSlot k.readConstant) :=
  rfl

/-- A value that is not remembered is read once, as the type asks. -/
theorem exec_readConstant (usable : Usable engine held k) (inv : At engine side held facts w) :
    ∃ v, k.readConstant.exec (side.setting engine) w = (.ok (engine.enumValue k.raw.value), v) ∧
      w.Utters Event.reading?
        [engine.readsUnsigned ((engine.cursor k.raw.value).type .type)] v := by
  have tells : Tells engine side held (do (← integerType (← k.type)).kind)
      (· = (engine.type (engine.integerType ((engine.cursor k.raw.value).type .type))).kind) := by
    refine (tells_type usable).bind ?_
    rintro _ rfl
    refine (tells_integerType ⟨usable.coherent.1, (usable_unit usable).within⟩).bind ?_
    rintro _ rfl
    exact SourceType.tells_kind
  obtain ⟨kind, v, ran, rfl, τ, inv'⟩ := tells facts w inv
  have loaded : v.loaded = true := inv'.isLoaded (by simpa using (lends_origin usable).ne_zero)
  have before : w.Utters Event.reading? [] v := utters_exec ran
  let event : Event := .asked (.enumConstant (engine.readsUnsigned
    ((engine.cursor k.raw.value).type .type))) [k.raw.origin] k.memo
  have split : k.readConstant = (do
      let kind ← (do (← integerType (← k.type)).kind)
      let value ← k.raw.ask (.enumConstant kind.isUnsignedInteger)
        (fun engine c => (engine.cursor c).value) k.memo
      return if kind.isUnsignedInteger then .unsigned (.ofInt value) else .signed (.ofInt value)) := by
    simp only [readConstant, bind_assoc]
  have heard : event.reading? = some _ := rfl
  refine ⟨v.note event, ?_, before.trans (.note heard v)⟩
  rw [split, exec_bind_ok ran, exec_bind_ok (k.raw.exec_ask _ _ _ loaded)]
  rfl

/-- The value of a constant is told, and what is not remembered is read on the way. -/
theorem exec_enumValue (usable : Usable engine held k) (inv : At engine side held facts w)
    (constant : (engine.cursor k.raw.value).kind = .enumConstantDecl) :
    ∃ v, k.enumValue.exec (side.setting engine) w = (.ok (engine.enumValue k.raw.value), v) ∧
      w.Utters Event.reading?
        (if side.remembers && (w.memo k.memo).enumValue.isSome then []
          else [engine.readsUnsigned ((engine.cursor k.raw.value).type .type)]) v := by
  have kind : Tells engine side held k.kind (· = (engine.cursor k.raw.value).kind) :=
    Raw.tells_ask (lends_origin usable) _ _ _
  obtain ⟨_, v, ran, rfl, inv'⟩ := kind facts w inv
  obtain ⟨τ, order⟩ := inv
  have loaded : w.loaded = true := order.isLoaded (lends_origin usable).ne_zero
  -- to ask for the kind leaves the memo as it is
  have memo : v.memo k.memo = w.memo k.memo := by
    obtain ⟨-, rfl⟩ := Prod.mk.inj (ran.symm.trans (k.raw.exec_ask _ _ _ loaded))
    rfl
  have before : w.Utters Event.reading? [] v := utters_exec ran
  obtain ⟨_, u, told, rfl, -⟩ :=
    (tells_constant usable constant) facts v (by simpa using inv')
  obtain ⟨_, read, heard⟩ := exec_readConstant usable (by simpa using inv')
  have after : v.Utters Event.reading? _
      ((memoized k.memo CursorMemo.enumValueSlot k.readConstant).exec (side.setting engine) v).2 :=
    utters_memoized read heard
  replace told : (memoized k.memo CursorMemo.enumValueSlot k.readConstant).exec
      (side.setting engine) v = (.ok (engine.enumValue k.raw.value), u) := told
  rw [told, memo] at after
  refine ⟨u, ?_, before.trans after⟩
  rw [enumValue_eq, exec_bind_ok ran, constant]
  exact (exec_bind_ok (exec_pure ())).trans told

/-- Any other cursor is refused, and nothing is read. -/
theorem exec_enumValue_refused (k : Cursor) (setting : Setting) (loaded : w.loaded = true)
    (other : (setting.engine.cursor k.raw.value).kind ≠ .enumConstantDecl) :
    ∃ v, k.enumValue.exec setting w =
        (.error (.failure (.precondition "enum_value" "an enum constant declaration"
          (setting.engine.cursor k.raw.value).kind.inspect.render)), v) ∧
      w.Utters Event.reading? [] v := by
  let event : Event := .asked .cursorKind [k.raw.origin] none
  refine ⟨(w.note event).note event, ?_, .talk [event, event] rfl (by simp [event, Event.reading?])⟩
  have kind {w : World} (loaded : w.loaded = true) : k.kind.exec setting w =
      (.ok (setting.engine.cursor k.raw.value).kind, w.note event) :=
    k.raw.exec_ask _ _ _ loaded
  have refused : k.require "enum_value" "an enum constant declaration"
      ((setting.engine.cursor k.raw.value).kind == .enumConstantDecl) = (do
        fail (.precondition "enum_value" "an enum constant declaration"
          (← k.kind).inspect.render)) := by
    rw [beq_false_of_ne other]
    rfl
  rw [enumValue_eq, exec_bind_ok (kind loaded), refused, bind_assoc,
    exec_bind_ok (kind (w := w.note event) loaded)]
  exact exec_bind_error rfl

end Cursor

/-- What comes of asking a cursor for the value of a constant. -/
theorem State.ask_enumValue {setting : Setting} {state : State} {slot : String} {k : Cursor}
    (found : state.slots.get? slot = some (.cursor k)) (target : Option String) (args : Json) :
    state.ask setting (some slot) none target args "enum_value" =
      match k.enumValue.exec setting state.world with
      | (.ok value, v) =>
        ({ state with world := v, slots := state.slots.set slot (.cursor k) }, .shown value.shown)
      | (.error fault, v) => ({ state with world := v }, .fault fault) := by
  have answer : k.answer .enumValue = (do return .plain (← k.enumValue).shown) := by
    refine bind_congr fun value => ?_
    cases value <;> rfl
  have asked : ((Object.cursor k).steady (k.answer .enumValue)).exec setting state.world =
      match k.enumValue.exec setting state.world with
      | (.ok value, v) => (.ok ⟨.cursor k, .ok (.plain value.shown)⟩, v)
      | (.error fault, v) => (.error fault, v) := by
    rw [answer, Object.steady, bind_assoc, exec_bind]
    rcases k.enumValue.exec setting state.world with ⟨fault | value, v⟩ <;> rfl
  rw [ask_alone found (by decide) rfl]
  rcases ran : k.enumValue.exec setting state.world with ⟨fault | value, v⟩
  · rw [ran] at asked
    exact turn_error asked slot target
  · rw [ran] at asked
    rw [turn_ok asked]
    exact finish_plain ..

/-- The value of a constant is read as the integer type behind its type asks, for every engine, every
cursor and in every state of a session.

A cursor that is no constant of an enumeration is refused, and nothing is read. There is no other way
to fail. A constant is told with no sign if the integer type has one of the nine kinds without a sign,
and with a sign if not; only this one reading is made, and none if the value is remembered. To find
the integer type, the type of the constant is peeled of the sugar of an elaborated name, a typedef
stands for its canonical type, and an enumeration whose declaration is there for the canonical type
of its integer type. Of the 64 bits that are so read, those below the sign bit are also a signed
number, and those that have no sign are also a number without one. So the value does not depend on
how the type is written, nor on what the integer type of the enumeration is written as. -/
theorem values_read_by_type (setting : Setting) {begin state : State}
    (reached : Session.Reached setting begin state) {slot : String} {k : Cursor}
    (found : state.slots.get? slot = some (.cursor k)) (target : Option String) (args : Json) :
    let engine := setting.engine
    let entry := engine.cursor k.raw.value
    let unsigned := engine.readsUnsigned (entry.type .type)
    let asked := state.ask setting (some slot) none target args "enum_value"
    (entry.kind ≠ .enumConstantDecl → ∃ v,
      asked = ({ state with world := v }, .fault (.failure (.precondition "enum_value"
        "an enum constant declaration" entry.kind.inspect.render))) ∧
      state.world.Utters Event.reading? [] v) ∧
    (entry.kind = .enumConstantDecl → ∃ v,
      asked = ({ state with world := v, slots := state.slots.set slot (.cursor k) },
        .shown (EnumValue.shown
          (if unsigned then .unsigned (.ofInt entry.value) else .signed (.ofInt entry.value)))) ∧
      state.world.Utters Event.reading?
        (if setting.remembers && (state.world.memo k.memo).enumValue.isSome then []
          else [unsigned]) v) ∧
    (unsigned ↔ ∃ name ∈ TypeKind.unsignedNames,
      (engine.type (engine.integerType (entry.type .type))).kind.name? = some name) ∧
    (∀ t,
      let named := if (engine.type t).kind = .elaborated then engine.typeLink t .named else t
      let aliased :=
        if (engine.type named).kind = .typedef then engine.typeLink named .canonical else named
      (∀ declaration, engine.IsEnum aliased declaration → engine.integerType t =
        engine.typeLink ((engine.cursor declaration).type .enumType) .canonical) ∧
      ((∀ declaration, ¬ engine.IsEnum aliased declaration) → engine.integerType t = aliased)) ∧
    (∀ c,
      let value : Int := if engine.readsUnsigned ((engine.cursor c).type .type) then
        (engine.cursor c).value % 2 ^ 64 else (engine.cursor c).value.bmod (2 ^ 64)
      (∀ n : Int, (engine.enumValue c).asSigned = some n ↔ value = n ∧ n < 2 ^ 63) ∧
        ∀ n : Nat, (engine.enumValue c).asUnsigned = some n ↔ value = n) ∧
    ∀ c c' t t' declaration declaration',
      (engine.cursor c).value = (engine.cursor c').value →
      (engine.type t).kind ≠ .elaborated ∧ (engine.type t).kind ≠ .typedef →
      (engine.type t').kind ≠ .elaborated ∧ (engine.type t').kind ≠ .typedef →
      engine.Writes t ((engine.cursor c).type .type) →
      engine.Writes t' ((engine.cursor c').type .type) →
      (t = t' ∨ engine.IsEnum t declaration ∧ engine.IsEnum t' declaration' ∧
        engine.typeLink ((engine.cursor declaration).type .enumType) .canonical =
          engine.typeLink ((engine.cursor declaration').type .enumType) .canonical) →
      engine.enumValue c = engine.enumValue c' := by
  intro engine entry unsigned asked
  obtain ⟨facts, τ, inv⟩ := reached.inv
  have usable : Usable engine (owners state.slots.objects : Held) k :=
    ⟨(reached.usable_slot found).coherent, (reached.usable_slot found).within⟩
  have loaded : state.world.loaded = true := inv.isLoaded (Cursor.lends_origin usable).ne_zero
  have posed : asked = _ := State.ask_enumValue found target args
  refine ⟨fun other => ?_, fun constant => ?_, TypeKind.isUnsignedInteger_iff _,
    fun t => ⟨fun declaration enum => ?_, fun other => ?_⟩, Engine.readings_enumValue,
    fun c c' t t' declaration declaration' value plain plain' writes writes' same =>
      Engine.enumValue_congr value plain plain' writes writes' same⟩
  · obtain ⟨v, refused, silent⟩ := k.exec_enumValue_refused setting loaded other
    exact ⟨v, by rw [posed, refused], silent⟩
  · obtain ⟨v, told, heard⟩ := Cursor.exec_enumValue usable ⟨τ, inv⟩ constant
    replace told : k.enumValue.exec setting state.world = _ := told
    exact ⟨v, by rw [posed, told]; rfl, heard⟩
  · exact engine.integerType_eq_underlying.trans enum.underlying_eq
  · exact engine.integerType_eq_underlying.trans (Engine.underlying_eq_self other)

/-- A constant with all bits set, of an enumeration that is written as an elaborated name of a typedef,
and whose integer type is written as a typedef of an integer type without a sign. -/
theorem values_read_by_type_max :
    let tables : Tables := {
      sources := [{ name := none, unit := some 0 }], units := #[{}]
      cursors := #[{ kind := .enumConstantDecl, value := -1, type := fun _ => some 0 },
        { kind := .enumDecl, type := fun _ => some 3 }]
      types := #[{ kind := .elaborated, link := fun _ => some (some 1) },
        { kind := .typedef, link := fun _ => some (some 2) },
        { kind := .enum, declaration := some 1 },
        { kind := .typedef, link := fun _ => some (some 4) }, { kind := ⟨10⟩ }] }
    let setting : Setting := ⟨⟨tables, []⟩, true⟩
    let begun := (({} : State).ask setting none none (some "i") .null "create_index").1
    let parsed := (begun.ask setting (some "i") none (some "u") .null "parse").1
    let state := (parsed.ask setting (some "u") none (some "c") .null "cursor").1
    ∃ root v, state.slots.get? "c" = some (.cursor root) ∧
      state.ask setting (some "c") none none .null "enum_value" =
        ({ state with world := v, slots := state.slots.set "c" (.cursor root) },
          .shown (.obj [("unsigned", .nat 0xFFFFFFFFFFFFFFFF)])) ∧
      state.world.Utters Event.reading? [true] v := by
  intro tables setting begun parsed state
  have opened : state = Session.rooted := Session.opens_rooted rfl rfl rfl
  have reached : Session.Reached setting {} state := by
    rw [opened]
    exact .rooted rfl rfl rfl
  have found : state.slots.get? "c" = some (.cursor Session.firstRoot) := by
    rw [opened]
    rfl
  -- the memo of a cursor that is new knows nothing
  have unknown : (state.world.memo Session.firstRoot.memo).enumValue = none := by
    rw [opened]
    rfl
  obtain ⟨-, told, -⟩ := values_read_by_type setting reached found none .null
  obtain ⟨v, asked, heard⟩ := told rfl
  rw [unknown] at heard
  exact ⟨Session.firstRoot, v, found, asked, heard⟩

end SourceAtlas
