import SourceAtlas.Proofs.Statuses
import SourceAtlas.Proofs.Texts

/-!
# Numbers that may be missing

The engine answers sizes, offsets and counts as signed numbers, and marks what it cannot tell by a
negative one. A number that is not negative is handed on as it is. A negative one never is: it becomes
a failure, the absence of a number, or nothing at all.
-/

namespace SourceAtlas

open Act

/-! ## Reading numbers -/

/-- The number that stands for a reason why there is no layout. -/
def LayoutProblem.code : LayoutProblem → Int
  | .invalid => -1
  | .incomplete => -2
  | .dependent => -3
  | .notConstantSize => -4
  | .invalidFieldName => -5
  | .undeduced => -6

theorem LayoutProblem.decodes : Decodes ofCode? code := by
  refine .intro (fun p => by cases p <;> rfl) fun n p known => ?_
  unfold ofCode? at known
  split at known <;> cases known <;> rfl

theorem LayoutProblem.code_injective : Function.Injective code := by
  intro a b same
  have read := (decodes (code a) b).2 same
  rw [(decodes (code a) a).2 rfl] at read
  exact Option.some.inj read

/-- A number is handed on just when it is not negative. -/
theorem natOf?_eq_some {n : Int} {k : Nat} : natOf? n = some k ↔ (k : Int) = n := by
  unfold natOf?
  by_cases sign : 0 ≤ n
  · rw [if_pos sign, Option.some.injEq]
    omega
  · rw [if_neg sign]
    constructor
    · exact nofun
    · omega

variable {setting : Setting} {w : World}

theorem Act.exec_ofExcept {α : Type} (result : Except Failure α) :
    (ofExcept result).exec setting w = (result.mapError .failure, w) := by
  cases result <;> rfl

/-- A number is a size, or it tells why there is none. -/
theorem Act.decided_layoutResult (operation : String) (n : Int) :
    (ofExcept (layoutResult operation n)).Decided setting w (0 ≤ n) (fun size _ => (size : Int) = n)
      (Failure.Reports operation LayoutProblem.code .layout n) := by
  unfold Decided
  rw [exec_ofExcept, layoutResult]
  by_cases sign : 0 ≤ n
  · rw [if_pos sign]
    exact ⟨_, _, rfl, fun _ => ⟨_, rfl, Int.toNat_of_nonneg sign⟩, fun negative => absurd sign negative⟩
  · rw [if_neg sign]
    have reports := Failure.Reports.of_decodes LayoutProblem.decodes operation .layout n
    refine ⟨_, _, rfl, fun positive => absurd positive sign, fun _ => ?_⟩
    cases known : LayoutProblem.ofCode? n <;>
    · rw [known] at reports
      exact ⟨_, rfl, reports, rfl⟩

theorem Raw.answers_count (raw : Raw Ref) (question : Question) (answer : Engine → Ref → Int32) :
    Answers setting (do return natOf? (← raw.ask question answer).toInt)
      (natOf? (answer setting.engine raw.value).toInt) :=
  (raw.answers_ask question answer none).bind (.pure _)

theorem SourceType.answers_measure (type : SourceType) (measure : TypeMeasure) :
    Answers setting (type.measure measure)
      ((setting.engine.type type.raw.value).measure measure).toInt :=
  (type.raw.answers_ask _ _ _).bind (.pure _)

/-! ## Layouts -/

/-- A query for a size or an offset. The name of a field holds no NUL. -/
inductive LayoutQuery where
  | align (type : SourceType)
  | size (type : SourceType)
  | offsetOf (type : SourceType) (field : String) (sound : 0 ∉ Utf8.encode field)
  | fieldOffset (cursor : Cursor)

namespace LayoutQuery

def act : LayoutQuery → Act Nat
  | .align type => type.align
  | .size type => type.size
  | .offsetOf type field _ => type.offsetOf field
  | .fieldOffset cursor => cursor.fieldOffset

/-- What a failure calls the query. -/
def name : LayoutQuery → String
  | .align _ => "align"
  | .size _ => "size"
  | .offsetOf .. => "offset_of"
  | .fieldOffset _ => "field_offset"

/-- What the engine answers. -/
def answer (engine : Engine) : LayoutQuery → Int
  | .align type => ((engine.type type.raw.value).measure .align).toInt
  | .size type => ((engine.type type.raw.value).measure .size).toInt
  | .offsetOf type field _ => (engine.fieldOffset type.raw.value field).toInt
  | .fieldOffset cursor => (engine.cursor cursor.raw.value).fieldOffset.toInt

/-- What is asked, and what is then made of the number. -/
theorem decided (query : LayoutQuery) (loaded : w.loaded = true) :
    let n := query.answer setting.engine
    query.act.Decided setting w (0 ≤ n) (fun size _ => (size : Int) = n)
      (Failure.Reports query.name LayoutProblem.code .layout n) := by
  intro n
  have measured (type : SourceType) (measure : TypeMeasure) :
      (type.measure measure).exec setting w =
        (.ok ((setting.engine.type type.raw.value).measure measure).toInt,
          w.note (.asked (.typeMeasure measure) [type.raw.origin] none)) :=
    exec_bind_ok (type.raw.exec_ask _ _ _ loaded)
  cases query with
  | align type => exact .after (measured type .align) rfl (fun _ _ => id) (decided_layoutResult ..)
  | size type => exact .after (measured type .size) rfl (fun _ _ => id) (decided_layoutResult ..)
  | offsetOf type field sound =>
      have named : (Utf8.encode field).nulPosition? = none := Bytes.nulPosition?_eq_none.2 sound
      unfold act SourceType.offsetOf
      dsimp only
      rw [named]
      exact .after (type.raw.exec_ask _ _ _ loaded) rfl (fun _ _ => id) (decided_layoutResult ..)
  | fieldOffset cursor =>
      exact .after (cursor.raw.exec_ask _ _ _ loaded) rfl (fun _ _ => id) (decided_layoutResult ..)

end LayoutQuery

/-! ## Counts -/

/-- A query for a number that may be absent. -/
inductive CountQuery where
  | arraySize (type : SourceType)
  | typeTemplateArguments (type : SourceType)
  | cursorTemplateArguments (cursor : Cursor)
  | bitfieldWidth (cursor : Cursor)

namespace CountQuery

def act : CountQuery → Act (Option Nat)
  | .arraySize type => type.arraySize
  | .typeTemplateArguments type => type.templateArgumentCount
  | .cursorTemplateArguments cursor => cursor.templateArgumentCount
  | .bitfieldWidth cursor => cursor.bitfieldWidth

/-- What the engine answers. -/
def answer (engine : Engine) : CountQuery → Int
  | .arraySize type => ((engine.type type.raw.value).measure .arraySize).toInt
  | .typeTemplateArguments type => (engine.typeTemplateArgumentCount type.raw.value).toInt
  | .cursorTemplateArguments cursor => (engine.templateArgumentCount cursor.raw.value).toInt
  | .bitfieldWidth cursor => (engine.cursor cursor.raw.value).bitfieldWidth.toInt

theorem answers (query : CountQuery) :
    Answers setting query.act (natOf? (query.answer setting.engine)) := by
  cases query with
  | arraySize type => exact (type.answers_measure .arraySize).bind (.pure _)
  | typeTemplateArguments type => exact type.raw.answers_count _ _
  | cursorTemplateArguments cursor => exact cursor.raw.answers_count _ _
  | bitfieldWidth cursor => exact cursor.raw.answers_count _ _

end CountQuery

/-! ## Elements, parameters and arguments -/

namespace SourceType

/-- Elements are counted if their number is not negative. Otherwise the type is to blame. -/
theorem elementCount_decided (type : SourceType) (loaded : w.loaded = true) :
    let n := ((setting.engine.type type.raw.value).measure .elementCount).toInt
    type.elementCount.Decided setting w (0 ≤ n) (fun count _ => (count : Int) = n)
      (· = .precondition "element_count" "an array or vector type"
        (setting.engine.type type.raw.value).kind.inspect.render) := by
  intro n
  have measured : (type.measure .elementCount).exec setting w = (.ok n, _) :=
    exec_bind_ok (type.raw.exec_ask _ _ _ loaded)
  refine .after measured rfl (fun _ _ => id) ?_
  unfold Decided
  by_cases sign : 0 ≤ n
  · rw [decide_eq_true sign]
    refine ⟨_, _, rfl, fun _ => ⟨_, rfl, ?_⟩, fun negative => absurd sign negative⟩
    exact Int.toNat_of_nonneg sign
  · rw [decide_eq_false sign]
    exact ⟨_, _, rfl, fun positive => absurd positive sign, fun _ => ⟨_, rfl, rfl, rfl⟩⟩

/-- The parameters of a function prototype. A negative number of them counts as none. -/
theorem answers_argumentTypes (type : SourceType)
    (prototype : (setting.engine.type type.raw.value).kind = .functionProto) :
    Answers setting type.argumentTypes
      ⟨type, countOf (setting.engine.type type.raw.value).argCount⟩ := by
  have kind : Answers setting type.kind .functionProto := by
    rw [← prototype]
    exact answers_engine.bind (.pure _)
  have allowed : Answers setting
      (type.require "argument_types" "a function prototype" true) () := .pure ()
  have asked : Answers setting (type.raw.ask .argumentTypeCount fun engine t =>
      (engine.type t).argCount) (setting.engine.type type.raw.value).argCount :=
    type.raw.answers_ask _ _ _
  exact kind.bind (allowed.bind (asked.bind (answers_keep _)))

end SourceType

namespace Cursor

/-- A new handle of a cursor. -/
theorem yields_make (raw : Raw Ref) (unit : SourceUnit) (parent : Option (Raw Ref)) :
    Yields setting (make raw unit parent) fun c =>
      c.raw = raw ∧ c.unit = unit ∧ c.parent = parent := by
  intro w loaded
  have ran : (make raw unit parent).exec setting w = (_, _) := rfl
  exact ⟨_, _, ran, ⟨rfl, rfl, rfl⟩, isLoaded_exec loaded ran⟩

/-- What stands for a cursor that the engine answers: nothing if it is null. -/
structure Stands (raw : Raw Ref) (unit : SourceUnit) (found : Option Cursor) : Prop where
  present : found.isSome = raw.value.isSome
  made : ∀ c, found = some c → c.raw = raw ∧ c.unit = unit ∧ c.parent = none

theorem yields_ofRaw? (raw : Raw Ref) (unit : SourceUnit) :
    Yields setting (ofRaw? raw unit) (Stands raw unit) := by
  unfold ofRaw?
  by_cases present : raw.value.isSome = true
  · rw [if_pos present, ← bind_pure_comp]
    refine (yields_make raw unit none).bind fun c made => .pure ⟨present.symm, ?_⟩
    intro d same
    exact Option.some.inj same ▸ made
  · rw [if_neg present]
    exact .pure ⟨(Bool.not_eq_true _ ▸ present).symm, fun d same => nomatch same⟩

/-- The null ones of some cursors are left out, and the others stay in order. -/
theorem Stands.filterMap {target : Nat → Ref} {origin : Resource} {unit : SourceUnit}
    {positions : List Nat} {found : List (Option Cursor)}
    (each : List.Forall₂ (fun i => Stands ⟨target i, origin⟩ unit) positions found) :
    (found.filterMap id).map (·.raw.value) = (positions.map target).filter Option.isSome ∧
      ∀ c ∈ found.filterMap id, c.raw.origin = origin ∧ c.unit = unit ∧ c.parent = none := by
  induction each with
  | nil => exact ⟨rfl, fun _ absent => absurd absent List.not_mem_nil⟩
  | @cons i first positions found stands _ ih =>
      obtain ⟨values, about⟩ := ih
      cases first with
      | none =>
          have null : (target i).isSome = false := stands.present.symm
          rw [List.map_cons, List.filter_cons_of_neg (by simp [null])]
          exact ⟨values, about⟩
      | some c =>
          have present : (target i).isSome = true := stands.present.symm
          obtain ⟨raw, unit, parent⟩ := stands.made c rfl
          have kept : (some c :: found).filterMap id = c :: found.filterMap id := rfl
          rw [kept, List.map_cons, List.map_cons, List.filter_cons_of_pos present, values, raw]
          exact ⟨rfl, List.forall_mem_cons.2 ⟨⟨by rw [raw], unit, parent⟩, about⟩⟩

/-- The handle of an argument. -/
theorem yields_argument (cursor : Cursor) (i : Nat) :
    Yields setting (do
      ofRaw? (← cursor.raw.derive (.argument i) fun engine c => engine.cursorArgument c i)
        cursor.unit)
      (Stands ⟨setting.engine.cursorArgument cursor.raw.value i, cursor.raw.origin⟩ cursor.unit) :=
  (cursor.raw.answers_derive _ _ none).then (yields_ofRaw? _ _)

/-- The arguments of a cursor that are not null. A negative number of them counts as none. -/
theorem yields_arguments (cursor : Cursor) :
    let arguments := (List.range (countOf (setting.engine.cursor cursor.raw.value).argCount)).map
      (setting.engine.cursorArgument cursor.raw.value)
    Yields setting cursor.arguments fun found =>
      found.map (·.raw.value) = arguments.filter Option.isSome ∧
        ∀ c ∈ found, c.raw.origin = cursor.raw.origin ∧ c.unit = cursor.unit ∧ c.parent = none := by
  intro arguments
  have counted : Answers setting (cursor.raw.ask .argumentCount fun engine c =>
      (engine.cursor c).argCount) (setting.engine.cursor cursor.raw.value).argCount :=
    cursor.raw.answers_ask _ _ _
  refine counted.then ((Yields.mapM fun i _ => cursor.yields_argument i).bind fun found each => ?_)
  exact .pure (Stands.filterMap each)

end Cursor

theorem countOf_eq (n : Int32) :
    (0 ≤ n.toInt → (countOf n : Int) = n.toInt) ∧ (n.toInt < 0 → countOf n = 0) := by
  unfold countOf
  omega

/-- Six numbers stand for reasons why there is no layout. -/
theorem LayoutProblem.exists_code_iff {n : Int} : (∃ p, n = code p) ↔ -6 ≤ n ∧ n ≤ -1 := by
  constructor
  · rintro ⟨p, rfl⟩
    cases p <;> decide
  · rintro ⟨low, high⟩
    have cases : n = -1 ∨ n = -2 ∨ n = -3 ∨ n = -4 ∨ n = -5 ∨ n = -6 := by omega
    rcases cases with rfl | rfl | rfl | rfl | rfl | rfl
    exacts [⟨.invalid, rfl⟩, ⟨.incomplete, rfl⟩, ⟨.dependent, rfl⟩, ⟨.notConstantSize, rfl⟩,
      ⟨.invalidFieldName, rfl⟩, ⟨.undeduced, rfl⟩]

/-- Every number that the engine may answer where it may have none. What is not negative is handed on
unchanged: as a size or an offset, as a count, as the number of parameters, or as that many arguments, of
which the null ones are left out. What is negative is handed on nowhere. As a layout it is one of six
problems, or else a failure that names the query and carries the number; as the number of elements it is
the failure of a condition on the type; counts are absent then, and there are no parameters and no
arguments. -/
theorem no_sentinel_escapes (setting : Setting) {w : World} (loaded : w.loaded = true) :
    (∀ query : LayoutQuery,
      let n := query.answer setting.engine
      query.act.Decided setting w (0 ≤ n) (fun size _ => (size : Int) = n)
        (Failure.Reports query.name LayoutProblem.code .layout n)) ∧
    (Function.Injective LayoutProblem.code ∧
      ∀ n, (∃ p, n = LayoutProblem.code p) ↔ -6 ≤ n ∧ n ≤ -1) ∧
    (∀ query : CountQuery, ∃ found v, query.act.exec setting w = (.ok found, v) ∧
      ∀ k : Nat, found = some k ↔ (k : Int) = query.answer setting.engine) ∧
    (∀ type : SourceType,
      let entry := setting.engine.type type.raw.value
      let n := (entry.measure .elementCount).toInt
      type.elementCount.Decided setting w (0 ≤ n) (fun count _ => (count : Int) = n)
        (· = .precondition "element_count" "an array or vector type" entry.kind.inspect.render)) ∧
    (∀ type : SourceType,
      let entry := setting.engine.type type.raw.value
      let n := entry.argCount.toInt
      entry.kind = .functionProto →
        ∃ types v, type.argumentTypes.exec setting w = (.ok types, v) ∧ types.type = type ∧
          (0 ≤ n → (types.length : Int) = n) ∧ (n < 0 → types.length = 0)) ∧
    ∀ cursor : Cursor,
      let n := (setting.engine.cursor cursor.raw.value).argCount.toInt
      ∃ found v, cursor.arguments.exec setting w = (.ok found, v) ∧
        (0 ≤ n → ∃ count : Nat, (count : Int) = n ∧ found.map (·.raw.value) =
          ((List.range count).map (setting.engine.cursorArgument cursor.raw.value)).filter
            Option.isSome) ∧
        (n < 0 → found = []) ∧
        ∀ c ∈ found, c.raw.origin = cursor.raw.origin ∧ c.unit = cursor.unit ∧ c.parent = none := by
  refine ⟨fun query => query.decided loaded, ⟨LayoutProblem.code_injective, fun _ =>
    LayoutProblem.exists_code_iff⟩, fun query => ?counts, fun type => type.elementCount_decided loaded,
    fun type => ?parameters, fun cursor => ?arguments⟩
  case counts =>
    obtain ⟨v, ran, -⟩ := query.answers w loaded
    exact ⟨_, v, ran, fun k => natOf?_eq_some⟩
  case parameters =>
    intro entry n prototype
    obtain ⟨v, ran, -⟩ := type.answers_argumentTypes prototype w loaded
    exact ⟨_, v, ran, rfl, countOf_eq entry.argCount⟩
  case arguments =>
    intro n
    obtain ⟨found, v, ran, ⟨values, about⟩, -⟩ := cursor.yields_arguments w loaded
    obtain ⟨positive, negative⟩ := countOf_eq (setting.engine.cursor cursor.raw.value).argCount
    refine ⟨found, v, ran, fun sign => ⟨_, positive sign, values⟩, fun sign => ?_, about⟩
    rw [negative sign] at values
    exact List.map_eq_nil_iff.1 values

/-- A negative number for a size that stands for no problem. -/
theorem no_sentinel_escapes_size :
    let setting : Setting := ⟨{ tables := { types := #[{ measure := fun _ => -7 }] } }, true⟩
    let type : SourceType := ⟨⟨some 0, Session.firstUnit.resource⟩, Session.firstUnit⟩
    ∃ v, type.size.exec setting Session.parsed.world =
      (.error (.failure (.unrecognizedCode "size" (-7))), v) := by
  intro setting type
  have loaded : Session.parsed.world.loaded = true := rfl
  obtain ⟨layouts, -⟩ := no_sentinel_escapes setting loaded
  obtain ⟨outcome, v, ran, -, refused⟩ := layouts (.size type)
  obtain ⟨failure, rfl, reports, -⟩ := refused (by decide)
  cases reports with
  | known p same => cases p <;> exact absurd same (by decide)
  | unknown => exact ⟨v, ran⟩

end SourceAtlas
