import SourceAtlas.Proofs.Decoding
import SourceAtlas.Proofs.Borrowing

/-!
# The texts of the engine

Each text that the engine hands out is read and returned before the query that took it is over, on
every path of every query (`Settled`). What is read of it are the bytes before its first NUL, as
UTF-8; a query for a text answers with what was read (`Told`).
-/

namespace SourceAtlas

open Act

/-! ## What queries for texts answer -/

/-- The text that is read where the engine has some bytes; none where it has no data. -/
def EngineText.copied (text : EngineText) : Option String :=
  text.map fun bytes => Utf8.decodeLossy bytes.untilNul

/-- The accessors of some objects that ask for one text of the engine or for several, and what they
answer. Comments may be missing; any other text is empty where the engine has no data. The spelling
of a unit is what the engine answered when it was asked first. -/
inductive Told (engine : Engine) (w : World) (objects : List Object) :
    (α : Type) → Act α → α → Prop
  | engineVersion :
      Told engine w objects _ State.engineVersion engine.tables.version.decoded
  | unitSpelling {u : SourceUnit} : .unit u ∈ objects → w.unitSpelling? u.cell = none →
      Told engine w objects _ u.spelling (engine.unit (w.table u.resource)).spelling.decoded
  | fileName {file : SourceFile} : .file file ∈ objects →
      Told engine w objects _ file.name (engine.file file.raw.value).name.decoded
  | cursorSpelling {k : Cursor} : .cursor k ∈ objects →
      Told engine w objects _ k.spelling (engine.cursorText k.raw.value .spelling).decoded
  | cursorDisplayName {k : Cursor} : .cursor k ∈ objects →
      Told engine w objects _ k.displayName (engine.cursorText k.raw.value .displayName).decoded
  | cursorText {k : Cursor} (text : CursorText) : .cursor k ∈ objects →
      Told engine w objects _ (k.text text) (engine.cursorText k.raw.value text).decoded
  | cursorComment {k : Cursor} (text : CursorText) : .cursor k ∈ objects →
      Told engine w objects _ (k.text? text) (engine.cursorText k.raw.value text).copied
  | cursorKindSpelling {k : Cursor} : .cursor k ∈ objects →
      Told engine w objects _ k.kindSpelling
        (engine.cursorKindName (engine.cursor k.raw.value).kind).decoded
  | typeSpelling {t : SourceType} : .type t ∈ objects →
      Told engine w objects _ t.spelling (engine.type t.raw.value).spelling.decoded
  | typedefName {t : SourceType} : .type t ∈ objects →
      Told engine w objects _ t.typedefName (engine.type t.raw.value).typedefName.decoded
  | typeKindSpelling {t : SourceType} : .type t ∈ objects →
      Told engine w objects _ t.kindSpelling
        (engine.typeKindName (engine.type t.raw.value).kind).decoded
  | tokenSpelling {token : Token} : .token token ∈ objects →
      Told engine w objects _ token.spelling token.entry.spelling.decoded
  | diagnosticSpelling {d : Diagnostic} : .diagnostic d ∈ objects →
      Told engine w objects _ d.spelling (engine.diagnostic d.handle.entry).spelling.decoded
  | categoryName {d : Diagnostic} : .diagnostic d ∈ objects →
      Told engine w objects _ d.categoryName (engine.diagnostic d.handle.entry).categoryName.decoded
  | enableOption {d : Diagnostic} : .diagnostic d ∈ objects →
      Told engine w objects _ d.enableOption (engine.diagnostic d.handle.entry).enableOption.decoded
  | disableOption {d : Diagnostic} : .diagnostic d ∈ objects →
      Told engine w objects _ d.disableOption
        (engine.diagnostic d.handle.entry).disableOption.decoded
  | formatted {d : Diagnostic} {options : DisplayOptions} {bits : UInt32} :
      .diagnostic d ∈ objects → options.validate = .ok bits →
      Told engine w objects _ (d.format (some options))
        (engine.formatted d.handle.entry bits).decoded
  | formattedByDefault {d : Diagnostic} : .diagnostic d ∈ objects →
      Told engine w objects _ (d.format none)
        (engine.formatted d.handle.entry engine.tables.displayOptions).decoded
  | fixItValues {d : Diagnostic} : .diagnostic d ∈ objects →
      Told engine w objects _ (do return (← d.fixIts).map (·.value))
        ((engine.diagnostic d.handle.entry).fixIts.map (·.2.decoded))
  | chunkSpelling {chunk : Chunk} : .chunk chunk ∈ objects →
      Told engine w objects _ chunk.askSpelling
        (engine.chunk chunk.string.raw.value chunk.position).text.decoded
  | completionText {string : CompletionString} : .string string ∈ objects →
      Told engine w objects _ string.text
        (String.join ((engine.string string.raw.value).chunks.map (·.text.decoded)))
  | briefComment {string : CompletionString} : .string string ∈ objects →
      Told engine w objects _ string.briefComment (engine.string string.raw.value).brief.decoded
  | commandDirectory {command : CompileCommand} : .command command ∈ objects →
      Told engine w objects _ command.directory command.raw.value.directory.decoded
  | commandFilename {command : CompileCommand} : .command command ∈ objects →
      Told engine w objects _ command.filename command.raw.value.filename.decoded
  | commandArguments {command : CompileCommand} : .command command ∈ objects →
      Told engine w objects _ command.arguments (command.raw.value.arguments.map (·.decoded))

/-! ## Accessors that always answer -/

section Exec

variable {setting : Setting} {w : World} {α β : Type}

theorem Raw.exec_askText (raw : Raw α) (question : Question) (answer : Engine → α → EngineText)
    (memo : Option CellId) (loaded : w.loaded = true) :
    ∃ v, (raw.askText question answer memo).exec setting w =
      (.ok (answer setting.engine raw.value).decoded, v) :=
  ⟨_, (exec_bind_ok (raw.exec_ask _ _ _ loaded)).trans (exec_text _)⟩

theorem Diagnostic.exec_ask (d : Diagnostic) (question : Question) (answer : DiagnosticEntry → β)
    (loaded : w.loaded = true) :
    (d.ask question answer).exec setting w =
      (.ok (answer (setting.engine.diagnostic d.handle.entry)),
        w.note (.asked question [d.handle.resource] none)) :=
  (exec_bind_ok (Act.exec_ask _ _ _ loaded)).trans rfl

/-- A diagnostic as the engine formats it. -/
theorem Diagnostic.exec_formatted (d : Diagnostic) (setting : Setting) (bits : UInt32)
    (loaded : w.loaded = true) :
    ∃ v, (do
      Act.ask (.formatted bits) [d.handle.resource]
      Act.text ((← Act.engine).formatted d.handle.entry bits)).exec setting w =
        (.ok (setting.engine.formatted d.handle.entry bits).decoded, v) := by
  rw [exec_bind_ok (Act.exec_ask _ _ _ loaded), exec_bind_ok exec_engine]
  exact ⟨_, exec_text _⟩

theorem Diagnostic.exec_formattedByDefault (d : Diagnostic) (setting : Setting)
    (loaded : w.loaded = true) :
    ∃ v, (d.format none).exec setting w =
      (.ok (setting.engine.formatted d.handle.entry setting.engine.tables.displayOptions).decoded,
        v) := by
  have asked : (w.note (.asked .displayOptions [] none)).loaded = true := loaded
  obtain ⟨v, ran⟩ := d.exec_formatted setting _ asked
  refine ⟨v, ?_⟩
  unfold Diagnostic.format
  dsimp only
  rwa [exec_bind_ok (Act.exec_ask _ _ _ loaded), exec_bind_ok exec_engine,
    exec_bind_ok (exec_pure _)]

/-- An edit that a diagnostic suggests. -/
def Diagnostic.fixIt (engine : Engine) (d : Diagnostic) (i : Nat) : FixIt :=
  let entry := (engine.diagnostic d.handle.entry).fixIts[i]?.getD default
  ⟨{ raw := ⟨entry.1, d.origin⟩, unit := d.unit, anchor := d.anchor }, entry.2.decoded⟩

end Exec

/-! ## Accessors whose answers do not depend on the store -/

theorem map_range_getElem? {α β : Type} (list : List α) (f : Option α → β) :
    (List.range list.length).map (fun i => f list[i]?) = list.map fun a => f (some a) := by
  refine List.ext_getElem (by simp) fun i _ bound => ?_
  rw [List.length_map] at bound
  simp [List.getElem?_eq_getElem bound]

/-- Whether an action has one answer wherever the engine is loaded, and leaves the engine loaded. -/
def Act.Answers {α : Type} (setting : Setting) (x : Act α) (a : α) : Prop :=
  ∀ w : World, w.loaded = true → ∃ v, x.exec setting w = (.ok a, v) ∧ v.loaded = true

/-- Whether an action answers wherever the engine is loaded, leaves the engine loaded, and what then
holds of the answer. -/
def Act.Yields {α : Type} (setting : Setting) (x : Act α) (P : α → Prop) : Prop :=
  ∀ w : World, w.loaded = true → ∃ a v, x.exec setting w = (.ok a, v) ∧ P a ∧ v.loaded = true

section Yields

variable {setting : Setting} {α β : Type} {x : Act α} {f : α → Act β} {P : α → Prop} {Q : β → Prop}

theorem Act.Yields.pure {a : α} (holds : P a) : Yields setting (Pure.pure a) P :=
  fun w loaded => ⟨a, w, rfl, holds, loaded⟩

theorem Act.Answers.yields {a : α} (answers : Answers setting x a) (holds : P a) :
    Yields setting x P := by
  intro w loaded
  obtain ⟨v, ran, loaded⟩ := answers w loaded
  exact ⟨a, v, ran, holds, loaded⟩

theorem Act.Yields.bind (first : Yields setting x P) (next : ∀ a, P a → Yields setting (f a) Q) :
    Yields setting (x >>= f) Q := by
  intro w loaded
  obtain ⟨a, v, ran, holds, loaded⟩ := first w loaded
  obtain ⟨b, u, ran', holds', loaded⟩ := next a holds v loaded
  exact ⟨b, u, (exec_bind_ok ran).trans ran', holds', loaded⟩

/-- An action that answers is followed by one that may depend on the answer. -/
theorem Act.Answers.then {a : α} (first : Answers setting x a) (next : Yields setting (f a) Q) :
    Yields setting (x >>= f) Q := by
  have is : Yields setting x (· = a) := first.yields rfl
  exact is.bind fun b same => same ▸ next

/-- What is answered for each element of a list is answered for the whole list, in order. -/
theorem Act.Yields.mapM {R : α → β → Prop} {list : List α}
    (each : ∀ a ∈ list, Yields setting (f a) (R a)) :
    Yields setting (list.mapM f) (List.Forall₂ R list) := by
  induction list with
  | nil => exact .pure .nil
  | cons a rest ih =>
      obtain ⟨first, others⟩ := List.forall_mem_cons.1 each
      rw [List.mapM_cons]
      exact first.bind fun b related => (ih others).bind fun bs rest => .pure (.cons related rest)

end Yields

section Answers

variable {setting : Setting} {α β : Type} {x : Act α} {a : α} {f : α → Act β} {b : β}

theorem Act.Answers.pure (a : α) : Answers setting (Pure.pure a) a :=
  fun w loaded => ⟨w, rfl, loaded⟩

theorem Act.Answers.bind (first : Answers setting x a) (next : Answers setting (f a) b) :
    Answers setting (x >>= f) b := by
  intro w loaded
  obtain ⟨v, ran, loaded⟩ := first w loaded
  obtain ⟨u, ran', loaded⟩ := next v loaded
  exact ⟨u, (exec_bind_ok ran).trans ran', loaded⟩

/-- An action that answers for each element of a list answers for the whole list. -/
theorem Act.Answers.mapM {g : α → β} {list : List α}
    (each : ∀ a ∈ list, Answers setting (f a) (g a)) :
    Answers setting (list.mapM f) (list.map g) := by
  induction list with
  | nil => exact .pure []
  | cons a rest ih =>
      obtain ⟨first, others⟩ := List.forall_mem_cons.1 each
      rw [List.mapM_cons]
      exact first.bind ((ih others).bind (.pure _))

theorem Act.answers_engine : Answers setting Act.engine setting.engine :=
  fun w loaded => ⟨w, rfl, loaded⟩

theorem Act.answers_ask (question : Question) (operands : List Resource) (memo : Option CellId) :
    Answers setting (Act.ask question operands memo) () :=
  fun _ loaded => ⟨_, exec_ask question operands memo loaded, loaded⟩

theorem Act.answers_text (text : EngineText) : Answers setting (Act.text text) text.decoded :=
  fun _ loaded => ⟨_, exec_text text, loaded⟩

theorem Act.answers_keep [Holder α] (a : α) : Answers setting (Act.keep a) a :=
  fun w loaded => ⟨_, rfl, (congrArg World.loaded (w.retainAll_eq (refs a))).trans loaded⟩

theorem Raw.answers_ask (raw : Raw α) (question : Question) (answer : Engine → α → β)
    (memo : Option CellId) :
    Answers setting (raw.ask question answer memo) (answer setting.engine raw.value) :=
  (Act.answers_ask question _ memo).bind (answers_engine.bind (.pure _))

theorem Raw.answers_derive (raw : Raw α) (question : Question) (answer : Engine → α → β)
    (memo : Option CellId) :
    Answers setting (raw.derive question answer memo)
      ⟨answer setting.engine raw.value, raw.origin⟩ := by
  refine (raw.answers_ask question answer memo).bind ?_
  exact .pure _

theorem Diagnostic.answers_ask (d : Diagnostic) (question : Question) (answer : DiagnosticEntry → β) :
    Answers setting (d.ask question answer) (answer (setting.engine.diagnostic d.handle.entry)) :=
  (Act.answers_ask question _ none).bind (answers_engine.bind (.pure _))

theorem Diagnostic.answers_fixIts (d : Diagnostic) : Answers setting d.fixIts
    ((List.range (setting.engine.diagnostic d.handle.entry).fixIts.length).map
      (d.fixIt setting.engine)) := by
  unfold Diagnostic.fixIts
  refine (d.answers_ask _ _).bind (.mapM fun i _ => (d.answers_ask _ _).bind ?_)
  exact (Act.answers_text _).bind ((Act.answers_keep _).bind (.pure _))

theorem CompletionString.answers_ask (string : CompletionString) (question : Question)
    (answer : StringEntry → β) :
    Answers setting (string.ask question answer)
      (answer (setting.engine.string string.raw.value)) :=
  string.raw.answers_ask question (fun engine s => answer (engine.string s)) none

theorem CompletionString.answers_chunkText (string : CompletionString) (i : Nat) :
    Answers setting (string.chunkText i) (setting.engine.chunk string.raw.value i).text.decoded :=
  (string.raw.answers_ask _ _ _).bind (Act.answers_text _)

theorem CompletionString.answers_length (string : CompletionString) :
    Answers setting string.length (setting.engine.string string.raw.value).chunks.length :=
  string.answers_ask .chunkCount (·.chunks.length)

theorem CompletionString.answers_text (string : CompletionString) : Answers setting string.text
    (String.join ((setting.engine.string string.raw.value).chunks.map (·.text.decoded))) := by
  let chunks := (setting.engine.string string.raw.value).chunks
  have texts : Answers setting ((List.range chunks.length).mapM string.chunkText)
      ((List.range chunks.length).map fun i => (chunks[i]?.getD {}).text.decoded) :=
    .mapM fun i _ => string.answers_chunkText i
  rw [map_range_getElem? chunks fun entry => (entry.getD {}).text.decoded] at texts
  exact string.answers_length.bind (texts.bind (.pure _))

theorem CompileCommand.answers_arguments (command : CompileCommand) :
    Answers setting command.arguments (command.raw.value.arguments.map (·.decoded)) := by
  let arguments := command.raw.value.arguments
  have texts : Answers setting ((List.range arguments.length).mapM fun i => do
      Act.text (← command.ask (.commandArgument i) (·.arguments[i]?.join)))
      ((List.range arguments.length).map fun i => EngineText.decoded arguments[i]?.join) :=
    .mapM fun i _ => (command.raw.answers_ask _ _ _).bind (Act.answers_text _)
  rw [map_range_getElem? arguments fun entry => EngineText.decoded entry.join] at texts
  exact (command.raw.answers_ask _ _ _).bind texts

end Answers

theorem Told.answers {engine : Engine} {side : Side} {facts : Facts} {τ : Typing} {w : World}
    {objects : List Object} (inv : Inv engine side facts τ (owners objects) w)
    (coherent : ∀ object ∈ objects, Coherent engine object) {α : Type} {act : Act α} {a : α}
    (told : Told engine w objects α act a) :
    ∃ v, act.exec (side.setting engine) w = (.ok a, v) := by
  have usable {object : Object} (member : object ∈ objects) :
      Usable engine (owners objects : Held) object :=
    ⟨coherent object member, fun _ there => .of_element member there⟩
  have loaded {object : Object} (member : object ∈ objects) (some : owners object ≠ []) :
      w.loaded = true := by
    obtain ⟨o, rest, found⟩ := List.exists_cons_of_ne_nil some
    exact inv.isLoaded ((usable member).within o (found ▸ .head _)).ne_zero
  have tells {β : Type} {x : Act β} {b : β}
      (tells : Tells engine side (owners objects) x (· = b)) :
      ∃ v, x.exec (side.setting engine) w = (.ok b, v) := by
    obtain ⟨_, v, ran, rfl, -⟩ := tells facts w ⟨τ, inv⟩
    exact ⟨v, ran⟩
  cases told with
  | engineVersion => exact ⟨_, rfl⟩
  | @unitSpelling u member fresh =>
      have loaded := loaded member (List.cons_ne_nil _ _)
      unfold SourceUnit.spelling
      rw [exec_bind_ok exec_read, exec_bind_ok exec_get, fresh]
      cases (side.setting engine).remembers <;>
        exact ⟨_, (exec_bind_ok (Act.exec_ask _ _ _ loaded)).trans rfl⟩
  | @fileName file member =>
      exact file.raw.exec_askText _ _ _ (loaded member (List.cons_ne_nil _ _))
  | cursorSpelling member =>
      exact tells (Cursor.tells_spelling ⟨(usable member).coherent, (usable member).within⟩)
  | cursorDisplayName member =>
      exact tells (Cursor.tells_displayName ⟨(usable member).coherent, (usable member).within⟩)
  | @cursorText k text member =>
      have loaded := loaded member (List.cons_ne_nil _ _)
      exact ⟨_, (exec_bind_ok (exec_bind_ok (k.raw.exec_ask _ _ _ loaded))).trans rfl⟩
  | @cursorComment k text member =>
      have loaded := loaded member (List.cons_ne_nil _ _)
      exact ⟨_, (exec_bind_ok (k.raw.exec_ask _ _ _ loaded)).trans rfl⟩
  | @cursorKindSpelling k member =>
      have loaded := loaded member (List.cons_ne_nil _ _)
      have still : (w.note (.asked .cursorKind [k.raw.origin] none)).loaded = true := loaded
      exact ⟨_, (exec_bind_ok (k.raw.exec_ask _ _ _ loaded)).trans
        ((exec_bind_ok (Act.exec_ask _ _ _ still)).trans rfl)⟩
  | @typeSpelling t member | @typedefName t member =>
      exact t.raw.exec_askText _ _ _ (loaded member (List.cons_ne_nil _ _))
  | typeKindSpelling member =>
      have loaded := loaded member (List.cons_ne_nil _ _)
      exact ⟨_, (exec_bind_ok rfl).trans ((exec_bind_ok (Act.exec_ask _ _ _ loaded)).trans rfl)⟩
  | tokenSpelling member =>
      have loaded := loaded member (List.cons_ne_nil _ _)
      exact ⟨_, (exec_bind_ok (exec_bind_ok (Act.exec_ask _ _ _ loaded))).trans rfl⟩
  | @diagnosticSpelling d member | @categoryName d member | @enableOption d member
  | @disableOption d member =>
      have loaded := loaded member (List.cons_ne_nil _ _)
      exact ⟨_, (exec_bind_ok (d.exec_ask _ _ loaded)).trans rfl⟩
  | @formatted d options bits member valid =>
      have loaded := loaded member (List.cons_ne_nil _ _)
      have chosen : (Act.ofExcept options.validate).exec (side.setting engine) w =
          (.ok bits, w) := by
        rw [valid]
        rfl
      obtain ⟨v, ran⟩ := d.exec_formatted (side.setting engine) bits loaded
      exact ⟨v, (exec_bind_ok chosen).trans ran⟩
  | @formattedByDefault d member =>
      exact d.exec_formattedByDefault _ (loaded member (List.cons_ne_nil _ _))
  | @fixItValues d member =>
      obtain ⟨v, ran, -⟩ := d.answers_fixIts w (loaded member (List.cons_ne_nil _ _))
      refine ⟨v, (exec_bind_ok ran).trans ?_⟩
      rw [List.map_map]
      exact congrArg (fun values => (Except.ok values, v)) (map_range_getElem?
        (engine.diagnostic d.handle.entry).fixIts fun entry => (entry.getD default).2.decoded)
  | chunkSpelling member =>
      exact tells (Chunk.tells_askSpelling ⟨(usable member).coherent, (usable member).within⟩)
  | @completionText string member =>
      obtain ⟨v, ran, -⟩ := string.answers_text w (loaded member (List.cons_ne_nil _ _))
      exact ⟨v, ran⟩
  | @briefComment string member =>
      have loaded := loaded member (List.cons_ne_nil _ _)
      exact ⟨_, (exec_bind_ok (string.raw.exec_ask _ _ _ loaded)).trans rfl⟩
  | @commandDirectory command member | @commandFilename command member =>
      have loaded := loaded member (List.cons_ne_nil _ _)
      exact ⟨_, (exec_bind_ok (command.raw.exec_ask _ _ _ loaded)).trans rfl⟩
  | @commandArguments command member =>
      obtain ⟨v, ran, -⟩ := command.answers_arguments w (loaded member (List.cons_ne_nil _ _))
      exact ⟨v, ran⟩

/-! ## Whole runs -/

/-- Every text that the engine hands out is read and then returned, once, before its query is over.
What is read goes to the first NUL; valid UTF-8 is read unchanged, and other bytes piece by piece. A
query for texts answers with what is read of them. -/
theorem every_text_returned (setting : Setting) :
    (∀ begin state, Session.Reached setting begin state →
      Settled state.world.trace state.world.texts ∧
        ∀ (α : Type) (act : Act α) (a : α),
          Told setting.engine state.world state.slots.objects α act a →
          ∃ w, act.exec setting state.world = (.ok a, w)) ∧
    (∀ host words, ∃ count, Settled (runProgram setting host words).events.reverse count) ∧
    (∀ bytes : Bytes, 0 ∉ bytes.untilNul ∧
      (bytes = bytes.untilNul ∨ ∃ after, bytes = bytes.untilNul ++ 0 :: after)) ∧
    (∀ bytes out, Utf8.decode bytes = out ↔ Utf8.Reads bytes out) ∧
    ∀ text, Utf8.decodeLossy (Utf8.encode text) = text := by
  refine ⟨fun begin state reached => ?_, fun host words => ?_, Bytes.untilNul_spec,
    fun _ _ => Utf8.decode_eq_iff, Utf8.decodeLossy_encode⟩
  · obtain ⟨facts, τ, inv⟩ := reached.inv
    have coherent (object : Object) (member : object ∈ state.slots.objects) :=
      (reached.usable object member).coherent
    exact ⟨inv.texts, fun α act a told => told.answers inv coherent⟩
  · obtain ⟨_, _, w, inv, events⟩ := runProgram_inv setting host words
    rw [events]
    exact ⟨_, inv.texts⟩

open Session in
/-- The session has returned the names of the unit and of its root. The name of a type is read up to
its NUL. A report on tokens takes and returns three texts, and the last of them is the name of the
unit. -/
theorem every_text_returned_looks :
    let state := Sample.after Sample.looks
    let type : SourceType := ⟨⟨some 0, firstUnit.resource⟩, firstUnit⟩
    let events := (runProgram Sample.setting { read := fun _ => .ok [] }
      (["c", "tokens", "a", "--json"].map Utf8.encode)).events
    Settled state.world.trace 2 ∧ state.slots.get? "t" = some (.type type) ∧
      (∃ w, type.spelling.exec Sample.setting state.world = (.ok "i\uFFFD", w)) ∧
      (∃ count, Settled events.reverse count) ∧
      events.filter (·.textSerial?.isSome) =
        [.textTaken 0 (some [120]), .textCopied 0 (some "x"), .textReturned 0,
          .textTaken 1 (some [97]), .textCopied 1 (some "a"), .textReturned 1,
          .textTaken 2 (some [97]), .textCopied 2 (some "a"), .textReturned 2] := by
  have parsed : CommandLine.parse (["c", "tokens", "a", "--json"].map Utf8.encode) =
      .ok { command := .tokens { file := [97], json := true } } := by
    cbv
  have lives : (runProgram Sample.setting { read := fun _ => .ok [] }
      (["c", "tokens", "a", "--json"].map Utf8.encode)).events.filter (·.textSerial?.isSome) =
        [.textTaken 0 (some [120]), .textCopied 0 (some "x"), .textReturned 0,
          .textTaken 1 (some [97]), .textCopied 1 (some "a"), .textReturned 1,
          .textTaken 2 (some [97]), .textCopied 2 (some "a"), .textReturned 2] := by
    rw [runProgram, parsed]
    cbv
  have name : (Sample.setting.engine.type (some 0)).spelling.decoded = "i\uFFFD" := by
    cbv
  have reached := Sample.reached Sample.looks
  dsimp only
  -- what is needed of the state is computed here
  generalize named : Sample.after Sample.looks = state at *
  have texts : state.world.texts = 2 := by
    rw [← named]
    cbv
  have found : state.slots.get? "t" =
      some (.type ⟨⟨some 0, firstUnit.resource⟩, firstUnit⟩) := by
    rw [← named]
    cbv
  obtain ⟨sessions, runs, -⟩ := every_text_returned Sample.setting
  obtain ⟨settled, told⟩ := sessions {} _ reached
  have spelling := told _ _ _ (.typeSpelling (List.mem_map_of_mem (Slots.mem_of_get? found)))
  exact ⟨texts ▸ settled, found, name ▸ spelling, runs _ _, lives⟩

end SourceAtlas
