import SourceAtlas.Proofs.Batches
import SourceAtlas.Proofs.Candidates
import SourceAtlas.Proofs.Containment
import SourceAtlas.Proofs.Sentinels
import SourceAtlas.Proofs.Standing
import SourceAtlas.Proofs.TreeViews
import SourceAtlas.Proofs.Views

/-!
# Listings

The reports on tokens, diagnostics and compile commands list what the engine's tables have: a row
for each token of the root's extent, a row for each diagnostic and, indented, one for each of its
notes, a row for each command. Null handles have no row. A table and a JSON list have the same rows,
and the rows are read back from the JSON.
-/

namespace SourceAtlas

open Act
open CommandLine (SourceArgs Invocation)

/-! ## What is printed -/

/-- A kind of row that is read back from its JSON object. -/
class Legible (ρ : Type) [Tabular ρ] where
  ofJson? : Json → Option ρ
  ofJson?_toJson : ∀ row : ρ, ofJson? (Tabular.toJson row) = some row
  fits : ∀ row : ρ, (Tabular.toJson row).Fits

/-- Whether a run ends well, and some rows are what it prints: they are read back from a list of
JSON objects, or stand in a table unless there are none. -/
structure RunResult.Lists {ρ : Type} [Tabular ρ] [Legible ρ] (run : RunResult) (json : Bool)
    (rows : List ρ) : Prop where
  exitCode : run.exitCode = 0
  errors : run.errors = ""
  decoded : json = true →
    ∃ objects, Json.parse run.output = .ok (.arr objects) ∧ objects.mapM Legible.ofJson? = some rows
  bare : json = true → rows = [] → run.output = "[]\n"
  table : json = false → rows ≠ [] →
    run.output = Table.render (Tabular.header ρ) (rows.map Tabular.cells) ++ "\n"
  shown : json = false → (run.output ≠ "" ↔ rows ≠ [])

section Prints

variable {ρ : Type} [Tabular ρ] [Legible ρ]

theorem Legible.mapM_toJson (rows : List ρ) : (rows.map Tabular.toJson).mapM ofJson? = some rows := by
  induction rows with
  | nil => rfl
  | cons row rows ih => rw [List.map_cons, List.mapM_cons, ofJson?_toJson, ih]; rfl

theorem append_newline_ne (text : String) : text ++ "\n" ≠ "" := by
  intro same
  have := congrArg String.length same
  rw [String.length_append] at this
  cases this

/-- What a report comes to is what the program prints. -/
theorem lists_of_report {setting : Setting} {host : Host} {words : List Bytes}
    {invocation : Invocation} {command : CommandLine.Command} {rows : List ρ} {json : Bool} {v : World}
    (parsed : CommandLine.parse words = .ok invocation) (asked : invocation.command = command)
    (ran : (report host command).exec setting {} = (.ok (printRows rows json), v)) :
    (runProgram setting host words).Lists json rows := by
  rw [runProgram_eq parsed asked ran]
  constructor
  case exitCode | errors => rfl
  case decoded =>
    rintro rfl
    exact ⟨_, parse_printRows fun row _ => Legible.fits row, Legible.mapM_toJson rows⟩
  case bare =>
    rintro rfl rfl
    have printed : (Json.arr []).pretty ++ "\n" = "[]\n" := by decide +kernel
    exact printed
  case table =>
    rintro rfl some
    cases rows with
    | nil => exact absurd rfl some
    | cons row rows => rfl
  case shown =>
    rintro rfl
    cases rows with
    | nil => exact iff_of_false (fun some => some rfl) (fun some => some rfl)
    | cons row rows => exact iff_of_true (append_newline_ne _) (List.cons_ne_nil _ _)

end Prints

/-! ## What is loaded -/

/-- The entry of the tables that the unit of a report has, if the source file can be loaded. -/
def loadedTable? (setting : Setting) (host : Host) (source : SourceArgs) : Option Nat :=
  match (loadUnit host source).exec setting {} with
  | (.ok unit, w) => some (w.table unit.resource)
  | (.error _, _) => none

/-- Whether an action succeeds wherever a unit has an entry of the tables, which the unit keeps, and
what then holds of the answer. -/
def Act.Serves {α : Type} (setting : Setting) (unit : Resource) (table : Nat) (x : Act α)
    (P : α → Prop) : Prop :=
  Ensures setting (World.Has unit table) x fun a v => P a ∧ v.Has unit table

section Serves

variable {setting : Setting} {unit : Resource} {table : Nat} {w v : World} {α β : Type}
variable {x : Act α} {f : α → Act β} {P : α → Prop} {Q : β → Prop}

theorem Act.Serves.bind (first : Serves setting unit table x P)
    (next : ∀ a, P a → Serves setting unit table (f a) Q) :
    Serves setting unit table (x >>= f) Q := by
  intro w has
  obtain ⟨a, v, ran, holds, has⟩ := first w has
  obtain ⟨b, u, ran', holds', has⟩ := next a holds v has
  exact ⟨b, u, (exec_bind_ok ran).trans ran', holds', has⟩

theorem Act.Serves.mono {R : α → Prop} (first : Serves setting unit table x P)
    (weaker : ∀ a, P a → R a) : Serves setting unit table x R := by
  intro w has
  obtain ⟨a, v, ran, holds, has⟩ := first w has
  exact ⟨a, v, ran, weaker a holds, has⟩

theorem Act.Serves.given {a : α} (first : Serves setting unit table x (· = a))
    (next : Serves setting unit table (f a) Q) : Serves setting unit table (x >>= f) Q :=
  first.bind fun _ same => same ▸ next

/-- What has one answer everywhere has it here, and no unit is parsed again meanwhile. -/
theorem Act.Answers.serves {a : α} (answers : Answers setting x a)
    [covered : (growing setting).Covers x] : Serves setting unit table x (· = a) := by
  intro w has
  obtain ⟨v, ran, loaded⟩ := answers w has.loaded
  exact ⟨a, v, ran, rfl, has.grows (grows_exec ran) loaded⟩

theorem Act.Fetches.serves {heard : Array Nat → List Nat}
    (fetches : ∀ tables : Array Nat, tables[unit.label]? = some table →
      Fetches setting tables x (heard tables) P) : Serves setting unit table x P := by
  intro w has
  obtain ⟨a, v, ran, holds, loaded, same, -⟩ := fetches w.instances has.entry w has.loaded rfl
  exact ⟨a, v, ran, holds, loaded, same ▸ has.entry⟩

theorem Act.Serves.mapM {g : α → β} {list : List α}
    (each : ∀ a ∈ list, Serves setting unit table (f a) (· = g a)) :
    Serves setting unit table (list.mapM f) (· = list.map g) := by
  induction list with
  | nil => exact (Answers.pure []).serves
  | cons a rest ih =>
      obtain ⟨first, others⟩ := List.forall_mem_cons.1 each
      rw [List.mapM_cons]
      exact first.given ((ih others).given (Answers.pure _).serves)

theorem Act.Serves.using [Holder α] {value : α} {act : α → Act β}
    (serves : Serves setting unit table (act value) Q) :
    Serves setting unit table (Act.using value act) Q := by
  intro w has
  obtain ⟨b, v, ran, holds, has⟩ := serves w has
  have sheds := World.Sheds.release v (refs value)
  refine ⟨b, v.release (refs value), by rw [exec_using, ran], holds, ?_⟩
  exact has.grows (.of_eq sheds.instances) (sheds.loaded.trans has.loaded)

end Serves

section Loading

variable {setting : Setting} {host : Host} {source : SourceArgs} {table : Nat}

/-- A unit that is loaded can be used, and has its entry. -/
theorem exec_loadUnit_of_loads (loads : loadedTable? setting host source = some table) :
    ∃ unit w, (loadUnit host source).exec setting {} = (.ok unit, w) ∧ w.Has unit.resource table ∧
      Usable setting.engine (owners unit + 0 : Held) unit ∧
      Orderly setting.engine ⟨setting.remembers, {}, []⟩ (owners unit + 0) w := by
  unfold loadedTable? at loads
  split at loads
  next unit w ran =>
    obtain rfl := Option.some.inj loads
    obtain ⟨usable, orderly⟩ := usable_loadUnit ran
    refine ⟨unit, w, ran, ?_, usable, orderly⟩
    obtain ⟨facts, τ, inv⟩ := orderly
    exact inv.has (usable.within _ (List.mem_singleton_self _))
  next => cases loads

/-- What a report lists of the unit that it loads is what the report comes to. -/
theorem exec_using_loadUnit {act : SourceUnit → Act String} {output : String}
    (loads : loadedTable? setting host source = some table)
    (serves : ∀ unit, Serves setting unit.resource table (act unit) (· = output)) :
    ∃ v, (do Act.using (← loadUnit host source) act).exec setting {} = (.ok output, v) := by
  obtain ⟨unit, w, ran, has, -⟩ := exec_loadUnit_of_loads loads
  obtain ⟨_, v, used, rfl, -⟩ := (serves unit).using w has
  exact ⟨v, (exec_bind_ok ran).trans used⟩

end Loading

/-! ## Parts of rows -/

section Answers

variable {setting : Setting}

/-- What follows has one answer whatever comes of what it depends on. -/
theorem Act.Yields.answers {α β : Type} {x : Act α} {f : α → Act β} {P : α → Prop} {b : β}
    (first : Yields setting x P) (next : ∀ a, P a → Answers setting (f a) b) :
    Answers setting (x >>= f) b := by
  intro w loaded
  obtain ⟨a, v, ran, holds, loaded⟩ := first w loaded
  obtain ⟨u, ran', loaded⟩ := next a holds v loaded
  exact ⟨u, (exec_bind_ok ran).trans ran', loaded⟩

/-- What is used for each of some things does not bear on the answers. -/
theorem Act.Answers.usingEach {α β : Type} [Holder α] {values : List α} {act : α → Act β}
    {g : α → β} (each : ∀ a ∈ values, Answers setting (act a) (g a)) :
    Answers setting (Act.usingEach values act) (values.map g) :=
  Answers.using (Answers.mapM each)

theorem Act.answers_drop {α : Type} [Holder α] (a : α) : Answers setting (Act.drop a) () :=
  fun w loaded => ⟨_, rfl, (World.Sheds.release w (refs a)).loaded.trans loaded⟩

/-- A unit always says what it is called. What that is depends on when it was asked first. -/
theorem SourceUnit.yields_spelling (unit : SourceUnit) :
    Yields setting unit.spelling fun _ => True := by
  intro w loaded
  obtain ⟨spelling, v, ran⟩ : ∃ spelling v, unit.spelling.exec setting w = (.ok spelling, v) := by
    unfold SourceUnit.spelling
    rw [exec_bind_ok exec_read, exec_bind_ok exec_get]
    split
    next => exact ⟨_, _, rfl⟩
    next => exact ⟨_, _, exec_bind_ok (exec_ask _ _ _ loaded)⟩
  exact ⟨spelling, v, ran, trivial, isLoaded_exec loaded ran⟩

/-- To keep a record that names a unit bears on nothing that follows. -/
theorem SourceUnit.answers_record (unit : SourceUnit) (host : Host) (text : String → String) :
    Answers setting (Act.record host do return text (← unit.spelling)) () := by
  have put : Yields setting (do return text (← unit.spelling)) fun _ => True :=
    unit.yields_spelling.bind fun _ _ => .pure trivial
  unfold record
  split
  · exact put.answers fun _ _ => .pure ()
  · exact .pure ()

/-- A location is printed as the place that it is. -/
theorem SourceLocation.answers_report {l : SourceLocation} (remembers : l.Remembers) :
    Answers setting l.report (setting.engine.placeText l.raw.value) := by
  refine (answers_expand remembers).bind ?_
  unfold Expansion.report answer Engine.placeText SourceFile.ofRaw?
  cases l.raw.value.file with
  | none => exact .pure "-"
  | some i =>
      have named : Answers setting (SourceFile.name ⟨⟨i, l.unit.resource⟩, l.unit⟩)
          (setting.engine.file i).name.decoded :=
        (Raw.answers_ask _ _ _ none).bind (answers_text _)
      exact named.bind (.pure _)

/-- Texts that JSON lists are read back. -/
theorem mapM_str? (texts : List String) : (texts.map Json.str).mapM Json.str? = some texts := by
  induction texts with
  | nil => rfl
  | cons text texts ih => rw [List.map_cons, List.mapM_cons, ih]; rfl

/-- What is made of the entries at all positions is made of those that are not null, in order. -/
theorem flatten_range_join {β γ : Type} (entries : List (Option γ)) (f : γ → List β) :
    ((List.range entries.length).map fun i => entries[i]?.join.elim [] f).flatten =
      entries.reduceOption.flatMap f := by
  rw [map_range_getElem? entries fun entry => entry.join.elim [] f]
  induction entries with
  | nil => rfl
  | cons entry entries ih =>
      cases entry with
      | none => exact ih
      | some entry => exact congrArg (f entry ++ ·) ih

/-- What is made of those that are there is what is there of what is made of all. -/
theorem filterMap_id_map {β γ : Type} (entries : List (Option β)) (f : β → γ) :
    (entries.map fun entry => entry.map f).filterMap id = entries.reduceOption.map f := by
  rw [List.filterMap_map, List.reduceOption, List.map_filterMap]
  rfl

end Answers

/-! ## Diagnostics -/

namespace DiagnosticRow

/-- The row of a diagnostic, as the tables have it. -/
def ofEntry (engine : Engine) (nested : Bool) (entry : DiagnosticEntry) : DiagnosticRow where
  severity :=
    let severity := (ClosedKind.inspect (Severity.ofRaw entry.severity)).render.toLower
    if nested then "  " ++ severity else severity
  location := engine.placeText entry.location
  message := entry.spelling.decoded
  option := entry.enableOption.decoded
  fixIts := entry.fixIts.map fun (span, value) =>
    engine.placeText span.start ++ " -> " ++ Text.quote value.decoded

/-- The rows of a diagnostic: its own, and behind it one for each of its notes that is not null. -/
def ofNotes (engine : Engine) (entry : Nat) : List DiagnosticRow :=
  ofEntry engine false (engine.diagnostic entry) ::
    (engine.diagnostic entry).children.reduceOption.map fun note =>
      ofEntry engine true (engine.diagnostic note)

/-- Whether a diagnostic is an error, and its rows. -/
def ofNotesCounted (engine : Engine) (entry : Nat) : Bool × List DiagnosticRow :=
  ((Severity.ofRaw (engine.diagnostic entry).severity).isError, ofNotes engine entry)

instance : Legible DiagnosticRow where
  ofJson? value := do
    let severity ← (value.get "severity").str?
    let location ← (value.get "location").str?
    let message ← (value.get "message").str?
    let option ← (value.get "option").str?
    let fixIts ← (value.get "fixits").items.mapM Json.str?
    return ⟨severity, location, message, option, fixIts⟩
  ofJson?_toJson row := by
    obtain ⟨severity, location, message, option, _ | ⟨fixIt, fixIts⟩⟩ := row
    · rfl
    · show (do
        let fixIts ← ((fixIt :: fixIts).map Json.str).mapM Json.str?
        return (⟨severity, location, message, option, fixIts⟩ : DiagnosticRow)) = _
      rw [mapM_str?]
      rfl
  fits row := by
    have texts : ∀ text ∈ row.fixIts.map Json.str, text.Fits := List.forall_mem_map.2 fun _ _ => .str _
    refine .obj (List.forall_mem_append.2 ⟨?_, ?_⟩)
    · simp only [List.mem_cons, List.not_mem_nil, or_false, forall_eq_or_imp, forall_eq]
      exact ⟨.str _, .str _, .str _, .str _⟩
    · split
      next => exact List.forall_mem_nil _
      next => exact List.forall_mem_singleton.2 (.arr texts)

section Answers

variable {setting : Setting} (d : Diagnostic)

theorem answers_ofFixIt (fixIt : FixIt) : Answers setting (ofFixIt fixIt)
    (setting.engine.placeText fixIt.range.raw.value.start ++ " -> " ++ Text.quote fixIt.value) := by
  have new : fixIt.range.first.Remembers := SourceLocation.remembers_new rfl
  exact fixIt.range.answers_startPlace.bind ((SourceLocation.answers_report new).bind (.pure _))

theorem answers_fixIts : Answers setting
    (do Act.usingEach (← d.fixIts) ofFixIt)
    ((setting.engine.diagnostic d.handle.entry).fixIts.map fun (span, value) =>
      setting.engine.placeText span.start ++ " -> " ++ Text.quote value.decoded) := by
  let fixIts := (setting.engine.diagnostic d.handle.entry).fixIts
  have each : Answers setting (Act.usingEach ((List.range fixIts.length).map
      (d.fixIt setting.engine)) ofFixIt) _ :=
    Answers.usingEach fun fixIt _ => answers_ofFixIt fixIt
  have all := map_range_getElem? fixIts fun edit =>
    setting.engine.placeText (edit.getD default).1.start ++ " -> " ++
      Text.quote (edit.getD default).2.decoded
  rw [List.map_map] at each
  exact d.answers_fixIts.bind (Eq.mp (congrArg _ all) each)

theorem answers_ofDiagnostic (nested : Bool) : Answers setting (ofDiagnostic nested d)
    (ofEntry setting.engine nested (setting.engine.diagnostic d.handle.entry)) := by
  have severity : Answers setting d.severity _ := (d.answers_ask .severity (·.severity)).bind (.pure _)
  have place : Answers setting d.place _ :=
    (d.answers_ask .diagnosticLocation (·.location)).bind (.pure _)
  have message : Answers setting d.spelling _ :=
    (d.answers_ask .diagnosticSpelling (·.spelling)).bind (answers_text _)
  have option : Answers setting d.enableOption _ :=
    (d.answers_ask .enableOption (·.enableOption)).bind (answers_text _)
  unfold ofDiagnostic
  refine severity.bind (place.bind ((SourceLocation.answers_report (SourceLocation.remembers_new rfl)).bind ?_))
  refine message.bind (option.bind ?_)
  rw [← bind_assoc]
  exact (answers_fixIts d).bind (.pure _)

/-- A note is taken over if it is not null. -/
theorem yields_child? (i : Nat) : Yields setting (d.child? i) fun found =>
    found.map (·.handle.entry) = (setting.engine.diagnostic d.handle.entry).children[i]?.join := by
  refine (d.answers_ask (.childDiagnostic i) (·.children[i]?.join)).then ?_
  cases (setting.engine.diagnostic d.handle.entry).children[i]?.join with
  | none => exact .pure rfl
  | some note =>
      intro w loaded
      have made : (Diagnostic.ofRaw? (some note) d.unit (d.handle :: d.ancestors) d.anchor).exec
        setting w = (.ok (some _), _) := rfl
      exact ⟨_, _, made, rfl, isLoaded_exec loaded made⟩

/-- A note has a row if it is not null. -/
theorem answers_note (i : Nat) : Answers setting
    (do Act.using (← d.child? i) fun child => child.mapM (ofDiagnostic true))
    ((setting.engine.diagnostic d.handle.entry).children[i]?.join.map fun note =>
      ofEntry setting.engine true (setting.engine.diagnostic note)) := by
  refine (yields_child? d i).answers fun found same => ?_
  rw [← same]
  cases found with
  | none => exact Answers.using (.pure none)
  | some note => exact Answers.using ((answers_ofDiagnostic note true).bind (.pure _))

/-- A diagnostic has its own row and those of its notes. -/
theorem answers_ofTree : Answers setting (ofTree d) (ofNotes setting.engine d.handle.entry) := by
  let notes := (setting.engine.diagnostic d.handle.entry).children
  have counted : Answers setting d.childCount notes.length :=
    (answers_ask _ _ _).bind (d.answers_ask _ _)
  have rows : Answers setting ((List.range notes.length).mapM fun i => do
      Act.using (← d.child? i) fun child => child.mapM (ofDiagnostic true)) _ :=
    Answers.mapM fun i _ => answers_note d i
  have all := map_range_getElem? notes fun note =>
    note.join.map fun note => ofEntry setting.engine true (setting.engine.diagnostic note)
  rw [ofNotes, ← filterMap_id_map]
  exact (answers_ofDiagnostic d false).bind (counted.bind
    ((Eq.mp (congrArg _ all) rows).bind (.pure _)))

theorem answers_ofTreeCounted : Answers setting (ofTreeCounted d)
    (ofNotesCounted setting.engine d.handle.entry) := by
  have severity : Answers setting d.severity _ := (d.answers_ask .severity (·.severity)).bind (.pure _)
  exact severity.bind ((answers_ofTree d).bind (.pure _))

end Answers

end DiagnosticRow

/-- A diagnostic of a list is known by its entry. -/
theorem DiagnosticList.entry_of_subject (list : DiagnosticList) {found : Option Diagnostic} {entry : Ref}
    (same : (found.map Object.diagnostic).map Object.subject =
      entry.map fun entry => .diagnostic (list.about entry)) : found.map (·.handle.entry) = entry := by
  rw [Option.map_map] at same
  cases found with
  | none =>
      cases entry with
      | none => rfl
      | some _ => cases same
  | some d =>
      cases entry with
      | none => cases same
      | some _ =>
          have alike := Object.diagnostic.inj (Option.some.inj same)
          exact congrArg (fun d : Diagnostic => some d.handle.entry) alike

/-- The diagnostics of a unit have their rows, in order. -/
theorem DiagnosticList.serves_rows {setting : Setting} {table : Nat} (list : DiagnosticList) :
    Serves setting list.unit.resource table (Act.using list fun list => do
        (List.range (← list.length)).mapM fun i => do
          Act.using (← list.get? i) fun diagnostic =>
            diagnostic.elim (return (false, [])) DiagnosticRow.ofTreeCounted)
      (fun found => (found.map (·.2)).flatten =
        (setting.engine.unit table).diagnostics.reduceOption.flatMap
          (DiagnosticRow.ofNotes setting.engine)) := by
  let entries := (setting.engine.unit table).diagnostics
  have known {tables : Array Nat} (has : tables[list.unit.resource.label]? = some table) :
      list.entries setting.engine tables = entries := by
    rw [DiagnosticList.entries, has]
    rfl
  have counted : Serves setting list.unit.resource table list.length (· = entries.length) :=
    Fetches.serves fun tables has => known has ▸ list.fetches_length
  have row (i : Nat) : Serves setting list.unit.resource table
      (do Act.using (← list.get? i) fun diagnostic =>
        diagnostic.elim (return (false, [])) DiagnosticRow.ofTreeCounted)
      (· = entries[i]?.join.elim (false, []) (DiagnosticRow.ofNotesCounted setting.engine)) := by
    have got : Serves setting list.unit.resource table (list.get? i) fun found =>
        found.map (·.handle.entry) = entries[i]?.join :=
      Fetches.serves fun tables has => known has ▸ (list.fetches_get? i).mono fun _ same =>
        list.entry_of_subject same
    refine got.bind fun found same => Serves.using ?_
    rw [← same]
    cases found with
    | none => exact (Answers.pure (false, [])).serves
    | some d => exact (DiagnosticRow.answers_ofTreeCounted d).serves
  have rows (entry : Option Nat) : (entry.elim (false, [])
      (DiagnosticRow.ofNotesCounted setting.engine)).2 =
        entry.elim [] (DiagnosticRow.ofNotes setting.engine) := by
    cases entry <;> rfl
  refine Serves.using (counted.given ((Serves.mapM fun i _ => row i).mono fun found same => ?_))
  rw [same, List.map_map, ← flatten_range_join]
  exact congrArg _ (List.map_congr_left fun i _ => rows _)

section Reports

variable {setting : Setting} {host : Host} {source : SourceArgs} {table : Nat}

theorem exec_diagnosticReport (loads : loadedTable? setting host source = some table) :
    ∃ v, (diagnosticReport host source).exec setting {} =
      (.ok (printRows ((setting.engine.unit table).diagnostics.reduceOption.flatMap
        (DiagnosticRow.ofNotes setting.engine)) source.json), v) := by
  refine exec_using_loadUnit loads fun unit => ?_
  have viewed : Serves setting unit.resource table unit.diagnostics (· = ⟨unit⟩) :=
    (answers_keep _).serves
  refine viewed.given ((DiagnosticList.serves_rows ⟨unit⟩).bind fun found same => ?_)
  rw [← same]
  exact (unit.answers_record host _).serves.given (Answers.pure _).serves

end Reports

/-! ## Tokens -/

namespace TokenRow

/-- The row of a token, as the tables have it. -/
def ofEntry (engine : Engine) (entry : TokenEntry) : TokenRow where
  kind := (ClosedKind.inspect (TokenKind.ofRaw entry.kind)).render
  spelling := entry.spelling.decoded
  location := engine.placeText entry.location
  cursor := entry.cursor.elim "-" fun c =>
    (engine.cursorKindName (engine.cursor (some c)).kind).decoded

instance : Legible TokenRow where
  ofJson? value := do
    let kind ← (value.get "kind").str?
    let spelling ← (value.get "spelling").str?
    let location ← (value.get "location").str?
    let cursor ← (value.get "cursor").str?
    return ⟨kind, spelling, location, cursor⟩
  ofJson?_toJson _ := rfl
  fits row := by
    refine .obj ?_
    simp only [List.mem_cons, List.not_mem_nil, or_false, forall_eq_or_imp, forall_eq]
    exact ⟨.str _, .str _, .str _, .str _⟩

section Answers

variable {setting : Setting} (token : Token)

theorem answers_ask (question : Nat → Question) : Answers setting (token.ask question) token.entry :=
  (Act.answers_ask _ _ _).bind (.pure _)

/-- The kind of the token's cursor is named, if the token has one. -/
theorem answers_cursor : Answers setting
    (do Act.using (← token.cursor) fun cursor => do
      match cursor with
      | some cursor => (← cursor.kind).spelling
      | none => return "-")
    (ofEntry setting.engine token.entry).cursor := by
  have found : Yields setting token.cursor
      (Cursor.Stands ⟨token.entry.cursor, token.batch.unit.resource⟩ token.batch.unit) :=
    (answers_ask token _).then (Cursor.yields_ofRaw? _ _)
  refine found.answers fun cursor stands => Answers.using ?_
  cases cursor with
  | none =>
      have null : token.entry.cursor = none := by
        have absent : token.entry.cursor.isSome = false := stands.present.symm
        exact Option.isSome_eq_false_iff.1 absent |> Option.isNone_iff_eq_none.1
      rw [ofEntry, null]
      exact .pure "-"
  | some cursor =>
      have made : token.entry.cursor = cursor.raw.value :=
        congrArg Raw.value (stands.made cursor rfl).1.symm
      have present : token.entry.cursor.isSome = true := stands.present.symm
      obtain ⟨c, some⟩ := Option.isSome_iff_exists.1 present
      rw [ofEntry, some, Option.elim_some, ← some, made]
      exact (cursor.raw.answers_ask _ _ _).bind (CursorKind.answers_spelling _)

theorem answers_ofToken : Answers setting (ofToken token) (ofEntry setting.engine token.entry) := by
  have kind : Answers setting token.kind _ := (answers_ask token .tokenKind).bind (.pure _)
  have spelling : Answers setting token.spelling _ :=
    (answers_ask token .tokenSpelling).bind (answers_text _)
  have location : Answers setting token.location _ :=
    (answers_ask token .tokenLocation).bind (answers_keep _)
  refine kind.bind (spelling.bind ?_)
  refine location.bind ((SourceLocation.answers_report (SourceLocation.remembers_new rfl)).using.bind ?_)
  rw [← bind_assoc]
  exact (answers_cursor token).bind (.pure _)

/-- The tokens that are still to come have their rows. -/
theorem answers_ofStream (turns : Nat) (batch : Option TokenBatch) (next : Nat)
    (enough : (⟨batch, next⟩ : TokenStream).remaining < turns) :
    Answers setting (ofStream turns ⟨batch, next⟩)
      ((batch.elim [] fun batch => batch.tokens.drop next).map (ofEntry setting.engine)) := by
  induction turns generalizing next with
  | zero => exact absurd enough (Nat.not_lt_zero _)
  | succ turns ih =>
      unfold ofStream
      cases batch with
      | none => exact Answers.bind (.pure _) (.pure [])
      | some batch =>
          by_cases more : next < batch.tokens.length
          · have advanced : Answers setting (⟨some batch, next⟩ : TokenStream).advance
                (⟨some batch, next + 1⟩, some ⟨batch, next⟩) := by
              simp only [TokenStream.advance, if_pos more]
              exact (answers_keep _).bind (.pure _)
            have fewer : (⟨some batch, next + 1⟩ : TokenStream).remaining < turns := by
              simp only [TokenStream.remaining, Option.elim_some] at enough ⊢
              omega
            have entry : (⟨batch, next⟩ : Token).entry = batch.tokens[next] := by
              rw [Token.entry, List.getElem?_eq_getElem more]
              rfl
            have row := @answers_ofToken setting ⟨batch, next⟩
            rw [Option.elim_some, List.drop_eq_getElem_cons more, ← entry]
            exact advanced.bind (row.using.bind ((ih _ fewer).bind (.pure _)))
          · have ended : Answers setting (⟨some batch, next⟩ : TokenStream).advance
                (⟨none, next⟩, none) := by
              simp only [TokenStream.advance, if_neg more]
              exact (answers_drop _).bind (.pure _)
            rw [Option.elim_some, List.drop_eq_nil_of_le (not_lt.1 more)]
            exact ended.bind (.pure [])

/-- The tokens of a span have their rows, in the order of the batch. -/
theorem serves_tokens (unit : SourceUnit) (table : Nat) (range : Raw Span) :
    Serves setting unit.resource table (do
        let stream ← TokenStream.make unit range
        ofStream (stream.remaining + 1) stream)
      (· = (setting.engine.tokensIn table range.value).map (ofEntry setting.engine)) := by
  intro w has
  obtain ⟨batch, _, v, made, handed, -⟩ := TokenStream.exec_make setting unit range has.loaded
  have tokens : (batch.elim [] fun batch => batch.tokens.drop 0) =
      setting.engine.tokensIn table range.value := by
    rw [← has.table_eq]
    cases handed with
    | none empty => exact empty.symm
    | some _ _ same _ _ => exact same
  have rows := @answers_ofStream setting _ batch 0 (Nat.lt_succ_self _)
  rw [tokens] at rows
  have after : v.Has unit.resource table := has.grows (grows_exec made) (isLoaded_exec has.loaded made)
  obtain ⟨_, u, ran, rfl, has⟩ := Answers.serves rows v after
  exact ⟨_, u, (exec_bind_ok made).trans ran, rfl, has⟩

end Answers

end TokenRow

/-- The tokens of the root's extent, as the tables have them. -/
def Engine.rootTokens (engine : Engine) (table : Nat) : List TokenEntry :=
  engine.tokensIn table (engine.cursor (engine.unit table).root).extent

section Reports

variable {setting : Setting} {host : Host} {source : SourceArgs} {table : Nat}

/-- The tokens of the root's extent have their rows. -/
theorem exec_rootTokens {held : Held} {unit : SourceUnit} {w : World}
    (usable : Usable setting.engine held unit)
    (orderly : Orderly setting.engine ⟨setting.remembers, {}, []⟩ held w)
    (has : w.Has unit.resource table) :
    ∃ v, (do Act.using (← Cursor.root unit) fun root => do
        let stream ← root.tokens
        TokenRow.ofStream (stream.remaining + 1) stream).exec setting w =
      (.ok ((setting.engine.rootTokens table).map (TokenRow.ofEntry setting.engine)), v) := by
  obtain ⟨root, v, rooted, rfl, value, usable, ⟨facts, inv⟩, -⟩ :=
    Cursor.recites_root usable orderly
  replace rooted : (Cursor.root root.unit).exec setting w = (.ok root, v) := rooted
  rw [has.table_eq] at value
  replace has := has.grows (grows_exec rooted) (isLoaded_exec has.loaded rooted)
  let span : Raw Span := ⟨(setting.engine.cursor root.raw.value).extent, root.raw.origin⟩
  obtain ⟨_, u, spanned, rfl, -⟩ := Cursor.tells_extent usable facts v inv
  replace spanned : root.extent.exec setting v = (.ok { raw := span, unit := root.unit }, u) := spanned
  replace has := has.grows (grows_exec spanned) (isLoaded_exec has.loaded spanned)
  obtain ⟨_, t, ran, rfl, -⟩ := @TokenRow.serves_tokens setting root.unit table span u has
  refine ⟨t.release (refs root), ?_⟩
  rw [exec_bind_ok rooted, exec_using, Cursor.tokens, bind_assoc, exec_bind_ok spanned,
    Engine.rootTokens, ← value]
  rw [ran]

theorem exec_tokenReport (loads : loadedTable? setting host source = some table) :
    ∃ v, (tokenReport host source).exec setting {} =
      (.ok (printRows ((setting.engine.rootTokens table).map (TokenRow.ofEntry setting.engine))
        source.json), v) := by
  obtain ⟨unit, w, loaded, has, usable, orderly⟩ := exec_loadUnit_of_loads loads
  obtain ⟨v, listed⟩ := exec_rootTokens usable orderly has
  obtain ⟨u, kept, -⟩ := unit.answers_record host _ v (isLoaded_exec has.loaded listed)
  refine ⟨u.release (refs unit), ?_⟩
  unfold tokenReport
  rw [exec_bind_ok loaded, exec_using, ← bind_assoc, exec_bind_ok listed, exec_bind_ok kept]
  rfl

end Reports

/-! ## Commands -/

/-- What a database has for a file, or altogether; none if it has no list. -/
def DatabaseEntry.listed (entry : DatabaseEntry) (file : Option Bytes) : Option CommandEntries :=
  match file with
  | some file => (entry.files.find? (·.1 == file)).map (·.2)
  | none => entry.all

/-- The entry of the database in a directory, if it can be opened. -/
def openedDatabase? (setting : Setting) (directory : Bytes) : Option DatabaseEntry :=
  match (Database.openIn directory).exec setting {} with
  | (.ok database, _) => some database.entry
  | (.error _, _) => none

theorem Act.Fetches.answers {setting : Setting} {α : Type} {x : Act α} {a : α} {heard : List Nat}
    (fetches : ∀ tables, Fetches setting tables x heard (· = a)) : Answers setting x a := by
  intro w loaded
  obtain ⟨_, v, ran, rfl, loaded, -⟩ := fetches w.instances w loaded rfl
  exact ⟨v, ran, loaded⟩

/-- The commands that are not null are handed out, in order. -/
theorem CommandList.answers_toList {setting : Setting} (list : CommandList) :
    Answers setting list.toList (list.commands.reduceOption.map list.about) := by
  have counted : Answers setting list.length list.commands.length :=
    Fetches.answers fun _ => list.fetches_length
  have each : Answers setting ((List.range list.commands.length).mapM list.get?) _ :=
    Answers.mapM fun i _ => Fetches.answers fun _ => list.fetches_get? i
  have all := map_range_getElem? list.commands fun entry => entry.join.map list.about
  rw [← filterMap_id_map]
  exact counted.bind ((Eq.mp (congrArg _ all) each).bind (.pure _))

namespace Database

variable {setting : Setting} (database : Database)

/-- A list is taken over if there is one. -/
theorem yields_listOf? (commands : Option CommandEntries) :
    Yields setting (database.listOf? commands) fun list => list.map (·.commands) = commands := by
  intro w loaded
  cases commands with
  | none => exact ⟨none, w, rfl, rfl, loaded⟩
  | some commands =>
      have ran : (database.listOf? (some commands)).exec setting w = (.ok (some _), _) := rfl
      exact ⟨_, _, ran, rfl, isLoaded_exec loaded ran⟩

theorem yields_commands (file : Option Bytes) (sound : ∀ name ∈ file, 0 ∉ name) :
    Yields setting (match file with
      | some file => database.commandsFor file
      | none => database.allCommands) fun list =>
        list.map (·.commands) = database.entry.listed file := by
  cases file with
  | none => exact (answers_ask _ _ _).then (database.yields_listOf? _)
  | some file =>
      have named : file.nulPosition? = none := Bytes.nulPosition?_eq_none.2 (sound file rfl)
      have requested : Answers setting (Act.request (.findCommands database.resource file)) () :=
        fun w loaded => ⟨_, exec_request _ loaded, loaded⟩
      simp only [commandsFor, named]
      exact requested.then (database.yields_listOf? _)

/-- Where a database is opened the engine is loaded. -/
theorem loaded_of_openIn {directory : Bytes} {database : Database} {w : World}
    (ran : (openIn directory).exec setting {} = (.ok database, w)) : w.loaded = true := by
  have again : (openIn directory).exec setting { loaded := true } = (.ok database, w) := ran
  exact isLoaded_exec rfl again

end Database

namespace CommandRow

/-- The row of a command, as the database has it. -/
def ofEntry (entry : CommandEntry) : CommandRow where
  directory := entry.directory.decoded
  file := entry.filename.decoded
  command := " ".intercalate (entry.arguments.map (·.decoded))

instance : Legible CommandRow where
  ofJson? value := do
    let directory ← (value.get "directory").str?
    let file ← (value.get "file").str?
    let command ← (value.get "command").str?
    return ⟨directory, file, command⟩
  ofJson?_toJson _ := rfl
  fits row := by
    refine .obj ?_
    simp only [List.mem_cons, List.not_mem_nil, or_false, forall_eq_or_imp, forall_eq]
    exact ⟨.str _, .str _, .str _⟩

theorem answers_ofCommand {setting : Setting} (command : CompileCommand) :
    Answers setting (ofCommand command) (ofEntry command.raw.value) := by
  have directory : Answers setting command.directory _ :=
    (command.raw.answers_ask _ _ _).bind (answers_text _)
  have file : Answers setting command.filename _ :=
    (command.raw.answers_ask _ _ _).bind (answers_text _)
  exact directory.bind (file.bind (command.answers_arguments.bind (.pure _)))

/-- The commands of a list have their rows; there are none without a list. -/
theorem answers_rows {setting : Setting} (list : Option CommandList) :
    Answers setting (Act.using list fun list => do
        match list with
        | none => return []
        | some list => Act.usingEach (← list.toList) ofCommand)
      (((list.map (·.commands)).getD []).reduceOption.map ofEntry) := by
  cases list with
  | none => exact Answers.using (.pure [])
  | some list =>
      have rows : Answers setting (Act.usingEach (list.commands.reduceOption.map list.about) ofCommand)
          _ := Answers.usingEach fun command _ => answers_ofCommand command
      rw [List.map_map] at rows
      exact Answers.using (list.answers_toList.bind rows)

end CommandRow

theorem exec_commandReport {setting : Setting} {directory : Bytes} {file : Option Bytes}
    {entry : DatabaseEntry} (json : Bool) (opens : openedDatabase? setting directory = some entry)
    (sound : ∀ name ∈ file, 0 ∉ name) :
    ∃ v, (commandReport directory file json).exec setting {} =
      (.ok (printRows (((entry.listed file).getD []).reduceOption.map CommandRow.ofEntry) json), v) := by
  unfold openedDatabase? at opens
  split at opens
  next database w ran =>
    obtain rfl := Option.some.inj opens
    unfold commandReport
    rw [exec_bind_ok ran, exec_using]
    refine Answers.released ?_ (Database.loaded_of_openIn ran) (refs database)
    have printed (list : Option CommandList)
        (same : list.map (·.commands) = database.entry.listed file) :=
      (@CommandRow.answers_rows setting list).bind
        (f := fun rows => return printRows rows json) (.pure _)
    cases file <;> exact (database.yields_commands _ sound).answers fun list same =>
      same ▸ printed list same
  next => cases opens

/-! ## What the listings account for -/

end SourceAtlas
