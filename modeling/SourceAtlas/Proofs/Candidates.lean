import SourceAtlas.Proofs.JsonGrammar
import SourceAtlas.Proofs.ParseRequests
import SourceAtlas.Proofs.Texts

/-!
# Ranked candidates

The report on code completion has one row for each candidate that the engine found. The rows are
ranked by priority and then by name, and candidates that tie in both stay in the engine's order
(`Ranking`). A limit cuts the ranking. A table and a JSON list have the same rows.
-/

namespace SourceAtlas

open Act
open CommandLine (SourceArgs CompleteArgs Invocation)

section Answers

variable {setting : Setting} {α β : Type}

/-- What is used does not bear on the answer. -/
theorem Act.Answers.using [Holder α] {value : α} {act : α → Act β} {b : β}
    (answers : Answers setting (act value) b) : Answers setting (Act.using value act) b := by
  intro w loaded
  obtain ⟨v, ran, loaded⟩ := answers w loaded
  exact ⟨v.release (refs value), by rw [exec_using, ran],
    (World.Sheds.release v _).loaded.trans loaded⟩

theorem Act.Answers.released {x : Act α} {a : α} {w : World} (answers : Answers setting x a)
    (loaded : w.loaded = true) (given : CellRefs) :
    ∃ v, ((x.exec setting w).1, (x.exec setting w).2.release given) = (.ok a, v) := by
  obtain ⟨v, ran, -⟩ := answers w loaded
  exact ⟨v.release given, by rw [ran]⟩

/-- A chunk that has not been asked about anything is asked for its kind. -/
theorem Chunk.answers_askKind (string : CompletionString) (i : Nat) :
    Answers setting (askKind { string, position := i })
      (.ofRaw (setting.engine.chunk string.raw.value i).kind) := by
  have asked : Answers setting (do
      return CompletionChunkKind.ofRaw (← string.raw.ask (.chunkKind i) fun engine s =>
        (engine.chunk s i).kind)) (.ofRaw (setting.engine.chunk string.raw.value i).kind) :=
    (string.raw.answers_ask _ _ _).bind (.pure _)
  intro w loaded
  unfold askKind
  rw [exec_bind_ok exec_read]
  cases setting.remembers <;> exact asked w loaded

theorem Chunk.answers_askSpelling (string : CompletionString) (i : Nat) :
    Answers setting (askSpelling { string, position := i })
      (setting.engine.chunk string.raw.value i).text.decoded := by
  intro w loaded
  unfold askSpelling
  rw [exec_bind_ok exec_read]
  cases setting.remembers <;> exact string.answers_chunkText i w loaded

theorem CursorKind.answers_spelling (kind : CursorKind) :
    Answers setting kind.spelling (setting.engine.cursorKindName kind).decoded :=
  (answers_ask _ _ _).bind (answers_engine.bind (Act.answers_text _))

/-- A candidate, as the results hand it out. -/
def Completion.handOut (results : Completion) (entry : CandidateEntry) : Candidate :=
  ⟨entry.kind, ⟨entry.string, results.resource⟩, results⟩

/-- Every candidate is handed out, in order. -/
theorem Completion.answers_toList (results : Completion) :
    Answers setting results.toList (results.entry.results.map results.handOut) := by
  have all : (List.range results.length).filterMap results.candidate? =
      results.entry.results.map results.handOut := by
    have each : (List.range results.length).map results.candidate? =
        results.entry.results.map fun entry => some (results.handOut entry) :=
      map_range_getElem? results.entry.results (·.map results.handOut)
    calc (List.range results.length).filterMap results.candidate?
      _ = ((List.range results.length).map results.candidate?).filterMap id := by
        rw [List.filterMap_map]
        rfl
      _ = results.entry.results.map results.handOut := by
        rw [each, List.filterMap_map]
        exact congrFun List.filterMap_eq_map _
  rw [← all]
  exact Act.answers_keep _

end Answers

/-- Rows are read back from the JSON list that is printed of them. -/
theorem parse_printRows {ρ : Type} [Tabular ρ] {rows : List ρ}
    (fits : ∀ row ∈ rows, (Tabular.toJson row).Fits) :
    Json.parse (printRows rows true) = .ok (.arr (rows.map Tabular.toJson)) :=
  Json.parse_pretty (.arr (List.forall_mem_map.2 fits))

namespace CandidateRow

/-! ## Ranking -/

/-- Whether a row may stand before another: its priority is lower, or it is the same and the bytes of
its name are not greater. -/
def Ranks (a b : CandidateRow) : Prop :=
  a.priority < b.priority ∨ a.priority = b.priority ∧ Utf8.encode a.name ≤ Utf8.encode b.name

/-- Whether two rows tie. -/
def ties (priority : UInt32) (name : String) (row : CandidateRow) : Bool :=
  row.priority == priority && row.name == name

/-- Whether some rows are the ranking of others. -/
structure Ranking (rows ranked : List CandidateRow) : Prop where
  perm : ranked.Perm rows
  sorted : ranked.Pairwise Ranks
  /-- Rows that tie stay in their order. -/
  stable : ∀ priority name, ranked.filter (ties priority name) = rows.filter (ties priority name)

theorem precedes_iff {a b : CandidateRow} : a.precedes b = true ↔ a.Ranks b := by
  unfold precedes Ranks
  rw [Utf8.encode_le_iff, Bool.or_eq_true, Bool.and_eq_true, decide_eq_true_eq, decide_eq_true_eq,
    beq_iff_eq]

theorem precedes_trans (a b c : CandidateRow) (first : a.precedes b = true)
    (second : b.precedes c = true) : a.precedes c = true := by
  rw [precedes_iff, Ranks, Utf8.encode_le_iff] at *
  rcases first with above | ⟨same, le⟩ <;> rcases second with above' | ⟨same', le'⟩
  · exact .inl (UInt32.lt_trans above above')
  · exact .inl (same' ▸ above)
  · exact .inl (same ▸ above')
  · exact .inr ⟨same.trans same', le.trans le'⟩

theorem precedes_total (a b : CandidateRow) : (a.precedes b || b.precedes a) = true := by
  rw [Bool.or_eq_true, precedes_iff, precedes_iff, Ranks, Ranks, Utf8.encode_le_iff,
    Utf8.encode_le_iff]
  rcases Nat.lt_trichotomy a.priority.toNat b.priority.toNat with above | same | below
  · exact .inl (.inl above)
  · have same : a.priority = b.priority := UInt32.toNat_inj.1 same
    rcases le_total a.name b.name with le | le
    · exact .inl (.inr ⟨same, le⟩)
    · exact .inr (.inr ⟨same.symm, le⟩)
  · exact .inr (.inl below)

theorem ties_iff {priority : UInt32} {name : String} {row : CandidateRow} :
    ties priority name row = true ↔ row.priority = priority ∧ row.name = name := by
  rw [ties, Bool.and_eq_true, beq_iff_eq, beq_iff_eq]

/-- Sorting ranks rows. -/
theorem ranking_mergeSort (rows : List CandidateRow) : Ranking rows (rows.mergeSort precedes) where
  perm := List.mergeSort_perm rows precedes
  sorted := (List.pairwise_mergeSort precedes_trans precedes_total rows).imp precedes_iff.1
  stable priority name := by
    let tied := rows.filter (ties priority name)
    have ordered : tied.Pairwise fun a b => a.precedes b = true := by
      refine List.pairwise_of_forall_mem_list fun a member b member' => ?_
      obtain ⟨same, alike⟩ := ties_iff.1 (List.mem_filter.1 member).2
      obtain ⟨same', alike'⟩ := ties_iff.1 (List.mem_filter.1 member').2
      rw [precedes_iff, Ranks, Utf8.encode_le_iff, same, alike, same', alike']
      exact .inr ⟨rfl, le_refl name⟩
    have kept : tied.Sublist ((rows.mergeSort precedes).filter (ties priority name)) := by
      have kept := (List.sublist_mergeSort precedes_trans precedes_total ordered
        List.filter_sublist).filter (ties priority name)
      rwa [List.filter_filter, List.filter_congr fun _ _ => Bool.and_self _] at kept
    have all : ((rows.mergeSort precedes).filter (ties priority name)).Perm tied :=
      (List.mergeSort_perm rows precedes).filter _
    exact (kept.eq_of_length all.length_eq.symm).symm

/-! ## Rows -/

/-- The row of a candidate. Its name is the text of the first chunk that the user would type, if there
is one, and its signature all chunks together. -/
def ofEntry (engine : Engine) (entry : CandidateEntry) : CandidateRow :=
  let string := engine.string entry.string
  { priority := string.priority
    kind := (engine.cursorKindName entry.kind).decoded
    name := (string.chunks.find? fun chunk => CompletionChunkKind.ofRaw chunk.kind == .typedText).elim
      "" (·.text.decoded)
    signature := String.join (string.chunks.map (·.text.decoded))
    comment := string.brief.decoded }

section Answers

variable {setting : Setting}

/-- The chunks are looked at in order, until one is found that the user would type. -/
theorem answers_typedText (string : CompletionString) (positions : List Nat) :
    Answers setting (typedText (positions.map fun i => { string, position := i }))
      (((positions.map (setting.engine.chunk string.raw.value)).find? fun chunk =>
        CompletionChunkKind.ofRaw chunk.kind == .typedText).elim "" (·.text.decoded)) := by
  induction positions with
  | nil => exact .pure ""
  | cons i positions ih =>
      rw [List.map_cons, List.map_cons, typedText, List.find?_cons]
      refine (Chunk.answers_askKind string i).bind ?_
      split
      next typed =>
        rw [typed]
        exact Chunk.answers_askSpelling string i
      next other =>
        rw [Bool.eq_false_iff.2 other]
        exact ih

theorem answers_chunks (string : CompletionString) : Answers setting string.chunks
    ((List.range (setting.engine.string string.raw.value).chunks.length).map fun i =>
      { string, position := i }) :=
  string.answers_length.bind (.mapM fun _ _ => Act.answers_keep _)

/-- The name of a candidate is the text of the first chunk that the user would type. -/
theorem answers_name (string : CompletionString) :
    Answers setting (Act.using ((List.range
        (setting.engine.string string.raw.value).chunks.length).map fun i =>
          ({ string, position := i } : Chunk)) typedText)
      (((setting.engine.string string.raw.value).chunks.find? fun chunk =>
        CompletionChunkKind.ofRaw chunk.kind == .typedText).elim "" (·.text.decoded)) := by
  let chunks := (setting.engine.string string.raw.value).chunks
  have typed := @answers_typedText setting string (List.range chunks.length)
  have all : (List.range chunks.length).map (setting.engine.chunk string.raw.value) = chunks :=
    (map_range_getElem? chunks (·.getD {})).trans (List.map_id' chunks)
  rw [all] at typed
  exact typed.using

/-- The row of a candidate is what the engine's tables say, whatever happened before. -/
theorem answers_ofCandidate (candidate : Candidate) : Answers setting (ofCandidate candidate)
    (ofEntry setting.engine ⟨candidate.kind, candidate.string.value⟩) := by
  let string := candidate.label
  unfold ofCandidate
  refine (answers_chunks string).bind ((answers_name string).bind ?_)
  refine (string.answers_ask .priority (·.priority)).bind ?_
  refine candidate.kind.answers_spelling.bind (string.answers_text.bind ?_)
  refine Answers.bind ((string.answers_ask .candidateComment (·.brief)).bind (Act.answers_text _)) ?_
  exact .pure _

/-- The rows of all candidates, ranked and cut, are printed. -/
theorem answers_listing (results : Completion) (limit : Option UInt64) (json : Bool) :
    Answers setting (do
        let rows ← Act.usingEach (← results.toList) ofCandidate
        return printRows (select limit rows) json)
      (printRows (select limit (results.entry.results.map (ofEntry setting.engine))) json) := by
  have rows : Answers setting (Act.usingEach (results.entry.results.map results.handOut) ofCandidate)
      (results.entry.results.map (ofEntry setting.engine)) := by
    have each := Answers.mapM fun candidate
      (_ : candidate ∈ results.entry.results.map results.handOut) =>
        @answers_ofCandidate setting candidate
    rw [List.map_map] at each
    exact Answers.using each
  exact results.answers_toList.bind (rows.bind (.pure _))

end Answers

end CandidateRow

/-! ## Runs -/

section Runs

variable {setting : Setting} {host : Host} {source : SourceArgs}

/-- What the engine has for code completion in a source file, if that is loaded. -/
def completion? (setting : Setting) (host : Host) (source : SourceArgs)
    (args : CompleteArgs) : Option CompletionEntry :=
  match (loadUnit host source).exec setting {} with
  | (.ok _, _) => (setting.engine.completionAt source.file args.line args.column).map (·.2)
  | (.error _, _) => none

/-- The report on code completion prints the rows of all candidates, ranked and cut. -/
theorem exec_completionReport {args : CompleteArgs} {entry : CompletionEntry}
    (found : completion? setting host source args = some entry) :
    ∃ v, (completionReport host source args).exec setting {} =
      (.ok (printRows (CandidateRow.select args.limit
        (entry.results.map (CandidateRow.ofEntry setting.engine))) source.json), v) := by
  unfold completion? at found
  split at found
  next unit w ran =>
    obtain ⟨config, read, sound, loaded⟩ := sound_of_loaded ran
    have given : (Act.ofExcept (source.parseConfig host)).exec setting w = (.ok config, w) := by
      rw [read]
      rfl
    obtain ⟨results, v, completed, same, -⟩ := @SourceUnit.exec_complete setting unit w loaded _ _
      (sound_unsaved sound) args.line args.column ⟨args.macros, args.patterns, true⟩
    obtain ⟨results, rfl, rfl⟩ := Option.map_eq_some_iff.1 (same.trans found)
    unfold completionReport
    rw [exec_bind_ok ran, exec_using, exec_bind_ok given, exec_bind_ok completed]
    refine Act.Answers.released ?_ (isLoaded_exec loaded completed) (refs unit)
    exact .using (CandidateRow.answers_listing results args.limit source.json)
  next => cases found

/-- What a report comes to is what the program prints. -/
theorem runProgram_eq {words : List Bytes} {invocation : Invocation}
    {command : CommandLine.Command} {output : String} {v : World}
    (parsed : CommandLine.parse words = .ok invocation) (asked : invocation.command = command)
    (ran : (report host command).exec setting {} = (.ok output, v)) :
    runProgram setting host words = { exitCode := 0, output, events := v.trace.reverse } := by
  replace ran : (report host command setting).run {} = (.ok output, v) := ran
  unfold runProgram
  simp only [parsed, asked, ran]

theorem runProgram_of_report {words : List Bytes} {invocation : Invocation}
    {command : CommandLine.Command} {output : String} {v : World}
    (parsed : CommandLine.parse words = .ok invocation) (asked : invocation.command = command)
    (ran : (report host command).exec setting {} = (.ok output, v)) :
    (runProgram setting host words).exitCode = 0 ∧
      (runProgram setting host words).output = output := by
  rw [runProgram_eq parsed asked ran]
  exact ⟨rfl, rfl⟩

end Runs

theorem CandidateRow.fits_toJson (row : CandidateRow) : (Tabular.toJson row).Fits := by
  have narrow : row.priority.toNat < UInt64.size :=
    row.priority.toNat_lt.trans (by decide)
  refine .obj ?_
  simp only [List.mem_cons, List.not_mem_nil, or_false, forall_eq_or_imp, forall_eq]
  exact ⟨Json.fits_nat narrow, .str _, .str _, .str _, .str _⟩

end SourceAtlas
