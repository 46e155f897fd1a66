import SourceAtlas.Proofs.Loading
import SourceAtlas.Proofs.Ranges
import SourceAtlas.Proofs.ReportCoverage

/-!
# Panics

There are two ways to panic: a question about a kind may come before the engine is loaded, and the
engine may report a null cursor in a visitation. A run of the program loads the engine first, so
only the second way is left to it.
-/

namespace SourceAtlas

open Act
open Fault (Justified)

/-! ## Reports -/

section Reports

variable {setting : Setting} {α β : Type}

instance : (sound setting).Lending where
  lend value _ holds w := by
    rw [exec_using]
    exact (holds w).sheds (.release ..)

instance : (sound setting).Reporting where

/-- A source file is loaded with the engine, if its configuration can be read at all. -/
theorem not_unloaded_loadUnit {host : Host} {source : CommandLine.SourceArgs}
    {extra : ParseOptions} {f : SourceUnit → Act α}
    (covered : (sound setting).Covers (loadUnit host source extra >>= f)) (w : World) :
    ((loadUnit host source extra >>= f).exec setting w).1 ≠
      .error (.panic .engineNotLoaded) := by
  cases read : source.parseConfig host with
  | error failure =>
      have refused : (loadUnit host source extra).exec setting w = (.error (.failure failure), w) := by
        unfold loadUnit
        rw [read]
        rfl
      rw [exec_bind_error refused]
      exact nofun
  | ok config =>
      have first : (loadUnit host source extra).LoadsFirst setting := by
        unfold loadUnit
        rw [read]
        show LoadsFirst setting (Index.create {} >>= _)
        exact .bind (.bind .load)
      exact (first.bind.loaded w).2

/-- Every report begins with loading the engine. -/
theorem not_unloaded_report (host : Host) (command : CommandLine.Command) (w : World) :
    ((report host command).exec setting w).1 ≠ .error (.panic .engineNotLoaded) := by
  have covered : (sound setting).Covers (report host command) := inferInstance
  cases command with
  | commands directory file json =>
      have first : (commandReport directory file json).LoadsFirst setting := .bind (.bind .load)
      exact (first.loaded w).2
  | version =>
      have first : versionReport.LoadsFirst setting := .bind .load
      exact (first.loaded w).2
  | _ => exact not_unloaded_loadUnit covered w

/-- A run of the program panics if and only if the engine has reported a null cursor to it. -/
theorem exitCode_runProgram (setting : Setting) (host : Host) (words : List Bytes) :
    (runProgram setting host words).exitCode = 101 ↔
      ∃ event ∈ (runProgram setting host words).events, event.ShowsNull setting.engine := by
  unfold runProgram
  split
  next problem _ =>
    cases problem <;> simp [CommandLine.Problem.exitCode]
  next invocation _ =>
    have covered : (sound setting).Covers (report host invocation.command) := inferInstance
    have justified := covered.holds {}
    have loads : ((report host invocation.command).exec setting {}).1 ≠ _ :=
      not_unloaded_report host invocation.command {}
    rcases ran : (report host invocation.command).exec setting {} with ⟨outcome, v⟩
    rw [ran] at justified loads
    replace ran : (report host invocation.command setting).run {} = (outcome, v) := ran
    rw [ran]
    obtain ⟨events, trace, null⟩ := justified.visits
    have shown : (∃ event ∈ v.trace.reverse, event.ShowsNull setting.engine) ↔
        outcome = .error (.panic .nullCursorVisited) := by
      rw [null, trace]
      simp
    -- the program ends with a failure, with one of the two panics, or with its output
    rcases outcome with (failure | _ | _) | output
    · simpa using shown
    · simpa using shown
    · exact absurd rfl loads
    · simpa using shown

end Reports

/-! ## Sessions -/

/-- What holds in the course of a thread that has asked the session some queries by name. -/
structure Session.Panics (setting : Setting) (names : List String) (state : State) : Prop where
  /-- The engine is not loaded for a question about a kind, if no earlier query has loaded it. -/
  unloaded : ∀ receiver other target args name,
    (state.ask setting receiver other target args name).2 = .fault (.panic .engineNotLoaded) ↔
      receiver = none ∧ (name = "cursor_kind" ∨ name = "type_kind") ∧
        ∀ earlier ∈ names, earlier ∉ loadingQueries
  /-- A null cursor is met where the engine has reported one. -/
  null : ∀ receiver other target args name, ∃ events,
    (state.ask setting receiver other target args name).1.world.trace =
        events ++ state.world.trace ∧
      ((state.ask setting receiver other target args name).2 =
          .fault (.panic .nullCursorVisited) ↔
        ∃ event ∈ events, event.ShowsNull setting.engine)
  loaded : state.world.loaded = true ↔ ∃ name ∈ names, name ∈ loadingQueries
  /-- There are objects only where the engine is loaded. -/
  objects : state.slots ≠ [] → state.world.loaded = true
  inRange : state.InRange
  /-- A stream yields as many tokens as it says. -/
  streams : ∀ slot stream, (slot, .tokens stream) ∈ state.slots → ∃ next tokens w,
    stream.drain.exec setting state.world = (.ok (next, tokens), w) ∧
      tokens.length = stream.remaining
  /-- There are as many candidates as the results say. -/
  results : ∀ slot results, (slot, .completion results) ∈ state.slots →
    ((List.range results.length).filterMap results.candidate?).length = results.length

theorem Session.Heard.panics {setting : Setting} {begin state : State} {names : List String}
    (heard : Session.Heard setting begin names state) : Session.Panics setting names state where
  unloaded := heard.loading.panics_iff
  null receiver other target args name := by
    obtain ⟨events, trace, null⟩ :=
      (State.justified_ask setting state receiver other target args name).visits
    exact ⟨events, trace, Reply.outcome_eq_error.symm.trans null⟩
  loaded := heard.loading.loaded_iff
  objects some := by
    by_contra unloaded
    exact some (heard.loading.empty (by simpa using unloaded))
  inRange := heard.reached.inRange
  streams _ stream _ := stream.exec_drain setting state.world
  results _ results _ := results.length_candidates

/-- Nothing panics but a question about a kind that comes before the engine is loaded on its thread,
and a visitation in which the engine reports a null cursor. -/
theorem panics_only (setting : Setting) :
    (∀ begin names state, Session.Heard setting begin names state →
      Session.Panics setting names state) ∧
    (∀ begin state, Session.Reached setting begin state →
      ∃ names, Session.Heard setting begin names state) ∧
    ∀ host words, (runProgram setting host words).exitCode = 101 ↔
      ∃ event ∈ (runProgram setting host words).events, event.ShowsNull setting.engine :=
  ⟨fun _ _ _ heard => heard.panics, fun _ _ reached => reached.heard,
    exitCode_runProgram setting⟩

theorem panics_only_kind :
    (({} : State).ask default none none none .null "cursor_kind").2 =
      .fault (.panic .engineNotLoaded) :=
  (((panics_only default).1 _ _ _ .start).unloaded none none none .null "cursor_kind").2
    ⟨rfl, .inl rfl, nofun⟩

end SourceAtlas
