import SourceAtlas.Proofs.Hearing
import SourceAtlas.Program

/-!
# What reports are made of

Reports put together what objects are asked, and use things that are given up afterwards, so a
guarantee covers them as well. A report that has loaded its source file makes no further request,
unless it asks for code completion.
-/

namespace SourceAtlas

open Act

variable {setting : Setting} {α β : Type}

/-- What is used is given up behind the action that uses it, in whatever way that ends. -/
theorem Act.exec_using [Holder α] (value : α) (act : α → Act β) (w : World) :
    (Act.using value act).exec setting w =
      (((act value).exec setting w).1, ((act value).exec setting w).2.release (refs value)) := by
  unfold Act.using
  rw [exec_bind_ok (exec_attempt _)]
  rcases (act value).exec setting w with ⟨fault | result, v⟩ <;> rfl

theorem Act.exec_using_eq_ok [Holder α] {value : α} {act : α → Act β} {b : β} {w v : World}
    (ran : (Act.using value act).exec setting w = (.ok b, v)) :
    ∃ u, (act value).exec setting w = (.ok b, u) ∧ v = u.release (refs value) := by
  rw [exec_using] at ran
  obtain ⟨same, rfl⟩ := Prod.mk.inj ran
  exact ⟨_, Prod.ext same rfl, rfl⟩

/-- Whether things may be used that are given up afterwards. -/
class Act.Guarantee.Lending (G : Guarantee setting) : Prop where
  lend : ∀ {α β : Type} [Holder α] (value : α) {act : α → Act β}, G.Holds (act value) →
    G.Holds (Act.using value act)

/-- Whether everything is allowed that a report does once its source file is loaded. -/
class Act.Guarantee.Reporting (G : Guarantee setting) : Prop extends Guarantee.Lending G,
  Guarantee.Counting G, Guarantee.Failing G, Guarantee.Remembering G, Guarantee.Visiting G

/-- What is given up afterwards is not heard. -/
instance {hears : Event → Option γ} [Selective hears] : (hushed setting hears).Lending where
  lend value _ holds w := by
    rw [exec_using]
    exact (holds w).hush (.sheds (fun _ => Selective.deaf_other rfl rfl) (.release ..))

variable {G : Guarantee setting}

section Lending

variable [lends : G.Lending]

instance [Holder α] (value : α) (act : α → Act β) [covered : G.Covers (act value)] :
    G.Covers (Act.using value act) :=
  ⟨lends.lend value covered.holds⟩

instance [Holder α] (values : List α) (act : α → Act β) [∀ a, G.Covers (act a)] :
    G.Covers (Act.usingEach values act) := by
  unfold usingEach
  infer_instance

instance [G.Counting] [G.Failing] [G.Requesting] [G.Loading] (host : Host)
    (source : CommandLine.SourceArgs) (extra : ParseOptions) :
    G.Covers (loadUnit host source extra) := by
  unfold loadUnit Index.parse
  infer_instance

end Lending

instance (host : Host) (text : Act String) [G.Covers text] : G.Covers (Act.record host text) := by
  unfold record
  infer_instance

instance (expansion : Expansion) : G.Covers expansion.report := by
  unfold Expansion.report
  cases expansion.file <;> infer_instance

instance (location : SourceLocation) : G.Covers location.report := by
  unfold SourceLocation.report
  infer_instance

instance (kind : CursorKind) : G.Covers kind.spelling := by
  unfold CursorKind.spelling
  infer_instance

/-! ## Trees -/

namespace AstScope

instance [G.Counting] [G.Remembering] (scope : AstScope) (child : Cursor) :
    G.Covers (scope.shows child) := by
  unfold shows
  infer_instance

instance [G.Counting] [G.Remembering] (cursor : Cursor) (children : List AstNode) :
    G.Covers (node.describe cursor children) := by
  unfold node.describe
  infer_instance

instance [G.Reporting] (scope : AstScope) (levels : Nat) (cursor : Cursor) :
    G.Covers (scope.node levels cursor) := by
  induction levels generalizing cursor with
  | zero =>
      unfold node
      infer_instance
  | succ levels ih =>
      unfold node
      infer_instance

end AstScope

section Reporting

variable [G.Reporting]

/-! ## Tokens -/

namespace Token

variable (token : Token)

instance (question : Nat → Question) [∀ i, (question i).Free] : G.Covers (token.ask question) := by
  unfold Token.ask
  infer_instance

instance : G.Covers token.kind := by
  unfold kind
  infer_instance

instance : G.Covers token.spelling := by
  unfold spelling
  infer_instance

instance : G.Covers token.location := by
  unfold location
  infer_instance

instance : G.Covers token.cursor := by
  unfold cursor
  infer_instance

end Token

namespace TokenRow

instance (token : Token) : G.Covers (ofToken token) := by
  have (cursor : Option Cursor) : G.Covers (match cursor with
      | some cursor => do return ← (← cursor.kind).spelling
      | none => pure "-") := by
    split <;> infer_instance
  unfold ofToken
  infer_instance

instance (turns : Nat) (stream : TokenStream) : G.Covers (ofStream turns stream) := by
  induction turns generalizing stream with
  | zero => exact inferInstanceAs (G.Covers (pure []))
  | succ turns ih =>
      unfold ofStream
      refine .bind inferInstance fun _ => ?_
      split <;> infer_instance

end TokenRow

/-! ## Diagnostics -/

namespace Diagnostic

variable (diagnostic : Diagnostic)

instance : G.Covers diagnostic.fixIts := by
  simp only [fixIts]
  infer_instance

instance : G.Covers diagnostic.enableOption := by
  unfold enableOption
  infer_instance

instance : G.Covers diagnostic.childCount := by
  unfold childCount
  infer_instance

end Diagnostic

namespace DiagnosticRow

instance (fixIt : FixIt) : G.Covers (ofFixIt fixIt) := by
  unfold ofFixIt
  infer_instance

instance (nested : Bool) (diagnostic : Diagnostic) :
    G.Covers (ofDiagnostic nested diagnostic) := by
  simp only [ofDiagnostic]
  infer_instance

instance (diagnostic : Diagnostic) : G.Covers (ofTree diagnostic) := by
  unfold ofTree
  infer_instance

instance (diagnostic : Diagnostic) : G.Covers (ofTreeCounted diagnostic) := by
  unfold ofTreeCounted
  infer_instance

instance (diagnostic : Option Diagnostic) :
    G.Covers (diagnostic.elim (pure (false, [])) ofTreeCounted) := by
  cases diagnostic <;> simp only [Option.elim] <;> infer_instance

end DiagnosticRow

instance (unit : SourceUnit) : G.Covers unit.diagnostics := by
  unfold SourceUnit.diagnostics
  infer_instance

/-! ## Included files -/

instance (inclusion : Inclusion) : G.Covers (InclusionRow.ofInclusion inclusion) := by
  unfold InclusionRow.ofInclusion
  infer_instance

/-! ## Completion candidates -/

namespace CandidateRow

instance (chunks : List Chunk) : G.Covers (typedText chunks) := by
  induction chunks with
  | nil => exact inferInstanceAs (G.Covers (pure ""))
  | cons chunk chunks ih =>
      unfold typedText
      infer_instance

instance (candidate : Candidate) : G.Covers (ofCandidate candidate) := by
  unfold ofCandidate CompletionString.chunks CompletionString.priority CompletionString.text
    CompletionString.briefComment
  infer_instance

end CandidateRow

/-- To print the candidates that were found is covered by any guarantee that reports are. -/
theorem CandidateRow.covers_listing (G : Guarantee setting) [G.Reporting] (limit : Option UInt64)
    (json : Bool) (results : Option Completion) : G.Covers (match results with
      | none => pure ""
      | some results => do
        let rows ← Act.usingEach (← results.toList) ofCandidate
        return printRows (select limit rows) json) := by
  unfold Completion.toList
  split <;> infer_instance

/-! ## Compile commands -/

instance (command : CompileCommand) : G.Covers (CommandRow.ofCommand command) := by
  unfold CommandRow.ofCommand CompileCommand.directory CompileCommand.filename
    CompileCommand.arguments
  infer_instance

/-! ## Whole reports -/

section Loading

variable [G.Requesting] [G.Loading] (host : Host)
variable (source : CommandLine.SourceArgs)

instance (scope : AstScope) : G.Covers (astReport host source scope) := by
  unfold astReport
  infer_instance

instance : G.Covers (tokenReport host source) := by
  unfold tokenReport
  infer_instance

instance : G.Covers (diagnosticReport host source) := by
  unfold diagnosticReport
  infer_instance

instance : G.Covers (inclusionReport host source) := by
  unfold inclusionReport
  infer_instance

instance (args : CommandLine.CompleteArgs) : G.Covers (completionReport host source args) := by
  have := CandidateRow.covers_listing G args.limit source.json
  unfold completionReport
  infer_instance

instance (directory : Bytes) (file : Option Bytes) (json : Bool) :
    G.Covers (commandReport directory file json) := by
  have (list : Option CommandList) : G.Covers (match list with
      | none => pure []
      | some list => do Act.usingEach (← list.toList) CommandRow.ofCommand) := by
    unfold CommandList.toList
    split <;> infer_instance
  unfold commandReport Database.allCommands
  cases file <;> infer_instance

instance : G.Covers versionReport := by
  unfold versionReport
  infer_instance

instance (command : CommandLine.Command) : G.Covers (report host command) := by
  cases command <;> simp only [report] <;> infer_instance

end Loading

end Reporting

end SourceAtlas
