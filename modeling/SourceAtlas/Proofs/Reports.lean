import SourceAtlas.Program
import SourceAtlas.Proofs.Sessions

/-!
# Reports in lockstep

Two runs of the program that read the same files and the same command line print the same. What a
report takes from the engine it gives up when it ends, also when it ends with a fault, so a run side
by side with itself tells that nothing is left.
-/

namespace SourceAtlas

open Duo
open CommandLine (SourceArgs CompleteArgs)

variable {D : Duo} {H F : Grip} {α β : Type}

/-! ## What is used for a while -/

namespace Duo

/-- Two actions that return the same value, and give up some of what is held. -/
abbrev Spends (D : Duo) (H G F : Grip) (x y : Act α) : Prop :=
  D.Runs H F x y (· = ·) fun _ _ => G

theorem Spends.bind {G : Grip} {x y : Act α} {f g : α → Act β} {S : β → β → Prop}
    {L : β → β → Grip} (first : D.Spends H G F x y) (next : ∀ a, D.Runs G F (f a) (g a) S L) :
    D.Runs H F (x >>= f) (y >>= g) S L :=
  Runs.bind first fun a _ same => same ▸ next a

section Using

variable [Holder α] [Likeness α] [Entity α]

/-- What an action is given is given up after it, in whatever way the action ends. -/
theorem Runs.using {a b : α} {f g : α → Act β} {R : β → β → Prop} {K : β → β → Grip}
    (runs : D.Runs (H.add a b) (F.add a b) (f a) (g b) R fun p q => (K p q).add a b) :
    D.Runs (H.add a b) F (Act.using a f) (Act.using b g) R K := by
  unfold Act.using
  refine Runs.attempt_bind runs (fun p q related => ?_) fun fault => ?_
  · exact (same_drop a b).bind fun _ _ _ => Runs.pure related rfl
  · exact (same_drop a b).bind fun _ _ _ _ w w' holds => .inr ⟨fault, w, w', rfl, rfl, holds⟩

/-- Two actions that return the same value after what they are given has been used. -/
theorem spends_using {a b : α} {f g : α → Act β}
    (same : D.Same (H.add a b) (F.add a b) (f a) (g b)) :
    D.Spends (H.add a b) H F (Act.using a f) (Act.using b g) :=
  Runs.using (K := fun _ _ => H) same

/-- The members of lists that can be used can be used. -/
theorem Pair.members {as bs : List α} (pair : D.Pair H as bs) : List.Forall₂ (D.Pair H) as bs := by
  obtain ⟨⟨left, within⟩, ⟨right, within'⟩, alike⟩ := pair
  induction alike with
  | nil => exact .nil
  | cons first rest ih =>
      refine .cons ⟨⟨left _ (.head _), fun o member => ?_⟩, ⟨right _ (.head _), fun o member => ?_⟩,
        first⟩ (ih (fun a member => left a (.tail _ member)) (fun o member => ?_)
          (fun b member => right b (.tail _ member)) fun o member => ?_)
      · exact within o (List.mem_append_left _ member)
      · exact within' o (List.mem_append_left _ member)
      · exact within o (List.mem_append_right _ member)
      · exact within' o (List.mem_append_right _ member)

theorem spends_usingEach {as bs : List α} {f g : α → Act β} (same : D.Match as bs)
    (each : ∀ a b, D.Pair (H.add as bs) a b → D.Same (H.add as bs) (H.add as bs) (f a) (g b)) :
    D.Spends (H.add as bs) H H (Act.usingEach as f) (Act.usingEach bs g) :=
  spends_using (same_mapM ((same.pair H).members.imp fun a b => each a b))

end Using

/-- A question about nothing in particular, while something is held. -/
theorem same_inquire_held (left : H.1 ≠ 0) (right : H.2 ≠ 0) (question : Question) :
    D.Same H F (Act.ask question []) (Act.ask question []) :=
  same_ask left right question (fun _ absent => absurd absent List.not_mem_nil)
    (fun _ absent => absurd absent List.not_mem_nil)
    (fun _ _ absent => absurd absent List.not_mem_nil)
    (fun _ _ absent => absurd absent List.not_mem_nil) none none

end Duo

/-! ## Parts of reports -/

/-- The engine's name for the kind of a cursor, while something is held. -/
theorem CursorKind.same_spelling (left : H.1 ≠ 0) (right : H.2 ≠ 0) (kind : CursorKind) :
    D.Same H F kind.spelling kind.spelling :=
  (same_inquire_held left right _).bind fun _ => same_engine.bind fun _ => same_text _

theorem Expansion.same_report {expansion expansion' : Expansion}
    (pair : D.Pair H expansion expansion') : D.Same H F expansion.report expansion'.report := by
  have file := pair_file pair
  unfold report
  rw [pair.alike.2.1, pair.alike.2.2.1]
  generalize expansion.file = found, expansion'.file = found' at file ⊢
  cases file.option SourceFile.same_name with
  | none => exact Same.pure _
  | some name => exact name.map _

theorem SourceLocation.same_report {location location' : SourceLocation}
    (pair : D.Pair H location location') : D.Same H F location.report location'.report :=
  (shares_expand pair).bind fun _ _ pair => Expansion.same_report pair

/-- The unit alone is left of what was taken to load it. -/
theorem gives_loadUnit (host : Host) (source : SourceArgs) (extra : ParseOptions) :
    D.Gives H H (loadUnit host source extra) (loadUnit host source extra) := by
  refine (same_ofExcept _).bind fun config => (Index.gives_create {}).bind fun a b same => ?_
  refine Runs.using ((Index.gives_parse (same.pair H) _ _ _ _).mono fun u u' unit => ⟨unit, ?_⟩)
  exact Grip.add_right_comm H a b u u'

/-- A record is kept in both runs or in neither. -/
theorem same_record (host : Host) {text text' : Act String} (same : D.Same H F text text') :
    D.Same H F (Act.record host text) (Act.record host text') := by
  unfold Act.record
  split
  · exact same.bind fun _ => Same.pure _
  · exact Same.pure _

/-! ## The syntax tree -/

namespace AstScope

theorem same_shows (scope : AstScope) {k k' : Cursor} (pair : D.Pair H k k') :
    D.Same H F (scope.shows k) (scope.shows k') := by
  unfold shows
  split
  · exact Same.pure _
  · exact (Cursor.shares_location pair).bind fun _ _ location =>
      SourceLocation.same_isFromMainFile location

theorem same_describe {k k' : Cursor} (pair : D.Pair H k k') (children : List AstNode) :
    D.Same H F (node.describe k children) (node.describe k' children) := by
  unfold node.describe
  have raw := Cursor.rawPair pair
  refine (Cursor.same_kind pair).bind fun kind => ?_
  refine (CursorKind.same_spelling raw.left.ne_zero raw.right.ne_zero kind).bind fun _ => ?_
  refine (Cursor.same_spelling pair).bind fun _ => ?_
  exact (Cursor.shares_expansion pair).bind fun _ _ expansion =>
    (Expansion.same_report expansion).map _

theorem same_node (scope : AstScope) (levels : Nat) {H : Grip} {k k' : Cursor}
    (pair : D.Pair H k k') : D.Same H H (scope.node levels k) (scope.node levels k') := by
  induction levels generalizing H k k' with
  | zero => exact same_describe pair []
  | succ levels ih =>
      unfold node
      refine (Cursor.gives_children pair).bind fun as bs children => ?_
      refine (spends_usingEach children fun a b child => ?_).bind fun _ => same_describe pair _
      refine (same_shows scope child).bind fun shown => ?_
      split
      · exact (ih child).map _
      · exact Same.pure _

end AstScope

theorem same_astReport (host : Host) (source : SourceArgs) (scope : AstScope) :
    D.Same H H (astReport host source scope) (astReport host source scope) := by
  refine (gives_loadUnit host source _).bind fun u u' unit => spends_using ?_
  refine same_engine.bind fun engine => ?_
  refine (Cursor.gives_root (unit.pair H)).bind fun k k' root => ?_
  refine (spends_using (AstScope.same_node scope _ (root.pair _))).bind fun tree => ?_
  exact Same.pure _

/-! ## Tokens -/

namespace TokenRow

theorem same_ofToken {token token' : Token} (pair : D.Pair H token token') :
    D.Same H F (ofToken token) (ofToken token') := by
  refine (Token.same_kind pair).bind fun kind => (Token.same_spelling pair).bind fun _ => ?_
  refine (Token.gives_location pair).bind fun l l' location => ?_
  refine (spends_using (SourceLocation.same_report (location.pair H))).bind fun _ => ?_
  refine (Token.gives_cursor pair).bind fun k k' cursor => ?_
  refine (spends_using ?_).bind fun _ => Same.pure _
  cases (cursor.pair H).option fun pair => pair with
  | none => exact Same.pure _
  | some pair =>
      have raw := Cursor.rawPair pair
      exact (Cursor.same_kind pair).bind fun kind =>
        CursorKind.same_spelling raw.left.ne_zero raw.right.ne_zero kind

/-- At the end of its tokens a stream holds nothing, and it has as many turns as that takes. -/
theorem spends_ofStream {turns : Nat} {stream stream' : TokenStream}
    (enough : stream.remaining < turns) (same : D.Match stream stream') :
    D.Spends (H.add stream stream') H H (ofStream turns stream) (ofStream turns stream') := by
  induction turns generalizing stream stream' with
  | zero => exact absurd enough (Nat.not_lt_zero _)
  | succ turns ih =>
      unfold ofStream
      refine (TokenStream.runs_advance_passes same).bind ?_
      rintro ⟨stream, token⟩ ⟨stream', token'⟩ ⟨⟨same, found, found', alike⟩, passes, passes'⟩
      cases alike with
      | none =>
          refine Runs.pure rfl ?_
          rw [Grip.add_eq _ rfl rfl]
          exact (Grip.add_eq _ passes passes').symm
      | @some token token' alike =>
          have taken : D.Match token token' := ⟨found _ rfl, found' _ rfl, alike⟩
          have row : D.Spends ((H.add stream stream').add token token') (H.add stream stream') H
              (Act.using token ofToken) (Act.using token' ofToken) :=
            spends_using (same_ofToken (taken.pair _))
          refine row.bind fun row => ?_
          have fewer : stream.remaining < turns := Nat.lt_of_lt_of_le passes (Nat.le_of_lt_succ enough)
          exact Spends.bind (ih fewer same) fun _ => Same.pure _

end TokenRow

theorem same_tokenReport (host : Host) (source : SourceArgs) :
    D.Same H H (tokenReport host source) (tokenReport host source) := by
  refine (gives_loadUnit host source {}).bind fun u u' unit => spends_using ?_
  refine (Cursor.gives_root (unit.pair H)).bind fun k k' root => ?_
  refine (spends_using ?_).bind fun rows =>
    (same_record host ((unit.pair H).same_spelling.map _)).bind fun _ => Same.pure _
  refine (Cursor.gives_tokens (root.pair _)).bind fun stream stream' same => ?_
  rw [TokenStream.remaining_eq same.alike]
  exact TokenRow.spends_ofStream
    (by rw [TokenStream.remaining_eq same.alike]; exact Nat.lt_succ_self _) same

/-! ## Diagnostics -/

namespace DiagnosticRow

theorem same_ofFixIt {fixIt fixIt' : FixIt} (pair : D.Pair H fixIt fixIt') :
    D.Same H H (ofFixIt fixIt) (ofFixIt fixIt') := by
  refine (SourceRange.shares_startPlace (FixIt.pair_range pair)).bind fun _ _ place => ?_
  rw [pair.alike.2]
  exact (SourceLocation.same_report place).map _

theorem same_ofDiagnostic (nested : Bool) {d d' : Diagnostic} (pair : D.Pair H d d') :
    D.Same H H (ofDiagnostic nested d) (ofDiagnostic nested d') := by
  refine (Diagnostic.same_severity pair).bind fun severity => ?_
  refine (Diagnostic.shares_place pair).bind fun _ _ place => ?_
  refine (SourceLocation.same_report place).bind fun _ => ?_
  refine (Diagnostic.same_spelling pair).bind fun _ => ?_
  refine (Diagnostic.same_enableOption pair).bind fun _ => ?_
  refine (Diagnostic.gives_fixIts pair).bind fun _ _ fixIts => ?_
  exact (spends_usingEach fixIts fun _ _ => same_ofFixIt).bind fun _ => Same.pure _

theorem same_ofTree {d d' : Diagnostic} (pair : D.Pair H d d') :
    D.Same H H (ofTree d) (ofTree d') := by
  refine (same_ofDiagnostic false pair).bind fun _ => ?_
  refine (Diagnostic.same_childCount pair).bind fun _ => ?_
  refine (same_mapM (List.forall₂_same.2 fun i _ => ?_)).bind fun _ => Same.pure _
  refine (Diagnostic.gives_child? pair i).bind fun _ _ child => spends_using ?_
  exact same_optionMapM ((child.pair H).option (same_ofDiagnostic true))

theorem same_ofTreeCounted {d d' : Diagnostic} (pair : D.Pair H d d') :
    D.Same H H (ofTreeCounted d) (ofTreeCounted d') :=
  (Diagnostic.same_severity pair).bind fun _ => (same_ofTree pair).map _

end DiagnosticRow

theorem same_diagnosticReport (host : Host) (source : SourceArgs) :
    D.Same H H (diagnosticReport host source) (diagnosticReport host source) := by
  refine (gives_loadUnit host source {}).bind fun u u' unit => spends_using ?_
  refine (SourceUnit.gives_diagnostics (unit.pair H)).bind fun list list' same => ?_
  refine (spends_using ?_).bind fun found =>
    (same_record host ((unit.pair H).same_spelling.map _)).bind fun _ => Same.pure _
  refine (DiagnosticList.same_length (same.pair _)).bind fun _ => ?_
  refine same_mapM (List.forall₂_same.2 fun i _ => ?_)
  refine (DiagnosticList.gives_get? (same.pair _) i).bind fun d d' found => spends_using ?_
  have pair := found.pair ((H.add u u').add list list')
  cases pair.option DiagnosticRow.same_ofTreeCounted with
  | none => exact Same.pure _
  | some rows => exact rows

/-! ## Included files -/

theorem InclusionRow.same_ofInclusion {inclusion inclusion' : Inclusion}
    (pair : D.Pair H inclusion inclusion') :
    D.Same H H (ofInclusion inclusion) (ofInclusion inclusion') := by
  refine (SourceFile.same_name (Inclusion.pair_included pair)).bind fun _ => ?_
  refine (SourceLocation.same_report (Inclusion.pair_location pair)).bind fun _ => ?_
  rw [pair.alike.2.2.2]
  exact Same.pure _

theorem same_inclusionReport (host : Host) (source : SourceArgs) :
    D.Same H H (inclusionReport host source) (inclusionReport host source) := by
  refine (gives_loadUnit host source {}).bind fun u u' unit => spends_using ?_
  refine (SourceUnit.gives_inclusions (unit.pair H)).bind fun _ _ same => ?_
  exact (spends_usingEach same fun _ _ => InclusionRow.same_ofInclusion).bind fun _ => Same.pure _

/-! ## Completion candidates -/

namespace CandidateRow

theorem same_typedText {chunks chunks' : List Chunk}
    (pairs : List.Forall₂ (D.Pair H) chunks chunks') :
    D.Same H H (typedText chunks) (typedText chunks') := by
  induction pairs with
  | nil => exact Same.pure _
  | cons pair _ ih =>
      refine (Chunk.runs_askKind pair).bind ?_
      rintro _ _ ⟨rfl, rfl⟩
      split
      · exact (Chunk.runs_askSpelling pair).mono fun _ _ is => ⟨is.1.trans is.2.symm, rfl⟩
      · exact ih

theorem same_ofCandidate {candidate candidate' : Candidate}
    (pair : D.Pair H candidate candidate') :
    D.Same H H (ofCandidate candidate) (ofCandidate candidate') := by
  have label := Candidate.pair_label pair
  have raw := CompletionString.rawPair label
  unfold ofCandidate
  refine (CompletionString.gives_chunks label).bind fun _ _ chunks => ?_
  refine (spends_using (same_typedText (chunks.pair H).members)).bind fun _ => ?_
  refine (CompletionString.same_priority label).bind fun _ => ?_
  rw [pair.alike.1]
  refine (CursorKind.same_spelling raw.left.ne_zero raw.right.ne_zero _).bind fun _ => ?_
  refine (CompletionString.same_concatenation label).bind fun _ => ?_
  exact (CompletionString.same_briefComment label).map _

end CandidateRow

theorem same_completionReport (host : Host) (source : SourceArgs) (args : CompleteArgs) :
    D.Same H H (completionReport host source args) (completionReport host source args) := by
  refine (gives_loadUnit host source {}).bind fun u u' unit => spends_using ?_
  refine (same_ofExcept _).bind fun config => ?_
  refine (SourceUnit.gives_complete (unit.pair H) _ _ _ _ _).bind fun _ _ same => spends_using ?_
  have pair := same.pair (H.add u u')
  cases same.alike with
  | none => exact Same.pure _
  | @some results results' alike =>
      have pair : D.Pair _ results results' :=
        ⟨⟨pair.left.coherent _ rfl, pair.left.within⟩, ⟨pair.right.coherent _ rfl, pair.right.within⟩,
          alike⟩
      refine (Completion.gives_toList pair).bind fun _ _ candidates => ?_
      exact (spends_usingEach candidates fun _ _ => CandidateRow.same_ofCandidate).bind
        fun _ => Same.pure _

/-! ## Compile commands -/

theorem CommandRow.same_ofCommand {command command' : CompileCommand}
    (pair : D.Pair H command command') :
    D.Same H H (ofCommand command) (ofCommand command') := by
  refine (CompileCommand.same_directory pair).bind fun _ => ?_
  refine (CompileCommand.same_filename pair).bind fun _ => ?_
  exact (CompileCommand.same_arguments pair).map _

/-- The rows of a list of commands; none if there is no list. -/
theorem spends_commands {list list' : Option CommandList} (same : D.Match list list') :
    D.Spends (H.add list list') H H
      (Act.using list fun list => do
        match list with
        | none => return []
        | some list => Act.usingEach (← list.toList) CommandRow.ofCommand)
      (Act.using list' fun list => do
        match list with
        | none => return []
        | some list => Act.usingEach (← list.toList) CommandRow.ofCommand) := by
  refine spends_using ?_
  have pair := same.pair H
  cases same.alike with
  | none => exact Same.pure _
  | @some list list' alike =>
      have pair : D.Pair _ list list' :=
        ⟨⟨pair.left.coherent _ rfl, pair.left.within⟩, ⟨pair.right.coherent _ rfl, pair.right.within⟩,
          alike⟩
      refine (CommandList.gives_toList pair).bind fun _ _ commands => ?_
      exact spends_usingEach commands fun _ _ => CommandRow.same_ofCommand

theorem same_commandReport (directory : Bytes) (file : Option Bytes) (json : Bool) :
    D.Same H H (commandReport directory file json) (commandReport directory file json) := by
  refine (Database.gives_openIn directory).bind fun database database' opened => spends_using ?_
  have pair := opened.pair H
  cases file with
  | some file =>
      refine (Database.gives_commandsFor pair file).bind fun _ _ same => ?_
      exact (spends_commands same).bind fun _ => Same.pure _
  | none =>
      refine (Database.gives_allCommands pair).bind fun _ _ same => ?_
      exact (spends_commands same).bind fun _ => Same.pure _

/-! ## All of them -/

theorem same_versionReport : D.Same 0 0 versionReport versionReport := by
  refine same_load.bind fun _ => (same_inquire _).bind fun _ => same_engine.bind fun engine => ?_
  exact (same_text _).map _

theorem same_report (host : Host) (command : CommandLine.Command) :
    D.Same 0 0 (report host command) (report host command) := by
  cases command with
  | ast source depth all => exact same_astReport host source ⟨depth, all⟩
  | tokens source => exact same_tokenReport host source
  | diags source => exact same_diagnosticReport host source
  | includes source => exact same_inclusionReport host source
  | complete source args => exact same_completionReport host source args
  | commands directory file json => exact same_commandReport directory file json
  | version => exact same_versionReport

/-! ## The program -/

/-- When a report ends, in whatever way, nothing is left that it would have to give up. -/
theorem report_inv (setting : Setting) (host : Host) (command : CommandLine.Command) :
    ∃ facts τ, Inv setting.engine ⟨setting.remembers, {}, []⟩ facts τ 0
      ((report host command).exec setting {}).2 := by
  have start := Inv.start setting.engine setting.remembers
  rcases same_report (D := alone setting.engine ⟨setting.remembers, {}, []⟩) host command _ {} {}
      ⟨_, _, .refl _, .refl _, ⟨_, start⟩, _, start⟩ with
    ⟨_, _, v, _, ran, -, -, facts, -, -, -, ⟨τ, inv⟩, -⟩ |
      ⟨_, v, _, ran, -, facts, -, -, -, ⟨τ, inv⟩, -⟩ <;>
  · refine ⟨facts, τ, ?_⟩
    rw [show (report host command).exec setting {} = _ from ran]
    exact inv

/-- What passes to the engine and back in a run of the program is the trace of a store in which
nothing is left. -/
theorem runProgram_inv (setting : Setting) (host : Host) (words : List Bytes) :
    ∃ facts τ w, Inv setting.engine ⟨setting.remembers, {}, []⟩ facts τ 0 w ∧
      (runProgram setting host words).events.reverse = w.trace := by
  unfold runProgram
  cases CommandLine.parse words with
  | error problem => exact ⟨_, _, {}, Inv.start _ _, rfl⟩
  | ok invocation =>
      obtain ⟨facts, τ, inv⟩ := report_inv setting host invocation.command
      refine ⟨facts, τ, _, inv, ?_⟩
      dsimp only [Act.exec]
      rcases (report host invocation.command setting).run {} with
        ⟨(failure | panic) | output, world⟩ <;> exact List.reverse_reverse _

end SourceAtlas
