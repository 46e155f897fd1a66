import SourceAtlas.Proofs.Turns

/-!
# Renaming

Whether two objects are alike depends on how the resources are renamed that are within reach of the
first one, and on nothing else. So objects that are alike stay alike if the numbers of later
resources are shifted.
-/

namespace SourceAtlas

open Duo

variable {D : Duo} {H : Grip} {ρ : Resource → Resource}

/-- Whether a renaming is that of two runs, as far as the first of them can reach. -/
def Duo.Renames (D : Duo) (H : Grip) (ρ : Resource → Resource) : Prop :=
  ∀ r, SourceAtlas.Lends H.1 r → ρ r = D.shift.rename r

section

variable (renames : D.Renames H ρ)
include renames

/-! ## What owns a resource -/

theorem Index.renamed {a b : Index} (pair : D.Pair H a b) : Alike ρ a b :=
  ⟨(renames _ (lends pair).1).trans pair.alike.1, pair.alike.2⟩

theorem SourceUnit.renamed {a b : SourceUnit} (pair : D.Pair H a b) : Alike ρ a b :=
  ⟨(renames _ pair.lends.1).trans pair.alike.1, Index.renamed renames (pair_index pair)⟩

theorem Completion.renamed {a b : Completion} (pair : D.Pair H a b) : Alike ρ a b :=
  ⟨(renames _ (lends pair).1).trans pair.alike.1, SourceUnit.renamed renames (pair_unit pair),
    pair.alike.2.2⟩

theorem TokenBatch.renamed {a b : TokenBatch} (pair : D.Pair H a b) : Alike ρ a b := by
  have token : D.Pair H (⟨a, 0⟩ : Token) ⟨b, 0⟩ :=
    ⟨⟨pair.left.coherent, pair.left.within⟩, ⟨pair.right.coherent, pair.right.within⟩,
      pair.alike, rfl⟩
  exact ⟨(renames _ (Token.lends_batch token).1).trans pair.alike.1,
    SourceUnit.renamed renames (Token.pair_unit token), pair.alike.2.2⟩

theorem Database.renamed {a b : Database} (pair : D.Pair H a b) : Alike ρ a b :=
  ⟨(renames _ ⟨_, within pair.left, rfl⟩).trans pair.alike.1, pair.alike.2⟩

theorem CommandList.renamed {a b : CommandList} (pair : D.Pair H a b) : Alike ρ a b := by
  refine ⟨(renames _ (lends pair).1).trans pair.alike.1, ⟨?_, pair.alike.2.1.2⟩, pair.alike.2.2⟩
  have within : Within H.1 (.database a.database) :=
    .lender (pair.left.within _ (.head _)) (.head _)
  exact (renames _ ⟨_, within, rfl⟩).trans pair.alike.2.1.1

/-- A diagnostic is alike together with those that it is a note of. -/
theorem Diagnostic.renamed {a b : Diagnostic} (pair : D.Pair H a b) : Alike ρ a b := by
  have handle {handle handle' : DiagnosticHandle} {ancestors : List DiagnosticHandle}
      (within : Within H.1 (.diagnostic ⟨handle, ancestors, a.anchor, a.unit⟩))
      (alike : Alike D.shift.rename handle handle') : Alike ρ handle handle' :=
    ⟨(renames _ ⟨_, within, rfl⟩).trans alike.1, alike.2⟩
  have above {handles handles' : List DiagnosticHandle}
      (alike : Alike D.shift.rename handles handles') {first : DiagnosticHandle}
      (within : Within H.1 (.diagnostic ⟨first, handles, a.anchor, a.unit⟩)) :
      Alike ρ handles handles' := by
    induction alike generalizing first with
    | nil => exact .nil
    | @cons next next' rest rest' alike _ ih =>
        have parent : Within H.1 (.diagnostic ⟨next, rest, a.anchor, a.unit⟩) :=
          .lender within (List.mem_append_left _ (List.mem_append_left _ (.head _)))
        exact .cons (handle parent alike) (ih parent)
  have within := pair.left.within _ (.head _)
  exact ⟨handle within pair.alike.1, above pair.alike.2.1 within,
    (pair_anchor pair).option (Completion.renamed renames),
    SourceUnit.renamed renames (pair_unit pair)⟩

/-! ## What belongs to a resource -/

theorem Duo.RawPair.renamed {α : Type} {a b : Raw α} (pair : D.RawPair H a b) : Alike ρ a b :=
  ⟨pair.alike.1, (renames _ pair.left).trans pair.alike.2⟩

theorem SourceFile.renamed {a b : SourceFile} (pair : D.Pair H a b) : Alike ρ a b :=
  ⟨(rawPair pair).renamed renames, SourceUnit.renamed renames (pair_unit pair)⟩

theorem SourceLocation.renamed {a b : SourceLocation} (pair : D.Pair H a b) : Alike ρ a b :=
  ⟨(rawPair pair).renamed renames, SourceUnit.renamed renames (pair_unit pair),
    (pair_anchor pair).option (Completion.renamed renames)⟩

theorem SourceRange.renamed {a b : SourceRange} (pair : D.Pair H a b) : Alike ρ a b :=
  ⟨(rawPair pair).renamed renames, SourceUnit.renamed renames (pair_unit pair),
    (pair_anchor pair).option (Completion.renamed renames)⟩

theorem Inclusion.renamed {a b : Inclusion} (pair : D.Pair H a b) : Alike ρ a b :=
  ⟨(pair_source pair).option (SourceFile.renamed renames),
    SourceFile.renamed renames (pair_included pair),
    SourceLocation.renamed renames (pair_location pair), pair.alike.2.2.2⟩

theorem SourceType.renamed {a b : SourceType} (pair : D.Pair H a b) : Alike ρ a b :=
  ⟨(rawPair pair).renamed renames, SourceUnit.renamed renames (pair_unit pair)⟩

theorem Cursor.renamed {a b : Cursor} (pair : D.Pair H a b) : Alike ρ a b := by
  refine ⟨(rawPair pair).renamed renames, SourceUnit.renamed renames (pair_unit pair), ?_⟩
  have parents := pair.alike.2.2
  have origin := pair.left.coherent.2
  generalize a.parent = p, b.parent = q at parents origin
  cases parents with
  | none => exact .none
  | @some p q alike =>
      refine .some ⟨alike.1, (renames _ ?_).trans alike.2⟩
      rw [origin p rfl]
      exact (pair_unit pair).lends.1

theorem CompletionString.renamed {a b : CompletionString} (pair : D.Pair H a b) : Alike ρ a b :=
  ⟨(rawPair pair).renamed renames, Completion.renamed renames (pair_results pair)⟩

/-! ## Objects -/

theorem Object.renamed {o o' : Object} (pair : D.Pair H o o') : Alike ρ o o' := by
  have like := pair.alike
  cases o <;> cases o' <;> try exact like.elim
  case index.index => exact Index.renamed renames (pair.unwrapped (W := .index))
  case unit.unit => exact SourceUnit.renamed renames (pair.unwrapped (W := .unit))
  case cursor.cursor => exact Cursor.renamed renames (pair.unwrapped (W := .cursor))
  case type.type => exact SourceType.renamed renames (pair.unwrapped (W := .type))
  case argumentTypes.argumentTypes =>
    have pair := pair.unwrapped (W := .argumentTypes)
    exact ⟨SourceType.renamed renames (ArgumentTypes.pair_type pair), like.2⟩
  case file.file => exact SourceFile.renamed renames (pair.unwrapped (W := .file))
  case location.location => exact SourceLocation.renamed renames (pair.unwrapped (W := .location))
  case range.range => exact SourceRange.renamed renames (pair.unwrapped (W := .range))
  case inclusion.inclusion => exact Inclusion.renamed renames (pair.unwrapped (W := .inclusion))
  case tokens.tokens =>
    have pair := pair.unwrapped (W := .tokens)
    have batch := Pair.option (R := Alike ρ) ⟨⟨fun _ _ => trivial, pair.left.within⟩,
      ⟨fun _ _ => trivial, pair.right.within⟩, pair.alike.1⟩ (TokenBatch.renamed renames)
    exact ⟨batch, like.2⟩
  case token.token =>
    have pair := pair.unwrapped (W := .token)
    exact ⟨TokenBatch.renamed renames
      ⟨⟨trivial, pair.left.within⟩, ⟨trivial, pair.right.within⟩, pair.alike.1⟩, like.2⟩
  case walk.walk =>
    have pair := pair.unwrapped (W := .walk)
    have pending := Pair.list (R := Alike ρ) ⟨⟨pair.left.coherent, pair.left.within⟩,
      ⟨pair.right.coherent, pair.right.within⟩, pair.alike⟩ (Cursor.renamed renames)
    exact pending
  case diagnostics.diagnostics =>
    exact SourceUnit.renamed renames
      (DiagnosticList.pair_unit (pair.unwrapped (W := .diagnostics)))
  case diagnostic.diagnostic =>
    exact Diagnostic.renamed renames (pair.unwrapped (W := .diagnostic))
  case fixIt.fixIt =>
    exact ⟨SourceRange.renamed renames (FixIt.pair_range (pair.unwrapped (W := .fixIt))), like.2⟩
  case completion.completion =>
    exact Completion.renamed renames (pair.unwrapped (W := .completion))
  case candidate.candidate =>
    have label := Candidate.pair_label (pair.unwrapped (W := .candidate))
    exact ⟨like.1, CompletionString.renamed renames label⟩
  case string.string => exact CompletionString.renamed renames (pair.unwrapped (W := .string))
  case chunk.chunk =>
    have string := Chunk.pair_string (pair.unwrapped (W := .chunk))
    exact ⟨CompletionString.renamed renames string, like.2⟩
  case database.database => exact Database.renamed renames (pair.unwrapped (W := .database))
  case commands.commands => exact CommandList.renamed renames (pair.unwrapped (W := .commands))
  case command.command =>
    have pair := pair.unwrapped (W := .command)
    exact ⟨(CompileCommand.rawPair pair).renamed renames,
      CommandList.renamed renames (CompileCommand.pair_list pair)⟩

end

end SourceAtlas
