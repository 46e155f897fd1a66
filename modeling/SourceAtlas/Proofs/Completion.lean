import SourceAtlas.Proofs.Messages

/-!
# Code completion in lockstep

Two runs get alike answers about alike completion results, candidates, strings and chunks, whether
or not a chunk remembers what was asked about it. The diagnostics of completion results keep them.
-/

namespace SourceAtlas

open Duo

variable {D : Duo} {H F : Grip}

namespace CompletionString

variable {string string' : CompletionString}

theorem pair_results (pair : D.Pair H string string') : D.Pair H string.results string'.results :=
  ⟨⟨trivial, pair.left.within⟩, ⟨trivial, pair.right.within⟩, pair.alike.2⟩

theorem rawPair (pair : D.Pair H string string') : D.RawPair H string.raw string'.raw :=
  ⟨lends_origin pair.left, lends_origin pair.right, pair.alike.1⟩

theorem same_ask {β : Type} (pair : D.Pair H string string') (question : Question)
    (answer : StringEntry → β) :
    D.Same H F (string.ask question answer) (string'.ask question answer) :=
  (rawPair pair).same_ask _ _

theorem same_length (pair : D.Pair H string string') : D.Same H F string.length string'.length :=
  same_ask pair _ _

/-- A chunk that was not asked about anything yet. -/
theorem gives_newChunk (pair : D.Pair H string string') (i : Nat) :
    D.Gives H F (Act.keep ({ string, position := i } : Chunk))
      (Act.keep ({ string := string', position := i } : Chunk)) := by
  have forgets (chunk : CompletionString) : Chunk.Remembers D.engine ⟨chunk, i, none, none⟩ :=
    ⟨fun _ absent => (nomatch absent), fun _ absent => (nomatch absent)⟩
  refine gives_keep ⟨⟨⟨pair.left.coherent, forgets _⟩, pair.left.within⟩,
    ⟨⟨pair.right.coherent, forgets _⟩, pair.right.within⟩, pair.alike, rfl⟩

theorem gives_chunk? (pair : D.Pair H string string') (i : Nat) :
    D.Gives H F (string.chunk? i) (string'.chunk? i) := by
  refine (same_length pair).bind fun _ => ?_
  split
  · exact gives_some (gives_newChunk pair i)
  · exact gives_none

theorem gives_chunks (pair : D.Pair H string string') :
    D.Gives H F string.chunks string'.chunks := by
  refine (same_length pair).bind fun _ => ?_
  exact gives_mapM (List.forall₂_same.2 fun i _ K le => gives_newChunk (pair.mono le) i)

theorem same_priority (pair : D.Pair H string string') :
    D.Same H F string.priority string'.priority :=
  same_ask pair _ _

theorem same_availability (pair : D.Pair H string string') :
    D.Same H F string.availability string'.availability :=
  (same_ask pair _ _).map _

theorem same_briefComment (pair : D.Pair H string string') :
    D.Same H F string.briefComment string'.briefComment :=
  (same_ask pair _ _).bind fun _ => same_text _

theorem same_chunkText (pair : D.Pair H string string') (i : Nat) :
    D.Same H F (string.chunkText i) (string'.chunkText i) :=
  ((rawPair pair).same_ask _ _).bind fun _ => same_text _

theorem same_concatenation (pair : D.Pair H string string') :
    D.Same H F string.text string'.text := by
  refine (same_length pair).bind fun _ => ?_
  exact (same_mapM (List.forall₂_same.2 fun i _ => same_chunkText pair i)).map _

theorem same_inspect (pair : D.Pair H string string') :
    D.Same H F string.inspect string'.inspect :=
  (same_concatenation pair).bind fun _ => (same_priority pair).bind fun _ =>
    (same_availability pair).map _

end CompletionString

namespace Chunk

variable {chunk chunk' : Chunk}

theorem pair_string (pair : D.Pair H chunk chunk') : D.Pair H chunk.string chunk'.string :=
  ⟨usable_string pair.left, usable_string pair.right, pair.alike.1⟩

/-- What the engine says of a chunk. -/
def entry (engine : Engine) (chunk : Chunk) : ChunkEntry :=
  engine.chunk chunk.string.raw.value chunk.position

theorem entry_eq (pair : D.Pair H chunk chunk') :
    chunk.entry D.engine = chunk'.entry D.engine := by
  rw [entry, entry, pair.alike.1.1.1, pair.alike.2]

theorem runs_askSpelling (pair : D.Pair H chunk chunk') :
    D.Runs H F chunk.askSpelling chunk'.askSpelling
      (fun a b => a = (chunk.entry D.engine).text.decoded ∧
        b = (chunk.entry D.engine).text.decoded) fun _ _ => H := by
  refine (Runs.of_quiet (tells_askSpelling pair.left) (tells_askSpelling pair.right)
    fun _ _ is is' => ⟨is, ?_⟩).mono fun _ _ related => ⟨related, by simp⟩
  rw [entry_eq pair]
  exact is'

theorem runs_askKind (pair : D.Pair H chunk chunk') :
    D.Runs H F chunk.askKind chunk'.askKind
      (fun a b => a = .ofRaw (chunk.entry D.engine).kind ∧
        b = .ofRaw (chunk.entry D.engine).kind) fun _ _ => H := by
  refine (Runs.of_quiet (tells_askKind pair.left) (tells_askKind pair.right)
    fun _ _ is is' => ⟨is, ?_⟩).mono fun _ _ related => ⟨related, by simp⟩
  rw [entry_eq pair]
  exact is'

theorem gives_nested (pair : D.Pair H chunk chunk') :
    D.Gives H F chunk.nested chunk'.nested := by
  have string := pair_string pair
  unfold nested
  rw [pair.alike.2]
  refine ((CompletionString.rawPair string).runs_derive _ _).bind ?_
  rintro _ _ ⟨raw, rfl, rfl⟩
  split
  · refine gives_some (gives_keep ⟨⟨?_, ?_⟩, ⟨?_, ?_⟩, raw.alike, string.alike.2⟩)
    · exact string.left.coherent
    · exact string.left.within
    · exact string.right.coherent
    · exact string.right.within
  · exact gives_none

end Chunk

namespace Candidate

variable {candidate candidate' : Candidate}

theorem pair_label (pair : D.Pair H candidate candidate') :
    D.Pair H candidate.label candidate'.label :=
  ⟨⟨pair.left.coherent, pair.left.within⟩, ⟨pair.right.coherent, pair.right.within⟩,
    pair.alike.2.1, pair.alike.2.2⟩

theorem same_inspect (pair : D.Pair H candidate candidate') :
    D.Same H F candidate.inspect candidate'.inspect := by
  refine (CompletionString.same_inspect (pair_label pair)).bind fun _ => ?_
  rw [pair.alike.1]
  exact Same.pure _

end Candidate

namespace Completion

variable {results results' : Completion}

theorem usable_unit {engine : Engine} {held : Held} (usable : Usable engine held results) :
    Usable engine held results.unit where
  coherent := trivial
  within o member := by
    obtain rfl := List.mem_singleton.1 member
    exact .lender (usable.within _ (.head _)) (.head _)

theorem pair_unit (pair : D.Pair H results results') : D.Pair H results.unit results'.unit :=
  ⟨usable_unit pair.left, usable_unit pair.right, pair.alike.2.1⟩

theorem lends (pair : D.Pair H results results') : H.Lends results.resource results'.resource :=
  ⟨⟨_, pair.left.within _ (.head _), rfl⟩, _, pair.right.within _ (.head _), rfl⟩

theorem pair_anchor (pair : D.Pair H results results') :
    D.Pair H (some results) (some results') :=
  ⟨⟨fun _ _ => trivial, pair.left.within⟩, ⟨fun _ _ => trivial, pair.right.within⟩,
    .some pair.alike⟩

theorem length_eq (pair : D.Pair H results results') : results.length = results'.length := by
  rw [length, length, pair.alike.2.2]

theorem pair_candidate? (pair : D.Pair H results results') (i : Nat) :
    D.Pair H (results.candidate? i) (results'.candidate? i) := by
  unfold candidate?
  rw [pair.alike.2.2]
  cases results'.entry.results[i]? with
  | none => exact pair_absent
  | some entry =>
      refine ⟨⟨?_, pair.left.within⟩, ⟨?_, pair.right.within⟩,
        .some ⟨rfl, ⟨rfl, pair.alike.1⟩, pair.alike⟩⟩
      · rintro _ ⟨⟩
        rfl
      · rintro _ ⟨⟩
        rfl

theorem gives_get? (pair : D.Pair H results results') (i : Nat) :
    D.Gives H F (results.get? i) (results'.get? i) :=
  gives_keep (pair_candidate? pair i)

theorem gives_toList (pair : D.Pair H results results') :
    D.Gives H F results.toList results'.toList := by
  unfold toList
  rw [length_eq pair]
  exact gives_keep (pair_filterMap fun i _ => pair_candidate? pair i)

/-- A diagnostic that came up during completion keeps the results. -/
theorem founds_diagnostic {engine : Engine} {held : Held} (usable : Usable engine held results)
    (entry : Nat) :
    Founds engine held .diagnostic [results.resource]
      (.diagnostic none (some results) results.unit)
      fun c r => .diagnostic ⟨⟨c, r, entry⟩, [], some results, results.unit⟩ :=
  Diagnostic.founds (usable_unit usable) ⟨fun _ _ => trivial, usable.within⟩ [] entry
    (by nofun) fun _ _ => List.forall_mem_singleton.2 rfl

theorem gives_diagnostics (pair : D.Pair H results results') :
    D.Gives H F results.diagnostics results'.diagnostics := by
  unfold diagnostics
  rw [pair.alike.2.2]
  refine (same_ask_one (lends pair) _).bind fun _ => ?_
  refine (gives_mapM (List.forall₂_same.2 fun i _ K le base => ?_)).filterMap
  have pair := pair.mono le
  have lends {held : Held} {results : Completion} (usable : Usable D.engine held results) :
      ∀ s ∈ [results.resource], LendsTo held (some .completion) s :=
    List.forall_mem_singleton.2 ⟨_, usable.within _ (.head _), rfl, rfl⟩
  refine (lockstep_ask (lends pair.left) (lends pair.right) (fun _ _ => ⟨rfl, rfl⟩) (by nofun)
    (by nofun) (unmixed_singleton _) (unmixed_singleton _)).bind fun _ _ => ?_
  have belongs {results : Completion} : ∀ c ∈ some results, c.unit = results.unit := by
    rintro _ ⟨⟩
    rfl
  exact Diagnostic.lockstep_ofRaw? (pair_unit pair) (pair_anchor pair) belongs belongs .nil
    (founds_diagnostic pair.left) (founds_diagnostic pair.right) _

end Completion

end SourceAtlas
