import SourceAtlas.Proofs.Types

/-!
# Tokens in lockstep

Two runs make corresponding batches of tokens, and get alike tokens out of alike streams. A stream
lets its batch go at its end in both runs or in neither.
-/

namespace SourceAtlas

open Duo

variable {D : Duo} {H F : Grip}

/-- A unit lends to what is taken from it. -/
theorem lendsTo_unit {held : Held} {engine : Engine} {u : SourceUnit}
    (usable : Usable engine held u) : LendsTo held (some .unit) u.resource :=
  ⟨_, usable.within _ (.head _), rfl, rfl⟩

namespace TokenStream

variable {stream stream' : TokenStream}

/-- A batch of tokens borrows from its unit. -/
theorem founds {engine : Engine} {held : Held} {u : SourceUnit} (usable : Usable engine held u)
    {origin : Resource} (same : origin = u.resource) (tokens : List TokenEntry) :
    Founds engine held .tokens [u.resource, origin] (.tokens u)
      fun c r => .tokens ⟨c, r, u, tokens⟩ where
  cell _ _ := rfl
  kind _ _ := rfl
  describes _ _ _ := ⟨rfl, rfl⟩
  within member := usable.within _ member
  known c r s member := by
    rcases List.mem_cons.1 member with rfl | member
    · rfl
    · rw [List.mem_singleton.1 member, same]
      rfl
  fresh := nofun

/-- An engine that finds no tokens hands out no batch. -/
theorem gives_make {u u' : SourceUnit} (unit : D.Pair H u u') {range range' : Raw Span}
    (same : range.value = range'.value) (origin : range.origin = u.resource)
    (origin' : range'.origin = u'.resource) :
    D.Gives H F (make u range) (make u' range') := by
  intro base
  unfold make
  rw [← same]
  have lends {held : Held} {v : SourceUnit} (usable : Usable D.engine held v) {r : Resource}
      (is : r = v.resource) : ∀ s ∈ [v.resource, r], LendsTo held (some .unit) s := by
    intro s member
    rcases List.mem_cons.1 member with rfl | member
    · exact lendsTo_unit usable
    · rw [List.mem_singleton.1 member, is]
      exact lendsTo_unit usable
  refine (lockstep_ask (lends unit.left origin) (lends unit.right origin') (fun _ _ => ⟨rfl, rfl⟩)
    (by nofun) (by nofun) (unmixed_pair fun _ => origin.symm)
    (unmixed_pair fun _ => origin'.symm)).bind fun _ _ => ?_
  refine lockstep_engine_bind (lockstep_table_bind unit fun table => ?_)
  dsimp only
  split
  · intro w w' asked
    refine .inl ⟨_, _, w, w', rfl, rfl, ⟨?_, ?_, .none, rfl⟩, ?_⟩
    · exact fun _ absent => nomatch absent
    · exact fun _ absent => nomatch absent
    · rw [Grip.add_eq H rfl rfl]
      exact asked.holds
  · refine lockstep_own_asked (founds unit.left origin _) (founds unit.right origin' _) (by nofun)
      rfl (fun c r => ({ batch := some ⟨c, r, u, _⟩ } : TokenStream))
      (fun c r => ({ batch := some ⟨c, r, u', _⟩ } : TokenStream)) (fun _ _ => rfl)
      (fun _ _ => rfl) fun c r c' r' renamed => ⟨?_, ?_, ?_⟩
    · exact fun _ _ => trivial
    · exact fun _ _ => trivial
    · exact ⟨.some ⟨renamed, unit.alike, rfl⟩, rfl⟩

/-- How a stream goes on: with fewer tokens to come, or, at its end, without holding anything. -/
def Passes (stream : TokenStream) (next : TokenStream × Option Token) : Prop :=
  match next.2 with
  | some _ => next.1.remaining < stream.remaining
  | none => owners next.1 = []

/-- A stream hands out a token that holds the batch as well, or lets the batch go at its end. -/
theorem runs_advance_passes (same : D.Match stream stream') :
    D.Runs (H.add stream stream') F stream.advance stream'.advance
      (fun a b => (D.Match a.1 b.1 ∧ D.Match a.2 b.2) ∧ stream.Passes a ∧ stream'.Passes b)
      fun a b => (H.add a.1 b.1).add a.2 b.2 := by
  obtain ⟨batch, next⟩ := stream
  obtain ⟨batch', next'⟩ := stream'
  obtain ⟨alike, rfl⟩ := same.alike
  unfold advance
  cases alike with
  | none => exact Runs.pure ⟨⟨same, .none⟩, rfl, rfl⟩ (Grip.add_eq _ rfl rfl)
  | @some batch batch' alike =>
      dsimp only
      rw [alike.2.2]
      split
      next before =>
        have before' : next < batch.tokens.length := alike.2.2 ▸ before
        have token : D.Match (⟨batch, next⟩ : Token) ⟨batch', next⟩ :=
          ⟨trivial, trivial, alike, rfl⟩
        refine Runs.bind (gives_keep (token.pair H)) fun a b taken => ?_
        have further : D.Match (⟨batch, next + 1⟩ : TokenStream) ⟨batch', next + 1⟩ :=
          ⟨same.left, same.right, .some alike, rfl⟩
        refine Runs.pure ⟨⟨further, taken.some⟩, ?_, ?_⟩ rfl
        · show batch.tokens.length - (next + 1) < batch.tokens.length - next
          omega
        · show batch'.tokens.length - (next + 1) < batch'.tokens.length - next
          omega
      next =>
        refine (same_drop batch batch').bind fun _ _ _ => ?_
        refine Runs.pure ⟨⟨⟨?_, ?_, .none, rfl⟩, .none⟩, rfl, rfl⟩ ?_
        · exact fun _ absent => nomatch absent
        · exact fun _ absent => nomatch absent
        · exact (Grip.add_eq _ rfl rfl).trans (Grip.add_eq _ rfl rfl)

theorem runs_advance (same : D.Match stream stream') :
    D.Runs (H.add stream stream') F stream.advance stream'.advance
      (fun a b => D.Match a.1 b.1 ∧ D.Match a.2 b.2)
      fun a b => (H.add a.1 b.1).add a.2 b.2 :=
  (runs_advance_passes same).mono fun _ _ related => ⟨related.1, rfl⟩

theorem runs_loop (turns : Nat) {taken taken' : List Token} (same : D.Match stream stream')
    (before : D.Match taken taken') :
    D.Runs ((H.add stream stream').add taken taken') F (drain.loop turns stream taken)
      (drain.loop turns stream' taken') (fun a b => D.Match a.1 b.1 ∧ D.Match a.2 b.2)
      fun a b => (H.add a.1 b.1).add a.2 b.2 := by
  induction turns generalizing stream stream' taken taken' with
  | zero => exact Runs.pure ⟨same, before.reverse⟩ (Grip.add_reverse _ _ _)
  | succ turns ih =>
      unfold drain.loop
      rw [Grip.add_right_comm]
      refine (runs_advance same).bind ?_
      rintro ⟨stream, token⟩ ⟨stream', token'⟩ ⟨same, found, found', alike⟩
      cases alike with
      | none =>
          refine Runs.pure ⟨same, before.reverse⟩ ?_
          rw [Grip.add_reverse, Grip.add_right_comm]
          exact (Grip.add_eq _ rfl rfl).symm
      | @some token token' alike =>
          have next := ih same (Match.cons ⟨found _ rfl, found' _ rfl, alike⟩ before)
          rw [Grip.add_cons, Grip.add_right_comm _ token, Grip.add_right_comm H] at next
          exact next

theorem remaining_eq {ρ : Resource → Resource} (alike : Alike ρ stream stream') :
    stream.remaining = stream'.remaining := by
  obtain ⟨batch, next⟩ := stream
  obtain ⟨batch', next'⟩ := stream'
  obtain ⟨alike, rfl⟩ := alike
  cases alike with
  | none => rfl
  | some alike =>
      show List.length _ - _ = List.length _ - _
      rw [alike.2.2]

theorem runs_drain (same : D.Match stream stream') :
    D.Runs (H.add stream stream') F stream.drain stream'.drain
      (fun a b => D.Match a.1 b.1 ∧ D.Match a.2 b.2) fun a b => (H.add a.1 b.1).add a.2 b.2 := by
  unfold drain
  rw [remaining_eq same.alike]
  have loop := runs_loop (H := H) (F := F) (stream'.remaining + 1) same .nil
  rw [Grip.add_eq _ rfl rfl] at loop
  exact loop

end TokenStream

namespace Token

variable {token token' : Token}

theorem usable_unit {engine : Engine} {held : Held} (usable : Usable engine held token) :
    Usable engine held token.batch.unit where
  coherent := trivial
  within o member := by
    obtain rfl := List.mem_singleton.1 member
    exact .lender (usable.within _ (.head _)) (.head _)

theorem pair_unit (pair : D.Pair H token token') :
    D.Pair H token.batch.unit token'.batch.unit :=
  ⟨usable_unit pair.left, usable_unit pair.right, pair.alike.1.2.1⟩

theorem lends_batch (pair : D.Pair H token token') :
    H.Lends token.batch.resource token'.batch.resource :=
  ⟨⟨_, pair.left.within _ (.head _), rfl⟩, _, pair.right.within _ (.head _), rfl⟩

theorem same_ask (pair : D.Pair H token token') (question : Nat → Question)
    (apart : ∀ i, (question i).joins = false) :
    D.Same H F (token.ask question) (token'.ask question) := by
  have position : token.position = token'.position := pair.alike.2
  have entry : token.entry = token'.entry := by
    rw [Token.entry, Token.entry, position, pair.alike.1.2.2]
  unfold ask
  rw [position, entry]
  have alone : (question token'.position).joins ≠ true := by rw [apart]; exact Bool.false_ne_true
  exact (same_ask_two (pair_unit pair).lends (lends_batch pair) _ (absurd · alone)
    (absurd · alone)).map _

theorem same_spelling (pair : D.Pair H token token') : D.Same H F token.spelling token'.spelling :=
  (same_ask pair _ fun _ => rfl).bind fun _ => same_text _

theorem same_kind (pair : D.Pair H token token') : D.Same H F token.kind token'.kind :=
  (same_ask pair _ fun _ => rfl).map _

theorem gives_location (pair : D.Pair H token token') :
    D.Gives H F token.location token'.location :=
  (same_ask pair _ fun _ => rfl).bind fun _ => gives_keep
    (SourceLocation.pair_of (pair_unit pair) pair_absent rfl (.of_unit rfl) (.of_unit rfl))

theorem gives_extent (pair : D.Pair H token token') : D.Gives H F token.extent token'.extent :=
  (same_ask pair _ fun _ => rfl).bind fun _ => gives_keep
    (SourceRange.pair_of (pair_unit pair) pair_absent rfl (.of_unit rfl) (.of_unit rfl))

theorem gives_cursor (pair : D.Pair H token token') : D.Gives H F token.cursor token'.cursor :=
  (same_ask pair _ fun _ => rfl).bind fun _ => Cursor.gives_ofRaw? (pair_unit pair) rfl rfl rfl

theorem same_inspect (pair : D.Pair H token token') : D.Same H F token.inspect token'.inspect :=
  (same_kind pair).bind fun _ => (same_spelling pair).map _

end Token

end SourceAtlas
