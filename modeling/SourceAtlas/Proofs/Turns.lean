import SourceAtlas.Proofs.Answers
import SourceAtlas.Session.Run

/-!
# Turns in lockstep

When alike objects are asked, both come out of it alike, with what they learnt about themselves or
the position that they reached. An object that does not understand a query does so in both runs.
-/

namespace SourceAtlas

open Duo

/-- Two turns of alike receivers that end alike. After a fault the receivers are as before. -/
abbrev Duo.Turns (D : Duo) (H : Grip) (o o' : Object) (x y : Act Turn) : Prop :=
  D.Runs (H.add o o') (H.add o o') x y
    (fun t t' => D.Match t.receiver t'.receiver ∧ D.Match t.outcome t'.outcome)
    fun t t' => (H.add t.receiver t'.receiver).add t.outcome t'.outcome

variable {D : Duo} {H : Grip} {o o' : Object}

namespace Duo

/-- What comes out well is an outcome. -/
theorem Match.ok {α : Type} [Holder α] [Likeness α] [Entity α] {a b : α} (same : D.Match a b) :
    D.Match (Except.ok a : Except Fault α) (.ok b) :=
  ⟨same.left, same.right, same.alike⟩

theorem turns_pure {answer answer' : Answer} {r r' : Object} (same : D.Match r r')
    (outcome : D.Match answer answer')
    (held : (H.add r r').add answer answer' = H.add o o') :
    D.Turns H o o' (pure ⟨r, .ok answer⟩) (pure ⟨r', .ok answer'⟩) :=
  Runs.pure ⟨same, outcome.ok⟩ held

/-- A query that leaves its receiver as it is. -/
theorem turns_steady {x y : Act Answer} (same : D.Match o o')
    (gives : D.Gives (H.add o o') (H.add o o') x y) :
    D.Turns H o o' (o.steady x) (o'.steady y) :=
  Runs.map gives fun _ _ outcome => ⟨⟨same, outcome.ok⟩, rfl⟩

/-- A receiver that changes holds at least as much as before. -/
theorem turns_become {new new' : Object} {answer answer' : Answer}
    (outcome : D.Match answer answer') (pair : D.Pair (H.add o o') new new') :
    D.Runs ((H.add o o').add answer answer') (H.add o o')
      (do
        let changed ← o.become new
        return (⟨changed, .ok answer⟩ : Turn))
      (do
        let changed ← o'.become new'
        return (⟨changed, .ok answer'⟩ : Turn))
      (fun t t' => D.Match t.receiver t'.receiver ∧ D.Match t.outcome t'.outcome)
      fun t t' => (H.add t.receiver t'.receiver).add t.outcome t'.outcome := by
  have more := Grip.le_add (H.add o o') answer answer'
  have become : D.Runs ((H.add o o').add answer answer') (H.add o o') (o.become new)
      (o'.become new') D.Match fun a b => (H.add a b).add answer answer' := by
    refine Runs.bind (gives_keep (pair.mono more)) ?_
    intro new new' same
    have held : ((H.add o o').add answer answer').add new new' =
        ((H.add new new').add answer answer').add o o' := by
      rw [Grip.add_right_comm _ answer, Grip.add_right_comm H, Grip.add_right_comm _ o]
    rw [held]
    exact (same_drop o o').bind fun _ _ _ => Runs.pure same rfl
  exact become.map fun _ _ same => ⟨⟨same, outcome.ok⟩, rfl⟩

end Duo

namespace SourceLocation

variable {location location' : SourceLocation}

/-- A location that is asked for what it stands for remembers it. -/
theorem turns_expanding (same : D.Match location location')
    {answer answer' : Expansion → Act Answer}
    (gives : ∀ K F a b, H.add (Object.location location) (.location location') ≤ K →
      D.Pair K a b → D.Gives K F (answer a) (answer' b)) :
    D.Turns H (.location location) (.location location')
      (do
        let expansion ← location.expand
        let answer ← answer expansion
        let changed ← (Object.location location).become
          (.location { location with expansion := some expansion })
        return ⟨changed, .ok answer⟩)
      (do
        let expansion ← location'.expand
        let answer ← answer' expansion
        let changed ← (Object.location location').become
          (.location { location' with expansion := some expansion })
        return ⟨changed, .ok answer⟩) := by
  have pair := same.pair_wrapped (W := Object.location) H
  refine (runs_expand pair).bind ?_
  rintro _ _ ⟨rfl, rfl⟩
  refine (gives _ _ _ _ (le_refl _) (pair_answer pair)).bind fun _ _ outcome => ?_
  exact turns_become outcome ((pair_expanded pair).wrapped (W := .location))

theorem turns_turn (same : D.Match location location') (query : LocationQuery) :
    D.Turns H (.location location) (.location location') (location.turn query)
      (location'.turn query) := by
  have pair := same.pair_wrapped (W := Object.location) H
  have unit := pair_unit pair
  have object : D.Match (Object.location location) (.location location') := same.wrapped
  cases query with
  | file =>
      refine turns_expanding same fun K F a b le expansion => ?_
      exact gives_optional (gives_keep (Expansion.pair_file expansion))
  | line =>
      exact turns_expanding same fun K F a b _ expansion =>
        gives_shown expansion.alike.2.1 fun line => .nat line.toNat
  | column =>
      exact turns_expanding same fun K F a b _ expansion =>
        gives_shown expansion.alike.2.2.1 fun column => .nat column.toNat
  | offset =>
      exact turns_expanding same fun K F a b _ expansion =>
        gives_shown expansion.alike.2.2.2 fun offset => .nat offset.toNat
  | debug =>
      exact turns_expanding same fun K F a b _ expansion =>
        gives_plain (Expansion.same_inspect expansion) _
  | isInSystemHeader => exact turns_steady object (gives_plain (same_isInSystemHeader pair) _)
  | isFromMainFile => exact turns_steady object (gives_plain (same_isFromMainFile pair) _)
  | unit => exact turns_steady object (gives_object (gives_keep unit))
  | cursor => exact turns_steady object (gives_optional (Cursor.gives_atLocation pair fun _ => rfl))

end SourceLocation

/-! ## Streams and walks -/

/-- A receiver that moves on hands over a part of what it holds. -/
theorem Duo.turns_move {α β : Type} [Holder α] [Likeness α] [Entity α] [Holder β] [Likeness β]
    [Entity β] {W : α → Object} [Wraps W] {a a' : α} {x y : Act (α × β)}
    {g : β → Except Fault Answer} (outcome : ∀ {b b'}, D.Match b b' → D.Match (g b) (g b'))
    (keeps : ∀ b, owners (g b) = owners b)
    (runs : D.Runs (H.add a a') (H.add a a') x y
      (fun p q => D.Match p.1 q.1 ∧ D.Match p.2 q.2) fun p q => (H.add p.1 q.1).add p.2 q.2) :
    D.Turns H (W a) (W a') (x >>= fun p => pure ⟨W p.1, g p.2⟩)
      (y >>= fun p => pure ⟨W p.1, g p.2⟩) := by
  unfold Turns
  rw [Grip.add_wrap]
  refine runs.map fun p q same => ⟨⟨same.1.wrapped, outcome same.2⟩, ?_⟩
  show (H.add (W p.1) (W q.1)).add (g p.2) (g q.2) = _
  rw [Grip.add_wrap, Grip.add, keeps, keeps]
  rfl

/-- A receiver that says something about itself stays as it is. -/
theorem Duo.turns_say (same : D.Match o o') (value : Json) :
    D.Turns H o o' (pure ⟨o, .ok (.plain value)⟩) (pure ⟨o', .ok (.plain value)⟩) :=
  turns_pure same (.plain value) (Grip.add_eq _ rfl rfl)

theorem TokenStream.turns_turn {stream stream' : TokenStream} (same : D.Match stream stream')
    (query : TokensQuery) :
    D.Turns H (.tokens stream) (.tokens stream') (stream.turn query) (stream'.turn query) := by
  have object : D.Match (Object.tokens stream) (.tokens stream') := same.wrapped
  have remaining := remaining_eq same.alike
  cases query with
  | next =>
      exact turns_move (W := .tokens) (g := fun token => .ok (.optional .token token))
        (fun token => token.optional.ok) owners_optional (runs_advance same)
  | rest =>
      exact turns_move (W := .tokens) (g := fun tokens => .ok (.list .token tokens))
        (fun tokens => tokens.list.ok) owners_list (runs_drain same)
  | length =>
      unfold turn
      rw [remaining]
      exact turns_say object _
  | sizeHint =>
      unfold turn
      rw [remaining]
      exact turns_say object _
  | debug =>
      unfold turn inspect
      rw [remaining]
      exact turns_say object _

/-- Outcomes match as outcomes of answers. -/
theorem Duo.Match.map_outcome {α : Type} [Holder α] [Likeness α] [Entity α]
    {a b : Except Fault α} {f : α → Answer}
    (next : ∀ {a b}, D.Match a b → D.Match (f a) (f b)) (same : D.Match a b) :
    D.Match (a.map f) (b.map f) := by
  obtain ⟨left, right, alike⟩ := same
  cases a with
  | ok a =>
      cases b with
      | ok b => exact (next ⟨left, right, alike⟩).ok
      | error fault => exact alike.elim
  | error fault =>
      cases b with
      | ok b => exact alike.elim
      | error fault' => exact ⟨trivial, trivial, alike⟩

theorem owners_map_outcome {α : Type} [Holder α] [Likeness α] [Entity α] {f : α → Answer}
    (keeps : ∀ a, owners (f a) = owners a) (a : Except Fault α) :
    owners (a.map f) = owners a := by
  cases a with
  | ok a => exact keeps a
  | error fault => rfl

theorem Walk.turns_turn {walk walk' : Walk} (same : D.Match walk walk') (query : WalkQuery) :
    D.Turns H (.walk walk) (.walk walk') (walk.turn query) (walk'.turn query) := by
  cases query with
  | next =>
      exact turns_move (W := .walk) (g := fun node => node.map (.optional .cursor))
        (Match.map_outcome Match.optional) (owners_map_outcome owners_optional)
        (runs_advance same)
  | rest =>
      exact turns_move (W := .walk) (g := fun nodes => nodes.map (.list .cursor))
        (Match.map_outcome Match.list) (owners_map_outcome owners_list) (runs_drain same)

/-! ## Chunks -/

namespace Chunk

variable {chunk chunk' : Chunk}

/-- A chunk may remember what the engine says of it. -/
theorem pair_learn (pair : D.Pair H chunk chunk') {text text' : Option String}
    {kind kind' : Option CompletionChunkKind}
    (spelling : ∀ s ∈ text, s = (chunk.entry D.engine).text.decoded)
    (spelling' : ∀ s ∈ text', s = (chunk'.entry D.engine).text.decoded)
    (kinds : ∀ k ∈ kind, k = .ofRaw (chunk.entry D.engine).kind)
    (kinds' : ∀ k ∈ kind', k = .ofRaw (chunk'.entry D.engine).kind) :
    D.Pair H { chunk with spelling := text, kind }
      { chunk' with spelling := text', kind := kind' } :=
  ⟨⟨⟨pair.left.coherent.1, spelling, kinds⟩, pair.left.within⟩,
    ⟨⟨pair.right.coherent.1, spelling', kinds'⟩, pair.right.within⟩, pair.alike⟩

theorem pair_spelled (pair : D.Pair H chunk chunk') :
    D.Pair H { chunk with spelling := some (chunk.entry D.engine).text.decoded }
      { chunk' with spelling := some (chunk.entry D.engine).text.decoded } := by
  refine pair_learn pair ?_ ?_ pair.left.coherent.2.2 pair.right.coherent.2.2
  · rintro _ ⟨⟩
    rfl
  · rintro _ ⟨⟩
    rw [entry_eq pair]

theorem pair_classified (pair : D.Pair H chunk chunk') :
    D.Pair H { chunk with kind := some (.ofRaw (chunk.entry D.engine).kind) }
      { chunk' with kind := some (.ofRaw (chunk.entry D.engine).kind) } := by
  refine pair_learn pair pair.left.coherent.2.1 pair.right.coherent.2.1 ?_ ?_
  · rintro _ ⟨⟩
    rfl
  · rintro _ ⟨⟩
    rw [entry_eq pair]

theorem runs_spelled (pair : D.Pair H chunk chunk') :
    D.Runs H F chunk.spelled chunk'.spelled
      (fun a b => a = { chunk with spelling := some (chunk.entry D.engine).text.decoded } ∧
        b = { chunk' with spelling := some (chunk.entry D.engine).text.decoded })
      fun _ _ => H :=
  (runs_askSpelling pair).map fun _ _ is => by
    obtain ⟨rfl, rfl⟩ := is
    exact ⟨⟨rfl, rfl⟩, rfl⟩

theorem runs_classified (pair : D.Pair H chunk chunk') :
    D.Runs H F chunk.classified chunk'.classified
      (fun a b => a = { chunk with kind := some (.ofRaw (chunk.entry D.engine).kind) } ∧
        b = { chunk' with kind := some (.ofRaw (chunk.entry D.engine).kind) })
      fun _ _ => H :=
  (runs_askKind pair).map fun _ _ is => by
    obtain ⟨rfl, rfl⟩ := is
    exact ⟨⟨rfl, rfl⟩, rfl⟩

theorem turns_turn (same : D.Match chunk chunk') (query : ChunkQuery) :
    D.Turns H (.chunk chunk) (.chunk chunk') (chunk.turn query) (chunk'.turn query) := by
  have pair := same.pair_wrapped (W := Object.chunk) H
  cases query with
  | spelling =>
      refine (runs_spelled pair).bind ?_
      rintro _ _ ⟨rfl, rfl⟩
      exact turns_pure (pair_spelled pair).isMatch.wrapped (.plain _) (Grip.add_eq _ rfl rfl)
  | kind =>
      refine (runs_askKind pair).bind ?_
      rintro _ _ ⟨rfl, rfl⟩
      exact turns_pure (pair_classified pair).isMatch.wrapped (.plain _) (Grip.add_eq _ rfl rfl)
  | nested => exact turns_steady same.wrapped (gives_optional (gives_nested pair))
  | debug =>
      refine (runs_classified pair).bind ?_
      rintro _ _ ⟨rfl, rfl⟩
      have pair := pair_classified pair
      refine (runs_spelled pair).bind ?_
      rintro _ _ ⟨rfl, rfl⟩
      exact turns_pure (pair_spelled pair).isMatch.wrapped (.plain _) (Grip.add_eq _ rfl rfl)

end Chunk

/-! ## Queries by name -/

namespace Object

/-- Whether a query parses a unit again. -/
def Reparses (object : Object) (name : String) : Prop :=
  (∃ unit, object = .unit unit) ∧ name = "reparse"

end Object

theorem UnitQuery.name_of_reparse {name : String} {args : Json} {unsaved : List UnsavedFile}
    {options : Option UInt32} (named : ofName? name args = some (.reparse unsaved options)) :
    name = "reparse" := by
  unfold ofName? at named
  split at named <;> first | rfl | cases named

namespace Duo

theorem rel_map {Q α β : Type} {R : α → β → Prop} {f : Q → α} {g : Q → β} {query : Option Q}
    (related : ∀ q ∈ query, R (f q) (g q)) : Option.Rel R (query.map f) (query.map g) := by
  cases query with
  | none => exact .none
  | some q => exact .some (related q rfl)

/-- Both runs answer the query, or do not understand it. -/
theorem rel_steady {Q α : Type} [Holder α] [Likeness α] [Entity α] {W : α → Object}
    [Wraps W] {a b : α} {query : Option Q} {answer : α → Q → Act Answer}
    (same : D.Match (W a) (W b))
    (gives : ∀ {K}, D.Pair K a b → ∀ q ∈ query, D.Gives K K (answer a q) (answer b q)) :
    Option.Rel (D.Turns H (W a) (W b))
      (query.map fun q => (W a).steady (answer a q))
      (query.map fun q => (W b).steady (answer b q)) :=
  rel_map fun q asked => turns_steady same (gives (same.pair H).unwrapped q asked)

/-- Alike objects understand the same queries, and answer alike. -/
theorem rel_turn? (same : D.Match o o') (name : String) (args : Json)
    (still : ¬ o.Reparses name) :
    Option.Rel (D.Turns H o o') (o.turn? name args) (o'.turn? name args) := by
  have alike := same.alike
  cases o <;> cases o' <;> try exact alike.elim
  case index.index =>
    exact rel_steady (W := .index) same fun pair q _ => Index.gives_answer pair q
  case unit.unit held _ =>
    refine rel_steady (W := .unit) same fun pair q asked => SourceUnit.gives_answer pair q ?_
    rintro unsaved options rfl
    exact still ⟨⟨held, rfl⟩, UnitQuery.name_of_reparse asked⟩
  case cursor.cursor =>
    exact rel_steady (W := .cursor) same fun pair q _ => Cursor.gives_answer pair q
  case type.type =>
    exact rel_steady (W := .type) same fun pair q _ => SourceType.gives_answer pair q
  case argumentTypes.argumentTypes =>
    exact rel_steady (W := .argumentTypes) same fun pair q _ => ArgumentTypes.gives_answer pair q
  case file.file =>
    exact rel_steady (W := .file) same fun pair q _ => SourceFile.gives_answer pair q
  case location.location =>
    exact rel_map fun q _ => SourceLocation.turns_turn (same.unwrapped (W := .location)) q
  case range.range =>
    exact rel_steady (W := .range) same fun pair q _ => SourceRange.gives_answer pair q
  case inclusion.inclusion =>
    exact rel_steady (W := .inclusion) same fun pair q _ => Inclusion.gives_answer pair q
  case tokens.tokens =>
    exact rel_map fun q _ => TokenStream.turns_turn (same.unwrapped (W := .tokens)) q
  case token.token =>
    exact rel_steady (W := .token) same fun pair q _ => Token.gives_answer pair q
  case walk.walk =>
    exact rel_map fun q _ => Walk.turns_turn (same.unwrapped (W := .walk)) q
  case diagnostics.diagnostics =>
    exact rel_steady (W := .diagnostics) same fun pair q _ => DiagnosticList.gives_answer pair q
  case diagnostic.diagnostic =>
    exact rel_steady (W := .diagnostic) same fun pair q _ => Diagnostic.gives_answer pair q
  case fixIt.fixIt =>
    exact rel_steady (W := .fixIt) same fun pair q _ => FixIt.gives_answer pair q
  case completion.completion =>
    exact rel_steady (W := .completion) same fun pair q _ => Completion.gives_answer pair q
  case candidate.candidate =>
    exact rel_steady (W := .candidate) same fun pair q _ => Candidate.gives_answer pair q
  case string.string =>
    exact rel_steady (W := .string) same fun pair q _ => CompletionString.gives_answer pair q
  case chunk.chunk =>
    exact rel_map fun q _ => Chunk.turns_turn (same.unwrapped (W := .chunk)) q
  case database.database =>
    exact rel_steady (W := .database) same fun pair q _ => Database.gives_answer pair q
  case commands.commands =>
    exact rel_steady (W := .commands) same fun pair q _ => CommandList.gives_answer pair q
  case command.command =>
    exact rel_steady (W := .command) same fun pair q _ => CompileCommand.gives_answer pair q

/-! ## Queries of two objects -/

/-- Two objects that go together are asked together. -/
theorem rel_pairTurn? {a a' : Object} (first : D.Pair (H.add o o') a a') (second : D.Match o o')
    (query : PairQuery) :
    Option.Rel (D.Turns H o o') (a.pairTurn? o query) (a'.pairTurn? o' query) := by
  have pair := second.pair H
  have like := first.alike
  have like' := second.alike
  unfold Object.pairTurn?
  split
  case h_10 none =>
    split
    case h_10 => exact .none
    all_goals
      cases a <;> try exact like.elim
      cases o <;> try exact like'.elim
      simp_all
  all_goals
    cases a' <;> try exact like.elim
    cases o' <;> try exact like'.elim
    refine .some ?_
  case h_1.unit.unit =>
    refine turns_steady second (Runs.of_holds fun {base w w'} holds => ?_)
    exact gives_shown (holds.same_eq (first.unwrapped (W := .unit)) pair.unwrapped) .bool
  case h_2.cursor.cursor =>
    exact turns_steady second (gives_plain
      (Cursor.same_same (first.unwrapped (W := .cursor)) pair.unwrapped) .bool)
  case h_3.type.type =>
    exact turns_steady second (gives_plain
      (SourceType.same_same (first.unwrapped (W := .type)) pair.unwrapped) .bool)
  case h_4.file.file =>
    exact turns_steady second (gives_plain
      (SourceFile.same_same (first.unwrapped (W := .file)) pair.unwrapped) .bool)
  case h_5.location.location =>
    exact turns_steady second (gives_plain
      (SourceLocation.same_same (first.unwrapped (W := .location)) pair.unwrapped) .bool)
  case h_6.range.range =>
    exact turns_steady second (gives_plain
      (SourceRange.same_same (first.unwrapped (W := .range)) pair.unwrapped) .bool)
  case h_7.range.location =>
    have point := pair.unwrapped (W := .location)
    have expanded := SourceLocation.pair_expanded point
    refine (SourceLocation.runs_expand point).bind ?_
    rintro _ _ ⟨rfl, rfl⟩
    refine (SourceRange.same_containsExpansion (first.unwrapped (W := .range))
      (SourceLocation.pair_answer point)).bind fun inside => ?_
    have become := turns_become (Match.plain (.bool inside)) (expanded.wrapped (W := .location))
    rw [Grip.add_eq _ rfl rfl] at become
    exact become
  case h_8.location.location =>
    exact turns_steady second (gives_object
      (SourceRange.gives_ofLocations (first.unwrapped (W := .location)) pair.unwrapped
        fun _ => rfl))
  case h_9.unit.range =>
    exact turns_steady second (gives_object
      (SourceUnit.gives_tokens (first.unwrapped (W := .unit)) pair.unwrapped fun _ => rfl))

/-- A copy holds what the object holds. -/
theorem turns_clone (same : D.Match o o') :
    D.Turns H o o' (o.steady (.object <$> Act.keep o)) (o'.steady (.object <$> Act.keep o')) :=
  turns_steady same ((gives_keep (same.pair H)).map fun _ _ same => ⟨same.object, rfl, rfl⟩)

end Duo

theorem Object.isClonable_eq {ρ : Resource → Resource} (alike : Alike ρ o o') :
    o.isClonable = o'.isClonable := by
  cases o <;> cases o' <;> first | rfl | exact alike.elim

/-! ## Queries of the session -/

namespace State

theorem same_engineVersion : D.Same H H engineVersion engineVersion :=
  same_load.bind fun _ => (same_inquire _).bind fun _ => same_engine.bind fun _ => same_text _

theorem same_editingDefaults : D.Same H H editingDefaults editingDefaults :=
  same_load.bind fun _ => (same_inquire _).bind fun _ => same_engine.map _

theorem same_inspectCursorKind (kind : CursorKind) :
    D.Same H H (inspectCursorKind kind) (inspectCursorKind kind) := by
  refine (same_inquire _).bind fun _ => same_engine.bind fun _ => (same_text _).bind fun _ => ?_
  exact (same_mapM (List.forall₂_same.2 fun _ _ => (same_inquire _).map _)).map _

theorem same_inspectTypeKind (kind : TypeKind) :
    D.Same H H (inspectTypeKind kind) (inspectTypeKind kind) :=
  (same_inquire _).bind fun _ => same_engine.bind fun _ => (same_text _).map _

/-- The session answers alike if the same is out in both runs, but for how often it asked. -/
theorem rel_sessionQuery? (name : String) (args : Json) (counted : name ≠ "calls")
    (live : ∀ {base w w'}, D.Holds base H w w' → w.live = w'.live) :
    Option.Rel (D.Gives H H) (sessionQuery? name args) (sessionQuery? name args) := by
  unfold sessionQuery?
  split
  · exact .some (gives_object (Index.gives_create _))
  · exact .some (gives_object (Index.gives_create _))
  · exact .some (gives_object (Database.gives_openIn _))
  · exact .some (gives_plain same_engineVersion .str)
  · exact .some (gives_plain same_editingDefaults fun n => .nat n.toNat)
  · exact .some (gives_plain (same_inspectCursorKind _) id)
  · exact .some (gives_plain (same_inspectTypeKind _) id)
  · refine .some fun base w w' holds => .inl ⟨_, _, w, w', rfl, rfl, ?_, ?_⟩
    · rw [live holds]
      exact .plain _
    · show D.Holds base (H.add (Answer.plain _) (.plain _)) w w'
      rw [Grip.add_eq H rfl rfl]
      exact holds
  · exact absurd rfl counted
  · exact .none

end State

end SourceAtlas
