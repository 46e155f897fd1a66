import SourceAtlas.Proofs.Objects

/-!
# Positions within their lists

A token is at a position of its batch, a stream has not gone past the end of its batch, and a
candidate is one of the results that it was taken from. So no list is read beyond its end, and an
iteration comes to as many elements as it says.
-/

namespace SourceAtlas

/-- Whether the positions of an object are within the lists that they are positions of. -/
def Object.InRange : Object → Prop
  | .token held => held.position < held.batch.tokens.length
  | .tokens held => ∀ batch ∈ held.batch, held.next ≤ batch.tokens.length
  | .candidate held => ∃ i < held.results.length, held.results.candidate? i = some held
  | _ => True

/-- Whether all objects of an answer are within range. -/
def Answer.InRange : Answer → Prop
  | .plain _ => True
  | .object held => held.InRange
  | .objects held => ∀ object ∈ held, object.InRange

/-- Whether all objects that a turn gives back are within range. -/
structure Turn.InRange (t : Turn) : Prop where
  receiver : t.receiver.InRange
  outcome : ∀ answer, t.outcome = .ok answer → answer.InRange

namespace Answer.InRange

variable {α : Type} {wrap : α → Object}

theorem optional {value : Option α} (each : ∀ a ∈ value, (wrap a).InRange) :
    (Answer.optional wrap value).InRange := by
  cases value with
  | none => trivial
  | some a => exact each a rfl

theorem list {values : List α} (each : ∀ a ∈ values, (wrap a).InRange) :
    (Answer.list wrap values).InRange := by
  intro object member
  obtain ⟨a, found, rfl⟩ := List.mem_map.1 member
  exact each a found

end Answer.InRange

open Act

/-! ## Streams of tokens -/

namespace TokenStream

/-- A stream begins at the first token. -/
theorem inRange_make (unit : SourceUnit) (range : Raw Span) :
    (make unit range).Returns fun stream => (Object.tokens stream).InRange := by
  unfold make
  refine .bind fun _ => .bind fun _ => .bind fun table => ?_
  dsimp only
  split
  · exact .pure fun _ absent => nomatch absent
  · refine .bind fun _ => .bind fun _ => .pure ?_
    rintro batch ⟨⟩
    exact Nat.zero_le _

theorem inRange_advance {stream : TokenStream} (inRange : (Object.tokens stream).InRange) :
    stream.advance.Returns fun result => (Object.tokens result.1).InRange ∧
      ∀ token ∈ result.2, (Object.token token).InRange := by
  unfold advance
  cases found : stream.batch with
  | none => exact .pure ⟨inRange, fun _ absent => nomatch absent⟩
  | some batch =>
      dsimp only
      split
      next more =>
        refine (Returns.keep (P := (· = (⟨batch, stream.next⟩ : Token))) rfl).after ?_
        intro token same
        subst same
        refine .pure ⟨?_, ?_⟩
        · rintro _ ⟨⟩
          exact more
        · rintro _ ⟨⟩
          exact more
      next =>
        have none {α : Type} {P : α → Prop} : ∀ a ∈ (none : Option α), P a :=
          fun _ absent => nomatch absent
        exact .bind fun _ => .pure ⟨none, none⟩

theorem inRange_loop (turns : Nat) {stream : TokenStream} {taken : List Token}
    (inRange : (Object.tokens stream).InRange)
    (before : ∀ token ∈ taken, (Object.token token).InRange) :
    (drain.loop turns stream taken).Returns fun result => (Object.tokens result.1).InRange ∧
      ∀ token ∈ result.2, (Object.token token).InRange := by
  induction turns generalizing stream taken with
  | zero => exact .pure ⟨inRange, fun token member => before token (List.mem_reverse.1 member)⟩
  | succ turns ih =>
      refine (inRange_advance inRange).after ?_
      rintro ⟨next, _ | token⟩ ⟨still, found⟩
      · exact .pure ⟨still, fun token member => before token (List.mem_reverse.1 member)⟩
      · exact ih still (List.forall_mem_cons.2 ⟨found token rfl, before⟩)

theorem inRange_turn {stream : TokenStream} (inRange : (Object.tokens stream).InRange)
    (query : TokensQuery) : (stream.turn query).Returns Turn.InRange := by
  cases query with
  | next =>
      refine (inRange_advance inRange).after fun result sound => .pure ⟨sound.1, ?_⟩
      rintro _ ⟨⟩
      exact .optional sound.2
  | rest =>
      have none : ∀ token ∈ ([] : List Token), (Object.token token).InRange :=
        fun _ absent => absurd absent List.not_mem_nil
      refine (inRange_loop _ inRange none).after fun result sound => .pure ⟨sound.1, ?_⟩
      rintro _ ⟨⟩
      exact .list sound.2
  | length => exact .pure ⟨inRange, by rintro _ ⟨⟩; trivial⟩
  | sizeHint => exact .pure ⟨inRange, by rintro _ ⟨⟩; trivial⟩
  | debug => exact .pure ⟨inRange, by rintro _ ⟨⟩; trivial⟩

/-- A stream yields as many tokens as it has said that remain. -/
theorem exec_loop (setting : Setting) (turns : Nat) (stream : TokenStream) (taken : List Token)
    (enough : stream.remaining < turns) (w : World) :
    ∃ next tokens v, (drain.loop turns stream taken).exec setting w = (.ok (next, tokens), v) ∧
      tokens.length = taken.length + stream.remaining := by
  induction turns generalizing stream taken w with
  | zero => exact absurd enough (Nat.not_lt_zero _)
  | succ turns ih =>
      obtain ⟨_ | batch, next⟩ := stream
      · exact ⟨_, taken.reverse, w, rfl, by simp [remaining]⟩
      -- the bound goes down by one with each token, and the stream lets go of the batch at its end
      · by_cases more : next < batch.tokens.length
        · have fewer : (⟨some batch, next + 1⟩ : TokenStream).remaining + 1 =
              (⟨some batch, next⟩ : TokenStream).remaining := by
            simp only [remaining, Option.elim_some]
            omega
          have advanced : (⟨some batch, next⟩ : TokenStream).advance.exec setting w =
              (.ok (⟨some batch, next + 1⟩, some ⟨batch, next⟩),
                w.retainAll (refs (⟨batch, next⟩ : Token))) := by
            simp only [advance, if_pos more]
            rfl
          obtain ⟨after, tokens, v, ran, length⟩ := ih ⟨some batch, next + 1⟩ (⟨batch, next⟩ :: taken)
            (by omega) (w.retainAll (refs (⟨batch, next⟩ : Token)))
          refine ⟨after, tokens, v, (exec_bind_ok advanced).trans ran, ?_⟩
          rw [length, List.length_cons]
          omega
        · have advanced : (⟨some batch, next⟩ : TokenStream).advance.exec setting w =
              (.ok (⟨none, next⟩, none), w.release (refs batch)) := by
            simp only [advance, if_neg more]
            rfl
          refine ⟨⟨none, next⟩, taken.reverse, _, (exec_bind_ok advanced).trans rfl, ?_⟩
          simp only [remaining, Option.elim_some, List.length_reverse]
          omega

theorem exec_drain (stream : TokenStream) (setting : Setting) (w : World) :
    ∃ next tokens v, stream.drain.exec setting w = (.ok (next, tokens), v) ∧
      tokens.length = stream.remaining := by
  obtain ⟨next, tokens, v, ran, length⟩ :=
    exec_loop setting (stream.remaining + 1) stream [] (Nat.lt_succ_self _) w
  exact ⟨next, tokens, v, ran, by simpa using length⟩

end TokenStream

/-! ## Candidates -/

namespace Completion

variable (results : Completion)

theorem inRange_candidate? (i : Nat) :
    ∀ candidate ∈ results.candidate? i, (Object.candidate candidate).InRange := by
  intro candidate found
  obtain ⟨entry, here, rfl⟩ := Option.map_eq_some_iff.1 found
  obtain ⟨bound, -⟩ := List.getElem?_eq_some_iff.1 here
  exact ⟨i, bound, found⟩

/-- To go through the results is to come to each of them. -/
theorem length_candidates :
    ((List.range results.length).filterMap results.candidate?).length = results.length := by
  have each : ∀ i ∈ List.range results.length, (results.candidate? i).isSome := by
    intro i member
    have bound : i < results.entry.results.length := List.mem_range.1 member
    simp [candidate?, bound]
  rw [List.filterMap_length_eq_length.2 each, List.length_range]

theorem inRange_answer (query : CompletionQuery) :
    (results.answer query).Returns Answer.InRange := by
  rcases query with (_ | _ | _ | _ | i) | _
  · exact .pure trivial
  · exact .pure trivial
  · refine (Returns.keep (P := fun found => ∀ candidate ∈ found,
      (Object.candidate candidate).InRange) ?_).after fun found sound => .pure (.list sound)
    intro candidate member
    obtain ⟨i, -, found⟩ := List.mem_filterMap.1 member
    exact results.inRange_candidate? i candidate found
  · exact .pure trivial
  · exact (Returns.keep (results.inRange_candidate? i)).after fun found sound =>
      .pure (.optional sound)
  · exact .bind fun _ => .pure (.list fun _ _ => trivial)

end Completion

/-! ## Other objects -/

/-- What holds of any object of a kind holds of those in an answer. -/
theorem Cursor.inRange_answer (cursor : Cursor) (query : CursorQuery) :
    (cursor.answer query).Returns Answer.InRange := by
  cases query with
  | enumValue =>
      refine .bind fun value => ?_
      cases value <;> exact .pure trivial
  | tokens =>
      refine Returns.after (Q := fun stream => (Object.tokens stream).InRange) ?_ fun _ sound =>
        .pure sound
      exact .bind fun extent => TokenStream.inRange_make cursor.unit extent.raw
  | _ => first
    | exact .bind fun _ => .pure trivial
    | exact .bind fun _ => .pure (.optional fun _ _ => trivial)
    | exact .bind fun _ => .pure (.list fun _ _ => trivial)
    | exact .bind fun _ => .bind fun _ => .pure trivial
    | exact .bind fun _ => .bind fun _ => .pure (.optional fun _ _ => trivial)

namespace Object

/-- What takes the place of an object is what is asked for. -/
theorem inRange_become {old new : Object} (inRange : new.InRange) :
    (old.become new).Returns InRange :=
  Returns.after (Returns.keep inRange) fun _ sound => .bind fun _ => .pure sound

theorem inRange_steady {receiver : Object} (inRange : receiver.InRange) {answer : Act Answer}
    (returns : answer.Returns Answer.InRange) : (receiver.steady answer).Returns Turn.InRange := by
  refine returns.after fun answer sound => .pure ⟨inRange, ?_⟩
  rintro _ ⟨⟩
  exact sound

end Object

/-- A location that has been asked where it is takes its own place. -/
theorem SourceLocation.inRange_expanding (location : SourceLocation)
    {answer : Expansion → Act Answer}
    (returns : ∀ expansion, (answer expansion).Returns Answer.InRange) :
    (do
      let expansion ← location.expand
      let answer ← answer expansion
      let changed ← (Object.location location).become
        (.location { location with expansion := some expansion })
      return (⟨changed, .ok answer⟩ : Turn)).Returns Turn.InRange := by
  refine .bind fun expansion => (returns expansion).after fun answer sound => ?_
  have learnt : (Object.location { location with expansion := some expansion }).InRange := trivial
  refine (Object.inRange_become learnt).after fun changed still => .pure ⟨still, ?_⟩
  rintro _ ⟨⟩
  exact sound

theorem SourceLocation.inRange_turn (location : SourceLocation) (query : LocationQuery) :
    (location.turn query).Returns Turn.InRange := by
  have inRange : (Object.location location).InRange := trivial
  cases query with
  | file =>
      exact location.inRange_expanding fun _ => .bind fun _ => .pure (.optional fun _ _ => trivial)
  | line | column | offset => exact location.inRange_expanding fun _ => .pure trivial
  | debug => exact location.inRange_expanding fun _ => .bind fun _ => .pure trivial
  | cursor =>
      exact Object.inRange_steady inRange (.bind fun _ => .pure (.optional fun _ _ => trivial))
  | _ => exact Object.inRange_steady inRange (.bind fun _ => .pure trivial)

theorem Chunk.inRange_turn (chunk : Chunk) (query : ChunkQuery) :
    (chunk.turn query).Returns Turn.InRange := by
  have inRange : (Object.chunk chunk).InRange := trivial
  cases query with
  | spelling | kind => exact .bind fun _ => .pure ⟨trivial, by rintro _ ⟨⟩; trivial⟩
  | nested =>
      exact Object.inRange_steady inRange (.bind fun _ => .pure (.optional fun _ _ => trivial))
  | debug => exact .bind fun _ => .bind fun _ => .pure ⟨trivial, by rintro _ ⟨⟩; trivial⟩

theorem Walk.inRange_turn (walk : Walk) (query : WalkQuery) :
    (walk.turn query).Returns Turn.InRange := by
  cases query with
  | next =>
      refine .bind fun result => .pure ⟨trivial, ?_⟩
      obtain ⟨walk, fault | node⟩ := result <;> rintro _ ⟨⟩
      exact .optional fun _ _ => trivial
  | rest =>
      refine .bind fun result => .pure ⟨trivial, ?_⟩
      obtain ⟨walk, fault | nodes⟩ := result <;> rintro _ ⟨⟩
      exact .list fun _ _ => trivial

namespace Object

theorem inRange_turn? {object : Object} {name : String} {args : Json} {act : Act Turn}
    (inRange : object.InRange) (found : object.turn? name args = some act) :
    act.Returns Turn.InRange := by
  cases object with
  | cursor held =>
      obtain ⟨query, -, rfl⟩ := Option.map_eq_some_iff.1 found
      exact inRange_steady inRange (held.inRange_answer query)
  | completion held =>
      obtain ⟨query, -, rfl⟩ := Option.map_eq_some_iff.1 found
      exact inRange_steady inRange (held.inRange_answer query)
  | tokens held =>
      obtain ⟨query, -, rfl⟩ := Option.map_eq_some_iff.1 found
      exact TokenStream.inRange_turn inRange query
  | walk held =>
      obtain ⟨query, -, rfl⟩ := Option.map_eq_some_iff.1 found
      exact held.inRange_turn query
  | location held =>
      obtain ⟨query, -, rfl⟩ := Option.map_eq_some_iff.1 found
      exact held.inRange_turn query
  | chunk held =>
      obtain ⟨query, -, rfl⟩ := Option.map_eq_some_iff.1 found
      exact held.inRange_turn query
  | _ =>
      obtain ⟨query, -, rfl⟩ := Option.map_eq_some_iff.1 found
      refine inRange_steady inRange ?_
      cases query <;> first
        | exact .pure trivial
        | exact .bind fun _ => .pure trivial
        | exact .bind fun _ => .pure (.optional fun _ _ => trivial)
        | exact .bind fun _ => .pure (.list fun _ _ => trivial)

theorem inRange_pairTurn? {first second : Object} {query : PairQuery} {act : Act Turn}
    (inRange : second.InRange) (found : first.pairTurn? second query = some act) :
    act.Returns Turn.InRange := by
  unfold pairTurn? at found
  split at found <;> cases found
  -- Tokens in a range are a stream of their own.
  case h_9 held other =>
    refine inRange_steady inRange (Returns.after (Q := fun stream => (Object.tokens stream).InRange)
      ?_ fun _ sound => .pure sound)
    unfold SourceUnit.tokens
    split
    next => exact .bind fun _ => .fail _
    next => exact TokenStream.inRange_make _ _
  -- A comparison with the ends of a range leaves its location expanded.
  case h_7 held point =>
    refine .bind fun expansion => .bind fun inside => ?_
    have learnt : (Object.location { point with expansion := some expansion }).InRange := trivial
    refine (inRange_become learnt).after fun changed still => .pure ⟨still, ?_⟩
    rintro _ ⟨⟩
    trivial
  all_goals first
    | exact inRange_steady inRange (.pure trivial)
    | exact inRange_steady inRange (.bind fun _ => .pure trivial)

end Object

/-! ## States -/

namespace State

/-- Whether all objects in slots are within range. -/
def InRange (state : State) : Prop :=
  ∀ slot ∈ state.slots, slot.2.InRange

variable {setting : Setting} {state : State}

theorem inRange_sessionQuery? {name : String} {args : Json} {act : Act Answer}
    (found : sessionQuery? name args = some act) : act.Returns Answer.InRange := by
  unfold sessionQuery? at found
  split at found <;> cases found <;> exact .bind fun _ => .pure trivial

/-- A turn of objects in slots gives back objects within range. -/
theorem InRange.poses (inRange : state.InRange) {name slot slot' : String} {args : Json}
    {other : Option String} {act : Act Turn} (poses : state.Poses name args slot other slot' act) :
    act.Returns Turn.InRange := by
  have held {slot : String} {object : Object} (here : state.slots.get? slot = some object) :
      object.InRange := inRange _ (Slots.mem_of_get? here)
  cases poses with
  | clone here _ =>
      refine Object.inRange_steady (held here) ?_
      exact (Returns.keep (held here)).map fun _ sound => sound
  | alone here turns => exact Object.inRange_turn? (held here) turns
  | pair _ here _ turns => exact Object.inRange_pairTurn? (held here) turns

end State

theorem Answer.InRange.each {answer : Answer} (inRange : answer.InRange) :
    answer.Each Object.InRange := by
  cases answer <;> exact inRange

/-- Objects of a session are within range. -/
theorem Session.Reached.inRange {setting : Setting} {begin state : State}
    (reached : Session.Reached setting begin state) : state.InRange := by
  refine reached.each_slot (fun _ inRange _ _ _ _ _ _ poses => ?_) fun found => ?_
  · intro t v ran
    have sound := State.InRange.poses inRange poses _ _ _ _ ran
    exact ⟨sound.receiver, fun answer same => (sound.outcome answer same).each⟩
  · exact fun _ _ _ _ ran => (State.inRange_sessionQuery? found _ _ _ _ ran).each

end SourceAtlas
