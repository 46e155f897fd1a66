import SourceAtlas.Proofs.Hearing
import SourceAtlas.Proofs.Lifetimes
import SourceAtlas.Proofs.Provenance
import SourceAtlas.Proofs.Sharing
import SourceAtlas.Proofs.Walks

/-!
# Batches of tokens

A stream yields the tokens of its batch one after the other, and says how many are left. At its end
it lets the batch go. The batch is given back as a whole when no slot holds the stream or a token of
it any more, whatever became of the unit that it was taken from.
-/

namespace SourceAtlas

open Act

variable {setting : Setting} {w : World}

/-! ## Streams -/

/-- A token of a batch by its position. -/
def TokenBatch.token? (batch : TokenBatch) (k : Nat) : Option Token :=
  if k < batch.tokens.length then some ⟨batch, k⟩ else none

namespace TokenStream

/-- How many tokens there are; none without a batch. -/
def size (batch : Option TokenBatch) : Nat :=
  batch.elim 0 (·.tokens.length)

/-- A new stream after it was asked for its next token some number of times. When it was asked in
vain, it has let its batch go. -/
def asked (batch : Option TokenBatch) (times : Nat) : TokenStream :=
  ⟨if times ≤ size batch then batch else none, min times (size batch)⟩

variable {batch : Option TokenBatch} {times : Nat}

theorem asked_zero (batch : Option TokenBatch) : asked batch 0 = ⟨batch, 0⟩ := by
  simp [asked]

theorem asked_within {batch : TokenBatch} (within : times ≤ batch.tokens.length) :
    asked (some batch) times = ⟨some batch, times⟩ := by
  simp [asked, size, within]

/-- A stream that was asked in vain is at its end. -/
theorem asked_over (past : size batch < times) : asked batch times = ⟨none, size batch⟩ := by
  simp [asked, Nat.not_le.2 past, Nat.min_eq_right (Nat.le_of_lt past)]

theorem asked_none (times : Nat) : asked none times = ⟨none, 0⟩ := by
  simp [asked, size]

theorem remaining_asked (batch : Option TokenBatch) (times : Nat) :
    (asked batch times).remaining = size batch - times := by
  cases batch with
  | none =>
      rw [asked_none]
      exact (Nat.zero_sub times).symm
  | some batch =>
      by_cases past : size (some batch) < times
      · rw [asked_over past, Nat.sub_eq_zero_of_le (Nat.le_of_lt past)]
        rfl
      · rw [asked_within (Nat.not_lt.1 past)]
        rfl

theorem token?_eq_none : batch.bind (·.token? times) = none ↔ size batch ≤ times := by
  cases batch with
  | none => simp [size]
  | some batch => simp [size, TokenBatch.token?]

/-- A stream yields the tokens of its batch in order, and then none. -/
theorem exec_advance (batch : Option TokenBatch) (times : Nat) (w : World) :
    ∃ v, (asked batch times).advance.exec setting w =
      (.ok (asked batch (times + 1), batch.bind (·.token? times)), v) := by
  cases batch with
  | none =>
      rw [asked_none, asked_none]
      exact ⟨w, rfl⟩
  | some batch =>
      simp only [Option.bind_some, TokenBatch.token?]
      rcases Nat.lt_trichotomy times batch.tokens.length with more | rfl | past
      · rw [asked_within (Nat.le_of_lt more), asked_within more, if_pos more]
        simp only [advance, if_pos more]
        exact ⟨_, rfl⟩
      · have past : size (some batch) < batch.tokens.length + 1 := Nat.lt_succ_self _
        rw [asked_within (Nat.le_refl _), asked_over past, if_neg (Nat.lt_irrefl _)]
        simp only [advance, if_neg (Nat.lt_irrefl _)]
        exact ⟨_, rfl⟩
      · rw [asked_over past, asked_over (Nat.lt_succ_of_lt past), if_neg (Nat.lt_asymm past)]
        exact ⟨w, rfl⟩

/-- With turns enough, a stream yields all that is left. -/
theorem exec_loop_asked (turns : Nat) (batch : Option TokenBatch) (times : Nat)
    (taken : List Token) (enough : size batch - times < turns) (w : World) :
    ∃ tokens v, (drain.loop turns (asked batch times) taken).exec setting w =
        (.ok (asked batch (size batch + 1), taken.reverse ++ tokens), v) ∧
      ∀ i, tokens[i]? = batch.bind (·.token? (times + i)) := by
  induction turns generalizing times taken w with
  | zero => exact absurd enough (Nat.not_lt_zero _)
  | succ turns ih =>
      obtain ⟨v, advanced⟩ := exec_advance batch times w
      unfold drain.loop
      rw [exec_bind_ok advanced]
      cases found : batch.bind (·.token? times) with
      | none =>
          have ended := token?_eq_none.1 found
          have still : asked batch (times + 1) = asked batch (size batch + 1) := by
            rw [asked_over (Nat.lt_succ_of_le ended), asked_over (Nat.lt_succ_self _)]
          refine ⟨[], v, ?_, fun i => ?_⟩
          · rw [still, List.append_nil]
            rfl
          · rw [token?_eq_none.2 (Nat.le_add_right_of_le ended)]
            rfl
      | some token =>
          have more : times < size batch := by
            by_contra past
            rw [token?_eq_none.2 (Nat.not_lt.1 past)] at found
            exact nomatch found
          obtain ⟨tokens, u, ran, each⟩ := ih (times + 1) (token :: taken) (by omega) v
          refine ⟨token :: tokens, u, ?_, fun i => ?_⟩
          · simpa using ran
          · cases i with
            | zero => exact found.symm
            | succ i =>
                rw [List.getElem?_cons_succ, each, Nat.add_right_comm]
                rfl

theorem exec_drain_asked (batch : Option TokenBatch) (times : Nat) (w : World) :
    ∃ tokens v, (asked batch times).drain.exec setting w =
        (.ok (asked batch (size batch + 1), tokens), v) ∧
      ∀ i, tokens[i]? = batch.bind (·.token? (times + i)) :=
  exec_loop_asked _ batch times [] (by rw [remaining_asked]; exact Nat.lt_succ_self _) w

end TokenStream

/-! ## Sessions with a stream -/

/-- Whether a query for the next element of what is in a slot gives a token, or none. -/
def Walk.Call.Hands (setting : Setting) (slot : String) (call : Walk.Call) (out : Option Token) :
    Prop :=
  (∃ next v, call.before.ask setting (some slot) none call.target call.args "next" =
    State.finish setting call.target
      { call.before with world := v, slots := call.before.slots.set slot (.tokens next) }
      (.ok (.optional .token out))) ∧
  ∀ token ∈ out, ∀ place ∈ call.target,
    (call.after setting slot).slots.get? place = some (.token token)

/-- What has come of a new stream that was asked for its next token now and then. -/
structure Session.Streamed (setting : Setting) (slot : String) (batch : Option TokenBatch)
    (calls : List Walk.Call) (state : State) : Prop where
  found : state.slots.get? slot = some (.tokens (.asked batch calls.length))
  /-- It has yielded the tokens of the batch in order, and then none. -/
  hands : ∀ k (call : Walk.Call), calls[k]? = some call →
    call.Hands setting slot (batch.bind (·.token? k))
  /-- It says how many tokens are left. -/
  length : ∀ target args, (state.ask setting (some slot) none target args "len").2 =
    .shown (.nat (TokenStream.size batch - calls.length))
  sizeHint : ∀ target args, (state.ask setting (some slot) none target args "size_hint").2 =
    .shown (.arr [.nat (TokenStream.size batch - calls.length),
      .nat (TokenStream.size batch - calls.length)])
  /-- All that is left comes when it is asked for at once. -/
  rest : ∀ target args, ∃ tokens next v, state.ask setting (some slot) none target args "rest" =
      State.finish setting target
        { state with world := v, slots := state.slots.set slot (.tokens next) }
        (.ok (.list .token tokens)) ∧
    (∀ i, tokens[i]? = batch.bind (·.token? (calls.length + i))) ∧ next.batch = none

namespace State

variable {state : State} {slot : String} {target : Option String} {args : Json} {name : String}
variable {stream : TokenStream}

/-- What a stream does when it is asked is what becomes of the slot and of the answer. -/
theorem ask_stream {query : TokensQuery} {next : TokenStream} {answer : Answer} {v : World}
    (found : state.slots.get? slot = some (.tokens stream))
    (named : TokensQuery.ofName? name = some query)
    (ran : (stream.turn query).exec setting state.world = (.ok ⟨.tokens next, .ok answer⟩, v)) :
    state.ask setting (some slot) none target args name =
      finish setting target { state with world := v, slots := state.slots.set slot (.tokens next) }
        (.ok answer) := by
  have turns : (Object.tokens stream).turn? name args = some (stream.turn query) := by
    simp only [Object.turn?, named, Option.map_some]
  have other : name ≠ "clone" := by
    rintro rfl
    cases named
  rw [ask_alone found other turns, turn_ok ran]

theorem ask_next_token {next : TokenStream} {out : Option Token} {v : World}
    (found : state.slots.get? slot = some (.tokens stream))
    (ran : stream.advance.exec setting state.world = (.ok (next, out), v)) :
    state.ask setting (some slot) none target args "next" =
      finish setting target { state with world := v, slots := state.slots.set slot (.tokens next) }
        (.ok (.optional .token out)) := by
  have turned : (stream.turn .next).exec setting state.world =
      (.ok ⟨.tokens next, .ok (.optional .token out)⟩, v) := exec_bind_ok ran
  exact ask_stream found rfl turned

theorem ask_rest_tokens {next : TokenStream} {tokens : List Token} {v : World}
    (found : state.slots.get? slot = some (.tokens stream))
    (ran : stream.drain.exec setting state.world = (.ok (next, tokens), v)) :
    state.ask setting (some slot) none target args "rest" =
      finish setting target { state with world := v, slots := state.slots.set slot (.tokens next) }
        (.ok (.list .token tokens)) := by
  have turned : (stream.turn .rest).exec setting state.world =
      (.ok ⟨.tokens next, .ok (.list .token tokens)⟩, v) := exec_bind_ok ran
  exact ask_stream found rfl turned

/-- Only to go on changes a stream. -/
theorem ask_stream_still (found : state.slots.get? slot = some (.tokens stream))
    {query : TokensQuery} (named : TokensQuery.ofName? name = some query)
    (still : query ≠ .next ∧ query ≠ .rest) :
    ∃ value, state.ask setting (some slot) none target args name =
      finish setting target { state with slots := state.slots.set slot (.tokens stream) }
        (.ok (.plain value)) := by
  cases query with
  | next => exact absurd rfl still.1
  | rest => exact absurd rfl still.2
  | length | sizeHint | debug => exact ⟨_, ask_stream found named rfl⟩

end State

/-- A query that lets a stream be leaves it as it was. -/
theorem Aside.kept_stream (setting : Setting) {state : State} {slot : String}
    {receiver other target : Option String} {args : Json} {name : String}
    (aside : Aside slot receiver other target args name) {stream : TokenStream}
    (found : state.slots.get? slot = some (.tokens stream)) :
    (state.ask setting receiver other target args name).1.slots.get? slot =
      some (.tokens stream) := by
  by_cases turned : receiver = some slot ∧ other = none ∧
      ∃ query, TokensQuery.ofName? name = some query
  · obtain ⟨rfl, rfl, query, named⟩ := turned
    obtain ⟨next, rest⟩ := aside.asked rfl rfl
    have still : query ≠ .next ∧ query ≠ .rest := by
      unfold TokensQuery.ofName? at named
      split at named <;> cases named <;> first
        | exact absurd rfl next
        | exact absurd rfl rest
        | exact ⟨nofun, nofun⟩
    obtain ⟨value, asked⟩ := State.ask_stream_still found named still
    rw [asked, State.get?_finish _ aside.stored]
    exact Slots.get?_set ..
  · refine (State.get?_ask setting state ?_ aside.dropped aside.stored).trans found
    rintro receiver slot' act rfl poses rfl
    obtain ⟨rfl, rfl, turns⟩ := poses.alone_of found rfl
    obtain ⟨query, named, -⟩ := Option.map_eq_some_iff.1 turns
    exact turned ⟨rfl, rfl, query, named⟩

namespace Session.Walking

variable {slot : String} {batch : Option TokenBatch} {calls : List Walk.Call} {start state : State}

/-- However a session goes on, a stream is where the number of questions has led it. -/
theorem found_stream (walking : Session.Walking setting slot start calls state)
    (found : start.slots.get? slot = some (.tokens ⟨batch, 0⟩)) :
    state.slots.get? slot = some (.tokens (.asked batch calls.length)) ∧
      ∀ k (call : Walk.Call), calls[k]? = some call →
        call.Hands setting slot (batch.bind (·.token? k)) := by
  induction walking with
  | start => exact ⟨by rw [found, List.length_nil, TokenStream.asked_zero], nofun⟩
  | @next calls state target args _ spares ih =>
      obtain ⟨here, hands⟩ := ih
      obtain ⟨v, ran⟩ := TokenStream.exec_advance batch calls.length state.world
      have asked : state.ask setting (some slot) none target args "next" = _ :=
        State.ask_next_token here ran
      refine ⟨?_, fun k call given => ?_⟩
      · rw [asked, State.get?_finish _ spares, List.length_append]
        exact Slots.get?_set ..
      · rcases Nat.lt_or_ge k calls.length with before | last
        · rw [List.getElem?_append_left before] at given
          exact hands k call given
        · rw [List.getElem?_append_right last, List.getElem?_singleton] at given
          split at given
          next first =>
            obtain rfl := Option.some.inj given
            obtain rfl : k = calls.length := by omega
            refine ⟨⟨_, v, asked⟩, fun token yielded place stored => ?_⟩
            obtain rfl : target = some place := stored
            show (state.ask setting (some slot) none (some place) args "next").1.slots.get? place = _
            rw [asked, Option.mem_def.1 yielded]
            exact Slots.get?_set ..
          next => exact nomatch given
  | aside _ aside ih => exact ⟨aside.kept_stream setting ih.1, ih.2⟩
  | report _ ih | thread _ _ _ ih => exact ih

theorem streamed (walking : Session.Walking setting slot start calls state)
    (found : start.slots.get? slot = some (.tokens ⟨batch, 0⟩)) :
    Session.Streamed setting slot batch calls state := by
  obtain ⟨here, hands⟩ := walking.found_stream found
  refine ⟨here, hands, fun target args => ?_, fun target args => ?_, fun target args => ?_⟩
  · have named : TokensQuery.ofName? "len" = some .length := rfl
    rw [State.ask_stream here named rfl, TokenStream.remaining_asked]
    rfl
  · have named : TokensQuery.ofName? "size_hint" = some .sizeHint := rfl
    rw [State.ask_stream here named rfl, TokenStream.remaining_asked]
    rfl
  · obtain ⟨tokens, v, ran, each⟩ :=
      TokenStream.exec_drain_asked batch calls.length state.world
    refine ⟨tokens, _, v, State.ask_rest_tokens here ran, each, ?_⟩
    rw [TokenStream.asked_over (Nat.lt_succ_self _)]

end Session.Walking

/-! ## Tokens -/

/-- A call of the engine, if an event is one. -/
def Event.call? : Event → Option Event
  | .asked question operands memo => some (.asked question operands memo)
  | .requested request => some (.requested request)
  | _ => none

theorem World.calls_tell (text : EngineText) (w : World) : w.Utters Event.call? [] (w.tell text) :=
  .of_events [.textReturned w.texts, .textCopied w.texts _, .textTaken w.texts text] rfl rfl

theorem World.calls_retainAll (cells : CellRefs) (w : World) :
    w.Utters Event.call? [] (w.retainAll cells) :=
  .of_events [] (by rw [World.retainAll_eq]; rfl) rfl

theorem Cursor.calls_ofRaw? (raw : Raw Ref) (unit : SourceUnit) (w : World) :
    ∃ found v, (Cursor.ofRaw? raw unit).exec setting w = (.ok found, v) ∧
      w.Utters Event.call? [] v := by
  unfold Cursor.ofRaw?
  split
  · have made : (Cursor.make raw unit none).exec setting w = _ := exec_make raw unit none
    rw [← bind_pure_comp, exec_bind_ok made]
    have allocated : w.Utters Event.call? [] (w.alloc none (.memo {})).1 := .of_events [] rfl rfl
    exact ⟨_, _, rfl, allocated.hush (World.calls_retainAll _ _)⟩
  · exact ⟨_, w, rfl, .refl w⟩

/-- What the engine is asked about a token because of a query. -/
def TokenQuery.questions : TokenQuery → List (Nat → Question)
  | .spelling => [.tokenSpelling]
  | .kind => [.tokenKind]
  | .location => [.tokenLocation]
  | .extent => [.tokenExtent]
  | .cursor => [.tokenCursor]
  | .debug => [.tokenKind, .tokenSpelling]

namespace Token

variable (token : Token)

/-- The call for a question about a token. -/
def call (question : Nat → Question) : Event :=
  .asked (question token.position) [token.batch.unit.resource, token.batch.resource] none

/-- The calls for a query of a token. -/
def calls (query : TokenQuery) : List Event :=
  query.questions.map token.call

theorem exec_ask (question : Nat → Question) (loaded : w.loaded = true) :
    (token.ask question).exec setting w = (.ok token.entry, w.note (token.call question)) :=
  exec_bind_ok (Act.exec_ask _ _ _ loaded)

theorem exec_kind (loaded : w.loaded = true) :
    token.kind.exec setting w = (.ok (.ofRaw token.entry.kind), w.note (token.call .tokenKind)) :=
  exec_bind_ok (token.exec_ask .tokenKind loaded)

theorem exec_spelling (loaded : w.loaded = true) :
    token.spelling.exec setting w = (.ok token.entry.spelling.decoded,
      (w.note (token.call .tokenSpelling)).tell token.entry.spelling) :=
  exec_bind_ok (token.exec_ask .tokenSpelling loaded)

theorem utters_call (question : Nat → Question) (w : World) :
    w.Utters Event.call? [token.call question] (w.note (token.call question)) :=
  have heard : (token.call question).call? = some (token.call question) := rfl
  .note heard w

/-- A query of a token calls the engine for this token of the batch, and for nothing else. -/
theorem exec_answer (query : TokenQuery) (loaded : w.loaded = true) :
    ∃ answer v, (token.answer query).exec setting w = (.ok answer, v) ∧
      w.Utters Event.call? (token.calls query) v := by
  cases query with
  | spelling =>
      exact ⟨_, _, exec_bind_ok (token.exec_spelling loaded),
        (token.utters_call _ w).hush (World.calls_tell _ _)⟩
  | kind => exact ⟨_, _, exec_bind_ok (token.exec_kind loaded), token.utters_call _ w⟩
  | location =>
      have ran : (token.ask .tokenLocation).exec setting w = _ := token.exec_ask _ loaded
      exact ⟨_, _, exec_bind_ok (exec_bind_ok ran),
        (token.utters_call _ w).hush (World.calls_retainAll _ _)⟩
  | extent =>
      have ran : (token.ask .tokenExtent).exec setting w = _ := token.exec_ask _ loaded
      exact ⟨_, _, exec_bind_ok (exec_bind_ok ran),
        (token.utters_call _ w).hush (World.calls_retainAll _ _)⟩
  | cursor =>
      have ran : (token.ask .tokenCursor).exec setting w = _ := token.exec_ask _ loaded
      obtain ⟨found, v, made, silent⟩ := Cursor.calls_ofRaw?
        ⟨token.entry.cursor, token.batch.unit.resource⟩ token.batch.unit
        (w.note (token.call .tokenCursor))
      have cursor : token.cursor.exec setting w = (.ok found, v) := (exec_bind_ok ran).trans made
      exact ⟨_, _, exec_bind_ok cursor, (token.utters_call _ w).hush silent⟩
  | debug =>
      have loaded' : (w.note (token.call .tokenKind)).loaded = true := loaded
      have ran : token.inspect.exec setting w = _ :=
        (exec_bind_ok (token.exec_kind loaded)).trans (exec_bind_ok (token.exec_spelling loaded'))
      exact ⟨_, _, exec_bind_ok ran, ((token.utters_call _ w).trans (token.utters_call _ _)).hush
        (World.calls_tell _ _)⟩

/-- The calls for a query of what is in a slot, alone or together with another slot. -/
def callsFor (other : Option String) (name : String) : List Event :=
  if other.isSome then [] else (TokenQuery.ofName? name).elim [] token.calls

end Token

namespace State

variable {state : State} {slot : String} {target : Option String} {args : Json} {token : Token}

theorem calls_finish (target : Option String) (state : State) (outcome : Except Fault Answer) :
    state.world.Utters Event.call? [] (finish setting target state outcome).1.world := by
  cases outcome with
  | ok answer => exact .sheds (fun _ => rfl) (state.sheds_settle target answer)
  | error fault => exact .refl _

/-- A token is asked alone: to be cloned, or about itself. -/
theorem Poses.of_token {slot' : String} {act : Act Turn} {other : Option String} {name : String}
    (poses : state.Poses name args slot other slot' act)
    (found : state.slots.get? slot = some (.token token)) :
    other = none ∧ (name = "clone" ∨ (TokenQuery.ofName? name).isSome) := by
  cases poses with
  | clone _ cloned _ => exact ⟨rfl, .inl cloned⟩
  | alone here turns =>
      obtain rfl := Option.some.inj (here.symm.trans found)
      obtain ⟨query, named, -⟩ := Option.map_eq_some_iff.1 turns
      exact ⟨rfl, .inr (Option.isSome_of_eq_some named)⟩
  | pair here _ _ turns =>
      obtain rfl := Option.some.inj (here.symm.trans found)
      unfold Object.pairTurn? at turns
      split at turns <;> contradiction

theorem ask_token {query : TokenQuery} {name : String} {answer : Answer} {v : World}
    (found : state.slots.get? slot = some (.token token))
    (named : TokenQuery.ofName? name = some query)
    (ran : (token.answer query).exec setting state.world = (.ok answer, v)) :
    state.ask setting (some slot) none target args name =
      finish setting target { state with world := v, slots := state.slots.set slot (.token token) }
        (.ok answer) := by
  have turns : (Object.token token).turn? name args =
      some ((Object.token token).steady (token.answer query)) := by
    simp only [Object.turn?, named, Option.map_some]
  have other : name ≠ "clone" := by
    rintro rfl
    cases named
  have turned : ((Object.token token).steady (token.answer query)).exec setting state.world =
      (.ok ⟨.token token, .ok answer⟩, v) := exec_bind_ok ran
  rw [ask_alone found other turns, turn_ok turned]

/-- Whatever a slot with a token is asked, the engine is called for this token only. -/
theorem calls_token (found : state.slots.get? slot = some (.token token))
    (loaded : state.world.loaded = true) (other target : Option String) (args : Json)
    (name : String) :
    state.world.Utters Event.call? (token.callsFor other name)
      (state.ask setting (some slot) other target args name).1.world := by
  by_cases understood : other = none ∧ (name = "clone" ∨ (TokenQuery.ofName? name).isSome)
  · obtain ⟨rfl, rfl | known⟩ := understood
    · rw [ask_clone found rfl]
      exact (World.calls_retainAll _ _).hush (calls_finish ..)
    · obtain ⟨query, named⟩ := Option.isSome_iff_exists.1 known
      obtain ⟨answer, v, ran, heard⟩ := token.exec_answer query loaded
      have calls : token.callsFor none name = token.calls query := by
        simp only [Token.callsFor, named]
        rfl
      rw [ask_token found named ran, calls]
      exact heard.hush (calls_finish ..)
  · have calls : token.callsFor other name = [] := by
      unfold Token.callsFor
      split
      next => rfl
      next alone =>
        have unknown : TokenQuery.ofName? name = none := by
          by_contra known
          exact understood ⟨Option.not_isSome_iff_eq_none.1 alone,
            .inr (Option.isSome_iff_ne_none.2 known)⟩
        rw [unknown]
        rfl
    rw [calls]
    show state.world.Utters _ [] (state.askSlot setting name slot other target args).1.world
    rcases askSlot_cases setting state name slot other target args with
      ⟨slot', act, poses, -⟩ | ⟨reply, asked, -⟩
    · exact absurd (poses.of_token found) understood
    · rw [asked]
      exact .refl _

end State

/-! ## Batches -/

/-- The tokens that the engine finds in a span of a unit. -/
def World.tokensIn (setting : Setting) (w : World) (unit : SourceUnit) (span : Span) :
    List TokenEntry :=
  setting.engine.tokensIn (w.table unit.resource) span

/-- Whether a batch is what the engine hands out for some tokens; none if there are no tokens. -/
inductive TokenBatch.Handed (unit : SourceUnit) (tokens : List TokenEntry) :
    Option TokenBatch → List Resource → Prop
  | none : tokens = [] → Handed unit tokens none []
  | some {batch : TokenBatch} : tokens ≠ [] → batch.unit = unit → batch.tokens = tokens →
      batch.resource.kind = .tokens → batch.resource.label = tokens.length →
      Handed unit tokens (some batch) [batch.resource]

/-- A batch is acquired if there are tokens, and a stream begins at its first one. -/
theorem TokenStream.exec_make (setting : Setting) (unit : SourceUnit) (range : Raw Span)
    (loaded : w.loaded = true) :
    ∃ batch taken v, (make unit range).exec setting w = (.ok ⟨batch, 0⟩, v) ∧
      TokenBatch.Handed unit (w.tokensIn setting unit range.value) batch taken ∧
      w.Utters Event.taken? taken v := by
  unfold make
  rw [exec_bind_ok (Act.exec_ask _ _ _ loaded), exec_bind_ok exec_engine,
    exec_bind_ok (exec_table _)]
  have silent : w.Utters Event.taken? []
      (w.note (.asked (.tokenize range.value) [unit.resource, range.origin] none)) :=
    .of_events [_] rfl rfl
  dsimp only
  split
  next empty => exact ⟨none, [], _, rfl, .none (List.isEmpty_iff.1 empty), silent⟩
  next some =>
    refine ⟨_, _, _, rfl, .some (fun none => some (List.isEmpty_iff.2 none)) rfl rfl rfl rfl, ?_⟩
    refine silent.trans (.of_events [.acquired _] ?_ rfl)
    show (World.retainAll _ _).trace = _
    rw [World.retainAll_eq]
    rfl

/-- Nothing is acquired when the engine is asked for the source text of a cursor. -/
theorem Cursor.takes_extent (k : Cursor) (loaded : w.loaded = true) :
    w.Utters Event.taken? [] (k.extent.exec setting w).2 := by
  unfold extent
  rw [exec_memoized]
  split
  next => exact .refl w
  next =>
    have raw : (k.raw.derive .cursorExtent (fun engine c => (engine.cursor c).extent) k.memo).exec
        setting w = _ := exec_bind_ok (k.raw.exec_ask _ _ _ loaded)
    rw [exec_bind_ok (exec_bind_ok raw)]
    have asked : w.Utters Event.taken? []
        (w.note (.asked .cursorExtent [k.raw.origin] k.memo)) := .of_events [_] rfl rfl
    have kept (v : World) (cells : CellRefs) : v.Utters Event.taken? [] (v.retainAll cells) :=
      .of_events [] (by rw [World.retainAll_eq]; rfl) rfl
    exact (asked.hush (kept _ _)).hush (utters_remember (fun _ => rfl) _ _ _ _)

/-! ## Who holds a batch -/

/-- The batch that an object holds: a stream that is not at its end, or a token. -/
def Object.batch? : Object → Option TokenBatch
  | .tokens held => held.batch
  | .token held => some held.batch
  | _ => none

/-- The batches that are held in slots. -/
def State.batches (state : State) : List TokenBatch :=
  state.slots.filterMap fun slot => slot.2.batch?

theorem mem_elim_nil {α β : Type} {value : Option α} {f : α → List β} {b : β} :
    b ∈ value.elim [] f ↔ ∃ a ∈ value, b ∈ f a := by
  cases value <;> simp

/-- Only streams and tokens refer to batches. -/
theorem Object.tokens_mem_owners {object : Object} {batch : TokenBatch} :
    .tokens batch ∈ owners object ↔ object.batch? = some batch := by
  cases object <;> simp [batch?, Entity.owners, heldOwners, mem_elim_nil, eq_comm]

theorem State.mem_batches {state : State} {batch : TokenBatch} :
    batch ∈ state.batches ↔ .tokens batch ∈ (owners state.slots.objects : Held) := by
  rw [Multiset.mem_coe]
  constructor
  · intro member
    obtain ⟨slot, there, held⟩ := List.mem_filterMap.1 member
    exact List.mem_flatMap.2 ⟨slot.2, List.mem_map_of_mem there, Object.tokens_mem_owners.2 held⟩
  · intro member
    obtain ⟨object, there, held⟩ := List.mem_flatMap.1 member
    obtain ⟨slot, found, rfl⟩ := List.mem_map.1 there
    exact List.mem_filterMap.2 ⟨slot, found, Object.tokens_mem_owners.1 held⟩

/-- No cell refers to the cell of a batch. -/
theorem Owner.not_mayHold_tokens {o : Owner} {batch : TokenBatch} :
    ¬ o.MayHold (.tokens batch) := by
  intro holds
  cases o with
  | cursor k =>
      rcases holds with same | ⟨c, same, -⟩
      · exact nomatch same
      · exact nomatch same
  | _ =>
      replace holds : Owner.tokens batch ∈ Owner.lenders _ := holds
      simp [lenders] at holds

namespace Inv

variable {engine : Engine} {side : Side} {facts : Facts} {τ : Typing} {held : Held}

/-- The batches that are out are those that are held. -/
theorem tokens_mem_iff (inv : Inv engine side facts τ held w) {r : Resource}
    (kind : r.kind = .tokens) :
    (∃ c, side.first ≤ c ∧ w.resourceAt c = some r) ↔
      ∃ batch, .tokens batch ∈ held ∧ batch.resource = r := by
  constructor
  · rintro ⟨c, here, owned⟩
    obtain ⟨entry, o, found, owns, owner⟩ := Books.owner_of_resourceAt inv.heap here owned
    have same := inv.books.kind owns owner
    rw [kind] at same
    cases o with
    | tokens batch =>
        have cell : batch.cell = c := inv.heap.sound.cell owns
        subst cell
        rcases inv.heap.held_or_referred here found with member | ⟨d, entry', p, there, found', ownsP, ref⟩
        · exact ⟨batch, inv.owner_of_mem_cells owns member, Option.some.inj owner⟩
        · obtain ⟨o, ownsO, holds⟩ := inv.heap.mayHold there found' ownsP ref
          obtain rfl := Option.some.inj (ownsO.symm.trans owns)
          exact absurd holds Owner.not_mayHold_tokens
    | _ => exact nomatch same
  · rintro ⟨batch, member, rfl⟩
    obtain ⟨owns, entry, found, describes⟩ := inv.alive (.held member)
    exact ⟨batch.cell, (inv.heap.within owns).1, (World.resourceAt_eq found).trans describes.1⟩

/-- While a batch is held, it is out, and so is all that it borrows from. -/
theorem isOut_of_tokens (inv : Inv engine side facts τ held w) {batch : TokenBatch}
    (member : .tokens batch ∈ held) :
    IsOut w.trace batch.resource ∧ IsOut w.trace batch.unit.resource ∧
      IsOut w.trace batch.unit.index.resource := by
  have within : Within held (.tokens batch) := .held member
  have unit : Within held (.unit batch.unit) := .lender within (.head _)
  have index : Within held (.index batch.unit.index) := .lender unit (.head _)
  exact ⟨inv.isOut ⟨_, within, rfl⟩, inv.isOut ⟨_, unit, rfl⟩, inv.isOut ⟨_, index, rfl⟩⟩

theorem kind_of_tokens (inv : Inv engine side facts τ held w) {batch : TokenBatch}
    (member : .tokens batch ∈ held) : batch.resource.kind = .tokens :=
  (Option.some.inj (inv.books.kind (inv.owns _ member) rfl)).symm

end Inv

/-! ## Sessions with batches -/

/-- Whether a query has put a new stream into a slot: that of the tokens in a span of a unit, whose
batch has been acquired for it. -/
def State.Tokenizes (setting : Setting) (state : State) (unit : SourceUnit) (span : Span)
    (place : String) (after : State) : Prop :=
  ∃ batch taken, after.slots.get? place = some (.tokens ⟨batch, 0⟩) ∧
    TokenBatch.Handed unit (state.world.tokensIn setting unit span) batch taken ∧
    state.world.Utters Event.taken? taken after.world

namespace State

variable {state : State}

theorem tokenizes_turn {object : Object} {act : Act TokenStream} {unit : SourceUnit} {span : Span}
    {batch : Option TokenBatch} {taken : List Resource} {v : World}
    (ran : act.exec setting state.world = (.ok ⟨batch, 0⟩, v))
    (handed : TokenBatch.Handed unit (state.world.tokensIn setting unit span) batch taken)
    (heard : state.world.Utters Event.taken? taken v) (slot place : String) :
    state.Tokenizes setting unit span place (state.turn setting slot (some place)
      (object.steady (do return .object (.tokens (← act))))).1 := by
  have turned : (object.steady (do return .object (.tokens (← act)))).exec setting state.world =
      (.ok ⟨object, .ok (.object (.tokens ⟨batch, 0⟩))⟩, v) := exec_bind_ok (exec_bind_ok ran)
  rw [turn_ok turned]
  exact ⟨batch, taken, Slots.get?_set .., handed,
    heard.hush (.sheds (fun _ => rfl) (sheds_store ⟨v, _, _⟩ place (.tokens ⟨batch, 0⟩)))⟩

end State

namespace Session.Reached

variable {begin state : State} {r : Resource}

/-- A batch is kept as long as a slot holds it. -/
theorem keeps_batch_iff (reached : Session.Reached setting begin state) (kind : r.kind = .tokens) :
    state.Keeps r ↔ r ∈ state.batches.map (·.resource) := by
  obtain ⟨facts, τ, inv⟩ := reached.inv
  rw [reached.keeps_iff, List.mem_map]
  exact (inv.tokens_mem_iff kind).trans
    (exists_congr fun batch => and_congr_left fun _ => State.mem_batches.symm)

theorem trace_ask (reached : Session.Reached setting begin state)
    (receiver other target : Option String) (args : Json) (name : String) :
    state.world.trace <:+ (state.ask setting receiver other target args name).1.world.trace :=
  (reached.meet_past.ask (Duo.calm_alone _ _ _) receiver other target args name).1.past_suffix

end Session.Reached

/-- What holds of tokens in a state that a thread passes through. -/
structure Session.Batched (setting : Setting) (begin state : State) : Prop where
  /-- A cursor gives the stream of the tokens in its source text. -/
  ofCursor : ∀ slot k, state.slots.get? slot = some (.cursor k) → ∀ place args,
    state.Tokenizes setting k.unit (setting.engine.cursor k.raw.value).extent place
      (state.ask setting (some slot) none (some place) args "tokens").1
  /-- A unit gives the stream of the tokens in a range of its own. -/
  ofUnit : ∀ slot second u range, state.slots.get? slot = some (.unit u) →
    state.slots.get? second = some (.range range) → range.raw.origin = u.resource → ∀ place args,
    state.Tokenizes setting u range.raw.value place
      (state.ask setting (some slot) (some second) (some place) args "tokens_in").1
  streams : ∀ slot batch, state.slots.get? slot = some (.tokens ⟨batch, 0⟩) → ∀ calls after,
    Session.Walking setting slot state calls after →
    Session.Streamed setting slot batch calls after
  /-- Whatever a token is asked, the engine is called for this token of the batch only. -/
  calls : ∀ slot token, state.slots.get? slot = some (.token token) →
    ∀ other target args name, state.world.Utters Event.call? (token.callsFor other name)
      (state.ask setting (some slot) other target args name).1.world
  copies : ∀ slot token, state.slots.get? slot = some (.token token) → ∀ place args,
    (state.ask setting (some slot) none (some place) args "clone").1.slots.get? place =
      some (.token token)
  /-- A batch of the thread is given back if and only if no slot holds it. -/
  disposed : ∀ since, state.world.trace = since ++ begin.world.trace →
    ∀ r, r.kind = .tokens → .acquired r ∈ since →
      (.disposed r ∈ state.world.trace ↔ r ∉ state.batches.map (·.resource))
  /-- The query after which no slot holds it any more is the one that gives it back. -/
  released : ∀ batch ∈ state.batches, ∀ receiver other target args name,
    let after := (state.ask setting receiver other target args name).1
    .disposed batch.resource ∈ after.world.trace ↔
      batch.resource ∉ after.batches.map (·.resource)
  once : ∀ r, state.world.trace.count (.disposed r) ≤ 1
  /-- While a batch is held, its unit and the index of that are out as well. -/
  out : ∀ batch ∈ state.batches, IsOut state.world.trace batch.resource ∧
    IsOut state.world.trace batch.unit.resource ∧
    IsOut state.world.trace batch.unit.index.resource

namespace Session.Reached

variable {begin state : State} {slot place : String} {args : Json}

theorem tokenizes_cursor (reached : Session.Reached setting begin state) {k : Cursor}
    (found : state.slots.get? slot = some (.cursor k)) :
    state.Tokenizes setting k.unit (setting.engine.cursor k.raw.value).extent place
      (state.ask setting (some slot) none (some place) args "tokens").1 := by
  obtain ⟨facts, τ, inv⟩ := reached.inv
  have usable := reached.usable_slot found
  have loaded := reached.loaded found
  obtain ⟨_, v, ran, rfl, τ', inv'⟩ := Cursor.tells_extent
    ⟨usable.coherent, usable.within⟩ facts state.world ⟨τ, inv⟩
  have silent : state.world.Utters Event.taken? [] (k.extent.exec setting state.world).2 :=
    k.takes_extent loaded
  have ran : k.extent.exec setting state.world = _ := ran
  rw [ran] at silent
  rw [Multiset.coe_nil, zero_add] at inv'
  have within : Within (owners state.slots.objects : Held) (.unit k.unit) :=
    usable.within _ (.head _)
  have same : v.table k.unit.resource = state.world.table k.unit.resource :=
    (inv'.table_eq within).trans (inv.table_eq within).symm
  obtain ⟨batch, taken, u, made, handed, heard⟩ := TokenStream.exec_make setting k.unit
    ⟨(setting.engine.cursor k.raw.value).extent, k.raw.origin⟩ (inv'.isLoaded within.ne_zero)
  have all : k.tokens.exec setting state.world = (.ok ⟨batch, 0⟩, u) :=
    (exec_bind_ok ran).trans made
  have tokens : v.tokensIn setting k.unit (setting.engine.cursor k.raw.value).extent =
      state.world.tokensIn setting k.unit (setting.engine.cursor k.raw.value).extent := by
    rw [World.tokensIn, same]
    rfl
  rw [State.ask_alone found (by decide) (by rfl)]
  exact State.tokenizes_turn all (tokens ▸ handed) (silent.trans heard) slot place

theorem tokenizes_unit (reached : Session.Reached setting begin state) {second : String}
    {u : SourceUnit} {range : SourceRange} (found : state.slots.get? slot = some (.unit u))
    (beside : state.slots.get? second = some (.range range))
    (own : range.raw.origin = u.resource) :
    state.Tokenizes setting u range.raw.value place
      (state.ask setting (some slot) (some second) (some place) args "tokens_in").1 := by
  obtain ⟨facts, τ, inv⟩ := reached.inv
  obtain ⟨batch, taken, v, made, handed, heard⟩ :=
    TokenStream.exec_make setting u range.raw (reached.loaded found)
  have unit := reached.usable_slot found
  have usable := reached.usable_slot beside
  have accepted := inv.exec_tokens ⟨unit.coherent, unit.within⟩ ⟨usable.coherent, usable.within⟩
  rw [if_pos own] at accepted
  have all : (u.tokens range).exec setting state.world = (.ok ⟨batch, 0⟩, v) := by
    obtain ⟨stream, v', ran⟩ := accepted
    replace ran : (u.tokens range).exec setting state.world = (.ok stream, v') := ran
    unfold SourceUnit.tokens at ran ⊢
    dsimp only at ran ⊢
    split
    next refused =>
      -- what is refused does not come to an end
      rw [if_pos refused] at ran
      have never (failure : String → Failure) : (do
          let other ← range.unit.spelling
          Act.fail (failure other)
          TokenStream.make u range.raw : Act TokenStream).Returns fun _ => False :=
        .bind fun _ => .after (Q := fun _ => False) (.fail _) fun _ absent => absent.elim
      exact (never _ _ _ _ _ ran).elim
    next => exact made
  have asked : state.ask setting (some slot) (some second) (some place) args "tokens_in" =
      state.turn setting second (some place)
        ((Object.range range).steady (do return .object (.tokens (← u.tokens range)))) := by
    simp only [State.ask, State.askSlot, found, beside]
    rfl
  rw [asked]
  exact State.tokenizes_turn all handed heard second place

end Session.Reached

/-- A stream hands out the tokens of its batch one after another and then nothing more, whatever is
done in between to it or to tokens taken from it, and knows how many are to come; what is asked of a
token is asked of its own place. A batch is taken just if the engine has tokens to hand out, and is
given back once, as soon as neither a stream that has not come to its end nor a token keeps it. -/
theorem tokens_come_in_batches (setting : Setting) {begin state : State}
    (reached : Session.Reached setting begin state) : Session.Batched setting begin state where
  ofCursor _ _ found _ _ := reached.tokenizes_cursor found
  ofUnit _ _ _ _ found beside own _ _ := reached.tokenizes_unit found beside own
  streams _ _ found _ _ walking := walking.streamed found
  calls _ _ found other target args name :=
    State.calls_token found (reached.loaded found) other target args name
  copies slot token found place args := by
    rw [State.ask_clone found rfl]
    exact Slots.get?_set ..
  disposed since trace r kind taken := by
    rw [reached.disposed_iff trace taken, reached.keeps_batch_iff kind]
  released batch held receiver other target args name := by
    intro after
    obtain ⟨facts, τ, inv⟩ := reached.inv
    have kind := inv.kind_of_tokens (State.mem_batches.1 held)
    have reached' : Session.Reached setting begin after := reached.ask ..
    obtain ⟨since, trace⟩ := reached.exists_since
    obtain ⟨newer, grown⟩ := reached.trace_ask receiver other target args name
    have trace' : after.world.trace = (newer ++ since) ++ begin.world.trace := by
      rw [List.append_assoc, ← trace]
      exact grown.symm
    have keeps := (reached.keeps_batch_iff kind).2 (List.mem_map_of_mem held)
    rw [reached'.disposed_iff trace'
      (List.mem_append_right _ (reached.acquired_of_keeps trace keeps)),
      reached'.keeps_batch_iff kind]
  once r := by
    obtain ⟨facts, τ, inv⟩ := reached.inv
    exact inv.books.clean.count_disposed_le_one r
  out batch held := by
    obtain ⟨facts, τ, inv⟩ := reached.inv
    exact inv.isOut_of_tokens (State.mem_batches.1 held)

/-- The only token of a batch keeps it, while the stream has come to its end. -/
theorem tokens_come_in_batches_one :
    let tables : Tables := {
      sources := [{ name := none, unit := some 0 }]
      units := #[{ tokens := [{}] }]
      cursors := #[{ extent := ⟨{}, { offset := 1 }⟩ }] }
    let setting : Setting := ⟨⟨tables, []⟩, true⟩
    let begun := (({} : State).ask setting none none (some "i") .null "create_index").1
    let parsed := (begun.ask setting (some "i") none (some "u") .null "parse").1
    let state := (parsed.ask setting (some "u") none (some "c") .null "cursor").1
    let streamed := (state.ask setting (some "c") none (some "t") .null "tokens").1
    let first := (streamed.ask setting (some "t") none (some "x") .null "next").1
    let last := (first.ask setting (some "t") none none .null "next").1
    ∃ batch, streamed.slots.get? "t" = some (.tokens ⟨some batch, 0⟩) ∧
      first.slots.get? "x" = some (.token ⟨batch, 0⟩) ∧
      (first.ask setting (some "t") none none .null "len").2 = .shown (.nat 0) ∧
      last.slots.get? "t" = some (.tokens ⟨none, 1⟩) ∧
      first.world.Utters Event.call? [.asked (.tokenKind 0) [batch.unit.resource, batch.resource] none]
        (first.ask setting (some "x") none none .null "kind").1.world ∧
      .disposed batch.resource ∉ last.world.trace := by
  intro tables setting begun parsed state streamed first last
  have opened : state = Session.rooted := Session.opens_rooted rfl rfl rfl
  have reached : Session.Reached setting {} state := by
    rw [opened]
    exact .rooted rfl rfl rfl
  have found : state.slots.get? "c" = some (.cursor Session.firstRoot) := by
    rw [opened]
    rfl
  have tokens : state.world.tokensIn setting Session.firstRoot.unit
      (setting.engine.cursor Session.firstRoot.raw.value).extent = [{}] := by
    rw [opened]
    rfl
  obtain ⟨batch, taken, fresh, handed, -⟩ :=
    (tokens_come_in_batches setting reached).ofCursor "c" Session.firstRoot found "t" .null
  rw [tokens] at handed
  generalize listed : ([{}] : List TokenEntry) = entries at handed
  cases handed with
  | none empty => exact absurd (listed.trans empty) (List.cons_ne_nil _ _)
  | @some batch _ _ all _ _ =>
      have size : batch.tokens.length = 1 := by rw [all, ← listed]; rfl
      have reached' : Session.Reached setting {} streamed := reached.ask ..
      have elsewhere : Spares "t" (some "x") := .of_length (by decide) le_rfl
      have one : Session.Walking setting "t" streamed ([] ++ [⟨streamed, some "x", .null⟩]) first :=
        .next (some "x") .null .start elsewhere
      have two : Session.Walking setting "t" streamed _ last :=
        one.next none .null fun _ absent => nomatch absent
      have later (calls : List Walk.Call) (after : State)
          (walking : Session.Walking setting "t" streamed calls after) :
          Session.Streamed setting "t" (some batch) calls after :=
        (tokens_come_in_batches setting reached').streams "t" (some batch) fresh calls after walking
      have token : first.slots.get? "x" = some (.token ⟨batch, 0⟩) := by
        obtain ⟨-, stored⟩ := (later _ _ one).hands 0 _ rfl
        have after : Walk.Call.after setting "t" ⟨streamed, some "x", .null⟩ = first := rfl
        rw [after] at stored
        refine stored ⟨batch, 0⟩ ?_ "x" rfl
        show (if 0 < batch.tokens.length then _ else _) = _
        rw [size]
        rfl
      have first' : Session.Reached setting {} first := reached'.ask ..
      refine ⟨batch, fresh, token, ?_, ?_, ?_, ?_⟩
      · have left := (later _ _ one).length none .null
        rwa [TokenStream.size, Option.elim_some, size] at left
      · have ended := (later _ _ two).found
        rwa [TokenStream.asked_over (by simp [TokenStream.size, size]), TokenStream.size,
          Option.elim_some, size] at ended
      · exact (tokens_come_in_batches setting first').calls "x" _ token none none .null "kind"
      · have last' : Session.Reached setting {} last := first'.ask ..
        have still : last.slots.get? "x" = first.slots.get? "x" := by
          refine State.get?_ask setting first (fun asked slot' act same poses => ?_)
            (fun absent => nomatch absent) (fun _ absent => nomatch absent)
          obtain rfl := Option.some.inj same
          cases poses <;> decide
        refine ((tokens_come_in_batches setting last').out batch ?_).1.2
        exact List.mem_filterMap.2 ⟨_, Slots.mem_of_get? (still.trans token), rfl⟩

end SourceAtlas
