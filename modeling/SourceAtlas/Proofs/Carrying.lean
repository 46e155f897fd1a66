import SourceAtlas.Proofs.Sharing
import SourceAtlas.Proofs.Walks

/-!
# What objects carry with them

A location asks where it is in terms of files, lines and columns once, and carries the answer with it
from then on; so does a chunk of a completion string with its text and its kind. Copies that are taken
later have the answer, and copies that were taken earlier ask for themselves.
-/

namespace SourceAtlas

open Act

variable {setting : Setting} {α β : Type}

/-! ## Questions that are carried -/

/-- The question itself, if what is asked about carries the answer with it. -/
@[reducible] def Question.carried? : Question → Option Question
  | .expansion => some .expansion
  | .chunkText i => some (.chunkText i)
  | .chunkKind i => some (.chunkKind i)
  | _ => none

/-- The question that an event is, if the answer is carried by what is asked about. -/
def Event.carried? : Event → Option Question
  | .asked question _ _ => question.carried?
  | _ => none

/-- The answers that an object carries. -/
def Object.carries : Object → Question → Bool
  | .location l, .expansion => l.expansion.isSome
  | .chunk c, .chunkText i => i == c.position && c.spelling.isSome
  | .chunk c, .chunkKind i => i == c.position && c.kind.isSome
  | _, _ => false

/-- Whether an object has become another one by learning the answers to some questions, which it did not
have before. -/
inductive Object.Learns : Object → List Question → Object → Prop
  | same (object : Object) : Learns object [] object
  | place {l : SourceLocation} (unknown : l.expansion = none) (expansion : Expansion) :
      Learns (.location l) [.expansion] (.location { l with expansion := some expansion })
  | text {c : Chunk} (unknown : c.spelling = none) (spelling : String) :
      Learns (.chunk c) [.chunkText c.position] (.chunk { c with spelling := some spelling })
  | kind {c : Chunk} (unknown : c.kind = none) (kind : CompletionChunkKind) :
      Learns (.chunk c) [.chunkKind c.position] (.chunk { c with kind := some kind })
  | trans {first second third : Object} {earlier later : List Question} :
      Learns first earlier second → Learns second later third →
      Learns first (earlier ++ later) third

/-- What is asked once is known, and not asked again. -/
theorem Object.Learns.count {before after : Object} {asked : List Question}
    (learns : before.Learns asked after) (question : Question) :
    (before.carries question).toNat + asked.count question = (after.carries question).toNat := by
  induction learns with
  | same => rfl
  | place unknown expansion => cases question <;> simp [carries, unknown]
  | @text c unknown spelling =>
      cases question with
      | chunkText i =>
          by_cases same : i = c.position
          · simp [carries, unknown, same]
          · simp [carries, beq_false_of_ne same, Ne.symm same]
      | _ => simp [carries]
  | @kind c unknown kind =>
      cases question with
      | chunkKind i =>
          by_cases same : i = c.position
          · simp [carries, unknown, same]
          · simp [carries, beq_false_of_ne same, Ne.symm same]
      | _ => simp [carries]
  | trans _ _ first second => rw [List.count_append, ← Nat.add_assoc, first, second]

/-! ## What is asked on the way -/

/-- Whether just some questions whose answers are carried are asked, in order. -/
def World.Carries (asked : List Question) (w v : World) : Prop :=
  ∃ events, v.trace = events ++ w.trace ∧ (events.filterMap Event.carried?).reverse = asked

namespace World.Carries

variable {u v w : World} {earlier later : List Question}

theorem talk (events : List Event) (trace : v.trace = events ++ w.trace)
    (silent : events.filterMap Event.carried? = []) : Carries [] w v :=
  ⟨events, trace, by rw [silent]; rfl⟩

theorem refl (w : World) : Carries [] w w :=
  .talk [] rfl rfl

theorem trans (first : Carries earlier w v) (second : Carries later v u) :
    Carries (earlier ++ later) w u := by
  obtain ⟨older, trace, rfl⟩ := first
  obtain ⟨newer, trace', rfl⟩ := second
  exact ⟨newer ++ older, by rw [trace', trace, List.append_assoc],
    by rw [List.filterMap_append, List.reverse_append]⟩

theorem sheds (sheds : w.Sheds v) : Carries [] w v := by
  obtain ⟨events, trace, given⟩ := sheds.trace
  refine .talk events trace (List.filterMap_eq_nil_iff.2 fun event member => ?_)
  obtain ⟨r, rfl⟩ := given event member
  rfl

end World.Carries

namespace Act

/-- An action is guaranteed to succeed on threads where the engine is loaded. -/
def succeeding (setting : Setting) : Guarantee setting where
  Holds x := ∀ w : World, w.loaded = true →
    (∃ a, (x.exec setting w).1 = .ok a) ∧ (x.exec setting w).2.loaded = true
  pure a _ loaded := ⟨⟨a, rfl⟩, loaded⟩
  bind first next w loaded := by
    obtain ⟨⟨a, returned⟩, still⟩ := first w loaded
    rw [exec_bind_ok (Prod.ext returned rfl)]
    exact next w a _ (Prod.ext returned rfl) _ still
  read _ loaded := ⟨⟨_, rfl⟩, loaded⟩
  get _ loaded := ⟨⟨_, rfl⟩, loaded⟩
  ask _ _ _ _ loaded := by
    rw [exec_ask _ _ _ loaded]
    exact ⟨⟨_, rfl⟩, loaded⟩
  takeText _ _ loaded := ⟨⟨_, rfl⟩, loaded⟩
  copyText _ _ _ loaded := ⟨⟨_, rfl⟩, loaded⟩

instance : (succeeding setting).Requesting where
  request _ _ loaded := by
    rw [exec_request _ loaded]
    exact ⟨⟨_, rfl⟩, loaded⟩

instance : (succeeding setting).Counting where
  retain cells w loaded := by
    refine ⟨⟨_, rfl⟩, ?_⟩
    rw [exec_update, World.retainAll_eq]
    exact loaded
  release cells w loaded := ⟨⟨_, rfl⟩, (World.Sheds.release w cells).loaded.trans loaded⟩
  alloc _ _ _ loaded := ⟨⟨_, rfl⟩, loaded⟩
  acquire _ _ _ loaded := ⟨⟨_, rfl⟩, loaded⟩
  dispose _ _ loaded := ⟨⟨_, rfl⟩, loaded⟩
  countIndex _ loaded := ⟨⟨_, rfl⟩, loaded⟩
  countList _ loaded := ⟨⟨_, rfl⟩, loaded⟩
  addUnit _ _ loaded := ⟨⟨_, rfl⟩, loaded⟩

instance : (succeeding setting).Renewing where
  renewUnit _ table _ loaded := by cases table <;> exact ⟨⟨_, rfl⟩, loaded⟩

/-- What is sure to succeed does. -/
theorem exec_succeeding {x : Act α} [covered : (succeeding setting).Covers x] {w : World}
    (loaded : w.loaded = true) :
    ∃ a v, x.exec setting w = (.ok a, v) ∧ v.loaded = true := by
  obtain ⟨⟨a, returned⟩, still⟩ := covered.holds w loaded
  exact ⟨a, _, Prod.ext returned rfl, still⟩

/-- Whether an action asks nothing whose answer is carried. -/
class Avoids (setting : Setting) (x : Act α) : Prop where
  avoids : ∀ w : World, w.Carries [] (x.exec setting w).2

section Avoids

variable {x y : Act α} {f : α → Act β}

theorem Avoids.bind (first : Avoids setting x) (next : ∀ a, Avoids setting (f a)) :
    Avoids setting (x >>= f) := by
  refine ⟨fun w => ?_⟩
  have before := first.avoids w
  rw [exec_bind]
  split
  next a v ran =>
    rw [ran] at before
    exact before.trans ((next a).avoids v)
  next fault v ran => rwa [ran] at before

instance [first : Avoids setting x] [next : ∀ a, Avoids setting (f a)] :
    Avoids setting (x >>= f) :=
  first.bind next

instance (a : α) : Avoids setting (pure a : Act α) := ⟨.refl⟩

instance [Avoids setting x] (g : α → β) : Avoids setting (g <$> x) := by
  rw [← bind_pure_comp]
  infer_instance

instance (c : Prop) [Decidable c] [Avoids setting x] [Avoids setting y] :
    Avoids setting (if c then x else y) := by
  split <;> infer_instance

instance (value : Option α) [each : ∀ a, Avoids setting (f a)] :
    Avoids setting (value.mapM f) := by
  cases value with
  | none => exact inferInstanceAs (Avoids setting (pure none))
  | some a => exact inferInstanceAs (Avoids setting (some <$> f a))

instance : Avoids setting (read : Act Setting) := ⟨.refl⟩

instance : Avoids setting (get : Act World) := ⟨.refl⟩

instance : Avoids setting Act.engine := ⟨.refl⟩

instance (question : Question) [free : IsAbsent question.carried?] (operands : List Resource)
    (memo : Option CellId) : Avoids setting (ask question operands memo) := by
  refine ⟨fun w => ask_leads (R := World.Carries []) .refl w ?_⟩
  exact .talk [.asked question operands memo] rfl (by simp [Event.carried?, free.absent])

instance (told : EngineText) : Avoids setting (text told) :=
  ⟨fun w => .talk (textLife w.texts told) rfl rfl⟩

instance (unit : Resource) : Avoids setting (table unit) := ⟨.refl⟩

instance (failure : Failure) : Avoids setting (fail failure : Act α) := ⟨.refl⟩

instance [Holder α] (value : α) : Avoids setting (keep value) :=
  ⟨fun w => .talk [] (by rw [keep, exec_bind_ok (exec_update _), World.retainAll_eq]; rfl) rfl⟩

instance [Holder α] (value : α) : Avoids setting (drop value) := ⟨fun w => .sheds (.release w _)⟩

end Avoids

end Act

/-! ## Turns -/

/-- What an object has learnt when a turn of it is over; after a fault it is as it was. -/
def Object.LearnsBy (object : Object) (asked : List Question) : Except Fault Turn → Prop
  | .ok t => object.Learns asked t.receiver
  | .error _ => asked = []

/-- Whether an object carries the answers to what is asked in a turn of it. -/
def Object.Taught (engine : Engine) (object : Object) (act : Act Turn) : Prop :=
  ∀ w : World, w.loaded = true → ∃ asked, w.Carries asked (act.exec ⟨engine, true⟩ w).2 ∧
    object.LearnsBy asked (act.exec ⟨engine, true⟩ w).1

variable {engine : Engine} {w : World}

theorem Object.taught_steady (object : Object) (answer : Act Answer)
    [avoids : Avoids ⟨engine, true⟩ answer] : object.Taught engine (object.steady answer) := by
  intro w _
  have before := avoids.avoids w
  refine ⟨[], ?_⟩
  unfold steady
  rw [exec_bind]
  split
  next a v ran =>
    rw [ran] at before
    exact ⟨before, .same object⟩
  next fault v ran =>
    rw [ran] at before
    exact ⟨before, rfl⟩

instance (old new : Object) : Avoids setting (old.become new) := by
  unfold Object.become; infer_instance

namespace SourceFile

variable (file : SourceFile)

instance : Avoids setting file.name := by
  unfold name Raw.askText Raw.ask; infer_instance

end SourceFile

instance (expansion : Expansion) : Avoids setting expansion.inspect := by
  unfold Expansion.inspect Expansion.fileName; infer_instance

namespace Cursor

instance (raw : Raw Ref) (unit : SourceUnit) (parent : Option (Raw Ref)) :
    Avoids setting (make raw unit parent) :=
  ⟨fun w => .talk [] (by rw [exec_make, World.retainAll_eq]; rfl) rfl⟩

instance (raw : Raw Ref) (unit : SourceUnit) : Avoids setting (ofRaw? raw unit) := by
  unfold ofRaw?; infer_instance

end Cursor

namespace SourceLocation

variable (l : SourceLocation)

instance : Avoids setting l.isInSystemHeader := by
  unfold isInSystemHeader Raw.ask; infer_instance

instance : Avoids setting l.isFromMainFile := by
  unfold isFromMainFile Raw.ask; infer_instance

instance : Avoids setting (Cursor.atLocation l) := by
  unfold Cursor.atLocation; infer_instance

/-- A location that does not know where it is asks once. -/
theorem exec_expand_learns (engine : Engine) (loaded : w.loaded = true) :
    ∃ e v events, l.expand.exec ⟨engine, true⟩ w = (.ok e, v) ∧ v.loaded = true ∧
      v.trace = events ++ w.trace ∧
      (events = [] ∨ events = [.asked .expansion [l.raw.origin] none]) ∧
      (l.expansion.isSome → events = []) ∧
      (Object.location l).Learns (events.filterMap Event.carried?).reverse
        (.location { l with expansion := some e }) := by
  unfold expand
  rw [exec_bind_ok exec_read]
  cases known : l.expansion with
  | some e =>
      refine ⟨e, w, [], rfl, loaded, rfl, .inl rfl, fun _ => rfl, ?_⟩
      rw [← known]
      exact .same _
  | none =>
      have asked : (ask .expansion [l.raw.origin]).exec ⟨engine, true⟩ w = _ :=
        exec_ask _ _ _ loaded
      let event : Event := .asked .expansion [l.raw.origin] none
      refine ⟨l.answer, w.note event, [event], ?_, loaded, rfl, .inr rfl, nofun, .place known _⟩
      unfold Raw.ask
      rw [bind_assoc, exec_bind_ok asked]
      rfl

/-- What is told of where a location is may be told of the location itself later. -/
theorem taught_expanding (answer : Expansion → Act Answer)
    [∀ e, (succeeding ⟨engine, true⟩).Covers (answer e)]
    [avoids : ∀ e, Avoids ⟨engine, true⟩ (answer e)] :
    (Object.location l).Taught engine (do
      let expansion ← l.expand
      let answer ← answer expansion
      let changed ← (Object.location l).become (.location { l with expansion := some expansion })
      return ⟨changed, .ok answer⟩) := by
  intro w loaded
  obtain ⟨e, v, events, ran, loaded, trace, -, -, learns⟩ := l.exec_expand_learns engine loaded
  obtain ⟨told, u, ran', -⟩ : ∃ told u, (answer e).exec ⟨engine, true⟩ v = (.ok told, u) ∧ _ :=
    exec_succeeding loaded
  have quiet := (avoids e).avoids v
  rw [ran'] at quiet
  rw [exec_bind_ok ran, exec_bind_ok ran']
  have rest : Avoids ⟨engine, true⟩ (do
      let changed ← (Object.location l).become (.location { l with expansion := some e })
      return (⟨changed, .ok told⟩ : Turn)) := inferInstance
  refine ⟨(events.filterMap Event.carried?).reverse, ?_, learns⟩
  have first : w.Carries (events.filterMap Event.carried?).reverse v := ⟨events, trace, rfl⟩
  simpa using (first.trans quiet).trans (rest.avoids u)

theorem taught_turn (query : LocationQuery) :
    (Object.location l).Taught engine (l.turn query) := by
  cases query with
  | file | line | column | offset | debug => exact l.taught_expanding _
  | isInSystemHeader | isFromMainFile | unit | cursor => exact Object.taught_steady _ _

end SourceLocation

namespace Chunk

variable (c : Chunk)

/-- A chunk that does not know its text asks once. -/
theorem exec_askSpelling_learns (engine : Engine) (loaded : w.loaded = true) :
    ∃ text v asked, c.askSpelling.exec ⟨engine, true⟩ w = (.ok text, v) ∧ v.loaded = true ∧
      w.Carries asked v ∧
      (Object.chunk c).Learns asked (.chunk { c with spelling := some text }) := by
  unfold askSpelling
  rw [exec_bind_ok exec_read]
  cases known : c.spelling with
  | some text =>
      refine ⟨text, w, [], rfl, loaded, .refl w, ?_⟩
      rw [← known]
      exact .same _
  | none =>
      have asked : (ask (.chunkText c.position) [c.string.raw.origin]).exec ⟨engine, true⟩ w = _ :=
        exec_ask _ _ _ loaded
      let event : Event := .asked (.chunkText c.position) [c.string.raw.origin] none
      let told := (engine.chunk c.string.raw.value c.position).text
      refine ⟨told.decoded, (w.note event).tell told, [.chunkText c.position], ?_, loaded,
        ⟨textLife w.texts told ++ [event], rfl, rfl⟩, .text known _⟩
      unfold CompletionString.chunkText Raw.ask
      rw [bind_assoc, exec_bind_ok asked]
      rfl

/-- A chunk that does not know its kind asks once. -/
theorem exec_askKind_learns (engine : Engine) (loaded : w.loaded = true) :
    ∃ kind v asked, c.askKind.exec ⟨engine, true⟩ w = (.ok kind, v) ∧ v.loaded = true ∧
      w.Carries asked v ∧ (Object.chunk c).Learns asked (.chunk { c with kind := some kind }) := by
  unfold askKind
  rw [exec_bind_ok exec_read]
  cases known : c.kind with
  | some kind =>
      refine ⟨kind, w, [], rfl, loaded, .refl w, ?_⟩
      rw [← known]
      exact .same _
  | none =>
      have asked : (ask (.chunkKind c.position) [c.string.raw.origin]).exec ⟨engine, true⟩ w = _ :=
        exec_ask _ _ _ loaded
      let event : Event := .asked (.chunkKind c.position) [c.string.raw.origin] none
      refine ⟨.ofRaw (engine.chunk c.string.raw.value c.position).kind, w.note event,
        [.chunkKind c.position], ?_, loaded, ⟨[event], rfl, rfl⟩, .kind known _⟩
      unfold Raw.ask
      rw [bind_assoc, exec_bind_ok asked]
      rfl

theorem taught_turn (query : ChunkQuery) : (Object.chunk c).Taught engine (c.turn query) := by
  cases query with
  | spelling =>
      intro w loaded
      obtain ⟨text, v, asked, ran, -, carries, learns⟩ := c.exec_askSpelling_learns engine loaded
      have turned : (c.turn .spelling).exec ⟨engine, true⟩ w =
          (.ok ⟨.chunk { c with spelling := some text }, .ok (.text text)⟩, v) :=
        exec_bind_ok (exec_bind_ok ran)
      rw [turned]
      exact ⟨asked, carries, learns⟩
  | kind =>
      intro w loaded
      obtain ⟨kind, v, asked, ran, -, carries, learns⟩ := c.exec_askKind_learns engine loaded
      have turned : (c.turn .kind).exec ⟨engine, true⟩ w =
          (.ok ⟨.chunk { c with kind := some kind }, .ok (.form (ClosedKind.inspect kind))⟩, v) :=
        exec_bind_ok ran
      rw [turned]
      exact ⟨asked, carries, learns⟩
  | nested =>
      have : Avoids ⟨engine, true⟩ c.nested := by
        unfold nested Raw.derive Raw.ask
        infer_instance
      exact Object.taught_steady _ _
  | debug =>
      intro w loaded
      obtain ⟨kind, v, asked, ran, still, carries, learns⟩ := c.exec_askKind_learns engine loaded
      obtain ⟨text, u, asked', ran', -, carries', learns'⟩ :=
        exec_askSpelling_learns { c with kind := some kind } engine still
      have turned : (c.turn .debug).exec ⟨engine, true⟩ w =
          (.ok ⟨.chunk { c with kind := some kind, spelling := some text },
            .ok (.form (Chunk.inspectKnown { c with kind := some kind, spelling := some text }))⟩,
            u) :=
        (exec_bind_ok (exec_bind_ok ran)).trans (exec_bind_ok (exec_bind_ok ran'))
      rw [turned]
      exact ⟨asked ++ asked', carries.trans carries', learns.trans learns'⟩

end Chunk

/-! ## Pairs -/

/-- What passes before a range is asked for its start. A range that is asked about a location looks for
its own ends only when the location has said where it is. -/
def Event.beforeStart (events : List Event) : List Event :=
  events.takeWhile fun event => event.question? != some .spanStart

/-- Nothing passes before the start of a range is asked for if nothing passes at all. -/
theorem Event.beforeStart_silent {events : List Event}
    (silent : events.filterMap Event.carried? = []) :
    (beforeStart events).filterMap Event.carried? = [] :=
  List.sublist_nil.1 (silent ▸ (List.takeWhile_sublist _).filterMap _)

namespace SourceRange

/-- The first thing that a range does is to ask for its start. -/
theorem exec_containsExpansion (range : SourceRange) (point : Expansion) (engine : Engine)
    (loaded : w.loaded = true) :
    ∃ inside v later, (range.containsExpansion point).exec ⟨engine, true⟩ w = (.ok inside, v) ∧
      v.loaded = true ∧
      v.trace = later ++ .asked .spanStart [range.raw.origin] none :: w.trace := by
  have extends' {γ : Type} (x : Act γ) [covered : (still ⟨engine, true⟩).Covers x] (v : World) :
      ∃ later, (x.exec ⟨engine, true⟩ v).2.trace = later ++ v.trace := by
    obtain ⟨later, trace, -⟩ := (covered.holds v).trace
    exact ⟨later, trace⟩
  obtain ⟨inside, v, ran, still⟩ : ∃ inside v,
      (range.containsExpansion point).exec ⟨engine, true⟩ w = (.ok inside, v) ∧ _ :=
    exec_succeeding loaded
  have started : range.startPlace.exec ⟨engine, true⟩ w =
      (.ok { raw := ⟨range.raw.value.start, range.raw.origin⟩, unit := range.unit
             anchor := range.anchor }, w.note (.asked .spanStart [range.raw.origin] none)) := by
    unfold startPlace Raw.derive Raw.ask
    rw [bind_assoc, bind_assoc, exec_bind_ok (exec_ask _ _ _ loaded)]
    rfl
  have went : ∃ later, ((range.containsExpansion point).exec ⟨engine, true⟩ w).2.trace =
      later ++ .asked .spanStart [range.raw.origin] none :: w.trace := by
    unfold containsExpansion
    rw [exec_bind_ok started]
    exact extends' _ (w.note _)
  rw [ran] at went
  obtain ⟨later, trace⟩ := went
  exact ⟨inside, v, later, ran, still, trace⟩

instance (start stop : SourceLocation) : Avoids setting (ofLocations start stop) := by
  have (unit : SourceUnit) : Avoids setting unit.spelling := by
    have (cell : CellId) (name : String) : Avoids setting (update (·.setUnitSpelling cell name)) :=
      ⟨fun w => .talk [] (by
        rw [exec_update]
        unfold World.setUnitSpelling
        split <;> rfl) rfl⟩
    unfold SourceUnit.spelling
    refine .bind inferInstance fun _ => .bind inferInstance fun _ => ?_
    split <;> infer_instance
  unfold ofLocations
  infer_instance

end SourceRange

/-- Whether an object carries the answers to what it is asked in a turn of another object with it. -/
def Object.TaughtBeside (engine : Engine) (object : Object) (act : Act Turn) : Prop :=
  ∀ w : World, w.loaded = true → ∃ events,
    (act.exec ⟨engine, true⟩ w).2.trace = events ++ w.trace ∧
      object.LearnsBy ((Event.beforeStart events.reverse).filterMap Event.carried?)
        (act.exec ⟨engine, true⟩ w).1

/-- A turn that asks nothing of the kind may be any turn. -/
theorem Object.taughtBeside_steady (object : Object) (answer : Act Answer)
    [Avoids ⟨engine, true⟩ answer] : object.TaughtBeside engine (object.steady answer) := by
  intro w loaded
  have quiet : Avoids ⟨engine, true⟩ (object.steady answer) := by
    unfold steady
    infer_instance
  obtain ⟨events, trace, silent⟩ := quiet.avoids w
  have taught : object.Taught engine (object.steady answer) := object.taught_steady answer
  obtain ⟨asked, -, learns⟩ := taught w loaded
  refine ⟨events, trace, ?_⟩
  rw [Event.beforeStart_silent (by rw [List.filterMap_reverse, silent])]
  unfold steady at learns ⊢
  rw [exec_bind] at learns ⊢
  split at learns
  next => exact .same object
  next => rfl

theorem SourceLocation.taughtBeside {l : SourceLocation} {first : Object} {query : PairQuery}
    {act : Act Turn} (found : first.pairTurn? (.location l) query = some act) :
    (Object.location l).TaughtBeside engine act := by
  unfold Object.pairTurn? at found
  split at found <;> cases found
  case h_5 other _ beside =>
    -- two locations are compared
    cases beside
    have : Avoids ⟨engine, true⟩ (other.same l) := by
      unfold SourceLocation.same
      infer_instance
    exact Object.taughtBeside_steady _ _
  case h_8 other _ beside =>
    -- a range is made of two locations
    cases beside
    exact Object.taughtBeside_steady _ _
  case h_7 range _ beside =>
    -- a range is asked about the location, which says where it is before the range looks for its ends
    cases beside
    intro w loaded
    obtain ⟨e, v, events, ran, loaded, trace, asked, -, learns⟩ := l.exec_expand_learns engine loaded
    obtain ⟨inside, u, later, ran', -, trace'⟩ := range.exec_containsExpansion e engine loaded
    have rest : Avoids ⟨engine, true⟩ (do
        let changed ← (Object.location l).become (.location { l with expansion := some e })
        return (⟨changed, .ok (.bool inside)⟩ : Turn)) := inferInstance
    obtain ⟨last, trace'', -⟩ := rest.avoids u
    rw [exec_bind_ok ran, exec_bind_ok ran']
    let start : Event := .asked .spanStart [range.raw.origin] none
    refine ⟨last ++ (later ++ [start]) ++ events, ?_, ?_⟩
    · rw [trace'', trace', trace]
      simp [start]
    · have before : Event.beforeStart (last ++ (later ++ [start]) ++ events).reverse =
          events.reverse := by
        rw [Event.beforeStart, List.reverse_append, List.takeWhile_append_of_pos]
        · simp [start, Event.question?]
        · rcases asked with rfl | rfl <;> simp [Event.question?]
      rw [before, List.filterMap_reverse]
      exact learns
  all_goals contradiction

/-! ## Sessions -/

/-- What passes between two states of a session, oldest first. -/
def State.since (before after : State) : List Event :=
  (after.world.trace.take (after.world.trace.length - before.world.trace.length)).reverse

/-- Whether a query neither asks the object in a slot nor takes it away. -/
structure Elsewhere (slot : String) (receiver other target : Option String) (args : Json)
    (name : String) : Prop where
  asked : receiver ≠ none → other ≠ some slot ∧ (other = none → receiver ≠ some slot)
  dropped : receiver = none → name = "drop" → slot ∉ args.strings "slots"
  stored : Spares slot target

/-- A part of a session in which the object in a slot stays there, with the questions that it asks
itself, in order. It may be asked alone or beside another object; and anything may be asked elsewhere,
also on other threads. -/
inductive Session.Holding (setting : Setting) (slot : String) (start : State) :
    List Question → State → Prop
  | start : Holding setting slot start [] start
  | alone {asked : List Question} {state after : State} {target : Option String} {args : Json}
      {name : String} : Holding setting slot start asked state → Spares slot target →
      after = (state.ask setting (some slot) none target args name).1 →
      Holding setting slot start (asked ++ (state.since after).filterMap Event.carried?) after
  | beside {asked : List Question} {state after : State} {receiver : String}
      {target : Option String} {args : Json} {name : String} :
      Holding setting slot start asked state → Spares slot target →
      after = (state.ask setting (some receiver) (some slot) target args name).1 →
      Holding setting slot start
        (asked ++ (Event.beforeStart (state.since after)).filterMap Event.carried?) after
  | aside {asked : List Question} {state : State} {receiver other target : Option String}
      {args : Json} {name : String} : Holding setting slot start asked state →
      Elsewhere slot receiver other target args name →
      Holding setting slot start asked (state.ask setting receiver other target args name).1
  | report {asked : List Question} {state : State} : Holding setting slot start asked state →
      Holding setting slot start asked state.takeEvents.1
  | thread {asked : List Question} {state inner : State} :
      Holding setting slot start asked state →
      Session.Reached setting state.enterThread inner → inner.slots = [] →
      Holding setting slot start asked (state.leaveThread inner)

namespace Session.Holding

variable {begin start state : State} {slot : String} {asked : List Question}

theorem reached (reached : Reached setting begin start)
    (holding : Holding setting slot start asked state) : Reached setting begin state := by
  induction holding with
  | start => exact reached
  | alone _ _ same ih | beside _ _ same ih =>
      rw [same]
      exact ih.ask ..
  | aside _ _ ih => exact ih.ask ..
  | report _ ih => exact ih.report
  | thread _ ran empty ih => exact ih.leave ran empty

end Session.Holding

/-- Locations and chunks carry answers with them. -/
def Object.isCarrier : Object → Bool
  | .location _ | .chunk _ => true
  | _ => false

theorem Object.Learns.isCarrier {before after : Object} {asked : List Question}
    (learns : before.Learns asked after) : after.isCarrier = before.isCarrier := by
  induction learns with
  | same => rfl
  | place => rfl
  | text => rfl
  | kind => rfl
  | trans _ _ first second => exact second.trans first

namespace State

variable {state after : State} {slot : String} {target : Option String}

theorem since_eq {events : List Event}
    (trace : after.world.trace = events ++ state.world.trace) :
    state.since after = events.reverse := by
  rw [since, trace, List.length_append, Nat.add_sub_cancel, List.take_left]

theorem sheds_finish (setting : Setting) (target : Option String) (state : State)
    (outcome : Except Fault Answer) :
    state.world.Sheds (state.finish setting target outcome).1.world := by
  cases outcome with
  | ok answer => exact state.sheds_settle target answer
  | error fault => exact .refl _

/-- What an object learns in a turn stays in its slot, and nothing more is asked. -/
theorem turn_learns {object : Object} {act : Act Turn} {asked : List Question}
    (found : state.slots.get? slot = some object) (spares : Spares slot target)
    (learns : object.LearnsBy asked (act.exec setting state.world).1) :
    ∃ object', (state.turn setting slot target act).1.slots.get? slot = some object' ∧
      object.Learns asked object' ∧ ∃ shed, (state.turn setting slot target act).1.world.trace =
        shed ++ (act.exec setting state.world).2.trace ∧ shed.filterMap Event.carried? = [] := by
  rcases ran : act.exec setting state.world with ⟨fault | t, v⟩
  · rw [ran] at learns
    rw [turn_error ran, show asked = [] from learns]
    exact ⟨object, found, .same object, [], rfl, rfl⟩
  · rw [ran] at learns
    rw [turn_ok ran]
    obtain ⟨shed, trace, silent⟩ := World.Carries.sheds (sheds_finish setting target
      { state with world := v, slots := state.slots.set slot t.receiver } t.outcome)
    refine ⟨t.receiver, ?_, learns, shed, trace, List.reverse_eq_nil_iff.1 silent⟩
    rw [get?_finish _ spares]
    exact Slots.get?_set ..

end State

/-- What passes after a range is asked for its start, and what asks nothing of the kind, makes no
difference. -/
theorem Event.beforeStart_append {older newer : List Event}
    (silent : newer.filterMap Event.carried? = []) :
    (beforeStart (older ++ newer)).filterMap Event.carried? =
      (beforeStart older).filterMap Event.carried? := by
  unfold beforeStart
  rw [List.takeWhile_append]
  split
  next all =>
    have whole := (List.takeWhile_prefix _).eq_of_length all
    have rest : (newer.takeWhile _).filterMap Event.carried? = [] := beforeStart_silent silent
    rw [whole, List.filterMap_append, rest, List.append_nil]
  next => rfl

namespace Session.Reached

variable {begin state after : State} {slot : String} {target : Option String} {args : Json}
variable {name : String} {object : Object}

theorem learns_alone (reached : Reached ⟨engine, true⟩ begin state)
    (found : state.slots.get? slot = some object) (carrier : object.isCarrier)
    (spares : Spares slot target)
    (same : after = (state.ask ⟨engine, true⟩ (some slot) none target args name).1) :
    ∃ object', after.slots.get? slot = some object' ∧
      object.Learns ((state.since after).filterMap Event.carried?) object' := by
  subst same
  show ∃ object', (state.askSlot ⟨engine, true⟩ name slot none target args).1.slots.get? slot = _ ∧
    object.Learns ((state.since (state.askSlot ⟨engine, true⟩ name slot none target args).1).filterMap
      Event.carried?) object'
  rcases State.askSlot_cases ⟨engine, true⟩ state name slot none target args with
    ⟨slot', act, poses, asked⟩ | ⟨reply, asked, -⟩
  · -- the object is cloned or asked itself; either way it is its own turn
    have taught : slot' = slot ∧ object.Taught engine act := by
      cases poses with
      | clone here _ _ =>
          obtain rfl := Option.some.inj (found.symm.trans here)
          exact ⟨rfl, Object.taught_steady _ _⟩
      | alone here turns =>
          obtain rfl := Option.some.inj (found.symm.trans here)
          refine ⟨rfl, ?_⟩
          cases object with
          | location l =>
              obtain ⟨query, -, rfl⟩ := Option.map_eq_some_iff.1 turns
              exact l.taught_turn query
          | chunk c =>
              obtain ⟨query, -, rfl⟩ := Option.map_eq_some_iff.1 turns
              exact c.taught_turn query
          | _ => exact absurd carrier Bool.false_ne_true
    obtain ⟨rfl, taught⟩ := taught
    obtain ⟨asks, ⟨events, trace, rfl⟩, learns⟩ := taught state.world (reached.loaded found)
    obtain ⟨object', there, learns, shed, later, silent⟩ := State.turn_learns found spares learns
    rw [asked]
    refine ⟨object', there, ?_⟩
    rw [State.since_eq (later.trans (by rw [trace, ← List.append_assoc])), List.filterMap_reverse,
      List.filterMap_append, silent]
    exact learns
  · rw [asked, State.since_eq (List.nil_append _).symm]
    exact ⟨object, found, .same object⟩

theorem learns_beside (reached : Reached ⟨engine, true⟩ begin state) {receiver : String}
    (found : state.slots.get? slot = some object) (carrier : object.isCarrier)
    (spares : Spares slot target)
    (same : after = (state.ask ⟨engine, true⟩ (some receiver) (some slot) target args name).1) :
    ∃ object', after.slots.get? slot = some object' ∧
      object.Learns ((Event.beforeStart (state.since after)).filterMap Event.carried?) object' := by
  subst same
  show ∃ object', (state.askSlot ⟨engine, true⟩ name receiver (some slot) target args).1.slots.get?
      slot = _ ∧ object.Learns ((Event.beforeStart (state.since
        (state.askSlot ⟨engine, true⟩ name receiver (some slot) target args).1)).filterMap
      Event.carried?) object'
  rcases State.askSlot_cases ⟨engine, true⟩ state name receiver (some slot) target args with
    ⟨slot', act, poses, asked⟩ | ⟨reply, asked, -⟩
  · -- beside another object only a location can be asked
    have taught : slot' = slot ∧ object.TaughtBeside engine act := by
      cases poses with
      | pair _ here _ turns =>
          obtain rfl := Option.some.inj (found.symm.trans here)
          refine ⟨rfl, ?_⟩
          cases object with
          | location l => exact SourceLocation.taughtBeside turns
          | chunk c =>
              unfold Object.pairTurn? at turns
              split at turns <;> contradiction
          | _ => exact absurd carrier Bool.false_ne_true
    obtain ⟨rfl, taught⟩ := taught
    obtain ⟨events, trace, learns⟩ := taught state.world (reached.loaded found)
    obtain ⟨object', there, learns, shed, later, silent⟩ := State.turn_learns found spares learns
    rw [asked]
    refine ⟨object', there, ?_⟩
    rw [State.since_eq (later.trans (by rw [trace, ← List.append_assoc])), List.reverse_append,
      Event.beforeStart_append (by rw [List.filterMap_reverse, silent]; rfl)]
    exact learns
  · rw [asked, State.since_eq (List.nil_append _).symm]
    exact ⟨object, found, .same object⟩

/-- A query elsewhere leaves an object as it was. -/
theorem kept_aside {receiver other : Option String}
    (aside : Elsewhere slot receiver other target args name) (setting : Setting) (state : State) :
    (state.ask setting receiver other target args name).1.slots.get? slot =
      state.slots.get? slot := by
  refine State.get?_ask setting state ?_ aside.dropped aside.stored
  rintro receiver slot' act rfl poses rfl
  obtain ⟨besides, alone⟩ := aside.asked nofun
  cases poses with
  | clone | alone => exact alone rfl rfl
  | pair => exact besides rfl

end Session.Reached

/-- However a session goes on, a location or a chunk asks for what it does not know yet, and then
carries the answer with it. -/
theorem Session.Holding.learns {begin start state : State} {slot : String} {asked : List Question}
    {object : Object} (reached : Reached ⟨engine, true⟩ begin start)
    (found : start.slots.get? slot = some object) (carrier : object.isCarrier)
    (holding : Holding ⟨engine, true⟩ slot start asked state) :
    ∃ object', state.slots.get? slot = some object' ∧ object.Learns asked object' := by
  -- what the object has learnt so far, it carries into the next query
  induction holding with
  | start => exact ⟨object, found, .same object⟩
  | alone holding spares same ih =>
      obtain ⟨before, there, learns⟩ := ih
      obtain ⟨after, there, learns'⟩ := (holding.reached reached).learns_alone there
        (learns.isCarrier.trans carrier) spares same
      exact ⟨after, there, learns.trans learns'⟩
  | beside holding spares same ih =>
      obtain ⟨before, there, learns⟩ := ih
      obtain ⟨after, there, learns'⟩ := (holding.reached reached).learns_beside there
        (learns.isCarrier.trans carrier) spares same
      exact ⟨after, there, learns.trans learns'⟩
  | aside _ aside ih =>
      obtain ⟨before, there, learns⟩ := ih
      exact ⟨before, (Session.Reached.kept_aside aside _ _).trans there, learns⟩
  | report _ ih => exact ih
  | thread _ _ _ ih => exact ih

/-! ## The location in a memo -/

instance [Holder α] (cell : CellId) (slot : MemoSlot α) (answer : α) :
    Avoids setting (update (·.remember cell slot answer)) := by
  refine ⟨fun w => ?_⟩
  rw [exec_update]
  unfold World.remember
  split
  next count resource memo found =>
    have put : World.Carries [] w
        (w.put cell (some ⟨count, resource, .memo (slot.set memo answer)⟩)) := .talk [] rfl rfl
    exact put.trans (.sheds (.release _ _))
  next => exact .refl w

instance [Holder α] (cell : CellId) (slot : MemoSlot α) (answer : Act α) [Avoids setting answer] :
    Avoids setting (memoized cell slot answer) := by
  unfold memoized
  refine .bind inferInstance fun _ => .bind inferInstance fun _ => ?_
  split <;> infer_instance

namespace Cursor

variable {side : Side} {held : Held} {facts : Facts} {k : Cursor}

instance (k : Cursor) : Avoids setting k.kind := by
  unfold kind Raw.ask; infer_instance

instance (k : Cursor) : Avoids setting k.spelling := by
  unfold spelling Raw.askText Raw.ask; infer_instance

instance (k : Cursor) : Avoids setting k.location := by
  unfold location Raw.derive Raw.ask; infer_instance

/-- A memo that is within reach knows what it knew. -/
theorem extends_memo {A : Askable} {w v : World} {held' : Held} {facts' : Facts}
    (usable : Usable engine held k) (inv : At engine side held facts w)
    (usable' : Usable engine held' k) (inv' : At engine side held' facts' v)
    (recalling : w.Recalling A v) : (w.memo k.memo).Extends (v.memo k.memo) := by
  obtain ⟨_, inv⟩ := inv
  obtain ⟨_, inv'⟩ := inv'
  obtain ⟨before, there, -⟩ := inv.remembers (within_memo usable)
  obtain ⟨after, found, content, -⟩ := inv'.remembers (within_memo usable')
  exact recalling.extends_memo (World.lt_size_of_find? there) found content

/-- Where the location in a memo is, the cursor tells without asking if the memo knows it. -/
theorem expansion_of_placed {v : World} {l : SourceLocation} (placed : (w.memo k.memo).placed)
    (ran : k.location.exec ⟨engine, true⟩ w = (.ok l, v)) : l.expansion.isSome := by
  unfold CursorMemo.placed at placed
  cases remembered : (w.memo k.memo).location with
  | none =>
      rw [remembered] at placed
      exact absurd placed Bool.false_ne_true
  | some l' =>
      have told : k.location.exec ⟨engine, true⟩ w = (.ok l', w) := by
        unfold location memoized
        rw [exec_bind_ok exec_read, exec_bind_ok exec_get,
          show CursorMemo.locationSlot.get (w.memo k.memo) = some l' from remembered]
        rfl
      obtain rfl := Except.ok.inj (Prod.mk.inj (ran.symm.trans told)).1
      rwa [remembered] at placed

/-- The location in a memo asks where it is once, and the memo keeps the answer. -/
theorem exec_expansion_learns (usable : Usable engine held k) (on : side.remembers = true)
    (inv : At engine side held facts w) :
    ∃ e v asked, k.expansion.exec ⟨engine, true⟩ w = (.ok e, v) ∧ At engine side held facts v ∧
      w.Carries asked v ∧ (asked = [] ∨ asked = [.expansion]) ∧
      ((w.memo k.memo).placed → asked = []) ∧ (v.memo k.memo).placed := by
  have setting_eq : side.setting engine = ⟨engine, true⟩ := by rw [Side.setting, on]
  obtain ⟨l, w₁, ran, is, inv₁⟩ := tells_location usable facts w inv
  have quiet : w.Carries [] w₁ := by
    have avoids := (inferInstance : Avoids (side.setting engine) k.location).avoids w
    rwa [ran] at avoids
  have inv₁ : At engine side held facts w₁ := by simpa using inv₁
  obtain ⟨_, w₂, ran₂, rfl, inv₂⟩ :=
    SourceLocation.tells_expand (usable_location usable is) facts w₁ inv₁
  obtain ⟨τ₁, in₁⟩ := inv₁
  obtain ⟨e, v, events, ran', -, trace, asked, already, -⟩ :=
    l.exec_expand_learns engine (in₁.isLoaded (within_memo usable).ne_zero)
  rw [setting_eq] at ran ran₂
  -- the two runs are one: it is known what the first returns, and what the second asks
  obtain ⟨same, rfl⟩ := Prod.mk.inj (ran₂.symm.trans ran')
  obtain rfl := Except.ok.inj same
  have expanded : k.HasLocation engine { l with expansion := some l.answer } := by
    refine ⟨is.1, is.2.1, is.2.2.1, ?_⟩
    rintro _ ⟨⟩
    rfl
  obtain ⟨τ₂, in₂⟩ := inv₂
  have in₂ : Inv engine side facts τ₂ held w₂ := by simpa using in₂
  have kept := in₂.keep_within _ (usable_location usable expanded).within
  obtain ⟨in₃, get⟩ := kept.remember CursorMemo.location_lawful (Entity.refs_eq _)
    (within_memo usable) expanded
  refine ⟨l.answer, _, (events.filterMap Event.carried?).reverse,
    (exec_bind_ok ran).trans (exec_bind_ok ran₂), ⟨_, in₃⟩, ?_, ?_, ?_, ?_⟩
  · have rest : Avoids ⟨engine, true⟩ (do
        let expanded ← Act.keep { l with expansion := some l.answer }
        update (·.remember k.memo CursorMemo.locationSlot expanded)
        return l.answer) := inferInstance
    have all := (quiet.trans ⟨events, trace, rfl⟩).trans (rest.avoids w₂)
    rw [List.nil_append, List.append_nil] at all
    exact all
  · rcases asked with rfl | rfl <;> simp [Event.carried?]
  · intro placed
    rw [already (expansion_of_placed placed ran)]
    rfl
  · rw [CursorMemo.placed]
    rw [show (World.memo _ k.memo).location = _ from get]
    rfl

/-- A cursor that is described asks where it is if its memo does not know yet. Afterwards nothing is
remembered or forgotten. -/
theorem exec_inspect_learns (usable : Usable engine held k) (on : side.remembers = true)
    (inv : At engine side held facts w) :
    ∃ form v u asked, k.inspect.exec ⟨engine, true⟩ w = (.ok form, u) ∧
      At engine side held facts v ∧ v.Still u ∧ w.Carries asked u ∧
      (asked = [] ∨ asked = [.expansion]) ∧ ((w.memo k.memo).placed → asked = []) ∧
      (v.memo k.memo).placed := by
  have setting_eq : side.setting engine = ⟨engine, true⟩ := by rw [Side.setting, on]
  have kind : Tells engine side held k.kind (· = (engine.cursor k.raw.value).kind) :=
    Raw.tells_ask (lends_origin usable) _ _ _
  obtain ⟨_, w₁, ran₁, -, inv₁⟩ := kind facts _ inv
  have inv₁ : At engine side held facts w₁ := by simpa using inv₁
  obtain ⟨spelling, w₂, ran₂, -, inv₂⟩ := tells_spelling usable facts w₁ inv₁
  have inv₂ : At engine side held facts w₂ := by simpa using inv₂
  obtain ⟨e, v, asked, ran₃, inv₃, carries, once, already, placed⟩ :=
    exec_expansion_learns usable on inv₂
  obtain ⟨τ, in₃⟩ := inv₃
  obtain ⟨form, u, ran₄, -⟩ : ∃ form u, e.inspect.exec ⟨engine, true⟩ v = (.ok form, u) ∧ _ :=
    exec_succeeding (in₃.isLoaded (within_memo usable).ne_zero)
  have first := (inferInstance : Avoids (side.setting engine) k.kind).avoids w
  have second := (inferInstance : Avoids (side.setting engine) k.spelling).avoids w₁
  have last := (inferInstance : Avoids ⟨engine, true⟩ e.inspect).avoids v
  have still := (inferInstance : (still ⟨engine, true⟩).Covers e.inspect).holds v
  rw [ran₁] at first
  rw [ran₂] at second
  rw [ran₄] at last still
  obtain ⟨shown, ran⟩ : ∃ shown, k.inspect.exec ⟨engine, true⟩ w = (.ok shown, u) := by
    rw [setting_eq] at ran₁ ran₂
    exact ⟨_, (exec_bind_ok ran₁).trans ((exec_bind_ok ran₂).trans
      ((exec_bind_ok ran₃).trans (exec_bind_ok ran₄)))⟩
  refine ⟨shown, v, u, asked, ran, ⟨τ, in₃⟩, still, ?_, once, fun known => already ?_, placed⟩
  · have all := ((first.trans second).trans carries).trans last
    rwa [List.nil_append, List.nil_append, List.append_nil] at all
  · have asks := (inferInstance : (Act.still (side.setting engine)).Covers k.kind).holds w
    have spells := recalls_spelling on usable facts w₁ inv₁
    rw [ran₁] at asks
    rw [ran₂] at spells
    exact (extends_memo usable inv usable inv₂ ((World.Recalling.still asks).trans spells)).placed known

end Cursor

/-- A cursor that is described asks where it is if its memo does not know yet, and then the memo knows. -/
theorem Session.Reached.describes {begin state : State}
    (reached : Session.Reached ⟨engine, true⟩ begin state) {slot : String} {k : Cursor}
    (found : state.slots.get? slot = some (.cursor k)) (target : Option String) (args : Json) :
    let after := (state.ask ⟨engine, true⟩ (some slot) none target args "debug").1
    let asked := (state.since after).filterMap Event.carried?
    (asked = [] ∨ asked = [.expansion]) ∧ ((state.world.memo k.memo).placed → asked = []) ∧
      (after.world.memo k.memo).placed := by
  intro after asked
  have held := reached.usable_slot found
  have usable : Usable engine (owners state.slots.objects : Held) k := ⟨held.coherent, held.within⟩
  obtain ⟨facts, τ, inv⟩ := reached.inv
  obtain ⟨form, v, u, asks, ran, inv', still, carries, once, already, placed⟩ :=
    Cursor.exec_inspect_learns usable rfl ⟨τ, inv⟩
  have turned : ((Object.cursor k).steady (k.answer .debug)).exec ⟨engine, true⟩ state.world =
      (.ok ⟨.cursor k, .ok (.form form)⟩, u) :=
    exec_bind_ok (exec_bind_ok ran)
  have ended : after = { state with world := u, slots := state.slots.set slot (.cursor k) } := by
    show (state.ask ⟨engine, true⟩ (some slot) none target args "debug").1 = _
    rw [State.ask_alone found (by decide) (by rfl), State.turn_ok turned]
    exact congrArg Prod.fst (State.finish_plain _ _ _ _)
  have same : asked = asks := by
    obtain ⟨events, trace, rfl⟩ := carries
    show (state.since after).filterMap _ = _
    rw [State.since_eq (by rw [ended]; exact trace), List.filterMap_reverse]
  refine ⟨same ▸ once, fun known => same ▸ already known, ?_⟩
  have reached' : Session.Reached ⟨engine, true⟩ begin after := reached.ask ..
  have there : after.slots.get? slot = some (.cursor k) := by
    rw [ended]
    exact Slots.get?_set ..
  have held' := reached'.usable_slot there
  obtain ⟨facts', τ', inv''⟩ := reached'.inv
  rw [ended] at inv'' held' ⊢
  exact (Cursor.extends_memo usable inv' ⟨held'.coherent, held'.within⟩ ⟨τ', inv''⟩
    (.still still : v.Recalling (fun _ _ => False) u)).placed placed

end SourceAtlas
