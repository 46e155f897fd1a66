import SourceAtlas.Proofs.Invariant

/-!
# Actions that always succeed

What the small actions do that asking, remembering and counting references are made of. None of them
can fail while something is held, and none changes what could be observed of the store. They are
specified here for one run; what they return is determined by the engine.
-/

namespace SourceAtlas

/-- Runs an action on a store. -/
def Act.exec (act : Act α) (setting : Setting) (w : World) : Except Fault α × World :=
  (act setting).run w

namespace Act

variable {setting : Setting} {w : World} {α β : Type}

theorem exec_pure (a : α) : (pure a : Act α).exec setting w = (.ok a, w) := rfl

theorem exec_bind (x : Act α) (f : α → Act β) :
    (x >>= f).exec setting w =
      match x.exec setting w with
      | (.ok a, v) => (f a).exec setting v
      | (.error fault, v) => (.error fault, v) := by
  show (match (x setting).run w with
    | (result, v) => ExceptT.bindCont (fun a => f a setting) result v) = _
  unfold exec
  rcases (x setting).run w with ⟨result | result, v⟩ <;> rfl

theorem exec_bind_ok {x : Act α} {f : α → Act β} {a : α} {v : World}
    (ran : x.exec setting w = (.ok a, v)) :
    (x >>= f).exec setting w = (f a).exec setting v := by
  rw [exec_bind, ran]

theorem exec_bind_error {x : Act α} {f : α → Act β} {fault : Fault} {v : World}
    (ran : x.exec setting w = (.error fault, v)) :
    (x >>= f).exec setting w = (.error fault, v) := by
  rw [exec_bind, ran]

/-- What succeeds has succeeded in both of its parts. -/
theorem exec_bind_eq_ok {x : Act α} {f : α → Act β} {b : β} {v : World}
    (ran : (x >>= f).exec setting w = (.ok b, v)) :
    ∃ a u, x.exec setting w = (.ok a, u) ∧ (f a).exec setting u = (.ok b, v) := by
  rcases first : x.exec setting w with ⟨fault | a, u⟩
  · exact nomatch (exec_bind_error first).symm.trans ran
  · exact ⟨a, u, rfl, (exec_bind_ok first).symm.trans ran⟩

theorem exec_read : (read : Act Setting).exec setting w = (.ok setting, w) := rfl

theorem exec_get : (get : Act World).exec setting w = (.ok w, w) := rfl

theorem exec_engine : Act.engine.exec setting w = (.ok setting.engine, w) := rfl

theorem exec_update (f : World → World) : (Act.update f).exec setting w = (.ok (), f w) := rfl

theorem exec_updateGet (f : World → World × α) :
    (Act.updateGet f).exec setting w = (.ok (f w).2, (f w).1) := rfl

theorem exec_throw (fault : Fault) :
    (throw fault : Act α).exec setting w = (.error fault, w) := rfl

theorem exec_attempt (x : Act α) :
    (Act.attempt x).exec setting w = (.ok (x.exec setting w).1, (x.exec setting w).2) := rfl

theorem exec_table (unit : Resource) :
    (Act.table unit).exec setting w = (.ok (w.table unit), w) := rfl

theorem exec_ask (question : Question) (operands : List Resource) (memo : Option CellId)
    (loaded : w.loaded = true) :
    (Act.ask question operands memo).exec setting w =
      (.ok (), w.note (.asked question operands memo)) := by
  simp [Act.ask, Act.requireLoaded, exec_bind, exec_get, exec_update, loaded]

theorem exec_request (request : Request) (loaded : w.loaded = true) :
    (Act.request request).exec setting w = (.ok (), w.note (.requested request)) := by
  simp [Act.request, Act.requireLoaded, exec_bind, exec_get, exec_update, loaded]

theorem exec_ask_unloaded (question : Question) (operands : List Resource) (memo : Option CellId)
    (unloaded : w.loaded = false) :
    (Act.ask question operands memo).exec setting w = (.error (.panic .engineNotLoaded), w) := by
  simp [Act.ask, Act.requireLoaded, exec_bind, exec_get, exec_throw, unloaded]

theorem exec_request_unloaded (request : Request) (unloaded : w.loaded = false) :
    (Act.request request).exec setting w = (.error (.panic .engineNotLoaded), w) := by
  simp [Act.request, Act.requireLoaded, exec_bind, exec_get, exec_throw, unloaded]

theorem ask_ne_failure (question : Question) (operands : List Resource) (memo : Option CellId)
    (w : World) (failure : Failure) :
    ((Act.ask question operands memo).exec setting w).1 ≠ .error (.failure failure) := by
  cases loaded : w.loaded with
  | false => rw [exec_ask_unloaded _ _ _ loaded]; nofun
  | true => rw [exec_ask _ _ _ loaded]; nofun

theorem request_ne_failure (request : Request) (w : World) (failure : Failure) :
    ((Act.request request).exec setting w).1 ≠ .error (.failure failure) := by
  cases loaded : w.loaded with
  | false => rw [exec_request_unloaded _ loaded]; nofun
  | true => rw [exec_request _ loaded]; nofun

theorem exec_text? (text : EngineText) :
    (Act.text? text).exec setting w =
      (.ok (text.map fun bytes => Utf8.decodeLossy bytes.untilNul), w.tell text) :=
  rfl

theorem exec_text (text : EngineText) :
    (Act.text text).exec setting w = (.ok text.decoded, w.tell text) :=
  rfl

/-! ## From store to store -/

section Leads

variable {R : World → World → Prop}

/-- How stores are related before and after two actions, if the relation can be chained. -/
theorem bind_leads (trans : ∀ {u v w}, R u v → R v w → R u w) {x : Act α} {f : α → Act β}
    (first : ∀ w, R w (x.exec setting w).2)
    (next : ∀ w a v, x.exec setting w = (.ok a, v) → ∀ u, R u ((f a).exec setting u).2)
    (w : World) : R w ((x >>= f).exec setting w).2 := by
  have before := first w
  rw [exec_bind]
  split
  next a v ran =>
    rw [ran] at before
    exact trans before (next w a v ran v)
  next fault v ran => rwa [ran] at before

/-- A question is noted, or refused as the engine is not loaded. -/
theorem ask_leads (refl : ∀ w, R w w) {question : Question} {operands : List Resource}
    {memo : Option CellId} (w : World) (noted : R w (w.note (.asked question operands memo))) :
    R w ((Act.ask question operands memo).exec setting w).2 := by
  cases loaded : w.loaded with
  | false => rw [exec_ask_unloaded _ _ _ loaded]; exact refl w
  | true => rw [exec_ask _ _ _ loaded]; exact noted

theorem request_leads (refl : ∀ w, R w w) {request : Request} (w : World)
    (noted : R w (w.note (.requested request))) :
    R w ((Act.request request).exec setting w).2 := by
  cases loaded : w.loaded with
  | false => rw [exec_request_unloaded _ loaded]; exact refl w
  | true => rw [exec_request _ loaded]; exact noted

end Leads

/-! ## What is returned -/

section Returns

variable {x : Act α} {f : α → Act β} {P : β → Prop}

/-- Whether a property holds of whatever an action returns. -/
def Returns (x : Act α) (P : α → Prop) : Prop :=
  ∀ setting w a v, x.exec setting w = (.ok a, v) → P a

theorem Returns.pure {a : α} {P : α → Prop} (holds : P a) : Returns (Pure.pure a) P := by
  rintro setting w _ _ ⟨⟩
  exact holds

theorem Returns.keep [Holder α] {a : α} {P : α → Prop} (holds : P a) : Returns (Act.keep a) P := by
  rintro setting w _ _ ⟨⟩
  exact holds

theorem Returns.fail (failure : Failure) : Returns (Act.fail failure : Act β) P := by
  rintro setting w _ _ ⟨⟩

/-- What is returned in the end has a property, if it follows from one of what is returned first. -/
theorem Returns.after {Q : α → Prop} (first : Returns x Q) (next : ∀ a, Q a → Returns (f a) P) :
    Returns (x >>= f) P := by
  intro setting w b v ran
  rw [exec_bind] at ran
  split at ran
  next a u began => exact next a (first _ _ _ _ began) _ _ _ _ ran
  next => exact nomatch ran

theorem Returns.bind (next : ∀ a, Returns (f a) P) : Returns (x >>= f) P :=
  Returns.after (Q := fun _ => True) (fun _ _ _ _ _ => trivial) fun a _ => next a

theorem Returns.mapM (each : ∀ a, Returns (f a) P) (list : List α) :
    Returns (list.mapM f) fun bs => ∀ b ∈ bs, P b := by
  induction list with
  | nil => exact .pure fun _ absent => absurd absent List.not_mem_nil
  | cons a rest ih =>
      rw [List.mapM_cons]
      exact (each a).after fun b holds => ih.after fun bs others =>
        .pure (List.forall_mem_cons.2 ⟨holds, others⟩)

theorem Returns.map {Q : α → Prop} {g : α → β} (first : Returns x Q) (next : ∀ a, Q a → P (g a)) :
    Returns (g <$> x) P := by
  rw [← bind_pure_comp]
  exact first.after fun a holds => .pure (next a holds)

theorem Returns.optionMapM {value : Option α} (each : ∀ a ∈ value, Returns (f a) P) :
    Returns (value.mapM f) fun found : Option β => ∀ b ∈ found, P b := by
  cases value with
  | none => exact .pure fun _ absent => nomatch absent
  | some a =>
      refine (each a rfl).map fun b holds => ?_
      rintro _ ⟨⟩
      exact holds

end Returns

/-- Whether an action always succeeds from some stores on, and what then holds. -/
def Ensures (setting : Setting) (P : World → Prop) (x : Act α) (Q : α → World → Prop) : Prop :=
  ∀ w, P w → ∃ a v, x.exec setting w = (.ok a, v) ∧ Q a v

end Act

/-- The setting of a run. -/
def Side.setting (engine : Engine) (side : Side) : Setting :=
  ⟨engine, side.remembers⟩

/-- Whether a store is in order while some owners are held. -/
def At (engine : Engine) (side : Side) (held : Held) (facts : Facts) (w : World) : Prop :=
  ∃ τ, Inv engine side facts τ held w

namespace Inv

variable {engine : Engine} {side : Side} {facts : Facts} {τ : Typing} {held : Held} {w : World}
variable {o : Owner} {r : Resource} {α : Type}

theorem isLoaded (inv : Inv engine side facts τ held w) (nonzero : held ≠ 0) : w.loaded = true :=
  inv.shows.loaded.trans (inv.loaded nonzero)

/-- What is within reach has not been freed. -/
theorem alive (inv : Inv engine side facts τ held w) (within : Within held o) :
    τ.Owns o ∧ ∃ entry, w.find? o.cell = some entry ∧ o.Describes engine τ entry :=
  inv.heap.alive_of_within inv.owns (le_refl _) within

/-- What is within reach is out. -/
theorem isOut (inv : Inv engine side facts τ held w) (lends : Lends held r) :
    IsOut w.trace r := by
  obtain ⟨o, within, owned⟩ := lends
  obtain ⟨owns, entry, found, describes⟩ := inv.alive within
  exact inv.books.isOut (inv.heap.within owns).1 found (describes.1.trans owned)

/-- Two cells are one if and only if they own the same resource. -/
theorem cell_eq_iff {p : Owner} {s : Resource} (inv : Inv engine side facts τ held w)
    (within : Within held o) (within' : Within held p) (owned : o.resource = some r)
    (owned' : p.resource = some s) : o.cell = p.cell ↔ r = s := by
  have owns := (inv.alive within).1
  have owns' := (inv.alive within').1
  constructor
  · intro same
    have owns : τ o.cell = some o := owns
    rw [same] at owns
    obtain rfl := Option.some.inj (owns'.symm.trans owns)
    exact Option.some.inj (owned.symm.trans owned')
  · rintro rfl
    exact inv.books.unique owns owns' owned owned'

/-- The session says which entry of the tables a unit has. -/
theorem table_eq {u : SourceUnit} (inv : Inv engine side facts τ held w)
    (within : Within held (.unit u)) : w.table u.resource = facts.table u.resource := by
  obtain ⟨owns, entry, found, describes⟩ := inv.alive within
  obtain ⟨owned, spelling, content⟩ := describes.unit
  exact (inv.shows.unit (inv.heap.within owns).1 found owned content).1

/-- The same owners are held after a change to the store. -/
theorem update {v : World} {facts' : Facts} (inv : Inv engine side facts τ held w)
    (core : Core engine side facts' τ (held.map Owner.cell) v)
    (loaded : facts'.loaded = facts.loaded) : Inv engine side facts' τ held v :=
  { core with
    owns := inv.owns
    loaded := fun nonzero => loaded.trans (inv.loaded nonzero) }

theorem note {event : Event} (inv : Inv engine side facts τ held w)
    (acquired : ∀ r, event ≠ .acquired r) (disposed : ∀ r, event ≠ .disposed r)
    (texts : event.textSerial? = none) (lends : ∀ r ∈ event.operands, Lends held r)
    (unmixed : event.Unmixed) : Inv engine side facts τ held (w.note event) :=
  inv.update (inv.toCore.note acquired disposed texts
    (fun r member => inv.isOut (lends r member)) unmixed) rfl

theorem retainAll (inv : Inv engine side facts τ held w) (nonzero : held ≠ 0) (more : List Owner)
    (alive : ∀ o ∈ more, τ.Owns o ∧ ∃ entry, w.find? o.cell = some entry) :
    Inv engine side facts τ (more + held) (w.retainAll (more.map Owner.cell)) := by
  have core := inv.toCore.retainAll more alive
  rw [← Multiset.map_coe, ← Multiset.map_add] at core
  exact
    { core with
      owns := fun o member => (Multiset.mem_add.1 member).elim
        (fun here => (alive o here).1) (inv.owns o)
      loaded := fun _ => inv.loaded nonzero }

/-- References are taken to what has not been freed. -/
theorem keep [Holder α] [Likeness α] [Entity α] (inv : Inv engine side facts τ held w)
    (nonzero : held ≠ 0) (a : α)
    (alive : ∀ o ∈ owners a, τ.Owns o ∧ ∃ entry, w.find? o.cell = some entry) :
    Inv engine side facts τ (owners a + held) (w.retainAll (refs a)) := by
  rw [Entity.refs_eq]
  exact inv.retainAll nonzero (owners a) alive

theorem keep_within [Holder α] [Likeness α] [Entity α] (inv : Inv engine side facts τ held w)
    (a : α) (within : ∀ o ∈ owners a, Within held o) :
    Inv engine side facts τ (owners a + held) (w.retainAll (refs a)) := by
  rcases List.eq_nil_or_concat' (owners a) with none | ⟨others, o, last⟩
  · rw [Entity.refs_eq, none]
    simpa [World.retainAll] using inv
  have nonzero : held ≠ 0 := (within o (by simp [last])).ne_zero
  refine inv.keep nonzero a fun o member => ?_
  obtain ⟨owns, entry, found, -⟩ := inv.alive (within o member)
  exact ⟨owns, entry, found⟩

/-- References that are held may be given up. -/
theorem drop [Holder α] [Likeness α] [Entity α] {a : α}
    (inv : Inv engine side facts τ (owners a + held) w) :
    Inv engine side facts τ held (w.release (refs a)) := by
  have core : Core engine side facts τ (refs a + held.map Owner.cell) w := by
    rw [Entity.refs_eq, ← Multiset.map_coe, ← Multiset.map_add]
    exact inv.toCore
  exact
    { core.release with
      owns := fun o member => inv.owns o (Multiset.mem_add.2 (.inr member))
      loaded := by
        intro nonzero
        refine inv.loaded fun none => nonzero ?_
        exact (add_eq_zero.1 none).2 }

end Inv

/-! ## Quiet actions -/

/-- Whether an action always succeeds while some owners are held, changes nothing that could be
observed, and returns a value of some kind together with references to more owners. -/
def Act.Quiet (engine : Engine) (side : Side) (held : Held) (x : Act α) (more : α → List Owner)
    (R : α → Prop) : Prop :=
  ∀ facts, Act.Ensures (side.setting engine) (At engine side held facts) x fun a v =>
    R a ∧ At engine side (more a + held) facts v

/-- A quiet action whose result holds nothing. -/
abbrev Act.Tells (engine : Engine) (side : Side) (held : Held) (x : Act α) (R : α → Prop) : Prop :=
  Act.Quiet engine side held x (fun _ => []) R

namespace Act

variable {engine : Engine} {side : Side} {held : Held} {α β : Type}

theorem Quiet.pure {more : α → List Owner} {R : α → Prop} {a : α} (holds : R a)
    (none : more a = []) : Quiet engine side held (Pure.pure a) more R := by
  intro facts w inv
  exact ⟨a, w, rfl, holds, by simpa [none] using inv⟩

theorem Tells.pure {R : α → Prop} {a : α} (holds : R a) :
    Tells engine side held (Pure.pure a) R :=
  Quiet.pure holds rfl

theorem Tells.bind {x : Act α} {f : α → Act β} {R : α → Prop} {more : β → List Owner}
    {S : β → Prop} (first : Tells engine side held x R)
    (next : ∀ a, R a → Quiet engine side held (f a) more S) :
    Quiet engine side held (x >>= f) more S := by
  intro facts w inv
  obtain ⟨a, v, ran, holds, inv⟩ := first facts w inv
  obtain ⟨b, u, ran', holds', inv⟩ := next a holds facts v (by simpa using inv)
  exact ⟨b, u, (exec_bind_ok ran).trans ran', holds', inv⟩

theorem Quiet.map {x : Act α} {f : α → β} {R : α → Prop} {more : α → List Owner}
    {more' : β → List Owner} {S : β → Prop} (first : Quiet engine side held x more R)
    (next : ∀ a, R a → S (f a) ∧ more' (f a) = more a) :
    Quiet engine side held (x >>= fun a => Pure.pure (f a)) more' S := by
  intro facts w inv
  obtain ⟨a, v, ran, holds, inv⟩ := first facts w inv
  exact ⟨f a, v, exec_bind_ok ran, (next a holds).1, by rw [(next a holds).2]; exact inv⟩

theorem Tells.map {x : Act α} {f : α → β} {R : α → Prop} {S : β → Prop}
    (first : Tells engine side held x R) (next : ∀ a, R a → S (f a)) :
    Tells engine side held (x >>= fun a => Pure.pure (f a)) S :=
  Quiet.map first fun a holds => ⟨next a holds, rfl⟩

theorem Quiet.mono {x : Act α} {R S : α → Prop} {more : α → List Owner}
    (quiet : Quiet engine side held x more R) (weaker : ∀ a, R a → S a) :
    Quiet engine side held x more S := by
  intro facts w inv
  obtain ⟨a, v, ran, holds, inv⟩ := quiet facts w inv
  exact ⟨a, v, ran, weaker a holds, inv⟩

theorem tells_engine : Tells engine side held Act.engine (· = engine) := by
  intro facts w inv
  exact ⟨engine, w, rfl, rfl, by simpa using inv⟩

theorem tells_ask (nonzero : held ≠ 0) (question : Question) {operands : List Resource}
    (lends : ∀ r ∈ operands, Lends held r)
    (unmixed : question.joins = true → ∀ r ∈ operands, ∀ s ∈ operands, r = s)
    (memo : Option CellId) :
    Tells engine side held (Act.ask question operands memo) fun _ => True := by
  rintro facts w ⟨τ, inv⟩
  refine ⟨(), _, exec_ask question operands memo (inv.isLoaded nonzero), trivial, τ, ?_⟩
  have noted : Inv engine side facts τ held (w.note (.asked question operands memo)) :=
    inv.note nofun nofun rfl lends unmixed
  simpa using noted

theorem tells_text? (text : EngineText) :
    Tells engine side held (Act.text? text)
      (· = text.map fun bytes => Utf8.decodeLossy bytes.untilNul) := by
  rintro facts w ⟨τ, inv⟩
  refine ⟨_, _, exec_text? text, rfl, τ, ?_⟩
  simpa using inv.update (inv.toCore.text text) rfl

theorem tells_text (text : EngineText) :
    Tells engine side held (Act.text text) (· = text.decoded) :=
  (tells_text? text).map fun _ same => congrArg (·.getD "") same

theorem quiet_keep [Holder α] [Likeness α] [Entity α] {a : α}
    (within : ∀ o ∈ owners a, Within held o) :
    Quiet engine side held (Act.keep a) owners (· = a) := by
  rintro facts w ⟨τ, inv⟩
  exact ⟨a, _, rfl, rfl, τ, inv.keep_within a within⟩

theorem ensures_drop [Holder α] [Likeness α] [Entity α] (a : α) (facts : Facts) :
    Ensures (side.setting engine) (At engine side (owners a + held) facts) (Act.drop a) fun _ =>
      At engine side held facts := by
  rintro w ⟨τ, inv⟩
  exact ⟨(), _, rfl, τ, inv.drop⟩

end Act

namespace Raw

variable {engine : Engine} {side : Side} {held : Held} {α β : Type} {r : Raw α}

open Act

theorem exec_ask {setting : Setting} {w : World} (r : Raw α) (question : Question)
    (answer : Engine → α → β) (memo : Option CellId) (loaded : w.loaded = true) :
    (r.ask question answer memo).exec setting w =
      (.ok (answer setting.engine r.value), w.note (.asked question [r.origin] memo)) :=
  exec_bind_ok (Act.exec_ask _ _ _ loaded)

theorem tells_ask (lends : Lends held r.origin) (question : Question) (answer : Engine → α → β)
    (memo : Option CellId) :
    Tells engine side held (r.ask question answer memo) (· = answer engine r.value) := by
  refine (Act.tells_ask lends.ne_zero question ?_ ?_ memo).bind fun _ _ =>
    tells_engine.map fun _ same => congrArg (answer · r.value) same
  · exact List.forall_mem_singleton.2 lends
  · exact fun _ _ member _ member' =>
      (List.mem_singleton.1 member).trans (List.mem_singleton.1 member').symm

theorem tells_derive (lends : Lends held r.origin) (question : Question)
    (answer : Engine → α → β) (memo : Option CellId) :
    Tells engine side held (r.derive question answer memo)
      (· = ⟨answer engine r.value, r.origin⟩) :=
  (tells_ask lends question answer memo).map fun _ same => by rw [same]

theorem tells_askText? (lends : Lends held r.origin) (question : Question)
    (answer : Engine → α → EngineText) (memo : Option CellId) :
    Tells engine side held (r.askText? question answer memo)
      (· = (answer engine r.value).map fun bytes => Utf8.decodeLossy bytes.untilNul) := by
  refine (tells_ask lends question answer memo).bind ?_
  rintro _ rfl
  exact tells_text? _

theorem tells_askText (lends : Lends held r.origin) (question : Question)
    (answer : Engine → α → EngineText) (memo : Option CellId) :
    Tells engine side held (r.askText question answer memo)
      (· = (answer engine r.value).decoded) := by
  refine (tells_ask lends question answer memo).bind ?_
  rintro _ rfl
  exact tells_text _

end Raw

end SourceAtlas
