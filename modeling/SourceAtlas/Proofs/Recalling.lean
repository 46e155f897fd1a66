import SourceAtlas.Proofs.Knowledge
import SourceAtlas.Proofs.Recall

/-!
# Recalling

Each answer that is remembered is asked for only where it is not known, for the cell that learns it,
whichever cursor or unit is asked and whatever else it does on the way. All other questions concern no
memo.
-/

namespace SourceAtlas

/-! ## Actions -/

namespace Act

/-- A question that is not for a memo concerns no memo. -/
theorem still_ask_none {setting : Setting} {question : Question} (free : question.memoKind? = none)
    (operands : List Resource) (w : World) :
    w.Still ((ask question operands none).exec setting w).2 :=
  ask_leads (R := World.Still) .refl w
    (.talk rfl [.asked question operands none] rfl (by simp [Event.recalls?, free]))

/-- An action is guaranteed to ask nothing that could be remembered, and to remember nothing. -/
def still (setting : Setting) : Guarantee setting where
  Holds x := ∀ w : World, w.Still (x.exec setting w).2
  pure _ := .refl
  bind := bind_leads (R := World.Still) .trans
  read := .refl
  get := .refl
  ask _ free operands := still_ask_none free.free operands
  takeText text w := .talk rfl [.textTaken w.texts text] rfl rfl
  copyText serial _ _ := .talk rfl [.textReturned serial, .textCopied serial _] rfl rfl

variable {setting : Setting}

instance : (still setting).Requesting where
  request asked w :=
    request_leads (R := World.Still) .refl w (.talk rfl [.requested asked] rfl rfl)

instance : (still setting).Counting where
  retain cells w := by
    have kept : (w.retainAll cells).Survives w := by
      induction cells generalizing w with
      | nil => exact .of_cells rfl
      | cons c cells ih => exact (ih (w.retain c)).trans (.retain w c)
    have trace : (w.retainAll cells).trace = w.trace := by rw [World.retainAll_eq]
    exact .of_survives [] trace rfl (World.size_retainAll w cells).symm kept
  release cells w := .sheds (.release w cells)
  alloc resource content w :=
    { trace := ⟨[], rfl, rfl⟩
      size := (Nat.le_succ _).trans_eq (World.size_cells_alloc ..).symm
      kept := fun c bound entry found => by
        rw [exec_updateGet, World.find?_alloc, if_neg bound.ne] at found
        exact ⟨entry, found, rfl⟩ }
  acquire kind label w := .talk rfl [.acquired _] rfl rfl
  dispose resource w := .talk rfl [.disposed resource] rfl rfl
  countIndex w := .talk rfl [] rfl rfl
  countList w := .talk rfl [] rfl rfl
  addUnit table w := .talk rfl [] rfl rfl

instance : (still setting).Renewing where
  renewUnit unit table w := by
    cases table <;> exact .talk rfl [] rfl rfl

instance : (still setting).Failing := ⟨fun _ => .refl⟩

instance : (still setting).Panicking := ⟨fun _ => .refl⟩

instance : (still setting).Attempting := ⟨fun holds => holds⟩

instance : (still setting).Loading := ⟨fun _ => .talk rfl [] rfl rfl⟩

instance : (still setting).Visiting where
  children cursor := by
    have (operands : List Resource) :
        (still setting).Covers (ask (.children cursor.raw.value) operands) :=
      ⟨still_ask_none rfl operands⟩
    have covered : (still setting).Covers cursor.children := by
      unfold Cursor.children Raw.ask
      infer_instance
    exact covered.holds
  fields type := by
    have (operands : List Resource) :
        (still setting).Covers (ask (.fields type.raw.value) operands) :=
      ⟨still_ask_none rfl operands⟩
    have covered : (still setting).Covers type.fields := by
      unfold SourceType.fields Raw.ask
      infer_instance
    exact covered.holds

end Act

namespace Act

variable {engine : Engine} {side : Side} {held : Held} {A B : Askable} {α β : Type}

/-- Whether an action asks only what it may and what is not known, while some owners are held. -/
def Recalls (engine : Engine) (side : Side) (held : Held) (A : Askable) (x : Act α) : Prop :=
  ∀ facts w, At engine side held facts w → w.Recalling A (x.exec (side.setting engine) w).2

namespace Recalls

variable {x : Act α} {f : α → Act β}

theorem of_still [covered : (still (side.setting engine)).Covers x] :
    Recalls engine side held A x :=
  fun _ w _ => .still (covered.holds w)

theorem mono (recalls : Recalls engine side held A x) (more : ∀ c kind, A c kind → B c kind) :
    Recalls engine side held B x :=
  fun facts w inv => (recalls facts w inv).mono more

/-- What follows finds the store in order, if the first action succeeds. -/
theorem after {R : α → Prop} (tells : Tells engine side held x R)
    (first : Recalls engine side held A x)
    (next : ∀ a, R a → Recalls engine side held A (f a)) :
    Recalls engine side held A (x >>= f) := by
  intro facts w inv
  have before := first facts w inv
  obtain ⟨a, v, ran, holds, inv⟩ := tells facts w inv
  rw [ran] at before
  rw [exec_bind_ok ran]
  exact before.trans (next a holds facts v (by simpa using inv))

/-- What follows may do anything that concerns no memo. -/
theorem bind (first : Recalls engine side held A x)
    [next : ∀ a, (still (side.setting engine)).Covers (f a)] :
    Recalls engine side held A (x >>= f) := by
  intro facts w inv
  have before := first facts w inv
  rw [exec_bind]
  split
  next a v ran =>
    rw [ran] at before
    exact before.trans (.still ((next a).holds v))
  next fault v ran => rwa [ran] at before

end Recalls

/-- What tells something returns it. -/
theorem Tells.returns {x : Act α} {R : α → Prop} (tells : Tells engine side held x R) :
    ∀ facts w, At engine side held facts w → ∃ a v, x.exec (side.setting engine) w = (.ok a, v) := by
  intro facts w inv
  obtain ⟨a, v, ran, -⟩ := tells facts w inv
  exact ⟨a, v, ran⟩

/-- Whether an action begins with a question for a cell, and nothing that follows concerns a memo. -/
def Opens (setting : Setting) (question : Question) (c : CellId) (x : Act α) : Prop :=
  ∃ operands rest, x = (ask question operands (some c) >>= fun _ => rest) ∧
    (still setting).Covers rest

namespace Opens

variable {setting : Setting} {question : Question} {c : CellId}

theorem bind {x : Act α} {f : α → Act β} (opens : Opens setting question c x)
    [next : ∀ a, (still setting).Covers (f a)] : Opens setting question c (x >>= f) := by
  obtain ⟨operands, rest, rfl, covered⟩ := opens
  exact ⟨operands, rest >>= f, bind_assoc .., inferInstance⟩

theorem ask (raw : Raw α) (answer : Engine → α → β) :
    Opens setting question c (raw.ask question answer (some c)) :=
  ⟨[raw.origin], do return answer (← Act.engine) raw.value, rfl, inferInstance⟩

end Opens

end Act

/-! ## Memos -/

namespace Cursor

open Act

variable {engine : Engine} {side : Side} {held : Held} {k : Cursor} {α : Type} [Holder α]

/-- Answers are asked for once and remembered. On the way to the question, others may be remembered. -/
theorem recalls_memoized_after {slot : MemoSlot α} {kind : MemoKind} {K : MemoKind → Prop}
    {answer : Act α} (tracks : slot.Tracks kind) (other : ¬ K kind) (on : side.remembers = true)
    (within : Within held (.cursor k))
    (opens : ∀ facts w, At engine side held facts w → ∃ v question x, At engine side held facts v ∧
      w.Recalling (.only k.memo K) v ∧ question.memoKind? = some kind ∧
      Opens (side.setting engine) question k.memo x ∧
      answer.exec (side.setting engine) w = x.exec (side.setting engine) v)
    (returns : ∀ facts w, At engine side held facts w → ∃ a v,
      (memoized k.memo slot answer).exec (side.setting engine) w = (.ok a, v)) :
    Recalls engine side held (.only k.memo fun other => K other ∨ other = kind)
      (memoized k.memo slot answer) := by
  intro facts w inv
  obtain ⟨result, end', ran⟩ := returns facts w inv
  obtain ⟨τ, inv'⟩ := inv
  obtain ⟨entry, found, content, -⟩ := inv'.remembers within
  have remembers : (side.setting engine).remembers = true := on
  unfold memoized at ran ⊢
  rw [exec_bind_ok exec_read, exec_bind_ok exec_get, remembers] at ran ⊢
  cases known : slot.get (w.memo k.memo) with
  | some value => exact .still (.refl w)
  | none =>
      obtain ⟨v, question, x, ⟨τ', inv⟩, before, asks, ⟨operands, rest, rfl, covered⟩, same⟩ :=
        opens facts w ⟨τ, inv'⟩
      rw [known] at ran
      dsimp only at ran ⊢
      obtain ⟨entry', found', content', -⟩ := inv.remembers within
      -- what was asked on the way is of other kinds
      have none : slot.get (v.memo k.memo) = none := by
        obtain ⟨first, found₀, -, learnt⟩ :=
          before.kept k.memo (World.lt_size_of_find? found) entry' found'
        obtain rfl := Option.some.inj (found₀.symm.trans found)
        have unknown : ¬ entry'.content.knows kind := by
          refine fun now => (learnt kind now).elim (fun then' => ?_) fun asks => other asks.2
          rw [content, Content.knows, tracks.knows, known] at then'
          exact Bool.false_ne_true then'
        rw [content', Content.knows, tracks.knows] at unknown
        simpa using unknown
      rw [exec_bind_ok (exec_ask _ _ _ (inv.isLoaded within.ne_zero))] at same
      have silent := covered.holds (v.note (.asked question operands (some k.memo)))
      rcases asked : rest.exec (side.setting engine)
        (v.note (.asked question operands (some k.memo))) with ⟨fault | a, u⟩
      · rw [asked] at same
        rw [exec_bind_error same] at ran
        cases (Prod.mk.inj ran).1
      · rw [asked] at same silent
        rw [exec_bind_ok same, exec_bind_ok (exec_update _), exec_pure]
        have learns := World.recalling_remember tracks found' content' none asks silent a
        exact (before.mono (Askable.only_mono fun _ => .inl)).trans
          (learns.mono (Askable.only_mono fun _ => .inr))

/-- An answer that is asked for at once is asked for once. -/
theorem recalls_memoized {slot : MemoSlot α} {kind : MemoKind} {question : Question}
    {answer : Act α} (tracks : slot.Tracks kind) (asks : question.memoKind? = some kind)
    (on : side.remembers = true) (within : Within held (.cursor k))
    (opens : Opens (side.setting engine) question k.memo answer)
    (returns : ∀ facts w, At engine side held facts w → ∃ a v,
      (memoized k.memo slot answer).exec (side.setting engine) w = (.ok a, v)) :
    Recalls engine side held (.only k.memo (· = kind)) (memoized k.memo slot answer) :=
  (recalls_memoized_after (K := fun _ => False) tracks id on within
    (fun _ w inv => ⟨w, question, answer, inv, .still (.refl w), asks, opens, rfl⟩) returns).mono
    (Askable.only_mono fun _ found => found.resolve_left id)

theorem recalls_spelling (on : side.remembers = true) (usable : Usable engine held k) :
    Recalls engine side held (.only k.memo (· = .spelling)) k.spelling :=
  recalls_memoized CursorMemo.spelling_tracks rfl on (within_memo usable)
    (Opens.ask _ _).bind (tells_spelling usable).returns

theorem recalls_displayName (on : side.remembers = true) (usable : Usable engine held k) :
    Recalls engine side held (.only k.memo (· = .displayName)) k.displayName :=
  recalls_memoized CursorMemo.displayName_tracks rfl on (within_memo usable)
    (Opens.ask _ _).bind (tells_displayName usable).returns

theorem recalls_hash (on : side.remembers = true) (usable : Usable engine held k) :
    Recalls engine side held (.only k.memo (· = .hash)) k.hash :=
  recalls_memoized CursorMemo.hash_tracks rfl on (within_memo usable)
    (Opens.ask _ _) (tells_hash usable).returns

theorem recalls_location (on : side.remembers = true) (usable : Usable engine held k) :
    Recalls engine side held (.only k.memo (· = .location)) k.location :=
  recalls_memoized CursorMemo.location_tracks rfl on (within_memo usable)
    (Opens.ask _ _).bind.bind (tells_location usable).returns

theorem recalls_extent (on : side.remembers = true) (usable : Usable engine held k) :
    Recalls engine side held (.only k.memo (· = .extent)) k.extent :=
  recalls_memoized CursorMemo.extent_tracks rfl on (within_memo usable)
    (Opens.ask _ _).bind.bind (tells_extent usable).returns

theorem recalls_type (on : side.remembers = true) (usable : Usable engine held k) :
    Recalls engine side held (.only k.memo (· = .type)) k.type :=
  recalls_memoized CursorMemo.type_tracks rfl on (within_memo usable)
    (Opens.ask _ _).bind.bind (tells_type usable).returns

theorem returns_of_keep [Likeness α] [Entity α] {x : Act α} {R : α → Prop}
    (quiet : Quiet engine side held (do Act.keep (← x)) owners R) :
    ∀ facts w, At engine side held facts w → ∃ a v, x.exec (side.setting engine) w = (.ok a, v) := by
  intro facts w inv
  obtain ⟨b, v, ran, -⟩ := quiet facts w inv
  rcases began : x.exec (side.setting engine) w with ⟨fault | a, u⟩
  · rw [exec_bind_error began] at ran
    exact nomatch (Prod.mk.inj ran).1
  · exact ⟨a, u, rfl⟩

theorem recalls_canonical (on : side.remembers = true) (usable : Usable engine held k) :
    Recalls engine side held (.only k.memo (· = .canonical)) k.canonical :=
  recalls_memoized CursorMemo.canonical_tracks rfl on (within_memo usable)
    (Opens.ask _ _).bind.bind (returns_of_keep (quiet_canonical usable))

theorem recalls_semanticParent (on : side.remembers = true) (usable : Usable engine held k) :
    Recalls engine side held (.only k.memo (· = .semanticParent)) k.semanticParent :=
  recalls_memoized CursorMemo.semanticParent_tracks rfl on (within_memo usable)
    (Opens.ask _ _).bind.bind (returns_of_keep (quiet_semanticParent usable))

theorem recalls_lexicalParent (on : side.remembers = true) (usable : Usable engine held k) :
    Recalls engine side held (.only k.memo (· = .lexicalParent)) k.lexicalParent :=
  recalls_memoized CursorMemo.lexicalParent_tracks rfl on (within_memo usable)
    (Opens.ask _ _).bind.bind (returns_of_keep (quiet_lexicalParent usable))

/-- The value of a constant is asked for once the type is known. -/
theorem recalls_constant (on : side.remembers = true) (usable : Usable engine held k)
    (constant : (engine.cursor k.raw.value).kind = .enumConstantDecl) :
    Recalls engine side held (.only k.memo fun kind => kind = .type ∨ kind = .enumValue)
      (memoized k.memo CursorMemo.enumValueSlot do
        let unsigned := (← (← integerType (← k.type)).kind).isUnsignedInteger
        let value ← k.raw.ask (.enumConstant unsigned) (fun engine c => (engine.cursor c).value)
          k.memo
        return if unsigned then .unsigned (.ofInt value) else .signed (.ofInt value)) := by
  refine recalls_memoized_after (K := (· = .type)) CursorMemo.enumValue_tracks nofun on
    (within_memo usable) (fun facts w inv => ?_) (tells_constant usable constant).returns
  -- whether the value is read as unsigned depends on the type, which may be asked for now
  have tells : Tells engine side held (do (← integerType (← k.type)).kind) fun _ => True := by
    refine (tells_type usable).bind ?_
    rintro _ rfl
    refine (tells_integerType ⟨usable.coherent.1, (usable_unit usable).within⟩).bind ?_
    rintro _ rfl
    exact SourceType.tells_kind.mono fun _ _ => trivial
  have recalls : Recalls engine side held (.only k.memo (· = .type))
      (do (← integerType (← k.type)).kind) := (recalls_type on usable).bind
  have before := recalls facts w inv
  obtain ⟨kind, v, ran, -, inv⟩ := tells facts w inv
  rw [ran] at before
  let rest (kind : TypeKind) : Act EnumValue := do
    let value ← k.raw.ask (.enumConstant kind.isUnsignedInteger)
      (fun engine c => (engine.cursor c).value) k.memo
    return if kind.isUnsignedInteger then .unsigned (.ofInt value) else .signed (.ofInt value)
  refine ⟨v, .enumConstant kind.isUnsignedInteger, rest kind, by simpa using inv, before, rfl,
    (Opens.ask _ _).bind, Eq.trans ?_ (exec_bind_ok (f := rest) ran)⟩
  simp only [bind_assoc]
  rfl

theorem recalls_enumValue (on : side.remembers = true) (usable : Usable engine held k) :
    Recalls engine side held (.only k.memo fun kind => kind = .type ∨ kind = .enumValue)
      k.enumValue := by
  have kind : Tells engine side held k.kind (· = (engine.cursor k.raw.value).kind) :=
    Raw.tells_ask (lends_origin usable) _ _ _
  unfold enumValue
  refine .after kind .of_still ?_
  rintro _ rfl
  cases constant : (engine.cursor k.raw.value).kind == CursorKind.enumConstantDecl with
  | true => exact recalls_constant on usable (beq_iff_eq.1 constant)
  | false =>
      -- a refusal shows the kind only, which is not remembered
      have refused : require k "enum_value" "an enum constant declaration" false =
          (do fail (.precondition "enum_value" "an enum constant declaration"
            (← k.kind).inspect.render)) := rfl
      rw [refused, bind_assoc]
      exact .of_still

/-- What a location has learnt of itself is remembered with it. -/
theorem recalling_relocate (w : World) (c : CellId) {l : SourceLocation}
    (expanded : l.expansion.isSome) :
    w.Recalling (.only c (· = .location)) (w.remember c CursorMemo.locationSlot l) := by
  unfold World.remember
  split
  next count resource memo found =>
    have more : memo.Extends (CursorMemo.locationSlot.set memo l) :=
      ⟨fun kind known => by cases kind <;> first | exact known | rfl, fun _ => expanded,
        fun _ known => known, fun _ known => known, fun _ known => known⟩
    have put : w.Recalling (.only c (· = .location))
        (w.put c (some ⟨count, resource, .memo (CursorMemo.locationSlot.set memo l)⟩)) :=
      { trace := ⟨[], rfl, fun _ _ absent => absurd absent List.not_mem_nil,
          fun _ _ => ⟨Nat.zero_le 1, fun asked => absurd rfl asked⟩⟩
        size := (World.size_cells_put ..).ge
        kept := fun d _ entry' found' => by
          rw [World.find?_put found] at found'
          split at found'
          next same =>
            subst same
            obtain rfl := Option.some.inj found'
            exact ⟨_, found, .memo more, fun kind known =>
              (CursorMemo.location_tracks.learns memo l kind known).imp_right (⟨rfl, ·⟩)⟩
          next => exact ⟨entry', found', .refl _, fun _ known => .inl known⟩ }
    exact put.trans (.still (.sheds (.release _ _)))
  next => exact .still (.refl w)

theorem recalls_expansion (on : side.remembers = true) (usable : Usable engine held k) :
    Recalls engine side held (.only k.memo (· = .location)) k.expansion := by
  refine .after (tells_location usable) (recalls_location on usable) fun l is => ?_
  refine .after (SourceLocation.tells_expand (usable_location usable is)) .of_still ?_
  rintro _ rfl
  let expanded : SourceLocation := { l with expansion := some l.answer }
  have kept : (still (side.setting engine)).Covers (keep expanded) := inferInstance
  exact fun facts w _ => (World.Recalling.still (kept.holds w)).trans
    (recalling_relocate _ k.memo rfl)

theorem recalls_inspect (on : side.remembers = true) (usable : Usable engine held k) :
    Recalls engine side held (.only k.memo (· ≠ .unitSpelling)) k.inspect := by
  have kind : Tells engine side held k.kind (· = (engine.cursor k.raw.value).kind) :=
    Raw.tells_ask (lends_origin usable) _ _ _
  refine .after kind .of_still fun _ _ => ?_
  refine .after (tells_spelling usable) ((recalls_spelling on usable).mono ?_) fun _ _ =>
    .bind ((recalls_expansion on usable).mono ?_)
  all_goals
    refine Askable.only_mono ?_
    rintro _ rfl
    nofun

theorem mem_of_lookup {β : Type} {name : String} {table : List (String × β)} {b : β}
    (found : table.lookup name = some b) : (name, b) ∈ table := by
  obtain ⟨before, after, rfl, -⟩ := List.lookup_eq_some_iff.1 found
  exact List.mem_append_right _ List.mem_cons_self

/-- Queries have names only for texts that are not remembered. -/
theorem free_of_ofName? {name : String} {args : Json} {query : CursorQuery} {text : CursorText}
    (named : CursorQuery.ofName? name args = some query)
    (asks : query = .text text ∨ query = .comment text) : (Question.cursorText text).Free := by
  have member : (name, query) ∈ CursorQuery.names := by
    rcases (Option.orElse_eq_some _ _ _).1 named with found | ⟨-, named⟩
    · exact mem_of_lookup found
    rcases (Option.orElse_eq_some _ _ _).1 named with flagged | ⟨-, found⟩
    · obtain ⟨flag, -, rfl⟩ := Option.map_eq_some_iff.1 flagged
      simp at asks
    · obtain ⟨made, listed, rfl⟩ := Option.map_eq_some_iff.1 found
      have indexed := mem_of_lookup listed
      simp only [CursorQuery.indexedNames, List.mem_cons, Prod.mk.injEq, List.not_mem_nil,
        or_false] at indexed
      rcases indexed with ⟨-, rfl⟩ | ⟨-, rfl⟩ | ⟨-, rfl⟩ | ⟨-, rfl⟩ <;> simp at asks
  have others : ∀ entry ∈ CursorQuery.names, ∀ text ∈ [CursorText.spelling, .displayName],
      entry.2 ≠ .text text ∧ entry.2 ≠ .comment text := by
    decide
  cases text with
  | spelling => exact absurd asks (not_or.2 (others _ member _ (by decide)))
  | displayName => exact absurd asks (not_or.2 (others _ member _ (by decide)))
  | _ => exact ⟨rfl, rfl⟩

/-- Whatever a cursor is asked, it asks for its own memo only. -/
theorem recalls_answer (on : side.remembers = true) (usable : Usable engine held k) {name : String}
    {args : Json} {query : CursorQuery} (named : CursorQuery.ofName? name args = some query) :
    Recalls engine side held (.only k.memo (· ≠ .unitSpelling)) (k.answer query) := by
  have kinds (kind : MemoKind) (other : kind ≠ .unitSpelling) :
      ∀ c asked, Askable.only k.memo (· = kind) c asked →
        Askable.only k.memo (· ≠ .unitSpelling) c asked :=
    Askable.only_mono fun _ same => same ▸ other
  cases query with
  | spelling => exact .bind ((recalls_spelling on usable).mono (kinds _ nofun))
  | displayName => exact .bind ((recalls_displayName on usable).mono (kinds _ nofun))
  | hash => exact .bind ((recalls_hash on usable).mono (kinds _ nofun))
  | hashFeed => exact .bind ((recalls_hash on usable).mono (kinds _ nofun))
  | location => exact .bind ((recalls_location on usable).mono (kinds _ nofun))
  | extent => exact .bind ((recalls_extent on usable).mono (kinds _ nofun))
  | tokens => exact .bind (.bind ((recalls_extent on usable).mono (kinds _ nofun)))
  | type => exact .bind ((recalls_type on usable).mono (kinds _ nofun))
  | canonical => exact .bind ((recalls_canonical on usable).mono (kinds _ nofun))
  | semanticParent => exact .bind ((recalls_semanticParent on usable).mono (kinds _ nofun))
  | lexicalParent => exact .bind ((recalls_lexicalParent on usable).mono (kinds _ nofun))
  | enumValue =>
      have := covers_shown (still (side.setting engine))
      refine .bind ((recalls_enumValue on usable).mono (Askable.only_mono ?_))
      -- the type is asked for as well
      rintro _ (rfl | rfl) <;> nofun
  | debug => exact .bind (recalls_inspect on usable)
  | text text =>
      have := free_of_ofName? named (.inl rfl)
      simp only [answer, Cursor.text]
      exact .of_still
  | comment text =>
      have := free_of_ofName? named (.inr rfl)
      simp only [answer]
      exact .of_still
  | _ =>
      -- all other answers are asked for anew each time
      simp only [answer, kindSpelling, fieldOffset, bitfieldWidth, resultType,
        underlyingTypedefType, enumType, linked, includedFile, arguments, Walk.make,
        templateArgumentCount, templateArgumentKind, templateArgumentType, templateArgumentValue,
        templateArgumentUnsignedValue]
      exact .of_still

end Cursor

/-! ## Units -/

open Act

variable {engine : Engine} {side : Side} {held : Held}

namespace SourceUnit

variable {u : SourceUnit}

theorem recalls_spelling (on : side.remembers = true) (usable : Usable engine held u) :
    Recalls engine side held (.only u.cell (· = .unitSpelling)) u.spelling := by
  rintro facts w ⟨τ, inv⟩
  have within : Within held (.unit u) := usable.within _ (.head _)
  obtain ⟨-, entry, found, describes⟩ := inv.alive within
  obtain ⟨-, remembered, content⟩ := describes.unit
  have known : w.unitSpelling? u.cell = remembered := by
    obtain ⟨count, resource, _⟩ := entry
    subst content
    rw [World.unitSpelling?, show w.find? u.cell = _ from found]
  have remembers : (side.setting engine).remembers = true := on
  unfold spelling
  rw [exec_bind_ok exec_read, exec_bind_ok exec_get, known, remembers]
  cases remembered with
  | some spelling => exact .still (.refl w)
  | none =>
      rw [exec_bind_ok (exec_ask _ _ _ (inv.isLoaded within.ne_zero)),
        exec_bind_ok (exec_table _), exec_bind_ok exec_engine, exec_bind_ok (exec_text _),
        exec_bind_ok (exec_update _)]
      let asked := w.note (.asked .unitSpelling [u.resource] (some u.cell))
      have told (text : EngineText) : asked.Still (asked.tell text) :=
        .talk rfl (textLife asked.texts text) rfl (by simp [textLife, Event.recalls?])
      have unknown : ¬ entry.content.knows .unitSpelling := by
        rw [content]
        rintro ⟨⟩
      refine World.recalling_learn found unknown rfl (told _)
        (.inr ⟨entry, found, World.setUnitSpelling_eq (w := asked.tell _) found content _⟩) ?_ rfl ?_
      · rw [content]
        exact .unit _ _
      · intro kind known
        cases kind <;> first | exact .inr rfl | cases known

theorem tells_spelling (usable : Usable engine held u) :
    Tells engine side held u.spelling fun _ => True := by
  intro facts w inv
  obtain ⟨spelling, v, ran, -, inv⟩ := ensures_spelling usable facts w inv
  exact ⟨spelling, v, ran, trivial, by simpa using inv⟩

theorem recalls_inspect (on : side.remembers = true) (usable : Usable engine held u) :
    Recalls engine side held (.only u.cell (· = .unitSpelling)) u.inspect :=
  .bind (recalls_spelling on usable)

/-- The positions of a file are in the unit of the file. -/
theorem returns_place (file : SourceFile) (position : FilePosition) :
    (file.place position).Returns fun l => l.unit = file.unit ∧ l.anchor = none := by
  cases position <;> exact .bind fun _ => .pure ⟨rfl, rfl⟩

/-- Two positions of one file make a range, so that no unit has to be named. -/
instance (setting : Setting) (name : Bytes) (start stop : FilePosition) :
    (still setting).Covers (u.extent? name start stop) := by
  have (file : SourceFile) : (still setting).Covers (do
      SourceRange.ofLocations (← file.place start) (← file.place stop)) := by
    refine .after fun w first v began => .after fun w second v ended => ?_
    obtain ⟨unit, anchor⟩ := returns_place file start _ _ _ _ began
    obtain ⟨unit', anchor'⟩ := returns_place file stop _ _ _ _ ended
    have same : (first.unit.same second.unit && sameAnchor first.anchor second.anchor) = true := by
      simp [unit, unit', anchor, anchor', SourceUnit.same, sameAnchor]
    unfold SourceRange.ofLocations
    rw [if_pos same]
    infer_instance
  unfold extent?
  infer_instance

theorem recalls_tokens (on : side.remembers = true) (u : SourceUnit) {range : SourceRange}
    (usable : Usable engine held range) :
    Recalls engine side held (.only range.unit.cell (· = .unitSpelling)) (u.tokens range) := by
  have unit : Usable engine held range.unit :=
    ⟨trivial, fun o member => usable.within o (List.mem_append_left _ member)⟩
  unfold tokens
  split
  next => exact .bind (recalls_spelling on unit)
  next => exact .of_still

end SourceUnit

/-- Two locations that do not go together are refused with the names of their units. -/
theorem SourceRange.recalls_ofLocations (on : side.remembers = true) {start stop : SourceLocation}
    (usable : Usable engine held start) (usable' : Usable engine held stop) :
    Recalls engine side held
      (fun c kind => (c = start.unit.cell ∨ c = stop.unit.cell) ∧ kind = .unitSpelling)
      (ofLocations start stop) := by
  have unit := SourceLocation.usable_unit usable
  unfold ofLocations
  split
  next => exact .of_still
  next =>
    refine .after (SourceUnit.tells_spelling unit) ((SourceUnit.recalls_spelling on unit).mono ?_)
      fun _ _ => .bind ((SourceUnit.recalls_spelling on (SourceLocation.usable_unit usable')).mono ?_)
    · exact fun c kind asks => ⟨.inl asks.1, asks.2⟩
    · exact fun c kind asks => ⟨.inr asks.1, asks.2⟩

/-! ## Objects -/

namespace Object

/-- What an object may ask that can be remembered. Cursors ask for their memos; units are asked for
their names, also by their diagnostics and where locations and ranges are refused. -/
def askable : Object → Askable
  | .cursor k => .only k.memo (· ≠ .unitSpelling)
  | .unit u => .only u.cell (· = .unitSpelling)
  | .diagnostics list => .only list.unit.cell (· = .unitSpelling)
  | .location l => .only l.unit.cell (· = .unitSpelling)
  | .range r => .only r.unit.cell (· = .unitSpelling)
  | _ => fun _ _ => False

variable {object first second : Object} {name : String} {args : Json} {act : Act Turn}

/-- A turn of an object asks only what the object may ask. -/
theorem recalls_turn? (on : side.remembers = true) (usable : Usable engine held object)
    (found : object.turn? name args = some act) :
    Recalls engine side held object.askable act := by
  cases object with
  | cursor k =>
      obtain ⟨query, named, rfl⟩ := Option.map_eq_some_iff.1 found
      exact .bind (Cursor.recalls_answer on ⟨usable.coherent, usable.within⟩ named)
  | unit u =>
      obtain ⟨query, -, rfl⟩ := Option.map_eq_some_iff.1 found
      have usable : Usable engine held u := ⟨usable.coherent, usable.within⟩
      refine .bind ?_
      cases query with
      | spelling => exact .bind (SourceUnit.recalls_spelling on usable)
      | debug => exact .bind (SourceUnit.recalls_inspect on usable)
      | _ =>
          simp only [SourceUnit.answer, SourceUnit.diagnostics]
          exact .of_still
  | diagnostics list =>
      obtain ⟨query, -, rfl⟩ := Option.map_eq_some_iff.1 found
      have usable : Usable engine held list.unit := ⟨trivial, usable.within⟩
      refine .bind ?_
      cases query with
      | debug => exact .bind (.bind (SourceUnit.recalls_inspect on usable))
      | _ =>
          simp only [DiagnosticList.answer]
          exact .of_still
  | _ =>
      -- what locations and chunks learn is not in a cell
      obtain ⟨query, -, rfl⟩ := Option.map_eq_some_iff.1 found
      exact .of_still

/-- A turn of two objects asks what either of them may ask. -/
theorem recalls_pairTurn? {query : PairQuery} (on : side.remembers = true)
    (usable : Usable engine held first) (usable' : Usable engine held second)
    (found : first.pairTurn? second query = some act) :
    Recalls engine side held (fun c kind => first.askable c kind ∨ second.askable c kind) act := by
  unfold pairTurn? at found
  split at found <;> cases found
  case h_8 start stop =>
    have usable : Usable engine held start := ⟨usable.coherent, usable.within⟩
    have usable' : Usable engine held stop := ⟨usable'.coherent, usable'.within⟩
    refine .bind (.bind ((SourceRange.recalls_ofLocations on usable usable').mono ?_))
    exact fun c kind asks => asks.1.imp (⟨·, asks.2⟩) (⟨·, asks.2⟩)
  case h_9 u range =>
    have usable' : Usable engine held range := ⟨usable'.coherent, usable'.within⟩
    exact .bind (.bind ((SourceUnit.recalls_tokens on u usable').mono fun _ _ => .inr))
  all_goals exact .of_still

end Object

end SourceAtlas
