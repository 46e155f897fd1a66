import SourceAtlas.Proofs.Memo

/-!
# What is remembered

The answers that cursors, locations, chunks and units remember. Each is what the engine would answer
now, whether it is asked or not. The answers about a cursor come from its memo: some are lent by it,
and cursors that it remembers are handed out with references of their own.
-/

namespace SourceAtlas

variable {engine : Engine} {side : Side} {facts : Facts} {held : Held} {α : Type}

/-- Whether an entity is coherent and what it refers to is within reach. -/
structure Usable [Holder α] [Likeness α] [Entity α] (engine : Engine) (held : Held) (a : α) :
    Prop where
  coherent : Coherent engine a
  within : ∀ o ∈ owners a, Within held o

theorem Usable.mono [Holder α] [Likeness α] [Entity α] {engine : Engine} {held more : Held} {a : α}
    (usable : Usable engine held a) (le : held ≤ more) : Usable engine more a :=
  ⟨usable.coherent, fun o member => (usable.within o member).mono le⟩

theorem lends_unit {unit : SourceUnit} (usable : Usable engine held unit) :
    Lends held unit.resource :=
  ⟨_, usable.within _ (.head _), rfl⟩

theorem lends_anchor {unit : SourceUnit} {anchor : Option Completion}
    (unitUsable : Usable engine held unit) (anchorUsable : Usable engine held anchor) :
    Lends held (anchorResource unit anchor) := by
  cases anchor with
  | none => exact lends_unit unitUsable
  | some results => exact ⟨_, anchorUsable.within _ (.head _), rfl⟩

/-- Two values belong to one resource if and only if they come from one unit with one anchor. -/
theorem Inv.same_source_iff {τ : Typing} {w : World} (inv : Inv engine side facts τ held w)
    {r s : Resource} {u v : SourceUnit} {a b : Option Completion} (first : Usable engine held u)
    (anchored : Usable engine held a) (comes : Comes r u a) (second : Usable engine held v)
    (anchored' : Usable engine held b) (comes' : Comes s v b) :
    (u.same v && sameAnchor a b) = true ↔ r = s := by
  obtain ⟨rfl, belongs⟩ := comes
  obtain ⟨rfl, belongs'⟩ := comes'
  have units : u.cell = v.cell ↔ u.resource = v.resource :=
    inv.cell_eq_iff (first.within _ (.head _)) (second.within _ (.head _)) rfl rfl
  -- the resources of units and of completion results differ in kind
  have apart {v : SourceUnit} {c : Completion} (unit : Usable engine held v)
      (results : Usable engine held (some c)) : v.resource ≠ c.resource := by
    intro same
    have sort := inv.books.kind (inv.alive (unit.within _ (.head _))).1 rfl
    have sort' := inv.books.kind (inv.alive (results.within _ (.head _))).1 rfl
    rw [same] at sort
    exact nomatch sort.trans sort'.symm
  rw [Bool.and_eq_true, SourceUnit.same, beq_iff_eq]
  cases a with
  | none =>
      cases b with
      | none => exact (and_iff_left rfl).trans units
      | some d => exact ⟨fun same => (nomatch same.2), fun same => absurd same (apart first anchored')⟩
  | some c =>
      cases b with
      | none =>
          exact ⟨fun same => (nomatch same.2), fun same => absurd same.symm (apart second anchored)⟩
      | some d =>
          have results : c.cell = d.cell ↔ c.resource = d.resource :=
            inv.cell_eq_iff (anchored.within _ (.head _)) (anchored'.within _ (.head _)) rfl rfl
          -- results in one cell are the same results, and these know their unit
          refine ⟨fun same => results.1 (beq_iff_eq.1 same.2), fun same => ⟨?_, ?_⟩⟩
          · have owns : τ c.cell = some (.completion c) :=
              (inv.alive (anchored.within _ (.head _))).1
            have owns' : τ d.cell = some (.completion d) :=
              (inv.alive (anchored'.within _ (.head _))).1
            rw [results.2 same] at owns
            obtain rfl := Owner.completion.inj (Option.some.inj (owns.symm.trans owns'))
            rw [← belongs c rfl, ← belongs' c rfl]
          · exact beq_iff_eq.2 (results.2 same)

/-! ## Locations -/

namespace SourceLocation

variable {location : SourceLocation}

theorem usable_unit (usable : Usable engine held location) :
    Usable engine held location.unit :=
  ⟨trivial, fun o member =>
    usable.within o (List.mem_append_left _ (List.mem_append_left _ member))⟩

theorem usable_anchor (usable : Usable engine held location) :
    Usable engine held location.anchor :=
  ⟨fun _ _ => trivial, fun o member =>
    usable.within o (List.mem_append_left _ (List.mem_append_right _ member))⟩

theorem lends_origin (usable : Usable engine held location) : Lends held location.raw.origin := by
  rw [usable.coherent.1.origin_eq]
  exact lends_anchor (usable_unit usable) (usable_anchor usable)

theorem tells_expand (usable : Usable engine held location) :
    Act.Tells engine side held location.expand (· = location.answer) := by
  intro facts w inv
  unfold expand
  rw [Act.exec_bind_ok Act.exec_read]
  split
  next _ _ expansion _ known =>
    exact Act.Tells.pure (R := (· = location.answer)) (usable.coherent.2 expansion known) facts w
      inv
  next =>
    refine Act.Tells.map (Raw.tells_ask (lends_origin usable) .expansion (fun _ place => place)
      none) ?_ facts w inv
    rintro _ rfl
    rfl

/-- A location may remember what the engine says about it. -/
theorem usable_expanded (usable : Usable engine held location) :
    Usable engine held { location with expansion := some location.answer } where
  coherent := by
    refine ⟨usable.coherent.1, ?_⟩
    rintro _ ⟨⟩
    rfl
  within o member := by
    rcases List.mem_append.1 member with member | member
    · exact usable.within o (List.mem_append_left _ member)
    · exact (usable_unit usable).within o (SourceFile.owners_ofRaw? _ _ o member)

end SourceLocation

/-! ## Cursors -/

namespace Cursor

variable {k : Cursor}

theorem usable_unit (usable : Usable engine held k) : Usable engine held k.unit :=
  ⟨trivial, fun o member => usable.within o (by
    obtain rfl := List.mem_singleton.1 member
    exact List.mem_cons_self)⟩

theorem within_memo (usable : Usable engine held k) : Within held (.cursor k) :=
  usable.within _ (.tail _ (.head _))

theorem within_unit (usable : Usable engine held k) : Within held (.unit k.unit) :=
  usable.within _ (.head _)

theorem lends_origin (usable : Usable engine held k) : Lends held k.raw.origin :=
  ⟨_, within_unit usable, congrArg some usable.coherent.1.symm⟩

/-- An answer that is good regardless of other cells is told whether it was remembered or not. -/
theorem tells_memoized [Holder α] {slot : MemoSlot α} {Good : Cursor → α → Prop}
    (lawful : slot.Lawful engine fun _ => Good) {answer : Act α} (more : α → List Owner)
    (hold : ∀ a, refs a = (more a).map Owner.cell) (usable : Usable engine held k)
    (answers : Act.Quiet engine side held answer more (Good k)) :
    Act.Tells engine side held (Act.memoized k.memo slot answer) (Good k) := by
  intro facts w inv
  have ensures : Act.Ensures (side.setting engine) (At engine side held facts)
      (Act.memoized k.memo slot answer) _ :=
    Act.ensures_memoized lawful hold (within_memo usable) fun τ w inv => by
      obtain ⟨a, v, ran, good, τ', inv'⟩ := answers facts w ⟨τ, inv⟩
      exact ⟨a, v, τ', ran, inv', good⟩
  obtain ⟨a, v, ran, τ, inv, -, good⟩ := ensures w inv
  exact ⟨a, v, ran, good, τ, by simpa using inv⟩

theorem tells_spelling (usable : Usable engine held k) :
    Act.Tells engine side held k.spelling
      (· = (engine.cursorText k.raw.value .spelling).decoded) :=
  tells_memoized CursorMemo.spelling_lawful (fun _ => []) (fun _ => rfl) usable
    (Raw.tells_askText (lends_origin usable) _ _ _)

theorem tells_displayName (usable : Usable engine held k) :
    Act.Tells engine side held k.displayName
      (· = (engine.cursorText k.raw.value .displayName).decoded) :=
  tells_memoized CursorMemo.displayName_lawful (fun _ => []) (fun _ => rfl) usable
    (Raw.tells_askText (lends_origin usable) _ _ _)

theorem tells_hash (usable : Usable engine held k) :
    Act.Tells engine side held k.hash (· = engine.cursorHash k.raw.value) :=
  tells_memoized CursorMemo.hash_lawful (fun _ => []) (fun _ => rfl) usable
    (Raw.tells_ask (lends_origin usable) _ _ _)

/-- What the location of a cursor is. -/
def HasLocation (engine : Engine) (k : Cursor) (l : SourceLocation) : Prop :=
  l.raw = ⟨(engine.cursor k.raw.value).location, k.raw.origin⟩ ∧ l.unit = k.unit ∧
    l.anchor = none ∧ l.Remembers

theorem usable_location (usable : Usable engine held k) {l : SourceLocation}
    (is : k.HasLocation engine l) : Usable engine held l := by
  obtain ⟨raw, unit, anchor, remembers⟩ := is
  refine ⟨⟨?_, remembers⟩, ?_⟩
  · rw [raw, unit, anchor]
    exact .of_unit usable.coherent.1
  · intro o member
    have member : o ∈ owners l.unit := by
      rcases List.mem_append.1 member with member | member
      · rcases List.mem_append.1 member with member | member
        · exact member
        · rw [anchor] at member
          exact absurd member List.not_mem_nil
      · exact remembers.owners_subset o member
    rw [unit] at member
    exact (usable_unit usable).within o member

theorem tells_location (usable : Usable engine held k) :
    Act.Tells engine side held k.location (k.HasLocation engine) := by
  refine tells_memoized CursorMemo.location_lawful owners Entity.refs_eq usable ?_
  refine (Raw.tells_derive (lends_origin usable) _ _ _).bind ?_
  rintro _ rfl
  refine (Act.quiet_keep ?_).mono ?_
  · intro o member
    have member : o ∈ owners k.unit := by simpa [owners] using member
    exact (usable_unit usable).within o member
  · rintro _ rfl
    exact ⟨rfl, rfl, rfl, fun _ absent => nomatch absent⟩

theorem tells_extent (usable : Usable engine held k) :
    Act.Tells engine side held k.extent
      (· = { raw := ⟨(engine.cursor k.raw.value).extent, k.raw.origin⟩, unit := k.unit }) := by
  refine tells_memoized CursorMemo.extent_lawful owners Entity.refs_eq usable ?_
  refine (Raw.tells_derive (lends_origin usable) _ _ _).bind ?_
  rintro _ rfl
  refine Act.quiet_keep ?_
  intro o member
  have member : o ∈ owners k.unit := by simpa [owners] using member
  exact (usable_unit usable).within o member

theorem tells_type (usable : Usable engine held k) :
    Act.Tells engine side held k.type
      (· = ⟨⟨(engine.cursor k.raw.value).type .type, k.raw.origin⟩, k.unit⟩) := by
  refine tells_memoized CursorMemo.type_lawful owners Entity.refs_eq usable ?_
  refine (Raw.tells_derive (lends_origin usable) _ _ _).bind ?_
  rintro _ rfl
  exact Act.quiet_keep (usable_unit usable).within

/-- What the expansion of a cursor's location is. -/
def placed (engine : Engine) (k : Cursor) : Expansion :=
  SourceLocation.answer
    { raw := ⟨(engine.cursor k.raw.value).location, k.raw.origin⟩, unit := k.unit }

theorem HasLocation.answer {l : SourceLocation} (is : k.HasLocation engine l) :
    l.answer = k.placed engine := by
  obtain ⟨raw, unit, -, -⟩ := is
  rw [SourceLocation.answer, raw, unit]
  rfl

theorem tells_expansion (usable : Usable engine held k) :
    Act.Tells engine side held k.expansion (· = k.placed engine) := by
  refine (tells_location usable).bind fun l is => ?_
  have usableL := usable_location usable is
  refine (SourceLocation.tells_expand usableL).bind ?_
  rintro _ rfl
  have expanded : k.HasLocation engine { l with expansion := some l.answer } := by
    refine ⟨is.1, is.2.1, is.2.2.1, ?_⟩
    rintro _ ⟨⟩
    rfl
  rintro facts w inv
  have kept : Act.Quiet engine side held (Act.keep _) owners _ :=
    Act.quiet_keep (usable_location usable expanded).within
  obtain ⟨_, v, ran, rfl, τ, inv⟩ := kept facts w inv
  obtain ⟨inv, -⟩ := inv.remember CursorMemo.location_lawful (Entity.refs_eq _)
    (within_memo usable) expanded
  refine ⟨_, _, (Act.exec_bind_ok ran).trans rfl, is.answer, τ, ?_⟩
  simpa using inv

end Cursor

/-! ## Integer types -/

namespace SourceType

variable {t : SourceType}

theorem usable_unit (usable : Usable engine held t) : Usable engine held t.unit :=
  ⟨trivial, usable.within⟩

theorem lends_origin (usable : Usable engine held t) : Lends held t.raw.origin := by
  rw [show t.raw.origin = _ from usable.coherent]
  exact lends_unit (usable_unit usable)

/-- Another type of the same unit. -/
def sibling (t : SourceType) (target : Ref) : SourceType :=
  ⟨⟨target, t.raw.origin⟩, t.unit⟩

theorem usable_sibling (usable : Usable engine held t) (target : Ref) :
    Usable engine held (t.sibling target) :=
  ⟨usable.coherent, usable.within⟩

theorem tells_kind : Act.Tells engine side held t.kind (· = (engine.type t.raw.value).kind) :=
  Act.tells_engine.map fun _ same => by rw [same]

theorem tells_follow (usable : Usable engine held t) (link : TypeLink) :
    Act.Tells engine side held (t.follow link) (· = t.sibling (engine.typeLink t.raw.value link)) :=
  (Raw.tells_derive (lends_origin usable) _ _ _).map fun _ same => by
    rw [same]
    rfl

theorem tells_declarationRaw? (usable : Usable engine held t) :
    Act.Tells engine side held t.declarationRaw?
      (· = (engine.declaration? t.raw.value).map (⟨·, t.raw.origin⟩)) := by
  refine (Raw.tells_derive (lends_origin usable) _ _ _).bind ?_
  rintro _ rfl
  unfold Engine.declaration?
  split
  next none =>
    rw [if_pos none]
    exact Act.Tells.pure rfl
  next some =>
    rw [if_neg some]
    refine (Raw.tells_ask (r := ⟨(engine.type t.raw.value).declaration, t.raw.origin⟩)
      (lends_origin usable) _ _ _).map ?_
    rintro _ rfl
    split <;> rfl

end SourceType

namespace Cursor

variable {k : Cursor} {t : SourceType}

/-- The handle of the integer type of an enumeration, if the cursor is one. -/
theorem tells_enumTypeRaw {r : Raw Ref} (lends : Lends held r.origin)
    (enum : (engine.cursor r.value).kind = .enumDecl) :
    Act.Tells engine side held (enumTypeRaw r)
      (· = ⟨(engine.cursor r.value).type .enumType, r.origin⟩) := by
  refine (Raw.tells_ask lends _ _ _).bind ?_
  rintro _ rfl
  rw [enum]
  exact Raw.tells_derive lends _ _ _

/-- The integer type that a declaration leads to, if it is that of an enumeration. -/
def declared (type : SourceType) : Option (Raw Ref) → Act SourceType
  | none => return type
  | some declaration => do
    let kind ← declaration.ask .cursorKind fun engine c => (engine.cursor c).kind
    if kind != .enumDecl then return type
    SourceType.follow ⟨← enumTypeRaw declaration, type.unit⟩ .canonical

/-- The integer type of an enumeration; other types are left as they are. -/
def underlying (type : SourceType) : Act SourceType := do
  if (← type.kind) != .enum then return type
  declared type (← type.declarationRaw?)

theorem integerType_eq (type : SourceType) : integerType type = (do
    let type ← if (← type.kind) == .elaborated then type.follow .named else pure type
    let type ← if (← type.kind) == .typedef then type.follow .canonical else pure type
    underlying type) :=
  rfl

theorem tells_declared (usable : Usable engine held t) {declaration : Ref} :
    Act.Tells engine side held (declared t (some ⟨declaration, t.raw.origin⟩))
      (· = t.sibling (if (engine.cursor declaration).kind != .enumDecl then t.raw.value
        else engine.typeLink ((engine.cursor declaration).type .enumType) .canonical)) := by
  have lends := SourceType.lends_origin usable
  refine (Raw.tells_ask (r := ⟨declaration, t.raw.origin⟩) lends _ _ _).bind ?_
  rintro _ rfl
  dsimp only
  split
  next => exact Act.Tells.pure rfl
  next enum =>
    refine (tells_enumTypeRaw (r := ⟨declaration, t.raw.origin⟩) lends ?_).bind ?_
    · simpa using enum
    · rintro _ rfl
      exact SourceType.tells_follow (SourceType.usable_sibling usable
        ((engine.cursor declaration).type .enumType)) .canonical

theorem tells_underlying (usable : Usable engine held t) :
    Act.Tells engine side held (underlying t) (· = t.sibling (engine.underlying t.raw.value)) := by
  refine SourceType.tells_kind.bind ?_
  rintro _ rfl
  unfold Engine.underlying
  split
  next => exact Act.Tells.pure rfl
  next =>
    refine (SourceType.tells_declarationRaw? usable).bind ?_
    rintro _ rfl
    cases engine.declaration? t.raw.value with
    | none => exact Act.Tells.pure rfl
    | some declaration => exact tells_declared usable

theorem tells_integerType (usable : Usable engine held t) :
    Act.Tells engine side held (integerType t) (· = t.sibling (engine.integerType t.raw.value)) := by
  have peel {t : SourceType} (target : Ref) {c : Bool} {x y : Act SourceType}
      {f : SourceType → Act SourceType} {R : SourceType → Prop}
      (tells : Act.Tells engine side held (if c then x else y) (· = t.sibling target))
      (next : Act.Tells engine side held (f (t.sibling target)) R) :
      Act.Tells engine side held (if c then x >>= f else y >>= f) R := by
    cases c <;> exact tells.bind fun _ same => by rw [same]; exact next
  rw [integerType_eq]
  refine SourceType.tells_kind.bind ?_
  rintro _ rfl
  refine peel (t := t) (engine.unsugared t.raw.value) ?_ ?_
  · unfold Engine.unsugared
    split
    · exact SourceType.tells_follow usable _
    · exact Act.Tells.pure rfl
  have usable := SourceType.usable_sibling usable (engine.unsugared t.raw.value)
  change Act.Tells _ _ _ _ (· = (t.sibling (engine.unsugared t.raw.value)).sibling
    (engine.underlying (engine.aliased (t.sibling (engine.unsugared t.raw.value)).raw.value)))
  generalize t.sibling (engine.unsugared t.raw.value) = t at usable ⊢
  refine SourceType.tells_kind.bind ?_
  rintro _ rfl
  refine peel (t := t) (engine.aliased t.raw.value) ?_ ?_
  · unfold Engine.aliased
    split
    · exact SourceType.tells_follow usable _
    · exact Act.Tells.pure rfl
  have usable := SourceType.usable_sibling usable (engine.aliased t.raw.value)
  change Act.Tells _ _ _ _ (· = (t.sibling (engine.aliased t.raw.value)).sibling
    (engine.underlying (t.sibling (engine.aliased t.raw.value)).raw.value))
  exact tells_underlying usable

/-- What the memo holds of the value of an enumeration constant. -/
theorem tells_constant (usable : Usable engine held k)
    (constant : (engine.cursor k.raw.value).kind = .enumConstantDecl) :
    Act.Tells engine side held
      (Act.memoized k.memo CursorMemo.enumValueSlot do
        let unsigned := (← (← integerType (← k.type)).kind).isUnsignedInteger
        let value ← k.raw.ask (.enumConstant unsigned) (fun engine c => (engine.cursor c).value)
          k.memo
        return if unsigned then .unsigned (.ofInt value) else .signed (.ofInt value))
      (· = engine.enumValue k.raw.value) := by
  refine (tells_memoized CursorMemo.enumValue_lawful (fun _ => []) (fun _ => rfl) usable ?_).mono
    fun _ good => good.1
  refine (tells_type usable).bind ?_
  rintro _ rfl
  refine (tells_integerType ⟨usable.coherent.1, (usable_unit usable).within⟩).bind ?_
  rintro _ rfl
  refine SourceType.tells_kind.bind ?_
  rintro _ rfl
  refine (Raw.tells_ask (lends_origin usable) _ _ _).map ?_
  rintro _ rfl
  exact ⟨rfl, constant⟩

/-! ## Cursors that are remembered -/

/-- What is remembered may be handed out with references of its own. -/
theorem quiet_keep_memoized [Holder α] [Likeness α] [Entity α] {slot : MemoSlot α}
    {Good : Typing → Cursor → α → Prop} (lawful : slot.Lawful engine Good) {answer : Act α}
    {R : α → Prop} (usable : Usable engine held k)
    (answers : ∀ facts τ w, Inv engine side facts τ held w → ∃ a v τ',
      answer.exec (side.setting engine) w = (.ok a, v) ∧
        Inv engine side facts τ' (owners a + held) v ∧ Good τ' k a)
    (typed : ∀ {τ a o}, Good τ k a → o ∈ owners a → o = .unit k.unit ∨ τ.Owns o)
    (holds : ∀ {τ a}, Good τ k a → R a) :
    Act.Quiet engine side held (do Act.keep (← Act.memoized k.memo slot answer)) owners R := by
  intro facts w inv
  have ensures := Act.ensures_memoized lawful Entity.refs_eq (within_memo usable) (answers facts)
  obtain ⟨a, v, ran, τ, inv, found, good⟩ := ensures w inv
  refine ⟨a, _, (Act.exec_bind_ok ran).trans rfl, holds good, τ, ?_⟩
  refine inv.keep (within_memo usable).ne_zero a fun o member => ?_
  have owns : τ.Owns o := by
    rcases typed good member with rfl | owns
    · exact (inv.alive (within_unit usable)).1
    · exact owns
  obtain ⟨entry, there, content, -⟩ := inv.remembers (within_memo usable)
  have referred : o.cell ∈ refs entry.content := by
    rw [content]
    refine lawful.mem_refs ?_
    rw [found]
    show o.cell ∈ refs a
    rw [Entity.refs_eq]
    exact List.mem_map_of_mem member
  have here := (inv.heap.within (inv.alive (within_memo usable)).1).1
  exact ⟨owns, inv.heap.alive_of_refs here there referred⟩

/-- A new cursor of the same unit may be remembered. -/
theorem make_leadsTo (usable : Usable engine held k) {facts : Facts} {τ : Typing} {w : World}
    (inv : Inv engine side facts τ held w) (target : Ref) :
    ∃ c v τ', (make ⟨target, k.raw.origin⟩ k.unit none).exec (side.setting engine) w =
        (.ok c, v) ∧
      Inv engine side facts τ' (owners c + held) v ∧ k.LeadsTo τ' target c := by
  have unit : Within held (.unit k.unit) := within_unit usable
  have made := inv.make (k := ⟨⟨target, k.raw.origin⟩, k.unit, none, w.cells.size⟩) rfl
    ⟨usable.coherent.1, fun _ absent => nomatch absent⟩ unit
  refine ⟨_, _, _, exec_make _ _ _, made, rfl, rfl, rfl, ?_, if_pos rfl⟩
  exact (inv.heap.within (inv.alive (within_memo usable)).1).2

/-- A new cursor at the end of a link may be remembered. -/
theorem exec_link (usable : Usable engine held k) (link : CursorLink) {facts : Facts} {τ : Typing}
    {w : World} (inv : Inv engine side facts τ held w) :
    ∃ c v τ', (do make (← k.linkRaw link k.memo) k.unit none : Act Cursor).exec
        (side.setting engine) w = (.ok c, v) ∧
      Inv engine side facts τ' (owners c + held) v ∧
      k.LeadsTo τ' (engine.cursorLink k.raw.value link) c := by
  obtain ⟨_, v, ran, rfl, τ, inv⟩ := Raw.tells_derive (lends_origin usable) (.cursorLink link)
    (fun engine c => engine.cursorLink c link) (some k.memo) facts w ⟨τ, inv⟩
  have inv : Inv engine side facts τ held v := by simpa using inv
  obtain ⟨c, v, τ', ran', inv', leads⟩ := make_leadsTo usable inv (engine.cursorLink k.raw.value link)
  exact ⟨c, v, τ', (Act.exec_bind_ok ran).trans ran', inv', leads⟩

theorem LeadsTo.typed {τ : Typing} {target : Ref} {c : Cursor} {o : Owner}
    (leads : k.LeadsTo τ target c) (member : o ∈ owners c) : o = .unit k.unit ∨ τ.Owns o := by
  rcases List.mem_cons.1 member with rfl | member
  · exact .inl (congrArg _ leads.2.1)
  · obtain rfl := List.mem_singleton.1 member
    exact .inr leads.2.2.2.2

theorem quiet_canonical (usable : Usable engine held k) :
    Act.Quiet engine side held (do Act.keep (← k.canonical)) owners
      (IsNew ⟨engine.cursorLink k.raw.value .canonical, k.raw.origin⟩ k.unit none) :=
  quiet_keep_memoized CursorMemo.canonical_lawful usable
    (fun _ _ _ inv => exec_link usable .canonical inv) LeadsTo.typed
    fun leads => ⟨leads.1, leads.2.1, leads.2.2.1⟩

/-- What a cursor that may be absent is. -/
def MayBeNew (raw : Raw Ref) (unit : SourceUnit) (found : Option Cursor) : Prop :=
  found.isSome = raw.value.isSome ∧ ∀ c ∈ found, c.IsNew raw unit none

/-- A new cursor at the end of a link, or that there is none, may be remembered. -/
theorem exec_parent (usable : Usable engine held k) (link : CursorLink) {facts : Facts}
    {τ : Typing} {w : World} (inv : Inv engine side facts τ held w) :
    ∃ p v τ', (do ofRaw? (← k.linkRaw link k.memo) k.unit : Act (Option Cursor)).exec
        (side.setting engine) w = (.ok p, v) ∧
      Inv engine side facts τ' (owners p + held) v ∧
      k.MayLeadTo τ' (engine.cursorLink k.raw.value link) p := by
  obtain ⟨_, v, ran, rfl, τ, inv⟩ := Raw.tells_derive (lends_origin usable) (.cursorLink link)
    (fun engine c => engine.cursorLink c link) (some k.memo) facts w ⟨τ, inv⟩
  have inv : Inv engine side facts τ held v := by simpa using inv
  have ran (found : Option Cursor) (u : World)
      (made : (ofRaw? ⟨engine.cursorLink k.raw.value link, k.raw.origin⟩ k.unit).exec
        (side.setting engine) v = (.ok found, u)) :
      (do ofRaw? (← k.linkRaw link k.memo) k.unit : Act (Option Cursor)).exec
        (side.setting engine) w = (.ok found, u) :=
    (Act.exec_bind_ok ran).trans made
  generalize engine.cursorLink k.raw.value link = target at ran ⊢
  cases target with
  | none =>
      have inv : Inv engine side facts τ (owners (none : Option Cursor) + held) v := by
        simpa [owners] using inv
      exact ⟨none, v, τ, ran none v rfl, inv, rfl, fun _ absent => nomatch absent⟩
  | some i =>
      obtain ⟨c, u, τ', made, inv', leads⟩ := make_leadsTo usable inv (some i)
      refine ⟨some c, u, τ', ran _ _ ((Act.exec_bind_ok made).trans rfl), inv', rfl, ?_⟩
      rintro _ ⟨⟩
      exact leads

theorem MayLeadTo.typed {τ : Typing} {target : Ref} {p : Option Cursor} {o : Owner}
    (leads : k.MayLeadTo τ target p) (member : o ∈ owners p) :
    o = .unit k.unit ∨ τ.Owns o := by
  cases p with
  | none => exact absurd member List.not_mem_nil
  | some c => exact (leads.2 c rfl).typed member

theorem MayLeadTo.mayBeNew {τ : Typing} {target : Ref} {p : Option Cursor}
    (leads : k.MayLeadTo τ target p) : MayBeNew ⟨target, k.raw.origin⟩ k.unit p :=
  ⟨leads.1, fun c member =>
    ⟨(leads.2 c member).1, (leads.2 c member).2.1, (leads.2 c member).2.2.1⟩⟩

theorem quiet_semanticParent (usable : Usable engine held k) :
    Act.Quiet engine side held (do Act.keep (← k.semanticParent)) owners
      (MayBeNew ⟨engine.cursorLink k.raw.value .semanticParent, k.raw.origin⟩ k.unit) :=
  quiet_keep_memoized CursorMemo.semanticParent_lawful usable
    (fun _ _ _ inv => exec_parent usable .semanticParent inv) MayLeadTo.typed MayLeadTo.mayBeNew

theorem quiet_lexicalParent (usable : Usable engine held k) :
    Act.Quiet engine side held (do Act.keep (← k.lexicalParent)) owners
      (MayBeNew ⟨engine.cursorLink k.raw.value .lexicalParent, k.raw.origin⟩ k.unit) :=
  quiet_keep_memoized CursorMemo.lexicalParent_lawful usable
    (fun _ _ _ inv => exec_parent usable .lexicalParent inv) MayLeadTo.typed MayLeadTo.mayBeNew

end Cursor

/-! ## Chunks -/

namespace Chunk

variable {chunk : Chunk}

theorem usable_string (usable : Usable engine held chunk) : Usable engine held chunk.string :=
  ⟨usable.coherent.1, usable.within⟩

end Chunk

namespace CompletionString

variable {string : CompletionString}

theorem lends_origin (usable : Usable engine held string) : Lends held string.raw.origin := by
  rw [show string.raw.origin = _ from usable.coherent]
  exact ⟨_, usable.within _ (.head _), rfl⟩

theorem tells_chunkText (usable : Usable engine held string) (i : Nat) :
    Act.Tells engine side held (string.chunkText i)
      (· = (engine.chunk string.raw.value i).text.decoded) := by
  refine (Raw.tells_ask (lends_origin usable) _ _ _).bind ?_
  rintro _ rfl
  exact Act.tells_text _

end CompletionString

namespace Chunk

variable {chunk : Chunk}

theorem tells_askSpelling (usable : Usable engine held chunk) :
    Act.Tells engine side held chunk.askSpelling
      (· = (engine.chunk chunk.string.raw.value chunk.position).text.decoded) := by
  intro facts w inv
  unfold askSpelling
  rw [Act.exec_bind_ok Act.exec_read]
  split
  next _ _ text _ known =>
    exact Act.Tells.pure (R := (· = _)) (usable.coherent.2.1 text known) facts w inv
  next => exact CompletionString.tells_chunkText (usable_string usable) _ facts w inv

theorem tells_askKind (usable : Usable engine held chunk) :
    Act.Tells engine side held chunk.askKind
      (· = .ofRaw (engine.chunk chunk.string.raw.value chunk.position).kind) := by
  intro facts w inv
  unfold askKind
  rw [Act.exec_bind_ok Act.exec_read]
  split
  next _ _ kind _ known =>
    exact Act.Tells.pure (R := (· = _)) (usable.coherent.2.2 kind known) facts w inv
  next =>
    refine Act.Tells.map (Raw.tells_ask (CompletionString.lends_origin (usable_string usable))
      _ _ none) ?_ facts w inv
    rintro _ rfl
    rfl

end Chunk

/-! ## Units -/

theorem World.setUnitSpelling_eq {w : World} {c : CellId} {entry : Entry} {context : Index}
    {old : Option String} (found : w.find? c = some entry)
    (content : entry.content = .unit context old) (spelling : String) :
    w.setUnitSpelling c spelling =
      w.put c (some { entry with content := .unit context (some spelling) }) := by
  obtain ⟨count, resource, _⟩ := entry
  subst content
  rw [World.setUnitSpelling, found]

namespace SourceUnit

variable {u : SourceUnit}

/-- Whether the spelling of a unit was remembered or not, the session says what it is. -/
theorem ensures_spelling (usable : Usable engine held u) (facts : Facts) :
    Act.Ensures (side.setting engine) (At engine side held facts) u.spelling fun s w =>
      s = facts.spelling u.resource ∧ At engine side held facts w := by
  rintro w ⟨τ, inv⟩
  have within : Within held (.unit u) := usable.within _ (.head _)
  obtain ⟨owns, entry, found, describes⟩ := inv.alive within
  obtain ⟨owned, remembered, content⟩ := describes.unit
  have answer := (inv.shows.unit (inv.heap.within owns).1 found owned content).2
  have known : w.unitSpelling? u.cell = remembered := by
    obtain ⟨count, resource, _⟩ := entry
    subst content
    rw [World.unitSpelling?, show w.find? u.cell = _ from found]
  have asks (missed : side.known remembered = none) : ∃ s v, (do
      Act.ask .unitSpelling [u.resource] u.cell
      let table ← Act.table u.resource
      let spelling ← Act.text ((← Act.engine).unit table).spelling
      Act.update (·.setUnitSpelling u.cell spelling)
      return spelling : Act String).exec (side.setting engine) w = (.ok s, v) ∧
        s = facts.spelling u.resource ∧ At engine side held facts v := by
    rw [missed] at answer
    have asked : Inv engine side facts τ held
        (w.note (.asked .unitSpelling [u.resource] (some u.cell))) :=
      inv.note nofun nofun rfl (List.forall_mem_singleton.2 (lends_unit usable)) nofun
    generalize noted : w.note (.asked .unitSpelling [u.resource] (some u.cell)) = v at asked
    have told := asked.update
      (asked.toCore.text ((side.setting engine).engine.unit (v.table u.resource)).spelling) rfl
    -- the question and the text have changed the store: the cell is looked up in the new one
    obtain ⟨-, entry, found, describes⟩ := told.alive within
    have found : World.find? _ u.cell = some entry := found
    obtain ⟨-, old, content⟩ := describes.unit
    have spelled := told.update (told.toCore.respell owns found) rfl
    refine ⟨facts.spelling u.resource, _, ?_, rfl, τ, spelled⟩
    rw [Act.exec_bind_ok (Act.exec_ask _ _ _ (inv.isLoaded within.ne_zero)), noted,
      Act.exec_bind_ok (Act.exec_table _), Act.exec_bind_ok Act.exec_engine,
      Act.exec_bind_ok (Act.exec_text _), Act.exec_bind_ok (Act.exec_update _), Act.exec_pure,
      World.setUnitSpelling_eq found content, ← answer]
    subst noted
    rfl
  unfold SourceUnit.spelling
  rw [Act.exec_bind_ok Act.exec_read, Act.exec_bind_ok Act.exec_get, known]
  cases on : side.remembers with
  | false =>
      rw [show (side.setting engine).remembers = false from on]
      exact asks (if_neg (by rw [on]; nofun))
  | true =>
      rw [show (side.setting engine).remembers = true from on]
      cases remembered with
      | none => exact asks (if_pos on)
      | some s =>
          rw [Side.known, if_pos on] at answer
          exact ⟨s, w, rfl, answer, τ, inv⟩

end SourceUnit

end SourceAtlas
