import Mathlib.Tactic.Abel
import SourceAtlas.Proofs.Ensures

/-!
# Memory

An answer that is remembered is the answer that the engine would give. Whether it comes from the
memo or from the engine, it ends up in the memo of its cursor, which holds what it refers to.
-/

namespace SourceAtlas

/-! ## New cursors -/

section Make

variable {engine : Engine} {side : Side} {facts : Facts} {τ : Typing} {held : Held} {w : World}
variable {setting : Setting}

theorem Cursor.exec_make (raw : Raw Ref) (unit : SourceUnit) (parent : Option (Raw Ref)) :
    (Cursor.make raw unit parent).exec setting w =
      (.ok ⟨raw, unit, parent, w.cells.size⟩,
        (w.alloc none (.memo {})).1.retainAll (refs unit)) :=
  rfl

/-- A new cursor has a memo of its own and holds its unit. -/
theorem Inv.make (inv : Inv engine side facts τ held w) {k : Cursor}
    (fresh : k.memo = w.cells.size) (coherent : Coherent engine k)
    (within : Within held (.unit k.unit)) :
    Inv engine side facts (τ.extend (.cursor k)) (owners k + held)
      ((w.alloc none (.memo {})).1.retainAll (refs k.unit)) := by
  have core := inv.toCore.grow fresh coherent (inv.alive within).1
  have more := inv.heap.extends_extend (o := .cursor k) fresh
  have grown : Inv engine side facts (τ.extend (.cursor k)) (.cursor k ::ₘ held)
      (w.alloc none (.memo {})).1 :=
    { (Multiset.map_cons Owner.cell (.cursor k) held ▸ core :
        Core engine side facts (τ.extend (.cursor k))
          ((Owner.cursor k ::ₘ held).map Owner.cell) (w.alloc none (.memo {})).1) with
      owns := by
        intro o member
        rcases Multiset.mem_cons.1 member with rfl | member
        · exact if_pos rfl
        · exact more (inv.owns o member)
      loaded := fun _ => inv.loaded within.ne_zero }
  have kept := grown.keep_within k.unit fun o member => by
    obtain rfl := List.mem_singleton.1 member
    exact within.mono (Multiset.le_cons_self _ _)
  have shuffle : (owners k : Held) + held = owners k.unit + (.cursor k ::ₘ held) := by
    show (([Owner.unit k.unit, .cursor k] : List Owner) : Held) + held =
      ([Owner.unit k.unit] : List Owner) + (Owner.cursor k ::ₘ held)
    rw [Multiset.add_cons]
    simp only [← Multiset.cons_coe, Multiset.cons_add, Multiset.coe_nil, zero_add]
    exact Multiset.cons_swap _ _ _
  rw [shuffle]
  exact kept

/-- What a new cursor is. -/
def Cursor.IsNew (raw : Raw Ref) (unit : SourceUnit) (parent : Option (Raw Ref)) (k : Cursor) :
    Prop :=
  k.raw = raw ∧ k.unit = unit ∧ k.parent = parent

theorem Cursor.quiet_make {raw : Raw Ref} {unit : SourceUnit} {p : Option (Raw Ref)}
    (within : Within held (.unit unit)) (origin : raw.origin = unit.resource)
    (parentOrigin : ∀ parent ∈ p, parent.origin = unit.resource) :
    Act.Quiet engine side held (Cursor.make raw unit p) owners (Cursor.IsNew raw unit p) := by
  rintro facts w ⟨τ, inv⟩
  have made := inv.make (k := ⟨raw, unit, p, w.cells.size⟩) rfl ⟨origin, parentOrigin⟩ within
  exact ⟨_, _, Cursor.exec_make raw unit p, ⟨rfl, rfl, rfl⟩, _, made⟩

end Make

/-! ## Slots of a memo -/

/-- Whether a slot of a memo is for answers that are good for a cursor. -/
structure MemoSlot.Lawful [Holder α] (engine : Engine) (slot : MemoSlot α)
    (Good : Typing → Cursor → α → Prop) : Prop where
  get_set : ∀ memo a, slot.get (slot.set memo a) = some a
  refs_set : ∀ memo a, (refs (slot.set memo a) : Multiset CellId) + refs (slot.get memo) =
    refs memo + refs a
  mem_refs : ∀ {memo c}, c ∈ refs (slot.get memo) → c ∈ refs memo
  remembers_set : ∀ {τ k memo a}, k.Remembers engine τ memo → Good τ k a →
    k.Remembers engine τ (slot.set memo a)
  good : ∀ {τ k memo a}, k.Remembers engine τ memo → slot.get memo = some a → Good τ k a

namespace CursorMemo

variable {engine : Engine}

theorem refs_plain [Holder α] (plain : ∀ a : α, refs a = []) (value : Option α) :
    refs value = [] := by
  cases value with
  | none => rfl
  | some a => exact plain a

/-- An answer without references changes none. -/
theorem refs_set_plain [Holder α] (plain : ∀ a : α, refs a = []) {old : Option α} (a : α)
    {before after : CellRefs} (same : after = before) :
    (after : Multiset CellId) + refs old = before + refs a := by
  rw [same, plain, refs_plain plain]

theorem spelling_lawful : spellingSlot.Lawful engine fun _ k s =>
    s = (engine.cursorText k.raw.value .spelling).decoded where
  get_set _ _ := rfl
  refs_set memo a := refs_set_plain (fun _ => rfl) a rfl
  mem_refs {memo c} member := by
    rw [refs_plain fun _ => rfl] at member
    exact absurd member List.not_mem_nil
  remembers_set remembers good := { remembers with spelling := by rintro _ ⟨⟩; exact good }
  good remembers found := remembers.spelling _ found

theorem displayName_lawful : displayNameSlot.Lawful engine fun _ k s =>
    s = (engine.cursorText k.raw.value .displayName).decoded where
  get_set _ _ := rfl
  refs_set memo a := refs_set_plain (fun _ => rfl) a rfl
  mem_refs {memo c} member := by
    rw [refs_plain fun _ => rfl] at member
    exact absurd member List.not_mem_nil
  remembers_set remembers good := { remembers with displayName := by rintro _ ⟨⟩; exact good }
  good remembers found := remembers.displayName _ found

theorem enumValue_lawful : enumValueSlot.Lawful engine fun _ k v =>
    v = engine.enumValue k.raw.value ∧
      (engine.cursor k.raw.value).kind = .enumConstantDecl where
  get_set _ _ := rfl
  refs_set memo a := refs_set_plain (fun _ => rfl) a rfl
  mem_refs {memo c} member := by
    rw [refs_plain fun _ => rfl] at member
    exact absurd member List.not_mem_nil
  remembers_set remembers good := { remembers with enumValue := by rintro _ ⟨⟩; exact good }
  good remembers found := remembers.enumValue _ found

theorem hash_lawful : hashSlot.Lawful engine fun _ k h =>
    h = engine.cursorHash k.raw.value where
  get_set _ _ := rfl
  refs_set memo a := refs_set_plain (fun _ => rfl) a rfl
  mem_refs {memo c} member := by
    rw [refs_plain fun _ => rfl] at member
    exact absurd member List.not_mem_nil
  remembers_set remembers good := { remembers with hash := by rintro _ ⟨⟩; exact good }
  good remembers found := remembers.hash _ found

/-- The references of a memo are those of its slots, in any order. -/
theorem refs_coe (memo : CursorMemo) : (refs memo : Multiset CellId) =
    refs memo.location + refs memo.extent + refs memo.type + refs memo.canonical +
      refs memo.semanticParent + refs memo.lexicalParent :=
  rfl

theorem refs_some [Holder α] (a : α) : refs (some a) = refs a := rfl

theorem mem_refs_iff {memo : CursorMemo} {c : CellId} :
    c ∈ refs memo ↔ c ∈ refs memo.location ∨ c ∈ refs memo.extent ∨ c ∈ refs memo.type ∨
      c ∈ refs memo.canonical ∨ c ∈ refs memo.semanticParent ∨ c ∈ refs memo.lexicalParent := by
  rw [← Multiset.mem_coe, refs_coe]
  simp only [Multiset.mem_add, Multiset.mem_coe, or_assoc]

theorem location_lawful : locationSlot.Lawful engine fun _ k l =>
    l.raw = ⟨(engine.cursor k.raw.value).location, k.raw.origin⟩ ∧ l.unit = k.unit ∧
      l.anchor = none ∧ l.Remembers where
  get_set _ _ := rfl
  refs_set memo a := by
    simp only [refs_coe, locationSlot, refs_some]
    abel
  mem_refs member := mem_refs_iff.2 (.inl member)
  remembers_set remembers good := { remembers with location := by rintro _ ⟨⟩; exact good }
  good remembers found := remembers.location _ found

theorem extent_lawful : extentSlot.Lawful engine fun _ k r =>
    r = { raw := ⟨(engine.cursor k.raw.value).extent, k.raw.origin⟩, unit := k.unit } where
  get_set _ _ := rfl
  refs_set memo a := by
    simp only [refs_coe, extentSlot, refs_some]
    abel
  mem_refs member := mem_refs_iff.2 (.inr (.inl member))
  remembers_set remembers good := { remembers with extent := by rintro _ ⟨⟩; exact good }
  good remembers found := remembers.extent _ found

theorem type_lawful : typeSlot.Lawful engine fun _ k t =>
    t = ⟨⟨(engine.cursor k.raw.value).type .type, k.raw.origin⟩, k.unit⟩ where
  get_set _ _ := rfl
  refs_set memo a := by
    simp only [refs_coe, typeSlot, refs_some]
    abel
  mem_refs member := mem_refs_iff.2 (.inr (.inr (.inl member)))
  remembers_set remembers good := { remembers with type := by rintro _ ⟨⟩; exact good }
  good remembers found := remembers.type _ found

theorem canonical_lawful : canonicalSlot.Lawful engine fun τ k c =>
    k.LeadsTo τ (engine.cursorLink k.raw.value .canonical) c where
  get_set _ _ := rfl
  refs_set memo a := by
    simp only [refs_coe, canonicalSlot, refs_some]
    abel
  mem_refs member := mem_refs_iff.2 (.inr (.inr (.inr (.inl member))))
  remembers_set remembers good := { remembers with canonical := by rintro _ ⟨⟩; exact good }
  good remembers found := remembers.canonical _ found

theorem semanticParent_lawful : semanticParentSlot.Lawful engine fun τ k p =>
    k.MayLeadTo τ (engine.cursorLink k.raw.value .semanticParent) p where
  get_set _ _ := rfl
  refs_set memo a := by
    simp only [refs_coe, semanticParentSlot, refs_some]
    abel
  mem_refs member := mem_refs_iff.2 (.inr (.inr (.inr (.inr (.inl member)))))
  remembers_set remembers good := { remembers with semanticParent := by rintro _ ⟨⟩; exact good }
  good remembers found := remembers.semanticParent _ found

theorem lexicalParent_lawful : lexicalParentSlot.Lawful engine fun τ k p =>
    k.MayLeadTo τ (engine.cursorLink k.raw.value .lexicalParent) p where
  get_set _ _ := rfl
  refs_set memo a := by
    simp only [refs_coe, lexicalParentSlot, refs_some]
    abel
  mem_refs member := mem_refs_iff.2 (.inr (.inr (.inr (.inr (.inr member)))))
  remembers_set remembers good := { remembers with lexicalParent := by rintro _ ⟨⟩; exact good }
  good remembers found := remembers.lexicalParent _ found

end CursorMemo

/-! ## Remembering -/

section Memory

variable {engine : Engine} {side : Side} {facts : Facts} {τ : Typing} {held : Held} {w : World}
variable {k : Cursor} {α : Type}

theorem World.memo_eq {entry : Entry} {memo : CursorMemo} {c : CellId}
    (found : w.find? c = some entry) (content : entry.content = .memo memo) :
    w.memo c = memo := by
  obtain ⟨count, resource, _⟩ := entry
  subst content
  rw [World.memo, found]

/-- The memo of a cursor that is within reach holds what the engine would say again. -/
theorem Inv.remembers (inv : Inv engine side facts τ held w) (within : Within held (.cursor k)) :
    ∃ entry, w.find? k.memo = some entry ∧ entry.content = .memo (w.memo k.memo) ∧
      k.Remembers engine τ (w.memo k.memo) := by
  obtain ⟨-, entry, found, describes⟩ := inv.alive within
  obtain ⟨-, memo, content, remembers⟩ := describes.memo
  have same : w.memo k.memo = memo := World.memo_eq found content
  exact ⟨entry, found, by rw [same]; exact content, by rw [same]; exact remembers⟩

/-- A good answer may be remembered. The memo takes over its references. -/
theorem Inv.remember [Holder α] {slot : MemoSlot α} {Good : Typing → Cursor → α → Prop}
    (lawful : slot.Lawful engine Good) {a : α} {more : List Owner}
    (hold : refs a = more.map Owner.cell)
    (inv : Inv engine side facts τ (more + held) w) (within : Within held (.cursor k))
    (good : Good τ k a) :
    Inv engine side facts τ held (w.remember k.memo slot a) ∧
      slot.get ((w.remember k.memo slot a).memo k.memo) = some a := by
  have here : Within (more + held) (.cursor k) := within.mono (Multiset.le_add_left _ _)
  obtain ⟨entry, found, content, remembers⟩ := inv.remembers here
  generalize w.memo k.memo = memo at content remembers
  obtain ⟨count, resource, _⟩ := entry
  subst content
  have remembered : w.remember k.memo slot a =
      (w.put k.memo (some ⟨count, resource, .memo (slot.set memo a)⟩)).release
        (refs (slot.get memo)) := by
    rw [World.remember, found]
  rw [remembered]
  have core : Core engine side facts τ (refs (slot.get memo) + held.map Owner.cell)
      (w.put k.memo (some ⟨count, resource, .memo (slot.set memo a)⟩)) := by
    refine inv.toCore.rememo (inv.alive here).1 found rfl (lawful.remembers_set remembers good) ?_
    rw [Multiset.map_add, Multiset.map_coe, ← hold, ← add_assoc, ← add_assoc, lawful.refs_set]
  have inv' : Inv engine side facts τ held
      ((w.put k.memo (some ⟨count, resource, .memo (slot.set memo a)⟩)).release
        (refs (slot.get memo))) :=
    { core.release with
      owns := fun o member => inv.owns o (Multiset.mem_add.2 (.inr member))
      loaded := fun _ => inv.loaded here.ne_zero }
  refine ⟨inv', ?_⟩
  -- the memo is still referred to, so that releasing what it held before does not free it
  obtain ⟨-, entry', found', -⟩ := inv'.alive within
  obtain ⟨entry, before, -, same⟩ := World.Survives.release _ _ found'
  obtain rfl := Option.some.inj ((World.find?_put_self found _).symm.trans before)
  rw [World.memo_eq (c := k.memo) found' same, lawful.get_set]

/-- Whether an answer is in the memo of a cursor, and good for it. -/
def Remembered [Holder α] (slot : MemoSlot α) (Good : Typing → Cursor → α → Prop)
    (engine : Engine) (side : Side) (held : Held) (facts : Facts) (k : Cursor) (a : α)
    (w : World) : Prop :=
  ∃ τ, Inv engine side facts τ held w ∧ slot.get (w.memo k.memo) = some a ∧ Good τ k a

/-- Whatever was remembered before, the answer that is returned is good and in the memo. -/
theorem Act.ensures_memoized [Holder α] {slot : MemoSlot α} {Good : Typing → Cursor → α → Prop}
    (lawful : slot.Lawful engine Good) {answer : Act α} {more : α → List Owner}
    (hold : ∀ a, refs a = (more a).map Owner.cell) (within : Within held (.cursor k))
    (answers : ∀ τ w, Inv engine side facts τ held w → ∃ a v τ',
      answer.exec (side.setting engine) w = (.ok a, v) ∧
        Inv engine side facts τ' (more a + held) v ∧ Good τ' k a) :
    Act.Ensures (side.setting engine) (At engine side held facts)
      (Act.memoized k.memo slot answer) (Remembered slot Good engine side held facts k) := by
  rintro w ⟨τ, inv⟩
  have ask : ∃ a v, (do
      let value ← answer
      Act.update (·.remember k.memo slot value)
      return value : Act α).exec (side.setting engine) w = (.ok a, v) ∧
        Remembered slot Good engine side held facts k a v := by
    obtain ⟨a, v, τ', ran, inv', good⟩ := answers τ w inv
    obtain ⟨inv', found⟩ := inv'.remember lawful (hold a) within good
    exact ⟨a, _, exec_bind_ok ran, τ', inv', found, good⟩
  unfold Act.memoized
  rw [exec_bind_ok exec_read, exec_bind_ok exec_get]
  split
  next _ _ a _ found =>
    obtain ⟨-, -, -, remembers⟩ := inv.remembers within
    exact ⟨a, w, rfl, τ, inv, found, lawful.good remembers found⟩
  next => exact ask

end Memory

end SourceAtlas
