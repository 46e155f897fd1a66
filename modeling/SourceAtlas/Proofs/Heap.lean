import SourceAtlas.Proofs.Cells
import SourceAtlas.Proofs.Entity

/-!
# The heap of a thread

What the cells of a thread hold. A typing says what each cell is kept for, once and for all. A cell
that has not been freed holds what its owner says; its count is the number of references to it, those
of the user and those in other cells. Resources refer to older cells only. Memos also refer to the
unit of their cursor, and to newer memos.
-/

namespace SourceAtlas

/-- What the cells are kept for. -/
abbrev Typing := CellId → Option Owner

def Typing.Owns (τ : Typing) (o : Owner) : Prop :=
  τ o.cell = some o

/-- Whether all cells are kept for what they can be kept for. -/
structure Typing.Sound (engine : Engine) (τ : Typing) : Prop where
  cell : ∀ {c o}, τ c = some o → o.cell = c
  lender : ∀ {c o p}, τ c = some o → p ∈ o.lenders → τ.Owns p ∧ p.cell < c
  cursor : ∀ {c k}, τ c = some (.cursor k) → Coherent engine k ∧ τ.Owns (.unit k.unit)

/-! ## What memos hold -/

namespace Engine

variable (engine : Engine)

/-- The declaration that introduced a type. -/
def declaration? (t : Ref) : Option Ref :=
  let declaration := (engine.type t).declaration
  if declaration.isNone then none
  else if (engine.cursor declaration).kind == .noDeclFound then none
  else some declaration

/-- A type without the sugar of an elaborated name. -/
def unsugared (t : Ref) : Ref :=
  if (engine.type t).kind == .elaborated then engine.typeLink t .named else t

/-- The type that a typedef stands for. -/
def aliased (t : Ref) : Ref :=
  if (engine.type t).kind == .typedef then engine.typeLink t .canonical else t

/-- The integer type of an enumeration; other types as they are. -/
def underlying (t : Ref) : Ref :=
  if (engine.type t).kind != .enum then t
  else match engine.declaration? t with
    | none => t
    | some declaration =>
      if (engine.cursor declaration).kind != .enumDecl then t
      else engine.typeLink ((engine.cursor declaration).type .enumType) .canonical

/-- The integer type behind the type of an enumeration constant. -/
def integerType (t : Ref) : Ref :=
  engine.underlying (engine.aliased (engine.unsugared t))

/-- The value of an enumeration constant, read with the signedness of the integer type. -/
def enumValue (c : Ref) : EnumValue :=
  if (engine.type (engine.integerType ((engine.cursor c).type .type))).kind.isUnsignedInteger then
    .unsigned (.ofInt (engine.cursor c).value)
  else .signed (.ofInt (engine.cursor c).value)

end Engine

namespace Cursor

/-- Whether a cursor that is remembered is the one that a link leads to. -/
def LeadsTo (τ : Typing) (k : Cursor) (target : Ref) (c : Cursor) : Prop :=
  c.raw = ⟨target, k.raw.origin⟩ ∧ c.unit = k.unit ∧ c.parent = none ∧ k.memo < c.memo ∧
    τ.Owns (.cursor c)

/-- Whether a cursor that is remembered, or that there is none, is what a link says. -/
def MayLeadTo (τ : Typing) (k : Cursor) (target : Ref) (found : Option Cursor) : Prop :=
  found.isSome = target.isSome ∧ ∀ c ∈ found, k.LeadsTo τ target c

/-- Whether a memo holds what the engine would say again about a cursor. -/
structure Remembers (engine : Engine) (τ : Typing) (k : Cursor) (memo : CursorMemo) : Prop where
  spelling : ∀ s ∈ memo.spelling, s = (engine.cursorText k.raw.value .spelling).decoded
  displayName : ∀ s ∈ memo.displayName, s = (engine.cursorText k.raw.value .displayName).decoded
  location : ∀ l ∈ memo.location, l.raw = ⟨(engine.cursor k.raw.value).location, k.raw.origin⟩ ∧
    l.unit = k.unit ∧ l.anchor = none ∧ l.Remembers
  extent : ∀ r ∈ memo.extent,
    r = { raw := ⟨(engine.cursor k.raw.value).extent, k.raw.origin⟩, unit := k.unit }
  type : ∀ t ∈ memo.type, t = ⟨⟨(engine.cursor k.raw.value).type .type, k.raw.origin⟩, k.unit⟩
  canonical : ∀ c ∈ memo.canonical, k.LeadsTo τ (engine.cursorLink k.raw.value .canonical) c
  semanticParent : ∀ p ∈ memo.semanticParent,
    k.MayLeadTo τ (engine.cursorLink k.raw.value .semanticParent) p
  lexicalParent : ∀ p ∈ memo.lexicalParent,
    k.MayLeadTo τ (engine.cursorLink k.raw.value .lexicalParent) p
  enumValue : ∀ v ∈ memo.enumValue, v = engine.enumValue k.raw.value ∧
    (engine.cursor k.raw.value).kind = .enumConstantDecl
  hash : ∀ h ∈ memo.hash, h = engine.cursorHash k.raw.value

end Cursor

theorem Cursor.remembers_nothing (engine : Engine) (τ : Typing) (k : Cursor) :
    k.Remembers engine τ {} where
  spelling _ absent := nomatch absent
  displayName _ absent := nomatch absent
  location _ absent := nomatch absent
  extent _ absent := nomatch absent
  type _ absent := nomatch absent
  canonical _ absent := nomatch absent
  semanticParent _ absent := nomatch absent
  lexicalParent _ absent := nomatch absent
  enumValue _ absent := nomatch absent
  hash _ absent := nomatch absent

/-- The owners of the cells that a memo refers to. -/
def CursorMemo.owners (memo : CursorMemo) : List Owner :=
  Entity.owners memo.location ++ Entity.owners memo.extent ++ Entity.owners memo.type ++
    Entity.owners memo.canonical ++ Entity.owners memo.semanticParent ++
    Entity.owners memo.lexicalParent

theorem CursorMemo.refs_eq (memo : CursorMemo) : refs memo = memo.owners.map Owner.cell := by
  simp only [owners, List.map_append, ← Entity.refs_eq]
  rfl

/-! ## References between owners -/

namespace Owner

/-- Whether a cell may hold a reference to another one. -/
def MayHold (o p : Owner) : Prop :=
  match o with
  | .cursor k => p = .unit k.unit ∨ ∃ c, p = .cursor c ∧ c.unit = k.unit ∧ k.memo < c.memo
  | o => p ∈ o.lenders

/-- Whether a cell holds what its owner says. -/
def Describes (engine : Engine) (τ : Typing) (o : Owner) (entry : Entry) : Prop :=
  entry.resource = o.resource ∧
  match o, entry.content with
  | .index _, .index => True
  | .unit owner, .unit context _ => context = owner.index
  | .diagnostic owner, .diagnostic parent anchor source =>
    parent = owner.ancestors.head? ∧ anchor = owner.anchor ∧ source = owner.unit
  | .tokens owner, .tokens source => source = owner.unit
  | .completion owner, .completion source => source = owner.unit
  | .database _, .database => True
  | .commands owner, .commands origin => origin = owner.database
  | .cursor owner, .memo memo => owner.Remembers engine τ memo
  | _, _ => False

variable {engine : Engine} {τ : Typing} {o p : Owner} {entry : Entry} {k : Cursor}

/-- What the cell of a resource holds are references to its lenders. -/
theorem Describes.refs_eq (describes : o.Describes engine τ entry) (owns : o.resource.isSome) :
    refs entry.content = o.lenders.map cell := by
  obtain ⟨count, resource, content⟩ := entry
  cases o <;> cases content <;> first | exact describes.2.elim | skip
  case index.index | database.database => rfl
  case unit.unit => rw [describes.2]; rfl
  case tokens.tokens => rw [describes.2]; rfl
  case completion.completion => rw [describes.2]; rfl
  case commands.commands => rw [describes.2]; rfl
  case cursor.memo => exact absurd owns Bool.false_ne_true
  case diagnostic.diagnostic owner _ _ _ =>
    obtain ⟨rfl, rfl, rfl⟩ := describes.2
    obtain ⟨handle, ancestors, anchor, unit⟩ := owner
    cases ancestors <;> cases anchor <;> rfl

/-- The cell of a cursor holds its memo. -/
theorem Describes.memo (describes : (Owner.cursor k).Describes engine τ entry) :
    entry.resource = none ∧
      ∃ memo, entry.content = .memo memo ∧ k.Remembers engine τ memo := by
  obtain ⟨count, resource, content⟩ := entry
  cases content <;> first | exact describes.2.elim | skip
  case memo memo => exact ⟨describes.1, memo, rfl, describes.2⟩

/-- The cell of a unit holds its index and perhaps its spelling. -/
theorem Describes.unit {u : SourceUnit} (describes : (Owner.unit u).Describes engine τ entry) :
    entry.resource = some u.resource ∧ ∃ spelling, entry.content = .unit u.index spelling := by
  obtain ⟨count, resource, content⟩ := entry
  cases content <;> first | exact describes.2.elim | skip
  case unit index spelling => exact ⟨describes.1, spelling, by rw [describes.2]⟩

/-- If the content of a cell is that of a unit, then its owner is the unit. -/
theorem Describes.owner_of_unit {index : Index} {spelling : Option String}
    (describes : o.Describes engine τ entry) (content : entry.content = .unit index spelling) :
    ∃ u, o = .unit u := by
  obtain ⟨count, resource, _⟩ := entry
  subst content
  cases o <;> first | exact describes.2.elim | exact ⟨_, rfl⟩

/-- If the content of a cell is a memo, then its owner is a cursor. -/
theorem Describes.owner_of_memo {memo : CursorMemo} (describes : o.Describes engine τ entry)
    (content : entry.content = .memo memo) : ∃ k, o = .cursor k := by
  obtain ⟨count, resource, _⟩ := entry
  subst content
  cases o <;> first | exact describes.2.elim | exact ⟨_, rfl⟩

end Owner

/-- A cursor that is remembered refers to the same unit and to a newer memo. -/
theorem Cursor.LeadsTo.mem_owners {τ : Typing} {k c : Cursor} {target : Ref}
    (leads : k.LeadsTo τ target c) {p : Owner} (member : p ∈ owners c) :
    p = .unit k.unit ∨
      ∃ c, p = .cursor c ∧ c.unit = k.unit ∧ k.memo < c.memo ∧ τ.Owns (.cursor c) := by
  obtain ⟨-, unit, -, newer, owns⟩ := leads
  rcases List.mem_cons.1 member with rfl | member
  · exact .inl (congrArg _ unit)
  · exact .inr ⟨c, List.mem_singleton.1 member, unit, newer, owns⟩

/-- What a memo refers to are the cursor's unit and newer memos. -/
theorem Cursor.Remembers.mem_owners {engine : Engine} {τ : Typing} {k : Cursor}
    {memo : CursorMemo} (remembers : k.Remembers engine τ memo) {p : Owner}
    (member : p ∈ memo.owners) :
    p = .unit k.unit ∨
      ∃ c, p = .cursor c ∧ c.unit = k.unit ∧ k.memo < c.memo ∧ τ.Owns (.cursor c) := by
  have parents {target : Ref} {found : Option (Option Cursor)}
      (leads : ∀ p ∈ found, k.MayLeadTo τ target p) (member : p ∈ owners found) :
      p = .unit k.unit ∨
        ∃ c, p = .cursor c ∧ c.unit = k.unit ∧ k.memo < c.memo ∧ τ.Owns (.cursor c) := by
    obtain ⟨parent, known, member⟩ := mem_owners_option.1 member
    obtain ⟨c, there, member⟩ := mem_owners_option.1 member
    exact ((leads parent known).2 c there).mem_owners member
  simp only [CursorMemo.owners, List.mem_append] at member
  obtain ((((place | span) | type) | canonical) | semantic) | lexical := member
  · obtain ⟨l, known, member⟩ := mem_owners_option.1 place
    obtain ⟨-, unit, unanchored, remembers⟩ := remembers.location l known
    exact .inl (unit ▸ remembers.owner_eq unanchored member)
  · obtain ⟨r, known, member⟩ := mem_owners_option.1 span
    rw [remembers.extent r known] at member
    exact .inl (List.mem_singleton.1 member)
  · obtain ⟨t, known, member⟩ := mem_owners_option.1 type
    rw [remembers.type t known] at member
    exact .inl (List.mem_singleton.1 member)
  · obtain ⟨c, known, member⟩ := mem_owners_option.1 canonical
    exact (remembers.canonical c known).mem_owners member
  · exact parents remembers.semanticParent semantic
  · exact parents remembers.lexicalParent lexical

/-! ## The invariant -/

/-- How many references to a cell there are in other cells of a thread. -/
def World.inner (w : World) (first c : CellId) : Nat :=
  w.total first fun entry => (refs entry.content).count c

/-- The cells of a thread, those from a first one on, while some references are held. -/
structure Heap (engine : Engine) (first : CellId) (τ : Typing) (cells : Multiset CellId)
    (w : World) : Prop where
  sound : τ.Sound engine
  first_le : first ≤ w.cells.size
  within : ∀ {c o}, τ c = some o → first ≤ c ∧ c < w.cells.size
  typed : ∀ {c}, c ∈ cells → ∃ o, τ c = some o
  described : ∀ {c entry}, first ≤ c → w.find? c = some entry →
    0 < entry.count ∧ ∃ o, τ c = some o ∧ o.Describes engine τ entry
  counted : ∀ {c}, first ≤ c → w.count c = cells.count c + w.inner first c

namespace Heap

variable {engine : Engine} {first : CellId} {τ : Typing} {cells : Multiset CellId}
variable {w v : World} {c d : CellId} {o p : Owner} {entry : Entry}

theorem congr (heap : Heap engine first τ cells w) (same : v.cells = w.cells) :
    Heap engine first τ cells v where
  sound := heap.sound
  first_le := same ▸ heap.first_le
  within owns := same ▸ heap.within owns
  typed := heap.typed
  described here found := heap.described here (World.find?_congr same _ ▸ found)
  counted {c} here := by
    rw [World.count, World.find?_congr same, World.inner, World.total_congr same]
    exact heap.counted here

/-- What a cell refers to is typed, and its owner may hold it. -/
theorem mayHold (heap : Heap engine first τ cells w) (here : first ≤ c)
    (found : w.find? c = some entry) (owns : τ c = some o) (member : d ∈ refs entry.content) :
    ∃ p, τ d = some p ∧ o.MayHold p := by
  obtain ⟨-, o', owns', describes⟩ := heap.described here found
  obtain rfl : o = o' := Option.some.inj (owns.symm.trans owns')
  by_cases resource : o.resource.isSome
  · rw [describes.refs_eq resource] at member
    obtain ⟨p, lends, rfl⟩ := List.mem_map.1 member
    refine ⟨p, (heap.sound.lender owns lends).1, ?_⟩
    cases o <;> first | exact lends | exact absurd resource Bool.false_ne_true
  · cases o <;> first | exact absurd rfl resource | skip
    case cursor k =>
      obtain ⟨-, memo, content, remembers⟩ := describes.memo
      have member : d ∈ refs memo := by
        rw [content] at member
        exact member
      rw [memo.refs_eq] at member
      obtain ⟨p, held, rfl⟩ := List.mem_map.1 member
      rcases remembers.mem_owners held with rfl | ⟨c, rfl, unit, newer, ownsC⟩
      · exact ⟨_, (heap.sound.cursor owns).2, .inl rfl⟩
      · exact ⟨_, ownsC, .inr ⟨c, rfl, unit, newer⟩⟩

/-- A memo belongs to a cursor, and holds what the engine would say of it. -/
theorem memo (heap : Heap engine first τ cells w) (here : first ≤ c)
    (found : w.find? c = some entry) {memo : CursorMemo} (content : entry.content = .memo memo) :
    ∃ k, τ c = some (.cursor k) ∧ k.Remembers engine τ memo := by
  obtain ⟨-, o, owns, describes⟩ := heap.described here found
  obtain ⟨k, rfl⟩ := describes.owner_of_memo content
  obtain ⟨-, memo', content', remembers⟩ := describes.memo
  obtain rfl : memo = memo' := Content.memo.inj (content.symm.trans content')
  exact ⟨k, owns, remembers⟩

/-- A cell with a reference to it has not been freed. -/
theorem alive_of_inner (heap : Heap engine first τ cells w) (here : first ≤ c)
    (held : c ∈ cells ∨ 0 < w.inner first c) : ∃ entry, w.find? c = some entry := by
  refine World.exists_find?_of_count_pos ?_
  rw [heap.counted here]
  rcases held with held | held
  · have := Multiset.count_pos.2 held
    omega
  · omega

theorem alive_of_mem (heap : Heap engine first τ cells w) (held : c ∈ cells) :
    ∃ entry, w.find? c = some entry := by
  obtain ⟨o, owns⟩ := heap.typed held
  exact heap.alive_of_inner (heap.within owns).1 (.inl held)

/-- What is referred to by a cell that has not been freed has not been freed either. -/
theorem alive_of_refs (heap : Heap engine first τ cells w) (here : first ≤ c)
    (found : w.find? c = some entry) (member : d ∈ refs entry.content) :
    ∃ entry, w.find? d = some entry := by
  obtain ⟨-, o, owns, -⟩ := heap.described here found
  obtain ⟨p, ownsP, -⟩ := heap.mayHold here found owns member
  refine heap.alive_of_inner (heap.within ownsP).1 (.inr ?_)
  have bound := World.le_total found here fun entry => (refs entry.content).count d
  have positive := List.count_pos_iff.2 member
  rw [World.inner]
  omega

/-- The owner of a cell that has not been freed describes what it holds. -/
theorem describes (heap : Heap engine first τ cells w) (found : w.find? c = some entry)
    (owns : τ c = some o) : 0 < entry.count ∧ o.Describes engine τ entry := by
  obtain ⟨positive, o', owns', describes⟩ := heap.described (heap.within owns).1 found
  obtain rfl : o = o' := Option.some.inj (owns.symm.trans owns')
  exact ⟨positive, describes⟩

/-- The lenders of a cell that has not been freed have not been freed either. -/
theorem alive_of_lends (heap : Heap engine first τ cells w) (found : w.find? c = some entry)
    (owns : τ c = some o) (lends : p ∈ o.lenders) :
    τ.Owns p ∧ ∃ entry, w.find? p.cell = some entry ∧ p.Describes engine τ entry := by
  have resource : o.resource.isSome := by
    cases o <;> first | rfl | exact absurd lends List.not_mem_nil
  have ownsP := (heap.sound.lender owns lends).1
  have member : p.cell ∈ refs entry.content := by
    rw [(heap.describes found owns).2.refs_eq resource]
    exact List.mem_map_of_mem lends
  obtain ⟨entry', found'⟩ := heap.alive_of_refs (heap.within owns).1 found member
  exact ⟨ownsP, entry', found', (heap.describes found' ownsP).2⟩

/-- The owners within reach of what is held have not been freed. -/
theorem alive_of_within (heap : Heap engine first τ cells w) {held : Held}
    (owns : ∀ o ∈ held, τ.Owns o) (counted : held.map Owner.cell ≤ cells)
    (within : Within held o) :
    τ.Owns o ∧ ∃ entry, w.find? o.cell = some entry ∧ o.Describes engine τ entry := by
  induction within with
  | held member =>
      have owned := owns _ member
      obtain ⟨entry, found⟩ := heap.alive_of_mem
        (Multiset.mem_of_le counted (Multiset.mem_map_of_mem _ member))
      exact ⟨owned, entry, found, (heap.describes found owned).2⟩
  | lender _ lends ih =>
      obtain ⟨owned, entry, found, -⟩ := ih
      exact heap.alive_of_lends found owned lends

/-! ### Writing -/

/-- Writing a cell keeps the invariant if the references that appear balance those that go. -/
theorem put (heap : Heap engine first τ cells w) (here : first ≤ c)
    (found : w.find? c = some entry) (new : Option Entry) {cells' : Multiset CellId}
    (typed : ∀ d ∈ cells', ∃ o, τ d = some o)
    (described : ∀ entry' ∈ new, 0 < entry'.count ∧
      ∃ o, τ c = some o ∧ o.Describes engine τ entry')
    (balance : ∀ d, cells'.count d + new.elim 0 (fun entry' => (refs entry'.content).count d) +
        (if d = c then entry.count else 0) =
      cells.count d + (refs entry.content).count d +
        if d = c then new.elim 0 (·.count) else 0) :
    Heap engine first τ cells' (w.put c new) where
  sound := heap.sound
  first_le := by
    rw [World.size_cells_put]
    exact heap.first_le
  within owns := by
    rw [World.size_cells_put]
    exact heap.within owns
  typed {d} member := typed d member
  described {d entry'} hereD foundD := by
    by_cases same : d = c
    · subst same
      rw [World.find?_put_self found] at foundD
      exact described entry' foundD
    · rw [World.find?_put_ne found new same] at foundD
      exact heap.described hereD foundD
  counted {d} hereD := by
    have before := heap.counted hereD
    have balanced := balance d
    have moved := World.total_put found here new (f := fun entry => (refs entry.content).count d)
    rw [World.inner] at before ⊢
    by_cases same : d = c
    · subst same
      rw [if_pos rfl, if_pos rfl] at balanced
      rw [World.count_eq_of_find? found] at before
      rw [World.count, World.find?_put_self found]
      cases new with
      | none => simp only [Option.elim_none, Option.map_none, Option.getD_none] at *; omega
      | some new => simp only [Option.elim_some, Option.map_some, Option.getD_some] at *; omega
    · rw [if_neg same, if_neg same] at balanced
      rw [World.count, World.find?_put_ne found new same, ← World.count]
      omega

theorem retain (heap : Heap engine first τ cells w) (owns : τ c = some o)
    (found : w.find? c = some entry) : Heap engine first τ (c ::ₘ cells) (w.retain c) := by
  have here := (heap.within owns).1
  have retained : w.retain c = w.put c (some { entry with count := entry.count + 1 }) := by
    rw [World.retain, found]
  rw [retained]
  refine heap.put here found _ ?_ ?_ ?_
  · intro d member
    rcases Multiset.mem_cons.1 member with rfl | member
    · exact ⟨o, owns⟩
    · exact heap.typed member
  · rintro entry' ⟨⟩
    obtain ⟨positive, o', owns', describes⟩ := heap.described here found
    exact ⟨Nat.succ_pos _, o', owns', describes⟩
  · intro d
    simp only [Multiset.count_cons, Option.elim_some]
    split <;> omega

/-- One reference less to a cell that has others. -/
theorem lower (heap : Heap engine first τ (c ::ₘ cells) w) (found : w.find? c = some entry)
    (shared : 1 < entry.count) :
    Heap engine first τ cells (w.put c (some { entry with count := entry.count - 1 })) := by
  obtain ⟨o, owns⟩ := heap.typed (Multiset.mem_cons_self c cells)
  have here := (heap.within owns).1
  refine heap.put here found _ ?_ ?_ ?_
  · exact fun d member => heap.typed (Multiset.mem_cons_of_mem member)
  · rintro entry' ⟨⟩
    exact ⟨Nat.sub_pos_of_lt shared, o, owns, (heap.describes found owns).2⟩
  · intro d
    simp only [Multiset.count_cons, Option.elim_some]
    split <;> omega

/-- A cell is freed together with the only reference to it; its own references are left. -/
theorem free (heap : Heap engine first τ (c ::ₘ cells) w) (found : w.find? c = some entry)
    (last : entry.count = 1) :
    Heap engine first τ (refs entry.content + cells) (w.put c none) := by
  obtain ⟨o, owns⟩ := heap.typed (Multiset.mem_cons_self c cells)
  have here := (heap.within owns).1
  refine heap.put here found _ ?_ ?_ ?_
  · intro d member
    rcases Multiset.mem_add.1 member with member | member
    · obtain ⟨p, ownsP, -⟩ := heap.mayHold here found owns (Multiset.mem_coe.1 member)
      exact ⟨p, ownsP⟩
    · exact heap.typed (Multiset.mem_cons_of_mem member)
  · exact fun entry' absent => nomatch absent
  · intro d
    by_cases same : d = c
    · subst same
      simp only [Multiset.count_cons_self, Multiset.count_add, Multiset.coe_count,
        Option.elim_none, if_true]
      omega
    · simp only [Multiset.count_cons_of_ne same, Multiset.count_add, Multiset.coe_count,
        Option.elim_none, if_neg same]
      omega

/-- What a cell that holds a memo remembers may change, if the references balance. -/
theorem rememo (heap : Heap engine first τ cells w) {k : Cursor} (owns : τ.Owns (.cursor k))
    (found : w.find? k.memo = some entry) {memo new : CursorMemo}
    (content : entry.content = .memo memo) (remembers : k.Remembers engine τ new)
    {cells' : Multiset CellId} (balance : refs new + cells' = refs memo + cells) :
    Heap engine first τ cells' (w.put k.memo (some { entry with content := .memo new })) := by
  have here := (heap.within owns).1
  obtain ⟨positive, describes⟩ := heap.describes found owns
  refine heap.put here found _ ?_ ?_ ?_
  · intro d member
    have member : d ∈ refs memo + cells := balance ▸ Multiset.mem_add.2 (.inr member)
    rcases Multiset.mem_add.1 member with member | member
    · have inside : d ∈ refs entry.content := content ▸ Multiset.mem_coe.1 member
      obtain ⟨p, ownsP, -⟩ := heap.mayHold here found owns inside
      exact ⟨p, ownsP⟩
    · exact heap.typed member
  · rintro entry' ⟨⟩
    exact ⟨positive, _, owns, describes.1, remembers⟩
  · intro d
    have balanced := congrArg (Multiset.count d) balance
    rw [Multiset.count_add, Multiset.count_add, Multiset.coe_count, Multiset.coe_count]
      at balanced
    have old : (refs entry.content).count d = (refs memo).count d := by rw [content]; rfl
    have young : (refs (Content.memo new)).count d = (refs new).count d := rfl
    simp only [Option.elim_some]
    omega

/-- The spelling that a unit's cell holds may change. -/
theorem respell (heap : Heap engine first τ cells w) {u : SourceUnit} (owns : τ.Owns (.unit u))
    (found : w.find? u.cell = some entry) (spelling : Option String) :
    Heap engine first τ cells
      (w.put u.cell (some { entry with content := .unit u.index spelling })) := by
  have here := (heap.within owns).1
  obtain ⟨positive, describes⟩ := heap.describes found owns
  refine heap.put here found _ (fun d member => heap.typed member) ?_ ?_
  · rintro entry' ⟨⟩
    exact ⟨positive, _, owns, describes.1, rfl⟩
  · intro d
    obtain ⟨-, old, content⟩ := describes.unit
    rw [content]
    rfl

end Heap

/-! ### New cells -/

/-- A typing with one more cell. -/
def Typing.extend (τ : Typing) (o : Owner) : Typing :=
  fun c => if c = o.cell then some o else τ c

theorem Typing.extend_cases {τ : Typing} {o p : Owner} {c : CellId}
    (owns : τ.extend o c = some p) : c = o.cell ∧ p = o ∨ τ c = some p := by
  unfold extend at owns
  split at owns
  next same => exact .inl ⟨same, (Option.some.inj owns).symm⟩
  next => exact .inr owns

/-- Whether a typing says all that another one says. -/
def Typing.Extends (τ' τ : Typing) : Prop :=
  ∀ ⦃c o⦄, τ c = some o → τ' c = some o

/-- One more cell can be kept for an owner whose lenders are older. -/
theorem Typing.Sound.extend {engine : Engine} {τ : Typing} {o : Owner} (sound : τ.Sound engine)
    (more : (τ.extend o).Extends τ) (lenders : ∀ p ∈ o.lenders, τ.Owns p ∧ p.cell < o.cell)
    (cursor : ∀ k, o = .cursor k → Coherent engine k ∧ τ.Owns (.unit k.unit)) :
    (τ.extend o).Sound engine where
  cell owns := by
    rcases extend_cases owns with ⟨here, rfl⟩ | owns
    · exact here.symm
    · exact sound.cell owns
  lender owns lends := by
    rcases extend_cases owns with ⟨rfl, rfl⟩ | owns
    · exact (lenders _ lends).imp_left (more ·)
    · exact (sound.lender owns lends).imp_left (more ·)
  cursor owns := by
    rcases extend_cases owns with ⟨-, rfl⟩ | owns
    · exact (cursor _ rfl).imp_right (more ·)
    · exact (sound.cursor owns).imp_right (more ·)

theorem Cursor.LeadsTo.mono {τ τ' : Typing} (more : τ'.Extends τ) {k c : Cursor} {target : Ref}
    (leads : k.LeadsTo τ target c) : k.LeadsTo τ' target c :=
  ⟨leads.1, leads.2.1, leads.2.2.1, leads.2.2.2.1, more leads.2.2.2.2⟩

theorem Cursor.MayLeadTo.mono {τ τ' : Typing} (more : τ'.Extends τ) {k : Cursor} {target : Ref}
    {found : Option Cursor} (leads : k.MayLeadTo τ target found) : k.MayLeadTo τ' target found :=
  ⟨leads.1, fun c member => (leads.2 c member).mono more⟩

theorem Cursor.Remembers.mono {engine : Engine} {τ τ' : Typing} (more : τ'.Extends τ) {k : Cursor}
    {memo : CursorMemo} (remembers : k.Remembers engine τ memo) : k.Remembers engine τ' memo :=
  { remembers with
    canonical := fun c member => (remembers.canonical c member).mono more
    semanticParent := fun p member => (remembers.semanticParent p member).mono more
    lexicalParent := fun p member => (remembers.lexicalParent p member).mono more }

theorem Owner.Describes.mono {engine : Engine} {τ τ' : Typing} (more : τ'.Extends τ) {o : Owner}
    {entry : Entry} (describes : o.Describes engine τ entry) : o.Describes engine τ' entry := by
  obtain ⟨count, resource, content⟩ := entry
  refine ⟨describes.1, ?_⟩
  cases o <;> cases content <;> first | exact describes.2 | exact describes.2.mono more

namespace Heap

variable {engine : Engine} {first : CellId} {τ : Typing} {cells : Multiset CellId}
variable {w : World} {o : Owner} {resource : Option Resource} {content : Content}

theorem extends_extend (heap : Heap engine first τ cells w) (fresh : o.cell = w.cells.size) :
    (τ.extend o).Extends τ := by
  intro c p owns
  have older : c ≠ o.cell := by
    rw [fresh]
    exact Nat.ne_of_lt (heap.within owns).2
  rw [Typing.extend, if_neg older]
  exact owns

/-- A new cell takes over the references of its content. -/
theorem alloc (heap : Heap engine first τ (refs content + cells) w)
    (fresh : o.cell = w.cells.size) (lenders : ∀ p ∈ o.lenders, τ.Owns p)
    (cursor : ∀ k, o = .cursor k → Coherent engine k ∧ τ.Owns (.unit k.unit))
    (describes : o.Describes engine τ ⟨1, resource, content⟩) :
    Heap engine first (τ.extend o) (o.cell ::ₘ cells) (w.alloc resource content).1 := by
  have more := heap.extends_extend fresh
  -- nothing refers to a cell that has not been made
  have unused : (refs content).count w.cells.size = 0 ∧ cells.count w.cells.size = 0 ∧
      w.inner first w.cells.size = 0 := by
    have none := heap.counted heap.first_le
    rw [World.count_eq_zero_of_find? (World.find?_eq_none_of_le (Nat.le_refl _)),
      Multiset.count_add, Multiset.coe_count] at none
    omega
  constructor
  case sound =>
    refine heap.sound.extend more (fun p lends => ?_) cursor
    have owned := lenders p lends
    exact ⟨owned, fresh ▸ (heap.within owned).2⟩
  case first_le =>
    rw [World.size_cells_alloc]
    exact Nat.le_succ_of_le heap.first_le
  case within =>
    intro c p owns
    rw [World.size_cells_alloc]
    rcases Typing.extend_cases owns with ⟨rfl, -⟩ | owns
    · rw [fresh]
      exact ⟨heap.first_le, Nat.lt_succ_self _⟩
    · exact (heap.within owns).imp_right Nat.lt_succ_of_lt
  case typed =>
    intro c member
    rcases Multiset.mem_cons.1 member with rfl | member
    · exact ⟨o, if_pos rfl⟩
    · obtain ⟨p, owns⟩ := heap.typed (Multiset.mem_add.2 (.inr member))
      exact ⟨p, more owns⟩
  case described =>
    intro c entry here found
    rw [World.find?_alloc] at found
    split at found
    next same =>
      cases found
      exact ⟨Nat.one_pos, o, if_pos (same.trans fresh.symm), describes.mono more⟩
    next =>
      obtain ⟨positive, p, owns, old⟩ := heap.described here found
      exact ⟨positive, p, more owns, old.mono more⟩
  case counted =>
    intro c here
    have before := heap.counted here
    rw [Multiset.count_add, Multiset.coe_count] at before
    rw [World.inner, World.total_alloc heap.first_le, ← World.inner, World.count,
      World.find?_alloc, fresh]
    by_cases same : c = w.cells.size
    · subst same
      rw [if_pos rfl, Multiset.count_cons_self]
      simp only [Option.map_some, Option.getD_some]
      omega
    · rw [if_neg same, Multiset.count_cons_of_ne same, ← World.count]
      dsimp only
      omega

end Heap

end SourceAtlas
