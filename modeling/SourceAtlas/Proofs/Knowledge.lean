import SourceAtlas.Proofs.Queries

/-!
# What cells know

What is remembered in a cell is asked of the engine once, as long as the cell is there: a question is
asked for a cell that does not know the answer, and from then on the cell knows it. Cells that are
freed are never asked for again, and cells that know something never forget it.
-/

namespace SourceAtlas

/-! ## What is known -/

/-- Whether the answer to a question of a kind is known. -/
def CursorMemo.knows (memo : CursorMemo) : MemoKind → Bool
  | .spelling => memo.spelling.isSome
  | .displayName => memo.displayName.isSome
  | .location => memo.location.isSome
  | .extent => memo.extent.isSome
  | .type => memo.type.isSome
  | .canonical => memo.canonical.isSome
  | .semanticParent => memo.semanticParent.isSome
  | .lexicalParent => memo.lexicalParent.isSome
  | .enumValue => memo.enumValue.isSome
  | .hash => memo.hash.isSome
  | .unitSpelling => false

/-- Whether the answer to a question of a kind is known in a cell. -/
def Content.knows : Content → MemoKind → Bool
  | .memo held, kind => held.knows kind
  | .unit _ spelling, .unitSpelling => spelling.isSome
  | _, _ => false

/-- Whether a memo knows where its location is in terms of files, lines and columns. -/
def CursorMemo.placed (memo : CursorMemo) : Bool :=
  (memo.location.bind (·.expansion)).isSome

/-- Whether a memo has everything that another one has. The cursors that are remembered stay the
same. -/
structure CursorMemo.Extends (before after : CursorMemo) : Prop where
  knows : ∀ kind, before.knows kind → after.knows kind
  placed : before.placed → after.placed
  canonical : ∀ k ∈ before.canonical, after.canonical = some k
  semanticParent : ∀ p ∈ before.semanticParent, after.semanticParent = some p
  lexicalParent : ∀ p ∈ before.lexicalParent, after.lexicalParent = some p

namespace CursorMemo.Extends

variable {first second third : CursorMemo}

theorem refl (memo : CursorMemo) : memo.Extends memo :=
  ⟨fun _ known => known, id, fun _ known => known, fun _ known => known, fun _ known => known⟩

theorem trans (one : first.Extends second) (two : second.Extends third) : first.Extends third where
  knows kind known := two.knows kind (one.knows kind known)
  placed known := two.placed (one.placed known)
  canonical k known := two.canonical k (one.canonical k known)
  semanticParent p known := two.semanticParent p (one.semanticParent p known)
  lexicalParent p known := two.lexicalParent p (one.lexicalParent p known)

end CursorMemo.Extends

/-- Whether a cell knows everything that it knew before. -/
inductive Content.Extends : Content → Content → Prop
  | refl (content : Content) : Extends content content
  | memo {before after : CursorMemo} : before.Extends after → Extends (.memo before) (.memo after)
  | unit (index : Index) (spelling : Option String) :
      Extends (.unit index none) (.unit index spelling)

namespace Content.Extends

variable {first second third : Content}

theorem trans (one : first.Extends second) (two : second.Extends third) : first.Extends third := by
  cases one with
  | refl => exact two
  | memo one =>
      cases two with
      | refl => exact .memo one
      | memo two => exact .memo (one.trans two)
  | unit index spelling =>
      cases two with
      | refl => exact .unit index spelling
      | unit _ spelling => exact .unit index spelling

theorem knows (extends' : first.Extends second) (kind : MemoKind) (known : first.knows kind) :
    second.knows kind := by
  cases extends' with
  | refl => exact known
  | memo extends' => exact extends'.knows kind known
  | unit index spelling => cases kind <;> exact absurd known Bool.false_ne_true

end Content.Extends

/-! ## What is asked -/

/-- The cell in which the answer to a question will be remembered, and of what kind the question is, if
there can be a memo for it. -/
def Event.recalls? : Event → Option (Option CellId × MemoKind)
  | .asked question _ memo => question.memoKind?.map (memo, ·)
  | _ => none

/-- How often something has been asked for a cell. -/
def timesAsked (events : List Event) (c : CellId) (kind : MemoKind) : Nat :=
  (events.filterMap Event.recalls?).count (some c, kind)

theorem timesAsked_append (newer older : List Event) (c : CellId) (kind : MemoKind) :
    timesAsked (newer ++ older) c kind = timesAsked newer c kind + timesAsked older c kind := by
  rw [timesAsked, List.filterMap_append, List.count_append]
  rfl

/-- What may be asked for which cells. -/
abbrev Askable := CellId → MemoKind → Prop

/-- Questions of some kinds for one cell. -/
def Askable.only (c : CellId) (K : MemoKind → Prop) : Askable :=
  fun d kind => d = c ∧ K kind

theorem Askable.only_mono {c : CellId} {K L : MemoKind → Prop} (kinds : ∀ kind, K kind → L kind)
    (d : CellId) (kind : MemoKind) (asks : only c K d kind) : only c L d kind :=
  ⟨asks.1, kinds kind asks.2⟩

namespace World

/-- Whether nothing is asked that could be remembered, and no cell learns or forgets anything. Cells
may be made and freed. -/
structure Still (w v : World) : Prop where
  trace : ∃ events, v.trace = events ++ w.trace ∧ events.filterMap Event.recalls? = []
  size : w.cells.size ≤ v.cells.size
  kept : ∀ c < w.cells.size, ∀ entry', v.find? c = some entry' →
    ∃ entry, w.find? c = some entry ∧ entry'.content = entry.content

/-- Whether only some questions that could be remembered are asked, each at most once and where the
answer was not known; then it is known from then on. No cell forgets anything. -/
structure Recalling (A : Askable) (w v : World) : Prop where
  trace : ∃ events, v.trace = events ++ w.trace ∧
    (∀ memo kind, (memo, kind) ∈ events.filterMap Event.recalls? → ∃ c, memo = some c ∧ A c kind) ∧
    ∀ c kind, timesAsked events c kind ≤ 1 ∧ (timesAsked events c kind ≠ 0 →
      c < v.cells.size ∧
      (c < w.cells.size → ∃ entry, w.find? c = some entry ∧ ¬ entry.content.knows kind) ∧
      ∀ entry, v.find? c = some entry → entry.content.knows kind)
  size : w.cells.size ≤ v.cells.size
  kept : ∀ c < w.cells.size, ∀ entry', v.find? c = some entry' →
    ∃ entry, w.find? c = some entry ∧ entry.content.Extends entry'.content ∧
      ∀ kind, entry'.content.knows kind → entry.content.knows kind ∨ A c kind

namespace Still

variable {u v w : World}

theorem of_survives (events : List Event) (trace : v.trace = events ++ w.trace)
    (silent : events.filterMap Event.recalls? = []) (size : w.cells.size = v.cells.size)
    (survives : v.Survives w) : w.Still v where
  trace := ⟨events, trace, silent⟩
  size := size.le
  kept c _ entry' found := by
    obtain ⟨entry, found, -, content⟩ := survives found
    exact ⟨entry, found, content⟩

/-- Events may be added that ask nothing that could be remembered. -/
theorem talk (cells : v.cells = w.cells) (events : List Event) (trace : v.trace = events ++ w.trace)
    (silent : events.filterMap Event.recalls? = []) : w.Still v :=
  .of_survives events trace silent (by rw [cells]) (.of_cells cells)

theorem refl (w : World) : w.Still w :=
  .talk rfl [] rfl rfl

theorem trans (first : w.Still v) (second : v.Still u) : w.Still u where
  trace := by
    obtain ⟨older, trace, silent⟩ := first.trace
    obtain ⟨newer, trace', silent'⟩ := second.trace
    exact ⟨newer ++ older, by rw [trace', trace, List.append_assoc],
      by rw [List.filterMap_append, silent, silent']; rfl⟩
  size := first.size.trans second.size
  kept c bound entry'' found := by
    obtain ⟨entry', found', content'⟩ := second.kept c (bound.trans_le first.size) entry'' found
    obtain ⟨entry, found, content⟩ := first.kept c bound entry' found'
    exact ⟨entry, found, content'.trans content⟩

theorem sheds (sheds : w.Sheds v) : w.Still v := by
  obtain ⟨events, trace, given⟩ := sheds.trace
  refine .of_survives events trace (List.filterMap_eq_nil_iff.2 fun event member => ?_)
    sheds.size.symm sheds.survives
  obtain ⟨r, rfl⟩ := given event member
  rfl

end Still

namespace Recalling

variable {A B : Askable} {u v w : World}

theorem still (still : w.Still v) : w.Recalling A v where
  trace := by
    obtain ⟨events, trace, silent⟩ := still.trace
    refine ⟨events, trace, ?_, fun c kind => ?_⟩
    · rw [silent]
      exact fun _ _ absent => absurd absent List.not_mem_nil
    · simp [timesAsked, silent]
  size := still.size
  kept c bound entry' found := by
    obtain ⟨entry, found, content⟩ := still.kept c bound entry' found
    exact ⟨entry, found, content ▸ .refl _, fun kind known => .inl (content ▸ known)⟩

theorem mono (recalling : w.Recalling A v) (more : ∀ c kind, A c kind → B c kind) :
    w.Recalling B v where
  trace := by
    obtain ⟨events, trace, tied, once⟩ := recalling.trace
    refine ⟨events, trace, fun memo kind member => ?_, once⟩
    obtain ⟨c, own, asks⟩ := tied memo kind member
    exact ⟨c, own, more c kind asks⟩
  size := recalling.size
  kept c bound entry' found := by
    obtain ⟨entry, found, extends', learnt⟩ := recalling.kept c bound entry' found
    exact ⟨entry, found, extends', fun kind known => (learnt kind known).imp_right (more c kind)⟩

theorem trans (first : w.Recalling A v) (second : v.Recalling A u) : w.Recalling A u where
  trace := by
    obtain ⟨older, trace, tied, once⟩ := first.trace
    obtain ⟨newer, trace', tied', once'⟩ := second.trace
    refine ⟨newer ++ older, by rw [trace', trace, List.append_assoc], fun memo kind member => ?_,
      fun c kind => ?_⟩
    · rw [List.filterMap_append, List.mem_append] at member
      exact member.elim (tied' memo kind) (tied memo kind)
    · rw [timesAsked_append]
      obtain ⟨few, known⟩ := once c kind
      obtain ⟨few', known'⟩ := once' c kind
      by_cases before : timesAsked older c kind = 0
      · rw [before]
        refine ⟨few', fun asked => ?_⟩
        obtain ⟨bound, unknown, knows⟩ := known' asked
        refine ⟨bound, fun old => ?_, knows⟩
        obtain ⟨entry', found', unknown⟩ := unknown (old.trans_le first.size)
        obtain ⟨entry, found, more, -⟩ := first.kept c old entry' found'
        exact ⟨entry, found, fun known => unknown (more.knows kind known)⟩
      · obtain ⟨bound, unknown, knows⟩ := known before
        -- What is known already is not asked again.
        have after : timesAsked newer c kind = 0 := by
          by_contra again
          obtain ⟨entry', found', unknown'⟩ := (known' again).2.1 bound
          exact unknown' (knows entry' found')
        rw [after, Nat.zero_add]
        refine ⟨few, fun _ => ⟨bound.trans_le second.size, unknown, fun entry'' found'' => ?_⟩⟩
        obtain ⟨entry', found', more, -⟩ := second.kept c bound entry'' found''
        exact more.knows kind (knows entry' found')
  size := first.size.trans second.size
  kept c bound entry'' found'' := by
    obtain ⟨entry', found', more', learnt'⟩ := second.kept c (bound.trans_le first.size) entry'' found''
    obtain ⟨entry, found, more, learnt⟩ := first.kept c bound entry' found'
    exact ⟨entry, found, more.trans more', fun kind known =>
      (learnt' kind known).elim (learnt kind) .inr⟩

end Recalling

end World

/-! ## Remembering -/

/-- Whether a place in a memo is for what is known of a kind. -/
structure MemoSlot.Tracks (slot : MemoSlot α) (kind : MemoKind) : Prop where
  knows : ∀ memo, memo.knows kind = (slot.get memo).isSome
  get_set : ∀ memo a, slot.get (slot.set memo a) = some a
  more : ∀ memo a, slot.get memo = none → memo.Extends (slot.set memo a)
  learns : ∀ memo a other, (slot.set memo a).knows other → memo.knows other ∨ other = kind

/-- A place in a memo is for a kind if what is known of other kinds, and the cursors that are
remembered, do not change when it is filled. -/
theorem MemoSlot.tracks {slot : MemoSlot α} {kind : MemoKind}
    (knows : ∀ memo, memo.knows kind = (slot.get memo).isSome)
    (get_set : ∀ memo a, slot.get (slot.set memo a) = some a)
    (others : ∀ memo a other, other ≠ kind → (slot.set memo a).knows other = memo.knows other)
    (placed : ∀ memo a, slot.get memo = none → memo.placed → (slot.set memo a).placed)
    (canonical : ∀ memo a, slot.get memo = none →
      ∀ k ∈ memo.canonical, (slot.set memo a).canonical = some k)
    (semanticParent : ∀ memo a, slot.get memo = none →
      ∀ p ∈ memo.semanticParent, (slot.set memo a).semanticParent = some p)
    (lexicalParent : ∀ memo a, slot.get memo = none →
      ∀ p ∈ memo.lexicalParent, (slot.set memo a).lexicalParent = some p) :
    slot.Tracks kind where
  knows := knows
  get_set := get_set
  more memo a none := by
    refine ⟨fun other known => ?_, placed memo a none, canonical memo a none,
      semanticParent memo a none, lexicalParent memo a none⟩
    by_cases same : other = kind
    · rw [same, knows, get_set]
      rfl
    · rwa [others memo a other same]
  learns memo a other known := by
    by_cases same : other = kind
    · exact .inr same
    · exact .inl (by rwa [← others memo a other same])

/-- A place that is neither for the location nor for a cursor. -/
theorem MemoSlot.tracks_plain {slot : MemoSlot α} {kind : MemoKind}
    (knows : ∀ memo, memo.knows kind = (slot.get memo).isSome)
    (get_set : ∀ memo a, slot.get (slot.set memo a) = some a)
    (others : ∀ memo a other, other ≠ kind → (slot.set memo a).knows other = memo.knows other)
    (plain : ∀ memo a, (slot.set memo a).location = memo.location ∧
      (slot.set memo a).canonical = memo.canonical ∧
      (slot.set memo a).semanticParent = memo.semanticParent ∧
      (slot.set memo a).lexicalParent = memo.lexicalParent) :
    slot.Tracks kind :=
  MemoSlot.tracks knows get_set others
    (fun memo a _ known => by rwa [CursorMemo.placed, (plain memo a).1])
    (fun memo a _ _ known => (plain memo a).2.1.trans known)
    (fun memo a _ _ known => (plain memo a).2.2.1.trans known)
    (fun memo a _ _ known => (plain memo a).2.2.2.trans known)

namespace CursorMemo

theorem spelling_tracks : spellingSlot.Tracks .spelling :=
  MemoSlot.tracks_plain (fun _ => rfl) (fun _ _ => rfl)
    (fun _ _ other different => by cases other <;> first | rfl | exact absurd rfl different)
    fun _ _ => ⟨rfl, rfl, rfl, rfl⟩

theorem displayName_tracks : displayNameSlot.Tracks .displayName :=
  MemoSlot.tracks_plain (fun _ => rfl) (fun _ _ => rfl)
    (fun _ _ other different => by cases other <;> first | rfl | exact absurd rfl different)
    fun _ _ => ⟨rfl, rfl, rfl, rfl⟩

theorem location_tracks : locationSlot.Tracks .location :=
  MemoSlot.tracks (fun _ => rfl) (fun _ _ => rfl)
    (fun _ _ other different => by cases other <;> first | rfl | exact absurd rfl different)
    (fun memo _ none known => by
      rw [CursorMemo.placed, show memo.location = Option.none from none] at known
      exact nomatch known)
    (fun _ _ _ _ known => known) (fun _ _ _ _ known => known) (fun _ _ _ _ known => known)

theorem extent_tracks : extentSlot.Tracks .extent :=
  MemoSlot.tracks_plain (fun _ => rfl) (fun _ _ => rfl)
    (fun _ _ other different => by cases other <;> first | rfl | exact absurd rfl different)
    fun _ _ => ⟨rfl, rfl, rfl, rfl⟩

theorem type_tracks : typeSlot.Tracks .type :=
  MemoSlot.tracks_plain (fun _ => rfl) (fun _ _ => rfl)
    (fun _ _ other different => by cases other <;> first | rfl | exact absurd rfl different)
    fun _ _ => ⟨rfl, rfl, rfl, rfl⟩

theorem canonical_tracks : canonicalSlot.Tracks .canonical :=
  MemoSlot.tracks (fun _ => rfl) (fun _ _ => rfl)
    (fun _ _ other different => by cases other <;> first | rfl | exact absurd rfl different)
    (fun _ _ _ known => known)
    (fun _ _ none _ known => nomatch none.symm.trans known)
    (fun _ _ _ _ known => known) (fun _ _ _ _ known => known)

theorem semanticParent_tracks : semanticParentSlot.Tracks .semanticParent :=
  MemoSlot.tracks (fun _ => rfl) (fun _ _ => rfl)
    (fun _ _ other different => by cases other <;> first | rfl | exact absurd rfl different)
    (fun _ _ _ known => known)
    (fun _ _ _ _ known => known)
    (fun _ _ none _ known => nomatch none.symm.trans known)
    (fun _ _ _ _ known => known)

theorem lexicalParent_tracks : lexicalParentSlot.Tracks .lexicalParent :=
  MemoSlot.tracks (fun _ => rfl) (fun _ _ => rfl)
    (fun _ _ other different => by cases other <;> first | rfl | exact absurd rfl different)
    (fun _ _ _ known => known)
    (fun _ _ _ _ known => known) (fun _ _ _ _ known => known)
    (fun _ _ none _ known => nomatch none.symm.trans known)

theorem enumValue_tracks : enumValueSlot.Tracks .enumValue :=
  MemoSlot.tracks_plain (fun _ => rfl) (fun _ _ => rfl)
    (fun _ _ other different => by cases other <;> first | rfl | exact absurd rfl different)
    fun _ _ => ⟨rfl, rfl, rfl, rfl⟩

theorem hash_tracks : hashSlot.Tracks .hash :=
  MemoSlot.tracks_plain (fun _ => rfl) (fun _ _ => rfl)
    (fun _ _ other different => by cases other <;> first | rfl | exact absurd rfl different)
    fun _ _ => ⟨rfl, rfl, rfl, rfl⟩

end CursorMemo

namespace World

variable {u v w : World} {c : CellId} {entry : Entry} {kind : MemoKind} {question : Question}

/-- Whether a cell has learnt something, unless it has been freed. -/
def Learnt (v : World) (c : CellId) (content : Content) (u : World) : Prop :=
  v.find? c = none ∧ u = v ∨
    ∃ entry, v.find? c = some entry ∧ u = v.put c (some { entry with content })

theorem Learnt.find? {content : Content} (learnt : v.Learnt c content u) {d : CellId}
    {entry' : Entry} (found' : u.find? d = some entry') :
    ∃ entry, v.find? d = some entry ∧
      entry'.content = if d = c then content else entry.content := by
  rcases learnt with ⟨freed, rfl⟩ | ⟨entry, found, rfl⟩
  · have other : d ≠ c := fun same => nomatch (same ▸ freed).symm.trans found'
    exact ⟨entry', found', (if_neg other).symm⟩
  · rw [find?_put found] at found'
    split at found'
    next same =>
      obtain rfl := Option.some.inj found'
      exact ⟨entry, same ▸ found, by rw [if_pos same]⟩
    next other => exact ⟨entry', found', (if_neg other).symm⟩

theorem Learnt.size {content : Content} (learnt : v.Learnt c content u) :
    u.cells.size = v.cells.size := by
  rcases learnt with ⟨-, rfl⟩ | ⟨entry, -, rfl⟩
  · rfl
  · exact size_cells_put ..

theorem Learnt.trace {content : Content} (learnt : v.Learnt c content u) : u.trace = v.trace := by
  rcases learnt with ⟨-, rfl⟩ | ⟨entry, -, rfl⟩ <;> rfl

/-- A question whose answer is not known in a cell is asked for the cell, which learns the answer in
the end. -/
theorem recalling_learn (found : w.find? c = some entry) (unknown : ¬ entry.content.knows kind)
    (asks : question.memoKind? = some kind) {operands : List Resource}
    (still : (w.note (.asked question operands (some c))).Still v) {content : Content}
    (learnt : v.Learnt c content u) (more : entry.content.Extends content)
    (knows : content.knows kind)
    (learns : ∀ other, content.knows other → entry.content.knows other ∨ other = kind) :
    w.Recalling (.only c (· = kind)) u where
  trace := by
    obtain ⟨events, trace, silent⟩ := still.trace
    -- what passes after the question tells no cell anything
    have heard : (events ++ [Event.asked question operands (some c)]).filterMap Event.recalls? =
        [(some c, kind)] := by
      rw [List.filterMap_append, silent]
      simp [Event.recalls?, asks]
    refine ⟨events ++ [.asked question operands (some c)], ?_, ?_, fun d other => ?_⟩
    · rw [learnt.trace, trace, List.append_assoc]
      rfl
    · rw [heard]
      rintro memo other member
      obtain ⟨rfl, rfl⟩ := Prod.mk.inj (List.mem_singleton.1 member)
      exact ⟨c, rfl, rfl, rfl⟩
    · rw [timesAsked, heard, List.count_singleton]
      split
      next equal =>
        obtain ⟨cells, rfl⟩ := Prod.mk.inj (beq_iff_eq.1 equal)
        obtain rfl := Option.some.inj cells
        have bound : c < w.cells.size := (find?_eq_some found).1
        refine ⟨le_refl 1, fun _ => ⟨?_, fun _ => ⟨entry, found, unknown⟩, fun entry' found' => ?_⟩⟩
        · exact learnt.size ▸ bound.trans_le still.size
        · obtain ⟨_, -, now⟩ := learnt.find? found'
          rwa [now, if_pos rfl]
      next => exact ⟨Nat.zero_le 1, fun asked => absurd rfl asked⟩
  size := learnt.size ▸ still.size
  kept d bound entry'' found'' := by
    obtain ⟨entry', found', now⟩ := learnt.find? found''
    obtain ⟨before, found₀, same⟩ := still.kept d bound entry' found'
    have found₀ : w.find? d = some before := found₀
    refine ⟨before, found₀, ?_⟩
    rw [now]
    split
    next here =>
      subst here
      obtain rfl := Option.some.inj (found₀.symm.trans found)
      exact ⟨more, fun other known => (learns other known).imp_right (⟨rfl, ·⟩)⟩
    next =>
      rw [same]
      exact ⟨.refl _, fun _ known => .inl known⟩

/-- An answer is remembered in a memo that has none. -/
theorem learnt_remember [Holder α] {slot : MemoSlot α} {memo : CursorMemo}
    (still : ∀ entry, v.find? c = some entry → entry.content = .memo memo)
    (none : slot.get memo = none) (a : α) :
    v.Learnt c (.memo (slot.set memo a)) (v.remember c slot a) := by
  cases found : v.find? c with
  | none => exact .inl ⟨found, by rw [remember, found]⟩
  | some entry =>
      refine .inr ⟨entry, found, ?_⟩
      have content := still entry found
      obtain ⟨count, resource, _⟩ := entry
      subst content
      rw [remember, found]
      simp only [none]
      rw [show refs (Option.none : Option α) = [] from rfl, release]

/-- What has no place in a memo yet is asked for and remembered, if nothing in between concerns a
memo. -/
theorem recalling_remember [Holder α] {slot : MemoSlot α} (tracks : slot.Tracks kind)
    (found : w.find? c = some entry) (content : entry.content = .memo (w.memo c))
    (none : slot.get (w.memo c) = none) (asks : question.memoKind? = some kind)
    {operands : List Resource}
    (silent : (w.note (.asked question operands (some c))).Still v) (a : α) :
    w.Recalling (.only c (· = kind)) (v.remember c slot a) := by
  -- the cell may have been freed in between; if it is there, it is as it was
  have still : ∀ entry', v.find? c = some entry' → entry'.content = .memo (w.memo c) := by
    intro entry' found'
    obtain ⟨before, found₀, same⟩ := silent.kept c (lt_size_of_find? found) entry' found'
    have found₀ : w.find? c = some before := found₀
    obtain rfl := Option.some.inj (found₀.symm.trans found)
    exact same.trans content
  have unknown : ¬ entry.content.knows kind := by
    rw [content, Content.knows, tracks.knows, none]
    exact Bool.false_ne_true
  refine recalling_learn found unknown asks silent (learnt_remember still none a) ?_ ?_ ?_
  · rw [content]
    exact .memo (tracks.more _ _ none)
  · rw [Content.knows, tracks.knows, tracks.get_set]
    rfl
  · rw [content]
    exact tracks.learns _ _

end World

end SourceAtlas
