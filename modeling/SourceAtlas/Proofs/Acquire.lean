import SourceAtlas.Proofs.Lockstep

/-!
# Taking resources

A resource is taken in three steps: the engine is asked for it, it gets a number, and it is put into
a new cell or given back at once. Between the steps the store is ready for the next one. Two runs in
lockstep take corresponding resources.
-/

namespace SourceAtlas

/-! ## Taking references commutes with taking a resource -/

namespace World

variable {w : World} {kind : ResourceKind} {label : Nat}

theorem retain_eq (w : World) (cell : CellId) :
    w.retain cell = { w with cells := (w.retain cell).cells } := by
  unfold retain
  split <;> rfl

theorem retainAll_eq (w : World) (cells : CellRefs) :
    w.retainAll cells = { w with cells := (w.retainAll cells).cells } := by
  induction cells generalizing w with
  | nil => rfl
  | cons cell cells ih =>
      show (w.retain cell).retainAll cells = { w with cells := ((w.retain cell).retainAll cells).cells }
      rw [ih (w.retain cell), retain_eq]

theorem size_retainAll (w : World) (cells : CellRefs) :
    (w.retainAll cells).cells.size = w.cells.size := by
  induction cells generalizing w with
  | nil => rfl
  | cons cell cells ih =>
      refine (ih (w.retain cell)).trans ?_
      unfold retain
      split
      · exact size_cells_put _ _ _
      · rfl

theorem retainAll_acquire (w : World) (cells : CellRefs) :
    (w.acquire kind label).1.retainAll cells = ((w.retainAll cells).acquire kind label).1 := by
  induction cells generalizing w with
  | nil => rfl
  | cons cell cells ih =>
      have step : (w.acquire kind label).1.retain cell = ((w.retain cell).acquire kind label).1 := by
        have same : (w.acquire kind label).1.find? cell = w.find? cell := rfl
        unfold retain
        rw [same]
        split <;> rfl
      show ((w.acquire kind label).1.retain cell).retainAll cells = _
      rw [step, ih]
      rfl

theorem resourceAt_retain (w : World) (cell other : CellId) :
    (w.retain cell).resourceAt other = w.resourceAt other := by
  unfold retain
  cases found : w.find? cell with
  | none => rfl
  | some entry =>
      rw [resourceAt_put found]
      by_cases same : other = cell
      · rw [if_pos same, same, resourceAt_eq found]
        rfl
      · rw [if_neg same]

theorem resourceAt_retainAll (w : World) (cells : CellRefs) (other : CellId) :
    (w.retainAll cells).resourceAt other = w.resourceAt other := by
  induction cells generalizing w with
  | nil => rfl
  | cons cell cells ih => exact (ih (w.retain cell)).trans (w.resourceAt_retain cell other)

theorem instanceAt_retainAll (w : World) (cells : CellRefs) (other : CellId) :
    (w.retainAll cells).instanceAt other = w.instanceAt other :=
  instanceAt_congr (w.resourceAt_retainAll cells other)

end World

theorem Act.exec_newCell (setting : Setting) (w : World) (resource : Option Resource)
    (content : Content) :
    (Act.newCell resource content).exec setting w =
      (.ok (w.retainAll (refs content)).cells.size,
        ((w.retainAll (refs content)).alloc resource content).1) :=
  rfl

/-! ## The owner of a new cell -/

/-- Whether a resource is within reach and of the kind that lends, if there is one. -/
def LendsTo (held : Held) (lender : Option ResourceKind) (r : Resource) : Prop :=
  ∃ o, Within held o ∧ o.resource = some r ∧ o.kind? = lender

theorem LendsTo.lends {held : Held} {lender : Option ResourceKind} {r : Resource}
    (lends : LendsTo held lender r) : Lends held r := by
  obtain ⟨o, within, owned, -⟩ := lends
  exact ⟨o, within, owned⟩

/-- Whether a new cell with some content is what an owner describes, whose lenders are within reach,
and which knows what the resource borrows from. -/
structure Founds (engine : Engine) (held : Held) (kind : ResourceKind) (lenders : List Resource)
    (content : Content) (owner : CellId → Resource → Owner) : Prop where
  cell : ∀ c r, (owner c r).cell = c
  kind : ∀ c r, (owner c r).kind? = some kind
  describes : ∀ τ c r, (owner c r).Describes engine τ ⟨1, some r, content⟩
  within : ∀ {c r p}, p ∈ (owner c r).lenders → Within held p
  known : ∀ c r, ∀ s ∈ lenders, (owner c r).source? = some s
  fresh : ∀ {c r u}, owner c r = .unit u → content = .unit u.index none

/-- Whether the last instance of a unit has some number, which no other unit has, and some entry of
the tables. -/
structure Side.Counts (side : Side) (label table : Nat) (w : World) : Prop where
  start_le : side.start.instances.size ≤ label
  lt : label < w.instances.size
  table : w.instances[label]?.getD 0 = table
  unused : ∀ c, side.first ≤ c → w.instanceAt c ≠ some label

/-- A new cell owns a new resource, and is held from then on. -/
theorem Core.hold {engine : Engine} {side : Side} {facts : Facts} {τ : Typing} {held : Held}
    {w : World} {kind : ResourceKind} {lenders : List Resource} (label table : Nat)
    {content : Content} {owner : CellId → Resource → Owner}
    (core : Core engine side facts τ (refs content + held.map Owner.cell) w)
    (owns : ∀ o ∈ held, τ.Owns o) (lends : ∀ {c r p}, p ∈ (owner c r).lenders → τ.Owns p)
    (loaded : facts.loaded = true) (primed : w.Primed kind lenders)
    (founds : Founds engine held kind lenders content owner)
    (unit : kind = .unit → side.Counts label table w) :
    At engine side (owner w.cells.size ⟨kind, w.acquired, label⟩ ::ₘ held)
      (facts.take engine ⟨kind, w.acquired, label⟩ table)
      ((w.acquire kind label).1.alloc (some ⟨kind, w.acquired, label⟩) content).1 := by
  generalize owned : (⟨kind, w.acquired, label⟩ : Resource) = r
  have fresh : (owner w.cells.size r).cell = w.cells.size := founds.cell _ _
  have described := founds.describes τ w.cells.size r
  have grown := core.own fresh (by rw [owned]; exact described.1.symm) (founds.kind _ _) primed
    (founds.known _ _) (fun _ => lends) (by rw [owned]; exact described) table
    (fun same => (unit same).unused) fun u same => by
      have kindUnit : kind = .unit := by
        have := founds.kind w.cells.size r
        rw [same] at this
        exact (Option.some.inj this).symm
      have counts := unit kindUnit
      exact ⟨founds.fresh same, counts.start_le, counts.lt, counts.table⟩
  rw [owned, ← Multiset.map_cons] at grown
  refine ⟨_, { grown with owns := ?_, loaded := fun _ => loaded }⟩
  have more := core.heap.extends_extend fresh
  intro o member
  rcases Multiset.mem_cons.1 member with rfl | member
  · exact if_pos rfl
  · exact more (owns o member)

/-- Whether a resource of some kind has just been asked for. -/
structure Ready (engine : Engine) (side : Side) (held : Held) (facts : Facts)
    (kind : ResourceKind) (lenders : List Resource) (w : World) : Prop where
  order : At engine side held facts w
  loaded : w.loaded = true
  primed : w.Primed kind lenders

namespace Ready

variable {engine : Engine} {side : Side} {facts : Facts} {held : Held} {w : World}
variable {kind : ResourceKind} {lenders : List Resource} {label table : Nat}

/-- After an event that asks for a resource the store is ready. -/
theorem note {event : Event} (order : At engine side held facts w) (loaded : w.loaded = true)
    (asks : event.handsOut? = some kind)
    (lends : ∀ r ∈ event.operands, LendsTo held event.lender? r)
    (nonempty : kind.lenders ≠ [] → event.operands ≠ []) (unmixed : event.Unmixed) :
    Ready engine side held facts kind event.operands (w.note event) := by
  obtain ⟨τ, inv⟩ := order
  have acquired : ∀ r, event ≠ .acquired r := by
    rintro r rfl
    exact nomatch asks
  have disposed : ∀ r, event ≠ .disposed r := by
    rintro r rfl
    exact nomatch asks
  have texts : event.textSerial? = none := by
    cases event <;> first | rfl | exact nomatch asks
  have noted := inv.note acquired disposed texts (fun r member => (lends r member).lends) unmixed
  refine ⟨⟨τ, noted⟩, loaded, event, w.trace, rfl, ⟨asks, fun s member => ?_, nonempty⟩,
    fun _ member => member⟩
  obtain ⟨o, within, owned, known⟩ := lends s member
  exact known.symm.trans (inv.books.kind (inv.alive within).1 owned)

/-- A resource that was asked for is put into a new cell. -/
theorem newCell (table : Nat) {content : Content} {owner : CellId → Resource → Owner} {r : Resource}
    (ready : Ready engine side held facts kind lenders w)
    (founds : Founds engine held kind lenders content owner)
    (unit : kind = .unit → side.Counts label table w) (taken : r = ⟨kind, w.acquired, label⟩) :
    ∃ c v, (Act.newCell (some r) content).exec (side.setting engine) (w.acquire kind label).1 =
        (.ok c, v) ∧
      At engine side (owner c r ::ₘ held) (facts.take engine r table) v := by
  obtain ⟨⟨τ, inv⟩, loaded, primed⟩ := ready
  have core := inv.toCore.retainAll (owner w.cells.size r).lenders fun p lends => by
    obtain ⟨owns, entry, found, -⟩ := inv.alive (founds.within lends)
    exact ⟨owns, entry, found⟩
  rw [← (founds.describes τ w.cells.size r).refs_eq
    (by rw [← (founds.describes τ w.cells.size r).1]; rfl)] at core
  have kept := World.retainAll_eq w (refs content)
  -- the store is in order between the two if the lenders are retained first
  have moved : (w.acquire kind label).1.retainAll (refs content) =
      ((w.retainAll (refs content)).acquire kind label).1 := World.retainAll_acquire w _
  have same := w.instanceAt_retainAll (refs content)
  generalize w.retainAll (refs content) = v at core kept moved same
  have acquired : v.acquired = w.acquired := by rw [kept]
  have counts (isUnit : kind = .unit) : side.Counts label table v := by
    have counts := unit isUnit
    rw [kept]
    refine ⟨counts.start_le, counts.lt, counts.table, fun c here => ?_⟩
    show World.instanceAt { w with cells := v.cells } c ≠ _
    rw [← kept, same]
    exact counts.unused c here
  rw [← acquired] at taken
  have held := core.hold label table inv.owns
    (fun lends => (inv.alive (founds.within lends)).1)
    (inv.shows.loaded.symm.trans loaded) (by rw [kept]; exact primed) founds counts
  rw [← taken] at held
  exact ⟨_, _, by rw [Act.exec_newCell, moved]; rfl, held⟩

/-- A resource that was asked for is given back at once. -/
theorem dispose {r : Resource} (ready : Ready engine side held facts kind lenders w)
    (lends : ∀ s ∈ lenders, Lends held s) (taken : r = ⟨kind, w.acquired, label⟩) :
    ∃ v, (Act.dispose r).exec (side.setting engine) (w.acquire kind label).1 = (.ok (), v) ∧
      At engine side held { facts with acquired := facts.acquired + 1 } v := by
  obtain ⟨⟨τ, inv⟩, -, primed⟩ := ready
  subst taken
  refine ⟨_, rfl, τ, inv.update (inv.toCore.refuse kind label primed ?_) rfl⟩
  exact fun s member => inv.isOut (lends s member)

theorem shows (ready : Ready engine side held facts kind lenders w) : Shows engine side facts w :=
  ready.order.choose_spec.shows

/-- Counters may change in between. -/
theorem recount (ready : Ready engine side held facts kind lenders w) (indexes lists : Nat) :
    Ready engine side held { facts with indexes, lists } kind lenders
      { w with indexes, commandLists := lists } := by
  obtain ⟨⟨τ, inv⟩, loaded, primed⟩ := ready
  have same : ({ facts with indexes, lists, loaded := w.loaded } : Facts) =
      { facts with indexes, lists } := by rw [inv.shows.loaded]
  refine ⟨⟨τ, ?_⟩, loaded, primed⟩
  rw [← same]
  exact inv.update (inv.toCore.recount indexes lists w.loaded) inv.shows.loaded

/-- An index gets the next number. -/
theorem countIndex (ready : Ready engine side held facts kind lenders w) :
    Ready engine side held { facts with indexes := facts.indexes + 1 } kind lenders
      { w with indexes := w.indexes + 1 } := by
  have next := ready.recount (facts.indexes + 1) facts.lists
  rw [← ready.shows.indexes, ← ready.shows.lists] at next ⊢
  exact next

/-- A list of commands gets the next number. -/
theorem countList (ready : Ready engine side held facts kind lenders w) :
    Ready engine side held { facts with lists := facts.lists + 1 } kind lenders
      { w with commandLists := w.commandLists + 1 } := by
  have next := ready.recount facts.indexes (facts.lists + 1)
  rw [← ready.shows.indexes, ← ready.shows.lists] at next ⊢
  exact next

/-- A unit gets the next instance, with an entry of the tables. -/
theorem push (ready : Ready engine side held facts kind lenders w) (table : Nat) :
    Ready engine side held { facts with units := facts.units + 1 } kind lenders
        { w with instances := w.instances.push table } ∧
      side.Counts w.instances.size table { w with instances := w.instances.push table } := by
  obtain ⟨⟨τ, inv⟩, loaded, primed⟩ := ready
  refine ⟨⟨⟨τ, inv.update (inv.toCore.push table) rfl⟩, loaded, primed⟩, ?_⟩
  refine ⟨inv.books.tables.1, by simp, by simp, fun c here number => ?_⟩
  exact Nat.lt_irrefl _ (inv.instanceAt_lt here number)

end Ready

/-! ## Two runs -/

namespace Shift.Links

variable {shift : Shift} {facts facts' : Facts}

/-- Resources that are taken next correspond. -/
theorem rename_next (links : shift.Links facts facts') (kind : ResourceKind) (label : Nat) :
    shift.rename ⟨kind, facts.acquired, label⟩ =
      ⟨kind, facts'.acquired, label + shift.label kind⟩ := by
  rw [links.acquired]
  exact if_neg (Nat.not_lt.2 links.base)

/-- Both runs give a resource back as soon as they have taken it. -/
theorem skip (links : shift.Links facts facts') :
    shift.Links { facts with acquired := facts.acquired + 1 }
      { facts' with acquired := facts'.acquired + 1 } :=
  { links with
    base := Nat.le_succ_of_le links.base
    acquired := by
      show facts'.acquired + 1 = facts.acquired + 1 + shift.serials
      rw [links.acquired, Nat.add_right_comm] }

/-- Both runs take a resource. -/
theorem take (engine : Engine) (links : shift.Links facts facts') (r : Resource) (table : Nat) :
    shift.Links (facts.take engine r table) (facts'.take engine (shift.rename r) table) :=
  { links.skip with
    table := by
      intro s
      rw [Facts.table_take, Facts.table_take, links.table]
      simp only [shift.rename_injective.eq_iff]
    spelling := by
      intro s
      rw [Facts.spelling_take, Facts.spelling_take, links.spelling]
      simp only [shift.rename_injective.eq_iff] }

end Shift.Links

namespace Facts.Grows

variable {base facts : Facts}

theorem skip (grows : base.Grows facts) :
    base.Grows { facts with acquired := facts.acquired + 1 } :=
  { grows with acquired := Nat.le_succ_of_le grows.acquired }

/-- What is new is not what was there before. -/
theorem take {engine : Engine} (grows : base.Grows facts) (r : Resource)
    (next : r.serial = facts.acquired) (table : Nat) : base.Grows (facts.take engine r table) := by
  have other {s : Resource} (older : s.serial < base.acquired) : s ≠ r := by
    rintro rfl
    have := grows.acquired
    omega
  exact
    { grows.skip with
      table := fun s older => (if_neg (other older)).trans (grows.table s older)
      spelling := fun s older => (if_neg (other older)).trans (grows.spelling s older) }

end Facts.Grows

namespace Duo

variable (D : Duo)

/-- Whether both runs have just asked for a resource of some kind. -/
def Asked (base : Facts) (H : Grip) (kind : ResourceKind) (lenders lenders' : List Resource)
    (w w' : World) : Prop :=
  ∃ facts facts', base.Grows facts ∧ D.shift.Links facts facts' ∧
    Ready D.engine D.left H.1 facts kind lenders w ∧
    Ready D.engine D.right H.2 facts' kind lenders' w'

/-- Whether both runs have a number for the resource that they have asked for. -/
def Numbered (base : Facts) (H : Grip) (kind : ResourceKind) (lenders lenders' : List Resource)
    (label label' table : Nat) (w w' : World) : Prop :=
  D.Asked base H kind lenders lenders' w w' ∧ label' = label + D.shift.label kind ∧
    (kind = .unit → D.left.Counts label table w ∧ D.right.Counts label' table w')

/-- Whether both runs have taken the resource that they have asked for. -/
def Taken (base : Facts) (H : Grip) (kind : ResourceKind) (lenders lenders' : List Resource)
    (table : Nat) (r r' : Resource) (w w' : World) : Prop :=
  ∃ label label' v v', D.Numbered base H kind lenders lenders' label label' table v v' ∧
    w = (v.acquire kind label).1 ∧ w' = (v'.acquire kind label').1 ∧
    r = ⟨kind, v.acquired, label⟩ ∧ r' = ⟨kind, v'.acquired, label'⟩

variable {D} {H F : Grip} {base : Facts} {kind : ResourceKind} {lenders lenders' : List Resource}
variable {label label' table : Nat} {w w' : World}

theorem Asked.holds (asked : D.Asked base H kind lenders lenders' w w') : D.Holds base H w w' := by
  obtain ⟨facts, facts', grows, links, ready, ready'⟩ := asked
  exact ⟨facts, facts', grows, links, ready.order, ready'.order⟩

/-! ### Asking -/

theorem lockstep_engine_bind {β : Type} {P : World → World → Prop} {f g : Engine → Act β}
    {Q : β → β → World → World → Prop} {G : World → World → Prop}
    (next : D.Lockstep P (f D.engine) (g D.engine) Q G) :
    D.Lockstep P (Act.engine >>= f) (Act.engine >>= g) Q G :=
  fun w w' holds => by
    rw [Act.exec_bind_ok Act.exec_engine, Act.exec_bind_ok Act.exec_engine]
    exact next w w' holds

theorem lockstep_table_bind {β : Type} {u u' : SourceUnit} (pair : D.Pair H u u')
    {f g : Nat → Act β} {Q : β → β → World → World → Prop} {G : World → World → Prop}
    (next : ∀ table, D.Lockstep (D.Asked base H kind lenders lenders') (f table) (g table) Q G) :
    D.Lockstep (D.Asked base H kind lenders lenders') (Act.table u.resource >>= f)
      (Act.table u'.resource >>= g) Q G :=
  fun w w' asked => by
    rw [Act.exec_bind_ok (Act.exec_table _), Act.exec_bind_ok (Act.exec_table _),
      asked.holds.table pair]
    exact next _ w w' asked

/-- A question may ask for a resource. -/
theorem lockstep_ask {question : Question} {operands operands' : List Resource}
    {lender : Option ResourceKind} (lends : ∀ r ∈ operands, LendsTo H.1 lender r)
    (lends' : ∀ r ∈ operands', LendsTo H.2 lender r)
    (asks : ∀ operands memo, (Event.asked question operands memo).handsOut? = some kind ∧
      (Event.asked question operands memo).lender? = lender)
    (some : operands ≠ []) (some' : operands' ≠ [])
    (unmixed : question.joins = true → ∀ r ∈ operands, ∀ s ∈ operands, r = s)
    (unmixed' : question.joins = true → ∀ r ∈ operands', ∀ s ∈ operands', r = s) :
    D.Lockstep (D.Holds base H) (Act.ask question operands) (Act.ask question operands')
      (fun _ _ => D.Asked base H kind operands operands') (D.Holds base F) := by
  rintro w w' ⟨facts, facts', grows, links, order, order'⟩
  obtain ⟨r, member⟩ := List.exists_mem_of_ne_nil _ some
  obtain ⟨r', member'⟩ := List.exists_mem_of_ne_nil _ some'
  obtain ⟨τ, inv⟩ := order
  obtain ⟨τ', inv'⟩ := order'
  have loaded := inv.isLoaded (lends r member).lends.ne_zero
  have loaded' := inv'.isLoaded (lends' r' member').lends.ne_zero
  exact .inl ⟨(), (), _, _, Act.exec_ask _ _ _ loaded, Act.exec_ask _ _ _ loaded', facts, facts',
    grows, links,
    .note ⟨τ, inv⟩ loaded (asks _ _).1 ((asks operands none).2 ▸ lends) (fun _ => some) unmixed,
    .note ⟨τ', inv'⟩ loaded' (asks _ _).1 ((asks operands' none).2 ▸ lends') (fun _ => some')
      unmixed'⟩

/-- A request may ask for a resource. It is a defect if the engine has not been loaded. -/
theorem lockstep_request (request request' : Request)
    (asks : (Event.requested request).handsOut? = some kind)
    (asks' : (Event.requested request').handsOut? = some kind)
    (lends : ∀ r ∈ request.operands, LendsTo H.1 (Event.requested request).lender? r)
    (lends' : ∀ r ∈ request'.operands, LendsTo H.2 (Event.requested request').lender? r)
    (some : kind.lenders ≠ [] → request.operands ≠ [])
    (some' : kind.lenders ≠ [] → request'.operands ≠ []) :
    D.Lockstep (D.Holds base H) (Act.request request) (Act.request request')
      (fun _ _ => D.Asked base H kind request.operands request'.operands) (D.Holds base H) := by
  rintro w w' ⟨facts, facts', grows, links, order, order'⟩
  have same : w'.loaded = w.loaded := by
    obtain ⟨τ, inv⟩ := order
    obtain ⟨τ', inv'⟩ := order'
    rw [inv.shows.loaded, inv'.shows.loaded, links.loaded]
  cases loaded : w.loaded with
  | true =>
      have loaded' := same.trans loaded
      exact .inl ⟨(), (), _, _, Act.exec_request _ loaded, Act.exec_request _ loaded', facts,
        facts', grows, links, .note order loaded asks lends some trivial,
        .note order' loaded' asks' lends' some' trivial⟩
  | false =>
      exact .inr ⟨_, w, w', Act.exec_request_unloaded _ loaded,
        Act.exec_request_unloaded _ (same.trans loaded), facts, facts', grows, links, order, order'⟩

/-! ### Numbers -/

theorem Asked.numbered (asked : D.Asked base H kind lenders lenders' w w') (label : Nat)
    (other : kind ≠ .unit) :
    D.Numbered base H kind lenders lenders' label (label + D.shift.label kind) 0 w w' :=
  ⟨asked, rfl, fun same => absurd same other⟩

/-- Both runs make another index. -/
theorem lockstep_countIndex : D.Lockstep (D.Asked base H .index lenders lenders')
    (Act.updateGet fun w => ({ w with indexes := w.indexes + 1 }, w.indexes))
    (Act.updateGet fun w => ({ w with indexes := w.indexes + 1 }, w.indexes))
    (fun label label' => D.Numbered base H .index lenders lenders' label label' 0)
    (D.Holds base F) := by
  rintro w w' ⟨facts, facts', grows, links, ready, ready'⟩
  have number : w'.indexes = w.indexes + D.shift.indexes := by
    rw [ready.shows.indexes, ready'.shows.indexes, links.indexes]
  refine .inl ⟨_, _, _, _, rfl, rfl, ⟨_, _, ?_, ?_, ready.countIndex, ready'.countIndex⟩, number,
    nofun⟩
  · exact { grows with indexes := Nat.le_succ_of_le grows.indexes }
  · exact { links with
      indexes := by
        show facts'.indexes + 1 = facts.indexes + 1 + D.shift.indexes
        rw [links.indexes, Nat.add_right_comm] }

/-- Both runs ask for another list of commands. -/
theorem lockstep_countList : D.Lockstep (D.Asked base H .commands lenders lenders')
    (Act.updateGet fun w => ({ w with commandLists := w.commandLists + 1 }, w.commandLists))
    (Act.updateGet fun w => ({ w with commandLists := w.commandLists + 1 }, w.commandLists))
    (fun label label' => D.Numbered base H .commands lenders lenders' label label' 0)
    (D.Holds base F) := by
  rintro w w' ⟨facts, facts', grows, links, ready, ready'⟩
  have number : w'.commandLists = w.commandLists + D.shift.lists := by
    rw [ready.shows.lists, ready'.shows.lists, links.lists]
  refine .inl ⟨_, _, _, _, rfl, rfl, ⟨_, _, ?_, ?_, ready.countList, ready'.countList⟩, number,
    nofun⟩
  · exact { grows with lists := Nat.le_succ_of_le grows.lists }
  · exact { links with
      lists := by
        show facts'.lists + 1 = facts.lists + 1 + D.shift.lists
        rw [links.lists, Nat.add_right_comm] }

/-- Both runs make another instance of a unit. -/
theorem lockstep_push (table : Nat) : D.Lockstep (D.Asked base H .unit lenders lenders')
    (Act.updateGet fun w =>
      ({ w with instances := w.instances.push table }, w.instances.size))
    (Act.updateGet fun w =>
      ({ w with instances := w.instances.push table }, w.instances.size))
    (fun label label' => D.Numbered base H .unit lenders lenders' label label' table)
    (D.Holds base F) := by
  rintro w w' ⟨facts, facts', grows, links, ready, ready'⟩
  have number : w'.instances.size = w.instances.size + D.shift.units := by
    rw [ready.shows.units, ready'.shows.units, links.units]
  obtain ⟨next, counts⟩ := ready.push table
  obtain ⟨next', counts'⟩ := ready'.push table
  refine .inl ⟨_, _, _, _, rfl, rfl, ⟨_, _, ?_, ?_, next, next'⟩, number,
    fun _ => ⟨counts, counts'⟩⟩
  · exact { grows with units := Nat.le_succ_of_le grows.units }
  · exact { links with
      units := by
        show facts'.units + 1 = facts.units + 1 + D.shift.units
        rw [links.units, Nat.add_right_comm] }

/-! ### Resources -/

/-- Both runs take the resource. -/
theorem lockstep_acquire : D.Lockstep
    (D.Numbered base H kind lenders lenders' label label' table)
    (Act.acquire kind label) (Act.acquire kind label')
    (fun r r' => D.Taken base H kind lenders lenders' table r r') (D.Holds base F) :=
  fun w w' numbered =>
    .inl ⟨_, _, _, _, rfl, rfl, label, label', w, w', numbered, rfl, rfl, rfl, rfl⟩

/-- A resource that was taken is put into a new cell, whose owner is held from then on. -/
theorem lockstep_newCell {table : Nat} {r r' : Resource} {content content' : Content}
    {owner owner' : CellId → Resource → Owner}
    (founds : Founds D.engine H.1 kind lenders content owner)
    (founds' : Founds D.engine H.2 kind lenders' content' owner') :
    D.Lockstep (D.Taken base H kind lenders lenders' table r r')
      (Act.newCell (some r) content) (Act.newCell (some r') content')
      (fun c c' w w' => D.shift.rename r = r' ∧
        D.Holds base (owner c r ::ₘ H.1, owner' c' r' ::ₘ H.2) w w') (D.Holds base F) := by
  rintro _ _ ⟨label, label', v, v', ⟨⟨facts, facts', grows, links, ready, ready'⟩, rfl, counts⟩,
    rfl, rfl, taken, taken'⟩
  obtain ⟨c, w, ran, order⟩ :=
    ready.newCell table founds (fun unit => (counts unit).1) taken
  obtain ⟨c', w', ran', order'⟩ :=
    ready'.newCell table founds' (fun unit => (counts unit).2) taken'
  have renamed : D.shift.rename r = r' := by
    rw [taken, taken', ready.shows.acquired, ready'.shows.acquired, links.rename_next]
  have number : r.serial = facts.acquired := by rw [taken, ready.shows.acquired]
  refine .inl ⟨c, c', w, w', ran, ran', renamed, _, _, grows.take _ number table, ?_, order, order'⟩
  exact renamed ▸ links.take D.engine r table

/-- A resource that was taken is given back. -/
theorem lockstep_dispose {table : Nat} {r r' : Resource}
    (lends : ∀ s ∈ lenders, Lends H.1 s) (lends' : ∀ s ∈ lenders', Lends H.2 s) :
    D.Lockstep (D.Taken base H kind lenders lenders' table r r')
      (Act.dispose r) (Act.dispose r') (fun _ _ => D.Holds base H) (D.Holds base F) := by
  rintro _ _ ⟨label, label', v, v', ⟨⟨facts, facts', grows, links, ready, ready'⟩, rfl, counts⟩,
    rfl, rfl, taken, taken'⟩
  obtain ⟨w, ran, order⟩ := ready.dispose lends taken
  obtain ⟨w', ran', order'⟩ := ready'.dispose lends' taken'
  exact .inl ⟨(), (), w, w', ran, ran', _, _, grows.skip, links.skip, order, order'⟩

/-- Both runs take a resource, give it back, and fail. -/
theorem lockstep_refuse {α : Type} {failure : Failure} {Q : α → α → World → World → Prop}
    (lends : ∀ s ∈ lenders, Lends H.1 s) (lends' : ∀ s ∈ lenders', Lends H.2 s) :
    D.Lockstep (D.Numbered base H kind lenders lenders' label label' table)
      (do
        let r ← Act.acquire kind label
        Act.dispose r
        Act.fail failure)
      (do
        let r ← Act.acquire kind label'
        Act.dispose r
        Act.fail failure)
      Q (D.Holds base H) :=
  lockstep_acquire.bind fun _ _ => (lockstep_dispose lends lends').bind fun _ _ w w' holds =>
    .inr ⟨_, w, w', rfl, rfl, holds⟩

section Entities

variable {α : Type} [Holder α] [Likeness α] [Entity α]

/-- Both runs take a resource, put it into a new cell, and return what owns it. -/
theorem lockstep_own {content content' : Content} {owner owner' : CellId → Resource → Owner}
    {f g : CellId → Resource → α}
    (founds : Founds D.engine H.1 kind lenders content owner)
    (founds' : Founds D.engine H.2 kind lenders' content' owner')
    (owners_f : ∀ c r, owners (f c r) = [owner c r])
    (owners_g : ∀ c r, owners (g c r) = [owner' c r])
    (same : ∀ c r c' r', D.shift.rename r = r' → D.Match (f c r) (g c' r')) :
    D.Lockstep (D.Numbered base H kind lenders lenders' label label' table)
      (do
        let r ← Act.acquire kind label
        let c ← Act.newCell (some r) content
        return f c r)
      (do
        let r ← Act.acquire kind label'
        let c ← Act.newCell (some r) content'
        return g c r)
      (fun a b w w' => D.Match a b ∧ D.Holds base (H.add a b) w w') (D.Holds base F) := by
  refine lockstep_acquire.bind fun r r' => (lockstep_newCell founds founds').bind fun c c' => ?_
  rintro w w' ⟨renamed, holds⟩
  refine .inl ⟨_, _, w, w', rfl, rfl, same c r c' r' renamed, ?_⟩
  rw [Grip.add, owners_f, owners_g]
  exact holds

/-- A null handle is no resource in either run. -/
theorem lockstep_null : D.Lockstep (D.Asked base H kind lenders lenders')
    (Pure.pure none : Act (Option α)) (Pure.pure none)
    (fun a b w w' => D.Match a b ∧ D.Holds base (H.add a b) w w') (D.Holds base F) := by
  intro w w' asked
  refine .inl ⟨none, none, w, w', rfl, rfl, .none, ?_⟩
  rw [Grip.add_eq H rfl rfl]
  exact asked.holds

/-- Most resources have numbers that the engine gives, which are the same in both runs. -/
theorem lockstep_own_asked {content content' : Content} {owner owner' : CellId → Resource → Owner}
    (founds : Founds D.engine H.1 kind lenders content owner)
    (founds' : Founds D.engine H.2 kind lenders' content' owner') (other : kind ≠ .unit)
    (unshifted : D.shift.label kind = 0) (make make' : CellId → Resource → α)
    (owners_make : ∀ c r, owners (make c r) = [owner c r])
    (owners_make' : ∀ c r, owners (make' c r) = [owner' c r])
    (same : ∀ c r c' r', D.shift.rename r = r' → D.Match (make c r) (make' c' r')) :
    D.Lockstep (D.Asked base H kind lenders lenders')
      (do
        let r ← Act.acquire kind label
        let c ← Act.newCell (some r) content
        return make c r)
      (do
        let r ← Act.acquire kind label
        let c ← Act.newCell (some r) content'
        return make' c r)
      (fun a b w w' => D.Match a b ∧ D.Holds base (H.add a b) w w') (D.Holds base F) := by
  intro w w' asked
  have numbered := asked.numbered label other
  rw [unshifted] at numbered
  exact lockstep_own founds founds' owners_make owners_make' same w w' numbered

end Entities

end Duo

end SourceAtlas
