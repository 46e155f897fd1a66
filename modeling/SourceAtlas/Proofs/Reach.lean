import Mathlib.Data.Set.Card
import SourceAtlas.Proofs.Turns

/-!
# Nothing is kept in vain

Every cell that has not been freed is within reach of what is held, as long as whoever holds a
cursor holds its unit as well. So the live counts count the resources that are within reach, and a
unit has more than one reference just when something else is within reach that refers to it.
-/

namespace SourceAtlas

/-- Counts that agree for each kind are the same. -/
theorem LiveCounts.ext_get {a b : LiveCounts} (same : ∀ kind, a.get kind = b.get kind) : a = b := by
  obtain ⟨_, _, _, _, _, _, _⟩ := a
  obtain ⟨_, _, _, _, _, _, _⟩ := b
  exact LiveCounts.mk.injEq .. ▸ ⟨same .index, same .unit, same .diagnostic, same .tokens,
    same .completion, same .database, same .commands⟩

/-- Whether cursors are held only together with their units. -/
def Accompanied (held : Held) : Prop :=
  ∀ k, .cursor k ∈ held → .unit k.unit ∈ held

theorem accompanied_owners [Holder α] [Likeness α] [Entity α] (a : α) :
    Accompanied (owners a : List Owner) :=
  fun _ member => Multiset.mem_coe.2 (Entity.accompanied (Multiset.mem_coe.1 member))

/-- Whoever holds something holds a resource. -/
theorem Accompanied.exists_lends {held : Held} (accompanied : Accompanied held)
    (nonempty : held ≠ 0) : ∃ r, Lends held r := by
  obtain ⟨o, member⟩ := Multiset.exists_mem_of_ne_zero nonempty
  cases o with
  | cursor k => exact ⟨k.unit.resource, _, .held (accompanied k member), rfl⟩
  | _ => exact ⟨_, _, .held member, rfl⟩

theorem not_cursor_of_mem_lenders {o : Owner} {k : Cursor} (lends : .cursor k ∈ o.lenders) :
    False := by
  cases o <;> simp [Owner.lenders] at lends

/-- What has lenders owns a resource. -/
theorem isSome_of_mem_lenders {o p : Owner} (lends : p ∈ o.lenders) : o.resource.isSome := by
  cases o <;> first | rfl | exact absurd lends List.not_mem_nil

/-- A cell that has not been freed is held, or referred to by another one. -/
theorem Heap.held_or_referred {engine : Engine} {first : CellId} {τ : Typing}
    {cells : Multiset CellId} {w : World} {c : CellId} {entry : Entry}
    (heap : Heap engine first τ cells w) (here : first ≤ c) (found : w.find? c = some entry) :
    c ∈ cells ∨ ∃ d entry' p, first ≤ d ∧ w.find? d = some entry' ∧ τ d = some p ∧
      c ∈ refs entry'.content := by
  by_cases held : c ∈ cells
  · exact .inl held
  have counted := heap.counted here
  rw [World.count_eq_of_find? found, Multiset.count_eq_zero.2 held] at counted
  have positive := (heap.described here found).1
  have referred : 0 < w.inner first c := by omega
  obtain ⟨d, entry', there, found', contributes⟩ := World.exists_of_total_pos referred
  obtain ⟨-, p, owns, -⟩ := heap.described there found'
  exact .inr ⟨d, entry', p, there, found', owns, List.count_pos_iff.1 contributes⟩

namespace Inv

variable {engine : Engine} {side : Side} {facts : Facts} {τ : Typing} {held : Held} {w : World}

theorem owner_of_mem_cells (inv : Inv engine side facts τ held w) {o : Owner}
    (owns : τ.Owns o) (member : o.cell ∈ held.map Owner.cell) : o ∈ held := by
  obtain ⟨p, there, same⟩ := Multiset.mem_map.1 member
  have owned : τ p.cell = some p := inv.owns p there
  rw [same] at owned
  rwa [Option.some.inj (owned.symm.trans owns)] at there

/-- A memo is kept by a cursor of its unit that is held, directly or through other memos. -/
theorem cursor_of_alive (inv : Inv engine side facts τ held w) {k : Cursor} {entry : Entry}
    (owns : τ.Owns (.cursor k)) (found : w.find? k.memo = some entry) :
    ∃ k', .cursor k' ∈ held ∧ k'.unit = k.unit := by
  -- memos are referred to by older memos only
  induction memo : k.memo using Nat.strong_induction_on generalizing k entry with
  | _ n ih =>
      have here := (inv.heap.within owns).1
      rcases inv.heap.held_or_referred here found with member | ⟨d, entry', p, there, found', ownsP, ref⟩
      · exact ⟨k, inv.owner_of_mem_cells owns member, rfl⟩
      obtain ⟨o, ownsO, holds⟩ := inv.heap.mayHold there found' ownsP ref
      obtain rfl : o = .cursor k := Option.some.inj (ownsO.symm.trans owns)
      cases p with
      | cursor k' =>
          rcases holds with same | ⟨c, same, unit, newer⟩
          · exact nomatch same
          cases same
          obtain rfl : k'.memo = d := inv.heap.sound.cell ownsP
          obtain ⟨k'', member, same⟩ := ih k'.memo (memo ▸ newer) ownsP found' rfl
          exact ⟨k'', member, same.trans unit.symm⟩
      | _ => exact (not_cursor_of_mem_lenders holds).elim

/-- Every resource that a cell owns is within reach. -/
theorem within_of_alive (inv : Inv engine side facts τ held w) (accompanied : Accompanied held)
    {o : Owner} {entry : Entry} (owns : τ.Owns o) (owner : o.resource.isSome)
    (found : w.find? o.cell = some entry) : Within held o := by
  -- resources are referred to by newer resources and by memos only
  induction older : w.cells.size - o.cell using Nat.strong_induction_on generalizing o entry with
  | _ n ih =>
      have here := (inv.heap.within owns).1
      rcases inv.heap.held_or_referred here found with member | ⟨d, entry', p, there, found', ownsP, ref⟩
      · exact .held (inv.owner_of_mem_cells owns member)
      obtain ⟨o', ownsO, holds⟩ := inv.heap.mayHold there found' ownsP ref
      obtain rfl : o' = o := Option.some.inj (ownsO.symm.trans owns)
      have cell : p.cell = d := inv.heap.sound.cell ownsP
      by_cases memo : ∃ k, p = .cursor k
      · obtain ⟨k, rfl⟩ := memo
        rcases holds with rfl | ⟨c, rfl, -⟩
        · obtain rfl := cell
          obtain ⟨k', member, same⟩ := inv.cursor_of_alive ownsP found'
          exact .held (same ▸ accompanied k' member)
        · exact absurd owner Bool.false_ne_true
      · have lends : o' ∈ p.lenders := by
          cases p <;> first | exact holds | exact absurd ⟨_, rfl⟩ memo
        have newer := (inv.heap.sound.lender ownsP lends).2
        have less := Nat.sub_lt_sub_left (inv.heap.within owns).2 newer
        subst cell
        exact .lender (ih _ (older ▸ less) ownsP (isSome_of_mem_lenders lends) found' rfl) lends

/-- The resources within reach are those that the cells of the thread own. -/
theorem lends_iff (inv : Inv engine side facts τ held w) (accompanied : Accompanied held)
    (r : Resource) :
    Lends held r ↔ ∃ c, side.first ≤ c ∧ w.resourceAt c = some r := by
  constructor
  · rintro ⟨o, within, owned⟩
    obtain ⟨owns, entry, found, describes⟩ := inv.alive within
    exact ⟨o.cell, (inv.heap.within owns).1,
      (World.resourceAt_eq found).trans (describes.1.trans owned)⟩
  · rintro ⟨c, here, owned⟩
    obtain ⟨entry, o, found, owns, mine⟩ := Books.owner_of_resourceAt inv.heap here owned
    obtain rfl : o.cell = c := inv.heap.sound.cell owns
    exact ⟨o, inv.within_of_alive accompanied owns (by rw [mine]; rfl) found, mine⟩

/-- The live counts count what is within reach. -/
theorem live_eq (inv : Inv engine side facts τ held w) (accompanied : Accompanied held)
    (kind : ResourceKind) :
    w.live.get kind = {r | Lends held r ∧ r.kind = kind}.ncard := by
  -- the cells of the thread that own a resource of the kind, each with its own resource
  let cells := (Finset.Ico side.first w.cells.size).filter fun c =>
    (w.resourceAt c).map (·.kind) = some kind
  have tallied : w.live.get kind = cells.card := by
    rw [inv.books.live, World.tally, World.total, Finset.card_filter]
    refine Finset.sum_congr rfl fun c _ => ?_
    rw [World.resourceAt]
    cases w.find? c <;> rfl
  have member {c : CellId} : c ∈ cells ↔
      side.first ≤ c ∧ ∃ r, w.resourceAt c = some r ∧ r.kind = kind := by
    rw [Finset.mem_filter, Finset.mem_Ico, Option.map_eq_some_iff]
    refine ⟨fun there => ⟨there.1.1, there.2⟩, ?_⟩
    rintro ⟨here, r, owned, sort⟩
    obtain ⟨entry, found, -⟩ := Option.bind_eq_some_iff.1 owned
    exact ⟨⟨here, World.lt_size_of_find? found⟩, r, owned, sort⟩
  rw [tallied, ← Set.ncard_coe_finset]
  symm
  refine Set.ncard_congr (fun r there => ((inv.lends_iff accompanied r).1 there.1).choose) ?_ ?_ ?_
  · intro r there
    have cell := ((inv.lends_iff accompanied r).1 there.1).choose_spec
    exact member.2 ⟨cell.1, r, cell.2, there.2⟩
  · intro r s there there' same
    have cell := ((inv.lends_iff accompanied r).1 there.1).choose_spec
    have cell' := ((inv.lends_iff accompanied s).1 there'.1).choose_spec
    rw [← same] at cell'
    exact Option.some.inj (cell.2.symm.trans cell'.2)
  · intro c there
    obtain ⟨here, r, owned, sort⟩ := member.1 there
    have lends := (inv.lends_iff accompanied r).2 ⟨c, here, owned⟩
    have cell := ((inv.lends_iff accompanied r).1 lends).choose_spec
    exact ⟨r, ⟨lends, sort⟩, inv.books.unique_cell inv.heap cell.1 cell.2 here owned⟩

/-- What a unit itself does not bring within reach is within reach of the rest. -/
theorem within_of_cons {u : SourceUnit} {rest : Held} {o p : Owner}
    (within : Within (.unit u ::ₘ rest) o) (lends : p ∈ o.lenders) (other : ∀ i, p ≠ .index i) :
    Within rest o := by
  induction within generalizing p with
  | held member =>
      rcases Multiset.mem_cons.1 member with rfl | member
      · exact absurd (List.mem_singleton.1 lends) (other _)
      · exact .held member
  | @lender o q _ lends' ih =>
      refine .lender (ih lends' ?_) lends'
      rintro i rfl
      exact absurd lends List.not_mem_nil

/-- A unit that other cells refer to is within reach of what else is held. -/
theorem within_of_inner {u : SourceUnit} {rest : Held}
    (inv : Inv engine side facts τ (.unit u ::ₘ rest) w) (accompanied : Accompanied rest)
    (inside : 0 < w.inner side.first u.cell) : Within rest (.unit u) := by
  have owns : τ.Owns (.unit u) := inv.owns _ (Multiset.mem_cons_self _ _)
  have all : Accompanied (.unit u ::ₘ rest) := by
    intro k member
    rcases Multiset.mem_cons.1 member with same | member
    · cases same
    · exact Multiset.mem_cons_of_mem (accompanied k member)
  obtain ⟨d, entry, there, found, contributes⟩ := World.exists_of_total_pos inside
  obtain ⟨-, p, ownsP, -⟩ := inv.heap.described there found
  obtain ⟨o, ownsO, holds⟩ := inv.heap.mayHold there found ownsP (List.count_pos_iff.1 contributes)
  obtain rfl : o = .unit u := Option.some.inj (ownsO.symm.trans owns)
  obtain rfl : p.cell = d := inv.heap.sound.cell ownsP
  by_cases memo : ∃ k, p = .cursor k
  · -- whoever holds a cursor holds its unit as well
    obtain ⟨k, rfl⟩ := memo
    rcases holds with same | ⟨c, same, -⟩
    · cases same
      obtain ⟨k', member, same⟩ := inv.cursor_of_alive ownsP found
      rcases Multiset.mem_cons.1 member with same | member
      · cases same
      · exact .held (same ▸ accompanied k' member)
    · cases same
  · have lends : .unit u ∈ p.lenders := by
      cases p <;> first | exact holds | exact absurd ⟨_, rfl⟩ memo
    have within := inv.within_of_alive all ownsP (isSome_of_mem_lenders lends) found
    refine .lender (within_of_cons within lends ?_) lends
    rintro i ⟨⟩

/-- The cell of what lends to an owner within reach is referred to by the cell of that owner. -/
theorem inner_pos (inv : Inv engine side facts τ held w) {o p : Owner} (within : Within held p)
    (lends : o ∈ p.lenders) : 0 < w.inner side.first o.cell := by
  obtain ⟨owns, entry, found, describes⟩ := inv.alive within
  have bound := World.le_total found (inv.heap.within owns).1 fun entry =>
    (refs entry.content).count o.cell
  rw [describes.refs_eq (isSome_of_mem_lenders lends)] at bound
  exact (List.count_pos_iff.2 (List.mem_map_of_mem lends)).trans_le bound

/-- A unit that is held has another reference just when it is within reach of something else. -/
theorem shared_iff {u : SourceUnit} {rest : Held}
    (inv : Inv engine side facts τ (.unit u ::ₘ rest) w) (accompanied : Accompanied rest) :
    1 < w.count u.cell ↔ Lends rest u.resource := by
  have owns : τ.Owns (.unit u) := inv.owns _ (Multiset.mem_cons_self _ _)
  have le : rest ≤ .unit u ::ₘ rest := Multiset.le_cons_self _ _
  have counted := inv.heap.counted (inv.heap.within owns).1
  rw [Multiset.map_cons, Multiset.count_cons_self] at counted
  constructor
  · intro shared
    have more : 0 < (rest.map Owner.cell).count (Owner.unit u).cell ∨
        0 < w.inner side.first u.cell := by
      rw [show (Owner.unit u).cell = u.cell from rfl] at counted ⊢
      omega
    refine ⟨.unit u, ?_, rfl⟩
    rcases more with more | more
    · obtain ⟨p, there, same⟩ := Multiset.mem_map.1 (Multiset.count_pos.1 more)
      have owned : τ p.cell = some p := inv.owns p (Multiset.mem_of_le le there)
      rw [same] at owned
      exact .held (Option.some.inj (owned.symm.trans owns) ▸ there)
    · exact inv.within_of_inner accompanied more
  · rintro ⟨o, within, owned⟩
    obtain ⟨ownsO, -⟩ := inv.alive (within.mono le)
    obtain rfl : o = .unit u := by
      have same := inv.books.unique ownsO owns owned rfl
      exact Option.some.inj ((congrArg τ same ▸ ownsO : τ u.cell = some o).symm.trans owns)
    suffices more : 0 < (rest.map Owner.cell).count (Owner.unit u).cell +
        w.inner side.first u.cell by
      rw [show (Owner.unit u).cell = u.cell from rfl] at counted more
      omega
    cases within with
    | held member =>
        have := Multiset.count_pos.2 (Multiset.mem_map_of_mem Owner.cell member)
        exact Nat.add_pos_left this _
    | lender within lends => exact Nat.add_pos_right _ (inv.inner_pos (within.mono le) lends)

end Inv

namespace Duo

variable {D : Duo} {base : Facts} {H : Grip} {w w' : World}

/-- As many resources are out in both runs if what they hold corresponds. -/
theorem Holds.live_eq (holds : D.Holds base H w w') (left : Accompanied H.1)
    (right : Accompanied H.2)
    (lends : ∀ r', Lends H.2 r' ↔ ∃ r, Lends H.1 r ∧ D.shift.rename r = r') :
    w.live = w'.live := by
  obtain ⟨facts, facts', -, -, ⟨τ, inv⟩, τ', inv'⟩ := holds
  have same (kind : ResourceKind) : w.live.get kind = w'.live.get kind := by
    rw [inv.live_eq left, inv'.live_eq right,
      ← Set.ncard_image_of_injective _ D.shift.rename_injective]
    congr 1
    ext r'
    simp only [Set.mem_image, Set.mem_ofPred_eq, lends]
    constructor
    · rintro ⟨r, ⟨there, sort⟩, rfl⟩
      exact ⟨⟨r, there, rfl⟩, (D.shift.kind_rename r).trans sort⟩
    · rintro ⟨⟨r, there, rfl⟩, sort⟩
      exact ⟨r, ⟨there, (D.shift.kind_rename r).symm.trans sort⟩, rfl⟩
  exact LiveCounts.ext_get same

end Duo

end SourceAtlas
