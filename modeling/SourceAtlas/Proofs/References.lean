import Mathlib.Logic.Relation
import SourceAtlas.Proofs.Sessions

/-!
# References

A cell refers to other cells by what it holds. Along these references the kinds of owners only go
one way: from memos to newer memos, from those to units, and from the resources to older ones. So no
chain of references comes back to where it began, and what has not been freed is at the end of a
chain that begins in a slot.
-/

namespace SourceAtlas

open Relation

/-- Whether a cell that has not been freed refers to another one. -/
def World.PointsTo (w : World) (c d : CellId) : Prop :=
  ∃ entry, w.find? c = some entry ∧ d ∈ refs entry.content

/-- Whether some references keep a resource, directly or through what other cells refer to. -/
def World.Keeps (w : World) (roots : CellRefs) (r : Resource) : Prop :=
  ∃ c ∈ roots, ∃ d, ReflTransGen w.PointsTo c d ∧ w.resourceAt d = some r

/-- Whether an object in some slot keeps a resource. -/
def State.Keeps (state : State) (r : Resource) : Prop :=
  state.world.Keeps (refs state.slots) r

/-! ## One thread -/

/-- How far a cell is from the beginning of all chains. -/
def Typing.rank (τ : Typing) (size : Nat) (c : CellId) : Nat :=
  match τ c with
  | some (.cursor _) => c
  | _ => size + (size - c)

namespace Inv

variable {engine : Engine} {side : Side} {facts : Facts} {τ : Typing} {held : Held} {w : World}
variable {c d : CellId}

/-- References lead to cells of the same thread that have not been freed either. -/
theorem pointsTo (inv : Inv engine side facts τ held w) (here : side.first ≤ c)
    (points : w.PointsTo c d) : side.first ≤ d ∧ ∃ entry, w.find? d = some entry := by
  obtain ⟨entry, found, member⟩ := points
  obtain ⟨-, o, owns, -⟩ := inv.heap.described here found
  obtain ⟨p, ownsP, -⟩ := inv.heap.mayHold here found owns member
  exact ⟨(inv.heap.within ownsP).1, inv.heap.alive_of_refs here found member⟩

theorem first_le_of_chain (inv : Inv engine side facts τ held w) (here : side.first ≤ c)
    (chain : ReflTransGen w.PointsTo c d) : side.first ≤ d := by
  induction chain with
  | refl => exact here
  | tail _ points ih => exact (inv.pointsTo ih points).1

/-- Every reference leads further away from the beginning. -/
theorem rank_lt (inv : Inv engine side facts τ held w) (here : side.first ≤ c)
    (points : w.PointsTo c d) : τ.rank w.cells.size c < τ.rank w.cells.size d := by
  obtain ⟨entry, found, member⟩ := points
  obtain ⟨-, o, owns, -⟩ := inv.heap.described here found
  obtain ⟨p, ownsP, holds⟩ := inv.heap.mayHold here found owns member
  have bound : c < w.cells.size := (inv.heap.within owns).2
  have bound' : d < w.cells.size := (inv.heap.within ownsP).2
  unfold Typing.rank
  rw [owns, ownsP]
  cases o with
  | cursor k =>
      rcases holds with rfl | ⟨k', rfl, -, newer⟩
      · exact Nat.lt_of_lt_of_le bound (Nat.le_add_right _ _)
      · have cell : k.memo = c := inv.heap.sound.cell owns
        have cell' : k'.memo = d := inv.heap.sound.cell ownsP
        exact cell ▸ cell' ▸ newer
  | _ =>
      have cell : p.cell = d := inv.heap.sound.cell ownsP
      have older := (inv.heap.sound.lender owns holds).2
      rw [cell] at older
      cases p with
      | cursor k => exact (not_cursor_of_mem_lenders holds).elim
      | _ => exact Nat.add_lt_add_left (Nat.sub_lt_sub_left bound' older) _

/-- What has not been freed is referred to by what is held, through other cells or directly. -/
theorem exists_chain (inv : Inv engine side facts τ held w) (here : side.first ≤ c)
    {entry : Entry} (found : w.find? c = some entry) :
    ∃ o ∈ held, ReflTransGen w.PointsTo o.cell c := by
  induction further : τ.rank w.cells.size c using Nat.strong_induction_on generalizing c entry with
  | _ n ih =>
      rcases inv.heap.held_or_referred here found with held | ⟨d, entry', p, there, found', -, ref⟩
      · obtain ⟨o, member, rfl⟩ := Multiset.mem_map.1 held
        exact ⟨o, member, .refl⟩
      · have points : w.PointsTo d c := ⟨entry', found', ref⟩
        obtain ⟨o, member, chain⟩ := ih _ (further ▸ inv.rank_lt there points) there found' rfl
        exact ⟨o, member, chain.tail points⟩

/-- What is held keeps the resources that the cells of the thread own. -/
theorem keeps_iff (inv : Inv engine side facts τ held w) {roots : CellRefs}
    (same : (roots : Multiset CellId) = held.map Owner.cell) (r : Resource) :
    w.Keeps roots r ↔ ∃ c, side.first ≤ c ∧ w.resourceAt c = some r := by
  constructor
  · rintro ⟨c, root, d, chain, owned⟩
    have member : c ∈ held.map Owner.cell := same ▸ Multiset.mem_coe.2 root
    obtain ⟨o, owns⟩ := inv.heap.typed member
    exact ⟨d, inv.first_le_of_chain (inv.heap.within owns).1 chain, owned⟩
  · rintro ⟨d, here, owned⟩
    obtain ⟨entry, found, -⟩ := Option.bind_eq_some_iff.1 owned
    obtain ⟨o, member, chain⟩ := inv.exists_chain here found
    refine ⟨o.cell, ?_, d, chain, owned⟩
    exact Multiset.mem_coe.1 (same ▸ Multiset.mem_map_of_mem _ member)

end Inv

/-! ## All threads -/

/-- Whether references only lead from the beginning of chains to their end, within the store. -/
def World.Ordered (w : World) : Prop :=
  (∃ rank : CellId → Nat, ∀ c d, w.PointsTo c d → rank c < rank d) ∧
    ∀ c d, w.PointsTo c d → d < w.cells.size

/-- There are no references in an empty store. -/
theorem World.Ordered.empty : ({} : World).Ordered := by
  have none (c d : CellId) : ¬ ({} : World).PointsTo c d := by
    rintro ⟨entry, found, -⟩
    exact absurd (World.lt_size_of_find? found) (Nat.not_lt_zero c)
  exact ⟨⟨id, fun c d points => absurd points (none c d)⟩, fun c d points =>
    absurd points (none c d)⟩

theorem World.Ordered.acyclic {w : World} (ordered : w.Ordered) (c : CellId) :
    ¬ TransGen w.PointsTo c c := by
  obtain ⟨⟨rank, further⟩, -⟩ := ordered
  intro cycle
  have along {c d : CellId} (chain : TransGen w.PointsTo c d) : rank c < rank d := by
    induction chain with
    | single points => exact further _ _ points
    | tail _ points ih => exact ih.trans (further _ _ points)
  exact Nat.lt_irrefl _ (along cycle)

/-- A thread finds the references in order and keeps them so. -/
theorem Inv.ordered {engine : Engine} {side : Side} {facts : Facts} {τ : Typing} {held : Held}
    {w : World} (inv : Inv engine side facts τ held w) (ordered : side.start.Ordered) :
    w.Ordered := by
  obtain ⟨⟨rank, further⟩, within⟩ := ordered
  have older {c d : CellId} (before : c < side.first) (points : w.PointsTo c d) :
      side.start.PointsTo c d := by
    obtain ⟨entry, found, member⟩ := points
    exact ⟨entry, (inv.books.older before).symm.trans found, member⟩
  refine ⟨⟨fun c => if c < side.first then rank c else τ.rank w.cells.size c, ?_⟩, ?_⟩
  · intro c d points
    by_cases before : c < side.first
    · have earlier := older before points
      have before' : d < side.first := within c d earlier
      simp only [if_pos before, if_pos before']
      exact further c d earlier
    · have here := Nat.le_of_not_lt before
      simp only [if_neg before, if_neg (Nat.not_lt.2 (inv.pointsTo here points).1)]
      exact inv.rank_lt here points
  · intro c d points
    by_cases before : c < side.first
    · exact Nat.lt_of_lt_of_le (within c d (older before points)) inv.heap.first_le
    · obtain ⟨-, entry, found⟩ := inv.pointsTo (Nat.le_of_not_lt before) points
      exact World.lt_size_of_find? found

namespace Session.Reached

variable {setting : Setting} {begin state : State}

theorem ordered_begin (reached : Reached setting begin state) : begin.world.Ordered := by
  refine reached.begins .empty fun reached before => ?_
  obtain ⟨_, _, inv⟩ := reached.inv
  exact inv.ordered before

theorem ordered (reached : Reached setting begin state) : state.world.Ordered := by
  obtain ⟨_, _, inv⟩ := reached.inv
  exact inv.ordered reached.ordered_begin

end Session.Reached

end SourceAtlas
