import Mathlib.Algebra.BigOperators.Intervals
import Mathlib.Algebra.Order.BigOperators.Group.Finset
import SourceAtlas.Store.World

/-!
# Cells

How the cells of the store change when one of them is written or a new one is made. Quantities that
are summed over the cells of a thread, those from a first one on, change by what the one cell
contributes.
-/

namespace SourceAtlas

namespace World

variable {w v : World} {c d : CellId} {entry : Entry}

/-! ## Reading -/

theorem find?_congr (same : v.cells = w.cells) (c : CellId) : v.find? c = w.find? c := by
  simp only [find?, same]

theorem lt_size_of_find? (found : w.find? c = some entry) : c < w.cells.size :=
  (find?_eq_some found).1

theorem find?_eq_none_of_le (beyond : w.cells.size ≤ c) : w.find? c = none := by
  rw [find?, Array.getElem?_eq_none beyond]
  rfl

theorem count_eq_zero_of_find? (absent : w.find? c = none) : w.count c = 0 := by
  rw [count, absent]
  rfl

theorem count_eq_of_find? (found : w.find? c = some entry) : w.count c = entry.count := by
  rw [count, found]
  rfl

/-- A cell with references to it has not been freed. -/
theorem exists_find?_of_count_pos (positive : 0 < w.count c) :
    ∃ entry, w.find? c = some entry := by
  cases found : w.find? c with
  | some entry => exact ⟨entry, rfl⟩
  | none =>
      rw [count_eq_zero_of_find? found] at positive
      exact absurd positive (Nat.lt_irrefl 0)

/-! ## Writing -/

@[simp] theorem size_cells_put (w : World) (c : CellId) (new : Option Entry) :
    (w.put c new).cells.size = w.cells.size :=
  Array.size_setIfInBounds

theorem find?_put (found : w.find? c = some entry) (new : Option Entry) (d : CellId) :
    (w.put c new).find? d = if d = c then new else w.find? d := by
  have bound := lt_size_of_find? found
  by_cases same : d = c
  · subst same
    simp [find?, put, bound]
  · rw [if_neg same]
    simp [find?, put, Ne.symm same]

theorem find?_put_self (found : w.find? c = some entry) (new : Option Entry) :
    (w.put c new).find? c = new := by
  rw [find?_put found, if_pos rfl]

theorem find?_put_ne (found : w.find? c = some entry) (new : Option Entry) (different : d ≠ c) :
    (w.put c new).find? d = w.find? d := by
  rw [find?_put found, if_neg different]

@[simp] theorem size_cells_alloc (w : World) (resource : Option Resource) (content : Content) :
    (w.alloc resource content).1.cells.size = w.cells.size + 1 :=
  Array.size_push ..

theorem find?_alloc (w : World) (resource : Option Resource) (content : Content) (d : CellId) :
    (w.alloc resource content).1.find? d =
      if d = w.cells.size then some ⟨1, resource, content⟩ else w.find? d := by
  by_cases same : d = w.cells.size
  · subst same
    simp [find?, alloc]
  · rw [if_neg same]
    simp [find?, alloc, Array.getElem?_push, same]

/-! ## Sums over the cells of a thread -/

/-- The sum of a quantity over the cells from a first one on that have not been freed. -/
def total (w : World) (first : CellId) (f : Entry → Nat) : Nat :=
  ∑ c ∈ Finset.Ico first w.cells.size, (w.find? c).elim 0 f

variable {first : CellId} {f : Entry → Nat}

theorem total_congr (same : v.cells = w.cells) (first : CellId) (f : Entry → Nat) :
    v.total first f = w.total first f := by
  simp only [total, find?, same]

theorem le_total (found : w.find? c = some entry) (here : first ≤ c) (f : Entry → Nat) :
    f entry ≤ w.total first f := by
  have member : c ∈ Finset.Ico first w.cells.size :=
    Finset.mem_Ico.2 ⟨here, lt_size_of_find? found⟩
  have bound := Finset.single_le_sum (f := fun c => (w.find? c).elim 0 f)
    (fun _ _ => Nat.zero_le _) member
  rw [found] at bound
  exact bound

/-- If the sum is positive, then some cell contributes to it. -/
theorem exists_of_total_pos (positive : 0 < w.total first f) :
    ∃ c entry, first ≤ c ∧ w.find? c = some entry ∧ 0 < f entry := by
  obtain ⟨c, member, pos⟩ := Finset.exists_ne_zero_of_sum_ne_zero (Nat.ne_of_gt positive)
  cases found : w.find? c with
  | none => simp [found] at pos
  | some entry =>
      rw [found] at pos
      exact ⟨c, entry, (Finset.mem_Ico.1 member).1, found, Nat.pos_of_ne_zero pos⟩

theorem total_put (found : w.find? c = some entry) (here : first ≤ c) (new : Option Entry) :
    (w.put c new).total first f + f entry = w.total first f + new.elim 0 f := by
  have member : c ∈ Finset.Ico first w.cells.size :=
    Finset.mem_Ico.2 ⟨here, lt_size_of_find? found⟩
  have rest : ∑ d ∈ (Finset.Ico first w.cells.size).erase c, ((w.put c new).find? d).elim 0 f =
      ∑ d ∈ (Finset.Ico first w.cells.size).erase c, (w.find? d).elim 0 f := by
    refine Finset.sum_congr rfl fun d other => ?_
    rw [find?_put_ne found new (Finset.ne_of_mem_erase other)]
  simp only [total, size_cells_put]
  rw [← Finset.add_sum_erase _ _ member, ← Finset.add_sum_erase _ _ member, rest,
    find?_put_self found, found]
  simp only [Option.elim_some]
  omega

theorem total_alloc (here : first ≤ w.cells.size) (resource : Option Resource)
    (content : Content) (f : Entry → Nat) :
    (w.alloc resource content).1.total first f = w.total first f + f ⟨1, resource, content⟩ := by
  have rest : ∑ d ∈ Finset.Ico first w.cells.size,
      ((w.alloc resource content).1.find? d).elim 0 f =
      ∑ d ∈ Finset.Ico first w.cells.size, (w.find? d).elim 0 f := by
    refine Finset.sum_congr rfl fun d member => ?_
    rw [find?_alloc, if_neg (Nat.ne_of_lt (Finset.mem_Ico.1 member).2)]
  rw [total, size_cells_alloc, Finset.sum_Ico_succ_top here, rest, find?_alloc, if_pos rfl]
  rfl

end World

end SourceAtlas
