import Mathlib.Data.Finset.Card
import Mathlib.Data.Finset.Range
import Mathlib.Algebra.Order.BigOperators.Group.List
import Mathlib.Logic.Relation
import SourceAtlas.Proofs.Visits

/-!
# Preorder

The tree below a cursor, as far as the engine tells: its children are what is reported for it. If the
tree is well-founded, its preorder is the list of its nodes, each followed by what is below it. These
are the places to which a path leads, in the order of the paths. There are no more of them than a
walk allows for.
-/

namespace SourceAtlas

namespace Engine

variable (engine : Engine)

/-- Whether a cursor is reported as a child of another one. -/
def IsChild (child parent : Ref) : Prop :=
  ∃ visit ∈ engine.childReports parent, visit.cursor = child

/-- Whether the tree below a cursor is well-founded, and no null cursor is reported in it. -/
structure Grounded (c : Ref) : Prop where
  founded : Acc engine.IsChild c
  sound : ∀ d, Relation.ReflTransGen (Function.swap engine.IsChild) c d →
    Visit.Sound (engine.childReports d)

/-- The nodes of the trees of some visits: each of the visits, followed by the nodes below it. -/
inductive Preorder : List Visit → List Visit → Prop
  | nil : Preorder [] []
  | cons {visit : Visit} {rest below beside : List Visit} :
      Preorder (engine.childReports visit.cursor) below → Preorder rest beside →
      Preorder (visit :: rest) (visit :: (below ++ beside))

/-- Whether a path leads to a node: it says which of some visits to take, which of the visits to its
children, and so on. -/
inductive Occurs : List Visit → List Nat → Visit → Prop
  | here {visits : List Visit} {i : Nat} {node : Visit} : visits[i]? = some node →
      Occurs visits [i] node
  | further {visits : List Visit} {i : Nat} {path : List Nat} {visit node : Visit} :
      visits[i]? = some visit → Occurs (engine.childReports visit.cursor) path node →
      Occurs visits (i :: path) node

variable {engine}

/-- A child is visited under its parent, unless the engine leaves the parent out. -/
theorem parent_of_mem_childReports {c : Ref} {visit : Visit}
    (reported : visit ∈ engine.childReports c) :
    visit.parent = if (engine.cursor c).orphanChildren then none else c := by
  simp only [childReports, childVisits, List.map_map, List.mem_map, Function.comp_apply] at reported
  obtain ⟨child, -, rfl⟩ := reported
  rfl

/-! ## Trees that end -/

namespace Grounded

variable {c : Ref}

theorem child (grounded : engine.Grounded c) {visit : Visit}
    (reported : visit ∈ engine.childReports c) : engine.Grounded visit.cursor where
  founded := grounded.founded.inv ⟨visit, reported, rfl⟩
  sound d below := grounded.sound d (.head ⟨visit, reported, rfl⟩ below)

/-- A tree ends if the trees of its children do. -/
theorem intro (each : ∀ visit ∈ engine.childReports c,
    visit.cursor ≠ none ∧ engine.Grounded visit.cursor) : engine.Grounded c where
  founded := by
    refine ⟨c, fun child below => ?_⟩
    obtain ⟨visit, reported, rfl⟩ := below
    exact (each visit reported).2.founded
  sound d below := by
    rcases below.cases_head with rfl | ⟨child, ⟨visit, reported, rfl⟩, below⟩
    · exact fun visit reported => (each visit reported).1
    · exact (each visit reported).2.sound d below

theorem reports_sound (grounded : engine.Grounded c) : Visit.Sound (engine.childReports c) :=
  grounded.sound c .refl

/-- What holds of a cursor if it holds of its children holds of a tree that ends. -/
theorem induct {P : Ref → Prop} (step : ∀ c, engine.Grounded c →
    (∀ visit ∈ engine.childReports c, P visit.cursor) → P c) (grounded : engine.Grounded c) :
    P c := by
  obtain ⟨founded, sound⟩ := grounded
  induction founded with
  | intro c founded ih =>
      have grounded : engine.Grounded c := ⟨⟨c, founded⟩, sound⟩
      exact step c grounded fun visit reported =>
        ih visit.cursor ⟨visit, reported, rfl⟩ (grounded.child reported).sound

end Grounded

namespace Preorder

variable {visits others nodes more : List Visit}

theorem append (first : engine.Preorder visits nodes) (second : engine.Preorder others more) :
    engine.Preorder (visits ++ others) (nodes ++ more) := by
  induction first with
  | nil => exact second
  | cons below _ _ ih =>
      rw [List.cons_append, List.cons_append, List.append_assoc]
      exact .cons below ih

theorem unique (first : engine.Preorder visits nodes) (second : engine.Preorder visits more) :
    nodes = more := by
  induction first generalizing more with
  | nil =>
      cases second
      rfl
  | cons _ _ below beside =>
      cases second with
      | cons below' beside' => rw [below below', beside beside']

theorem exists_of_forall (each : ∀ visit ∈ visits,
    ∃ below, engine.Preorder (engine.childReports visit.cursor) below) :
    ∃ nodes, engine.Preorder visits nodes := by
  induction visits with
  | nil => exact ⟨[], .nil⟩
  | cons visit visits ih =>
      obtain ⟨⟨below, first⟩, others⟩ := List.forall_mem_cons.1 each
      obtain ⟨beside, second⟩ := ih others
      exact ⟨_, .cons first second⟩

end Preorder

/-- A tree that ends has a preorder. -/
theorem Grounded.exists_preorder {c : Ref} (grounded : engine.Grounded c) :
    ∃ below, engine.Preorder (engine.childReports c) below :=
  grounded.induct fun _ _ each => Preorder.exists_of_forall each

/-! ## Paths -/

namespace Occurs

variable {visits nodes : List Visit} {visit node : Visit} {path : List Nat} {i : Nat}

theorem ne_nil (occurs : engine.Occurs visits path node) : path ≠ [] := by
  cases occurs <;> exact List.cons_ne_nil _ _

theorem forall_ne_nil {paths : List (List Nat)}
    (occur : List.Forall₂ (engine.Occurs visits) paths nodes) : ∀ path ∈ paths, path ≠ [] := by
  induction occur with
  | nil => exact fun _ absent => absurd absent List.not_mem_nil
  | cons first _ ih => exact List.forall_mem_cons.2 ⟨first.ne_nil, ih⟩

end Occurs

/-- The path to a place behind the first of some visits, given how it goes without that one. -/
def nextTree : List Nat → List Nat
  | [] => []
  | i :: path => (i + 1) :: path

theorem nextTree_lt {path path' : List Nat} (lt : path < path') (some : path ≠ []) :
    nextTree path < nextTree path' := by
  obtain ⟨i, path, rfl⟩ := List.exists_cons_of_ne_nil some
  cases path' with
  | nil => exact absurd lt (List.not_lt_nil _)
  | cons j path' =>
      rw [List.cons_lt_cons_iff] at lt
      exact List.cons_lt_cons_iff.2 (lt.imp Nat.succ_lt_succ fun ⟨same, lt⟩ => ⟨by rw [same], lt⟩)

theorem zero_lt_nextTree {path : List Nat} (some : path ≠ []) (path' : List Nat) :
    0 :: path' < nextTree path := by
  obtain ⟨i, path, rfl⟩ := List.exists_cons_of_ne_nil some
  exact List.cons_lt_cons_iff.2 (.inl i.succ_pos)

theorem Occurs.nextTree {visits : List Visit} {visit node : Visit} {path : List Nat}
    (occurs : engine.Occurs visits path node) :
    engine.Occurs (visit :: visits) (nextTree path) node := by
  cases occurs with
  | here found => exact .here found
  | further found deeper => exact .further found deeper

/-- A path from some visits goes to the first of them, or into its tree, or past it. -/
theorem Occurs.cons_cases {visits : List Visit} {visit node : Visit} {path : List Nat}
    (occurs : engine.Occurs (visit :: visits) path node) :
    path = [0] ∨
      (∃ inner, path = 0 :: inner ∧
        engine.Occurs (engine.childReports visit.cursor) inner node) ∨
      ∃ other, path = Engine.nextTree other ∧ engine.Occurs visits other node := by
  cases occurs with
  | @here _ i _ found =>
      cases i with
      | zero => exact .inl rfl
      | succ i => exact .inr (.inr ⟨[i], rfl, .here found⟩)
  | @further _ i inner _ _ found deeper =>
      cases i with
      | zero =>
          obtain rfl := Option.some.inj found
          exact .inr (.inl ⟨inner, rfl, deeper⟩)
      | succ i => exact .inr (.inr ⟨i :: inner, rfl, .further found deeper⟩)

/-- The preorder lists the places to which paths lead, in the order of the paths, each once. -/
theorem Preorder.occurrences {visits nodes : List Visit} (preorder : engine.Preorder visits nodes) :
    ∃ paths : List (List Nat), paths.Pairwise (· < ·) ∧
      List.Forall₂ (engine.Occurs visits) paths nodes ∧
      ∀ path node, engine.Occurs visits path node → path ∈ paths := by
  induction preorder with
  | nil =>
      refine ⟨[], .nil, .nil, fun path node occurs => ?_⟩
      cases occurs <;> contradiction
  | @cons visit rest below beside _ _ inside outside =>
      obtain ⟨deep, deepSorted, deepOccur, deepAll⟩ := inside
      obtain ⟨wide, wideSorted, wideOccur, wideAll⟩ := outside
      have deepSome := Occurs.forall_ne_nil deepOccur
      have wideSome := Occurs.forall_ne_nil wideOccur
      -- the first node, then the places below it, then those behind its tree
      refine ⟨[0] :: (deep.map (0 :: ·) ++ wide.map nextTree), ?_, ?_, ?_⟩
      · simp only [List.pairwise_cons, List.pairwise_append, List.mem_append, List.pairwise_map,
          List.forall_mem_map, or_imp, forall_and]
        refine ⟨⟨fun inner member => ?_, fun other member => zero_lt_nextTree (wideSome _ member) _⟩,
          ?_, ?_, fun inner _ other member => zero_lt_nextTree (wideSome _ member) _⟩
        · obtain ⟨j, inner, rfl⟩ := List.exists_cons_of_ne_nil (deepSome inner member)
          exact List.cons_lt_cons_iff.2 (.inr ⟨rfl, List.nil_lt_cons ..⟩)
        · exact deepSorted.imp fun lt => List.cons_lt_cons_iff.2 (.inr ⟨rfl, lt⟩)
        · exact wideSorted.imp_of_mem fun member _ lt => nextTree_lt lt (wideSome _ member)
      · refine .cons (.here rfl) (List.rel_append ?_ ?_)
        · exact List.forall₂_map_left_iff.2 (deepOccur.imp fun _ _ => .further rfl)
        · exact List.forall₂_map_left_iff.2 (wideOccur.imp fun _ _ => .nextTree)
      · intro path node occurs
        rcases occurs.cons_cases with rfl | ⟨inner, rfl, deeper⟩ | ⟨other, rfl, aside⟩
        · exact List.mem_cons_self
        · exact List.mem_cons_of_mem _
            (List.mem_append_left _ (List.mem_map_of_mem (deepAll _ _ deeper)))
        · exact List.mem_cons_of_mem _
            (List.mem_append_right _ (List.mem_map_of_mem (wideAll _ _ aside)))

/-! ## Sizes -/

/-- The entries of the table of cursors that are in the tree of a cursor. -/
noncomputable def reach (engine : Engine) (c : Ref) : Finset Nat :=
  open Classical in (Finset.range engine.tables.cursors.size).filter fun i =>
    Relation.ReflTransGen (Function.swap engine.IsChild) c (some i)

theorem mem_reach {c : Ref} {i : Nat} : i ∈ engine.reach c ↔ i < engine.tables.cursors.size ∧
    Relation.ReflTransGen (Function.swap engine.IsChild) c (some i) := by
  simp [reach]

/-- Only the table of cursors has children. -/
theorem exists_of_mem_childReports {c : Ref} {visit : Visit}
    (reported : visit ∈ engine.childReports c) :
    ∃ i, c = some i ∧ i < engine.tables.cursors.size := by
  simp only [childReports, childVisits, List.map_map, List.mem_map] at reported
  obtain ⟨child, listed, -⟩ := reported
  cases c with
  | none => exact absurd listed List.not_mem_nil
  | some i =>
      refine ⟨i, rfl, Nat.lt_of_not_le fun beyond => ?_⟩
      rw [cursor, Array.getElem?_eq_none beyond] at listed
      exact absurd listed List.not_mem_nil

/-- The most children that a cursor can have, as a walk counts them. -/
def childTotal (engine : Engine) : Nat :=
  engine.tables.cursors.foldl (fun sum entry => sum + entry.children.length) 0

theorem length_childReports_le (c : Ref) : (engine.childReports c).length ≤ engine.childTotal := by
  have length : (engine.childReports c).length = (engine.cursor c).children.length := by
    simp [childReports, childVisits]
  rw [length, childTotal, ← Array.foldl_toList]
  cases c with
  | none => exact Nat.zero_le _
  | some i =>
      rw [cursor]
      cases found : engine.tables.cursors[i]? with
      | none => exact Nat.zero_le _
      | some entry =>
          have member : entry ∈ engine.tables.cursors.toList :=
            (Array.mem_of_getElem? found).val
          have total := List.le_sum_of_mem (List.mem_map_of_mem (f := (·.children.length)) member)
          rwa [List.sum_eq_foldl, List.foldl_map] at total

namespace Grounded

variable {c : Ref}

/-- Nothing is below itself in a tree that ends. -/
theorem irrefl (grounded : engine.Grounded c) : ¬ Relation.TransGen engine.IsChild c c := by
  have founded := grounded.founded.transGen
  clear grounded
  induction founded with
  | intro c _ ih => exact fun self => ih c self self

/-- There is less in the tree of a child. -/
theorem card_reach_lt (grounded : engine.Grounded c) {visit : Visit}
    (reported : visit ∈ engine.childReports c) :
    (engine.reach visit.cursor).card < (engine.reach c).card := by
  have child : engine.IsChild visit.cursor c := ⟨visit, reported, rfl⟩
  obtain ⟨i, rfl, bound⟩ := exists_of_mem_childReports reported
  refine Finset.card_lt_card (Finset.ssubset_iff_of_subset ?_ |>.2 ⟨i, ?_, ?_⟩)
  · intro j member
    obtain ⟨inside, below⟩ := mem_reach.1 member
    exact mem_reach.2 ⟨inside, .head child below⟩
  · exact mem_reach.2 ⟨bound, .refl⟩
  · intro member
    have back := (mem_reach.1 member).2
    exact grounded.irrefl (.tail' (Relation.reflTransGen_swap.1 back) child)

end Grounded

/-- Trees of a bounded size make up a preorder of a bounded size. -/
theorem Preorder.length_le {visits nodes : List Visit} (preorder : engine.Preorder visits nodes)
    {size : Nat} (each : ∀ visit ∈ visits, ∀ below,
      engine.Preorder (engine.childReports visit.cursor) below → below.length + 1 ≤ size) :
    nodes.length ≤ visits.length * size := by
  induction visits generalizing nodes with
  | nil =>
      cases preorder
      exact Nat.zero_le _
  | cons visit visits ih =>
      obtain ⟨first, others⟩ := List.forall_mem_cons.1 each
      cases preorder with
      | cons below beside =>
          have here := first _ below
          have there := ih beside others
          simp only [List.length_cons, List.length_append, Nat.succ_mul]
          omega

/-- The size of a tree is bounded by the entries of the table that are in it. -/
theorem Grounded.length_le_reach {c : Ref} (grounded : engine.Grounded c) :
    ∀ below, engine.Preorder (engine.childReports c) below →
      below.length + 1 ≤ (engine.childTotal + 2) ^ ((engine.reach c).card + 1) := by
  refine grounded.induct (P := fun c => ∀ below, engine.Preorder (engine.childReports c) below →
    below.length + 1 ≤ (engine.childTotal + 2) ^ ((engine.reach c).card + 1)) ?_
  intro c grounded each below preorder
  have positive : 0 < (engine.childTotal + 2) ^ (engine.reach c).card := Nat.pow_pos (by omega)
  calc below.length + 1
    _ ≤ (engine.childReports c).length * (engine.childTotal + 2) ^ (engine.reach c).card + 1 := by
      refine Nat.succ_le_succ (preorder.length_le fun visit reported below' preorder' => ?_)
      refine (each visit reported below' preorder').trans (Nat.pow_le_pow_right (by omega) ?_)
      exact grounded.card_reach_lt reported
    _ ≤ engine.childTotal * (engine.childTotal + 2) ^ (engine.reach c).card + 1 :=
      Nat.succ_le_succ (Nat.mul_le_mul_right _ (length_childReports_le c))
    _ ≤ (engine.childTotal + 2) ^ ((engine.reach c).card + 1) := by
      rw [Nat.pow_succ, Nat.mul_comm (_ ^ _), Nat.add_mul]
      omega

/-- No tree is larger than a walk allows for. -/
theorem Grounded.length_lt {c : Ref} (grounded : engine.Grounded c) {below : List Visit}
    (preorder : engine.Preorder (engine.childReports c) below) :
    below.length + 1 ≤ (engine.childTotal + 2) ^ (engine.tables.cursors.size + 2) := by
  refine (grounded.length_le_reach below preorder).trans (Nat.pow_le_pow_right (by omega) ?_)
  have inside : engine.reach c ⊆ Finset.range engine.tables.cursors.size := fun i member =>
    Finset.mem_range.2 (mem_reach.1 member).1
  have most := Finset.card_le_card inside
  rw [Finset.card_range] at most
  omega

end Engine

end SourceAtlas
