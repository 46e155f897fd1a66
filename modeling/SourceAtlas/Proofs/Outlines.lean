import SourceAtlas.Proofs.Preorder

/-!
# Outlines

An outline is a part of the tree below a cursor: as many levels as are wanted, without the nodes that
are left out and what is below them. Each node of it tells the path that leads to it in the whole
tree, so an outline says what has been left out as well.
-/

namespace SourceAtlas

/-- A node of an outline: which child to take, which of its children, and so on, and the cursor that
is there. -/
structure Spot where
  path : List Nat
  cursor : Ref
deriving DecidableEq, Repr

/-- A part of a tree of cursors. -/
inductive Outline where
  | mk (spot : Spot) (below : List Outline)

namespace Outline

def spot : Outline → Spot
  | mk spot _ => spot

mutual

/-- The nodes of an outline, each followed by those below it. -/
def spots : Outline → List Spot
  | mk spot below => spot :: spotsAll below

def spotsAll : List Outline → List Spot
  | [] => []
  | outline :: beside => outline.spots ++ spotsAll beside

end

theorem spotsAll_eq_flatMap (outlines : List Outline) :
    spotsAll outlines = outlines.flatMap spots := by
  induction outlines with
  | nil => rfl
  | cons outline beside ih => rw [spotsAll, ih, List.flatMap_cons]

/-- Whether each node of an outline is one step further than the node that it is below. -/
inductive Joined : Outline → Prop
  | mk {spot : Spot} {below : List Outline} :
      (∀ outline ∈ below, ∃ i, outline.spot.path = spot.path ++ [i]) →
      (∀ outline ∈ below, Joined outline) → Joined (mk spot below)

end Outline

namespace Engine

variable (engine : Engine)

/-! ## What an outline shows -/

/-- Whether a path leads from a cursor to another one, in the tree below it. -/
inductive Leads : Ref → List Nat → Ref → Prop
  | here {c : Ref} : Leads c [] c
  | further {c d : Ref} {i : Nat} {visit : Visit} {path : List Nat} :
      (engine.childReports c)[i]? = some visit → Leads visit.cursor path d → Leads c (i :: path) d

/-- Whether a node is shown that is found from a root: it is not below some levels, and neither it
nor a node between the root and it is left out. -/
structure Reveals (keeps : Ref → Bool) (levels : Nat) (root : Ref) (spot : Spot) : Prop where
  leads : engine.Leads root spot.path spot.cursor
  near : spot.path.length ≤ levels
  kept : ∀ upper c, upper <+: spot.path → upper ≠ [] → engine.Leads root upper c → keeps c

/-- The outline from a cursor on, to which a path has led: some levels below it, and only the nodes
that are kept. -/
def outline (keeps : Ref → Bool) : Nat → List Nat → Ref → Outline
  | 0, path, c => .mk ⟨path, c⟩ []
  | levels + 1, path, c =>
    .mk ⟨path, c⟩ (((engine.childReports c).zipIdx.filter (keeps ·.1.cursor)).map fun (visit, i) =>
      outline keeps levels (path ++ [i]) visit.cursor)

variable {engine} {keeps : Ref → Bool} {levels : Nat} {c d : Ref} {path front : List Nat} {i : Nat}
variable {spot : Spot}

@[simp]
theorem leads_nil : engine.Leads c [] d ↔ d = c := by
  constructor
  · intro leads
    cases leads
    rfl
  · rintro rfl
    exact .here

theorem leads_cons : engine.Leads c (i :: path) d ↔
    ∃ visit, (engine.childReports c)[i]? = some visit ∧ engine.Leads visit.cursor path d := by
  constructor
  · intro leads
    cases leads with
    | further found deeper => exact ⟨_, found, deeper⟩
  · rintro ⟨visit, found, deeper⟩
    exact .further found deeper

theorem reveals_nil : engine.Reveals keeps levels c ⟨[], d⟩ ↔ d = c := by
  constructor
  · exact fun reveals => leads_nil.1 reveals.leads
  · rintro rfl
    exact ⟨.here, Nat.zero_le _, fun upper _ above some _ => absurd (List.prefix_nil.1 above) some⟩

/-- A node is shown if the child on the way to it is kept, and the node is shown from there. -/
theorem reveals_cons : engine.Reveals keeps (levels + 1) c ⟨i :: path, d⟩ ↔
    ∃ visit, (engine.childReports c)[i]? = some visit ∧ keeps visit.cursor ∧
      engine.Reveals keeps levels visit.cursor ⟨path, d⟩ := by
  constructor
  · rintro ⟨leads, near, kept⟩
    obtain ⟨visit, found, deeper⟩ := leads_cons.1 leads
    refine ⟨visit, found, kept [i] _ ?_ (List.cons_ne_nil _ _) (.further found .here), deeper,
      Nat.le_of_succ_le_succ near, fun upper e above _ leads => ?_⟩
    · exact List.cons_prefix_cons.2 ⟨rfl, List.nil_prefix⟩
    · exact kept (i :: upper) e (List.cons_prefix_cons.2 ⟨rfl, above⟩) (List.cons_ne_nil _ _)
        (.further found leads)
  · rintro ⟨visit, found, keep, deeper, near, kept⟩
    refine ⟨.further found deeper, Nat.succ_le_succ near, fun upper e above some leads => ?_⟩
    obtain ⟨j, upper, rfl⟩ := List.exists_cons_of_ne_nil some
    obtain ⟨rfl, within⟩ := List.cons_prefix_cons.1 above
    obtain ⟨visit', found', leads⟩ := leads_cons.1 leads
    obtain rfl := Option.some.inj (found.symm.trans found')
    cases upper with
    | nil =>
        obtain rfl := leads_nil.1 leads
        exact keep
    | cons j upper => exact kept (j :: upper) e within (List.cons_ne_nil _ _) leads

theorem not_reveals_zero : ¬ engine.Reveals keeps 0 c ⟨i :: path, d⟩ :=
  fun reveals => absurd reveals.near (Nat.not_succ_le_zero _)

/-! ## The nodes of an outline -/

theorem spots_outline_succ (keeps : Ref → Bool) (levels : Nat) (front : List Nat) (c : Ref) :
    (engine.outline keeps (levels + 1) front c).spots = ⟨front, c⟩ ::
      ((engine.childReports c).zipIdx.filter (keeps ·.1.cursor)).flatMap fun (visit, i) =>
        (engine.outline keeps levels (front ++ [i]) visit.cursor).spots := by
  rw [outline, Outline.spots, Outline.spotsAll_eq_flatMap, List.flatMap_map]

theorem eq_of_reveals_nil (split : spot.path = front ++ [])
    (reveals : engine.Reveals keeps levels c ⟨[], spot.cursor⟩) : spot = ⟨front, c⟩ := by
  obtain ⟨path, d⟩ := spot
  have same : d = c := reveals_nil.1 reveals
  rw [same, show path = front by simpa using split]

/-- The nodes of an outline are those that it is to show. -/
theorem mem_spots_outline : spot ∈ (engine.outline keeps levels front c).spots ↔
    ∃ path, spot.path = front ++ path ∧ engine.Reveals keeps levels c ⟨path, spot.cursor⟩ := by
  induction levels generalizing front c with
  | zero =>
      simp only [outline, Outline.spots, Outline.spotsAll, List.mem_singleton]
      constructor
      · rintro rfl
        exact ⟨[], by simp, reveals_nil.2 rfl⟩
      · rintro ⟨_ | ⟨i, path⟩, split, reveals⟩
        · exact eq_of_reveals_nil split reveals
        · exact absurd reveals not_reveals_zero
  | succ levels ih =>
      rw [spots_outline_succ]
      simp only [List.mem_cons, List.mem_flatMap, List.mem_filter, Prod.exists, ih,
        List.mem_zipIdx_iff_getElem?]
      constructor
      · rintro (rfl | ⟨visit, i, ⟨found, keep⟩, path, split, reveals⟩)
        · exact ⟨[], by simp, reveals_nil.2 rfl⟩
        · exact ⟨i :: path, by simp [split], reveals_cons.2 ⟨visit, found, keep, reveals⟩⟩
      · rintro ⟨_ | ⟨i, path⟩, split, reveals⟩
        · exact .inl (eq_of_reveals_nil split reveals)
        · obtain ⟨visit, found, keep, reveals⟩ := reveals_cons.1 reveals
          exact .inr ⟨visit, i, ⟨found, keep⟩, path, by simp [split], reveals⟩

/-- An outline lists its nodes in the order of their paths, each once. -/
theorem pairwise_spots_outline :
    (engine.outline keeps levels front c).spots.Pairwise (·.path < ·.path) := by
  induction levels generalizing front c with
  | zero => simp [outline, Outline.spots, Outline.spotsAll]
  | succ levels ih =>
      rw [spots_outline_succ, List.pairwise_cons]
      constructor
      · intro spot member
        obtain ⟨⟨visit, i⟩, -, member⟩ := List.mem_flatMap.1 member
        obtain ⟨path, split, -⟩ := mem_spots_outline.1 member
        rw [split, List.append_assoc]
        simpa using List.append_left_lt (List.nil_lt_cons i path)
      · -- children that are left out leave the others in their order
        rw [List.pairwise_flatMap]
        refine ⟨fun _ _ => ih, .filter _ ?_⟩
        have sorted : (engine.childReports c).zipIdx.Pairwise (·.2 < ·.2) := by
          rw [← List.pairwise_map (f := Prod.snd), List.zipIdx_map_snd]
          exact List.pairwise_lt_range'
        refine sorted.imp fun lt spot member spot' member' => ?_
        obtain ⟨path, split, -⟩ := mem_spots_outline.1 member
        obtain ⟨path', split', -⟩ := mem_spots_outline.1 member'
        rw [split, split', List.append_assoc, List.append_assoc]
        exact List.append_left_lt (List.cons_lt_cons_iff.2 (.inl lt))

theorem spot_outline : (engine.outline keeps levels front c).spot = ⟨front, c⟩ := by
  cases levels <;> rfl

theorem joined_outline : (engine.outline keeps levels front c).Joined := by
  induction levels generalizing front c with
  | zero => exact .mk (List.forall_mem_nil _) (List.forall_mem_nil _)
  | succ levels ih =>
      refine .mk (List.forall_mem_map.2 fun (visit, i) _ => ⟨i, ?_⟩)
        (List.forall_mem_map.2 fun _ _ => ih)
      rw [spot_outline]

/-! ## Levels -/

namespace Grounded

/-- Nothing is below a cursor whose tree is empty. -/
theorem childReports_eq_nil (grounded : engine.Grounded c) (none : (engine.reach c).card ≤ 0) :
    engine.childReports c = [] := by
  refine List.eq_nil_iff_forall_not_mem.2 fun visit reported => ?_
  have := grounded.card_reach_lt reported
  omega

/-- Levels beyond the size of a tree add nothing. -/
theorem outline_add (grounded : engine.Grounded c) (enough : (engine.reach c).card ≤ levels)
    (more : Nat) :
    engine.outline keeps (levels + more) front c = engine.outline keeps levels front c := by
  induction levels generalizing front c with
  | zero =>
      -- one more level asks for children, of which there are none
      cases more with
      | zero => rfl
      | succ more => simp [outline, grounded.childReports_eq_nil enough]
  | succ levels ih =>
      rw [Nat.add_right_comm, outline, outline]
      congr 1
      refine List.map_congr_left fun (visit, i) member => ?_
      have reported : visit ∈ engine.childReports c :=
        List.fst_mem_of_mem_zipIdx (List.mem_filter.1 member).1
      have less := grounded.card_reach_lt reported
      exact ih (grounded.child reported) (by omega)

/-- No path goes further down than the tree is large. -/
theorem length_le_of_leads (grounded : engine.Grounded c) (leads : engine.Leads c path d) :
    path.length ≤ (engine.reach c).card := by
  induction leads with
  | here => exact Nat.zero_le _
  | further found _ ih =>
      have reported := List.mem_of_getElem? found
      have less := grounded.card_reach_lt reported
      have deeper := ih (grounded.child reported)
      rw [List.length_cons]
      omega

/-- An outline that leaves nothing out is the whole tree, in preorder. -/
theorem preorder_outline (grounded : engine.Grounded c) (enough : (engine.reach c).card ≤ levels)
    (front : List Nat) :
    ∃ nodes, engine.Preorder (engine.childReports c) nodes ∧
      (engine.outline (fun _ => true) levels front c).spots.map Spot.cursor =
        c :: nodes.map Visit.cursor := by
  induction levels generalizing front c with
  | zero =>
      rw [grounded.childReports_eq_nil enough]
      exact ⟨[], .nil, rfl⟩
  | succ levels ih =>
      -- down the tree by the levels, and here along the children
      have each (pairs : List (Visit × Nat))
          (inside : ∀ pair ∈ pairs, pair.1 ∈ engine.childReports c) :
          ∃ nodes, engine.Preorder (pairs.map Prod.fst) nodes ∧
            (pairs.flatMap fun (visit, i) => (engine.outline (fun _ => true) levels (front ++ [i])
              visit.cursor).spots).map Spot.cursor = nodes.map Visit.cursor := by
        induction pairs with
        | nil => exact ⟨[], .nil, rfl⟩
        | cons pair pairs ih' =>
            obtain ⟨visit, i⟩ := pair
            obtain ⟨reported, others⟩ := List.forall_mem_cons.1 inside
            have less := grounded.card_reach_lt reported
            obtain ⟨below, deep, cursors⟩ :=
              ih (grounded.child reported) (by omega) (front ++ [i])
            obtain ⟨beside, wide, cursors'⟩ := ih' others
            refine ⟨_, .cons deep wide, ?_⟩
            rw [List.flatMap_cons, List.map_append, cursors, cursors']
            simp
      obtain ⟨nodes, preorder, cursors⟩ := each (engine.childReports c).zipIdx fun pair member =>
        List.fst_mem_of_mem_zipIdx member
      rw [List.zipIdx_map_fst] at preorder
      refine ⟨nodes, preorder, ?_⟩
      rw [spots_outline_succ, List.filter_true, List.map_cons, cursors]

end Grounded

end Engine

end SourceAtlas
