import SourceAtlas.Proofs.Trees

/-!
# Views of a tree

The recursion that builds the tree of a report, the walk in preorder, the text and the JSON show the
same nodes. Which nodes are left out is decided by the limit and by the main file, for a node and for
all that it is below.
-/

namespace SourceAtlas

open Act
open CommandLine (SourceArgs)

/-! ## What a scope shows -/

namespace AstScope

variable (scope : AstScope) (engine : Engine)

/-- The outline of the tree below a root that is shown. -/
def outline (root : Ref) : Outline :=
  engine.outline (scope.keeps engine) (scope.levels engine) [] root

/-- Whether a node of the tree below a root is to be shown: it is no deeper than the limit, and unless
all nodes are asked for, it and every node between the root and it are in the main file. -/
structure Shows (root : Ref) (spot : Spot) : Prop where
  leads : engine.Leads root spot.path spot.cursor
  near : ∀ limit ∈ scope.depth, spot.path.length ≤ limit.toNat
  kept : scope.all = false → ∀ upper c, upper <+: spot.path → upper ≠ [] →
    engine.Leads root upper c → Engine.isFromMainFile (engine.cursor c).location

variable {scope engine} {root : Ref} {spot : Spot}

theorem levels_enough (unlimited : scope.depth = none) (c : Ref) :
    (engine.reach c).card < scope.levels engine := by
  have inside : engine.reach c ⊆ Finset.range engine.tables.cursors.size := fun i member =>
    Finset.mem_range.2 (Engine.mem_reach.1 member).1
  have most := Finset.card_le_card inside
  rw [Finset.card_range] at most
  rw [levels, unlimited]
  exact Nat.lt_succ_of_le most

/-- The outline shows what is to be shown. -/
theorem mem_spots_outline (grounded : engine.Grounded root) :
    spot ∈ (scope.outline engine root).spots ↔ scope.Shows engine root spot := by
  rw [outline, Engine.mem_spots_outline]
  constructor
  · rintro ⟨path, split, leads, near, kept⟩
    obtain rfl : spot.path = path := split
    refine ⟨leads, fun limit limited => ?_, fun some upper c above below found => ?_⟩
    · rw [levels, show scope.depth = _ from limited] at near
      exact near
    · have keep := kept upper c above below found
      rw [keeps, some] at keep
      exact keep
  · rintro ⟨leads, near, kept⟩
    refine ⟨spot.path, rfl, leads, ?_, fun upper c above below found => ?_⟩
    · cases limited : scope.depth with
      | some limit =>
          rw [levels, limited]
          exact near limit limited
      | none =>
          -- without a limit there are more levels than any path of the tree is long
          exact (grounded.length_le_of_leads leads).trans (levels_enough limited root).le
    · rw [keeps]
      cases all : scope.all with
      | true => rfl
      | false => exact kept all upper c above below found

/-- The nodes whose children are visited are those that are shown above the limit. -/
theorem asks_outline (grounded : engine.Grounded root) :
    engine.asks (scope.keeps engine) (scope.levels engine) root =
      ((scope.outline engine root).spots.filter fun spot =>
        scope.depth.all fun limit => spot.path.length < limit.toNat).map Spot.cursor := by
  rw [← Engine.asks_outline engine (scope.keeps engine) (scope.levels engine) [] root]
  refine congrArg (List.map Spot.cursor) (List.filter_congr fun spot member => ?_)
  cases limited : scope.depth with
  | some limit => simp [levels, limited]
  | none =>
      have leads := ((mem_spots_outline grounded).1 member).leads
      have near := (grounded.length_le_of_leads leads).trans_lt (levels_enough limited root)
      simpa using near

end AstScope

/-! ## The report -/

/-- The root of the unit that a report on a tree loads, if it can be loaded. -/
def loadedRoot? (setting : Setting) (host : Host) (source : SourceArgs) : Option Ref :=
  match (loadUnit host source .detailedProcessingRecord).exec setting {} with
  | (.ok unit, w) => some (setting.engine.unit (w.table unit.resource)).root
  | (.error _, _) => none

/-- A tree as it is printed. -/
def AstNode.print (json : Bool) (tree : AstNode) : String :=
  if json then tree.toJson.pretty ++ "\n" else tree.text 0

theorem Cursor.exec_root (setting : Setting) (unit : SourceUnit) {w : World}
    (loaded : w.loaded = true) :
    ∃ k v, (root unit).exec setting w = (.ok k, v) ∧ k.unit = unit ∧
      k.raw.value = (setting.engine.unit (w.table unit.resource)).root := by
  unfold root
  rw [exec_bind_ok (exec_ask _ _ _ loaded), exec_bind_ok exec_engine, exec_bind_ok (exec_table _),
    exec_make]
  exact ⟨_, _, rfl, rfl, rfl⟩

/-- The root of a unit is handed out, and no children are asked for. -/
theorem Cursor.recites_root {engine : Engine} {side : Side} {held : Held} {unit : SourceUnit}
    {w : World} (usable : Usable engine held unit) (orderly : Orderly engine side held w) :
    ∃ k v, (root unit).exec (side.setting engine) w = (.ok k, v) ∧ k.unit = unit ∧
      k.raw.value = (engine.unit (w.table unit.resource)).root ∧ Usable engine (owners k + held) k ∧
      Orderly engine side (owners k + held) v ∧ w.Utters Event.visited? [] v := by
  obtain ⟨facts, inv⟩ := orderly
  have loaded : w.loaded = true := by
    obtain ⟨τ, inv⟩ := inv
    exact inv.isLoaded (lends_unit usable).ne_zero
  obtain ⟨k, v, ran, of, value⟩ := exec_root (side.setting engine) unit loaded
  obtain ⟨same, orderly⟩ := (gives_root usable.beside (F := Grip.impossible)).ran inv ran
  exact ⟨k, v, ran, of, value, (same.pair (held, held)).left, orderly, utters_exec ran⟩

/-- The cursors whose children are visited for what a scope shows: those above the limit. -/
def AstScope.visits (scope : AstScope) (engine : Engine) (root : Ref) : List Ref :=
  ((scope.outline engine root).spots.filter fun spot =>
    scope.depth.all fun limit => spot.path.length < limit.toNat).map Spot.cursor

/-- The tree of a unit is drawn, and the children of just those nodes are visited that are shown above
the limit. -/
theorem AstScope.exec_drawing (scope : AstScope) {engine : Engine} {side : Side} {held : Held}
    {unit : SourceUnit} {w : World} (usable : Usable engine held unit)
    (orderly : Orderly engine side held w)
    (grounded : engine.Grounded (engine.unit (w.table unit.resource)).root) :
    ∃ v, (do Act.using (← Cursor.root unit) (scope.node (scope.levels engine))).exec
          (side.setting engine) w =
        (.ok ((scope.outline engine (engine.unit (w.table unit.resource)).root).draw engine), v) ∧
      w.Utters Event.visited?
        (scope.visits engine (engine.unit (w.table unit.resource)).root) v := by
  obtain ⟨k, v, ran, -, value, usable, orderly, silent⟩ := Cursor.recites_root usable orderly
  rw [← value] at grounded ⊢
  obtain ⟨u, ran', -, utters⟩ :=
    exec_using_recites (scope.recites_node (scope.levels engine) usable grounded) orderly
  refine ⟨u, ?_, ?_⟩
  · rw [exec_bind_ok ran, ran', outline, Engine.draw_outline]
  · rw [visits, ← asks_outline grounded]
    exact silent.trans utters

/-- A unit that is loaded can be used: it is the only owner that is left of its loading. -/
theorem usable_loadUnit {setting : Setting} {host : Host} {source : SourceArgs}
    {options : ParseOptions} {unit : SourceUnit} {w : World}
    (ran : (loadUnit host source options).exec setting {} = (.ok unit, w)) :
    Usable setting.engine (owners unit + 0 : Held) unit ∧
      Orderly setting.engine ⟨setting.remembers, {}, []⟩ (owners unit + 0) w := by
  have loading : (Duo.alone setting.engine ⟨setting.remembers, {}, []⟩).Gives (0, 0) (0, 0)
      (loadUnit host source options) (loadUnit host source options) := gives_loadUnit host source _
  obtain ⟨same, orderly⟩ := loading.ran ⟨_, Inv.start setting.engine setting.remembers⟩ ran
  exact ⟨(same.pair (0, 0)).left, orderly⟩

/-- A report on a tree that ends prints it. -/
theorem exec_astReport (setting : Setting) (host : Host) (source : SourceArgs)
    (scope : AstScope) {root : Ref} (loads : loadedRoot? setting host source = some root)
    (grounded : setting.engine.Grounded root) :
    ∃ v, (astReport host source scope).exec setting {} =
        (.ok (((scope.outline setting.engine root).draw setting.engine).print source.json), v) ∧
      World.Utters Event.visited? (scope.visits setting.engine root) {} v := by
  unfold loadedRoot? at loads
  split at loads
  next unit w ran =>
    obtain rfl := Option.some.inj loads
    have quiet : World.Utters Event.visited? [] {} w := utters_exec ran
    obtain ⟨usable, orderly⟩ := usable_loadUnit ran
    obtain ⟨v, ran', utters⟩ := scope.exec_drawing usable orderly grounded
    have drawn : (do Act.using (← Cursor.root unit) (scope.node (scope.levels setting.engine))).exec
        setting w = (.ok _, v) := ran'
    refine ⟨v.release (refs unit), ?_, ?_⟩
    · unfold astReport
      rw [exec_bind_ok ran, exec_using, exec_bind_ok exec_engine, ← bind_assoc, exec_bind_ok drawn]
      rfl
    · exact (quiet.trans utters).hush (.sheds (fun _ => Attentive.deaf_other rfl) (.release ..))
  next => exact nomatch loads

/-- A run of the program that shows a tree. -/
theorem runProgram_ast (setting : Setting) (host : Host) (source : SourceArgs)
    (scope : AstScope) {root : Ref} (loads : loadedRoot? setting host source = some root)
    (grounded : setting.engine.Grounded root) {words : List Bytes}
    {invocation : CommandLine.Invocation} (parsed : CommandLine.parse words = .ok invocation)
    (asked : invocation.command = .ast source scope.depth scope.all) :
    (runProgram setting host words).exitCode = 0 ∧
      (runProgram setting host words).output =
        ((scope.outline setting.engine root).draw setting.engine).print source.json ∧
      (runProgram setting host words).events.filterMap Event.visited? =
        scope.visits setting.engine root := by
  obtain ⟨v, ran, events, trace, heard⟩ := exec_astReport setting host source scope loads grounded
  replace ran : (report host (.ast source scope.depth scope.all) setting).run {} = (.ok _, v) := ran
  unfold runProgram
  simp only [parsed, asked, ran]
  refine ⟨trivial, trivial, ?_⟩
  rw [trace, List.filterMap_reverse, ← heard]
  exact congrArg (fun all => (all.filterMap Event.visited?).reverse) (List.append_nil events)

/-- How the tree below a root is shown in a scope. -/
structure AstScope.Depicts (setting : Setting) (host : Host) (source : SourceArgs)
    (scope : AstScope) (root : Ref) : Prop where
  rooted : (scope.outline setting.engine root).spot = ⟨[], root⟩
  /-- The tree has the nodes that are to be shown, in the order in which they are visited, each below
  the node that it was visited under. -/
  shows : ∀ spot,
    spot ∈ (scope.outline setting.engine root).spots ↔ scope.Shows setting.engine root spot
  ordered : (scope.outline setting.engine root).spots.Pairwise (·.path < ·.path)
  joined : (scope.outline setting.engine root).Joined
  /-- Whether as text or as JSON, a run of the program prints this tree, and only the children of the
  nodes above the limit are visited for it, once each. -/
  printed : ∀ json words invocation, CommandLine.parse words = .ok invocation →
    invocation.command = .ast { source with json } scope.depth scope.all →
    (runProgram setting host words).exitCode = 0 ∧
      (runProgram setting host words).output =
        ((scope.outline setting.engine root).draw setting.engine).print json ∧
      (runProgram setting host words).events.filterMap Event.visited? =
        scope.visits setting.engine root
  /-- The text has an entry for each node of the tree, in preorder, with two blanks for each level. -/
  text : ((scope.outline setting.engine root).draw setting.engine).print false =
    String.join ((((scope.outline setting.engine root).draw setting.engine).entries 0).map
      AstEntry.text)
  /-- The entries of the tree that is printed are those of the nodes of the outline. -/
  entries : ((scope.outline setting.engine root).draw setting.engine).entries 0 =
    (scope.outline setting.engine root).spots.map fun spot =>
      setting.engine.astEntry spot.path.length spot.cursor
  /-- The tree is read back from its JSON. -/
  decoded : (Json.parse (((scope.outline setting.engine root).draw setting.engine).print true)).map
    AstNode.ofJson? = .ok (some ((scope.outline setting.engine root).draw setting.engine))

theorem AstScope.depicts (setting : Setting) (host : Host) (source : SourceArgs)
    (scope : AstScope) {root : Ref} (loads : loadedRoot? setting host source = some root)
    (grounded : setting.engine.Grounded root) : scope.Depicts setting host source root where
  rooted := Engine.spot_outline
  shows _ := mem_spots_outline grounded
  ordered := Engine.pairwise_spots_outline
  joined := Engine.joined_outline
  printed json _ _ parsed asked :=
    runProgram_ast setting host { source with json } scope loads grounded parsed asked
  text := AstNode.text_eq_join 0 _
  entries := by
    have joined : (scope.outline setting.engine root).Joined := Engine.joined_outline
    have top : (scope.outline setting.engine root).spot = ⟨[], root⟩ := Engine.spot_outline
    have entries := joined.entries_draw setting.engine
    rwa [top] at entries
  decoded := AstNode.read_toJson _

/-! ## Limits -/

namespace AstScope

variable {engine : Engine} {root : Ref} {all : Bool}

/-- A looser limit shows no fewer nodes. -/
theorem spots_subset (grounded : engine.Grounded root) {limit : UInt64} {looser : Option UInt64}
    (more : ∀ limit' ∈ looser, limit ≤ limit') :
    (AstScope.outline ⟨some limit, all⟩ engine root).spots ⊆
      (AstScope.outline ⟨looser, all⟩ engine root).spots := by
  intro spot member
  have shown := (mem_spots_outline grounded).1 member
  refine (mem_spots_outline grounded).2 ⟨shown.leads, fun limit' limited => ?_, shown.kept⟩
  exact (shown.near limit rfl).trans (UInt64.le_iff_toNat_le.1 (more limit' limited))

/-- A limit cuts the whole tree. -/
theorem draw_limited (grounded : engine.Grounded root) (limit : UInt64) :
    (AstScope.outline ⟨some limit, all⟩ engine root).draw engine =
      ((AstScope.outline ⟨none, all⟩ engine root).draw engine).cut limit.toNat := by
  have whole : (engine.reach root).card < AstScope.levels ⟨none, all⟩ engine :=
    levels_enough rfl root
  let keeps : Ref → Bool := AstScope.keeps ⟨none, all⟩ engine
  rw [outline, outline, Engine.draw_outline, Engine.draw_outline, Engine.cut_tree]
  show engine.tree keeps limit.toNat root = engine.tree keeps (min limit.toNat _) root
  rcases Nat.le_total limit.toNat (AstScope.levels ⟨none, all⟩ engine) with fits | beyond
  · rw [Nat.min_eq_left fits]
  · -- a limit beyond all levels cuts nothing, since there is nothing below them
    obtain ⟨more, sum⟩ := Nat.exists_eq_add_of_le beyond
    rw [Nat.min_eq_right beyond, sum, ← Engine.draw_outline engine keeps _ [] root,
      grounded.outline_add whole.le more, Engine.draw_outline]

end AstScope

/-! ## The views agree -/

/-- Without a limit and with all nodes, a tree is what a walk in preorder yields. -/
theorem walk_shown {setting : Setting} {root : Ref} (grounded : setting.engine.Grounded root) :
    ∃ nodes, setting.engine.Preorder (setting.engine.childReports root) nodes ∧
      (AstScope.outline ⟨none, true⟩ setting.engine root).spots.map Spot.cursor =
        root :: nodes.map Visit.cursor ∧
      ∀ (k : Cursor) (w : World), k.raw.value = root → w.loaded = true →
        ∃ cursors v, (⟨[k]⟩ : Walk).drain.exec setting w = (.ok (⟨[]⟩, .ok cursors), v) ∧
          cursors.map (·.raw.value) =
            (AstScope.outline ⟨none, true⟩ setting.engine root).spots.map Spot.cursor := by
  have enough : (setting.engine.reach root).card < AstScope.levels ⟨none, true⟩ setting.engine :=
    AstScope.levels_enough rfl root
  obtain ⟨nodes, preorder, shown⟩ := grounded.preorder_outline enough.le []
  refine ⟨nodes, preorder, shown, fun k w is loaded => ?_⟩
  subst is
  obtain ⟨cursors, v, ran, handles, -⟩ := Walk.drain_root k grounded preorder loaded
  refine ⟨k :: cursors, v, ran, Eq.trans ?_ shown.symm⟩
  rw [List.map_cons, Visit.map_of_yields handles]

/-- All views of a tree agree. If the tree below the root of a unit ends and no null cursor is reported
in it, then, for any limit and with or without what is outside of the main file, the tree has just the
nodes that are to be shown, no others are asked for their children, and its text and its JSON have all
of it. A limit cuts the whole tree, and a looser one only adds nodes. The whole tree, with all nodes,
is what a walk in preorder yields. -/
theorem tree_views_agree (setting : Setting) (host : Host) (source : SourceArgs) {root : Ref}
    (loads : loadedRoot? setting host source = some root)
    (grounded : setting.engine.Grounded root) :
    (∀ scope : AstScope, scope.Depicts setting host source root) ∧
      (∀ (all : Bool) (limit : UInt64),
        (AstScope.outline ⟨some limit, all⟩ setting.engine root).draw setting.engine =
          ((AstScope.outline ⟨none, all⟩ setting.engine root).draw setting.engine).cut limit.toNat ∧
        ∀ looser : Option UInt64, (∀ limit' ∈ looser, limit ≤ limit') →
          (AstScope.outline ⟨some limit, all⟩ setting.engine root).spots ⊆
            (AstScope.outline ⟨looser, all⟩ setting.engine root).spots) ∧
      ∃ nodes, setting.engine.Preorder (setting.engine.childReports root) nodes ∧
        (AstScope.outline ⟨none, true⟩ setting.engine root).spots.map Spot.cursor =
          root :: nodes.map Visit.cursor ∧
        ∀ (k : Cursor) (w : World), k.raw.value = root → w.loaded = true →
          ∃ cursors v, (⟨[k]⟩ : Walk).drain.exec setting w = (.ok (⟨[]⟩, .ok cursors), v) ∧
            cursors.map (·.raw.value) =
              (AstScope.outline ⟨none, true⟩ setting.engine root).spots.map Spot.cursor :=
  ⟨fun scope => scope.depicts setting host source loads grounded,
    fun _ limit => ⟨AstScope.draw_limited grounded limit, fun _ => AstScope.spots_subset grounded⟩,
    walk_shown grounded⟩

/-- A cursor in another file is left out with all that it reports, even with what a cursor in the main
file reports as well. -/
theorem tree_views_agree_main_file :
    let engine : Engine := { tables := {
      sources := [{ name := some [97], unit := some 0 }], units := #[{}]
      files := #[{ name := some [97] }, { name := some [98] }]
      cursors := #[{ children := [some 1, some 2] },
        { location := ⟨some 0, 1, 1, 0⟩, children := [some 3] },
        { location := ⟨some 1, 1, 1, 0⟩, children := [some 3] },
        { location := ⟨some 0, 2, 1, 0⟩ }] } }
    let run := runProgram ⟨engine, true⟩ { read := fun _ => .ok [] } [[99], [97, 115, 116], [97]]
    loadedRoot? ⟨engine, true⟩ { read := fun _ => .ok [] } { file := [97] } = some (some 0) ∧
      engine.Grounded (some 0) ∧ run.exitCode = 0 ∧
      run.output = "K0 '' <->\n  K0 '' <a:1:1>\n    K0 '' <a:2:1>\n" ∧
      run.events.filterMap Event.visited? = [some 0, some 1, some 3] := by
  intro engine run
  have loads : loadedRoot? ⟨engine, true⟩ { read := fun _ => .ok [] } { file := [97] } =
      some (some 0) := by
    cbv
  have leaf : engine.Grounded (some 3) := .intro fun _ absent => absurd absent List.not_mem_nil
  have inner (i : Nat) (above : i = 1 ∨ i = 2) : engine.Grounded (some i) :=
    .intro fun visit reported => by
      obtain rfl : visit = ⟨some 3, some i⟩ := by
        rcases above with rfl | rfl <;> exact List.mem_singleton.1 reported
      exact ⟨Option.some_ne_none _, leaf⟩
  have grounded : engine.Grounded (some 0) := .intro fun visit reported => by
    rcases List.mem_cons.1 reported with rfl | other
    · exact ⟨Option.some_ne_none _, inner 1 (.inl rfl)⟩
    · obtain rfl := List.mem_singleton.1 other
      exact ⟨Option.some_ne_none _, inner 2 (.inr rfl)⟩
  have parsed : CommandLine.parse [[99], [97, 115, 116], [97]] =
      .ok { command := .ast { file := [97] } none false } := by
    cbv
  obtain ⟨views, -, -⟩ :=
    tree_views_agree ⟨engine, true⟩ { read := fun _ => .ok [] } { file := [97] } loads grounded
  obtain ⟨exit, shown, visited⟩ := (views ⟨none, false⟩).printed false _ _ parsed rfl
  refine ⟨loads, grounded, exit, shown.trans ?_, visited.trans ?_⟩
  · cbv
  · cbv

end SourceAtlas
