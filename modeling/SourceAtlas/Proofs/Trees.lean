import SourceAtlas.Proofs.Hearing
import SourceAtlas.Proofs.Outlines
import SourceAtlas.Proofs.Panics
import SourceAtlas.Proofs.Reports
import SourceAtlas.Proofs.Success
import SourceAtlas.Proofs.TreeTexts
import SourceAtlas.Proofs.Walks

/-!
# The tree of a report

The report on the syntax tree shows an outline of the tree below the root of the unit. A node is asked
for its children before it is asked about itself, unless it is at the limit.
-/

namespace SourceAtlas

open Act
open CommandLine (SourceArgs)

/-! ## What is told about nodes -/

namespace Engine

variable (engine : Engine)

/-- A place as a file, a line and a column, or a dash if it is in no file. -/
def placeText (place : Place) : String :=
  match place.file with
  | some file => (engine.file file).name.decoded ++ ":" ++ toString place.line.toNat ++ ":" ++
      toString place.column.toNat
  | none => "-"

/-- The node of a cursor, given those below it. -/
def astNode (c : Ref) (children : List AstNode) : AstNode :=
  .mk (engine.cursorKindName (engine.cursor c).kind).decoded
    (engine.cursorText c .spelling).decoded (engine.placeText (engine.cursor c).location) children

/-- The entry of a cursor. -/
def astEntry (depth : Nat) (c : Ref) : AstEntry :=
  ⟨depth, (engine.cursorKindName (engine.cursor c).kind).decoded,
    (engine.cursorText c .spelling).decoded, engine.placeText (engine.cursor c).location⟩

end Engine

/-- Whether a cursor below the root is shown if what it is below is shown. -/
def AstScope.keeps (scope : AstScope) (engine : Engine) (c : Ref) : Bool :=
  scope.all || Engine.isFromMainFile (engine.cursor c).location

/-! ## Silence about visits -/

/-- The cursor whose children are asked for, if an event asks for children. -/
def Event.visited? : Event → Option Ref
  | .asked (.children c) _ _ => some c
  | _ => none

instance : Visitor Event.visited? where
  deaf event plain := by
    unfold Event.visited?
    split
    next => exact absurd (plain _ rfl).absent (by simp)
    next => rfl

section Visitor

variable {β : Type} {hears : Event → Option β} [Visitor hears] {setting : Setting}

instance : (hushed setting hears).Remembering where
  ask question _ operands memo := utters_ask (Visitor.deaf_plain question operands memo)
  remember cell slot answer w :=
    utters_remember (fun _ => Attentive.deaf_other rfl) w cell slot answer
  respell cell spelling w := .still (by
    rw [exec_update, World.setUnitSpelling]
    split <;> rfl)

end Visitor

/-! ## What a tour tells, and what is heard of it -/

/-- Whether a store is in order while some owners are held, whatever is known of the units. -/
def Orderly (engine : Engine) (side : Side) (held : Held) (w : World) : Prop :=
  ∃ facts, At engine side held facts w

namespace Act

variable {engine : Engine} {side : Side} {held : Held} {α β γ : Type} {hears : Event → Option γ}
variable {x : Act α} {f : α → Act β} {a : α} {b : β} {heard heard' : List γ}

/-- Whether an action returns a value while some owners are held, and just some things are heard
meanwhile. Nothing else is held when it returns. -/
def Recites (engine : Engine) (side : Side) (hears : Event → Option γ) (held : Held) (x : Act α)
    (a : α) (heard : List γ) : Prop :=
  ∀ w, Orderly engine side held w → ∃ v, x.exec (side.setting engine) w = (.ok a, v) ∧
    Orderly engine side held v ∧ w.Utters hears heard v

theorem Recites.pure (a : α) : Recites engine side hears held (Pure.pure a) a [] :=
  fun w orderly => ⟨w, rfl, orderly, .refl w⟩

theorem Recites.bind (first : Recites engine side hears held x a heard)
    (next : Recites engine side hears held (f a) b heard') :
    Recites engine side hears held (x >>= f) b (heard ++ heard') := by
  intro w orderly
  obtain ⟨v, ran, orderly, utters⟩ := first w orderly
  obtain ⟨u, ran', orderly, utters'⟩ := next v orderly
  exact ⟨u, (exec_bind_ok ran).trans ran', orderly, utters.trans utters'⟩

theorem Recites.map {g : α → β} (first : Recites engine side hears held x a heard) :
    Recites engine side hears held (g <$> x) (g a) heard := by
  rw [← bind_pure_comp]
  simpa using first.bind (f := fun a => Pure.pure (g a)) (.pure (g a))

/-- Nothing is heard of an action that asks for nothing out of the ordinary. -/
theorem Tells.recites [Attentive hears] [covered : (hushed (side.setting engine) hears).Covers x]
    (tells : Tells engine side held x (· = a)) : Recites engine side hears held x a [] := by
  rintro w ⟨facts, inv⟩
  obtain ⟨_, v, ran, rfl, inv⟩ := tells facts w inv
  exact ⟨v, ran, ⟨facts, by simpa using inv⟩, utters_exec ran⟩

theorem recites_mapM {list : List α} {g : α → β} {h : α → List γ}
    (each : ∀ a ∈ list, Recites engine side hears held (f a) (g a) (h a)) :
    Recites engine side hears held (list.mapM f) (list.map g) (list.flatMap h) := by
  induction list with
  | nil => exact .pure []
  | cons a list ih =>
      obtain ⟨first, others⟩ := List.forall_mem_cons.1 each
      rw [List.mapM_cons, List.map_cons, List.flatMap_cons]
      refine first.bind ?_
      rw [bind_pure_comp]
      exact (ih others).map

/-- What is used is given up, which is not heard. -/
theorem exec_using_recites [Attentive hears] [Holder α] [Likeness α] [Entity α] {a : α} {w : World}
    (recites : Recites engine side hears (owners a + held) (f a) b heard)
    (orderly : Orderly engine side (owners a + held) w) :
    ∃ v, (Act.using a f).exec (side.setting engine) w = (.ok b, v) ∧
      Orderly engine side held v ∧ w.Utters hears heard v := by
  obtain ⟨v, ran, ⟨facts, τ, inv⟩, utters⟩ := recites w orderly
  refine ⟨v.release (refs a), ?_, ⟨facts, τ, inv.drop⟩, ?_⟩
  · rw [exec_using, ran]
  · exact utters.hush (.sheds (fun _ => Attentive.deaf_other rfl) (.release ..))

end Act

/-! ## What nodes tell -/

section Tells

variable {engine : Engine} {side : Side} {held : Held} {k : Cursor}

theorem CursorKind.tells_spelling (nonzero : held ≠ 0) (kind : CursorKind) :
    Tells engine side held kind.spelling (· = (engine.cursorKindName kind).decoded) := by
  refine (tells_ask nonzero _ (List.forall_mem_nil _) (fun _ => List.forall_mem_nil _) none).bind
    fun _ _ => ?_
  refine tells_engine.bind ?_
  rintro _ rfl
  exact tells_text _

namespace Cursor

theorem tells_report (usable : Usable engine held k) :
    Tells engine side held (k.placed engine).report
      (· = engine.placeText (engine.cursor k.raw.value).location) := by
  have unit : Lends held k.unit.resource := lends_unit (usable_unit usable)
  unfold Expansion.report placed SourceLocation.answer Engine.placeText SourceFile.ofRaw?
  cases (engine.cursor k.raw.value).location.file with
  | none => exact Tells.pure rfl
  | some file =>
      refine Tells.map (Raw.tells_askText unit _ _ _) ?_
      rintro _ rfl
      rfl

theorem tells_shows (usable : Usable engine held k) (scope : AstScope) :
    Tells engine side held (scope.shows k) (· = scope.keeps engine k.raw.value) := by
  unfold AstScope.shows AstScope.keeps
  cases scope.all with
  | true => exact Tells.pure rfl
  | false =>
      refine (tells_location usable).bind fun l is => ?_
      have lends := SourceLocation.lends_origin (usable_location usable is)
      refine (Raw.tells_ask lends _ _ _).mono ?_
      rintro _ rfl
      rw [is.1]
      rfl

theorem tells_describe (usable : Usable engine held k) (children : List AstNode) :
    Tells engine side held (AstScope.node.describe k children)
      (· = engine.astNode k.raw.value children) := by
  unfold AstScope.node.describe
  refine (Raw.tells_ask (lends_origin usable) _ _ _).bind ?_
  rintro _ rfl
  refine (CursorKind.tells_spelling (lends_origin usable).ne_zero _).bind ?_
  rintro _ rfl
  refine (tells_spelling usable).bind ?_
  rintro _ rfl
  refine (tells_expansion usable).bind ?_
  rintro _ rfl
  refine (tells_report usable).map ?_
  rintro _ rfl
  rfl

end Cursor

end Tells

/-! ## Levels of a tree -/

namespace Engine

variable (engine : Engine) (keeps : Ref → Bool)

/-- The children of a cursor that are kept. -/
def keptChildren (c : Ref) : List Ref :=
  ((engine.childReports c).map Visit.cursor).filter keeps

variable {engine keeps} {c : Ref} {α : Type} {cursors : List Cursor}

/-- What is made of the children, and not of those that are left out. -/
theorem filterMap_children
    (values : cursors.map (·.raw.value) = (engine.childReports c).map Visit.cursor) (f : Ref → α) :
    (cursors.map fun child =>
        if keeps child.raw.value then some (f child.raw.value) else none).filterMap id =
      (engine.keptChildren keeps c).map f := by
  rw [keptChildren, ← values]
  clear values
  induction cursors with
  | nil => rfl
  | cons child cursors ih =>
      by_cases keep : keeps child.raw.value <;> simp [keep, ← ih]

theorem flatMap_children
    (values : cursors.map (·.raw.value) = (engine.childReports c).map Visit.cursor)
    (f : Ref → List α) :
    (cursors.flatMap fun child => if keeps child.raw.value then f child.raw.value else []) =
      (engine.keptChildren keeps c).flatMap f := by
  rw [keptChildren, ← values]
  clear values
  induction cursors with
  | nil => rfl
  | cons child cursors ih =>
      by_cases keep : keeps child.raw.value <;> simp [keep, ih]

variable (engine keeps)

/-- The tree below a cursor, with the nodes that are kept in some levels. -/
def tree : Nat → Ref → AstNode
  | 0, c => engine.astNode c []
  | levels + 1, c => engine.astNode c ((engine.keptChildren keeps c).map (tree levels))

/-- The cursors whose children are visited for the tree, in order. -/
def asks : Nat → Ref → List Ref
  | 0, _ => []
  | levels + 1, c => c :: (engine.keptChildren keeps c).flatMap (asks levels)

end Engine

section Recites

variable {engine : Engine} {side : Side} {held : Held} {k : Cursor}

theorem Visit.map_of_yields {origin : Resource} {unit : SourceUnit} {visits : List Visit}
    {cursors : List Cursor} (handles : List.Forall₂ (Yields origin unit) visits cursors) :
    cursors.map (·.raw.value) = visits.map Visit.cursor := by
  induction handles with
  | nil => rfl
  | cons yields _ ih => rw [List.map_cons, List.map_cons, ih, yields.raw]

/-- The children of a cursor whose tree ends, as they are handed out. -/
theorem Cursor.recites_children (usable : Usable engine held k)
    (sound : Visit.Sound (engine.childReports k.raw.value)) {w : World}
    (orderly : Orderly engine side held w) :
    ∃ cursors v, k.children.exec (side.setting engine) w = (.ok cursors, v) ∧
      cursors.map (·.raw.value) = (engine.childReports k.raw.value).map Visit.cursor ∧
      (∀ child ∈ cursors, Usable engine (owners cursors + held) child) ∧
      Orderly engine side (owners cursors + held) v ∧
      w.Utters Event.visited? [k.raw.value] v := by
  have loaded : w.loaded = true := by
    obtain ⟨facts, τ, inv⟩ := orderly
    exact inv.isLoaded (lends_origin usable).ne_zero
  have bridged : Visit.Bridged (side.setting engine) k.children (.children k.raw.value)
      (engine.childReports k.raw.value) k.raw.origin k.unit := k.bridged_children
  obtain ⟨cursors, v, ran, trace, handles⟩ := (bridged.complete sound).2 w loaded
  obtain ⟨facts, inv⟩ := orderly
  obtain ⟨same, orderly⟩ := (gives_children usable.beside).ran inv ran
  have members := List.forall₂_same.1 (same.pair (held, held)).members
  exact ⟨cursors, v, ran, Visit.map_of_yields handles,
    fun child member => (members child member).left, orderly, .of_events [_] trace rfl⟩

namespace AstScope

variable (scope : AstScope) {levels : Nat}

/-- What comes of a child: nothing, and nothing is heard of it, if it is left out. -/
theorem recites_child (usable : Usable engine held k)
    (shown : Recites engine side Event.visited? held (scope.node levels k)
      (engine.tree (scope.keeps engine) levels k.raw.value)
      (engine.asks (scope.keeps engine) levels k.raw.value)) :
    Recites engine side Event.visited? held
      (do if ← scope.shows k then some <$> scope.node levels k else return none)
      (if scope.keeps engine k.raw.value then
        some (engine.tree (scope.keeps engine) levels k.raw.value) else none)
      (if scope.keeps engine k.raw.value then
        engine.asks (scope.keeps engine) levels k.raw.value else []) := by
  have judged : Recites engine side Event.visited? held (scope.shows k)
      (scope.keeps engine k.raw.value) [] := (Cursor.tells_shows usable scope).recites
  refine judged.bind ?_
  cases scope.keeps engine k.raw.value with
  | true => exact shown.map
  | false => exact .pure none

theorem recites_node (levels : Nat) (usable : Usable engine held k)
    (grounded : engine.Grounded k.raw.value) :
    Recites engine side Event.visited? held (scope.node levels k)
      (engine.tree (scope.keeps engine) levels k.raw.value)
      (engine.asks (scope.keeps engine) levels k.raw.value) := by
  induction levels generalizing held k with
  | zero => exact (Cursor.tells_describe usable []).recites
  | succ levels ih =>
      -- first the children are asked for, then each child is told in turn, then the node itself
      intro w orderly
      obtain ⟨cursors, v, ran, values, usables, orderly, utters⟩ :=
        Cursor.recites_children usable grounded.reports_sound orderly
      have each := recites_mapM fun child member => scope.recites_child (usables child member) <| by
        have listed : child.raw.value ∈ (engine.childReports k.raw.value).map Visit.cursor :=
          values ▸ List.mem_map_of_mem member
        obtain ⟨visit, reported, same⟩ := List.mem_map.1 listed
        exact ih (usables child member) (same ▸ grounded.child reported)
      obtain ⟨u, ran', orderly, utters'⟩ := exec_using_recites each orderly
      have described : Recites engine side Event.visited? held
          (node.describe k ((engine.keptChildren (scope.keeps engine) k.raw.value).map
            (engine.tree (scope.keeps engine) levels))) _ [] :=
        (Cursor.tells_describe usable _).recites
      obtain ⟨t, ran'', orderly, utters''⟩ := described u orderly
      refine ⟨t, ?_, orderly, ?_⟩
      · unfold node usingEach
        rw [exec_bind_ok ran, exec_bind_ok ran', Engine.filterMap_children values]
        exact ran''
      · rw [Engine.flatMap_children values] at utters'
        exact (utters.trans utters').hush utters''

end AstScope

end Recites

/-! ## Trees and outlines -/

namespace Outline

variable (engine : Engine)

mutual

/-- The tree that is printed of an outline. -/
def draw : Outline → AstNode
  | mk spot below => engine.astNode spot.cursor (drawAll below)

def drawAll : List Outline → List AstNode
  | [] => []
  | outline :: beside => outline.draw :: drawAll beside

end

theorem drawAll_eq_map (outlines : List Outline) :
    drawAll engine outlines = outlines.map (draw engine) := by
  induction outlines with
  | nil => rfl
  | cons outline beside ih => rw [drawAll, ih, List.map_cons]

/-- The entries of a tree are those of the nodes of its outline, as deep as their paths are long. -/
theorem Joined.entries_draw {outline : Outline} (joined : outline.Joined) :
    (outline.draw engine).entries outline.spot.path.length =
      outline.spots.map fun spot => engine.astEntry spot.path.length spot.cursor := by
  induction joined with
  | @mk spot below further _ ih =>
      rw [draw, drawAll_eq_map, Engine.astNode, AstNode.entries, AstNode.entriesAll_eq_flatMap, spots,
        spotsAll_eq_flatMap, List.map_cons, List.flatMap_map, List.map_flatMap]
      congr 1
      refine List.flatMap_congr fun outline member => ?_
      obtain ⟨i, longer⟩ := further outline member
      rw [← ih outline member, longer, List.length_append]
      rfl

end Outline

namespace Engine

variable {engine : Engine} {keeps : Ref → Bool} {levels : Nat} {front : List Nat} {c : Ref}

theorem map_kept_zipIdx (engine : Engine) (keeps : Ref → Bool) (c : Ref) :
    ((engine.childReports c).zipIdx.filter (keeps ·.1.cursor)).map (·.1.cursor) =
      engine.keptChildren keeps c := by
  have counted : (engine.childReports c).map Visit.cursor =
      (engine.childReports c).zipIdx.map (Visit.cursor ∘ Prod.fst) := by
    rw [← List.map_map, List.zipIdx_map_fst]
  rw [keptChildren, counted, List.filter_map]
  rfl

/-- The tree of an outline does not say where it was found. -/
theorem draw_outline (engine : Engine) (keeps : Ref → Bool) (levels : Nat) (front : List Nat)
    (c : Ref) : (engine.outline keeps levels front c).draw engine = engine.tree keeps levels c := by
  induction levels generalizing front c with
  | zero => rfl
  | succ levels ih =>
      rw [outline, Outline.draw, Outline.drawAll_eq_map, tree, ← map_kept_zipIdx, List.map_map,
        List.map_map]
      exact congrArg _ (List.map_congr_left fun place _ => ih (front ++ [place.2]) place.1.cursor)

/-- The children of the nodes above the last level are visited. -/
theorem asks_outline (engine : Engine) (keeps : Ref → Bool) (levels : Nat) (front : List Nat)
    (c : Ref) : ((engine.outline keeps levels front c).spots.filter
      (·.path.length < front.length + levels)).map Spot.cursor = engine.asks keeps levels c := by
  induction levels generalizing front c with
  | zero => simp [outline, Outline.spots, Outline.spotsAll, asks]
  | succ levels ih =>
      rw [spots_outline_succ, asks, ← map_kept_zipIdx, List.flatMap_map, List.filter_cons,
        if_pos (by simp), List.map_cons, List.filter_flatMap, List.map_flatMap]
      congr 1
      refine List.flatMap_congr fun place _ => ?_
      rw [← ih (front ++ [place.2]) place.1.cursor, List.length_append, List.length_singleton]
      simp only [Nat.add_assoc, Nat.add_comm 1]

/-- To cut a tree is to draw fewer levels. -/
theorem cut_tree (engine : Engine) (keeps : Ref → Bool) (limit levels : Nat) (c : Ref) :
    (engine.tree keeps levels c).cut limit = engine.tree keeps (min limit levels) c := by
  induction limit generalizing levels c with
  | zero => cases levels <;> rfl
  | succ limit ih =>
      cases levels with
      | zero => rfl
      | succ levels =>
          rw [Nat.succ_min_succ, tree, tree, astNode, AstNode.cut, List.map_map]
          exact congrArg _ (List.map_congr_left fun child _ => ih levels child)

end Engine

end SourceAtlas
