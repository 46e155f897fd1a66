import SourceAtlas.Proofs.Lifetimes
import SourceAtlas.Proofs.Reports

/-!
# Borrowing

Nothing is used after it was given back: each object, in a slot or in a memo, keeps what its raw
values come from. And in the end everything has been given back once, in the right order.
-/

namespace SourceAtlas

open Relation

/-! ## Where raw values come from -/

/-- The resource that a raw value or a handle belongs to, and the one that is kept on its account. -/
abbrev Tie := Resource × Resource

def Tie.handle (r : Resource) : Tie := (r, r)

def SourceFile.ties (file : SourceFile) : List Tie :=
  [(file.raw.origin, file.unit.resource)]

def SourceLocation.ties (location : SourceLocation) : List Tie :=
  (location.raw.origin, anchorResource location.unit location.anchor) ::
    (location.expansion.bind (·.file)).toList.flatMap SourceFile.ties

def SourceRange.ties (range : SourceRange) : List Tie :=
  [(range.raw.origin, anchorResource range.unit range.anchor)]

def SourceType.ties (type : SourceType) : List Tie :=
  [(type.raw.origin, type.unit.resource)]

def Cursor.ties (cursor : Cursor) : List Tie :=
  (cursor.raw.origin, cursor.unit.resource) ::
    cursor.parent.toList.map fun parent => (parent.origin, cursor.unit.resource)

def Diagnostic.ties (diagnostic : Diagnostic) : List Tie :=
  (diagnostic.origin, anchorResource diagnostic.unit diagnostic.anchor) ::
    (diagnostic.handle :: diagnostic.ancestors).map fun handle => .handle handle.resource

/-- The ties of an object: of cursors, types and files to their unit, of locations and ranges to
their unit or to completion results, of tokens to their batch, of candidates, strings and chunks to
their completion results, and of commands to their list. -/
def Object.ties : Object → List Tie
  | .index held => [.handle held.resource]
  | .unit held => [.handle held.resource]
  | .cursor held => held.ties
  | .type held => held.ties
  | .argumentTypes held => held.type.ties
  | .file held => held.ties
  | .location held => held.ties
  | .range held => held.ties
  | .inclusion held =>
    held.source.toList.flatMap SourceFile.ties ++ held.included.ties ++ held.location.ties
  | .tokens held => held.batch.toList.map fun batch => .handle batch.resource
  | .token held => [.handle held.batch.resource]
  | .walk held => held.pending.flatMap Cursor.ties
  | .diagnostics held => [.handle held.unit.resource]
  | .diagnostic held => held.ties
  | .fixIt held => held.range.ties
  | .completion held => [.handle held.resource]
  | .candidate held => [(held.string.origin, held.results.resource)]
  | .string held => [(held.raw.origin, held.results.resource)]
  | .chunk held => [(held.string.raw.origin, held.string.results.resource)]
  | .database held => [.handle held.resource]
  | .commands held => [.handle held.resource]
  | .command held => [(held.raw.origin, held.list.resource)]

/-- The objects that a memo holds. -/
def CursorMemo.objects (memo : CursorMemo) : List Object :=
  memo.location.toList.map .location ++ memo.extent.toList.map .range ++
    memo.type.toList.map .type ++
    (memo.canonical.toList ++ memo.semanticParent.join.toList ++
      memo.lexicalParent.join.toList).map .cursor

/-- Whether some references keep what they should for an object: what its raw values come from and
whatever that borrows from, all of which is out. -/
structure World.Secures (w : World) (object : Object) : Prop where
  tied : ∀ tie ∈ object.ties, tie.1 = tie.2 ∧ w.Keeps (refs object) tie.1
  lender : ∀ r s, w.Keeps (refs object) r → Borrows w.trace r s → w.Keeps (refs object) s
  out : ∀ r, w.Keeps (refs object) r → IsOut w.trace r

/-! ## Ties of objects that belong together -/

/-- Whether values come from what is kept on their account, which is within reach. -/
def Tied (held : Held) (ties : List Tie) : Prop :=
  ∀ tie ∈ ties, tie.1 = tie.2 ∧ Lends held tie.2

namespace Tied

variable {held more : Held} {ties ties' : List Tie} {r s : Resource}

theorem nil : Tied held [] :=
  fun _ absent => absurd absent List.not_mem_nil

theorem cons (same : r = s) (lends : Lends held s) (tied : Tied held ties) :
    Tied held ((r, s) :: ties) :=
  List.forall_mem_cons.2 ⟨⟨same, lends⟩, tied⟩

theorem append (first : Tied held ties) (second : Tied held ties') : Tied held (ties ++ ties') :=
  List.forall_mem_append.2 ⟨first, second⟩

theorem flatMap {α : Type} {values : List α} {f : α → List Tie}
    (each : ∀ a ∈ values, Tied held (f a)) : Tied held (values.flatMap f) := by
  intro tie member
  obtain ⟨a, there, member⟩ := List.mem_flatMap.1 member
  exact each a there tie member

/-- The handle of an owner that is held. -/
theorem handle {own : List Owner} {o : Owner} (member : o ∈ own) (owned : o.resource = some r) :
    Tied own [.handle r] :=
  .cons rfl ⟨o, .of_mem member, owned⟩ .nil

/-- A value that comes from the resource of an owner that is held. -/
theorem from_owner {own : List Owner} {o : Owner} (member : o ∈ own) (same : r = s)
    (owned : o.resource = some s) : Tied own [(r, s)] :=
  .cons same ⟨o, .of_mem member, owned⟩ .nil

end Tied

theorem tied_of_subset {own more : List Owner} {ties : List Tie} (tied : Tied own ties)
    (subset : own ⊆ more) : Tied more ties := by
  have reach {o : Owner} (within : Within own o) : Within more o := by
    induction within with
    | held member => exact .of_mem (subset (Multiset.mem_coe.1 member))
    | lender _ lends ih => exact .lender ih lends
  intro tie member
  obtain ⟨same, o, within, owned⟩ := tied tie member
  exact ⟨same, o, reach within, owned⟩

theorem SourceFile.tied (engine : Engine) {file : SourceFile} (coherent : Coherent engine file) :
    Tied (owners file : List Owner) file.ties :=
  .from_owner (.head _) coherent rfl

theorem tied_toList {α : Type} [Holder α] [Likeness α] [Entity α] {value : Option α}
    {f : α → List Tie} (each : ∀ a ∈ value, Tied (owners a : List Owner) (f a)) :
    Tied (owners value : List Owner) (value.toList.flatMap f) := by
  cases value with
  | none => exact .nil
  | some a => exact .flatMap fun b member => List.mem_singleton.1 member ▸ each a rfl

/-- What comes from a unit or completion results is tied to them. -/
theorem Comes.tied {origin : Resource} {unit : SourceUnit} {anchor : Option Completion}
    (comes : Comes origin unit anchor) :
    Tied (owners unit ++ owners anchor : List Owner) [(origin, anchorResource unit anchor)] := by
  cases anchor with
  | none => exact .from_owner (List.mem_append_left _ (.head _)) comes.origin_eq rfl
  | some results => exact .from_owner (List.mem_append_right _ (.head _)) comes.origin_eq rfl

theorem SourceLocation.tied (engine : Engine) {location : SourceLocation}
    (coherent : Coherent engine location) : Tied (owners location : List Owner) location.ties := by
  have base := tied_of_subset coherent.1.tied
    (List.subset_append_left _ (owners location.expansion))
  refine base.append (tied_of_subset (tied_toList fun file found => ?_)
    (List.subset_append_of_subset_right _ ?_))
  · obtain ⟨expansion, known, found⟩ := Option.bind_eq_some_iff.1 found
    rw [coherent.2 expansion known] at found
    exact SourceFile.tied engine (SourceFile.coherent_ofRaw? engine _ _ rfl file found)
  · cases location.expansion with
    | none => exact List.nil_subset _
    | some expansion => exact List.Subset.refl _

theorem Cursor.tied (engine : Engine) {cursor : Cursor} (coherent : Coherent engine cursor) :
    Tied (owners cursor : List Owner) cursor.ties := by
  have unit : Lends (owners cursor : List Owner) cursor.unit.resource :=
    ⟨_, .of_mem (.head _), rfl⟩
  refine .cons coherent.1 unit fun tie member => ?_
  obtain ⟨parent, found, rfl⟩ := List.mem_map.1 member
  exact ⟨coherent.2 parent (Option.mem_toList.1 found), unit⟩

/-- A diagnostic keeps those that it is a note of. -/
theorem Diagnostic.tied_handles {held : Held} {anchor : Option Completion} {unit : SourceUnit}
    (ancestors : List DiagnosticHandle) {handle : DiagnosticHandle}
    (within : Within held (.diagnostic ⟨handle, ancestors, anchor, unit⟩)) :
    Tied held ((handle :: ancestors).map fun handle => .handle handle.resource) := by
  induction ancestors generalizing handle with
  | nil => exact .cons rfl ⟨_, within, rfl⟩ .nil
  | cons first rest ih =>
      have above : Within held (.diagnostic ⟨first, rest, anchor, unit⟩) :=
        .lender within (List.mem_append_left _ (List.mem_append_left _ (.head _)))
      exact .cons rfl ⟨_, within, rfl⟩ (ih above)

theorem Diagnostic.tied (d : Diagnostic) : Tied (owners d : List Owner) d.ties := by
  obtain ⟨handle, ancestors, anchor, unit⟩ := d
  have within : Within (owners (⟨handle, ancestors, anchor, unit⟩ : Diagnostic) : List Owner)
      (.diagnostic ⟨handle, ancestors, anchor, unit⟩) := .of_mem (.head _)
  refine .cons rfl ?_ (tied_handles ancestors within)
  cases anchor with
  | none => exact ⟨.unit unit, .lender within (List.mem_append_right _ (.head _)), rfl⟩
  | some results =>
      refine ⟨.completion results, .lender within (List.mem_append_left _ ?_), rfl⟩
      exact List.mem_append_right _ (.head _)

theorem Object.tied {engine : Engine} {object : Object} (coherent : Coherent engine object) :
    Tied (owners object : List Owner) object.ties := by
  cases object with
  | index held => exact .handle (.head _) rfl
  | unit held => exact .handle (.head _) rfl
  | cursor held => exact Cursor.tied engine coherent
  | type held => exact .from_owner (.head _) coherent rfl
  | argumentTypes held => exact .from_owner (.head _) coherent rfl
  | file held => exact SourceFile.tied engine coherent
  | location held => exact SourceLocation.tied engine coherent
  | range held => exact Comes.tied coherent
  | inclusion held =>
      have source := tied_toList fun file found => SourceFile.tied engine (coherent.1 file found)
      have included := SourceFile.tied engine coherent.2.1
      have location := SourceLocation.tied engine coherent.2.2
      refine .append (.append (tied_of_subset source ?_) (tied_of_subset included ?_))
        (tied_of_subset location ?_)
      · exact List.subset_append_of_subset_left _ (List.subset_append_left _ _)
      · exact List.subset_append_of_subset_left _ (List.subset_append_right _ _)
      · exact List.subset_append_right _ _
  | tokens held =>
      obtain ⟨batch, next⟩ := held
      cases batch with
      | none => exact .nil
      | some batch => exact .handle (o := .tokens batch) (.head _) rfl
  | token held => exact .handle (.head _) rfl
  | walk held =>
      refine .flatMap fun k pending => tied_of_subset (Cursor.tied engine (coherent k pending)) ?_
      exact fun o member => List.mem_flatMap.2 ⟨k, pending, member⟩
  | diagnostics held => exact .handle (.head _) rfl
  | diagnostic held => exact held.tied
  | fixIt held => exact Comes.tied coherent
  | completion held => exact .handle (.head _) rfl
  | candidate held => exact .from_owner (.head _) coherent rfl
  | string held => exact .from_owner (.head _) coherent rfl
  | chunk held => exact .from_owner (.head _) coherent.1 rfl
  | database held => exact .handle (.head _) rfl
  | commands held => exact .handle (.head _) rfl
  | command held => exact .from_owner (.head _) coherent rfl

/-! ## What objects keep -/

namespace Inv

variable {engine : Engine} {side : Side} {facts : Facts} {τ : Typing} {held : Held} {w : World}
variable {roots : CellRefs} {r s : Resource}

/-- What some references of the thread keep is owned by a cell of the thread that they lead to. -/
theorem owner_of_keeps (inv : Inv engine side facts τ held w)
    (here : ∀ c ∈ roots, side.first ≤ c) (kept : w.Keeps roots r) :
    ∃ c ∈ roots, ∃ d o entry, ReflTransGen w.PointsTo c d ∧ w.find? d = some entry ∧ τ d = some o ∧
      o.resource = some r ∧ side.first ≤ d := by
  obtain ⟨c, root, d, chain, owned⟩ := kept
  have there : side.first ≤ d := inv.first_le_of_chain (here c root) chain
  obtain ⟨entry, o, found, owns, mine⟩ := Books.owner_of_resourceAt inv.heap there owned
  exact ⟨c, root, d, o, entry, chain, found, owns, mine, there⟩

/-- Whoever keeps a resource keeps what it borrows from. -/
theorem keeps_lender (inv : Inv engine side facts τ held w)
    (here : ∀ c ∈ roots, side.first ≤ c) (kept : w.Keeps roots r) (borrows : Borrows w.trace r s) :
    w.Keeps roots s := by
  obtain ⟨c, root, d, o, entry, chain, found, owns, mine, there⟩ := inv.owner_of_keeps here kept
  obtain ⟨p, lends, source⟩ :=
    Owner.exists_lender_of_source (inv.books.borrow owns mine borrows)
  obtain ⟨-, entry', found', describes⟩ := inv.heap.alive_of_lends found owns lends
  refine ⟨c, root, p.cell, chain.tail ⟨entry, found, ?_⟩, ?_⟩
  · rw [(inv.heap.describes found owns).2.refs_eq (by rw [mine]; rfl)]
    exact List.mem_map_of_mem lends
  · rw [World.resourceAt_eq found', describes.1, source]

theorem isOut_of_keeps (inv : Inv engine side facts τ held w)
    (here : ∀ c ∈ roots, side.first ≤ c) (kept : w.Keeps roots r) : IsOut w.trace r := by
  obtain ⟨c, -, d, o, entry, -, found, owns, mine, there⟩ := inv.owner_of_keeps here kept
  refine inv.books.out.2 (.inr ⟨d, there, ?_⟩)
  rw [World.resourceAt_eq found, (inv.heap.describes found owns).2.1, mine]

/-- What is within reach of some owners is kept by the references to their cells. -/
theorem keeps_of_lends (inv : Inv engine side facts τ held w) {own : List Owner}
    (alive : ∀ o ∈ own, τ.Owns o ∧ ∃ entry, w.find? o.cell = some entry) (lends : Lends own r) :
    w.Keeps (own.map Owner.cell) r := by
  obtain ⟨o, within, mine⟩ := lends
  have reach {o : Owner} (within : Within own o) :
      (τ.Owns o ∧ ∃ entry, w.find? o.cell = some entry) ∧
        ∃ c ∈ own.map Owner.cell, ReflTransGen w.PointsTo c o.cell := by
    induction within with
    | held member =>
        have member := Multiset.mem_coe.1 member
        exact ⟨alive _ member, _, List.mem_map_of_mem member, .refl⟩
    | @lender p q _ lends ih =>
        obtain ⟨⟨owns, entry, found⟩, c, root, chain⟩ := ih
        obtain ⟨ownsQ, entry', found', -⟩ := inv.heap.alive_of_lends found owns lends
        refine ⟨⟨ownsQ, entry', found'⟩, c, root, chain.tail ⟨entry, found, ?_⟩⟩
        rw [(inv.heap.describes found owns).2.refs_eq (isSome_of_mem_lenders lends)]
        exact List.mem_map_of_mem lends
  obtain ⟨⟨owns, entry, found⟩, c, root, chain⟩ := reach within
  have owned := (inv.heap.describes found owns).2.1
  exact ⟨c, root, o.cell, chain, (World.resourceAt_eq found).trans (owned.trans mine)⟩

/-- An object whose references lead to cells that have not been freed is secured by them. -/
theorem secures (inv : Inv engine side facts τ held w) {object : Object}
    (coherent : Coherent engine object)
    (alive : ∀ o ∈ owners object, τ.Owns o ∧ ∃ entry, w.find? o.cell = some entry) :
    w.Secures object := by
  have here : ∀ c ∈ refs object, side.first ≤ c := by
    intro c member
    rw [Entity.refs_eq] at member
    obtain ⟨o, there, rfl⟩ := List.mem_map.1 member
    exact (inv.heap.within (alive o there).1).1
  refine ⟨fun tie member => ?_, fun r s => inv.keeps_lender here, fun r => inv.isOut_of_keeps here⟩
  obtain ⟨same, lends⟩ := Object.tied coherent tie member
  rw [same, Entity.refs_eq]
  exact ⟨rfl, inv.keeps_of_lends alive lends⟩

end Inv

theorem CursorMemo.mem_objects {memo : CursorMemo} {object : Object} :
    object ∈ memo.objects ↔ (∃ l ∈ memo.location, .location l = object) ∨
      (∃ r ∈ memo.extent, .range r = object) ∨ (∃ t ∈ memo.type, .type t = object) ∨
      ∃ c, (c ∈ memo.canonical ∨ some c ∈ memo.semanticParent ∨ some c ∈ memo.lexicalParent) ∧
        .cursor c = object := by
  simp only [objects, List.mem_append, List.mem_map, Option.mem_toList, Option.mem_def,
    Option.join_eq_some_iff, or_assoc]

/-- A memo refers to what its objects refer to. -/
theorem CursorMemo.owners_eq (memo : CursorMemo) : memo.owners = Entity.owners memo.objects := by
  have wrapped {α : Type} [Holder α] [Likeness α] [Entity α] {f : α → Object}
      (same : ∀ a, Entity.owners (f a) = Entity.owners a) (value : Option α) :
      (value.toList.map f).flatMap Entity.owners = Entity.owners value := by
    cases value with
    | none => rfl
    | some a => exact (List.append_nil _).trans (same a)
  have joined (value : Option (Option Cursor)) :
      Entity.owners value.join = Entity.owners value := by
    cases value <;> rfl
  show _ = memo.objects.flatMap Entity.owners
  simp only [objects, List.map_append, List.flatMap_append, wrapped (f := .location) fun _ => rfl,
    wrapped (f := .range) fun _ => rfl, wrapped (f := .type) fun _ => rfl,
    wrapped (f := .cursor) fun _ => rfl, joined, owners, List.append_assoc]

theorem CursorMemo.owners_subset {memo : CursorMemo} {object : Object}
    (member : object ∈ memo.objects) : Entity.owners object ⊆ memo.owners := by
  intro o there
  rw [memo.owners_eq]
  exact List.mem_flatMap.2 ⟨object, member, there⟩

/-- The objects in the memo of a cursor belong to the cursor's unit. -/
theorem Cursor.Remembers.coherent_objects {engine : Engine} {τ : Typing} {k : Cursor}
    {memo : CursorMemo} (remembers : k.Remembers engine τ memo) (coherent : Coherent engine k)
    {object : Object} (member : object ∈ memo.objects) : Coherent engine object := by
  have origin : k.raw.origin = k.unit.resource := coherent.1
  have linked {c : Cursor} {target : Ref} (leads : k.LeadsTo τ target c) :
      Coherent engine (Object.cursor c) := by
    obtain ⟨raw, unit, parent, -⟩ := leads
    refine ⟨?_, fun p found => ?_⟩
    · rw [raw, unit]
      exact origin
    · rw [parent] at found
      exact nomatch found
  rcases CursorMemo.mem_objects.1 member with
    ⟨l, found, rfl⟩ | ⟨r, found, rfl⟩ | ⟨t, found, rfl⟩ | ⟨c, found | found | found, rfl⟩
  · obtain ⟨raw, unit, anchor, known⟩ := remembers.location l found
    refine ⟨?_, known⟩
    rw [anchor]
    exact .of_unit (by rw [raw, unit]; exact origin)
  · obtain rfl := remembers.extent r found
    exact .of_unit origin
  · obtain rfl := remembers.type t found
    exact origin
  · exact linked (remembers.canonical c found)
  · exact linked ((remembers.semanticParent _ found).2 c rfl)
  · exact linked ((remembers.lexicalParent _ found).2 c rfl)

theorem World.pointsTo_of_objects {w : World} {c d : CellId} {entry : Entry}
    (found : w.find? c = some entry) {memo : CursorMemo} (content : entry.content = .memo memo)
    {object : Object} (member : object ∈ memo.objects) (root : d ∈ refs object) :
    w.PointsTo c d := by
  refine ⟨entry, found, ?_⟩
  rw [content, show refs (Content.memo memo) = refs memo from rfl, memo.refs_eq]
  rw [Entity.refs_eq] at root
  exact List.map_subset _ (CursorMemo.owners_subset member) root

namespace Inv

variable {engine : Engine} {side : Side} {facts : Facts} {τ : Typing} {held : Held} {w : World}

/-- The objects in the memos of the thread are secured. -/
theorem secures_memo (inv : Inv engine side facts τ held w) {c : CellId} (here : side.first ≤ c)
    {entry : Entry} (found : w.find? c = some entry) {memo : CursorMemo}
    (content : entry.content = .memo memo) {object : Object} (member : object ∈ memo.objects) :
    w.Secures object := by
  obtain ⟨k, owns, remembers⟩ := inv.heap.memo here found content
  obtain ⟨coherent, unit⟩ := inv.heap.sound.cursor owns
  refine inv.secures (remembers.coherent_objects coherent member) fun p there => ⟨?_, ?_⟩
  · rcases remembers.mem_owners (CursorMemo.owners_subset member there) with
      rfl | ⟨d, rfl, -, -, ownsD⟩
    · exact unit
    · exact ownsD
  · refine (inv.pointsTo here (World.pointsTo_of_objects found content member ?_)).2
    rw [Entity.refs_eq]
    exact List.mem_map_of_mem there

end Inv

/-! ## Objects of threads around -/

section Older

variable {start w : World} {c d : CellId} {roots : CellRefs} {r : Resource}

theorem World.PointsTo.of_same (same : w.find? c = start.find? c) (points : w.PointsTo c d) :
    start.PointsTo c d := by
  obtain ⟨entry, found, member⟩ := points
  exact ⟨entry, same.symm.trans found, member⟩

/-- What older references keep stays the same as long as the cells do. -/
theorem World.keeps_iff_older (ordered : start.Ordered)
    (older : ∀ c, c < start.cells.size → w.find? c = start.find? c)
    (before : ∀ c ∈ roots, c < start.cells.size) : w.Keeps roots r ↔ start.Keeps roots r := by
  have forth {c d : CellId} (bound : c < start.cells.size)
      (chain : ReflTransGen w.PointsTo c d) :
      ReflTransGen start.PointsTo c d ∧ d < start.cells.size := by
    induction chain with
    | refl => exact ⟨.refl, bound⟩
    | tail _ points ih =>
        have points := points.of_same (older _ ih.2)
        exact ⟨ih.1.tail points, ordered.2 _ _ points⟩
  have back {c d : CellId} (bound : c < start.cells.size)
      (chain : ReflTransGen start.PointsTo c d) :
      ReflTransGen w.PointsTo c d ∧ d < start.cells.size := by
    induction chain with
    | refl => exact ⟨.refl, bound⟩
    | tail _ points ih =>
        exact ⟨ih.1.tail (points.of_same (older _ ih.2).symm), ordered.2 _ _ points⟩
  have resource {d : CellId} (bound : d < start.cells.size) :
      w.resourceAt d = start.resourceAt d := by
    rw [resourceAt, resourceAt, older d bound]
  constructor
  · rintro ⟨c, root, d, chain, owned⟩
    obtain ⟨chain, bound⟩ := forth (before c root) chain
    exact ⟨c, root, d, chain, (resource bound).symm.trans owned⟩
  · rintro ⟨c, root, d, chain, owned⟩
    obtain ⟨chain, bound⟩ := back (before c root) chain
    exact ⟨c, root, d, chain, (resource bound).trans owned⟩

/-- Objects of the threads around stay secured. -/
theorem Inv.secures_older {engine : Engine} {side : Side} {facts : Facts} {τ : Typing}
    {held : Held} (inv : Inv engine side facts τ held w) (ordered : side.start.Ordered)
    {object : Object} (before : ∀ c ∈ refs object, c < side.first)
    (secures : side.start.Secures object) : w.Secures object := by
  have keeps (r : Resource) : w.Keeps (refs object) r ↔ side.start.Keeps (refs object) r :=
    World.keeps_iff_older ordered (fun _ => inv.books.older) before
  obtain ⟨newer, trace⟩ := inv.books.suffix
  refine ⟨fun tie member => ?_, fun r s kept borrows => ?_, fun r kept => ?_⟩
  · rw [keeps]
    exact secures.tied tie member
  · rw [keeps] at kept ⊢
    refine secures.lender r s kept (Borrows.of_later newer (trace ▸ borrows) ?_)
    have clean : Clean (newer ++ side.start.trace) := trace ▸ inv.books.clean
    exact clean.acquired_not_mem_newer (secures.out r kept).1
  · rw [keeps] at kept
    exact inv.books.out.2 (.inl (secures.out r kept))

end Older

/-! ## Sessions -/

/-- Whether all objects in the memos of a store are secured. -/
def World.SecuresMemos (w : World) : Prop :=
  ∀ c entry memo, w.find? c = some entry → entry.content = .memo memo →
    ∀ object ∈ memo.objects, w.Secures object

/-- A thread that begins finds the cells and the trace as they are. -/
theorem World.SecuresMemos.thread {w : World} (secures : w.SecuresMemos) :
    w.thread.SecuresMemos := by
  intro c entry memo found content object member
  obtain ⟨tied, lender, out⟩ := secures c entry memo found content object member
  exact ⟨tied, lender, out⟩

theorem Inv.securesMemos {engine : Engine} {side : Side} {facts : Facts} {τ : Typing}
    {held : Held} {w : World} (inv : Inv engine side facts τ held w)
    (ordered : side.start.Ordered) (before : side.start.SecuresMemos) : w.SecuresMemos := by
  intro c entry memo found content object member
  by_cases older : c < side.first
  · have found' : side.start.find? c = some entry := (inv.books.older older).symm.trans found
    refine inv.secures_older ordered (fun d root => ?_) (before c entry memo found' content _ member)
    exact ordered.2 _ _ (World.pointsTo_of_objects found' content member root)
  · exact inv.secures_memo (Nat.le_of_not_lt older) found content member

namespace Session.Reached

variable {setting : Setting} {begin state : State}

theorem securesMemos_begin (reached : Reached setting begin state) :
    begin.world.SecuresMemos := by
  refine reached.begins (fun c entry memo found => ?empty) fun reached before => ?enter
  case empty => exact absurd (World.lt_size_of_find? found) (Nat.not_lt_zero c)
  case enter =>
    obtain ⟨_, _, inv⟩ := reached.inv
    exact (inv.securesMemos reached.ordered_begin before).thread

theorem secures_slot (reached : Reached setting begin state) :
    ∀ slot ∈ state.slots, state.world.Secures slot.2 := by
  obtain ⟨_, _, inv⟩ := reached.inv
  intro slot member
  refine inv.secures (reached.coherent slot member) fun o there => ?_
  have held : o ∈ owners state.slots.objects :=
    List.mem_flatMap.2 ⟨_, List.mem_map_of_mem member, there⟩
  obtain ⟨owns, entry, found, -⟩ := inv.alive (.of_mem held)
  exact ⟨owns, entry, found⟩

end Session.Reached

/-- Whether all that the events of a trace need is out when they happen: what they are about, and
for a resource that is given back what it borrows from. -/
def UsesWhatIsOut (trace : List Event) : Prop :=
  ∀ newer event older, trace = newer ++ event :: older →
    ∀ r, event.Uses older r → IsOut older r

/-- Whether everything was given back in the end. The log is listed newest first. -/
structure Closed (log : List Event) : Prop where
  once : ∀ r, .acquired r ∈ log → log.count (.acquired r) = 1 ∧ log.count (.disposed r) = 1
  acquired : ∀ r, .disposed r ∈ log → .acquired r ∈ log
  /-- What is given back was handed out before. -/
  after : ∀ r, .acquired r ∈ log →
    ∃ newest newer older, log = newest ++ .disposed r :: newer ++ .acquired r :: older
  /-- What is handed out was asked for just before, with what it borrows from. -/
  asked : ∀ r, .acquired r ∈ log →
    ∃ newer event older, log = newer ++ .acquired r :: event :: older ∧ event.Provides r.kind
  /-- What borrows, directly or not, is given back before what it borrows from. -/
  ordered : ∀ r s, TransGen (Borrows log) r s →
    ∃ newest newer older, log = newest ++ .disposed s :: newer ++ .disposed r :: older

namespace Clean

variable {log : List Event} {r s : Resource}

/-- What a resource borrows from has been acquired as well. -/
theorem acquired_lender (clean : Clean log) (borrows : Borrows log r s) :
    .acquired s ∈ log := by
  induction borrows with
  | acquired operand =>
      exact .tail _ (.tail _ (clean.1.2.uses _ (.operand operand)).1)
  | later _ ih => exact .tail _ (ih clean.1)

/-- If everything was given back, then it was in order. -/
theorem disposed_in_order_trans (clean : Clean log)
    (gone : ∀ r, .acquired r ∈ log → .disposed r ∈ log) (chain : TransGen (Borrows log) r s) :
    ∃ newest newer older, log = newest ++ .disposed s :: newer ++ .disposed r :: older := by
  induction chain with
  | single borrows =>
      exact clean.disposed_in_order borrows (gone _ borrows.acquired_mem)
        (gone _ (clean.acquired_lender borrows))
  | @tail s t _ borrows ih =>
      obtain ⟨a, b, c, split⟩ := ih
      obtain ⟨a', b', c', split'⟩ := clean.disposed_in_order borrows (gone _ borrows.acquired_mem)
        (gone _ (clean.acquired_lender borrows))
      -- the resource in the middle is given back once
      have same : a ++ .disposed s :: (b ++ .disposed r :: c) =
          (a' ++ .disposed t :: b') ++ .disposed s :: c' := by
        rw [← split', split, List.append_assoc, List.cons_append]
      have once := clean.count_disposed_le_one s
      have first : .disposed s ∉ a := by
        intro member
        have := List.count_pos_iff.2 member
        rw [split] at once
        simp only [List.count_append, List.count_cons_self] at once
        omega
      have last : .disposed s ∉ b ++ .disposed r :: c := by
        have clean : Clean (a ++ .disposed s :: (b ++ .disposed r :: c)) := by
          rwa [split, List.append_assoc, List.cons_append] at clean
        exact clean.not_disposed_before
      obtain ⟨rfl, -, -⟩ := (List.append_cons_inj_of_notMem first last).1 same
      exact ⟨a', b' ++ .disposed s :: b, c, by simp [split]⟩

/-- If everything was given back, then the log is closed. -/
theorem closed (clean : Clean log) (gone : ∀ r, .acquired r ∈ log → .disposed r ∈ log) :
    Closed log where
  once r found :=
    ⟨Nat.le_antisymm (clean.count_acquired_le_one r) (List.count_pos_iff.2 found),
      Nat.le_antisymm (clean.count_disposed_le_one r) (List.count_pos_iff.2 (gone r found))⟩
  acquired _ := clean.acquired_of_disposed
  after r found := by
    obtain ⟨newest, rest, rfl⟩ := List.append_of_mem (gone r found)
    obtain ⟨newer, older, rfl⟩ := List.append_of_mem clean.acquired_before
    exact ⟨newest, newer, older, by simp⟩
  asked r found := by
    obtain ⟨newer, rest, rfl⟩ := List.append_of_mem found
    obtain ⟨event, older, rfl, provides⟩ := (clean.tail.2.acquires r rfl).2
    exact ⟨newer, event, older, rfl, provides⟩
  ordered _ _ := clean.disposed_in_order_trans gone

end Clean

/-- When the first thread holds nothing any more, all that was acquired has been disposed of. -/
theorem Inv.closed {engine : Engine} {remembers : Bool} {past : List Event} {facts : Facts}
    {τ : Typing} {w : World} (inv : Inv engine ⟨remembers, {}, past⟩ facts τ 0 w) :
    Closed w.trace := by
  refine inv.books.clean.closed fun r found => ?_
  by_contra kept
  rcases inv.books.out.1 ⟨found, kept⟩ with before | ⟨c, here, owned⟩
  · exact absurd before.1 List.not_mem_nil
  · rw [World.resourceAt, inv.find?_eq_none here] at owned
    cases owned

/-- The state at the end of a session, when all slots have been emptied. -/
def Session.ended (setting : Setting) (steps : List Step) : State :=
  let (state, reports) := State.steps setting {} steps
  (state.finishThread reports).1

/-- All that has passed to the engine and back when a session ends, newest first. -/
def Session.log (setting : Setting) (steps : List Step) : List Event :=
  (Session.ended setting steps).world.trace

theorem Session.ended_inv (setting : Setting) (steps : List Step) :
    ∃ facts τ, Inv setting.engine ⟨setting.remembers, {}, []⟩ facts τ 0
      (Session.ended setting steps).world := by
  have reached : Session.Reached setting {} (Session.ended setting steps) :=
    (Session.Reached.start.steps steps).finish _
  have empty : (Session.ended setting steps).slots = [] := State.slots_clearAll _
  obtain ⟨facts, τ, inv⟩ := reached.inv
  rw [empty] at inv
  exact ⟨facts, τ, inv⟩

/-- When a session or a run of the program ends, each resource that was acquired has been disposed
of once, and before any resource that it borrows from. -/
theorem everything_given_back (setting : Setting) :
    (∀ steps, Closed (Session.log setting steps)) ∧
      ∀ files words, Closed (runProgram setting files words).events.reverse := by
  constructor
  · intro steps
    obtain ⟨_, _, inv⟩ := Session.ended_inv setting steps
    exact inv.closed
  · intro files words
    obtain ⟨_, _, w, inv, events⟩ := runProgram_inv setting files words
    rw [events]
    exact inv.closed

end SourceAtlas
