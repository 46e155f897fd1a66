import SourceAtlas.Proofs.Batches
import SourceAtlas.Proofs.Bridge
import SourceAtlas.Proofs.Constants
import SourceAtlas.Proofs.Exclusivity
import SourceAtlas.Proofs.Objects
import SourceAtlas.Proofs.Sentinels

/-!
# Null cursors

Cursors are made from answers of the engine. Most queries look whether the answer is null first. The
root of a unit and the canonical cursor are not looked at, so that an engine must not answer a null
one there. Then no object of a session is a null cursor, nor is any cursor that is pending in a
walk, remembered in a memo or kept as the parent of another one.
-/

namespace SourceAtlas

open Act Relation

/-- Whether an engine answers cursors that are not null where nothing looks whether they are. -/
structure Engine.Rooted (engine : Engine) : Prop where
  root : ∀ table, (engine.unit table).root ≠ none
  canonical : ∀ i, engine.cursorLink (some i) .canonical ≠ none

/-- Whether neither a cursor nor its parent is null. -/
structure Cursor.Present (k : Cursor) : Prop where
  value : k.raw.value ≠ none
  parent : ∀ p ∈ k.parent, p.value ≠ none

/-- The cursors that an object is made of. -/
def Object.cursors : Object → List Cursor
  | .cursor held => [held]
  | .walk held => held.pending
  | _ => []

/-- Whether no cursor of an object is null. -/
def Object.Present (object : Object) : Prop :=
  ∀ k ∈ object.cursors, k.Present

/-- Whether no cursor in a memo is null. -/
def World.PresentMemos (w : World) : Prop :=
  ∀ c entry memo, w.find? c = some entry → entry.content = .memo memo →
    ∀ object ∈ memo.objects, object.Present

/-! ## What memos hold -/

/-- Only cursors and walks refer to the memos of cursors. -/
theorem Object.cursor_mem_owners {object : Object} {k : Cursor} :
    .cursor k ∈ owners object ↔ k ∈ object.cursors := by
  cases object <;> simp [cursors, Entity.owners, heldOwners, mem_elim_nil, eq_comm]

theorem Object.present_cursor {k : Cursor} : (Object.cursor k).Present ↔ k.Present :=
  List.forall_mem_singleton

namespace Inv

variable {engine : Engine} {side : Side} {facts : Facts} {τ : Typing} {held : Held} {w : World}
variable {k : Cursor} {memo : CursorMemo}

/-- What a memo remembers is present if its cursor is. -/
theorem present_objects (rooted : engine.Rooted) (present : k.raw.value ≠ none)
    (remembers : k.Remembers engine τ memo) {object : Object} (member : object ∈ memo.objects) :
    object.Present := by
  have linked {c : Cursor} {target : Ref} (leads : k.LeadsTo τ target c) (some : target ≠ none) :
      (Object.cursor c).Present := by
    obtain ⟨raw, -, parent, -⟩ := leads
    refine Object.present_cursor.2 ⟨by rwa [raw], fun p found => ?_⟩
    rw [parent] at found
    exact nomatch found
  have perhaps {c : Cursor} {target : Ref} (leads : k.MayLeadTo τ target (.some c)) :
      (Object.cursor c).Present :=
    linked (leads.2 c rfl) (Option.isSome_iff_ne_none.1 leads.1.symm)
  rcases CursorMemo.mem_objects.1 member with
    ⟨l, -, rfl⟩ | ⟨r, -, rfl⟩ | ⟨t, -, rfl⟩ | ⟨c, found | found | found, rfl⟩
  iterate 3 exact fun _ absent => absurd absent List.not_mem_nil
  · refine linked (remembers.canonical c found) ?_
    obtain ⟨i, same⟩ := Option.ne_none_iff_exists'.1 present
    rw [same]
    exact rooted.canonical i
  · exact perhaps (remembers.semanticParent _ found)
  · exact perhaps (remembers.lexicalParent _ found)

/-- A cursor is present if its memo is reached from cursors that are. -/
theorem present_of_chain (inv : Inv engine side facts τ held w) (rooted : engine.Rooted)
    (present : ∀ k, .cursor k ∈ held → k.raw.value ≠ none) {o : Owner} (member : o ∈ held) {c : CellId}
    (chain : ReflTransGen w.PointsTo o.cell c) (owns : τ c = some (.cursor k)) :
    k.raw.value ≠ none := by
  have owned := (inv.alive (.held member)).1
  have here := (inv.heap.within owned).1
  induction chain generalizing k with
  | refl =>
      obtain rfl : o = .cursor k := Option.some.inj (owned.symm.trans owns)
      exact present k member
  | @tail d c chain points ih =>
      obtain ⟨entry, found, ref⟩ := points
      have there := inv.first_le_of_chain here chain
      obtain ⟨-, p, ownsP, -⟩ := inv.heap.described there found
      obtain ⟨k', memo, rfl, -, remembers, object, member, belongs⟩ :=
        inv.remembered_of_refers there found ownsP ref owns
      have presentObject := present_objects rooted (ih ownsP) remembers member
      exact (presentObject k (Object.cursor_mem_owners.1 belongs)).value

/-- The memos of the thread only remember cursors that are present. -/
theorem present_memo (inv : Inv engine side facts τ held w) (rooted : engine.Rooted)
    (present : ∀ k, .cursor k ∈ held → k.raw.value ≠ none) {c : CellId} (here : side.first ≤ c)
    {entry : Entry} (found : w.find? c = some entry) (content : entry.content = .memo memo)
    {object : Object} (member : object ∈ memo.objects) : object.Present := by
  obtain ⟨k, owns, remembers⟩ := inv.heap.memo here found content
  obtain ⟨o, held, chain⟩ := inv.exists_chain here found
  exact present_objects rooted (inv.present_of_chain rooted present held chain owns) remembers member

/-- No memo remembers a null cursor if none of the threads around did. -/
theorem presentMemos (inv : Inv engine side facts τ held w) (rooted : engine.Rooted)
    (present : ∀ k, .cursor k ∈ held → k.raw.value ≠ none) (before : side.start.PresentMemos) :
    w.PresentMemos := by
  intro c entry memo found content object member
  by_cases older : c < side.first
  · exact before c entry memo ((inv.books.older older).symm.trans found) content object member
  · exact inv.present_memo rooted present (Nat.le_of_not_lt older) found content member

end Inv

/-! ## What is handed out -/

theorem Object.present_of_empty {object : Object} (empty : object.cursors = []) :
    object.Present := by
  rw [Present, empty]
  exact fun _ absent => absurd absent List.not_mem_nil

/-- What a quiet action returns is known where the store is in order. -/
theorem Act.Quiet.returnsFrom {engine : Engine} {side : Side} {facts : Facts} {held : Held}
    {α : Type} {x : Act α} {more : α → List Owner} {R : α → Prop} {w : World}
    (quiet : Quiet engine side held x more R) (inv : At engine side held facts w) :
    ReturnsFrom (side.setting engine) w x R := by
  intro a v ran
  obtain ⟨b, u, ran', holds, -⟩ := quiet facts w inv
  obtain ⟨⟨⟩, -⟩ := Prod.mk.inj (ran.symm.trans ran')
  exact holds

namespace Cursor

theorem IsNew.present {raw : Raw Ref} {unit : SourceUnit} {k : Cursor} (new : k.IsNew raw unit none)
    (value : raw.value ≠ none) : k.Present := by
  obtain ⟨rfl, -, parent⟩ := new
  refine ⟨value, fun p found => ?_⟩
  rw [parent] at found
  exact absurd found (Option.not_mem_none p)

theorem returns_make {raw : Raw Ref} {parent : Option (Raw Ref)} (value : raw.value ≠ none)
    (above : ∀ p ∈ parent, p.value ≠ none) (unit : SourceUnit) :
    (make raw unit parent).Returns Present := by
  rintro setting w _ _ ⟨⟩
  exact ⟨value, above⟩

theorem returns_ofRaw? (raw : Raw Ref) (unit : SourceUnit) :
    (ofRaw? raw unit).Returns fun found => ∀ k ∈ found, k.Present := by
  unfold ofRaw?
  split
  next some =>
    refine (returns_make (Option.isSome_iff_ne_none.1 some) ?_ unit).map fun k present => ?_
    · exact fun _ absent => absurd absent (Option.not_mem_none _)
    · rintro _ ⟨⟩
      exact present
  next => exact .pure fun _ absent => absurd absent (Option.not_mem_none _)

/-- What is visited is present, and so are the parents that are kept. -/
theorem returns_ofVisits (nodes : List (Nat × Ref)) (origin : Resource) (unit : SourceUnit) :
    (ofVisits nodes origin unit).Returns fun found => ∀ k ∈ found, k.Present := by
  unfold ofVisits
  refine Returns.mapM (fun node => returns_make ?_ ?_ unit) nodes
  · exact Option.some_ne_none _
  · rintro _ found
    obtain ⟨p, -, rfl⟩ := Option.map_eq_some_iff.1 found
    exact Option.some_ne_none _

theorem returns_linked (k : Cursor) (link : CursorLink) :
    (k.linked link).Returns fun found => ∀ c ∈ found, c.Present :=
  .bind fun _ => returns_ofRaw? _ _

theorem returns_visitParent {k : Cursor} (present : k.Present) :
    k.visitParent.Returns fun found => ∀ c ∈ found, c.Present := by
  unfold visitParent
  split
  next raw above =>
    refine (returns_make (present.parent raw above) ?_ k.unit).map fun c present => ?_
    · exact fun _ absent => absurd absent (Option.not_mem_none _)
    · rintro _ ⟨⟩
      exact present
  next => exact .pure fun _ absent => absurd absent (Option.not_mem_none _)

theorem returns_arguments (k : Cursor) :
    k.arguments.Returns fun found => ∀ c ∈ found, c.Present := by
  refine .bind fun count => (Returns.mapM (fun i => .bind fun raw => returns_ofRaw? _ _) _).after ?_
  refine fun found each => .pure fun c member => ?_
  obtain ⟨_, there, same⟩ := List.mem_filterMap.1 member
  exact each _ there c same

theorem returns_children (k : Cursor) : k.children.Returns fun found => ∀ c ∈ found, c.Present :=
  .bind fun _ => .bind fun _ => returns_ofVisits _ _ _

theorem returns_atLocation (location : SourceLocation) :
    (atLocation location).Returns fun found => ∀ c ∈ found, c.Present := by
  unfold atLocation
  split
  next => exact .bind fun _ => .bind fun _ => .bind fun _ => .bind fun _ => returns_ofRaw? _ _
  next => exact .bind fun _ => .bind fun _ => .bind fun _ => returns_ofRaw? _ _

end Cursor

namespace SourceType

theorem returns_declarationRaw? (type : SourceType) :
    type.declarationRaw?.Returns fun found => ∀ raw ∈ found, raw.value ≠ none := by
  refine .bind fun raw => ?_
  split
  next => exact .pure fun _ absent => absurd absent (Option.not_mem_none _)
  next some =>
    refine .bind fun kind => .pure fun found is => ?_
    split at is
    · exact absurd is (Option.not_mem_none _)
    · obtain rfl := Option.some.inj is
      simpa using some

theorem returns_declaration (type : SourceType) :
    type.declaration.Returns fun found => ∀ c ∈ found, c.Present := by
  refine type.returns_declarationRaw?.after fun found present => ?_
  cases found with
  | none => exact .pure fun _ absent => absurd absent (Option.not_mem_none _)
  | some raw =>
      refine (Cursor.returns_make (present raw rfl) ?_ type.unit).map fun c present => ?_
      · exact fun _ absent => absurd absent (Option.not_mem_none _)
      · rintro _ ⟨⟩
        exact present

theorem returns_fields (type : SourceType) :
    type.fields.Returns fun found => ∀ c ∈ found, c.Present :=
  .bind fun _ => .bind fun _ => Cursor.returns_ofVisits _ _ _

end SourceType

theorem Token.returns_cursor (token : Token) :
    token.cursor.Returns fun found => ∀ c ∈ found, c.Present :=
  .bind fun _ => Cursor.returns_ofRaw? _ _

/-! ## Walks -/

namespace Walk

variable {walk : Walk}

theorem returns_make {root : Cursor} (present : root.Present) :
    (make root).Returns fun walk => (Object.walk walk).Present :=
  (Returns.keep present).after fun _ present => .pure (List.forall_mem_singleton.2 present)

theorem present_advance (present : (Object.walk walk).Present) :
    walk.advance.Returns fun result => (Object.walk result.1).Present ∧
      ∀ found, result.2 = .ok found → ∀ k ∈ found, k.Present := by
  unfold advance
  cases last : walk.pending.getLast? with
  | none =>
      refine .pure ⟨present, ?_⟩
      rintro _ ⟨⟩
      exact fun _ absent => absurd absent (Option.not_mem_none _)
  | some node =>
      have others : ∀ k ∈ walk.pending.dropLast, k.Present :=
        fun k member => present k (List.mem_of_mem_dropLast member)
      have visits : (attempt node.children).Returns fun result =>
          ∀ children, result = .ok children → ∀ k ∈ children, k.Present := by
        rintro setting w _ _ ⟨⟩ children visited
        exact node.returns_children setting w children _ (Prod.ext visited rfl)
      refine visits.after fun result sound => ?_
      cases result with
      | ok children =>
          refine .pure ⟨?_, ?_⟩
          · refine List.forall_mem_append.2 ⟨others, fun k member => ?_⟩
            exact sound children rfl k (List.mem_reverse.1 member)
          · rintro _ ⟨⟩ _ ⟨⟩
            exact present node (List.mem_of_getLast? last)
      | error fault => exact .bind fun _ => .pure ⟨others, fun _ absent => nomatch absent⟩

theorem present_loop (turns : Nat) {yielded : List Cursor} (present : (Object.walk walk).Present)
    (before : ∀ k ∈ yielded, k.Present) :
    (drain.loop turns walk yielded).Returns fun result => (Object.walk result.1).Present ∧
      ∀ found, result.2 = .ok found → ∀ k ∈ found, k.Present := by
  have all : ∀ k ∈ yielded.reverse, k.Present := fun k member => before k (List.mem_reverse.1 member)
  induction turns generalizing walk yielded with
  | zero => exact .pure ⟨present, by rintro _ ⟨⟩; exact all⟩
  | succ turns ih =>
      refine (present_advance present).after ?_
      rintro ⟨next, fault | _ | node⟩ ⟨still, found⟩
      · exact .bind fun _ => .pure ⟨still, fun _ absent => nomatch absent⟩
      · exact .pure ⟨still, by rintro _ ⟨⟩; exact all⟩
      · have more : ∀ k ∈ node :: yielded, k.Present :=
          List.forall_mem_cons.2 ⟨found _ rfl node rfl, before⟩
        exact ih still more fun k member => more k (List.mem_reverse.1 member)

theorem present_turn (present : (Object.walk walk).Present) (query : WalkQuery) :
    (walk.turn query).Returns (Turn.Each Object.Present) := by
  cases query with
  | next =>
      refine (present_advance present).after fun result sound => .pure ⟨sound.1, ?_⟩
      obtain ⟨walk, fault | found⟩ := result <;> rintro _ ⟨⟩
      exact .optional fun k member => Object.present_cursor.2 (sound.2 found rfl k member)
  | rest =>
      have none : ∀ k ∈ ([] : List Cursor), k.Present :=
        fun _ absent => absurd absent List.not_mem_nil
      have drains : walk.drain.Returns _ := .bind fun _ => present_loop _ present none
      refine drains.after fun result sound => .pure ⟨sound.1, ?_⟩
      obtain ⟨walk, fault | found⟩ := result <;> rintro _ ⟨⟩
      exact .list fun k member => Object.present_cursor.2 (sound.2 found rfl k member)

end Walk

/-! ## Answers -/

section Answers

variable {engine : Engine} {side : Side} {facts : Facts} {held : Held} {w : World}

theorem Answer.present_optional {found : Option Cursor} (present : ∀ k ∈ found, k.Present) :
    (Answer.optional .cursor found).Each Object.Present :=
  .optional fun k member => Object.present_cursor.2 (present k member)

theorem Answer.present_list {found : List Cursor} (present : ∀ k ∈ found, k.Present) :
    (Answer.list .cursor found).Each Object.Present :=
  .list fun k member => Object.present_cursor.2 (present k member)

theorem Cursor.present_answer {k : Cursor} (rooted : engine.Rooted)
    (inv : At engine side held facts w) (usable : Usable engine held k) (present : k.Present)
    (query : CursorQuery) :
    (k.answer query).ReturnsFrom (side.setting engine) w (Answer.Each Object.Present) := by
  have parents {raw : Raw Ref} {found : Option Cursor} (stands : MayBeNew raw k.unit found) :
      (Answer.optional .cursor found).Each Object.Present := by
    refine Answer.present_optional fun c member => (stands.2 c member).present ?_
    rw [← Option.isSome_iff_ne_none, ← stands.1]
    exact Option.isSome_iff_exists.2 ⟨c, member⟩
  cases query with
  | canonical =>
      obtain ⟨i, value⟩ := Option.ne_none_iff_exists'.1 present.value
      unfold answer
      simp only [← bind_assoc]
      refine ((quiet_canonical usable).returnsFrom inv).after fun c new => .pure ?_
      refine Object.present_cursor.2 (new.present ?_)
      rw [value]
      exact rooted.canonical i
  | semanticParent =>
      unfold answer
      simp only [← bind_assoc]
      exact ((quiet_semanticParent usable).returnsFrom inv).after fun _ stands =>
        .pure (parents stands)
  | lexicalParent =>
      unfold answer
      simp only [← bind_assoc]
      exact ((quiet_lexicalParent usable).returnsFrom inv).after fun _ stands =>
        .pure (parents stands)
  | visitParent =>
      exact ((returns_visitParent present).after fun _ found =>
        .pure (Answer.present_optional found)).here
  | referenced | definition =>
      exact ((k.returns_linked _).after fun _ found => .pure (Answer.present_optional found)).here
  | arguments =>
      exact (k.returns_arguments.after fun _ found => .pure (Answer.present_list found)).here
  | children =>
      exact (k.returns_children.after fun _ found => .pure (Answer.present_list found)).here
  | walk =>
      have walks : (k.answer .walk).Returns (Answer.Each Object.Present) :=
        (Walk.returns_make present).after fun _ walk => .pure walk
      exact walks.here
  | enumValue =>
      refine Returns.here (.bind fun value => ?_)
      cases value <;> exact .pure trivial
  | _ => refine Returns.here ?_; first
    | exact .bind fun _ => .pure trivial
    | exact .bind fun _ => .pure (Object.present_of_empty rfl)
    | exact .bind fun _ => .bind fun _ => .pure trivial
    | exact .bind fun _ => .bind fun _ => .pure (Object.present_of_empty rfl)
    | exact .bind fun _ => .pure (.optional fun _ _ => Object.present_of_empty rfl)

theorem SourceType.present_answer (type : SourceType) (query : TypeQuery) :
    (type.answer query).Returns (Answer.Each Object.Present) := by
  cases query with
  | declaration =>
      exact type.returns_declaration.after fun _ found => .pure (Answer.present_optional found)
  | fields => exact type.returns_fields.after fun _ found => .pure (Answer.present_list found)
  | _ => first
    | exact .bind fun _ => .pure trivial
    | exact .bind fun _ => .pure (Object.present_of_empty rfl)

theorem Token.present_answer (token : Token) (query : TokenQuery) :
    (token.answer query).Returns (Answer.Each Object.Present) := by
  cases query with
  | cursor => exact token.returns_cursor.after fun _ found => .pure (Answer.present_optional found)
  | _ => first
    | exact .bind fun _ => .pure trivial
    | exact .bind fun _ => .pure (Object.present_of_empty rfl)

/-- The root of a unit is present, whatever entry of the tables the unit has. -/
theorem SourceUnit.present_answer (rooted : engine.Rooted) (unit : SourceUnit)
    (query : UnitQuery) :
    (unit.answer query).ReturnsFrom (side.setting engine) w (Answer.Each Object.Present) := by
  cases query with
  | cursor =>
      have roots : (Cursor.root unit).ReturnsFrom (side.setting engine) w Cursor.Present := by
        intro k v ran
        obtain ⟨_, u, -, ran⟩ := exec_bind_eq_ok ran
        rw [exec_bind_ok exec_engine, exec_bind_ok (exec_table _), Cursor.exec_make] at ran
        obtain ⟨⟨⟩, -⟩ := Prod.mk.inj ran
        exact ⟨rooted.root _, fun _ absent => absurd absent (Option.not_mem_none _)⟩
      exact roots.after fun k present => .pure (Object.present_cursor.2 present)
  | reparse | save => exact Returns.here (.bind fun _ => .pure trivial)
  | _ => refine Returns.here ?_; first
    | exact .bind fun _ => .pure trivial
    | exact .bind fun _ => .pure (Object.present_of_empty rfl)
    | exact .bind fun _ => .pure (.optional fun _ _ => Object.present_of_empty rfl)
    | exact .bind fun _ => .pure (.list fun _ _ => Object.present_of_empty rfl)

theorem SourceLocation.present_turn (location : SourceLocation) (query : LocationQuery) :
    (location.turn query).Returns (Turn.Each Object.Present) := by
  have expanding {answer : Expansion → Act Answer}
      (returns : ∀ expansion, (answer expansion).Returns (Answer.Each Object.Present)) :
      (do
        let expansion ← location.expand
        let answer ← answer expansion
        let changed ← (Object.location location).become
          (.location { location with expansion := some expansion })
        return (⟨changed, .ok answer⟩ : Turn)).Returns (Turn.Each Object.Present) := by
    refine .bind fun expansion => (returns expansion).after fun answer sound => ?_
    have learnt : (Object.location { location with expansion := some expansion }).Present :=
      Object.present_of_empty rfl
    refine (Object.each_become learnt).after fun changed still => .pure ⟨still, ?_⟩
    rintro _ ⟨⟩
    exact sound
  have here : (Object.location location).Present := Object.present_of_empty rfl
  have steady {answer : Act Answer} (returns : answer.Returns (Answer.Each Object.Present)) :
      ((Object.location location).steady answer).Returns (Turn.Each Object.Present) :=
    fun setting w => Object.each_steady here (returns setting w)
  cases query with
  | file =>
      exact expanding fun _ => .bind fun _ => .pure (.optional fun _ _ => Object.present_of_empty rfl)
  | line | column | offset => exact expanding fun _ => .pure trivial
  | debug => exact expanding fun _ => .bind fun _ => .pure trivial
  | cursor =>
      exact steady ((Cursor.returns_atLocation location).after fun _ found =>
        .pure (Answer.present_optional found))
  | unit => exact steady (.bind fun _ => .pure (Object.present_of_empty rfl))
  | isInSystemHeader | isFromMainFile => exact steady (.bind fun _ => .pure trivial)

theorem TokenStream.present_turn (stream : TokenStream) (query : TokensQuery) :
    (stream.turn query).Returns (Turn.Each Object.Present) := by
  have empty (stream : TokenStream) : (Object.tokens stream).Present := Object.present_of_empty rfl
  cases query with
  | next =>
      refine .bind fun result => .pure ⟨empty _, ?_⟩
      rintro _ ⟨⟩
      exact .optional fun _ _ => Object.present_of_empty rfl
  | rest =>
      refine .bind fun result => .pure ⟨empty _, ?_⟩
      rintro _ ⟨⟩
      exact .list fun _ _ => Object.present_of_empty rfl
  | length | sizeHint | debug => exact .pure ⟨empty _, by rintro _ ⟨⟩; trivial⟩

theorem Chunk.present_turn (chunk : Chunk) (query : ChunkQuery) :
    (chunk.turn query).Returns (Turn.Each Object.Present) := by
  have empty (chunk : Chunk) : (Object.chunk chunk).Present := Object.present_of_empty rfl
  cases query with
  | spelling | kind => exact .bind fun _ => .pure ⟨empty _, by rintro _ ⟨⟩; trivial⟩
  | nested =>
      refine fun setting w => Object.each_steady (empty _) (Returns.here ?_)
      exact .bind fun _ => .pure (.optional fun _ _ => Object.present_of_empty rfl)
  | debug => exact .bind fun _ => .bind fun _ => .pure ⟨empty _, by rintro _ ⟨⟩; trivial⟩

theorem Object.present_turn? {object : Object} {name : String} {args : Json} {act : Act Turn}
    (rooted : engine.Rooted) (inv : At engine side held facts w) (usable : Usable engine held object)
    (present : object.Present) (found : object.turn? name args = some act) :
    act.ReturnsFrom (side.setting engine) w (Turn.Each Present) := by
  cases object with
  | unit held =>
      obtain ⟨query, -, rfl⟩ := Option.map_eq_some_iff.1 found
      exact each_steady present (held.present_answer rooted query)
  | cursor held =>
      obtain ⟨query, -, rfl⟩ := Option.map_eq_some_iff.1 found
      have usable : Usable engine _ held := ⟨usable.coherent, usable.within⟩
      exact each_steady present (held.present_answer rooted inv usable (present_cursor.1 present) query)
  | type held =>
      obtain ⟨query, -, rfl⟩ := Option.map_eq_some_iff.1 found
      exact each_steady present (held.present_answer query).here
  | token held =>
      obtain ⟨query, -, rfl⟩ := Option.map_eq_some_iff.1 found
      exact each_steady present (held.present_answer query).here
  | location held =>
      obtain ⟨query, -, rfl⟩ := Option.map_eq_some_iff.1 found
      exact (held.present_turn query).here
  | walk held =>
      obtain ⟨query, -, rfl⟩ := Option.map_eq_some_iff.1 found
      exact (Walk.present_turn present query).here
  | tokens held =>
      obtain ⟨query, -, rfl⟩ := Option.map_eq_some_iff.1 found
      exact (held.present_turn query).here
  | chunk held =>
      obtain ⟨query, -, rfl⟩ := Option.map_eq_some_iff.1 found
      exact (held.present_turn query).here
  | completion held =>
      obtain ⟨query, -, rfl⟩ := Option.map_eq_some_iff.1 found
      refine each_steady present (Returns.here ?_)
      rcases query with (_ | _ | _ | _ | _) | _ <;> first
        | exact .pure trivial
        | exact .bind fun _ => .pure (.optional fun _ _ => present_of_empty rfl)
        | exact .bind fun _ => .pure (.list fun _ _ => present_of_empty rfl)
  | _ =>
      obtain ⟨query, -, rfl⟩ := Option.map_eq_some_iff.1 found
      refine each_steady present (Returns.here ?_)
      cases query <;> first
        | exact .pure trivial
        | exact .bind fun _ => .pure trivial
        | exact .bind fun _ => .pure (present_of_empty rfl)
        | exact .bind fun _ => .pure (.optional fun _ _ => present_of_empty rfl)
        | exact .bind fun _ => .pure (.list fun _ _ => present_of_empty rfl)

theorem Object.present_pairTurn? {first second : Object} {query : PairQuery} {act : Act Turn}
    (present : second.Present) (found : first.pairTurn? second query = some act) :
    act.Returns (Turn.Each Present) := by
  have steady {answer : Act Answer} (returns : answer.Returns (Answer.Each Present)) :
      (second.steady answer).Returns (Turn.Each Present) :=
    fun setting w => each_steady present (returns setting w)
  unfold pairTurn? at found
  split at found <;> cases found <;> first
    | exact steady (.pure trivial)
    | exact steady (.bind fun _ => .pure trivial)
    | exact steady (.bind fun _ => .pure (present_of_empty rfl))
    | skip
  -- a comparison with the ends of a range leaves its location expanded
  case h_7 held point =>
    refine .bind fun expansion => .bind fun inside => ?_
    have learnt : (Object.location { point with expansion := some expansion }).Present :=
      present_of_empty rfl
    refine (each_become learnt).after fun changed still => .pure ⟨still, ?_⟩
    rintro _ ⟨⟩
    trivial

end Answers

/-! ## Sessions -/

namespace Session.Reached

variable {setting : Setting} {begin state : State}

theorem present_sessionQuery? {name : String} {args : Json} {act : Act Answer}
    (found : State.sessionQuery? name args = some act) :
    act.Returns (Answer.Each Object.Present) := by
  unfold State.sessionQuery? at found
  split at found <;> cases found <;> first
    | exact .bind fun _ => .pure trivial
    | exact .bind fun _ => .pure (Object.present_of_empty rfl)

/-- What runs on objects that are present hands out present ones. -/
theorem present_poses (reached : Reached setting begin state) (rooted : setting.engine.Rooted)
    (present : state.Each Object.Present) {name slot slot' : String} {args : Json}
    {other : Option String} {act : Act Turn}
    (poses : state.Poses name args slot other slot' act) :
    act.ReturnsFrom setting state.world (Turn.Each Object.Present) := by
  have held {slot : String} {object : Object} (here : state.slots.get? slot = some object) :
      object.Present := present _ (Slots.mem_of_get? here)
  cases poses with
  | clone here _ =>
      refine Object.each_steady (held here) (Returns.here ?_)
      exact (Returns.keep (held here)).map fun _ sound => sound
  | alone here turns =>
      obtain ⟨facts, inv⟩ := reached.inv
      have usable := reached.usable _ (List.mem_map_of_mem (Slots.mem_of_get? here))
      exact Object.present_turn? rooted inv usable (held here) turns
  | pair _ here _ turns => exact (Object.present_pairTurn? (held here) turns).here

theorem present (reached : Reached setting begin state) (rooted : setting.engine.Rooted) :
    state.Each Object.Present :=
  reached.each_slot (fun reached present _ _ _ _ _ _ poses => reached.present_poses rooted present poses)
    present_sessionQuery?

theorem presentMemos_of_begin (reached : Reached setting begin state)
    (rooted : setting.engine.Rooted) (before : begin.world.PresentMemos) :
    state.world.PresentMemos := by
  obtain ⟨_, _, inv⟩ := reached.inv
  refine inv.presentMemos rooted (fun k member => ?_) before
  obtain ⟨object, held, owned⟩ := List.mem_flatMap.1 (Multiset.mem_coe.1 member)
  obtain ⟨slot, there, rfl⟩ := List.mem_map.1 held
  exact (reached.present rooted slot there k (Object.cursor_mem_owners.1 owned)).value

theorem presentMemos_begin (reached : Reached setting begin state)
    (rooted : setting.engine.Rooted) : begin.world.PresentMemos := by
  refine reached.begins (fun c entry memo found => ?_) fun reached before =>
    reached.presentMemos_of_begin rooted before
  exact absurd (World.lt_size_of_find? found) (Nat.not_lt_zero c)

end Session.Reached

/-! ## Searches -/

/-- The declaration that the engine answers for a type; null where it answers that there is none. -/
def Engine.declared (engine : Engine) (t : Ref) : Ref :=
  let declaration := (engine.type t).declaration
  if (engine.cursor declaration).kind = .noDeclFound then none else declaration

theorem Engine.declared_kind (engine : Engine) (t : Ref) :
    (engine.cursor (engine.declared t)).kind ≠ .noDeclFound := by
  unfold declared
  dsimp only
  split
  · exact (by decide : CursorKind.invalidFile ≠ .noDeclFound)
  · assumption

/-- A type is declared just where the engine answers a declaration. -/
theorem Engine.declared_eq (engine : Engine) (t : Ref) :
    engine.declared t = (engine.declaration? t).join := by
  unfold declared declaration?
  cases declares : (engine.type t).declaration with
  | none => simp
  | some i =>
      by_cases absent : (engine.cursor (some i)).kind = .noDeclFound <;> simp [absent]

/-- What is handed out for an answer of the engine: nothing just if it is null. -/
structure Cursor.Found (target : Ref) (found : Option Cursor) : Prop where
  absent : found = none ↔ target = none
  value : ∀ k ∈ found, k.raw.value = target

/-- A query for a cursor that there may not be. A location in completion results is not looked for
in the tree. -/
inductive CursorSearch where
  | semanticParent (cursor : Cursor)
  | lexicalParent (cursor : Cursor)
  | visitParent (cursor : Cursor)
  | referenced (cursor : Cursor)
  | definition (cursor : Cursor)
  | declaration (type : SourceType)
  | atLocation (location : SourceLocation) (inside : location.anchor = none)
  | atToken (token : Token)

namespace CursorSearch

/-- What is asked. -/
def subject : CursorSearch → Object
  | .semanticParent cursor | .lexicalParent cursor | .visitParent cursor | .referenced cursor
  | .definition cursor => .cursor cursor
  | .declaration type => .type type
  | .atLocation location _ => .location location
  | .atToken token => .token token

def name : CursorSearch → String
  | .semanticParent _ => "semantic_parent"
  | .lexicalParent _ => "lexical_parent"
  | .visitParent _ => "ast_parent"
  | .referenced _ => "referenced"
  | .definition _ => "definition"
  | .declaration _ => "declaration"
  | .atLocation .. | .atToken _ => "cursor"

def act : CursorSearch → Act (Option Cursor)
  | .semanticParent cursor => do Act.keep (← cursor.semanticParent)
  | .lexicalParent cursor => do Act.keep (← cursor.lexicalParent)
  | .visitParent cursor => cursor.visitParent
  | .referenced cursor => cursor.linked .referenced
  | .definition cursor => cursor.linked .definition
  | .declaration type => type.declaration
  | .atLocation location _ => Cursor.atLocation location
  | .atToken token => token.cursor

/-- What the engine answers, or has answered when the cursor was visited. -/
def target (engine : Engine) (w : World) : CursorSearch → Ref
  | .semanticParent cursor => engine.cursorLink cursor.raw.value .semanticParent
  | .lexicalParent cursor => engine.cursorLink cursor.raw.value .lexicalParent
  | .visitParent cursor => cursor.parent.bind (·.value)
  | .referenced cursor => engine.cursorLink cursor.raw.value .referenced
  | .definition cursor => engine.cursorLink cursor.raw.value .definition
  | .declaration type => engine.declared type.raw.value
  | .atLocation location _ => engine.cursorAt (w.table location.unit.resource) location.raw.value
  | .atToken token => token.entry.cursor

/-- The query asks for the cursor. -/
theorem turns (search : CursorSearch) (args : Json) :
    search.subject.turn? search.name args =
      some (search.subject.steady do return .optional .cursor (← search.act)) := by
  cases search with
  | semanticParent cursor | lexicalParent cursor =>
      simp only [act, bind_assoc]
      rfl
  | _ => rfl

end CursorSearch

section Found

variable {setting : Setting} {w : World}

theorem Cursor.Stands.found {raw : Raw Ref} {unit : SourceUnit} {found : Option Cursor}
    (stands : Stands raw unit found) : Found raw.value found where
  absent := by
    rw [← Option.isNone_iff_eq_none, ← Option.isNone_iff_eq_none, ← Option.not_isSome,
      stands.present, Option.not_isSome]
  value k member := by rw [(stands.made k member).1]

theorem Cursor.MayBeNew.found {raw : Raw Ref} {unit : SourceUnit} {found : Option Cursor}
    (may : MayBeNew raw unit found) : Found raw.value found :=
  Stands.found ⟨may.1, may.2⟩

theorem Cursor.finds_ofRaw? (raw : Raw Ref) (unit : SourceUnit) :
    Yields setting (ofRaw? raw unit) (Found raw.value) := by
  intro w loaded
  obtain ⟨found, v, ran, stands, loaded⟩ := yields_ofRaw? raw unit w loaded
  exact ⟨found, v, ran, stands.found, loaded⟩

theorem Cursor.finds_linked (k : Cursor) (link : CursorLink) :
    Yields setting (k.linked link) (Found (setting.engine.cursorLink k.raw.value link)) :=
  (k.raw.answers_derive _ _ _).then (finds_ofRaw? _ _)

/-- A cursor is always handed out where its value is not null. -/
theorem Cursor.finds_make {raw : Raw Ref} (value : raw.value ≠ none) (unit : SourceUnit) :
    Yields setting (some <$> make raw unit none) (Found raw.value) := by
  rw [← bind_pure_comp]
  refine (yields_make raw unit none).bind fun k made => .pure ⟨?_, ?_⟩
  · exact iff_of_false (Option.some_ne_none k) value
  · rintro _ ⟨⟩
    rw [made.1]

theorem Cursor.finds_visitParent {k : Cursor} (present : k.Present) :
    Yields setting k.visitParent (Found (k.parent.bind (·.value))) := by
  unfold visitParent
  cases above : k.parent with
  | none => exact .pure ⟨iff_of_true rfl rfl, fun _ absent => absurd absent (Option.not_mem_none _)⟩
  | some raw => exact finds_make (present.parent raw above) k.unit

theorem SourceType.answers_declarationRaw? (type : SourceType) :
    Answers setting type.declarationRaw?
      ((setting.engine.declaration? type.raw.value).map (⟨·, type.raw.origin⟩)) := by
  refine (type.raw.answers_derive _ _ _).bind ?_
  unfold Engine.declaration?
  split
  next none =>
    rw [if_pos none]
    exact .pure _
  next some =>
    rw [if_neg some]
    refine (Raw.answers_ask ⟨_, type.raw.origin⟩ _ _ _).bind ?_
    split <;> exact .pure _

theorem SourceType.finds_declaration (type : SourceType) :
    Yields setting type.declaration (Cursor.Found (setting.engine.declared type.raw.value)) := by
  refine type.answers_declarationRaw?.then ?_
  cases declares : setting.engine.declaration? type.raw.value with
  | none =>
      rw [Engine.declared_eq, declares]
      exact .pure ⟨iff_of_true rfl rfl, fun _ absent => absurd absent (Option.not_mem_none _)⟩
  | some declaration =>
      obtain ⟨-, present, -⟩ := Engine.declaration?_eq_some.1 declares
      rw [Engine.declared_eq, declares]
      have value : (⟨declaration, type.raw.origin⟩ : Raw Ref).value ≠ none :=
        Option.isSome_iff_ne_none.1 present
      exact Cursor.finds_make value type.unit

theorem Cursor.finds_atLocation {location : SourceLocation} (inside : location.anchor = none)
    (loaded : w.loaded = true) : ∃ found v, (atLocation location).exec setting w = (.ok found, v) ∧
      Found (setting.engine.cursorAt (w.table location.unit.resource) location.raw.value) found := by
  have free : ¬ location.isAnchored = true := by simp [SourceLocation.isAnchored, inside]
  unfold atLocation
  rw [if_neg free, exec_bind_ok (exec_ask _ _ _ loaded), exec_bind_ok exec_engine,
    exec_bind_ok (exec_table _)]
  obtain ⟨found, v, ran, finds, -⟩ := finds_ofRaw?
    ⟨setting.engine.cursorAt (w.table location.unit.resource) location.raw.value,
      location.unit.resource⟩ location.unit (w.note _) loaded
  exact ⟨found, v, ran, finds⟩

theorem Token.finds_cursor (token : Token) :
    Yields setting token.cursor (Cursor.Found token.entry.cursor) :=
  Answers.then ((Act.answers_ask _ _ _).bind (.pure _)) (Cursor.finds_ofRaw? _ _)

/-- No cursor that stands for the absence of a declaration is handed out as one. -/
theorem SourceType.returns_declares (type : SourceType) :
    type.declaration.ReturnsFrom setting w fun found => ∀ k ∈ found,
      (setting.engine.cursor k.raw.value).kind ≠ .noDeclFound := by
  intro found v ran k member
  by_cases loaded : w.loaded = true
  · obtain ⟨found', v', ran', finds, -⟩ := type.finds_declaration w loaded
    obtain ⟨⟨⟩, -⟩ := Prod.mk.inj (ran.symm.trans ran')
    rw [finds.value k member]
    exact setting.engine.declared_kind type.raw.value
  · have asked := @exec_ask_unloaded setting w .typeDeclaration [type.raw.origin] none
      (Bool.eq_false_iff.2 loaded)
    have failed : type.declarationRaw?.exec setting w = (.error (.panic .engineNotLoaded), w) :=
      exec_bind_error (exec_bind_error (exec_bind_error asked))
    exact nomatch ran.symm.trans (exec_bind_error failed)

end Found

/-- What the user of a session sees of a search: the cursor that the engine answers, or nothing just
if that is null. -/
def State.Finds (setting : Setting) (state : State) (slot : String) (search : CursorSearch) : Prop :=
  ∃ found v, search.act.exec setting state.world = (.ok found, v) ∧
    Cursor.Found (search.target setting.engine state.world) found ∧
    ∀ target args, state.ask setting (some slot) none target args search.name =
      finish setting target
        { state with world := v, slots := state.slots.set slot search.subject }
        (.ok (.optional .cursor found))

/-- What the user of a session sees of the arguments of a cursor: those that are not null. -/
def State.FindsArguments (setting : Setting) (state : State) (slot : String) (k : Cursor) : Prop :=
  let arguments := (List.range (countOf (setting.engine.cursor k.raw.value).argCount)).map
    (setting.engine.cursorArgument k.raw.value)
  ∃ found v, k.arguments.exec setting state.world = (.ok found, v) ∧
    found.map (·.raw.value) = arguments.filter Option.isSome ∧
    ∀ target args, state.ask setting (some slot) none target args "arguments" =
      finish setting target
        { state with world := v, slots := state.slots.set slot (.cursor k) }
        (.ok (.list .cursor found))

namespace Session.Reached

variable {setting : Setting} {begin state : State} {slot : String}

theorem exec_search (reached : Reached setting begin state) (rooted : setting.engine.Rooted)
    {search : CursorSearch} (held : state.slots.get? slot = some search.subject) :
    ∃ found v, search.act.exec setting state.world = (.ok found, v) ∧
      Cursor.Found (search.target setting.engine state.world) found := by
  have loaded := reached.loaded held
  have member := Slots.mem_of_get? held
  have yielded {x : Act (Option Cursor)} {target : Ref} (yields : x.Yields setting (Cursor.Found target)) :
      ∃ found v, x.exec setting state.world = (.ok found, v) ∧ Cursor.Found target found := by
    obtain ⟨found, v, ran, finds, -⟩ := yields _ loaded
    exact ⟨found, v, ran, finds⟩
  obtain ⟨facts, inv⟩ := reached.inv
  have usable := reached.usable _ (List.mem_map_of_mem member)
  cases search with
  | semanticParent k =>
      have usable : Usable setting.engine _ k := ⟨usable.coherent, usable.within⟩
      obtain ⟨found, v, ran, may, -⟩ := Cursor.quiet_semanticParent usable facts _ inv
      exact ⟨found, v, ran, may.found⟩
  | lexicalParent k =>
      have usable : Usable setting.engine _ k := ⟨usable.coherent, usable.within⟩
      obtain ⟨found, v, ran, may, -⟩ := Cursor.quiet_lexicalParent usable facts _ inv
      exact ⟨found, v, ran, may.found⟩
  | visitParent k =>
      have present : k.Present := Object.present_cursor.1 (reached.present rooted _ member)
      exact yielded (Cursor.finds_visitParent present)
  | referenced k | definition k => exact yielded (k.finds_linked _)
  | declaration type => exact yielded type.finds_declaration
  | atLocation location inside => exact Cursor.finds_atLocation inside loaded
  | atToken token => exact yielded token.finds_cursor

theorem finds (reached : Reached setting begin state) (rooted : setting.engine.Rooted)
    {search : CursorSearch} (held : state.slots.get? slot = some search.subject) :
    state.Finds setting slot search := by
  obtain ⟨found, v, ran, finds⟩ := reached.exec_search rooted held
  refine ⟨found, v, ran, finds, fun target args => ?_⟩
  have turned : (search.subject.steady do return .optional .cursor (← search.act)).exec setting
      state.world = (.ok ⟨search.subject, .ok (.optional .cursor found)⟩, v) := by
    rw [Object.steady, exec_bind_ok (exec_bind_ok ran)]
    rfl
  have named : search.name ≠ "clone" := by cases search <;> simp [CursorSearch.name]
  rw [State.ask_alone held named (search.turns args), State.turn_ok turned]

/-- The engine is not asked for the cursor at a location in completion results. -/
theorem refuses_anchored {location : SourceLocation}
    (held : state.slots.get? slot = some (.location location)) (anchored : location.anchor ≠ none)
    (target : Option String) (args : Json) :
    state.ask setting (some slot) none target args "cursor" =
      (state, .fault (.failure (.precondition "from_location"
        "a location inside a translation unit" "a code-completion location"))) := by
  have refused : (Cursor.atLocation location).exec setting state.world =
      (.error (.failure (.precondition "from_location" "a location inside a translation unit"
        "a code-completion location")), state.world) := by
    have apart : location.isAnchored = true := Option.isSome_iff_ne_none.2 anchored
    unfold Cursor.atLocation
    rw [if_pos apart]
    rfl
  have turned : (location.turn .cursor).exec setting state.world = (.error _, state.world) :=
    exec_bind_error (exec_bind_error refused)
  rw [State.ask_alone held (by decide) (by rfl), State.turn_error turned]

theorem finds_arguments (reached : Reached setting begin state) {k : Cursor}
    (held : state.slots.get? slot = some (.cursor k)) : state.FindsArguments setting slot k := by
  obtain ⟨found, v, ran, ⟨values, -⟩, -⟩ := k.yields_arguments _ (reached.loaded held)
  refine ⟨found, v, ran, values, fun target args => ?_⟩
  have turned : ((Object.cursor k).steady (k.answer .arguments)).exec setting state.world =
      (.ok ⟨.cursor k, .ok (.list .cursor found)⟩, v) := by
    have answered : (k.answer .arguments).exec setting state.world =
        (.ok (.list .cursor found), v) := exec_bind_ok ran
    rw [Object.steady, exec_bind_ok answered]
    rfl
  rw [State.ask_alone held (by decide) (by rfl), State.turn_ok turned]

end Session.Reached

/-- There are no null cursors in a session of an engine that answers none for the root of a unit and
none as the canonical cursor of one that is not null. Neither a cursor in a slot, in a walk or in a
memo is null, nor the parent of one, and no query hands out a null one. A query for a single cursor
hands out what the engine answers, or nothing just if that is null; for a declaration also if its
kind says that there is none. For a location in completion results the engine is not asked. Null
arguments are left out. Children and fields are all handed out as they are reported, or, with a null
one among them, none is. -/
theorem no_null_cursors (setting : Setting) (rooted : setting.engine.Rooted) (begin state : State)
    (reached : Session.Reached setting begin state) :
    state.Each Object.Present ∧ state.world.PresentMemos ∧
    (∀ name args slot other slot' act, state.Poses name args slot other slot' act →
      act.ReturnsFrom setting state.world (Turn.Each Object.Present)) ∧
    (∀ search slot, state.slots.get? slot = some search.subject →
      state.Finds setting slot search) ∧
    (∀ (location : SourceLocation) slot, state.slots.get? slot = some (.location location) →
      location.anchor ≠ none → ∀ target args,
        state.ask setting (some slot) none target args "cursor" =
          (state, .fault (.failure (.precondition "from_location"
            "a location inside a translation unit" "a code-completion location")))) ∧
    (∀ type : SourceType, type.declaration.ReturnsFrom setting state.world fun found =>
      ∀ k ∈ found, (setting.engine.cursor k.raw.value).kind ≠ .noDeclFound) ∧
    (∀ (k : Cursor) slot, state.slots.get? slot = some (.cursor k) →
      state.FindsArguments setting slot k ∧
      state.Bridged setting slot "children" (.cursor k) (.children k.raw.value)
        (setting.engine.childReports k.raw.value) k.raw.origin k.unit) ∧
    ∀ (type : SourceType) slot, state.slots.get? slot = some (.type type) →
      state.Bridged setting slot "fields" (.type type) (.fields type.raw.value)
        (setting.engine.fieldReports type.raw.value) type.raw.origin type.unit := by
  have present := reached.present rooted
  refine ⟨present, reached.presentMemos_of_begin rooted (reached.presentMemos_begin rooted),
    fun _ _ _ _ _ _ poses => reached.present_poses rooted present poses,
    fun search slot held => reached.finds rooted held,
    fun location slot held anchored => Session.Reached.refuses_anchored held anchored,
    fun type => type.returns_declares, fun k slot held => ⟨reached.finds_arguments held, ?children⟩,
    fun type slot held => ?fields⟩
  case children => exact reached.bridged held (by decide) (fun _ => rfl) k.bridged_children
  case fields => exact reached.bridged held (by decide) (fun _ => rfl) type.bridged_fields

/-- The root of a unit is handed out, and as it refers to nothing, no cursor is. -/
theorem no_null_cursors_root :
    let setting : Setting := ⟨{ tables := { sources := [{ name := none, unit := some 0 }] } }, true⟩
    let k : Cursor := { raw := ⟨some 0, Session.firstUnit.resource⟩, unit := Session.firstUnit, memo := 2 }
    let state := (Session.parsed.ask setting (some "u") none (some "c") .null "cursor").1
    state.slots.get? "c" = some (.cursor k) ∧ k.Present ∧
      ∃ v, (k.linked .referenced).exec setting state.world = (.ok none, v) := by
  intro setting k state
  have rooted : setting.engine.Rooted := ⟨fun table => by simp [setting, Engine.unit], fun i => by
    simp [setting, Engine.cursorLink, Engine.cursor]⟩
  have opened : Session.Reached setting {} Session.parsed := .parsed rfl rfl
  have reached : Session.Reached setting {} state := opened.ask (some "u") none (some "c") .null "cursor"
  have held : state.slots.get? "c" = some (.cursor k) := rfl
  obtain ⟨present, -, -, finds, -⟩ := no_null_cursors setting rooted {} state reached
  refine ⟨held, Object.present_cursor.1 (present _ (Slots.mem_of_get? held)), ?_⟩
  obtain ⟨found, v, ran, is, -⟩ := finds (.referenced k) "c" held
  obtain rfl : found = none := is.absent.2 rfl
  exact ⟨v, ran⟩

/-- A null child is not left out: the children are not listed at all, not even the one before it. -/
theorem null_child_not_omitted :
    let setting : Setting := ⟨{ tables := {
      sources := [{ name := none, unit := some 0 }]
      cursors := #[{ children := [some 1, none] }, {}] } }, true⟩
    let k : Cursor := { raw := ⟨some 0, Session.firstUnit.resource⟩, unit := Session.firstUnit, memo := 2 }
    let state := (Session.parsed.ask setting (some "u") none (some "c") .null "cursor").1
    setting.engine.Rooted ∧ Session.Reached setting {} state ∧
      state.slots.get? "c" = some (.cursor k) ∧
      setting.engine.childReports k.raw.value = [⟨some 1, some 0⟩, ⟨none, some 0⟩] ∧
      (state.ask setting (some "c") none (some "x") .null "children").2 =
        .fault (.panic .nullCursorVisited) := by
  intro setting k state
  have rooted : setting.engine.Rooted := ⟨fun table => by simp [setting, Engine.unit], fun i => by
    rcases i with _ | _ | _ <;> simp [setting, Engine.cursorLink, Engine.cursor]⟩
  have opened : Session.Reached setting {} Session.parsed := .parsed rfl rfl
  have reached : Session.Reached setting {} state := opened.ask (some "u") none (some "c") .null "cursor"
  have held : state.slots.get? "c" = some (.cursor k) := rfl
  have reports : setting.engine.childReports k.raw.value = [⟨some 1, some 0⟩, ⟨none, some 0⟩] := rfl
  have null : ¬ Visit.Sound (setting.engine.childReports k.raw.value) := fun sound =>
    sound ⟨none, some 0⟩ (reports ▸ .tail _ (.head _)) rfl
  have bridged : state.Bridged setting "c" "children" (.cursor k) (.children k.raw.value)
      (setting.engine.childReports k.raw.value) k.raw.origin k.unit :=
    reached.bridged held (by decide) (fun _ => rfl) k.bridged_children
  exact ⟨rooted, reached, held, reports, congrArg Prod.snd (bridged.stopped null (some "x") .null).1⟩

end SourceAtlas
