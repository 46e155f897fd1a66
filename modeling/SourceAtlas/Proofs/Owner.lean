import Mathlib.Algebra.BigOperators.Group.Multiset.Basic
import Mathlib.Algebra.Order.Group.Multiset
import SourceAtlas.Proofs.Likeness

/-!
# Owners

What a cell is kept for: a resource of the engine, or the memo of a cursor. An owner says all about
its cell that never changes. The cell of a resource holds references to those of its lenders, the
resources that it borrows from. Owners that are held keep all owners alive that are within reach.
-/

namespace SourceAtlas

/-- What a cell is kept for. -/
inductive Owner where
  | index (index : Index)
  | unit (unit : SourceUnit)
  | diagnostic (diagnostic : Diagnostic)
  | tokens (batch : TokenBatch)
  | completion (results : Completion)
  | database (database : Database)
  | commands (list : CommandList)
  | cursor (cursor : Cursor)

namespace Owner

def cell : Owner → CellId
  | .index owner => owner.cell
  | .unit owner => owner.cell
  | .diagnostic owner => owner.handle.cell
  | .tokens owner => owner.cell
  | .completion owner => owner.cell
  | .database owner => owner.cell
  | .commands owner => owner.cell
  | .cursor owner => owner.memo

def resource : Owner → Option Resource
  | .index owner => some owner.resource
  | .unit owner => some owner.resource
  | .diagnostic owner => some owner.handle.resource
  | .tokens owner => some owner.resource
  | .completion owner => some owner.resource
  | .database owner => some owner.resource
  | .commands owner => some owner.resource
  | .cursor _ => none

/-- The kind of its resource. -/
def kind? : Owner → Option ResourceKind
  | .index _ => some .index
  | .unit _ => some .unit
  | .diagnostic _ => some .diagnostic
  | .tokens _ => some .tokens
  | .completion _ => some .completion
  | .database _ => some .database
  | .commands _ => some .commands
  | .cursor _ => none

/-- The owners of what the resource borrows from, in the order in which the cell holds them. -/
def lenders : Owner → List Owner
  | .index _ | .database _ | .cursor _ => []
  | .unit owner => [.index owner.index]
  | .diagnostic owner =>
    owner.parent.toList.map .diagnostic ++ owner.anchor.toList.map .completion ++
      [.unit owner.unit]
  | .tokens owner => [.unit owner.unit]
  | .completion owner => [.unit owner.unit]
  | .commands owner => [.database owner.database]

/-- The one lender whose resource was asked when the engine handed out this one. The other lenders
are kept since that one keeps them too. -/
def source? : Owner → Option Resource
  | .index _ | .database _ | .cursor _ => none
  | .unit owner => some owner.index.resource
  | .diagnostic owner => some (owner.ancestors.head?.elim owner.origin (·.resource))
  | .tokens owner => some owner.unit.resource
  | .completion owner => some owner.unit.resource
  | .commands owner => some owner.database.resource

theorem exists_lender_of_source {o : Owner} {s : Resource} (source : o.source? = some s) :
    ∃ p ∈ o.lenders, p.resource = some s := by
  cases o with
  | index _ | database _ | cursor _ => exact nomatch source
  | unit owner => exact ⟨_, List.mem_singleton_self _, source⟩
  | tokens owner => exact ⟨_, List.mem_singleton_self _, source⟩
  | completion owner => exact ⟨_, List.mem_singleton_self _, source⟩
  | commands owner => exact ⟨_, List.mem_singleton_self _, source⟩
  | diagnostic owner =>
      obtain ⟨handle, ancestors, anchor, unit⟩ := owner
      cases ancestors with
      | cons first rest => exact ⟨_, List.mem_append_left _ (List.mem_append_left _ (.head _)), source⟩
      | nil =>
          cases anchor with
          | some results =>
              exact ⟨_, List.mem_append_left _ (List.mem_append_right _ (.head _)), source⟩
          | none => exact ⟨_, List.mem_append_right _ (.head _), source⟩

/-- Whether two owners are of one kind and alike. -/
def IsLike (ρ : Resource → Resource) : Owner → Owner → Prop
  | .index a, .index b => Alike ρ a b
  | .unit a, .unit b => Alike ρ a b
  | .diagnostic a, .diagnostic b => Alike ρ a b
  | .tokens a, .tokens b => Alike ρ a b
  | .completion a, .completion b => Alike ρ a b
  | .database a, .database b => Alike ρ a b
  | .commands a, .commands b => Alike ρ a b
  | .cursor a, .cursor b => Alike ρ a b
  | _, _ => False

instance : Likeness Owner where
  Alike := IsLike
  refl owner := by cases owner <;> exact Likeness.refl _

theorem resource_alike {ρ : Resource → Resource} {o p : Owner} (alike : Alike ρ o p) :
    o.resource.map ρ = p.resource := by
  cases o <;> cases p <;> first | exact alike.elim | skip
  case diagnostic.diagnostic => exact congrArg some alike.1.1
  case cursor.cursor => rfl
  all_goals exact congrArg some alike.1

end Owner

/-! ## Corresponding owners -/

/-- Whether each owner of a resource on either side is like one on the other side. -/
def Twins (ρ : Resource → Resource) (left right : List Owner) : Prop :=
  (∀ o ∈ left, o.resource.isSome → ∃ p ∈ right, Alike ρ o p) ∧
    ∀ p ∈ right, p.resource.isSome → ∃ o ∈ left, Alike ρ o p

namespace Twins

variable {ρ : Resource → Resource} {left right left' right' : List Owner} {o p : Owner}

theorem nil : Twins ρ [] [] := by
  constructor <;> intro o member <;> exact absurd member List.not_mem_nil

theorem single (alike : Alike ρ o p) : Twins ρ [o] [p] := by
  constructor
  · intro q member _
    rw [List.mem_singleton.1 member]
    exact ⟨p, List.mem_singleton_self p, alike⟩
  · intro q member _
    rw [List.mem_singleton.1 member]
    exact ⟨o, List.mem_singleton_self o, alike⟩

theorem append (first : Twins ρ left right) (second : Twins ρ left' right') :
    Twins ρ (left ++ left') (right ++ right') := by
  constructor
  · intro o member owns
    rcases List.mem_append.1 member with member | member
    · obtain ⟨p, there, alike⟩ := first.1 o member owns
      exact ⟨p, List.mem_append_left _ there, alike⟩
    · obtain ⟨p, there, alike⟩ := second.1 o member owns
      exact ⟨p, List.mem_append_right _ there, alike⟩
  · intro p member owns
    rcases List.mem_append.1 member with member | member
    · obtain ⟨o, there, alike⟩ := first.2 p member owns
      exact ⟨o, List.mem_append_left _ there, alike⟩
    · obtain ⟨o, there, alike⟩ := second.2 p member owns
      exact ⟨o, List.mem_append_right _ there, alike⟩

/-- More references to what is there already, or to what owns no resource, change nothing. -/
theorem extend (twins : Twins ρ left right)
    (more : ∀ o ∈ left', o.resource.isSome → o ∈ left)
    (more' : ∀ p ∈ right', p.resource.isSome → p ∈ right) :
    Twins ρ (left ++ left') (right ++ right') := by
  constructor
  · intro o member owns
    have member : o ∈ left := (List.mem_append.1 member).elim id fun m => more o m owns
    obtain ⟨p, there, alike⟩ := twins.1 o member owns
    exact ⟨p, List.mem_append_left _ there, alike⟩
  · intro p member owns
    have member : p ∈ right := (List.mem_append.1 member).elim id fun m => more' p m owns
    obtain ⟨o, there, alike⟩ := twins.2 p member owns
    exact ⟨o, List.mem_append_left _ there, alike⟩

end Twins

/-- Alike diagnostics are notes of alike diagnostics. -/
theorem Diagnostic.parent_alike {ρ : Resource → Resource} {a b : Diagnostic}
    (alike : Alike ρ a b) : Alike ρ a.parent b.parent := by
  obtain ⟨handle, ancestors, anchor, unit⟩ := a
  obtain ⟨handle', ancestors', anchor', unit'⟩ := b
  obtain ⟨-, above, anchored, same⟩ := alike
  cases above with
  | nil => exact .none
  | cons first rest => exact .some ⟨first, rest, anchored, same⟩

/-- Alike owners borrow from alike owners. -/
theorem Owner.lenders_alike {ρ : Resource → Resource} {o p : Owner} (alike : Alike ρ o p) :
    Twins ρ o.lenders p.lenders := by
  cases o <;> cases p <;> first | exact alike.elim | skip
  case index.index | database.database | cursor.cursor => exact .nil
  case unit.unit => exact .single alike.2
  case tokens.tokens | completion.completion => exact .single alike.2.1
  case commands.commands => exact .single alike.2.1
  case diagnostic.diagnostic a b =>
    have parents := Diagnostic.parent_alike alike
    have anchors : Alike ρ a.anchor b.anchor := alike.2.2.1
    refine .append (.append ?_ ?_) (.single alike.2.2.2)
    · generalize a.parent = parent, b.parent = parent' at parents
      cases parents with
      | none => exact .nil
      | some same => exact .single same
    · generalize a.anchor = anchor, b.anchor = anchor' at anchors
      cases anchors with
      | none => exact .nil
      | some same => exact .single same

/-! ## What is within reach -/

/-- The owners that are held, one for each reference. -/
abbrev Held := Multiset Owner

/-- Whether an owner is held, or lends to one that is within reach. -/
inductive Within (held : Held) : Owner → Prop
  | held {o : Owner} : o ∈ held → Within held o
  | lender {o p : Owner} : Within held o → p ∈ o.lenders → Within held p

theorem Within.of_mem {own : List Owner} {o : Owner} (member : o ∈ own) :
    Within (own : Held) o :=
  .held (Multiset.mem_coe.2 member)

/-- Whether a resource is within reach. -/
def Lends (held : Held) (resource : Resource) : Prop :=
  ∃ o, Within held o ∧ o.resource = some resource

theorem Within.mono {held more : Held} (le : held ≤ more) {o : Owner} (within : Within held o) :
    Within more o := by
  induction within with
  | held member => exact .held (Multiset.mem_of_le le member)
  | lender _ lends ih => exact .lender ih lends

theorem Within.ne_zero {held : Held} {o : Owner} (within : Within held o) : held ≠ 0 := by
  induction within with
  | held member =>
      rintro rfl
      exact Multiset.notMem_zero _ member
  | lender _ _ ih => exact ih

theorem Lends.ne_zero {held : Held} {r : Resource} (lends : Lends held r) : held ≠ 0 := by
  obtain ⟨o, within, -⟩ := lends
  exact within.ne_zero

section Renaming

variable {ρ : Resource → Resource} {left right : List Owner}

theorem Twins.within (twins : Twins ρ left right) {o : Owner} (within : Within left o)
    (owns : o.resource.isSome) : ∃ p, Within right p ∧ Alike ρ o p := by
  induction within with
  | held member =>
      obtain ⟨p, there, alike⟩ := twins.1 _ (Multiset.mem_coe.1 member) owns
      exact ⟨p, .of_mem there, alike⟩
  | @lender o q _ lends ih =>
      have owner : o.resource.isSome := by
        cases o <;> first | rfl | exact absurd lends List.not_mem_nil
      obtain ⟨p, within, alike⟩ := ih owner
      obtain ⟨q', lends', same⟩ := (Owner.lenders_alike alike).1 q lends owns
      exact ⟨q', .lender within lends', same⟩

theorem Twins.within' (twins : Twins ρ left right) {p : Owner} (within : Within right p)
    (owns : p.resource.isSome) : ∃ o, Within left o ∧ Alike ρ o p := by
  induction within with
  | held member =>
      obtain ⟨o, there, alike⟩ := twins.2 _ (Multiset.mem_coe.1 member) owns
      exact ⟨o, .of_mem there, alike⟩
  | @lender p q _ lends ih =>
      have owner : p.resource.isSome := by
        cases p <;> first | rfl | exact absurd lends List.not_mem_nil
      obtain ⟨o, within, alike⟩ := ih owner
      obtain ⟨q', lends', same⟩ := (Owner.lenders_alike alike).2 q lends owns
      exact ⟨q', .lender within lends', same⟩

/-- What is within reach on one side corresponds to what is on the other side. -/
theorem Twins.lends (twins : Twins ρ left right) (r' : Resource) :
    Lends right r' ↔ ∃ r, Lends left r ∧ ρ r = r' := by
  constructor
  · rintro ⟨p, within, owns⟩
    obtain ⟨o, within, alike⟩ := twins.within' within (by rw [owns]; rfl)
    have same := Owner.resource_alike alike
    rw [owns] at same
    obtain ⟨r, owned, rfl⟩ := Option.map_eq_some_iff.1 same
    exact ⟨r, ⟨o, within, owned⟩, rfl⟩
  · rintro ⟨r, ⟨o, within, owns⟩, rfl⟩
    obtain ⟨p, within, alike⟩ := twins.within within (by rw [owns]; rfl)
    have same := Owner.resource_alike alike
    rw [owns] at same
    exact ⟨p, within, same.symm⟩

end Renaming

end SourceAtlas
