import SourceAtlas.Store.Trace

/-!
# The ledger

What a trace says about resources. A resource is out from its acquisition until it is disposed of.
The engine hands a resource out in answer to an event, and the resource borrows from whatever that
event used. A clean trace never uses a resource that is not out, and gives a resource back only
while everything that it borrows from is still out. Traces are listed newest first.
-/

namespace SourceAtlas

/-- Whether a resource has been acquired and not been disposed of since. -/
def IsOut (trace : List Event) (resource : Resource) : Prop :=
  .acquired resource ∈ trace ∧ .disposed resource ∉ trace

/-- Whether the first resource was handed out in answer to an event that used the second. -/
inductive Borrows : List Event → Resource → Resource → Prop
  | acquired {r s : Resource} {event : Event} {older : List Event} :
      s ∈ event.operands → Borrows (.acquired r :: event :: older) r s
  | later {r s : Resource} {event : Event} {older : List Event} :
      Borrows older r s → Borrows (event :: older) r s

/-- The resources that an event needs after some earlier events: its operands, and for a resource
that is given back the resource itself and what it borrows from. -/
inductive Event.Uses (earlier : List Event) : Event → Resource → Prop
  | operand {event : Event} {r : Resource} : r ∈ event.operands → Uses earlier event r
  | itself {r : Resource} : Uses earlier (.disposed r) r
  | lender {r s : Resource} : Borrows earlier r s → Uses earlier (.disposed r) s

/-- The kinds of resource that a resource of some kind can borrow from. -/
def ResourceKind.lenders : ResourceKind → List ResourceKind
  | .index | .database => []
  | .unit => [.index]
  | .diagnostic => [.unit, .diagnostic, .completion]
  | .tokens | .completion => [.unit]
  | .commands => [.database]

/-- The kind of resource that the engine may hand out in answer to an event. -/
def Event.handsOut? : Event → Option ResourceKind
  | .requested (.createIndex _) => some .index
  | .requested (.parse ..) | .requested (.read ..) => some .unit
  | .requested (.complete ..) => some .completion
  | .requested (.openDatabase _) => some .database
  | .requested (.findCommands ..) | .asked .allCommands _ _ => some .commands
  | .asked (.tokenize _) _ _ => some .tokens
  | .asked (.unitDiagnostic _) _ _ | .asked (.childDiagnostic _) _ _
  | .asked (.completionDiagnostic _) _ _ => some .diagnostic
  | _ => none

/-- The kind of resource from which a resource that is handed out in answer to an event borrows. -/
def Event.lender? : Event → Option ResourceKind
  | .requested (.parse ..) | .requested (.read ..) => some .index
  | .requested (.complete ..) | .asked (.tokenize _) _ _ | .asked (.unitDiagnostic _) _ _ =>
    some .unit
  | .asked (.childDiagnostic _) _ _ => some .diagnostic
  | .asked (.completionDiagnostic _) _ _ => some .completion
  | .requested (.findCommands ..) | .asked .allCommands _ _ => some .database
  | _ => none

/-- Whether an event asks for a resource of some kind, and uses what such a resource borrows from. -/
structure Event.Provides (event : Event) (kind : ResourceKind) : Prop where
  asks : event.handsOut? = some kind
  lends : ∀ s ∈ event.operands, event.lender? = some s.kind
  nonempty : kind.lenders ≠ [] → event.operands ≠ []

/-- Whether a question is about values that must come from one source. -/
def Question.joins : Question → Bool
  | .tokenize _ | .cursorAt _ | .makeSpan => true
  | _ => false

/-- Whether an event that is about values from one source uses a single resource. -/
def Event.Unmixed : Event → Prop
  | .asked question operands _ => question.joins = true → ∀ r ∈ operands, ∀ s ∈ operands, r = s
  | _ => True

/-- Whether an event may come after some earlier events. -/
structure Event.Follows (event : Event) (earlier : List Event) : Prop where
  /-- What is handed out is new, and was asked for just before. -/
  acquires : ∀ r, event = .acquired r → (∀ s, .acquired s ∈ earlier → s.serial < r.serial) ∧
    ∃ prior older, earlier = prior :: older ∧ prior.Provides r.kind
  uses : ∀ r, event.Uses earlier r → IsOut earlier r
  unmixed : event.Unmixed

/-- Whether every event needs only what is out when it happens, every resource that is handed out is
a new one that was asked for just before, and nothing mixes values from several sources. -/
def Clean : List Event → Prop
  | [] => True
  | event :: earlier => Clean earlier ∧ event.Follows earlier

variable {trace newer older : List Event} {event : Event} {r s : Resource}

theorem Clean.tail (clean : Clean (newer ++ older)) : Clean older := by
  induction newer with
  | nil => exact clean
  | cons event newer ih => exact ih clean.1

/-- What an event needs is out when it happens. -/
theorem Clean.isOut_of_uses (clean : Clean (newer ++ event :: older))
    (uses : event.Uses older r) : IsOut older r :=
  clean.tail.2.uses r uses

/-- Other resources stay as they are when something happens to one. -/
theorem isOut_cons_of_ne (acquired : event ≠ .acquired r) (disposed : event ≠ .disposed r) :
    IsOut (event :: older) r ↔ IsOut older r := by
  simp only [IsOut, List.mem_cons, not_or]
  constructor
  · rintro ⟨found | found, -, absent⟩
    · exact absurd found.symm acquired
    · exact ⟨found, absent⟩
  · rintro ⟨found, absent⟩
    exact ⟨.inr found, disposed.symm, absent⟩

/-- What is joined comes from one source. -/
theorem Clean.unmixed (clean : Clean trace) : ∀ event ∈ trace, event.Unmixed := by
  induction trace with
  | nil => exact fun _ absent => absurd absent List.not_mem_nil
  | cons event earlier ih => exact List.forall_mem_cons.2 ⟨clean.2.unmixed, ih clean.1⟩

/-! ## Resources are handed out once and given back once -/

theorem Clean.not_acquired_before (clean : Clean (newer ++ .acquired r :: older)) :
    .acquired r ∉ older := by
  intro found
  exact Nat.lt_irrefl _ ((clean.tail.2.acquires r rfl).1 r found)

theorem Clean.not_disposed_before (clean : Clean (newer ++ .disposed r :: older)) :
    .disposed r ∉ older :=
  (clean.isOut_of_uses .itself).2

/-- No resource is given back before it has been handed out. -/
theorem Clean.acquired_before (clean : Clean (newer ++ .disposed r :: older)) :
    .acquired r ∈ older :=
  (clean.isOut_of_uses .itself).1

theorem Clean.acquired_of_disposed (clean : Clean trace) (gone : .disposed r ∈ trace) :
    .acquired r ∈ trace := by
  obtain ⟨newer, older, rfl⟩ := List.append_of_mem gone
  exact List.mem_append_right _ (List.mem_cons_of_mem _ clean.acquired_before)

/-- An event that cannot happen again happens at most once. -/
theorem count_le_one (once : ∀ newer older, trace = newer ++ event :: older → event ∉ older) :
    trace.count event ≤ 1 := by
  by_cases found : event ∈ trace
  · obtain ⟨newer, older, split, absent⟩ := List.eq_append_cons_of_mem found
    subst split
    have first : newer.count event = 0 := List.count_eq_zero.2 absent
    have last : older.count event = 0 := List.count_eq_zero.2 (once newer older rfl)
    simp [first, last]
  · rw [List.count_eq_zero.2 found]
    exact Nat.zero_le 1

theorem Clean.count_acquired_le_one (clean : Clean trace) (r : Resource) :
    trace.count (.acquired r) ≤ 1 :=
  count_le_one fun _ _ split => (split ▸ clean).not_acquired_before

theorem Clean.count_disposed_le_one (clean : Clean trace) (r : Resource) :
    trace.count (.disposed r) ≤ 1 :=
  count_le_one fun _ _ split => (split ▸ clean).not_disposed_before

/-! ## What a resource borrows from outlives it -/

theorem Borrows.acquired_mem (borrows : Borrows trace r s) : .acquired r ∈ trace := by
  induction borrows with
  | acquired _ => exact List.mem_cons_self
  | later _ ih => exact List.mem_cons_of_mem _ ih

theorem Borrows.append (newer : List Event) (borrows : Borrows older r s) :
    Borrows (newer ++ older) r s := by
  induction newer with
  | nil => exact borrows
  | cons event newer ih => exact .later ih

/-- From whom a resource borrows is settled when it is handed out. -/
theorem Borrows.of_later (newer : List Event) (borrows : Borrows (newer ++ older) r s)
    (absent : .acquired r ∉ newer) : Borrows older r s := by
  induction newer with
  | nil => exact borrows
  | cons event newer ih =>
      rw [List.mem_cons, not_or] at absent
      rw [List.cons_append] at borrows
      generalize rest : newer ++ older = trace at borrows ih
      cases borrows with
      | acquired _ => exact absurd rfl absent.1
      | later borrows => exact ih borrows absent.2

/-- A resource that can borrow does borrow from something. -/
theorem Clean.exists_borrows (clean : Clean trace) (found : .acquired r ∈ trace)
    (can : r.kind.lenders ≠ []) : ∃ s, Borrows trace r s := by
  obtain ⟨newer, older, rfl⟩ := List.append_of_mem found
  obtain ⟨prior, earlier, rfl, provides⟩ := (clean.tail.2.acquires r rfl).2
  obtain ⟨s, operand⟩ := List.exists_mem_of_ne_nil _ (provides.nonempty can)
  exact ⟨s, (Borrows.acquired operand).append newer⟩

/-- A resource borrows only from older ones. -/
theorem Clean.serial_lt (clean : Clean trace) (borrows : Borrows trace r s) :
    s.serial < r.serial := by
  induction borrows with
  | acquired operand =>
      have out := clean.1.2.uses _ (.operand operand)
      exact (clean.2.acquires _ rfl).1 _ (List.mem_cons_of_mem _ out.1)
  | later _ ih => exact ih clean.1

theorem Clean.acquired_not_mem_newer (clean : Clean (newer ++ older))
    (found : .acquired r ∈ older) : .acquired r ∉ newer := by
  intro again
  have twice : 2 ≤ (newer ++ older).count (.acquired r) := by
    rw [List.count_append]
    have := List.count_pos_iff.2 again
    have := List.count_pos_iff.2 found
    omega
  have := clean.count_acquired_le_one r
  omega

/-- A resource is given back strictly before any resource that it borrows from. -/
theorem Clean.disposed_in_order (clean : Clean trace) (borrows : Borrows trace r s)
    (gone : .disposed r ∈ trace) (lender : .disposed s ∈ trace) :
    ∃ a b c, trace = a ++ .disposed s :: b ++ .disposed r :: c := by
  obtain ⟨newer, older, rfl⟩ := List.append_of_mem gone
  have found := clean.acquired_before
  have absent : .acquired r ∉ newer ++ [.disposed r] := by
    have clean : Clean ((newer ++ [.disposed r]) ++ older) := by simpa using clean
    exact clean.acquired_not_mem_newer found
  have borrowed : Borrows older r s := by
    refine Borrows.of_later (newer ++ [.disposed r]) ?_ absent
    simpa using borrows
  have out : IsOut older s := clean.isOut_of_uses (.lender borrowed)
  have different : s ≠ r := by
    rintro rfl
    exact Nat.lt_irrefl _ (clean.serial_lt borrows)
  have member : .disposed s ∈ newer := by
    rcases List.mem_append.1 lender with member | member
    · exact member
    · rcases List.mem_cons.1 member with same | member
      · exact absurd (Event.disposed.inj same) different
      · exact absurd member out.2
  obtain ⟨a, b, rfl⟩ := List.append_of_mem member
  exact ⟨a, b, older, by simp⟩

end SourceAtlas
