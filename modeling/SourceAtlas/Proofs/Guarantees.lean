import SourceAtlas.Proofs.Reparse

/-!
# Guarantees

What can be said of an action because of what it is made of. A guarantee is a property of actions
that the small ones have and that is kept when actions are put together, so whether a query has it
is read off from its parts: there is one fact for each way of putting actions together, one for each
action that several queries use, and one for each kind of object. What only some guarantees allow,
such as to fail or to count references, is asked for where an action needs it.
-/

namespace SourceAtlas

/-! ## Questions that are out of the ordinary -/

/-- What can be remembered of the engine's answers in a cell of the store. -/
inductive MemoKind where
  | spelling | displayName | location | extent | type | canonical | semanticParent | lexicalParent
  | enumValue | hash | unitSpelling
deriving DecidableEq, Repr

/-- The memo for the answer to a question, if there is one. -/
@[reducible] def Question.memoKind? : Question → Option MemoKind
  | .cursorText .spelling => some .spelling
  | .cursorText .displayName => some .displayName
  | .cursorLocation => some .location
  | .cursorExtent => some .extent
  | .cursorType .type => some .type
  | .cursorLink .canonical => some .canonical
  | .cursorLink .semanticParent => some .semanticParent
  | .cursorLink .lexicalParent => some .lexicalParent
  | .enumConstant _ => some .enumValue
  | .cursorHash => some .hash
  | .unitSpelling => some .unitSpelling
  | _ => none

/-- What a question visits the nodes below of, if it is a visitation. -/
@[reducible] def Question.visited? : Question → Option Ref
  | .children cursor => some cursor
  | .fields type => some type
  | _ => none

/-- Whether there is no value. -/
class IsAbsent (value : Option α) : Prop where
  absent : value = none

instance : IsAbsent (none : Option α) := ⟨rfl⟩

/-- Whether a question is no visitation. -/
abbrev Question.Plain (question : Question) : Prop :=
  IsAbsent question.visited?

/-- Whether a question is no visitation, and there is no memo for its answer. -/
class Question.Free (question : Question) : Prop where
  plain : question.visited? = none
  free : question.memoKind? = none

instance (question : Question) [plain : question.Plain] [free : IsAbsent question.memoKind?] :
    question.Free :=
  ⟨plain.absent, free.absent⟩

namespace Act

/-! ## Guarantees -/

/-- A property of actions that those have which are made of actions that have it. What follows an
action only needs to have it for what the action can return. -/
structure Guarantee (setting : Setting) where
  Holds : ∀ {α : Type}, Act α → Prop
  pure : ∀ {α : Type} (a : α), Holds (Pure.pure a : Act α)
  bind : ∀ {α β : Type} {x : Act α} {f : α → Act β}, Holds x →
    (∀ w a v, x.exec setting w = (.ok a, v) → Holds (f a)) → Holds (x >>= f)
  read : Holds (MonadReaderOf.read : Act Setting)
  get : Holds (MonadState.get : Act World)
  ask : ∀ (question : Question) [question.Free] (operands : List Resource),
    Holds (Act.ask question operands)
  takeText : ∀ text, Holds (Act.takeText text)
  copyText : ∀ serial text, Holds (Act.copyText serial text)

/-- Whether an action has the property that is guaranteed. -/
class Guarantee.Covers {setting : Setting} (G : Guarantee setting) (x : Act α) : Prop where
  holds : G.Holds x

namespace Guarantee

variable {setting : Setting}

/-- Whether references may be counted, and resources taken and given back. -/
class Counting (G : Guarantee setting) : Prop where
  retain : ∀ cells, G.Holds (update (·.retainAll cells))
  release : ∀ cells, G.Holds (update (·.release cells))
  alloc : ∀ resource content, G.Holds (updateGet (·.alloc resource content))
  acquire : ∀ kind label, G.Holds (updateGet (·.acquire kind label))
  dispose : ∀ resource, G.Holds (update (·.dispose resource))
  countIndex : G.Holds (updateGet fun w => ({ w with indexes := w.indexes + 1 }, w.indexes))
  countList : G.Holds
    (updateGet fun w => ({ w with commandLists := w.commandLists + 1 }, w.commandLists))
  addUnit : ∀ table, G.Holds
    (updateGet fun w => ({ w with instances := w.instances.push table }, w.instances.size))

/-- Whether a unit may get another entry of the tables. -/
class Renewing (G : Guarantee setting) : Prop where
  renewUnit : ∀ unit table, G.Holds (update (·.retable unit table))

/-- Whether an action may fail. -/
class Failing (G : Guarantee setting) : Prop where
  fail : ∀ {α : Type} (failure : Failure), G.Holds (Act.fail failure : Act α)

/-- Whether requests may be made. -/
class Requesting (G : Guarantee setting) : Prop where
  request : ∀ asked, G.Holds (Act.request asked)

/-- Whether any question may be asked. -/
class Asking (G : Guarantee setting) : Prop where
  ask : ∀ question operands memo, G.Holds (Act.ask question operands memo)

/-- Whether the children of cursors and the fields of types may be visited. -/
class Visiting (G : Guarantee setting) : Prop where
  children : ∀ cursor : Cursor, G.Holds cursor.children
  fields : ∀ type : SourceType, G.Holds type.fields

/-- Whether an action may find a defect of the engine. -/
class Panicking (G : Guarantee setting) : Prop where
  panic : ∀ {α : Type} (panic : Panic), G.Holds (throw (.panic panic) : Act α)

/-- Whether a fault may be caught. -/
class Attempting (G : Guarantee setting) : Prop where
  attempt : ∀ {α : Type} {x : Act α}, G.Holds x → G.Holds (Act.attempt x)

/-- Whether units may be asked for their spelling. -/
class Naming (G : Guarantee setting) : Prop where
  spelling : ∀ unit : SourceUnit, G.Holds unit.spelling

/-- Whether answers may be remembered. -/
class Remembering (G : Guarantee setting) : Prop where
  ask : ∀ (question : Question) [question.Plain] operands memo,
    G.Holds (Act.ask question operands memo)
  remember : ∀ {α : Type} [Holder α] (cell : CellId) (slot : MemoSlot α) (answer : α),
    G.Holds (update (·.remember cell slot answer))
  respell : ∀ cell spelling, G.Holds (update (·.setUnitSpelling cell spelling))

/-- Whether the engine may be loaded. -/
class Loading (G : Guarantee setting) : Prop where
  load : G.Holds Act.load

end Guarantee

/-! ## Putting actions together -/

variable {setting : Setting} {G : Guarantee setting} {α β : Type} {x y : Act α} {f : α → Act β}

/-- The second action need not have the property for everything, only for what the first one can
return. -/
theorem Guarantee.Covers.after [first : G.Covers x]
    (next : ∀ w a v, x.exec setting w = (.ok a, v) → G.Covers (f a)) : G.Covers (x >>= f) :=
  ⟨G.bind first.holds fun w a v ran => (next w a v ran).holds⟩

theorem Guarantee.Covers.bind (first : G.Covers x) (next : ∀ a, G.Covers (f a)) :
    G.Covers (x >>= f) :=
  first.after fun _ a _ _ => next a

instance [first : G.Covers x] [next : ∀ a, G.Covers (f a)] : G.Covers (x >>= f) :=
  first.bind next

instance (a : α) : G.Covers (pure a : Act α) := ⟨G.pure a⟩

instance {g : α → β} [G.Covers x] : G.Covers (g <$> x) := by
  rw [← bind_pure_comp]
  infer_instance

instance (c : Prop) [Decidable c] [G.Covers x] [G.Covers y] : G.Covers (if c then x else y) := by
  split <;> infer_instance

instance (list : List α) [each : ∀ a, G.Covers (f a)] : G.Covers (list.mapM f) := by
  induction list with
  | nil => exact inferInstanceAs (G.Covers (pure []))
  | cons a rest ih =>
      rw [List.mapM_cons]
      infer_instance

instance (value : Option α) [each : ∀ a, G.Covers (f a)] : G.Covers (value.mapM f) := by
  cases value with
  | none => exact inferInstanceAs (G.Covers (pure none))
  | some a => exact inferInstanceAs (G.Covers (some <$> f a))

/-! ## Small actions -/

instance : G.Covers (read : Act Setting) := ⟨G.read⟩

instance : G.Covers (get : Act World) := ⟨G.get⟩

instance : G.Covers Act.engine := by
  unfold Act.engine; infer_instance

instance (question : Question) [question.Free] (operands : List Resource) :
    G.Covers (ask question operands) :=
  ⟨G.ask question operands⟩

instance [requests : G.Requesting] (asked : Request) : G.Covers (request asked) :=
  ⟨requests.request asked⟩

instance (told : EngineText) : G.Covers (takeText told) := ⟨G.takeText told⟩

instance (serial : Nat) (told : EngineText) : G.Covers (copyText serial told) :=
  ⟨G.copyText serial told⟩

instance (told : EngineText) : G.Covers (text? told) := by
  unfold text?; infer_instance

instance (told : EngineText) : G.Covers (text told) := by
  unfold text; infer_instance

instance (unit : Resource) : G.Covers (table unit) := by
  unfold table; infer_instance

instance [loads : G.Loading] : G.Covers load := ⟨loads.load⟩

/-! ### Faults -/

section Faults

instance [fails : G.Failing] (failure : Failure) : G.Covers (fail failure : Act α) :=
  ⟨fails.fail failure⟩

/-- Nothing follows a failure. -/
instance [G.Failing] (failure : Failure) : G.Covers (fail failure >>= f) :=
  .after fun _ _ _ ran => nomatch (Prod.mk.inj ran).1

instance [G.Failing] (result : Except Failure α) : G.Covers (ofExcept result) := by
  cases result <;> unfold ofExcept <;> infer_instance

instance [G.Failing] (texts : List Bytes) : G.Covers (checkTexts texts) := by
  unfold checkTexts
  split <;> infer_instance

instance [panics : G.Panicking] (panic : Panic) : G.Covers (throw (.panic panic) : Act α) :=
  ⟨panics.panic panic⟩

instance [G.Panicking] (result : Except Panic α) : G.Covers (ofPanic result) := by
  cases result <;> unfold ofPanic <;> infer_instance

instance [attempts : G.Attempting] [covered : G.Covers x] : G.Covers (attempt x) :=
  ⟨attempts.attempt covered.holds⟩

end Faults

/-! ### References -/

section Counting

variable [counts : G.Counting]

instance [Holder α] (value : α) : G.Covers (keep value) := by
  have : G.Covers (update (·.retainAll (refs value))) := ⟨counts.retain _⟩
  unfold keep; infer_instance

instance [Holder α] (value : α) : G.Covers (drop value) := ⟨counts.release _⟩

instance (resource : Option Resource) (content : Content) :
    G.Covers (newCell resource content) := by
  have (content : Content) : G.Covers (updateGet (·.alloc resource content)) :=
    ⟨counts.alloc resource content⟩
  unfold newCell; infer_instance

instance (kind : ResourceKind) (label : Nat) : G.Covers (acquire kind label) :=
  ⟨counts.acquire kind label⟩

instance (resource : Resource) : G.Covers (dispose resource) := ⟨counts.dispose resource⟩

end Counting

/-! ### Memory -/

section Remembering

variable [remembers : G.Remembering]

instance (question : Question) [question.Plain] (operands : List Resource)
    (memo : Option CellId) : G.Covers (ask question operands memo) :=
  ⟨remembers.ask question operands memo⟩

instance [Holder α] (cell : CellId) (slot : MemoSlot α) (answer : α) :
    G.Covers (update (·.remember cell slot answer)) :=
  ⟨remembers.remember cell slot answer⟩

instance [Holder α] (cell : CellId) (slot : MemoSlot α) [G.Covers x] :
    G.Covers (memoized cell slot x) := by
  unfold memoized
  refine .bind inferInstance fun _ => .bind inferInstance fun _ => ?_
  split <;> infer_instance

end Remembering

end Act

open Act

variable {setting : Setting} {G : Guarantee setting}

namespace Raw

variable {α β : Type} (raw : Raw α) (question : Question)

section Free

variable [question.Free]

instance (answer : Engine → α → β) : G.Covers (raw.ask question answer) := by
  unfold Raw.ask; infer_instance

instance (answer : Engine → α → β) : G.Covers (raw.derive question answer) := by
  unfold derive; infer_instance

instance (answer : Engine → α → EngineText) : G.Covers (raw.askText? question answer) := by
  unfold askText?; infer_instance

instance (answer : Engine → α → EngineText) : G.Covers (raw.askText question answer) := by
  unfold askText; infer_instance

end Free

section Remembering

variable [question.Plain] [G.Remembering] (memo : Option CellId)

instance (answer : Engine → α → β) : G.Covers (raw.ask question answer memo) := by
  unfold Raw.ask; infer_instance

instance (answer : Engine → α → β) : G.Covers (raw.derive question answer memo) := by
  unfold derive; infer_instance

instance (answer : Engine → α → EngineText) : G.Covers (raw.askText? question answer memo) := by
  unfold askText?; infer_instance

instance (answer : Engine → α → EngineText) : G.Covers (raw.askText question answer memo) := by
  unfold askText; infer_instance

end Remembering

end Raw

namespace SourceUnit

variable (unit : SourceUnit)

instance [remembers : G.Remembering] : G.Naming where
  spelling unit := by
    have (cell : CellId) (name : String) : G.Covers (update (·.setUnitSpelling cell name)) :=
      ⟨remembers.respell cell name⟩
    have covered : G.Covers unit.spelling := by
      unfold spelling
      refine .bind inferInstance fun _ => .bind inferInstance fun _ => ?_
      split <;> infer_instance
    exact covered.holds

instance [names : G.Naming] : G.Covers unit.spelling := ⟨names.spelling unit⟩

instance [G.Naming] : G.Covers unit.inspect := by
  unfold inspect; infer_instance

instance : G.Covers unit.entry := by
  unfold entry; infer_instance

instance [G.Failing] (operation : String) (status : Int32) (problem? : Int → Option Failure) :
    G.Covers (checkStatus operation status problem?) := by
  unfold checkStatus; infer_instance

end SourceUnit

end SourceAtlas
