import Mathlib.Data.List.Forall2
import Mathlib.Data.Option.Basic
import SourceAtlas.Session.Answer

/-!
# Likeness

When two entities stand for the same thing in two runs. They agree in all that the engine said, and
their resources correspond; which cells they are kept in, and what they remember, may differ. A
renaming gives the resource of the second run for that of the first.
-/

namespace SourceAtlas

/-- A type whose values can stand for the same thing in two runs. -/
class Likeness (α : Type) where
  /-- Whether two values are alike up to a renaming of resources. -/
  Alike : (Resource → Resource) → α → α → Prop
  refl : ∀ a, Alike id a a

export Likeness (Alike)

instance : Likeness (Raw α) where
  Alike ρ a b := a.value = b.value ∧ ρ a.origin = b.origin
  refl _ := ⟨rfl, rfl⟩

instance [Likeness α] : Likeness (Option α) where
  Alike ρ := Option.Rel (Alike ρ)
  refl a := by
    cases a with
    | none => exact .none
    | some a => exact .some (Likeness.refl a)

theorem isSome_alike [Likeness α] {ρ : Resource → Resource} {a b : Option α} (alike : Alike ρ a b) :
    a.isSome = b.isSome := by
  cases alike <;> rfl

instance [Likeness α] : Likeness (List α) where
  Alike ρ := List.Forall₂ (Alike ρ)
  refl as := by
    induction as with
    | nil => exact .nil
    | cons a as ih => exact .cons (Likeness.refl a) ih

/-- What is left out of two lists is left out of both. -/
theorem alike_filterMap [Likeness α] {ρ : Resource → Resource} {β γ : Type} {is : List β}
    {js : List γ} {f : β → Option α} {g : γ → Option α}
    (alike : List.Forall₂ (fun i j => Alike ρ (f i) (g j)) is js) :
    Alike ρ (is.filterMap f) (js.filterMap g) := by
  induction alike with
  | nil => exact .nil
  | @cons i j is js first _ ih =>
      rw [List.filterMap_cons, List.filterMap_cons]
      generalize f i = a, g j = b at first
      cases first with
      | none => exact ih
      | some same => exact .cons same ih

/-- A fault holds no references. -/
instance [Holder α] : Holder (Except Fault α) where
  refs
    | .ok a => refs a
    | .error _ => []

instance [Likeness α] : Likeness (Except Fault α) where
  Alike ρ
    | .ok a, .ok b => Alike ρ a b
    | .error fault, .error fault' => fault = fault'
    | _, _ => False
  refl outcome := by
    cases outcome with
    | ok a => exact Likeness.refl a
    | error fault => rfl

/-! ## What owns a resource -/

instance : Likeness Index where
  Alike ρ a b := ρ a.resource = b.resource ∧ a.config = b.config
  refl _ := ⟨rfl, rfl⟩

instance : Likeness SourceUnit where
  Alike ρ a b := ρ a.resource = b.resource ∧ Alike ρ a.index b.index
  refl a := ⟨rfl, Likeness.refl a.index⟩

instance : Likeness Completion where
  Alike ρ a b := ρ a.resource = b.resource ∧ Alike ρ a.unit b.unit ∧ a.entry = b.entry
  refl a := ⟨rfl, Likeness.refl a.unit, rfl⟩

instance : Likeness TokenBatch where
  Alike ρ a b := ρ a.resource = b.resource ∧ Alike ρ a.unit b.unit ∧ a.tokens = b.tokens
  refl a := ⟨rfl, Likeness.refl a.unit, rfl⟩

instance : Likeness DiagnosticHandle where
  Alike ρ a b := ρ a.resource = b.resource ∧ a.entry = b.entry
  refl _ := ⟨rfl, rfl⟩

instance : Likeness Diagnostic where
  Alike ρ a b := Alike ρ a.handle b.handle ∧ Alike ρ a.ancestors b.ancestors ∧
    Alike ρ a.anchor b.anchor ∧ Alike ρ a.unit b.unit
  refl a := ⟨Likeness.refl a.handle, Likeness.refl a.ancestors, Likeness.refl a.anchor,
    Likeness.refl a.unit⟩

instance : Likeness Database where
  Alike ρ a b := ρ a.resource = b.resource ∧ a.entry = b.entry
  refl _ := ⟨rfl, rfl⟩

instance : Likeness CommandList where
  Alike ρ a b := ρ a.resource = b.resource ∧ Alike ρ a.database b.database ∧
    a.commands = b.commands
  refl a := ⟨rfl, Likeness.refl a.database, rfl⟩

/-! ## What belongs to a resource -/

instance : Likeness SourceFile where
  Alike ρ a b := Alike ρ a.raw b.raw ∧ Alike ρ a.unit b.unit
  refl a := ⟨Likeness.refl a.raw, Likeness.refl a.unit⟩

instance : Likeness Expansion where
  Alike ρ a b := Alike ρ a.file b.file ∧ a.line = b.line ∧ a.column = b.column ∧
    a.offset = b.offset
  refl a := ⟨Likeness.refl a.file, rfl, rfl, rfl⟩

instance : Likeness SourceLocation where
  Alike ρ a b := Alike ρ a.raw b.raw ∧ Alike ρ a.unit b.unit ∧ Alike ρ a.anchor b.anchor
  refl a := ⟨Likeness.refl a.raw, Likeness.refl a.unit, Likeness.refl a.anchor⟩

instance : Likeness SourceRange where
  Alike ρ a b := Alike ρ a.raw b.raw ∧ Alike ρ a.unit b.unit ∧ Alike ρ a.anchor b.anchor
  refl a := ⟨Likeness.refl a.raw, Likeness.refl a.unit, Likeness.refl a.anchor⟩

instance : Likeness Inclusion where
  Alike ρ a b := Alike ρ a.source b.source ∧ Alike ρ a.included b.included ∧
    Alike ρ a.location b.location ∧ a.depth = b.depth
  refl a := ⟨Likeness.refl a.source, Likeness.refl a.included, Likeness.refl a.location, rfl⟩

instance : Likeness SourceType where
  Alike ρ a b := Alike ρ a.raw b.raw ∧ Alike ρ a.unit b.unit
  refl a := ⟨Likeness.refl a.raw, Likeness.refl a.unit⟩

instance : Likeness ArgumentTypes where
  Alike ρ a b := Alike ρ a.type b.type ∧ a.length = b.length
  refl a := ⟨Likeness.refl a.type, rfl⟩

instance : Likeness Cursor where
  Alike ρ a b := Alike ρ a.raw b.raw ∧ Alike ρ a.unit b.unit ∧ Alike ρ a.parent b.parent
  refl a := ⟨Likeness.refl a.raw, Likeness.refl a.unit, Likeness.refl a.parent⟩

instance : Likeness TokenStream where
  Alike ρ a b := Alike ρ a.batch b.batch ∧ a.next = b.next
  refl a := ⟨Likeness.refl a.batch, rfl⟩

instance : Likeness Token where
  Alike ρ a b := Alike ρ a.batch b.batch ∧ a.position = b.position
  refl a := ⟨Likeness.refl a.batch, rfl⟩

instance : Likeness Walk where
  Alike ρ a b := Alike ρ a.pending b.pending
  refl a := Likeness.refl a.pending

instance : Likeness DiagnosticList where
  Alike ρ a b := Alike ρ a.unit b.unit
  refl a := Likeness.refl a.unit

instance : Likeness FixIt where
  Alike ρ a b := Alike ρ a.range b.range ∧ a.value = b.value
  refl a := ⟨Likeness.refl a.range, rfl⟩

instance : Likeness Candidate where
  Alike ρ a b := a.kind = b.kind ∧ Alike ρ a.string b.string ∧ Alike ρ a.results b.results
  refl a := ⟨rfl, Likeness.refl a.string, Likeness.refl a.results⟩

instance : Likeness CompletionString where
  Alike ρ a b := Alike ρ a.raw b.raw ∧ Alike ρ a.results b.results
  refl a := ⟨Likeness.refl a.raw, Likeness.refl a.results⟩

instance : Likeness Chunk where
  Alike ρ a b := Alike ρ a.string b.string ∧ a.position = b.position
  refl a := ⟨Likeness.refl a.string, rfl⟩

instance : Likeness CompileCommand where
  Alike ρ a b := Alike ρ a.raw b.raw ∧ Alike ρ a.list b.list
  refl a := ⟨Likeness.refl a.raw, Likeness.refl a.list⟩

/-! ## Objects and answers -/

/-- Whether two objects are of one kind and alike. -/
def Object.IsLike (ρ : Resource → Resource) : Object → Object → Prop
  | .index a, .index b => Alike ρ a b
  | .unit a, .unit b => Alike ρ a b
  | .cursor a, .cursor b => Alike ρ a b
  | .type a, .type b => Alike ρ a b
  | .argumentTypes a, .argumentTypes b => Alike ρ a b
  | .file a, .file b => Alike ρ a b
  | .location a, .location b => Alike ρ a b
  | .range a, .range b => Alike ρ a b
  | .inclusion a, .inclusion b => Alike ρ a b
  | .tokens a, .tokens b => Alike ρ a b
  | .token a, .token b => Alike ρ a b
  | .walk a, .walk b => Alike ρ a b
  | .diagnostics a, .diagnostics b => Alike ρ a b
  | .diagnostic a, .diagnostic b => Alike ρ a b
  | .fixIt a, .fixIt b => Alike ρ a b
  | .completion a, .completion b => Alike ρ a b
  | .candidate a, .candidate b => Alike ρ a b
  | .string a, .string b => Alike ρ a b
  | .chunk a, .chunk b => Alike ρ a b
  | .database a, .database b => Alike ρ a b
  | .commands a, .commands b => Alike ρ a b
  | .command a, .command b => Alike ρ a b
  | _, _ => False

instance : Likeness Object where
  Alike := Object.IsLike
  refl object := by cases object <;> exact Likeness.refl _

/-- Whether two answers show the same value, or alike objects. -/
def Answer.IsLike (ρ : Resource → Resource) : Answer → Answer → Prop
  | .plain a, .plain b => a = b
  | .object a, .object b => Alike ρ a b
  | .objects a, .objects b => Alike ρ a b
  | _, _ => False

instance : Likeness Answer where
  Alike := Answer.IsLike
  refl answer := by
    cases answer with
    | plain value => exact rfl
    | object object => exact Likeness.refl object
    | objects objects => exact Likeness.refl objects

end SourceAtlas
