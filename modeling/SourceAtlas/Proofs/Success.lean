import SourceAtlas.Proofs.Sessions

/-!
# Actions that succeed

What two runs in lockstep say of one run. An action that runs beside itself whatever is held after a
fault cannot end with a fault at all.
-/

namespace SourceAtlas

open Duo

variable {engine : Engine} {side : Side} {held : Held} {facts : Facts} {τ : Typing} {w : World}
variable {α : Type}

/-- What a run can use can be used by the run beside itself. -/
theorem Usable.beside [Holder α] [Likeness α] [Entity α] {a : α} (usable : Usable engine held a) :
    (alone engine side).Pair (held, held) a a := by
  refine ⟨usable, usable, ?_⟩
  have same : (Duo.alone engine side).shift.rename = id := Shift.rename_zero
  rw [same]
  exact Likeness.refl a

/-- What is absent can be used. -/
theorem Usable.absent [Holder α] [Likeness α] [Entity α] :
    Usable engine held (none : Option α) :=
  ⟨fun _ absent => (nomatch absent), fun _ absent => absurd absent List.not_mem_nil⟩

theorem Inv.holds_alone (inv : Inv engine side facts τ held w) :
    (alone engine side).Holds facts (held, held) w w :=
  ⟨facts, facts, .refl facts, .refl facts, ⟨τ, inv⟩, τ, inv⟩

/-- Two owners of one cell, which nobody can hold. -/
def Grip.impossible : Grip :=
  (Owner.index ⟨0, ⟨.index, 0, 0⟩, ⟨false, false⟩⟩ ::ₘ
    {Owner.database ⟨0, ⟨.database, 0, 0⟩, default⟩}, 0)

theorem not_holds_impossible {D : Duo} {base : Facts} {w w' : World} :
    ¬ D.Holds base Grip.impossible w w' := by
  rintro ⟨_, _, -, -, ⟨τ, inv⟩, -⟩
  have owns : ∀ o ∈ Grip.impossible.1, τ o.cell = some o := inv.owns
  simp only [Grip.impossible, Multiset.forall_mem_cons, Multiset.mem_singleton, forall_eq] at owns
  exact nomatch owns.1.symm.trans owns.2

/-- An action that ends alike beside itself, whatever is held after a fault, succeeds. -/
theorem Duo.Runs.succeeds {x : Act α} {R : α → α → Prop} {K : α → α → Grip}
    (runs : (alone engine side).Runs (held, held) Grip.impossible x x R K)
    (inv : Inv engine side facts τ held w) :
    ∃ a v, x.exec (side.setting engine) w = (.ok a, v) ∧ R a a := by
  rcases runs facts w w inv.holds_alone with
    ⟨a, b, v, v', ran, ran', related, -⟩ | ⟨_, _, _, _, _, holds⟩
  · obtain ⟨same, -⟩ := Prod.mk.inj (ran.symm.trans ran')
    obtain rfl := Except.ok.inj same
    exact ⟨a, v, ran, related⟩
  · exact absurd holds not_holds_impossible

/-- What a run that succeeds tells of itself if it is beside itself. -/
theorem Duo.Runs.ran {F : Grip} {x : Act α} {R : α → α → Prop} {K : α → α → Grip} {v : World} {a : α}
    (runs : (alone engine side).Runs (held, held) F x x R K) (inv : At engine side held facts w)
    (ran : x.exec (side.setting engine) w = (.ok a, v)) :
    R a a ∧ ∃ facts', At engine side (K a a).1 facts' v := by
  rcases runs facts w w ⟨facts, facts, .refl facts, .refl facts, inv, inv⟩ with
    ⟨b, c, u, u', ran', ran'', related, facts', -, -, -, inv', -⟩ | ⟨fault, u, -, failed, -⟩
  · obtain ⟨same, rfl⟩ := Prod.mk.inj (ran'.symm.trans ran)
    obtain rfl := Except.ok.inj same
    obtain ⟨same, -⟩ := Prod.mk.inj (ran''.symm.trans ran)
    obtain rfl := Except.ok.inj same
    exact ⟨related, facts', inv'⟩
  · exact nomatch (Prod.mk.inj (failed.symm.trans ran)).1

end SourceAtlas
