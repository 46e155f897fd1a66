import SourceAtlas.Proofs.Recall

/-!
# Two runs in lockstep

Two runs of the same actions, from stores that are in order and of which the same could be observed,
end alike: with alike values, or with the same fault. The runs may differ in what they remember and
in where things are kept. One of them may also have taken more resources before, so that resources
taken from then on have higher numbers there. A run side by side with itself tells what one run does.
-/

namespace SourceAtlas

/-- By how much the numbers of later resources are higher in the second of two runs. -/
structure Shift where
  /-- The number of the first resource that is shifted. -/
  base : Nat := 0
  serials : Nat := 0
  units : Nat := 0
  indexes : Nat := 0
  lists : Nat := 0

namespace Shift

def label (shift : Shift) : ResourceKind → Nat
  | .unit => shift.units
  | .index => shift.indexes
  | .commands => shift.lists
  | _ => 0

/-- The resource of the second run for one of the first run. -/
def rename (shift : Shift) (r : Resource) : Resource :=
  if r.serial < shift.base then r
  else ⟨r.kind, r.serial + shift.serials, r.label + shift.label r.kind⟩

theorem rename_injective (shift : Shift) : Function.Injective shift.rename := by
  rintro ⟨kind, serial, label⟩ ⟨kind', serial', label'⟩ same
  unfold rename at same
  dsimp only at same
  split at same <;> split at same
  · exact same
  · have := congrArg Resource.serial same
    dsimp only at this
    omega
  · have := congrArg Resource.serial same
    dsimp only at this
    omega
  · obtain ⟨rfl, serials, labels⟩ := Resource.mk.inj same
    rw [Nat.add_right_cancel serials, Nat.add_right_cancel labels]

theorem kind_rename (shift : Shift) (r : Resource) : (shift.rename r).kind = r.kind := by
  unfold rename
  split <;> rfl

theorem rename_zero : ({} : Shift).rename = id := by
  funext ⟨kind, serial, label⟩
  cases kind <;> rfl

/-- Whether the same could be observed of two stores. -/
structure Links (shift : Shift) (facts facts' : Facts) : Prop where
  base : shift.base ≤ facts.acquired
  acquired : facts'.acquired = facts.acquired + shift.serials
  units : facts'.units = facts.units + shift.units
  indexes : facts'.indexes = facts.indexes + shift.indexes
  lists : facts'.lists = facts.lists + shift.lists
  loaded : facts'.loaded = facts.loaded
  table : ∀ r, facts'.table (shift.rename r) = facts.table r
  spelling : ∀ r, facts'.spelling (shift.rename r) = facts.spelling r

theorem Links.refl (facts : Facts) : Links {} facts facts where
  base := Nat.zero_le _
  acquired := rfl
  units := rfl
  indexes := rfl
  lists := rfl
  loaded := rfl
  table r := congrArg facts.table (congrFun rename_zero r)
  spelling r := congrArg facts.spelling (congrFun rename_zero r)

end Shift

/-- Whether what was observed before still holds, and no more than new resources have come up. -/
structure Facts.Grows (base facts : Facts) : Prop where
  acquired : base.acquired ≤ facts.acquired
  units : base.units ≤ facts.units
  indexes : base.indexes ≤ facts.indexes
  lists : base.lists ≤ facts.lists
  table : ∀ r, r.serial < base.acquired → facts.table r = base.table r
  spelling : ∀ r, r.serial < base.acquired → facts.spelling r = base.spelling r

theorem Facts.Grows.refl (facts : Facts) : facts.Grows facts :=
  ⟨Nat.le_refl _, Nat.le_refl _, Nat.le_refl _, Nat.le_refl _, fun _ _ => rfl, fun _ _ => rfl⟩

/-- Two runs side by side. -/
structure Duo where
  engine : Engine
  left : Side
  right : Side
  shift : Shift := {}

/-- What the first and the second of two runs hold. -/
abbrev Grip := Held × Held

/-- Whether either run can use its one of two resources. -/
def Grip.Lends (H : Grip) (r r' : Resource) : Prop :=
  SourceAtlas.Lends H.1 r ∧ SourceAtlas.Lends H.2 r'

/-- More is held by both runs. -/
def Grip.add [Holder α] [Likeness α] [Entity α] (H : Grip) (a b : α) : Grip :=
  (owners a + H.1, owners b + H.2)

namespace Duo

variable (D : Duo)

/-- Whether two stores are in order, the same could be observed of them, and what was observed of
the first one before still holds. -/
def Holds (base : Facts) (H : Grip) (w w' : World) : Prop :=
  ∃ facts facts', base.Grows facts ∧ D.shift.Links facts facts' ∧
    At D.engine D.left H.1 facts w ∧ At D.engine D.right H.2 facts' w'

/-- Whether two values belong to what they hold, and are alike. -/
structure Match [Holder α] [Likeness α] [Entity α] (a b : α) : Prop where
  left : Coherent D.engine a
  right : Coherent D.engine b
  alike : Alike D.shift.rename a b

/-- Whether two values can be used by their runs, and are alike. -/
structure Pair [Holder α] [Likeness α] [Entity α] (H : Grip) (a b : α) : Prop where
  left : Usable D.engine H.1 a
  right : Usable D.engine H.2 b
  alike : Alike D.shift.rename a b

/-- Whether two raw values can be used by their runs, and are the same. -/
structure RawPair (H : Grip) (a b : Raw α) : Prop where
  left : Lends H.1 a.origin
  right : Lends H.2 b.origin
  alike : Alike D.shift.rename a b

/-- Whether two actions end alike when they run from stores that are in some relation. -/
def Lockstep (P : World → World → Prop) (x y : Act α) (Q : α → α → World → World → Prop)
    (F : World → World → Prop) : Prop :=
  ∀ w w', P w w' →
    (∃ a b v v', x.exec (D.left.setting D.engine) w = (.ok a, v) ∧
      y.exec (D.right.setting D.engine) w' = (.ok b, v') ∧ Q a b v v') ∨
    ∃ fault v v', x.exec (D.left.setting D.engine) w = (.error fault, v) ∧
      y.exec (D.right.setting D.engine) w' = (.error fault, v') ∧ F v v'

/-- Whether two actions end alike while something is held. If they succeed, then their results are
in some relation and something else is held; after a fault, what is held is the second grip. -/
def Runs (H F : Grip) (x y : Act α) (R : α → α → Prop) (K : α → α → Grip) : Prop :=
  ∀ base, D.Lockstep (D.Holds base H) x y (fun a b w w' => R a b ∧ D.Holds base (K a b) w w')
    (D.Holds base F)

/-- Two actions that return the same value, which holds nothing. -/
abbrev Same (H F : Grip) (x y : Act α) : Prop :=
  D.Runs H F x y (· = ·) fun _ _ => H

/-- Two actions that return alike values with references of their own. -/
abbrev Gives [Holder α] [Likeness α] [Entity α] (H F : Grip) (x y : Act α) : Prop :=
  D.Runs H F x y D.Match fun a b => H.add a b

/-- Two actions that return alike values without references of their own. -/
abbrev Shares [Holder α] [Likeness α] [Entity α] (H F : Grip) (x y : Act α) : Prop :=
  D.Runs H F x y (D.Pair H) fun _ _ => H

variable {D} {H F : Grip} {α β : Type}

/-! ## Pairs -/

theorem Grip.le_add [Holder α] [Likeness α] [Entity α] (H : Grip) (a b : α) : H ≤ H.add a b :=
  ⟨Multiset.le_add_left _ _, Multiset.le_add_left _ _⟩

/-- What is held when nothing else is. -/
theorem Grip.add_to_none [Holder α] [Likeness α] [Entity α] (a b : α) :
    Grip.add 0 a b = ((owners a : Held), (owners b : Held)) :=
  Prod.ext (add_zero _) (add_zero _)

/-- Values that hold nothing add nothing. -/
theorem Grip.add_eq [Holder α] [Likeness α] [Entity α] (H : Grip) {a b : α} (left : owners a = [])
    (right : owners b = []) : H.add a b = H := by
  rw [Grip.add, left, right]
  exact Prod.ext (zero_add _) (zero_add _)

/-- In which order things were taken does not matter. -/
theorem Grip.add_right_comm [Holder α] [Likeness α] [Entity α] [Holder β] [Likeness β] [Entity β]
    (H : Grip) (a b : α) (c d : β) : (H.add a b).add c d = (H.add c d).add a b :=
  Prod.ext (add_left_comm _ _ _) (add_left_comm _ _ _)

theorem owners_append_add [Holder α] [Likeness α] [Entity α] (as cs : List α) (held : Held) :
    (owners (as ++ cs) : Held) + held = owners as + (owners cs + held) := by
  show (((as ++ cs).flatMap owners : List Owner) : Held) + held = _
  rw [List.flatMap_append, ← Multiset.coe_add, add_assoc]
  rfl

theorem Grip.add_append [Holder α] [Likeness α] [Entity α] (H : Grip) (as bs cs ds : List α) :
    H.add (as ++ cs) (bs ++ ds) = (H.add cs ds).add as bs :=
  Prod.ext (owners_append_add as cs H.1) (owners_append_add bs ds H.2)

theorem Grip.add_cons [Holder α] [Likeness α] [Entity α] (H : Grip) (a b : α) (as bs : List α) :
    H.add (a :: as) (b :: bs) = (H.add a b).add as bs := by
  have moved (a : α) (as : List α) (held : Held) :
      (owners (a :: as) : Held) + held = owners as + (owners a + held) := by
    show ((owners a ++ owners as : List Owner) : Held) + held = _
    rw [← Multiset.coe_add, add_assoc, add_left_comm]
  exact Prod.ext (moved a as H.1) (moved b bs H.2)

theorem Grip.add_singleton [Holder α] [Likeness α] [Entity α] (H : Grip) (a b : α) :
    H.add [a] [b] = H.add a b :=
  (Grip.add_cons H a b [] []).trans (Grip.add_eq _ rfl rfl)

theorem Grip.add_reverse [Holder α] [Likeness α] [Entity α] (H : Grip) (as bs : List α) :
    H.add as.reverse bs.reverse = H.add as bs := by
  have turned (as : List α) : (owners as.reverse : Held) = owners as :=
    Multiset.coe_eq_coe.2 (List.Perm.flatMap_right owners (List.reverse_perm as))
  rw [Grip.add, turned, turned]
  rfl

section Entities

variable [Holder α] [Likeness α] [Entity α] {a b : α}

theorem Pair.mono {K : Grip} (pair : D.Pair H a b) (le : H ≤ K) : D.Pair K a b :=
  ⟨pair.left.mono le.1, pair.right.mono le.2, pair.alike⟩

/-- Values that may be absent can be used if those that are there can. -/
theorem Pair.option {a b : Option α} {R : α → α → Prop} (pair : D.Pair H a b)
    (next : ∀ {a b}, D.Pair H a b → R a b) : Option.Rel R a b := by
  obtain ⟨left, right, alike⟩ := pair
  cases alike with
  | none => exact .none
  | some alike =>
      exact .some (next ⟨⟨left.coherent _ rfl, left.within⟩, ⟨right.coherent _ rfl, right.within⟩,
        alike⟩)

/-- Lists of values can be used if their elements can. -/
theorem Pair.list {as bs : List α} {R : α → α → Prop} (pair : D.Pair H as bs)
    (next : ∀ {a b}, D.Pair H a b → R a b) : List.Forall₂ R as bs := by
  obtain ⟨⟨lefts, within⟩, ⟨rights, within'⟩, alike⟩ := pair
  induction alike with
  | nil => exact .nil
  | cons alike _ ih =>
      obtain ⟨left, lefts⟩ := List.forall_mem_cons.1 lefts
      obtain ⟨right, rights⟩ := List.forall_mem_cons.1 rights
      obtain ⟨within, withins⟩ := List.forall_mem_append.1 within
      obtain ⟨within', withins'⟩ := List.forall_mem_append.1 within'
      exact .cons (next ⟨⟨left, within⟩, ⟨right, within'⟩, alike⟩)
        (ih lefts withins rights withins')

theorem pair_absent : D.Pair H (none : Option α) none where
  left := ⟨fun _ absent => (nomatch absent), fun _ absent => absurd absent List.not_mem_nil⟩
  right := ⟨fun _ absent => (nomatch absent), fun _ absent => absurd absent List.not_mem_nil⟩
  alike := .none

/-- Values that are got by their positions can be used together. -/
theorem pair_filterMap {β : Type} {is : List β} {f g : β → Option α}
    (each : ∀ i ∈ is, D.Pair H (f i) (g i)) : D.Pair H (is.filterMap f) (is.filterMap g) := by
  refine ⟨⟨fun a member => ?_, fun o member => ?_⟩, ⟨fun b member => ?_, fun o member => ?_⟩, ?_⟩
  · obtain ⟨i, there, found⟩ := List.mem_filterMap.1 member
    exact (each i there).left.coherent a found
  · obtain ⟨a, listed, member⟩ := List.mem_flatMap.1 member
    obtain ⟨i, there, found⟩ := List.mem_filterMap.1 listed
    refine (each i there).left.within o ?_
    rw [found]
    exact member
  · obtain ⟨i, there, found⟩ := List.mem_filterMap.1 member
    exact (each i there).right.coherent b found
  · obtain ⟨b, listed, member⟩ := List.mem_flatMap.1 member
    obtain ⟨i, there, found⟩ := List.mem_filterMap.1 listed
    refine (each i there).right.within o ?_
    rw [found]
    exact member
  · exact alike_filterMap (List.forall₂_same.2 fun i there => (each i there).alike)

theorem Pair.isMatch (pair : D.Pair H a b) : D.Match a b :=
  ⟨pair.left.coherent, pair.right.coherent, pair.alike⟩

/-- What is held can be used. -/
theorem Match.pair (same : D.Match a b) (H : Grip) : D.Pair (H.add a b) a b where
  left := ⟨same.left, fun _ member => .held (Multiset.mem_add.2 (.inl member))⟩
  right := ⟨same.right, fun _ member => .held (Multiset.mem_add.2 (.inl member))⟩
  alike := same.alike

theorem Match.nil : D.Match ([] : List α) [] :=
  ⟨fun _ absent => absurd absent List.not_mem_nil, fun _ absent => absurd absent List.not_mem_nil,
    .nil⟩

theorem Match.cons {as bs : List α} (first : D.Match a b) (rest : D.Match as bs) :
    D.Match (a :: as) (b :: bs) :=
  ⟨List.forall_mem_cons.2 ⟨first.left, rest.left⟩, List.forall_mem_cons.2 ⟨first.right, rest.right⟩,
    .cons first.alike rest.alike⟩

theorem Match.append {as bs cs ds : List α} (first : D.Match as bs) (rest : D.Match cs ds) :
    D.Match (as ++ cs) (bs ++ ds) :=
  ⟨List.forall_mem_append.2 ⟨first.left, rest.left⟩,
    List.forall_mem_append.2 ⟨first.right, rest.right⟩, List.rel_append first.alike rest.alike⟩

theorem Match.reverse {as bs : List α} (same : D.Match as bs) :
    D.Match as.reverse bs.reverse :=
  ⟨fun a member => same.left a (List.mem_reverse.1 member),
    fun b member => same.right b (List.mem_reverse.1 member), List.rel_reverse same.alike⟩

/-- The last values of two lists are alike. -/
theorem Match.concat {as cs : List α} (same : D.Match (as ++ [a]) cs) :
    ∃ bs b, cs = bs ++ [b] ∧ D.Match as bs ∧ D.Match a b := by
  have turned := same.reverse
  rw [List.reverse_append, List.reverse_singleton] at turned
  cases reversed : cs.reverse with
  | nil =>
      rw [reversed] at turned
      exact nomatch turned.alike
  | cons b bs =>
      rw [reversed] at turned
      obtain ⟨left, right, alike⟩ := turned
      cases alike with
      | cons first rest =>
          have others : D.Match as.reverse bs :=
            ⟨(List.forall_mem_cons.1 left).2, (List.forall_mem_cons.1 right).2, rest⟩
          refine ⟨bs.reverse, b, ?_, ?_, ?_⟩
          · rw [← List.reverse_cons, ← reversed, List.reverse_reverse]
          · have := others.reverse
            rwa [List.reverse_reverse] at this
          · exact ⟨(List.forall_mem_cons.1 left).1, (List.forall_mem_cons.1 right).1, first⟩

theorem Match.none : D.Match (none : Option α) none :=
  ⟨fun _ absent => (nomatch absent), fun _ absent => (nomatch absent), .none⟩

theorem Match.some (same : D.Match a b) : D.Match (some a) (some b) := by
  refine ⟨?_, ?_, .some same.alike⟩
  · rintro _ ⟨⟩
    exact same.left
  · rintro _ ⟨⟩
    exact same.right

end Entities

/-! ## Rules -/

theorem Lockstep.bind {P : World → World → Prop} {x y : Act α} {f g : α → Act β}
    {Q : α → α → World → World → Prop} {R : β → β → World → World → Prop}
    {G : World → World → Prop} (first : D.Lockstep P x y Q G)
    (next : ∀ a b, D.Lockstep (Q a b) (f a) (g b) R G) : D.Lockstep P (x >>= f) (y >>= g) R G := by
  intro w w' holds
  rcases first w w' holds with ⟨a, b, v, v', ran, ran', holds⟩ | ⟨fault, v, v', ran, ran', holds⟩
  · rw [Act.exec_bind_ok ran, Act.exec_bind_ok ran']
    exact next a b v v' holds
  · exact .inr ⟨fault, v, v', Act.exec_bind_error ran, Act.exec_bind_error ran', holds⟩

theorem Lockstep.mono {P P' : World → World → Prop} {x y : Act α}
    {Q Q' : α → α → World → World → Prop} {G G' : World → World → Prop}
    (lockstep : D.Lockstep P x y Q G) (pre : ∀ w w', P' w w' → P w w')
    (post : ∀ a b w w', Q a b w w' → Q' a b w w') (fail : ∀ w w', G w w' → G' w w') :
    D.Lockstep P' x y Q' G' := by
  intro w w' holds
  rcases lockstep w w' (pre w w' holds) with
    ⟨a, b, v, v', ran, ran', holds⟩ | ⟨fault, v, v', ran, ran', holds⟩
  · exact .inl ⟨a, b, v, v', ran, ran', post a b v v' holds⟩
  · exact .inr ⟨fault, v, v', ran, ran', fail v v' holds⟩

namespace Runs

variable {x y : Act α} {R : α → α → Prop} {K : α → α → Grip}

theorem pure {a b : α} (holds : R a b) (same : K a b = H) :
    D.Runs H F (Pure.pure a) (Pure.pure b) R K :=
  fun _ w w' inv => .inl ⟨a, b, w, w', rfl, rfl, holds, by rw [same]; exact inv⟩

theorem bind {f g : α → Act β} {S : β → β → Prop} {L : β → β → Grip}
    (first : D.Runs H F x y R K)
    (next : ∀ a b, R a b → D.Runs (K a b) F (f a) (g b) S L) :
    D.Runs H F (x >>= f) (y >>= g) S L :=
  fun base => Lockstep.bind (first base) fun a b w w' ⟨related, holds⟩ =>
    next a b related base w w' holds

theorem mono {S : α → α → Prop} {L : α → α → Grip} (runs : D.Runs H F x y R K)
    (weaker : ∀ a b, R a b → S a b ∧ K a b = L a b) : D.Runs H F x y S L :=
  fun base => Lockstep.mono (runs base) (fun _ _ holds => holds)
    (fun a b _ _ ⟨related, holds⟩ => ⟨(weaker a b related).1, (weaker a b related).2 ▸ holds⟩)
    fun _ _ holds => holds

/-- The results may be changed afterwards. -/
theorem map {f g : α → β} {S : β → β → Prop} {L : β → β → Grip} (runs : D.Runs H F x y R K)
    (next : ∀ a b, R a b → S (f a) (g b) ∧ L (f a) (g b) = K a b) :
    D.Runs H F (x >>= fun a => Pure.pure (f a)) (y >>= fun b => Pure.pure (g b)) S L :=
  runs.bind fun a b related => pure (next a b related).1 (next a b related).2

theorem fail (failure : Failure) : D.Runs H H (Act.fail failure : Act α) (Act.fail failure) R K :=
  fun _ w w' holds => .inr ⟨_, w, w', rfl, rfl, holds⟩

/-- A fault that is caught is the same on both sides. -/
theorem attempt_bind {G : Grip} {f g : Except Fault α → Act β} {S : β → β → Prop}
    {L : β → β → Grip} (runs : D.Runs H G x y R K)
    (ok : ∀ a b, R a b → D.Runs (K a b) F (f (.ok a)) (g (.ok b)) S L)
    (error : ∀ fault, D.Runs G F (f (.error fault)) (g (.error fault)) S L) :
    D.Runs H F (Act.attempt x >>= f) (Act.attempt y >>= g) S L := by
  intro base w w' holds
  rw [Act.exec_bind_ok (Act.exec_attempt x), Act.exec_bind_ok (Act.exec_attempt y)]
  rcases runs base w w' holds with
    ⟨a, b, v, v', ran, ran', related, holds⟩ | ⟨fault, v, v', ran, ran', holds⟩
  · rw [ran, ran']
    exact ok a b related base v v' holds
  · rw [ran, ran']
    exact error fault base v v' holds

/-- Nothing happens after a failure. -/
theorem fail_bind (failure : Failure) {f g : β → Act α} :
    D.Runs H H (Act.fail failure >>= f) (Act.fail failure >>= g) R K :=
  fun _ w w' holds => .inr ⟨_, w, w', Act.exec_bind_error rfl, Act.exec_bind_error rfl, holds⟩

/-- Quiet actions end alike if what they return is in the relation. -/
theorem of_quiet {more more' : α → List Owner} {S S' : α → Prop}
    (left : Act.Quiet D.engine D.left H.1 x more S)
    (right : Act.Quiet D.engine D.right H.2 y more' S')
    (related : ∀ a b, S a → S' b → R a b) :
    D.Runs H F x y R fun a b => (more a + H.1, more' b + H.2) := by
  rintro base w w' ⟨facts, facts', grows, links, at', at''⟩
  obtain ⟨a, v, ran, good, at'⟩ := left facts w at'
  obtain ⟨b, v', ran', good', at''⟩ := right facts' w' at''
  exact .inl
    ⟨a, b, v, v', ran, ran', related a b good good', facts, facts', grows, links, at', at''⟩

/-- What holds of the stores may be used. -/
theorem of_holds (runs : ∀ {base w w'}, D.Holds base H w w' → D.Runs H F x y R K) :
    D.Runs H F x y R K :=
  fun base w w' holds => runs holds base w w' holds

end Runs

theorem Same.of_tells {x y : Act α} {a b : α} (left : Act.Tells D.engine D.left H.1 x (· = a))
    (right : Act.Tells D.engine D.right H.2 y (· = b)) (same : a = b) : D.Same H F x y :=
  (Runs.of_quiet left right fun _ _ is is' => is.trans (same.trans is'.symm)).mono
    fun _ _ related => ⟨related, by simp⟩

theorem Same.bind {x y : Act α} {f g : α → Act β} {S : β → β → Prop} {L : β → β → Grip}
    (first : D.Same H F x y) (next : ∀ a, D.Runs H F (f a) (g a) S L) :
    D.Runs H F (x >>= f) (y >>= g) S L :=
  Runs.bind first fun a _ same => same ▸ next a

theorem Same.map {x y : Act α} (same : D.Same H F x y) (f : α → β) :
    D.Same H F (x >>= fun a => Pure.pure (f a)) (y >>= fun b => Pure.pure (f b)) :=
  Runs.map same fun _ _ same => ⟨congrArg f same, rfl⟩

theorem Same.pure (a : α) : D.Same H F (Pure.pure a) (Pure.pure a) :=
  Runs.pure rfl rfl

theorem same_engine : D.Same H F Act.engine Act.engine :=
  Same.of_tells Act.tells_engine Act.tells_engine rfl

theorem same_text (text : EngineText) : D.Same H F (Act.text text) (Act.text text) :=
  Same.of_tells (Act.tells_text text) (Act.tells_text text) rfl

theorem same_ofExcept (result : Except Failure α) :
    D.Same H H (Act.ofExcept result) (Act.ofExcept result) := by
  cases result with
  | ok a => exact Same.pure a
  | error failure => exact Runs.fail failure

theorem same_ofPanic (result : Except Panic α) :
    D.Same H H (Act.ofPanic result) (Act.ofPanic result) := by
  cases result with
  | ok a => exact Same.pure a
  | error panic => exact fun _ w w' holds => .inr ⟨_, w, w', rfl, rfl, holds⟩

theorem same_ask (left : H.1 ≠ 0) (right : H.2 ≠ 0) (question : Question)
    {operands operands' : List Resource} (lends : ∀ r ∈ operands, Lends H.1 r)
    (lends' : ∀ r ∈ operands', Lends H.2 r)
    (unmixed : question.joins = true → ∀ r ∈ operands, ∀ s ∈ operands, r = s)
    (unmixed' : question.joins = true → ∀ r ∈ operands', ∀ s ∈ operands', r = s)
    (memo memo' : Option CellId) :
    D.Same H F (Act.ask question operands memo) (Act.ask question operands' memo') := by
  refine (Runs.of_quiet (Act.tells_ask left question lends unmixed memo)
    (Act.tells_ask right question lends' unmixed' memo') (R := (· = ·)) fun _ _ _ _ => rfl).mono ?_
  exact fun _ _ same => ⟨same, by simp⟩

/-- Nothing is mixed where there is one value only. -/
theorem unmixed_singleton {question : Question} (r : Resource) :
    question.joins = true → ∀ s ∈ [r], ∀ t ∈ [r], s = t := by
  rintro - s member t member'
  exact (List.mem_singleton.1 member).trans (List.mem_singleton.1 member').symm

/-- Two values from one source are not mixed. -/
theorem unmixed_pair {question : Question} {r s : Resource}
    (same : question.joins = true → r = s) :
    question.joins = true → ∀ t ∈ [r, s], ∀ t' ∈ [r, s], t = t' := by
  intro joins
  obtain rfl := same joins
  simp

theorem same_ask_one {r r' : Resource} (lends : H.Lends r r') (question : Question)
    (memo memo' : Option CellId := none) :
    D.Same H F (Act.ask question [r] memo) (Act.ask question [r'] memo') := by
  refine same_ask lends.1.ne_zero lends.2.ne_zero question ?_ ?_ (unmixed_singleton r)
    (unmixed_singleton r') memo memo'
  · exact List.forall_mem_singleton.2 lends.1
  · exact List.forall_mem_singleton.2 lends.2

theorem same_ask_two {r r' s s' : Resource} (first : H.Lends r r') (second : H.Lends s s')
    (question : Question) (same : question.joins = true → r = s)
    (same' : question.joins = true → r' = s') :
    D.Same H F (Act.ask question [r, s]) (Act.ask question [r', s']) := by
  refine same_ask first.1.ne_zero first.2.ne_zero question ?_ ?_ (unmixed_pair same)
    (unmixed_pair same') none none
  · exact List.forall_mem_cons.2 ⟨first.1, List.forall_mem_singleton.2 second.1⟩
  · exact List.forall_mem_cons.2 ⟨first.2, List.forall_mem_singleton.2 second.2⟩

section Entities

variable [Holder α] [Likeness α] [Entity α]

/-- References may be taken to what can be used. -/
theorem gives_keep {a b : α} (pair : D.Pair H a b) : D.Gives H F (Act.keep a) (Act.keep b) :=
  Runs.of_quiet (Act.quiet_keep pair.left.within) (Act.quiet_keep pair.right.within)
    fun _ _ is is' => is ▸ is' ▸ pair.isMatch

/-- References that are held may be given up. -/
theorem same_drop (a b : α) : D.Runs (H.add a b) F (Act.drop a) (Act.drop b) (· = ·)
    fun _ _ => H := by
  rintro base w w' ⟨facts, facts', grows, links, at', at''⟩
  obtain ⟨_, v, ran, at'⟩ := Act.ensures_drop a facts w at'
  obtain ⟨_, v', ran', at''⟩ := Act.ensures_drop b facts' w' at''
  exact .inl ⟨(), (), v, v', ran, ran', rfl, facts, facts', grows, links, at', at''⟩

end Entities

/-! ## Raw values -/

section Raw

variable {raw raw' : Raw α}

theorem RawPair.lends (pair : D.RawPair H raw raw') : H.Lends raw.origin raw'.origin :=
  ⟨pair.left, pair.right⟩

theorem RawPair.same_ask (pair : D.RawPair H raw raw') (question : Question)
    (answer : Engine → α → β) (memo memo' : Option CellId := none) :
    D.Same H F (raw.ask question answer memo) (raw'.ask question answer memo') :=
  Same.of_tells (Raw.tells_ask pair.left question answer memo)
    (Raw.tells_ask pair.right question answer memo') (congrArg _ pair.alike.1)

theorem RawPair.same_askText (pair : D.RawPair H raw raw') (question : Question)
    (answer : Engine → α → EngineText) (memo memo' : Option CellId := none) :
    D.Same H F (raw.askText question answer memo) (raw'.askText question answer memo') :=
  Same.of_tells (Raw.tells_askText pair.left question answer memo)
    (Raw.tells_askText pair.right question answer memo') (by rw [pair.alike.1])

theorem RawPair.same_askText? (pair : D.RawPair H raw raw') (question : Question)
    (answer : Engine → α → EngineText) (memo memo' : Option CellId := none) :
    D.Same H F (raw.askText? question answer memo) (raw'.askText? question answer memo') :=
  Same.of_tells (Raw.tells_askText? pair.left question answer memo)
    (Raw.tells_askText? pair.right question answer memo') (by rw [pair.alike.1])

/-- What is asked of a raw value for another one belongs to the same resource. -/
theorem RawPair.runs_derive (pair : D.RawPair H raw raw') (question : Question)
    (answer : Engine → α → β) (memo memo' : Option CellId := none) :
    D.Runs H F (raw.derive question answer memo) (raw'.derive question answer memo')
      (fun a b => D.RawPair H a b ∧ a = ⟨answer D.engine raw.value, raw.origin⟩ ∧
        b = ⟨answer D.engine raw.value, raw'.origin⟩) fun _ _ => H := by
  refine (Runs.of_quiet (Raw.tells_derive pair.left question answer memo)
    (Raw.tells_derive pair.right question answer memo') fun a b is is' => ?_).mono
    fun _ _ related => ⟨related, by simp⟩
  rw [← pair.alike.1] at is'
  subst is is'
  exact ⟨⟨pair.left, pair.right, rfl, pair.alike.2⟩, rfl, rfl⟩

end Raw

/-! ## The store -/

/-- What is observed of two stores in order is the same whether the engine has been loaded or not. -/
theorem Holds.loaded {base : Facts} {w w' : World} (holds : D.Holds base H w w') :
    w'.loaded = w.loaded := by
  obtain ⟨facts, facts', -, links, ⟨τ, inv⟩, τ', inv'⟩ := holds
  rw [inv.shows.loaded, inv'.shows.loaded, links.loaded]

/-- A question about nothing in particular. It is a defect if the engine has not been loaded. -/
theorem same_inquire (question : Question) :
    D.Same H H (Act.ask question []) (Act.ask question []) := by
  intro base w w' holds
  have same := holds.loaded
  obtain ⟨facts, facts', grows, links, ⟨τ, inv⟩, τ', inv'⟩ := holds
  cases loaded : w.loaded with
  | true =>
      refine .inl ⟨(), (), _, _, Act.exec_ask _ _ _ loaded,
        Act.exec_ask _ _ _ (same.trans loaded), rfl, facts, facts', grows, links, ⟨τ, ?_⟩, τ', ?_⟩
      · exact inv.note nofun nofun rfl nofun nofun
      · exact inv'.note nofun nofun rfl nofun nofun
  | false =>
      exact .inr ⟨_, w, w', Act.exec_ask_unloaded _ _ _ loaded,
        Act.exec_ask_unloaded _ _ _ (same.trans loaded), facts, facts', grows, links, ⟨τ, inv⟩, τ',
        inv'⟩

/-- A request that the engine answers with nothing to give back. -/
theorem same_request {request request' : Request} (left : H.1 ≠ 0) (right : H.2 ≠ 0)
    (lends : ∀ r ∈ request.operands, Lends H.1 r) (lends' : ∀ r ∈ request'.operands, Lends H.2 r) :
    D.Same H F (Act.request request) (Act.request request') := by
  rintro base w w' ⟨facts, facts', grows, links, ⟨τ, inv⟩, τ', inv'⟩
  exact .inl ⟨(), (), _, _, Act.exec_request _ (inv.isLoaded left),
    Act.exec_request _ (inv'.isLoaded right), rfl, facts, facts', grows, links,
    ⟨τ, inv.note nofun nofun rfl lends trivial⟩, τ', inv'.note nofun nofun rfl lends' trivial⟩

theorem same_load : D.Same H F Act.load Act.load := by
  rintro base w w' ⟨facts, facts', grows, links, ⟨τ, inv⟩, τ', inv'⟩
  have loads {side : Side} {facts : Facts} {held : Held} {τ : Typing} {w : World}
      (inv : Inv D.engine side facts τ held w) :
      At D.engine side held { facts with loaded := true } { w with loaded := true } := by
    have core := inv.toCore.recount facts.indexes facts.lists true
    rw [← inv.shows.indexes, ← inv.shows.lists] at core
    refine ⟨τ, { core with owns := inv.owns, loaded := fun _ => rfl, shows := ?_ }⟩
    exact { inv.shows with loaded := rfl }
  exact .inl ⟨(), (), _, _, rfl, rfl, rfl, { facts with loaded := true },
    { facts' with loaded := true }, { grows with }, { links with loaded := rfl }, loads inv,
    loads inv'⟩

section Units

variable {u u' : SourceUnit}

theorem Pair.lends (pair : D.Pair H u u') : H.Lends u.resource u'.resource :=
  ⟨lends_unit pair.left, lends_unit pair.right⟩

theorem Holds.table {base : Facts} {w w' : World} (holds : D.Holds base H w w')
    (pair : D.Pair H u u') : w.table u.resource = w'.table u'.resource := by
  obtain ⟨facts, facts', -, links, ⟨τ, inv⟩, τ', inv'⟩ := holds
  have same := links.table u.resource
  rw [show D.shift.rename u.resource = u'.resource from pair.alike.1] at same
  rw [inv.table_eq (pair.left.within _ (.head _)), inv'.table_eq (pair.right.within _ (.head _)),
    same]

/-- Two handles are of one unit in both runs or in neither. -/
theorem Holds.same_eq {base : Facts} {w w' : World} {v v' : SourceUnit}
    (holds : D.Holds base H w w') (pair : D.Pair H u u') (other : D.Pair H v v') :
    u.same v = u'.same v' := by
  obtain ⟨facts, facts', -, -, ⟨τ, inv⟩, τ', inv'⟩ := holds
  have left := inv.cell_eq_iff (pair.left.within _ (.head _)) (other.left.within _ (.head _)) rfl rfl
  have right :=
    inv'.cell_eq_iff (pair.right.within _ (.head _)) (other.right.within _ (.head _)) rfl rfl
  rw [← show D.shift.rename u.resource = u'.resource from pair.alike.1,
    ← show D.shift.rename v.resource = v'.resource from other.alike.1,
    D.shift.rename_injective.eq_iff] at right
  show (u.cell == v.cell) = (u'.cell == v'.cell)
  rw [Bool.eq_iff_iff, beq_iff_eq, beq_iff_eq]
  exact left.trans right.symm

/-- Handles of one unit are handles of one resource. -/
theorem Holds.resource_eq {base : Facts} {w w' : World} {v v' : SourceUnit}
    (holds : D.Holds base H w w') (pair : D.Pair H u u') (other : D.Pair H v v')
    (same : u.same v = true) : u.resource = v.resource ∧ u'.resource = v'.resource := by
  obtain ⟨facts, facts', -, -, ⟨τ, inv⟩, -⟩ := holds
  have left : u.resource = v.resource :=
    (inv.cell_eq_iff (pair.left.within _ (.head _)) (other.left.within _ (.head _)) rfl rfl).1
      (beq_iff_eq.1 same)
  have renamed : D.shift.rename u.resource = u'.resource := pair.alike.1
  have renamed' : D.shift.rename v.resource = v'.resource := other.alike.1
  exact ⟨left, by rw [← renamed, ← renamed', left]⟩

/-- Two values have one anchor in both runs or in neither. -/
theorem Holds.sameAnchor_eq {base : Facts} {w w' : World} {a a' b b' : Option Completion}
    (holds : D.Holds base H w w') (pair : D.Pair H a a') (other : D.Pair H b b') :
    sameAnchor a b = sameAnchor a' b' := by
  obtain ⟨facts, facts', -, -, ⟨τ, inv⟩, τ', inv'⟩ := holds
  obtain ⟨first, first', alike⟩ := pair
  obtain ⟨second, second', alike'⟩ := other
  cases alike with
  | none => cases alike' <;> rfl
  | @some a a' alike =>
      cases alike' with
      | none => rfl
      | @some b b' alike' =>
          have left :=
            inv.cell_eq_iff (first.within _ (.head _)) (second.within _ (.head _)) rfl rfl
          have right :=
            inv'.cell_eq_iff (first'.within _ (.head _)) (second'.within _ (.head _)) rfl rfl
          rw [← show D.shift.rename a.resource = a'.resource from alike.1,
            ← show D.shift.rename b.resource = b'.resource from alike'.1,
            D.shift.rename_injective.eq_iff] at right
          show (a.cell == b.cell) = (a'.cell == b'.cell)
          rw [Bool.eq_iff_iff, beq_iff_eq, beq_iff_eq]
          exact left.trans right.symm

theorem Pair.same_table (pair : D.Pair H u u') :
    D.Same H F (Act.table u.resource) (Act.table u'.resource) :=
  fun _ w w' holds => .inl ⟨_, _, w, w', rfl, rfl, holds.table pair, holds⟩

theorem Pair.same_spelling (pair : D.Pair H u u') : D.Same H F u.spelling u'.spelling := by
  rintro base w w' ⟨facts, facts', grows, links, order, order'⟩
  obtain ⟨_, v, ran, rfl, order⟩ := SourceUnit.ensures_spelling pair.left facts w order
  obtain ⟨_, v', ran', rfl, order'⟩ := SourceUnit.ensures_spelling pair.right facts' w' order'
  have same := links.spelling u.resource
  rw [show D.shift.rename u.resource = u'.resource from pair.alike.1] at same
  exact .inl ⟨_, _, v, v', ran, ran', same.symm, facts, facts', grows, links, order, order'⟩

theorem Pair.same_inspect (pair : D.Pair H u u') : D.Same H F u.inspect u'.inspect :=
  pair.same_spelling.map _

end Units

/-! ## Lists -/

theorem same_mapM {as bs : List α} {f g : α → Act β}
    (each : List.Forall₂ (fun a b => D.Same H F (f a) (g b)) as bs) :
    D.Same H F (as.mapM f) (bs.mapM g) := by
  induction each with
  | nil => exact Same.pure []
  | cons first _ ih =>
      rw [List.mapM_cons, List.mapM_cons]
      exact first.bind fun b => ih.map (b :: ·)

section Entities

variable [Holder β] [Likeness β] [Entity β]

/-- The values that come out are held together, if each comes out whatever is held by then. -/
theorem gives_mapM {as bs : List α} {f g : α → Act β}
    (each : List.Forall₂ (fun a b => ∀ K, H ≤ K → D.Gives K F (f a) (g b)) as bs) :
    D.Gives H F (as.mapM f) (bs.mapM g) := by
  suffices later : ∀ K, H ≤ K → D.Gives K F (as.mapM f) (bs.mapM g) from later H (le_refl H)
  induction each with
  | nil =>
      intro K _
      exact Runs.pure .nil (Grip.add_eq K rfl rfl)
  | cons first _ ih =>
      intro K le
      rw [List.mapM_cons, List.mapM_cons]
      refine (first K le).bind fun a b same => ?_
      refine (ih (K.add a b) (le.trans (Grip.le_add K a b))).map fun as bs rest =>
        ⟨same.cons rest, Grip.add_cons K a b as bs⟩

/-- The values may be changed afterwards if they keep what they hold. -/
theorem Gives.map {γ : Type} [Holder γ] [Likeness γ] [Entity γ] {x y : Act β} {f g : β → γ}
    (gives : D.Gives H F x y) (next : ∀ a b, D.Match a b →
      D.Match (f a) (g b) ∧ owners (f a) = owners a ∧ owners (g b) = owners b) :
    D.Gives H F (x >>= fun a => Pure.pure (f a)) (y >>= fun b => Pure.pure (g b)) :=
  Runs.map gives fun a b same => by
    obtain ⟨same, left, right⟩ := next a b same
    exact ⟨same, by rw [Grip.add, Grip.add, left, right]⟩

theorem owners_filterMap (values : List (Option β)) :
    owners (values.filterMap id) = owners values := by
  induction values with
  | nil => rfl
  | cons value values ih =>
      cases value with
      | none => exact ih
      | some a => exact congrArg (owners a ++ ·) ih

/-- Values that are absent hold nothing and may be left out. -/
theorem Gives.filterMap {x y : Act (List (Option β))} (gives : D.Gives H F x y) :
    D.Gives H F (x >>= fun as => Pure.pure (as.filterMap id))
      (y >>= fun bs => Pure.pure (bs.filterMap id)) := by
  refine gives.map fun as bs same => ⟨⟨?_, ?_, ?_⟩, owners_filterMap as, owners_filterMap bs⟩
  · intro a member
    obtain ⟨value, there, found⟩ := List.mem_filterMap.1 member
    exact same.left value there a found
  · intro b member
    obtain ⟨value, there, found⟩ := List.mem_filterMap.1 member
    exact same.right value there b found
  · exact alike_filterMap (f := id) (g := id) same.alike

theorem gives_none : D.Gives H F (Pure.pure (none : Option β)) (Pure.pure none) :=
  Runs.pure .none (Grip.add_eq H rfl rfl)

theorem gives_some {x y : Act β} (gives : D.Gives H F x y) :
    D.Gives H F (some <$> x) (some <$> y) :=
  Gives.map gives fun _ _ same => ⟨same.some, rfl, rfl⟩

/-- A value that may be absent is absent on both sides or on neither. -/
theorem gives_optionMapM {a b : Option α} {f g : α → Act β}
    (each : Option.Rel (fun a b => D.Gives H F (f a) (g b)) a b) :
    D.Gives H F (a.mapM f) (b.mapM g) := by
  cases each with
  | none => exact gives_none
  | some gives => exact gives_some gives

end Entities

theorem same_optionMapM {a b : Option α} {f g : α → Act β}
    (each : Option.Rel (fun a b => D.Same H F (f a) (g b)) a b) :
    D.Same H F (a.mapM f) (b.mapM g) := by
  cases each with
  | none => exact Same.pure none
  | some same => exact same.map some

end Duo

end SourceAtlas
