import SourceAtlas.Proofs.Reach

/-!
# Parsing a unit again

A unit is parsed again only while nothing else is within reach that refers to it, which is so in
both runs or in neither. It then has another entry of the tables, and so other answers. A spelling
that was remembered would be stale, unless parsing again never changes it.
-/

namespace SourceAtlas

/-- Whether parsing a unit again never changes its spelling. -/
def Engine.KeepsSpelling (engine : Engine) : Prop :=
  ∀ table table', (engine.unit table).reparseBecomes = some table' →
    engine.unitSpelling table' = engine.unitSpelling table

/-- A fault, but for the number of references for which a unit is not parsed again. -/
def Fault.observed : Fault → Fault
  | .failure (.precondition "reparse" expected _) => .failure (.precondition "reparse" expected "")
  | fault => fault

namespace SourceUnit

/-- The options for parsing a unit again: those that are given, or the engine's. -/
def reparseBits (unit : SourceUnit) (entry : UnitEntry) : Option UInt32 → Act UInt32
  | some options => pure options
  | none => do
    Act.ask .reparseOptions [unit.resource]
    return entry.reparseOptions

/-- What passes to the engine when a unit is parsed again, up to the status that comes back. -/
def askReparse (unit : SourceUnit) (unsaved : List UnsavedFile) (options : Option UInt32) :
    Act UnitEntry := do
  Act.checkTexts (unsaved.map (·.path))
  let entry ← unit.entry
  let options ← unit.reparseBits entry options
  Act.request (.reparse unit.resource unsaved options)
  checkStatus "reparse" entry.reparseStatus fun code => (LoadProblem.ofCode? code).map .reparse
  return entry

end SourceUnit

/-- To parse a unit again is to check that there is one reference to it, to ask the engine, and to
give the unit its new entry. -/
theorem SourceUnit.reparse_eq (u : SourceUnit) (unsaved : List UnsavedFile)
    (options : Option UInt32) :
    u.reparse unsaved options = (do
      let references := (← get).count u.cell
      if 1 < references then
        Act.fail (.precondition "reparse" "no other live references to the translation unit"
          (toString references ++ " references"))
      let entry ← u.askReparse unsaved options
      Act.update (·.retable u.resource entry.reparseBecomes)) := by
  unfold reparse askReparse reparseBits
  cases options <;> simp only [bind_assoc, pure_bind]

/-- A unit is parsed again only if there is one reference to it. -/
theorem SourceUnit.exec_reparse (u : SourceUnit) (unsaved : List UnsavedFile)
    (options : Option UInt32) (setting : Setting) (w : World) :
    (u.reparse unsaved options).exec setting w =
      if 1 < w.count u.cell then
        (.error (.failure (.precondition "reparse"
          "no other live references to the translation unit"
          (toString (w.count u.cell) ++ " references"))), w)
      else
        match (u.askReparse unsaved options).exec setting w with
        | (.ok entry, v) => (.ok (), v.retable u.resource entry.reparseBecomes)
        | (.error fault, v) => (.error fault, v) := by
  rw [reparse_eq, Act.exec_bind_ok Act.exec_get]
  dsimp only
  split
  next => exact Act.exec_bind_error rfl
  next =>
    rw [Act.exec_bind]
    rcases (u.askReparse unsaved options).exec setting w with ⟨result | result, v⟩ <;> rfl

/-- A status that is not zero is a failure. -/
theorem SourceUnit.exec_checkStatus (operation : String) (status : Int32)
    (problem? : Int → Option Failure) (setting : Setting) (w : World) :
    (checkStatus operation status problem?).exec setting w =
      if status = 0 then (.ok (), w)
      else
        let code := status.toInt
        (.error (.failure ((problem? code).getD (.unrecognizedCode operation code))), w) := by
  unfold checkStatus
  by_cases sound : status = 0
  · rw [if_neg (by simp [sound]), if_pos sound]
    rfl
  · rw [if_pos (by simpa using sound), if_neg sound]
    rfl

/-- What passes to the engine when a unit is parsed again: nothing if the name of a file holds a
NUL, and else a question about options if none are given, and then the request. -/
theorem SourceUnit.exec_askReparse (u : SourceUnit) (unsaved : List UnsavedFile)
    (options : Option UInt32) (setting : Setting) {w : World} (loaded : w.loaded = true) :
    (u.askReparse unsaved options).exec setting w =
      match firstNul? (unsaved.map (·.path)) with
      | some position => (.error (.failure (.nulAt position)), w)
      | none =>
        let entry := setting.engine.unit (w.table u.resource)
        let v := options.elim (w.note (.asked .reparseOptions [u.resource] none)) fun _ => w
        let v := v.note
          (.requested (.reparse u.resource unsaved (options.getD entry.reparseOptions)))
        if entry.reparseStatus = 0 then (.ok entry, v)
        else
          let code := entry.reparseStatus.toInt
          (.error (.failure (((LoadProblem.ofCode? code).map .reparse).getD
            (.unrecognizedCode "reparse" code))), v) := by
  unfold askReparse Act.checkTexts
  cases firstNul? (unsaved.map (·.path)) with
  | some position => exact Act.exec_bind_error rfl
  | none =>
      have bits (entry : UnitEntry) : (u.reparseBits entry options).exec setting w =
          (.ok (options.getD entry.reparseOptions),
            options.elim (w.note (.asked .reparseOptions [u.resource] none)) fun _ => w) := by
        cases options with
        | some options => rfl
        | none => exact Act.exec_bind_ok (Act.exec_ask _ _ _ loaded)
      have still : (options.elim (w.note (.asked .reparseOptions [u.resource] none))
          fun _ => w).loaded = true := by
        cases options <;> exact loaded
      rw [Act.exec_bind_ok (Act.exec_pure ()), Act.exec_bind_ok (show u.entry.exec setting w =
        (.ok (setting.engine.unit (w.table u.resource)), w) from rfl), Act.exec_bind_ok (bits _),
        Act.exec_bind_ok (Act.exec_request _ still), Act.exec_bind, exec_checkStatus]
      by_cases sound : (setting.engine.unit (w.table u.resource)).reparseStatus = 0
      · simp only [if_pos sound]
        rfl
      · simp only [if_neg sound]

namespace World

variable {w : World} {unit r : Resource} {entry : Option Nat}

theorem size_instances_retable (w : World) (unit : Resource) (entry : Option Nat) :
    (w.retable unit entry).instances.size = w.instances.size := by
  cases entry with
  | none => rfl
  | some table => exact Array.size_setIfInBounds

/-- Units of the same number have the same entry of the tables. -/
theorem table_retable (bound : unit.label < w.instances.size) (r : Resource) :
    (w.retable unit entry).table r =
      if r.label = unit.label then entry.getD (w.table unit) else w.table r := by
  cases entry with
  | none =>
      show w.table r = _
      split
      next same => rw [World.table, same]; rfl
      next => rfl
  | some table =>
      show ((w.instances.setIfInBounds unit.label table)[r.label]?).getD 0 = _
      split
      next same => simp [same, bound]
      next other => simp [Ne.symm other, World.table]

end World

namespace Inv

variable {engine : Engine} {side : Side} {facts : Facts} {τ : Typing} {held : Held}
variable {w : World} {u : SourceUnit}

/-- A unit of the thread may get another entry of the tables. What is then observed of the units has
to be what they answer. -/
theorem retable (inv : Inv engine side facts τ held w) (owns : τ.Owns (.unit u))
    (entry : Option Nat) (table : Resource → Nat) (spelling : Resource → String)
    (answers : ∀ {c e context known r}, side.first ≤ c → w.find? c = some e →
      e.resource = some r → e.content = .unit context known →
      (w.retable u.resource entry).table r = table r ∧
        (side.known known).getD (engine.unitSpelling ((w.retable u.resource entry).table r)) =
          spelling r) :
    Inv engine side { facts with table, spelling } τ held (w.retable u.resource entry) := by
  have label := inv.books.label owns
  obtain ⟨instances, kept⟩ : ∃ instances, w.retable u.resource entry = { w with instances } := by
    cases entry <;> exact ⟨_, rfl⟩
  have size := World.size_instances_retable w u.resource entry
  have older : ∀ i, i < side.start.instances.size →
      (w.retable u.resource entry).instances[i]? = w.instances[i]? := by
    intro i before
    cases entry with
    | none => rfl
    | some table => simp [World.retable, Nat.ne_of_gt (before.trans_le label.1)]
  rw [kept] at answers size older ⊢
  refine inv.update ⟨inv.heap.congr rfl, ?_, inv.texts, inv.past, ?_⟩ rfl
  · exact inv.books.congr rfl rfl rfl (fun _ _ => rfl) (fun _ => rfl) (fun _ _ => rfl)
      ⟨size.ge, older⟩
  · exact
      { inv.shows with
        units := size.trans inv.shows.units
        unit := answers }

/-- If spellings are kept, then all units of the number have another entry, and the rest of what is
observed stays. -/
theorem retable_keeps (inv : Inv engine side facts τ held w) (within : Within held (.unit u))
    (keeps : engine.KeepsSpelling) {entry : Option Nat}
    (becomes : entry = (engine.unit (w.table u.resource)).reparseBecomes) :
    Inv engine side { facts with
      table := fun r =>
        if r.label = u.resource.label then entry.getD (facts.table u.resource) else facts.table r }
      τ held (w.retable u.resource entry) := by
  have owns := (inv.alive within).1
  refine inv.retable owns entry _ facts.spelling ?_
  intro c e context known r here found owned content
  obtain ⟨table, spelling⟩ := inv.shows.unit here found owned content
  rw [World.table_retable (inv.books.label owns).2, inv.table_eq within]
  split
  next same =>
    refine ⟨rfl, ?_⟩
    have moved : w.table r = w.table u.resource := by rw [World.table, World.table, same]
    rw [← spelling, moved, ← inv.table_eq within]
    congr 1
    cases entry with
    | none => rfl
    | some table => exact keeps _ _ becomes.symm
  next => exact ⟨table, spelling⟩

/-- In any case something is observed of the units. -/
theorem exists_retable (inv : Inv engine side facts τ held w) (owns : τ.Owns (.unit u))
    (entry : Option Nat) :
    ∃ table spelling, Inv engine side { facts with table, spelling } τ held
      (w.retable u.resource entry) := by
  let answered (r : Resource) (s : String) : Prop :=
    ∃ c e context known, side.first ≤ c ∧ w.find? c = some e ∧ e.resource = some r ∧
      e.content = .unit context known ∧
      (side.known known).getD (engine.unitSpelling ((w.retable u.resource entry).table r)) = s
  refine ⟨(w.retable u.resource entry).table, fun r => Classical.epsilon (answered r),
    inv.retable owns entry _ _ ?_⟩
  intro c e context known r here found owned content
  refine ⟨rfl, ?_⟩
  obtain ⟨d, e', context', known', there, found', owned', content', spelling⟩ :=
    Classical.epsilon_spec (p := answered r)
      ⟨_, c, e, context, known, here, found, owned, content, rfl⟩
  obtain rfl := inv.books.unique_cell inv.heap here ((World.resourceAt_eq found).trans owned) there
    ((World.resourceAt_eq found').trans owned')
  obtain rfl := Option.some.inj (found.symm.trans found')
  cases content.symm.trans content'
  exact spelling

theorem serial_lt (inv : Inv engine side facts τ held w) (within : Within held (.unit u)) :
    u.resource.serial < facts.acquired := by
  rw [← inv.shows.acquired]
  exact inv.books.serial_lt (inv.books.recent (inv.alive within).1 rfl).1

end Inv

namespace Duo

variable {D : Duo} {H : Grip} {base : Facts} {w w' : World} {u u' : SourceUnit}

/-- A unit that was there before has the same entry of the tables as then. -/
theorem Holds.table_base (holds : D.Holds base H w w') (pair : D.Pair H u u')
    (older : u.resource.serial < base.acquired) : w.table u.resource = base.table u.resource := by
  obtain ⟨facts, facts', grows, links, ⟨τ, inv⟩, -⟩ := holds
  rw [inv.table_eq (pair.left.within _ (.head _)), grows.table _ older]

/-- Both runs ask the same about the unit, and get the same status. -/
theorem lockstep_askReparse (pair : D.Pair H u u') (older : u.resource.serial < base.acquired)
    (unsaved : List UnsavedFile) (options : Option UInt32) :
    D.Lockstep (D.Holds base H) (u.askReparse unsaved options) (u'.askReparse unsaved options)
      (fun a b w w' => (a = b ∧ a = D.engine.unit (base.table u.resource)) ∧
        D.Holds base H w w') (D.Holds base H) := by
  have entry : D.Lockstep (D.Holds base H) u.entry u'.entry
      (fun a b w w' => (a = b ∧ a = D.engine.unit (base.table u.resource)) ∧
        D.Holds base H w w') (D.Holds base H) := by
    intro w w' holds
    exact .inl ⟨D.engine.unit (w.table u.resource), D.engine.unit (w'.table u'.resource), w, w',
      rfl, rfl, ⟨by rw [holds.table pair], by rw [holds.table_base pair older]⟩, holds⟩
  have bits (entry : UnitEntry) :
      D.Same H H (u.reparseBits entry options) (u'.reparseBits entry options) := by
    cases options with
    | some options => exact Same.pure _
    | none => exact (same_ask_one pair.lends _).map _
  refine Lockstep.bind (same_checkTexts _ base) fun _ _ => Lockstep.bind
    (entry.mono (fun _ _ holds => holds.2) (fun _ _ _ _ post => post) fun _ _ fail => fail) ?_
  rintro a _ w w' ⟨⟨rfl, is⟩, holds⟩
  have rest := (bits a).bind fun options =>
    (SourceUnit.same_request (F := H) pair (.reparse · unsaved options) fun _ => rfl).bind fun _ =>
      (SourceUnit.same_checkStatus "reparse" a.reparseStatus fun code =>
        (LoadProblem.ofCode? code).map .reparse).bind fun _ =>
          Runs.pure (R := fun a b => a = b ∧ a = D.engine.unit (base.table u.resource))
            (K := fun _ _ => H) ⟨rfl, is⟩ rfl
  exact rest base w w' holds

/-- Whether two stores are in order and the same could be observed of them. -/
def Agrees (D : Duo) (H : Grip) (w w' : World) : Prop :=
  ∃ base, D.Holds base H w w'

/-- What is observed may be told anew. -/
theorem Agrees.of_links {facts facts' : Facts} (links : D.shift.Links facts facts')
    (left : At D.engine D.left H.1 facts w) (right : At D.engine D.right H.2 facts' w') :
    D.Agrees H w w' :=
  ⟨facts, facts, facts', .refl facts, links, left, right⟩

theorem Agrees.facts (agrees : D.Agrees H w w') :
    ∃ facts facts', D.shift.Links facts facts' ∧ At D.engine D.left H.1 facts w ∧
      At D.engine D.right H.2 facts' w' := by
  obtain ⟨_, facts, facts', -, rest⟩ := agrees
  exact ⟨facts, facts', rest⟩

/-- Holding a unit besides other things. -/
theorem Grip.add_unit (H : Grip) (u u' : SourceUnit) :
    H.add u u' = (.unit u ::ₘ H.1, .unit u' ::ₘ H.2) :=
  Prod.ext (Multiset.singleton_add _ _) (Multiset.singleton_add _ _)

/-- Whether what two runs hold corresponds, and cursors are held together with their units. -/
structure Twin (D : Duo) (H : Grip) : Prop where
  left : Accompanied H.1
  right : Accompanied H.2
  lends : ∀ r', SourceAtlas.Lends H.2 r' ↔ ∃ r, SourceAtlas.Lends H.1 r ∧ D.shift.rename r = r'

/-- A unit has another reference in both runs or in neither. -/
theorem Agrees.shared_iff (agrees : D.Agrees (H.add u u') w w') (same : D.Match u u')
    (twin : D.Twin H) : 1 < w.count u.cell ↔ 1 < w'.count u'.cell := by
  obtain ⟨facts, facts', -, ⟨τ, inv⟩, τ', inv'⟩ := agrees.facts
  rw [Grip.add_unit] at inv inv'
  rw [inv.shared_iff twin.left, inv'.shared_iff twin.right, twin.lends]
  have renamed : D.shift.rename u.resource = u'.resource := same.alike.1
  constructor
  · exact fun lends => ⟨_, lends, renamed⟩
  · rintro ⟨r, lends, is⟩
    rwa [D.shift.rename_injective (is.trans renamed.symm)] at lends

/-- Both runs may give the unit the same other entry, if there is no shift, and either spellings are
kept or the runs are one. -/
theorem Agrees.retable {K : Grip} (agrees : D.Agrees K w w') (pair : D.Pair K u u')
    (unshifted : D.shift = {}) {entry : Option Nat}
    (becomes : entry = (D.engine.unit (w.table u.resource)).reparseBecomes)
    (calm : D.engine.KeepsSpelling ∨ D.left = D.right ∧ K.1 = K.2 ∧ u = u' ∧ w = w') :
    D.Agrees K (w.retable u.resource entry) (w'.retable u'.resource entry) := by
  obtain ⟨engine, left, right, shift⟩ := D
  obtain rfl : shift = {} := unshifted
  obtain ⟨facts, facts', links, ⟨τ, inv⟩, τ', inv'⟩ := agrees.facts
  have within := pair.left.within _ (.head _)
  have within' := pair.right.within _ (.head _)
  have resource : u.resource = u'.resource := by
    have renamed : ({} : Shift).rename u.resource = u'.resource := pair.alike.1
    rwa [Shift.rename_zero] at renamed
  have tables (r : Resource) : facts'.table r = facts.table r := by
    have := links.table r
    rwa [Shift.rename_zero] at this
  -- an entry with the same spelling is given to the units of both runs; else there is one run
  rcases calm with keeps | ⟨sides, grips, rfl, rfl⟩
  · have becomes' : entry = (engine.unit (w'.table u'.resource)).reparseBecomes := by
      rw [becomes, inv.table_eq within, inv'.table_eq within', tables, resource]
    refine .of_links (?_ : Shift.Links _ _ _) ⟨τ, inv.retable_keeps within keeps becomes⟩
      ⟨τ', inv'.retable_keeps within' keeps becomes'⟩
    exact
      { links with
        table := by
          intro r
          rw [Shift.rename_zero]
          simp only [id_eq, tables, resource] }
  · obtain ⟨first, second⟩ := K
    dsimp only at sides grips inv
    subst sides grips
    obtain ⟨table, spelling, inv⟩ := inv.exists_retable (inv.alive within).1 entry
    exact .of_links (.refl _) ⟨τ, inv⟩ ⟨τ, inv⟩

/-- A unit is parsed again by both runs or by neither. -/
theorem Agrees.reparse (agrees : D.Agrees (H.add u u') w w') (same : D.Match u u')
    (twin : D.Twin H) (unshifted : D.shift = {})
    (calm : D.engine.KeepsSpelling ∨ D.left = D.right ∧ H.1 = H.2 ∧ u = u' ∧ w = w')
    (unsaved : List UnsavedFile) (options : Option UInt32) :
    (∃ v v', (u.reparse unsaved options).exec (D.left.setting D.engine) w = (.ok (), v) ∧
      (u'.reparse unsaved options).exec (D.right.setting D.engine) w' = (.ok (), v') ∧
      D.Agrees (H.add u u') v v') ∨
    ∃ fault fault' v v',
      (u.reparse unsaved options).exec (D.left.setting D.engine) w = (.error fault, v) ∧
      (u'.reparse unsaved options).exec (D.right.setting D.engine) w' = (.error fault', v') ∧
      fault.observed = fault'.observed ∧ D.Agrees (H.add u u') v v' := by
  have pair := same.pair H
  have shared := agrees.shared_iff same twin
  rw [SourceUnit.exec_reparse, SourceUnit.exec_reparse]
  by_cases refused : 1 < w.count u.cell
  · rw [if_pos refused, if_pos (shared.1 refused)]
    exact .inr ⟨_, _, w, w', rfl, rfl, rfl, agrees⟩
  rw [if_neg refused, if_neg (mt shared.2 refused)]
  obtain ⟨facts, facts', links, order, order'⟩ := agrees.facts
  -- the unit is there before the question, so that the answer to it is about its present entry
  have older : u.resource.serial < facts.acquired := by
    obtain ⟨τ, inv⟩ := order
    exact inv.serial_lt (pair.left.within _ (.head _))
  have asked := lockstep_askReparse pair older unsaved options w w'
    ⟨facts, facts', .refl facts, links, order, order'⟩
  rcases asked with ⟨entry, _, v, v', ran, ran', ⟨rfl, is⟩, holds⟩ | ⟨fault, v, v', ran, ran', holds⟩
  · rw [ran, ran']
    refine .inl ⟨_, _, rfl, rfl, Agrees.retable ⟨facts, holds⟩ pair unshifted ?_ ?_⟩
    · rw [is, holds.table_base pair older]
    · refine calm.imp id fun ⟨sides, grips, units, stores⟩ => ⟨sides, ?_, units, ?_⟩
      · show owners u + H.1 = owners u' + H.2
        rw [grips, units]
      · rw [sides, units, stores, ran'] at ran
        exact (congrArg Prod.snd ran).symm
  · rw [ran, ran']
    exact .inr ⟨fault, fault, v, v', rfl, rfl, rfl, facts, holds⟩

end Duo

end SourceAtlas
