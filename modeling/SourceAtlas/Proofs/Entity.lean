import SourceAtlas.Proofs.Owner

/-!
# Entities and what they hold

Each entity holds references to owners. A coherent entity belongs to what it holds: its raw values
are part of a resource that it keeps alive, and what it remembers about itself is what the engine
would say again. Alike entities that are coherent hold corresponding resources.
-/

namespace SourceAtlas

/-- A text as it is read; empty if it has no data. -/
def EngineText.decoded (text : EngineText) : String :=
  (text.map fun bytes => Utf8.decodeLossy bytes.untilNul).getD ""

/-- A type of entities. -/
class Entity (α : Type) [Holder α] [Likeness α] where
  /-- The owners of the cells that a value refers to. -/
  owners : α → List Owner
  Coherent : Engine → α → Prop
  refs_eq : ∀ a, refs a = (owners a).map Owner.cell
  twins : ∀ {ρ e a b}, Coherent e a → Coherent e b → Alike ρ a b →
    Twins ρ (owners a) (owners b)
  /-- Whoever refers to the memo of a cursor also refers to the cursor's unit. -/
  accompanied : ∀ {a k}, .cursor k ∈ owners a → .unit k.unit ∈ owners a

export Entity (owners Coherent)

/-! ## Collections -/

instance [Holder α] [Likeness α] [Entity α] : Entity (Option α) where
  owners value := value.elim [] owners
  Coherent engine value := ∀ a ∈ value, Coherent engine a
  refs_eq value := by
    cases value with
    | none => rfl
    | some a => exact Entity.refs_eq a
  twins coherent coherent' alike := by
    cases alike with
    | none => exact .nil
    | some alike => exact Entity.twins (coherent _ rfl) (coherent' _ rfl) alike
  accompanied {value k} member := by
    cases value with
    | none => exact absurd member List.not_mem_nil
    | some a => exact Entity.accompanied (a := a) member

theorem mem_owners_option [Holder α] [Likeness α] [Entity α] {value : Option α} {o : Owner} :
    o ∈ owners value ↔ ∃ a ∈ value, o ∈ owners a := by
  cases value with
  | none => exact ⟨fun absent => absurd absent List.not_mem_nil, nofun⟩
  | some a =>
      refine ⟨fun member => ⟨a, rfl, member⟩, ?_⟩
      rintro ⟨_, ⟨⟩, member⟩
      exact member

instance [Holder α] [Likeness α] [Entity α] : Entity (List α) where
  owners values := values.flatMap owners
  Coherent engine values := ∀ a ∈ values, Coherent engine a
  refs_eq values := by
    show values.flatMap refs = _
    rw [List.map_flatMap]
    exact congrArg (values.flatMap ·) (funext Entity.refs_eq)
  twins coherent coherent' alike := by
    induction alike with
    | nil => exact .nil
    | cons first _ ih =>
        rw [List.flatMap_cons, List.flatMap_cons]
        refine .append (Entity.twins (coherent _ (.head _)) (coherent' _ (.head _)) first) ?_
        exact ih (fun a member => coherent a (.tail _ member))
          fun b member => coherent' b (.tail _ member)
  accompanied {values k} member := by
    obtain ⟨a, there, member⟩ := List.mem_flatMap.1 member
    exact List.mem_flatMap.2 ⟨a, there, Entity.accompanied member⟩

/-- What an element of a list refers to is within reach of the list. -/
theorem Within.of_element [Holder α] [Likeness α] [Entity α] {values : List α} {a : α}
    (there : a ∈ values) {o : Owner} (member : o ∈ owners a) :
    Within (owners values : List Owner) o :=
  .of_mem (List.mem_flatMap.2 ⟨a, there, member⟩)

instance [Holder α] [Likeness α] [Entity α] : Entity (Except Fault α) where
  owners
    | .ok a => owners a
    | .error _ => []
  Coherent engine
    | .ok a => Coherent engine a
    | .error _ => True
  refs_eq outcome := by
    cases outcome with
    | ok a => exact Entity.refs_eq a
    | error fault => rfl
  twins {ρ e a b} coherent coherent' alike := by
    cases a <;> cases b <;> first
      | exact alike.elim
      | exact .nil
      | exact Entity.twins (e := e) coherent coherent' alike
  accompanied {outcome k} member := by
    cases outcome with
    | ok a => exact Entity.accompanied (a := a) member
    | error fault => exact absurd member List.not_mem_nil

/-! ## What owns a resource -/

instance : Entity Index where
  owners index := [.index index]
  Coherent _ _ := True
  refs_eq _ := rfl
  twins _ _ alike := .single alike
  accompanied member := nomatch List.mem_singleton.1 member

instance : Entity SourceUnit where
  owners unit := [.unit unit]
  Coherent _ _ := True
  refs_eq _ := rfl
  twins _ _ alike := .single alike
  accompanied member := nomatch List.mem_singleton.1 member

instance : Entity Completion where
  owners results := [.completion results]
  Coherent _ _ := True
  refs_eq _ := rfl
  twins _ _ alike := .single alike
  accompanied member := nomatch List.mem_singleton.1 member

instance : Entity TokenBatch where
  owners batch := [.tokens batch]
  Coherent _ _ := True
  refs_eq _ := rfl
  twins _ _ alike := .single alike
  accompanied member := nomatch List.mem_singleton.1 member

instance : Entity Diagnostic where
  owners diagnostic := [.diagnostic diagnostic]
  Coherent _ diagnostic := ∀ results ∈ diagnostic.anchor, results.unit = diagnostic.unit
  refs_eq _ := rfl
  twins _ _ alike := .single alike
  accompanied member := nomatch List.mem_singleton.1 member

instance : Entity Database where
  owners database := [.database database]
  Coherent _ _ := True
  refs_eq _ := rfl
  twins _ _ alike := .single alike
  accompanied member := nomatch List.mem_singleton.1 member

instance : Entity CommandList where
  owners list := [.commands list]
  Coherent _ _ := True
  refs_eq _ := rfl
  twins _ _ alike := .single alike
  accompanied member := nomatch List.mem_singleton.1 member

/-! ## What belongs to a unit -/

instance : Entity SourceFile where
  owners file := owners file.unit
  Coherent _ file := file.raw.origin = file.unit.resource
  refs_eq _ := rfl
  twins _ _ alike := .single alike.2
  accompanied := Entity.accompanied (α := SourceUnit)

instance : Entity Expansion where
  owners expansion := owners expansion.file
  Coherent engine expansion := Coherent engine expansion.file
  refs_eq expansion := Entity.refs_eq expansion.file
  twins coherent coherent' alike := Entity.twins coherent coherent' alike.1
  accompanied := Entity.accompanied (α := Option SourceFile)

/-- The resource that a value belongs to, which is anchored in completion results or part of a
unit. -/
def anchorResource (unit : SourceUnit) (anchor : Option Completion) : Resource :=
  anchor.elim unit.resource (·.resource)

/-- Whether a value that belongs to some resource comes from a unit, or from completion results for
that unit if it is anchored. -/
structure Comes (origin : Resource) (unit : SourceUnit) (anchor : Option Completion) : Prop where
  origin_eq : origin = anchorResource unit anchor
  anchored : ∀ results ∈ anchor, results.unit = unit

/-- Values of a unit are not anchored. -/
theorem Comes.of_unit {origin : Resource} {unit : SourceUnit} (same : origin = unit.resource) :
    Comes origin unit none :=
  ⟨same, fun _ absent => nomatch absent⟩

theorem Comes.of_not_anchored {origin : Resource} {unit : SourceUnit} {anchor : Option Completion}
    (comes : Comes origin unit anchor) (unanchored : ¬ anchor.isSome = true) :
    origin = unit.resource := by
  obtain rfl := Option.not_isSome_iff_eq_none.1 unanchored
  exact comes.origin_eq

/-- What the engine says about the location. -/
def SourceLocation.answer (location : SourceLocation) : Expansion :=
  ⟨SourceFile.ofRaw? ⟨location.raw.value.file, location.unit.resource⟩ location.unit,
    location.raw.value.line, location.raw.value.column, location.raw.value.offset⟩

theorem SourceFile.owners_ofRaw? (raw : Raw Ref) (unit : SourceUnit) :
    ∀ o ∈ owners (SourceFile.ofRaw? raw unit), o ∈ owners unit := by
  intro o member
  obtain ⟨value, origin⟩ := raw
  cases value with
  | none => exact absurd member List.not_mem_nil
  | some i => exact member

theorem SourceFile.coherent_ofRaw? (engine : Engine) (raw : Raw Ref) (unit : SourceUnit)
    (same : raw.origin = unit.resource) : Coherent engine (SourceFile.ofRaw? raw unit) := by
  intro file found
  obtain ⟨i, -, rfl⟩ := Option.map_eq_some_iff.1 found
  exact same

/-- Whether what a location remembers about itself is what the engine would say again. -/
def SourceLocation.Remembers (location : SourceLocation) : Prop :=
  ∀ expansion ∈ location.expansion, expansion = location.answer

theorem SourceLocation.Remembers.owners_subset {location : SourceLocation}
    (remembers : location.Remembers) :
    ∀ o ∈ owners location.expansion, o ∈ owners location.unit := by
  intro o member
  obtain ⟨expansion, known, member⟩ := mem_owners_option.1 member
  rw [remembers _ known] at member
  exact SourceFile.owners_ofRaw? _ _ o member

theorem not_cursor_of_mem_owners {unit : SourceUnit} {k : Cursor}
    (member : .cursor k ∈ owners unit) : False :=
  nomatch List.mem_singleton.1 member

theorem not_cursor_of_mem_anchor {anchor : Option Completion} {k : Cursor}
    (member : .cursor k ∈ owners anchor) : False := by
  obtain ⟨results, -, member⟩ := mem_owners_option.1 member
  exact nomatch List.mem_singleton.1 member

instance : Entity SourceLocation where
  owners location := owners location.unit ++ owners location.anchor ++ owners location.expansion
  Coherent _ location :=
    Comes location.raw.origin location.unit location.anchor ∧ location.Remembers
  refs_eq location := by
    rw [List.map_append, List.map_append, ← Entity.refs_eq, ← Entity.refs_eq, ← Entity.refs_eq]
    rfl
  twins {ρ e a b} coherent coherent' alike := by
    have core : Twins ρ (owners a.unit ++ owners a.anchor) (owners b.unit ++ owners b.anchor) :=
      .append (.single alike.2.1) (Entity.twins (e := e) (fun _ _ => trivial)
        (fun _ _ => trivial) alike.2.2)
    refine core.extend ?_ ?_
    · exact fun o member _ => List.mem_append_left _ (coherent.2.owners_subset o member)
    · exact fun o member _ => List.mem_append_left _ (coherent'.2.owners_subset o member)
  accompanied {location k} member := by
    rcases List.mem_append.1 member with member | member
    · rcases List.mem_append.1 member with member | member
      · exact (not_cursor_of_mem_owners member).elim
      · exact (not_cursor_of_mem_anchor member).elim
    · exact List.mem_append_right _ (Entity.accompanied (a := location.expansion) member)

/-- A location of a unit that is not anchored refers to the unit only. -/
theorem SourceLocation.Remembers.owner_eq {location : SourceLocation}
    (remembers : location.Remembers) (unanchored : location.anchor = none) {o : Owner}
    (member : o ∈ owners location) : o = .unit location.unit := by
  rcases List.mem_append.1 member with member | member
  · rcases List.mem_append.1 member with member | member
    · exact List.mem_singleton.1 member
    · rw [unanchored] at member
      exact absurd member List.not_mem_nil
  · exact List.mem_singleton.1 (remembers.owners_subset o member)

instance : Entity SourceRange where
  owners range := owners range.unit ++ owners range.anchor
  Coherent _ range := Comes range.raw.origin range.unit range.anchor
  refs_eq range := by
    rw [List.map_append, ← Entity.refs_eq, ← Entity.refs_eq]
    rfl
  twins {ρ e a b} _ _ alike :=
    .append (.single alike.2.1) (Entity.twins (e := e) (fun _ _ => trivial)
      (fun _ _ => trivial) alike.2.2)
  accompanied {range k} member := by
    rcases List.mem_append.1 member with member | member
    · exact (not_cursor_of_mem_owners member).elim
    · exact (not_cursor_of_mem_anchor member).elim

instance : Entity Inclusion where
  owners inclusion :=
    owners inclusion.source ++ owners inclusion.included ++ owners inclusion.location
  Coherent engine inclusion := Coherent engine inclusion.source ∧
    Coherent engine inclusion.included ∧ Coherent engine inclusion.location
  refs_eq inclusion := by
    rw [List.map_append, List.map_append, ← Entity.refs_eq, ← Entity.refs_eq, ← Entity.refs_eq]
    rfl
  twins coherent coherent' alike :=
    .append (.append (Entity.twins coherent.1 coherent'.1 alike.1)
      (Entity.twins coherent.2.1 coherent'.2.1 alike.2.1))
      (Entity.twins coherent.2.2 coherent'.2.2 alike.2.2.1)
  accompanied {inclusion k} member := by
    rcases List.mem_append.1 member with member | member
    · rcases List.mem_append.1 member with member | member
      · exact List.mem_append_left _ (List.mem_append_left _ (Entity.accompanied member))
      · exact List.mem_append_left _ (List.mem_append_right _ (Entity.accompanied member))
    · exact List.mem_append_right _ (Entity.accompanied member)

instance : Entity SourceType where
  owners type := owners type.unit
  Coherent _ type := type.raw.origin = type.unit.resource
  refs_eq _ := rfl
  twins _ _ alike := .single alike.2
  accompanied := Entity.accompanied (α := SourceUnit)

instance : Entity ArgumentTypes where
  owners types := owners types.type
  Coherent engine types := Coherent engine types.type
  refs_eq _ := rfl
  twins _ _ alike := .single alike.1.2
  accompanied := Entity.accompanied (α := SourceUnit)

instance : Entity Cursor where
  owners cursor := [.unit cursor.unit, .cursor cursor]
  Coherent _ cursor := cursor.raw.origin = cursor.unit.resource ∧
    ∀ parent ∈ cursor.parent, parent.origin = cursor.unit.resource
  refs_eq _ := rfl
  twins _ _ alike := .append (.single alike.2.1) (.single alike)
  accompanied {cursor k} member := by
    rcases List.mem_cons.1 member with member | member
    · nomatch member
    · cases List.mem_singleton.1 member
      exact List.mem_cons_self

instance : Entity DiagnosticList where
  owners list := owners list.unit
  Coherent _ _ := True
  refs_eq _ := rfl
  twins _ _ alike := .single alike
  accompanied := Entity.accompanied (α := SourceUnit)

instance : Entity Walk where
  owners walk := owners walk.pending
  Coherent engine walk := Coherent engine walk.pending
  refs_eq walk := Entity.refs_eq walk.pending
  twins coherent coherent' alike := Entity.twins coherent coherent' alike
  accompanied := Entity.accompanied (α := List Cursor)

instance : Entity FixIt where
  owners fixIt := owners fixIt.range
  Coherent engine fixIt := Coherent engine fixIt.range
  refs_eq fixIt := Entity.refs_eq fixIt.range
  twins coherent coherent' alike := Entity.twins coherent coherent' alike.1
  accompanied := Entity.accompanied (α := SourceRange)

/-! ## What belongs to a batch of tokens -/

instance : Entity TokenStream where
  owners stream := owners stream.batch
  Coherent engine stream := Coherent engine stream.batch
  refs_eq stream := Entity.refs_eq stream.batch
  twins coherent coherent' alike := Entity.twins coherent coherent' alike.1
  accompanied := Entity.accompanied (α := Option TokenBatch)

instance : Entity Token where
  owners token := owners token.batch
  Coherent _ _ := True
  refs_eq _ := rfl
  twins _ _ alike := .single alike.1
  accompanied := Entity.accompanied (α := TokenBatch)

/-! ## What belongs to completion results -/

instance : Entity Candidate where
  owners candidate := owners candidate.results
  Coherent _ candidate := candidate.string.origin = candidate.results.resource
  refs_eq _ := rfl
  twins _ _ alike := .single alike.2.2
  accompanied := Entity.accompanied (α := Completion)

instance : Entity CompletionString where
  owners string := owners string.results
  Coherent _ string := string.raw.origin = string.results.resource
  refs_eq _ := rfl
  twins _ _ alike := .single alike.2
  accompanied := Entity.accompanied (α := Completion)

/-- Whether what a chunk remembers about itself is what the engine would say again. -/
def Chunk.Remembers (engine : Engine) (chunk : Chunk) : Prop :=
  (∀ text ∈ chunk.spelling,
    text = (engine.chunk chunk.string.raw.value chunk.position).text.decoded) ∧
  ∀ kind ∈ chunk.kind, kind = .ofRaw (engine.chunk chunk.string.raw.value chunk.position).kind

instance : Entity Chunk where
  owners chunk := owners chunk.string
  Coherent engine chunk := Coherent engine chunk.string ∧ chunk.Remembers engine
  refs_eq _ := rfl
  twins _ _ alike := .single alike.1.2
  accompanied := Entity.accompanied (α := Completion)

/-! ## What belongs to a compilation database -/

instance : Entity CompileCommand where
  owners command := owners command.list
  Coherent _ command := command.raw.origin = command.list.resource
  refs_eq _ := rfl
  twins _ _ alike := .single alike.2
  accompanied := Entity.accompanied (α := CommandList)

/-! ## Objects and answers -/

namespace Object

/-- The owners of the cells that an object refers to. -/
def heldOwners : Object → List Owner
  | .index held => owners held
  | .unit held => owners held
  | .cursor held => owners held
  | .type held => owners held
  | .argumentTypes held => owners held
  | .file held => owners held
  | .location held => owners held
  | .range held => owners held
  | .inclusion held => owners held
  | .tokens held => owners held
  | .token held => owners held
  | .walk held => owners held
  | .diagnostics held => owners held
  | .diagnostic held => owners held
  | .fixIt held => owners held
  | .completion held => owners held
  | .candidate held => owners held
  | .string held => owners held
  | .chunk held => owners held
  | .database held => owners held
  | .commands held => owners held
  | .command held => owners held

def IsCoherent (engine : Engine) : Object → Prop
  | .index held => Coherent engine held
  | .unit held => Coherent engine held
  | .cursor held => Coherent engine held
  | .type held => Coherent engine held
  | .argumentTypes held => Coherent engine held
  | .file held => Coherent engine held
  | .location held => Coherent engine held
  | .range held => Coherent engine held
  | .inclusion held => Coherent engine held
  | .tokens held => Coherent engine held
  | .token held => Coherent engine held
  | .walk held => Coherent engine held
  | .diagnostics held => Coherent engine held
  | .diagnostic held => Coherent engine held
  | .fixIt held => Coherent engine held
  | .completion held => Coherent engine held
  | .candidate held => Coherent engine held
  | .string held => Coherent engine held
  | .chunk held => Coherent engine held
  | .database held => Coherent engine held
  | .commands held => Coherent engine held
  | .command held => Coherent engine held

end Object

instance : Entity Object where
  owners := Object.heldOwners
  Coherent := Object.IsCoherent
  refs_eq object := by cases object with | _ held => exact Entity.refs_eq held
  twins {ρ e a b} coherent coherent' alike := by
    cases a <;> cases b <;> first
      | exact alike.elim
      | exact Entity.twins (e := e) coherent coherent' alike
  accompanied {object k} member := by
    cases object <;> exact Entity.accompanied (k := k) member

instance : Entity Answer where
  owners
    | .plain _ => []
    | .object object => owners object
    | .objects objects => owners objects
  Coherent engine
    | .plain _ => True
    | .object object => Coherent engine object
    | .objects objects => Coherent engine objects
  refs_eq answer := by
    cases answer with
    | plain value => rfl
    | object object => exact Entity.refs_eq object
    | objects objects => exact Entity.refs_eq objects
  twins {ρ e a b} coherent coherent' alike := by
    cases a <;> cases b <;> first
      | exact alike.elim
      | exact .nil
      | exact Entity.twins (e := e) coherent coherent' alike
  accompanied {answer k} member := by
    cases answer with
    | plain value => exact absurd member List.not_mem_nil
    | object object => exact Entity.accompanied (a := object) member
    | objects objects => exact Entity.accompanied (a := objects) member

end SourceAtlas
