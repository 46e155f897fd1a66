import SourceAtlas.Proofs.Commands
import SourceAtlas.Proofs.Sources

/-!
# Answers in lockstep

Alike objects give alike answers to the same query, and an answer holds what its objects refer to.
The one query that this leaves out is to parse a unit again, which may change what units answer.
-/

namespace SourceAtlas

open Duo

/-! ## Objects of one kind -/

/-- Whether objects of one kind hold what their values hold, and are as coherent and as alike. -/
class Wraps [Holder α] [Likeness α] [Entity α] (W : α → Object) : Prop where
  owners_wrap : ∀ a, owners (W a) = owners a
  coherent_wrap : ∀ {engine a}, Coherent engine (W a) ↔ Coherent engine a
  alike_wrap : ∀ {ρ a b}, Alike ρ (W a) (W b) ↔ Alike ρ a b

instance : Wraps Object.index := ⟨fun _ => rfl, .rfl, .rfl⟩

instance : Wraps Object.unit := ⟨fun _ => rfl, .rfl, .rfl⟩

instance : Wraps Object.cursor := ⟨fun _ => rfl, .rfl, .rfl⟩

instance : Wraps Object.type := ⟨fun _ => rfl, .rfl, .rfl⟩

instance : Wraps Object.argumentTypes := ⟨fun _ => rfl, .rfl, .rfl⟩

instance : Wraps Object.file := ⟨fun _ => rfl, .rfl, .rfl⟩

instance : Wraps Object.location := ⟨fun _ => rfl, .rfl, .rfl⟩

instance : Wraps Object.range := ⟨fun _ => rfl, .rfl, .rfl⟩

instance : Wraps Object.inclusion := ⟨fun _ => rfl, .rfl, .rfl⟩

instance : Wraps Object.tokens := ⟨fun _ => rfl, .rfl, .rfl⟩

instance : Wraps Object.token := ⟨fun _ => rfl, .rfl, .rfl⟩

instance : Wraps Object.walk := ⟨fun _ => rfl, .rfl, .rfl⟩

instance : Wraps Object.diagnostics := ⟨fun _ => rfl, .rfl, .rfl⟩

instance : Wraps Object.diagnostic := ⟨fun _ => rfl, .rfl, .rfl⟩

instance : Wraps Object.fixIt := ⟨fun _ => rfl, .rfl, .rfl⟩

instance : Wraps Object.completion := ⟨fun _ => rfl, .rfl, .rfl⟩

instance : Wraps Object.candidate := ⟨fun _ => rfl, .rfl, .rfl⟩

instance : Wraps Object.string := ⟨fun _ => rfl, .rfl, .rfl⟩

instance : Wraps Object.chunk := ⟨fun _ => rfl, .rfl, .rfl⟩

instance : Wraps Object.database := ⟨fun _ => rfl, .rfl, .rfl⟩

instance : Wraps Object.commands := ⟨fun _ => rfl, .rfl, .rfl⟩

instance : Wraps Object.command := ⟨fun _ => rfl, .rfl, .rfl⟩

namespace Duo

variable {D : Duo} {H F : Grip} {α β : Type}

/-- Actions may be grouped otherwise. -/
theorem Runs.assoc {γ : Type} {x y : Act α} {f f' : α → Act β} {g g' : β → Act γ}
    {R : γ → γ → Prop} {K : γ → γ → Grip} (runs : D.Runs H F (x >>= f >>= g) (y >>= f' >>= g') R K) :
    D.Runs H F (x >>= fun a => f a >>= g) (y >>= fun a => f' a >>= g') R K := by
  rwa [bind_assoc, bind_assoc] at runs

theorem gives_shown {a b : α} (same : a = b) (show_ : α → Json) :
    D.Gives H F (Pure.pure (Answer.plain (show_ a))) (Pure.pure (Answer.plain (show_ b))) := by
  subst same
  exact Runs.pure ⟨trivial, trivial, rfl⟩ (Grip.add_eq H rfl rfl)

theorem gives_value (value : Json) :
    D.Gives H F (Pure.pure (Answer.plain value)) (Pure.pure (Answer.plain value)) :=
  gives_shown (rfl : value = value) id

theorem gives_plain {x y : Act α} (same : D.Same H F x y) (show_ : α → Json) :
    D.Gives H F (x >>= fun a => Pure.pure (Answer.plain (show_ a)))
      (y >>= fun a => Pure.pure (Answer.plain (show_ a))) :=
  same.bind fun _ => gives_shown rfl show_

section Entities

variable [Holder α] [Likeness α] [Entity α] {x y : Act α} {W : α → Object} [Wraps W]

theorem Match.wrapped {a b : α} (same : D.Match a b) : D.Match (W a) (W b) :=
  ⟨Wraps.coherent_wrap.2 same.left, Wraps.coherent_wrap.2 same.right,
    Wraps.alike_wrap.2 same.alike⟩

theorem Match.unwrapped {a b : α} (same : D.Match (W a) (W b)) : D.Match a b :=
  ⟨Wraps.coherent_wrap.1 same.left, Wraps.coherent_wrap.1 same.right,
    Wraps.alike_wrap.1 same.alike⟩

theorem Match.object {o o' : Object} (same : D.Match o o') :
    D.Match (Answer.object o) (Answer.object o') :=
  ⟨same.left, same.right, same.alike⟩

theorem Match.plain (value : Json) : D.Match (Answer.plain value) (Answer.plain value) :=
  ⟨trivial, trivial, rfl⟩

/-- Objects add what their values add. -/
theorem Grip.add_wrap (H : Grip) (a b : α) : H.add (W a) (W b) = H.add a b := by
  rw [Grip.add, Wraps.owners_wrap, Wraps.owners_wrap]
  rfl

theorem Match.pair_wrapped {a b : α} (same : D.Match a b) (H : Grip) :
    D.Pair (H.add (W a) (W b)) a b :=
  Grip.add_wrap (W := W) H a b ▸ same.pair H

theorem Pair.wrapped {a b : α} (pair : D.Pair H a b) : D.Pair H (W a) (W b) := by
  refine ⟨⟨Wraps.coherent_wrap.2 pair.left.coherent, ?_⟩,
    ⟨Wraps.coherent_wrap.2 pair.right.coherent, ?_⟩, Wraps.alike_wrap.2 pair.alike⟩
  · rw [Wraps.owners_wrap]
    exact pair.left.within
  · rw [Wraps.owners_wrap]
    exact pair.right.within

/-- A value can be used if the object that it makes can. -/
theorem Pair.unwrapped {a b : α} (pair : D.Pair H (W a) (W b)) : D.Pair H a b := by
  refine ⟨⟨Wraps.coherent_wrap.1 pair.left.coherent, ?_⟩,
    ⟨Wraps.coherent_wrap.1 pair.right.coherent, ?_⟩, Wraps.alike_wrap.1 pair.alike⟩
  · rw [← Wraps.owners_wrap (W := W) a]
    exact pair.left.within
  · rw [← Wraps.owners_wrap (W := W) b]
    exact pair.right.within

/-- Values that may be absent match as answers. -/
theorem Match.optional {a b : Option α} (same : D.Match a b) :
    D.Match (Answer.optional W a) (Answer.optional W b) := by
  obtain ⟨left, right, alike⟩ := same
  cases alike with
  | none => exact .plain _
  | some alike => exact Match.object (Match.wrapped ⟨left _ rfl, right _ rfl, alike⟩)

theorem owners_optional (a : Option α) : owners (Answer.optional W a) = owners a := by
  cases a with
  | none => rfl
  | some a => exact Wraps.owners_wrap a

/-- Lists of values match as answers. -/
theorem Match.list {as bs : List α} (same : D.Match as bs) :
    D.Match (Answer.list W as) (Answer.list W bs) := by
  obtain ⟨left, right, alike⟩ := same
  refine ⟨?_, ?_, ?_⟩
  · intro o member
    obtain ⟨a, there, rfl⟩ := List.mem_map.1 member
    exact Wraps.coherent_wrap.2 (left a there)
  · intro o member
    obtain ⟨b, there, rfl⟩ := List.mem_map.1 member
    exact Wraps.coherent_wrap.2 (right b there)
  · exact List.forall₂_map_left_iff.2 (List.forall₂_map_right_iff.2 (alike.imp fun _ _ =>
      Wraps.alike_wrap.2))

theorem owners_list (as : List α) : owners (Answer.list W as) = owners as := by
  show (as.map W).flatMap owners = as.flatMap owners
  rw [List.flatMap_map]
  exact List.flatMap_congr fun a _ => Wraps.owners_wrap a

theorem gives_object (gives : D.Gives H F x y) :
    D.Gives H F (x >>= fun a => Pure.pure (Answer.object (W a)))
      (y >>= fun a => Pure.pure (Answer.object (W a))) :=
  gives.map fun a b same => ⟨Match.object (Match.wrapped same), Wraps.owners_wrap a, Wraps.owners_wrap b⟩

theorem gives_optional {x y : Act (Option α)} (gives : D.Gives H F x y) :
    D.Gives H F (x >>= fun a => Pure.pure (Answer.optional W a))
      (y >>= fun a => Pure.pure (Answer.optional W a)) :=
  gives.map fun a b same => ⟨same.optional, owners_optional a, owners_optional b⟩

theorem gives_list {x y : Act (List α)} (gives : D.Gives H F x y) :
    D.Gives H F (x >>= fun a => Pure.pure (Answer.list W a))
      (y >>= fun a => Pure.pure (Answer.list W a)) :=
  gives.map fun a b same => ⟨same.list, owners_list a, owners_list b⟩

end Entities

end Duo

variable {D : Duo} {H F : Grip}

/-! ## Queries -/

theorem Index.gives_answer {index index' : Index} (pair : D.Pair H index index')
    (query : IndexQuery) : D.Gives H H (index.answer query) (index'.answer query) := by
  cases query with
  | parse path args unsaved options => exact gives_object (gives_parse pair _ _ _ _)
  | read path => exact gives_object (gives_read pair _)
  | config =>
      exact gives_shown pair.alike.2 fun config =>
        .arr [.bool config.excludeDeclarationsFromPch, .bool config.displayDiagnostics]
  | debug =>
      exact gives_shown pair.alike.2 fun config =>
        .str (Inspect.record "Index" [("config", config.inspect)]).render

/-- Queries of a unit, but for the one that parses it again. -/
theorem SourceUnit.gives_answer {u u' : SourceUnit} (pair : D.Pair H u u') (query : UnitQuery)
    (still : ∀ unsaved options, query ≠ .reparse unsaved options) :
    D.Gives H H (u.answer query) (u'.answer query) := by
  cases query with
  | cursor => exact gives_object (Cursor.gives_root pair)
  | index => exact gives_object (gives_keep (pair_index pair))
  | spelling => exact gives_plain pair.same_spelling .str
  | diagnostics => exact gives_object (gives_diagnostics pair)
  | inclusions => exact gives_list (gives_inclusions pair)
  | debug => exact gives_plain pair.same_inspect _
  | reparse unsaved options => exact absurd rfl (still unsaved options)
  | save path => exact gives_plain (same_save pair path) fun _ => .null
  | complete path line column unsaved options =>
      exact gives_optional (gives_complete pair path line column unsaved options)
  | file name => exact gives_optional (gives_file? pair name)
  | location name position => exact gives_optional (gives_location? pair name position)
  | extent name start stop => exact gives_optional (gives_extent? pair name start stop)

namespace Cursor

variable {k k' : Cursor}

theorem same_propertyForm (pair : D.Pair H k k') (property : CursorTrait) :
    D.Same H F (k.propertyForm property) (k'.propertyForm property) := by
  cases property <;> exact (same_property pair _ _).map _

theorem same_kindSpelling (pair : D.Pair H k k') :
    D.Same H H k.kindSpelling k'.kindSpelling :=
  (same_kind pair).bind fun _ => (same_inquire _).bind fun _ =>
    same_engine.bind fun _ => Duo.same_text _

theorem gives_answer (pair : D.Pair H k k') (query : CursorQuery) :
    D.Gives H H (k.answer query) (k'.answer query) := by
  cases query with
  | kind => exact gives_plain (same_kind pair) _
  | kindSpelling => exact gives_plain (same_kindSpelling pair) _
  | spelling => exact gives_plain (same_spelling pair) _
  | displayName => exact gives_plain (same_displayName pair) _
  | text text => exact gives_plain (same_text pair text) _
  | comment text => exact gives_plain (same_text? pair text) _
  | property property => exact gives_plain (same_propertyForm pair property) _
  | has flag => exact gives_plain (same_has pair flag) _
  | hash => exact gives_plain (same_hash pair) _
  | hashFeed => exact gives_plain (same_hash pair) _
  | bitfieldWidth => exact gives_plain (same_bitfieldWidth pair) _
  | fieldOffset => exact gives_plain (same_fieldOffset pair) _
  | enumValue =>
      refine (same_enumValue pair).bind fun value => ?_
      cases value with
      | signed n => exact gives_value _
      | unsigned n => exact gives_value _
  | location => exact (gives_object (gives_location pair)).assoc
  | extent => exact (gives_object (gives_extent pair)).assoc
  | tokens => exact gives_object (gives_tokens pair)
  | type => exact (gives_object (gives_type pair)).assoc
  | resultType => exact gives_object (gives_resultType pair)
  | underlyingTypedefType => exact gives_object (gives_underlyingTypedefType pair)
  | enumType => exact gives_object (gives_enumType pair)
  | canonical => exact (gives_object (gives_canonical pair)).assoc
  | semanticParent => exact (gives_optional (gives_semanticParent pair)).assoc
  | lexicalParent => exact (gives_optional (gives_lexicalParent pair)).assoc
  | visitParent => exact gives_optional (gives_visitParent pair)
  | referenced => exact gives_optional (gives_linked pair _)
  | definition => exact gives_optional (gives_linked pair _)
  | includedFile => exact gives_optional (gives_includedFile pair)
  | arguments => exact gives_list (gives_arguments pair)
  | children => exact gives_list (gives_children pair)
  | walk => exact gives_object (Walk.gives_make pair)
  | unit => exact gives_object (gives_keep (pair_unit pair))
  | debug => exact gives_plain (same_inspect pair) _
  | templateArgumentCount => exact gives_plain (same_templateArgumentCount pair) _
  | templateArgumentKind i => exact gives_plain (same_templateArgumentKind pair i) _
  | templateArgumentType i => exact gives_object (gives_templateArgumentType pair i)
  | templateArgumentValue i => exact gives_plain (same_templateArgumentValue pair i) _
  | templateArgumentUnsignedValue i =>
      exact gives_plain (same_templateArgumentUnsignedValue pair i) _

end Cursor

namespace SourceType

variable {type type' : SourceType}

theorem same_kindSpelling (pair : D.Pair H type type') :
    D.Same H H type.kindSpelling type'.kindSpelling :=
  (same_kind pair).bind fun _ => (same_inquire _).bind fun _ =>
    same_engine.bind fun _ => same_text _

theorem gives_answer (pair : D.Pair H type type') (query : TypeQuery) :
    D.Gives H H (type.answer query) (type'.answer query) := by
  cases query with
  | kind => exact gives_plain (same_kind pair) _
  | kindSpelling => exact gives_plain (same_kindSpelling pair) _
  | spelling => exact gives_plain (same_spelling pair) _
  | typedefName => exact gives_plain (same_typedefName pair) _
  | has flag => exact gives_plain (same_has pair flag) _
  | isFunctionVariadic => exact gives_plain (same_isFunctionVariadic pair) _
  | linked link => exact gives_object (gives_linked pair link)
  | elementType => exact gives_object (gives_elementType pair)
  | elementCount => exact gives_plain (same_elementCount pair) _
  | arraySize => exact gives_plain (same_arraySize pair) _
  | align => exact gives_plain (same_align pair) _
  | size => exact gives_plain (same_size pair) _
  | addressSpace => exact gives_plain (same_addressSpace pair) _
  | declaration => exact gives_optional (gives_declaration pair)
  | refQualifier => exact gives_plain (same_refQualifier pair) _
  | exceptionSpecification => exact gives_plain (same_exceptionSpecification pair) _
  | argumentTypes => exact gives_object (gives_argumentTypes pair)
  | fields => exact gives_list (gives_fields pair)
  | unit => exact gives_object (gives_keep (pair_unit pair))
  | debug => exact gives_plain (same_inspect pair) _
  | offsetOf field => exact gives_plain (same_offsetOf pair field) _
  | templateArgumentCount => exact gives_plain (same_templateArgumentCount pair) _
  | templateArgument i => exact gives_object (gives_templateArgument pair i)

end SourceType

theorem ArgumentTypes.gives_answer {types types' : ArgumentTypes} (pair : D.Pair H types types')
    (query : ViewQuery) : D.Gives H H (types.answer query) (types'.answer query) := by
  cases query with
  | length => exact gives_shown pair.alike.2 _
  | isEmpty => exact gives_shown pair.alike.2 fun length => .bool (length == 0)
  | elements => exact gives_list (gives_toList pair)
  | debug => exact gives_plain (same_inspect pair) _
  | get i => exact gives_optional (gives_get? pair i)

theorem DiagnosticList.gives_answer {list list' : DiagnosticList} (pair : D.Pair H list list')
    (query : ViewQuery) : D.Gives H H (list.answer query) (list'.answer query) := by
  cases query with
  | length => exact gives_plain (same_length pair) _
  | isEmpty => exact gives_plain (same_length pair) _
  | elements => exact gives_list (gives_toList pair)
  | debug => exact gives_plain (same_inspect pair) _
  | get i => exact gives_optional (gives_get? pair i)

theorem Completion.gives_answer {results results' : Completion} (pair : D.Pair H results results')
    (query : CompletionQuery) : D.Gives H H (results.answer query) (results'.answer query) := by
  cases query with
  | diagnostics => exact gives_list (gives_diagnostics pair)
  | view query =>
      cases query with
      | length => exact gives_shown (length_eq pair) _
      | isEmpty => exact gives_shown (length_eq pair) fun length => .bool (length == 0)
      | elements => exact gives_list (gives_toList pair)
      | debug =>
          exact gives_shown (length_eq pair) fun length =>
            .str (Inspect.record "CodeCompletionResults" [("len", .nat length)]).render
      | get i => exact gives_optional (gives_get? pair i)

theorem CommandList.gives_answer {list list' : CommandList} (pair : D.Pair H list list')
    (query : ViewQuery) : D.Gives H H (list.answer query) (list'.answer query) := by
  cases query with
  | length => exact gives_plain (same_length pair) _
  | isEmpty => exact gives_plain (same_length pair) _
  | elements => exact gives_list (gives_toList pair)
  | debug => exact gives_plain (same_inspect pair) _
  | get i => exact gives_optional (gives_get? pair i)

theorem SourceFile.gives_answer {file file' : SourceFile} (pair : D.Pair H file file')
    (query : FileQuery) : D.Gives H H (file.answer query) (file'.answer query) := by
  cases query with
  | name => exact gives_plain (same_name pair) _
  | display => exact gives_plain (same_name pair) _
  | time => exact gives_plain (same_time pair) _
  | debug => exact gives_plain (same_inspect pair) _
  | unit => exact gives_object (gives_keep (pair_unit pair))
  | location position => exact gives_object (gives_location pair position)

theorem SourceRange.gives_answer {range range' : SourceRange} (pair : D.Pair H range range')
    (query : RangeQuery) : D.Gives H H (range.answer query) (range'.answer query) := by
  cases query with
  | start => exact gives_object (gives_start pair)
  | stop => exact gives_object (gives_stop pair)
  | unit => exact gives_object (gives_keep (pair_unit pair))
  | debug => exact gives_plain (same_inspect pair) _

theorem Inclusion.gives_answer {inclusion inclusion' : Inclusion}
    (pair : D.Pair H inclusion inclusion') (query : InclusionQuery) :
    D.Gives H H (inclusion.answer query) (inclusion'.answer query) := by
  cases query with
  | source => exact gives_optional (gives_keep (pair_source pair))
  | included => exact gives_object (gives_keep (pair_included pair))
  | location => exact gives_object (gives_keep (pair_location pair))
  | depth => exact gives_shown pair.alike.2.2.2 fun depth => .nat depth.toNat
  | isInputFile => exact gives_shown pair.alike.2.2.2 fun depth => .bool (depth == 0)
  | debug => exact gives_plain (same_inspect pair) _

theorem Token.gives_answer {token token' : Token} (pair : D.Pair H token token')
    (query : TokenQuery) : D.Gives H H (token.answer query) (token'.answer query) := by
  cases query with
  | spelling => exact gives_plain (same_spelling pair) _
  | kind => exact gives_plain (same_kind pair) _
  | location => exact gives_object (gives_location pair)
  | extent => exact gives_object (gives_extent pair)
  | cursor => exact gives_optional (gives_cursor pair)
  | debug => exact gives_plain (same_inspect pair) _

theorem Diagnostic.gives_answer {d d' : Diagnostic} (pair : D.Pair H d d')
    (query : DiagnosticQuery) : D.Gives H H (d.answer query) (d'.answer query) := by
  cases query with
  | severity => exact gives_plain (same_severity pair) _
  | location => exact gives_object (gives_location pair)
  | spelling => exact gives_plain (same_spelling pair) _
  | display => exact gives_plain (same_spelling pair) _
  | ranges => exact gives_list (gives_ranges pair)
  | fixIts => exact gives_list (gives_fixIts pair)
  | children => exact gives_list (gives_children pair)
  | categoryNumber => exact gives_plain (same_categoryNumber pair) _
  | categoryName => exact gives_plain (same_categoryName pair) _
  | enableOption => exact gives_plain (same_enableOption pair) _
  | disableOption => exact gives_plain (same_disableOption pair) _
  | parent => exact gives_optional (gives_keep (pair_parent pair))
  | debug => exact gives_plain (same_inspect pair) _
  | format options => exact gives_plain (same_format pair options) _

theorem FixIt.gives_answer {fixIt fixIt' : FixIt} (pair : D.Pair H fixIt fixIt')
    (query : FixItQuery) : D.Gives H H (fixIt.answer query) (fixIt'.answer query) := by
  cases query with
  | value => exact gives_shown pair.alike.2 _
  | range =>
      have range := pair_range pair
      exact gives_object (gives_keep range)
  | debug => exact gives_plain (same_inspect pair) _

theorem Candidate.gives_answer {candidate candidate' : Candidate}
    (pair : D.Pair H candidate candidate') (query : CandidateQuery) :
    D.Gives H H (candidate.answer query) (candidate'.answer query) := by
  have label := pair_label pair
  cases query with
  | kind => exact gives_shown pair.alike.1 fun kind => .str kind.inspect.render
  | string => exact gives_object (gives_keep label)
  | debug => exact gives_plain (same_inspect pair) _

theorem CompletionString.gives_answer {string string' : CompletionString}
    (pair : D.Pair H string string') (query : StringQuery) :
    D.Gives H H (string.answer query) (string'.answer query) := by
  cases query with
  | length => exact gives_plain (same_length pair) _
  | isEmpty => exact gives_plain (same_length pair) _
  | chunks => exact gives_list (gives_chunks pair)
  | priority => exact gives_plain (same_priority pair) _
  | availability => exact gives_plain (same_availability pair) _
  | briefComment => exact gives_plain (same_briefComment pair) _
  | display => exact gives_plain (same_concatenation pair) _
  | debug => exact gives_plain (same_inspect pair) _
  | chunk i => exact gives_optional (gives_chunk? pair i)

theorem Database.gives_answer {database database' : Database}
    (pair : D.Pair H database database') (query : DatabaseQuery) :
    D.Gives H H (database.answer query) (database'.answer query) := by
  cases query with
  | all => exact gives_optional (gives_allCommands pair)
  | debug => exact gives_value _
  | commandsFor file => exact gives_optional (gives_commandsFor pair file)

theorem CompileCommand.gives_answer {command command' : CompileCommand}
    (pair : D.Pair H command command') (query : CommandQuery) :
    D.Gives H H (command.answer query) (command'.answer query) := by
  cases query with
  | directory => exact gives_plain (same_directory pair) _
  | filename => exact gives_plain (same_filename pair) _
  | arguments =>
      exact gives_plain (same_arguments pair) fun arguments => .arr (arguments.map .str)
  | list =>
      have list := pair_list pair
      exact gives_object (gives_keep list)
  | debug => exact gives_plain (same_inspect pair) _

end SourceAtlas
