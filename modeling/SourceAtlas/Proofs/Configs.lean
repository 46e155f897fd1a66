import SourceAtlas.Config
import SourceAtlas.Proofs.Decoding
import SourceAtlas.Proofs.JsonRecords

/-!
# Reading configurations back

A configuration is read back from its JSON, however that is laid out, and from what else says the
same: with the fields in another order, without those that have their defaults, and with unknown
ones.
-/

namespace SourceAtlas

open Json Json.Reader

/-! ## Files in memory -/

namespace UnsavedFile

/-- What has been read of a file once some of its fields have been. -/
def Draft.seen (path contents : String) (names : List String) : Draft :=
  ⟨seen? names "path" path, seen? names "contents" contents⟩

theorem tracks_field (path contents : String) :
    Tracks Draft.field [("path", .str path), ("contents", .str contents)]
      (Draft.seen path contents) where
  known names name v field fresh gap text rest assigns conveys ends := by
    simp only [List.mem_cons, List.not_mem_nil, or_false, Prod.mk.injEq] at field
    rcases field with ⟨rfl, rfl⟩ | ⟨rfl, rfl⟩
    · refine takes_once (readsAs_text _ path) (isSome_seen? fresh) ?_ assigns conveys ends
      simpa [Draft.seen, seen?_append, seen?_append_of_ne] using Takes.pure _ rest
    · refine takes_once (readsAs_text _ contents) (isSome_seen? fresh) ?_ assigns conveys ends
      simpa [Draft.seen, seen?_append, seen?_append_of_ne] using Takes.pure _ rest
  unknown name done unknown gap text rest assigns formed ends := by
    simp only [List.map_cons, List.map_nil, List.mem_cons, List.not_mem_nil, or_false,
      not_or] at unknown
    unfold Draft.field
    split
    next => exact absurd rfl unknown.1
    next => exact absurd rfl unknown.2
    next => exact (takes_unknownField assigns formed ends).finish (.pure done rest)

/-- A file in memory is read from its JSON if its path is a text. -/
theorem readsAs_reader {file : UnsavedFile} (textual : ∃ path, Utf8.encode path = file.path) :
    ReadsAs reader file.toJson file := by
  obtain ⟨bytes, contents⟩ := file
  obtain ⟨path, rfl⟩ := textual
  intro blanks text rest blank conveys _
  rw [toJson, Utf8.decodeLossy_encode] at conveys
  obtain ⟨members, inside, rfl, varies, listed⟩ := conveys.of_object (by simp)
  refine (tracks_field path contents).takes_record varies
    (fun front rest x takes => takes.finish ?_) _ _ blank listed rest
  have path : seen? (Member.names members) "path" path = some path :=
    (varies.seen?_eq_some (.head _)).resolve_right (List.not_mem_nil)
  have contents : seen? (Member.names members) "contents" contents = some contents :=
    (varies.seen?_eq_some (.tail _ (.head _))).resolve_right (List.not_mem_nil)
  simp only [Draft.finish, Draft.seen, path, contents]
  exact .pure _ rest

end UnsavedFile

namespace ParseConfig

variable {config : ParseConfig}

/-- What has been read of a configuration once some of its fields have been. -/
def Draft.seen (config : ParseConfig) (names : List String) : Draft :=
  ⟨seen? names "args" config.args, seen? names "options" config.options,
    seen? names "unsaved" config.unsaved⟩

theorem readsAs_argsField (args : List String) : ReadsAs argsField (.arr (args.map .str)) args :=
  readsAs_list fun s _ => readsAs_text _ s

theorem find?_key (flag : ParseFlag) :
    (ParseFlag.all.map fun flag => (flag.key, flag)).find? (·.1 == flag.key) =
      some (flag.key, flag) := by
  cases flag <;> rfl

theorem readsAs_optionsField (options : List ParseFlag) :
    ReadsAs optionsField (.arr (options.map fun flag => .str flag.key)) options :=
  readsAs_list fun flag _ => readsAs_variant (find?_key flag)

theorem tracks_field (textual : ∀ file ∈ config.unsaved, ∃ path, Utf8.encode path = file.path) :
    Tracks Draft.field config.toJson.fields (Draft.seen config) where
  known names name v field fresh gap text rest assigns conveys ends := by
    simp only [toJson, Json.fields, List.mem_cons, List.not_mem_nil, or_false, Prod.mk.injEq] at field
    rcases field with ⟨rfl, rfl⟩ | ⟨rfl, rfl⟩ | ⟨rfl, rfl⟩
    · refine takes_once (readsAs_argsField _) (isSome_seen? fresh) ?_ assigns conveys ends
      simpa [Draft.seen, seen?_append, seen?_append_of_ne] using Takes.pure _ rest
    · refine takes_once (readsAs_optionsField _) (isSome_seen? fresh) ?_ assigns conveys ends
      simpa [Draft.seen, seen?_append, seen?_append_of_ne] using Takes.pure _ rest
    · have reads : ReadsAs unsavedField _ _ :=
        readsAs_list fun file member => UnsavedFile.readsAs_reader (textual file member)
      refine takes_once reads (isSome_seen? fresh) ?_ assigns conveys ends
      simpa [Draft.seen, seen?_append, seen?_append_of_ne] using Takes.pure _ rest
  unknown name done unknown gap text rest assigns formed ends := by
    simp only [toJson, Json.fields, List.map_cons, List.map_nil, List.mem_cons, List.not_mem_nil,
      or_false, not_or] at unknown
    unfold Draft.field
    split
    next => exact absurd rfl unknown.1
    next => exact absurd rfl unknown.2.1
    next => exact absurd rfl unknown.2.2
    next => exact (takes_unknownField assigns formed ends).finish (.pure done rest)

/-- A configuration has been read once all of it that is not the default has been. -/
theorem finish_seen {members : List Member}
    (varies : Varies config.toJson.fields (toJson {}).fields members) :
    (Draft.seen config (Member.names members)).finish = config := by
  have args : (seen? (Member.names members) "args" config.args).getD [] = config.args :=
    varies.getD_seen? (.head _) (by simp [toJson, Json.fields])
  have options : (seen? (Member.names members) "options" config.options).getD [] = config.options :=
    varies.getD_seen? (.tail _ (.head _)) (by simp [toJson, Json.fields])
  have unsaved : (seen? (Member.names members) "unsaved" config.unsaved).getD [] = config.unsaved :=
    varies.getD_seen? (.tail _ (.tail _ (.head _))) (by simp [toJson, Json.fields])
  simp only [Draft.finish, Draft.seen, args, options, unsaved]

theorem fits_toJson (config : ParseConfig) : config.toJson.Fits := by
  have texts {α : Type} (items : List α) (text : α → String) :
      Fits (.arr (items.map fun a => .str (text a))) :=
    .arr (by simpa using fun a _ => Fits.str (text a))
  have files : Fits (.arr (config.unsaved.map UnsavedFile.toJson)) := by
    refine .arr ?_
    simp only [List.forall_mem_map]
    intro file _
    exact .obj (by simp [Fits.str])
  have args := texts config.args id
  have options := texts config.options ParseFlag.key
  exact .obj (by simpa [files] using ⟨args, options⟩)

/-- A configuration is read from each text that holds it. -/
theorem parse_held (textual : ∀ file ∈ config.unsaved, ∃ path, Utf8.encode path = file.path)
    {text : String} (held : config.toJson.HeldBy (toJson {}) text) : parse text = .ok config := by
  have conveyed := held.conveyed (by simp) config.fits_toJson
  have read := (tracks_field textual).run_conveyed conveyed (fun _ => finish_seen)
  unfold parse reader
  rw [show ({} : Draft) = Draft.seen config [] from rfl, read]
  rfl

end ParseConfig

namespace IndexConfig

variable {config : IndexConfig}

/-- What has been read of the settings once some of them have been. -/
def Draft.seen (config : IndexConfig) (names : List String) : Draft :=
  ⟨seen? names "exclude_declarations_from_pch" config.excludeDeclarationsFromPch,
    seen? names "display_diagnostics" config.displayDiagnostics⟩

theorem tracks_field (config : IndexConfig) :
    Tracks Draft.field config.toJson.fields (Draft.seen config) where
  known names name v field fresh gap text rest assigns conveys ends := by
    simp only [toJson, Json.fields, List.mem_cons, List.not_mem_nil, or_false, Prod.mk.injEq] at field
    rcases field with ⟨rfl, rfl⟩ | ⟨rfl, rfl⟩
    · refine takes_once (readsAs_bool _) (isSome_seen? fresh) ?_ assigns conveys ends
      simpa [Draft.seen, seen?_append, seen?_append_of_ne] using Takes.pure _ rest
    · refine takes_once (readsAs_bool _) (isSome_seen? fresh) ?_ assigns conveys ends
      simpa [Draft.seen, seen?_append, seen?_append_of_ne] using Takes.pure _ rest
  unknown name done unknown gap text rest assigns formed ends := by
    simp only [toJson, Json.fields, List.map_cons, List.map_nil, List.mem_cons, List.not_mem_nil,
      or_false, not_or] at unknown
    unfold Draft.field
    split
    next => exact absurd rfl unknown.1
    next => exact absurd rfl unknown.2
    next => exact (takes_unknownField assigns formed ends).finish (.pure done rest)

/-- Settings have been read once all of them that are not the default have been. -/
theorem finish_seen {members : List Member}
    (varies : Varies config.toJson.fields (toJson {}).fields members) :
    (Draft.seen config (Member.names members)).finish = config := by
  have exclude : (seen? (Member.names members) "exclude_declarations_from_pch"
      config.excludeDeclarationsFromPch).getD false = config.excludeDeclarationsFromPch :=
    varies.getD_seen? (.head _) (by simp [toJson, Json.fields])
  have display : (seen? (Member.names members) "display_diagnostics"
      config.displayDiagnostics).getD false = config.displayDiagnostics :=
    varies.getD_seen? (.tail _ (.head _)) (by simp [toJson, Json.fields])
  simp only [Draft.finish, Draft.seen, exclude, display]

/-- Settings are read from each text that holds them. -/
theorem parse_held {text : String} (held : config.toJson.HeldBy (toJson {}) text) :
    parse text = .ok config := by
  have conveyed := held.conveyed (by simp) (.obj (by simp [Fits.bool]))
  have read := (tracks_field config).run_conveyed conveyed (fun _ => finish_seen)
  unfold parse reader
  rw [show ({} : Draft) = Draft.seen config [] from rfl, read]
  rfl

end IndexConfig

/-- A configuration is read back from a file that holds it, and so are its flags, whatever texts it
consists of: from its JSON on one line or on several, and from each text that says the same, with the
fields in any order, some of those left out that have their defaults, and others of unknown names. -/
theorem configs_read_back :
    (∀ config : ParseConfig, (∀ file ∈ config.unsaved, ∃ path, Utf8.encode path = file.path) →
      ∀ text, config.toJson.HeldBy (ParseConfig.toJson {}) text →
        ParseConfig.ofFile (.ok (Utf8.encode text)) = .ok config ∧
          (ParseConfig.ofFile (.ok (Utf8.encode text))).map (·.parseOptions.bits) =
            .ok config.parseOptions.bits) ∧
    ∀ config : IndexConfig, ∀ text, config.toJson.HeldBy (IndexConfig.toJson {}) text →
      IndexConfig.parse text = .ok config := by
  refine ⟨fun config textual text held => ?_, fun config text held => IndexConfig.parse_held held⟩
  have decoded : Utf8.decode? (Utf8.encode text) = some text := Utf8.decode?_eq_some_iff.2 rfl
  have loaded : ParseConfig.ofFile (.ok (Utf8.encode text)) = ParseConfig.parse text := by
    simp only [ParseConfig.ofFile, Except.mapError, bind, Except.bind, decoded]
  rw [loaded, ParseConfig.parse_held textual held]
  exact ⟨rfl, rfl⟩

/-- Without arguments, and behind an unknown key whose value has an exponent and half of a pair. -/
theorem configs_read_back_unknown :
    ParseConfig.ofFile (.ok (Utf8.encode
      ("\x7b\"since\":[-1.5e+3,\"\\ud800\"],\"options\":[\"incomplete\",\"incomplete\"]," ++
        "\"unsaved\":[\x7b\"path\":\"é.c\",\"contents\":\"\\u0000\"\x7d]\x7d"))) =
      .ok { options := [.incomplete, .incomplete], unsaved := [⟨Utf8.encode "é.c", "\x00"⟩] } := by
  let config : ParseConfig :=
    { options := [.incomplete, .incomplete], unsaved := [⟨Utf8.encode "é.c", "\x00"⟩] }
  let options : Json := .arr [.str "incomplete", .str "incomplete"]
  let unsaved : Json := .arr [.obj [("path", .str "é.c"), ("contents", .str "\x00")]]
  have printed : config.toJson =
      .obj [("args", .arr []), ("options", options), ("unsaved", unsaved)] := by
    simp [config, options, unsaved, ParseConfig.toJson, UnsavedFile.toJson, Utf8.decodeLossy_encode,
      ParseFlag.key]
  have fits : options.Fits ∧ unsaved.Fits :=
    ⟨.arr (by simp [Fits.str]), .arr (by simpa using Fits.obj (by simp [Fits.str]))⟩
  have comma : Separates false [','] := separates_comma false .nil
  have first : Separates true [] := separates_comma true .nil
  have assigns : Assigns [':'] := ⟨[], [], .nil, .nil, rfl⟩
  -- the unknown value is a list, of a number that is no integer and of a text that is no Unicode
  have number : WellFormed .value ['-', '1', '.', '5', 'e', '+', '3'] :=
    .negative (.intro (.digits (show Digits ['1'] by simp [Digits]) (by decide))
      (.digits (show Digits ['5'] by simp [Digits]))
      (@Exponent.digits 'e' ['+'] ['3'] (by decide) (by decide) (by simp [Digits])))
  have half : WellFormed .value ['"', '\\', 'u', 'd', '8', '0', '0', '"'] :=
    .text (@Body.unit ['d', '8', '0', '0'] [] rfl .nil)
  have varies : Varies config.toJson.fields (ParseConfig.toJson {}).fields
      [.other "since", .field "options" options, .field "unsaved" unsaved] := by
    rw [printed]
    constructor <;> simp [Json.fields, Member.fields, Member.names, ParseConfig.toJson]
  have listed := Conveys.other first (quotes_quote "since") assigns
    (.list (.item first number (.item comma half (.listEnd false .nil))))
    (.field comma (quotes_quote "options") assigns (.spelled (spells_compact fits.1))
      (.field comma (quotes_quote "unsaved") assigns (.spelled (spells_compact fits.2))
        (.membersEnd false .nil)))
  refine (configs_read_back.1 config (by simp [config]) _ (.inr (.inr ?_))).1
  refine ⟨[], _, _, [], .nil, .nil, varies, listed, ?_⟩
  cbv

end SourceAtlas
