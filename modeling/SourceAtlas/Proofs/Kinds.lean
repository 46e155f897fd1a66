import SourceAtlas.Proofs.Listings

/-!
# Kinds and their numbers

A kind is known by its number, and shown by its name if it has one. Every number makes a kind, and
every kind gives its number back. What is shown of a kind tells its number as well: no two kinds have
one name, and a number that is shown in place of a name stands in parentheses, which no name has.
-/

namespace SourceAtlas

/-! ## What is shown -/

/-- Whether a text shows the label of a value, if it has one, and else its number in parentheses. No
label has a parenthesis, and values with one label have one number. -/
structure Labelled {κ : Type} (raw : κ → Int32) (text : κ → String) (label? : κ → Option String)
    (front : String) : Prop where
  shown : ∀ k, text k = (label? k).getD (front ++ "(" ++ toString (raw k).toInt ++ ")")
  plain : ∀ k, ∀ label ∈ label? k, '(' ∉ label.toList
  distinct : ∀ k k', (label? k).isSome → label? k = label? k' → raw k = raw k'

namespace Labelled

variable {κ : Type} {raw : κ → Int32} {text : κ → String} {label? : κ → Option String}
  {front : String}

/-- What is shown of a value is its label, if there is no parenthesis in it. -/
theorem label_eq (labelled : Labelled raw text label? front) (k : κ) :
    label? k = if '(' ∈ (text k).toList then none else some (text k) := by
  rw [labelled.shown]
  cases found : label? k with
  | some label => rw [Option.getD_some, if_neg (labelled.plain k label found)]
  | none => rw [Option.getD_none, if_pos (by simp)]

/-- What is shown of a value determines its number. -/
theorem factors (labelled : Labelled raw text label? front) : raw.FactorsThrough text := by
  intro k k' same
  have label : label? k = label? k' := by rw [labelled.label_eq, labelled.label_eq, same]
  by_cases known : (label? k).isSome
  · exact labelled.distinct k k' known label
    -- neither has a label, so the texts are the numbers between the same fixed parts
  · rw [labelled.shown, labelled.shown, ← label, Option.not_isSome_iff_eq_none.1 known,
      Option.getD_none, Option.getD_none, String.append_left_inj, String.append_right_inj] at same
    exact Int32.toInt_inj.1 (Json.Reader.int_eq_of_toString same)

end Labelled

/-! ## Closed kinds -/

namespace ClosedKind

variable {κ : Type} [ClosedKind κ]

/-- What the closed enumerations have in common: numbers come back, and the kinds with a name are
those of the first numbers, each with a name of its own. -/
structure Lawful (κ : Type) [ClosedKind κ] (count : Nat) : Prop where
  raw_ofRaw : ∀ n : Int32, raw (ofRaw n : κ) = n
  named : ∀ k : κ, isUnknown k = false → ∃ i < count, ofRaw (.ofNat i) = k
  distinct : ((List.range count).map fun i => name? (ofRaw (.ofNat i) : κ)).Nodup
  plain : ∀ i < count, ∀ name ∈ name? (ofRaw (.ofNat i) : κ), '(' ∉ name.toList

/-- Whether an enumeration keeps apart what the engine keeps apart. Its kinds are the numbers of the
engine in another form, and what is shown of a kind determines its number. -/
structure LosesNothing (κ : Type) [ClosedKind κ] : Prop where
  raw_ofRaw : ∀ n : Int32, raw (ofRaw n : κ) = n
  injective : (ofRaw : Int32 → κ).Injective
  ofRaw_raw : ∀ k ∈ Set.range (ofRaw : Int32 → κ), ofRaw (raw k) = k
  told : (raw : κ → Int32).FactorsThrough fun k => (inspect k).render

theorem render_inspect (k : κ) : (inspect k).render =
    (name? k).getD ("Unknown" ++ "(" ++ toString (raw k).toInt ++ ")") := by
  unfold inspect
  cases name? k <;> rfl

namespace Lawful

variable {count : Nat} (lawful : Lawful κ count)

include lawful

/-- Kinds have one number if something is shown of them that differs for the first numbers. -/
theorem raw_eq (label? : κ → Option β) (known : ∀ k, (label? k).isSome → isUnknown k = false)
    (distinct : ((List.range count).map fun i => label? (ofRaw (.ofNat i))).Nodup) (k k' : κ)
    (labelled : (label? k).isSome) (same : label? k = label? k') : raw k = raw k' := by
  obtain ⟨i, below, rfl⟩ := lawful.named k (known k labelled)
  obtain ⟨j, below', rfl⟩ := lawful.named k' (known k' (same ▸ labelled))
  rw [List.inj_on_of_nodup_map distinct (List.mem_range.2 below) (List.mem_range.2 below') same]

theorem not_mem_name (k : κ) (name : String) (found : name ∈ name? k) : '(' ∉ name.toList := by
  have known : isUnknown k = false := Option.isNone_eq_false_iff.2 (Option.isSome_of_mem found)
  obtain ⟨i, below, rfl⟩ := lawful.named k known
  exact lawful.plain i below name found

theorem labelled : Labelled raw (fun k : κ => (inspect k).render) name? "Unknown" where
  shown := render_inspect
  plain := lawful.not_mem_name
  distinct := lawful.raw_eq name? (fun _ => Option.isNone_eq_false_iff.2) lawful.distinct

theorem losesNothing : LosesNothing κ where
  raw_ofRaw := lawful.raw_ofRaw
  injective := Function.LeftInverse.injective lawful.raw_ofRaw
  ofRaw_raw := by
    rintro _ ⟨n, rfl⟩
    rw [lawful.raw_ofRaw]
  told := lawful.labelled.factors

end Lawful

end ClosedKind

open ClosedKind

theorem TokenKind.lawful : Lawful TokenKind 5 where
  raw_ofRaw n := show raw (ofRaw n) = n by fun_cases ofRaw n <;> rfl
  named k known := by
    cases k with
    | unknown => exact nomatch known
    | _ => decide
  distinct := by decide
  plain := by decide

theorem Severity.lawful : Lawful Severity 5 where
  raw_ofRaw n := show raw (ofRaw n) = n by fun_cases ofRaw n <;> rfl
  named k known := by
    cases k with
    | unknown => exact nomatch known
    | _ => decide
  distinct := by decide
  plain := by decide

theorem LinkageKind.lawful : Lawful LinkageKind 5 where
  raw_ofRaw n := show raw (ofRaw n) = n by fun_cases ofRaw n <;> rfl
  named k known := by
    cases k with
    | unknown => exact nomatch known
    | _ => decide
  distinct := by decide
  plain := by decide

theorem TlsKind.lawful : Lawful TlsKind 3 where
  raw_ofRaw n := show raw (ofRaw n) = n by fun_cases ofRaw n <;> rfl
  named k known := by
    cases k with
    | unknown => exact nomatch known
    | _ => decide
  distinct := by decide
  plain := by decide

theorem StorageClass.lawful : Lawful StorageClass 8 where
  raw_ofRaw n := show raw (ofRaw n) = n by fun_cases ofRaw n <;> rfl
  named k known := by
    cases k with
    | unknown => exact nomatch known
    | _ => decide
  distinct := by decide
  plain := by decide

theorem AvailabilityKind.lawful : Lawful AvailabilityKind 4 where
  raw_ofRaw n := show raw (ofRaw n) = n by fun_cases ofRaw n <;> rfl
  named k known := by
    cases k with
    | unknown => exact nomatch known
    | _ => decide
  distinct := by decide
  plain := by decide

theorem AccessSpecifier.lawful : Lawful AccessSpecifier 4 where
  raw_ofRaw n := show raw (ofRaw n) = n by fun_cases ofRaw n <;> rfl
  named k known := by
    cases k with
    | unknown => exact nomatch known
    | _ => decide
  distinct := by decide
  plain := by decide

theorem RefQualifierKind.lawful : Lawful RefQualifierKind 3 where
  raw_ofRaw n := show raw (ofRaw n) = n by fun_cases ofRaw n <;> rfl
  named k known := by
    cases k with
    | unknown => exact nomatch known
    | _ => decide
  distinct := by decide
  plain := by decide

theorem TemplateArgumentKind.lawful : Lawful TemplateArgumentKind 10 where
  raw_ofRaw n := show raw (ofRaw n) = n by fun_cases ofRaw n <;> rfl
  named k known := by
    cases k with
    | unknown => exact nomatch known
    | _ => decide
  distinct := by decide
  plain := by decide

theorem ExceptionSpecificationKind.lawful : Lawful ExceptionSpecificationKind 10 where
  raw_ofRaw n := show raw (ofRaw n) = n by fun_cases ofRaw n <;> rfl
  named k known := by
    cases k with
    | unknown => exact nomatch known
    | _ => decide
  distinct := by decide
  plain := by decide

theorem CompletionChunkKind.lawful : Lawful CompletionChunkKind 21 where
  raw_ofRaw n := show raw (ofRaw n) = n by fun_cases ofRaw n <;> rfl
  named k known := by
    cases k with
    | unknown => exact nomatch known
    | _ => decide
  distinct := by decide
  plain := by decide

/-! ## Open kinds -/

/-- The names of a table are labels, each behind one front, if no name is in the table twice. -/
theorem Labelled.of_table {κ : Type} {raw : κ → Int32} {text : κ → String} {lead front : String}
    (names : List (Int32 × String))
    (shown : ∀ k, text k = ((names.find? (·.1 == raw k)).map (lead ++ ·.2)).getD
      (front ++ "(" ++ toString (raw k).toInt ++ ")"))
    (distinct : (names.map (·.2)).Nodup) (plain : '(' ∉ lead.toList)
    (all_plain : ∀ entry ∈ names, '(' ∉ entry.2.toList) :
    Labelled raw text (fun k => (names.find? (·.1 == raw k)).map (lead ++ ·.2)) front where
  shown := shown
  plain k label labelled := by
    obtain ⟨entry, found, rfl⟩ := Option.map_eq_some_iff.1 labelled
    rw [String.toList_append, List.mem_append, not_or]
    exact ⟨plain, all_plain entry (List.mem_of_find?_eq_some found)⟩
  distinct k k' known same := by
    obtain ⟨label, labelled⟩ := Option.isSome_iff_exists.1 known
    obtain ⟨entry, found, rfl⟩ := Option.map_eq_some_iff.1 labelled
    obtain ⟨entry', found', same⟩ := Option.map_eq_some_iff.1 (same.symm.trans labelled)
    -- the table has each name once, so one name is one entry, and one entry is one number
    have one : entry' = entry := List.inj_on_of_nodup_map distinct
      (List.mem_of_find?_eq_some found') (List.mem_of_find?_eq_some found)
      ((String.append_right_inj _).1 same)
    have number : entry.1 = raw k := by simpa using List.find?_some found
    have number' : entry'.1 = raw k' := by simpa using List.find?_some found'
    rw [← number, ← number', one]

theorem CursorKind.labelled : Labelled raw (·.inspect.render)
    (fun kind => (names.find? (·.1 == kind.raw)).map ("CursorKind::" ++ ·.2)) "CursorKind" := by
  -- the whole table is compared by the kernel: no name in it twice, and none with a parenthesis
  refine .of_table names (fun kind => ?_) (by decide +kernel) (by decide) (by decide +kernel)
  unfold inspect name?
  cases names.find? (·.1 == kind.raw) <;> rfl

theorem TypeKind.labelled : Labelled raw (·.inspect.render)
    (fun kind => (names.find? (·.1 == kind.raw)).map ("TypeKind::" ++ ·.2)) "TypeKind" := by
  refine .of_table names (fun kind => ?_) (by decide +kernel) (by decide) (by decide +kernel)
  unfold inspect name?
  cases names.find? (·.1 == kind.raw) <;> rfl

/-! ## Severities in lower case -/

theorem toList_toLower (s : String) : s.toLower.toList = s.toList.map Char.toLower :=
  String.toList_map

theorem toLower_of_isDigit {c : Char} (digit : c.isDigit = true) : c.toLower = c := by
  refine dif_neg ?_
  simp only [Char.isDigit, Bool.and_eq_true, decide_eq_true_eq] at digit
  grind

/-- A number is the same in lower case. -/
theorem map_toLower_int (n : Int) : (toString n).toList.map Char.toLower = (toString n).toList := by
  rw [Json.Reader.toList_int, List.map_append]
  congr 1
  · split <;> rfl
  · refine (List.map_congr_left fun c digit => ?_).trans (List.map_id _)
    refine toLower_of_isDigit ?_
    exact Nat.isDigit_of_mem_toDigits (b := 10) (by decide) (by decide) digit

namespace Severity

/-- A severity as the listing of diagnostics shows it. -/
def label (severity : Severity) : String :=
  (inspect severity).render.toLower

theorem labelled : Labelled raw label (fun severity => (name? severity).map String.toLower)
    "unknown" where
  shown severity := by
    unfold label
    rw [render_inspect]
    cases severity with
    | unknown n =>
        show ("Unknown" ++ "(" ++ toString n.toInt ++ ")").toLower =
          "unknown" ++ "(" ++ toString n.toInt ++ ")"
        rw [← String.toList_inj, toList_toLower]
        simp only [String.toList_append, List.map_append, map_toLower_int]
        rfl
    | _ => rfl
  plain severity label found := by
    obtain ⟨name, named, rfl⟩ := Option.map_eq_some_iff.1 found
    rw [toList_toLower]
    cases severity with
    | unknown => exact nomatch named
    | _ => cases named; decide
  distinct severity severity' known same := by
    -- the names are compared as lists of characters, since lower-cased strings do not compute
    refine lawful.raw_eq (fun s : Severity => (name? s).map (·.toList.map Char.toLower))
      (fun s => by simp [isUnknown, ClosedKind.name?]) (by decide) severity severity' (by simpa using known) ?_
    have lowered := congrArg (Option.map String.toList) same
    rw [Option.map_map, Option.map_map] at lowered
    simpa only [Function.comp_def, toList_toLower] using lowered

end Severity

/-- The listing of diagnostics shows the severity that the engine gives in lower case, indented for
notes. -/
theorem DiagnosticRow.yields_severity (setting : Setting) (nested : Bool) (d : Diagnostic) :
    Act.Yields setting (ofDiagnostic nested d) fun row =>
      row.severity = (if nested then "  " else "") ++
        (Severity.ofRaw (setting.engine.diagnostic d.handle.entry).severity).label := by
  refine (answers_ofDiagnostic d nested).yields ?_
  cases nested with
  | false => exact String.empty_append.symm
  | true => rfl

/-- Kinds keep apart what the engine keeps apart. A number of a closed enumeration comes back from its
kind, and what is shown of a kind, closed or open, determines its number, also where a listing shows a
severity in lower case. -/
theorem kinds_lose_nothing :
    (LosesNothing TokenKind ∧ LosesNothing Severity ∧ LosesNothing LinkageKind ∧
      LosesNothing TlsKind ∧ LosesNothing StorageClass ∧ LosesNothing AvailabilityKind ∧
      LosesNothing AccessSpecifier ∧ LosesNothing RefQualifierKind ∧
      LosesNothing TemplateArgumentKind ∧ LosesNothing ExceptionSpecificationKind ∧
      LosesNothing CompletionChunkKind) ∧
    CursorKind.raw.FactorsThrough (·.inspect.render) ∧
    TypeKind.raw.FactorsThrough (·.inspect.render) ∧
    Severity.raw.FactorsThrough Severity.label ∧
    ∀ setting nested d, Act.Yields setting (DiagnosticRow.ofDiagnostic nested d) fun row =>
      row.severity = (if nested then "  " else "") ++
        (Severity.ofRaw (setting.engine.diagnostic d.handle.entry).severity).label := by
  refine ⟨⟨?_, ?_, ?_, ?_, ?_, ?_, ?_, ?_, ?_, ?_, ?_⟩, ?_, ?_, ?_, DiagnosticRow.yields_severity⟩
  · exact TokenKind.lawful.losesNothing
  · exact Severity.lawful.losesNothing
  · exact LinkageKind.lawful.losesNothing
  · exact TlsKind.lawful.losesNothing
  · exact StorageClass.lawful.losesNothing
  · exact AvailabilityKind.lawful.losesNothing
  · exact AccessSpecifier.lawful.losesNothing
  · exact RefQualifierKind.lawful.losesNothing
  · exact TemplateArgumentKind.lawful.losesNothing
  · exact ExceptionSpecificationKind.lawful.losesNothing
  · exact CompletionChunkKind.lawful.losesNothing
  · exact CursorKind.labelled.factors
  · exact TypeKind.labelled.factors
  · exact Severity.labelled.factors

end SourceAtlas
