import SourceAtlas.Proofs.JsonSkipping

/-!
# Reading records

A record is read from the texts of an object, with its fields in any order, each of them once or not
at all, and with other members of any name between them (`takes_record`). A reader of a field reads
all texts of a value in one way (`ReadsAs`).
-/

namespace SourceAtlas.Json

open Reader

variable {α σ : Type}

/-! ## Failing with a place -/

namespace Reader

variable {x : Reader α} {a : α} {front mid rest : List Char}

theorem Takes.attempt (takes : Takes x front a rest) : Takes (attempt x) front (.ok a) rest := by
  intro position
  obtain ⟨after, ran⟩ := takes position
  refine ⟨after, ?_⟩
  show StateT.run (ExceptT.run (ExceptT.lift (ExceptT.run x))) _ = _
  rw [ExceptT.run_lift, StateT.run_map]
  exact congrArg (fun result => (Except.ok result.1, result.2)) ran

theorem Takes.located (takes : Takes x front a rest) : Takes (located x) front a rest :=
  takes.attempt.finish (.pure a rest)

/-- What is in brackets is read with its brackets. -/
theorem Takes.enclosed {close : Reader Unit} {c : Char} (takes : Takes x front a (mid ++ rest))
    (closes : Takes close mid () rest) : Takes (enclosed x close) (c :: (front ++ mid)) a rest := by
  refine Takes.located (.bind (takes_skip c _) (takes.attempt.bind (closes.attempt.finish ?_)))
  exact .pure a rest

end Reader

/-! ## Saying the same -/

/-- A member of an object: a field with its value, or a name of anything that nobody asks for. -/
inductive Member where
  | field (name : String) (v : Json)
  | other (name : String)

namespace Member

def name : Member → String
  | field name _ | other name => name

/-- The fields among some members. -/
def fields : List Member → List (String × Json)
  | [] => []
  | field name v :: members => (name, v) :: fields members
  | other _ :: members => fields members

/-- The names of the fields among some members. -/
def names (members : List Member) : List String :=
  (fields members).map (·.1)

theorem fields_append (before after : List Member) :
    fields (before ++ after) = fields before ++ fields after := by
  induction before with
  | nil => rfl
  | cons member before ih =>
      cases member with
      | field name v => exact congrArg ((name, v) :: ·) ih
      | other name => exact ih

theorem names_append (before after : List Member) :
    names (before ++ after) = names before ++ names after := by
  rw [names, fields_append, List.map_append]
  rfl

end Member

/-- The fields of an object as members. -/
def asMembers (fields : List (String × Json)) : List Member :=
  fields.map fun field => .field field.1 field.2

theorem fields_asMembers (fields : List (String × Json)) :
    Member.fields (asMembers fields) = fields := by
  induction fields with
  | nil => rfl
  | cons field fields ih => exact congrArg (field :: ·) ih

/-- Whether some members say the same as some fields: they are these fields in any order, without
some that have their defaults, and with others of unknown names. -/
structure Varies (fields defaults : List (String × Json)) (members : List Member) : Prop where
  known : ∀ field ∈ Member.fields members, field ∈ fields
  once : (Member.names members).Nodup
  complete : ∀ field ∈ fields, field ∈ Member.fields members ∨ field ∈ defaults
  unknown : ∀ name, .other name ∈ members → name ∉ fields.map (·.1)

theorem varies_asMembers {fields : List (String × Json)} (unique : (fields.map (·.1)).Nodup)
    (defaults : List (String × Json)) : Varies fields defaults (asMembers fields) where
  known _ member := fields_asMembers fields ▸ member
  once := by
    rwa [Member.names, fields_asMembers]
  complete _ member := .inl ((fields_asMembers fields).symm ▸ member)
  unknown name member := by
    obtain ⟨field, -, same⟩ := List.mem_map.1 member
    exact nomatch same

/-- A field among the members has not been seen before. -/
theorem Varies.fresh {fields defaults : List (String × Json)} {before after : List Member}
    {name : String} {v : Json} (varies : Varies fields defaults (before ++ .field name v :: after)) :
    (name, v) ∈ fields ∧ name ∉ Member.names before := by
  have split : Member.fields (before ++ .field name v :: after) =
      Member.fields before ++ (name, v) :: Member.fields after := Member.fields_append _ _
  refine ⟨varies.known _ (by rw [split]; simp), fun seen => ?_⟩
  have once := varies.once
  rw [Member.names, split, List.map_append, List.map_cons] at once
  exact (List.nodup_append.1 once).2.2 name seen name (.head _) rfl

/-- What is still to come of a text: a value, the elements of a list and its end, or the members of an
object up to its end. -/
inductive Piece where
  | value (v : Json)
  | items (first : Bool) (items : List Json)
  | members (first : Bool) (members : List Member)

/-- The ways to say the same as a piece of a JSON text: with other members in any of its objects, and
with the fields of each in any order. -/
inductive Conveys : Piece → List Char → Prop
  | spelled {v : Json} {text : List Char} : Spells (.value v) text → Conveys (.value v) text
  | arr {items : List Json} {text : List Char} :
      Conveys (.items true items) text → Conveys (.value (.arr items)) ('[' :: text)
  | obj {fields : List (String × Json)} {members : List Member} {text : List Char} :
      Varies fields [] members → Conveys (.members true members) text →
      Conveys (.value (.obj fields)) ('\x7b' :: (text ++ ['\x7d']))
  | itemsEnd (first : Bool) {blanks : List Char} :
      Blank blanks → Conveys (.items first []) (blanks ++ [']'])
  | item {first : Bool} {v : Json} {items : List Json} {gap text rest : List Char} :
      Separates first gap → Conveys (.value v) text → Conveys (.items false items) rest →
      Conveys (.items first (v :: items)) (gap ++ (text ++ rest))
  | membersEnd (first : Bool) {blanks : List Char} : Blank blanks → Conveys (.members first []) blanks
  | field {first : Bool} {name : String} {v : Json} {members : List Member}
      {gap key gap' text rest : List Char} :
      Separates first gap → Quotes name key → Assigns gap' → Conveys (.value v) text →
      Conveys (.members false members) rest →
      Conveys (.members first (.field name v :: members)) (gap ++ (key ++ (gap' ++ (text ++ rest))))
  | other {first : Bool} {name : String} {members : List Member}
      {gap key gap' text rest : List Char} :
      Separates first gap → Quotes name key → Assigns gap' → WellFormed .value text →
      Conveys (.members false members) rest →
      Conveys (.members first (.other name :: members)) (gap ++ (key ++ (gap' ++ (text ++ rest))))

/-- The ways to write the value of a member. -/
def Member.Written (text : List Char) : Member → Prop
  | field _ v => Conveys (.value v) text
  | other _ => WellFormed .value text

section

variable {first : Bool} {text : List Char}

theorem conveys_items_of_spells {items : List Json} (spells : Spells (.items first items) text) :
    Conveys (.items first items) text := by
  induction items generalizing first text with
  | nil =>
      cases spells with
      | itemsEnd _ blank => exact .itemsEnd first blank
  | cons v items ih =>
      cases spells with
      | item separates value others => exact .item separates (.spelled value) (ih others)

/-- The text of an object is that of its fields, without others between them. -/
theorem conveys_members_of_spells {fields : List (String × Json)}
    (spells : Spells (.fields first fields) text) :
    ∃ inside, text = inside ++ ['\x7d'] ∧ Conveys (.members first (asMembers fields)) inside := by
  induction fields generalizing first text with
  | nil =>
      cases spells with
      | fieldsEnd _ blank => exact ⟨_, rfl, .membersEnd first blank⟩
  | cons field fields ih =>
      cases spells with
      | @field _ name v _ gap key gap' text tail separates quotes assigns value others =>
          obtain ⟨inside, rfl, conveys⟩ := ih others
          have all : Conveys (.members first (.field name v :: asMembers fields)) _ :=
            .field separates quotes assigns (.spelled value) conveys
          exact ⟨_, by simp, all⟩

namespace Conveys

theorem solid {v : Json} (conveys : Conveys (.value v) text) : Solid text := by
  cases conveys with
  | spelled spells => exact spells.solid
  | arr => exact ⟨'[', _, rfl, by decide⟩
  | obj => exact ⟨'\x7b', _, rfl, by decide⟩

theorem of_list {items : List Json} (conveys : Conveys (.value (.arr items)) text) :
    ∃ inside, text = '[' :: inside ∧ Conveys (.items true items) inside := by
  cases conveys with
  | spelled spells =>
      cases spells with
      | arr spells => exact ⟨_, rfl, conveys_items_of_spells spells⟩
  | arr conveys => exact ⟨_, rfl, conveys⟩

theorem of_object {fields : List (String × Json)} (unique : (fields.map (·.1)).Nodup)
    (conveys : Conveys (.value (.obj fields)) text) :
    ∃ members inside, text = '\x7b' :: (inside ++ ['\x7d']) ∧ Varies fields [] members ∧
      Conveys (.members true members) inside := by
  cases conveys with
  | spelled spells =>
      cases spells with
      | obj spells =>
          obtain ⟨inside, rfl, conveys⟩ := conveys_members_of_spells spells
          exact ⟨_, inside, rfl, varies_asMembers unique _, conveys⟩
  | obj varies conveys => exact ⟨_, _, rfl, varies, conveys⟩

theorem ends_items {items : List Json} (conveys : Conveys (.items false items) text) (rest : List Char) :
    EndsNumber (text ++ rest) := by
  cases conveys with
  | itemsEnd _ blank => exact ends_close blank (by decide) rest
  | item separates =>
      rw [List.append_assoc]
      exact ends_separator separates _

/-- The text of some members starts with that of the first of them. -/
theorem cons {member : Member} {members : List Member}
    (conveys : Conveys (.members first (member :: members)) text) :
    ∃ gap key gap' value rest, text = gap ++ (key ++ (gap' ++ (value ++ rest))) ∧
      Separates first gap ∧ Quotes member.name key ∧ Assigns gap' ∧ member.Written value ∧
      Conveys (.members false members) rest := by
  cases conveys with
  | field separates quotes assigns value others =>
      exact ⟨_, _, _, _, _, rfl, separates, quotes, assigns, value, others⟩
  | other separates quotes assigns value others =>
      exact ⟨_, _, _, _, _, rfl, separates, quotes, assigns, value, others⟩

theorem ends_members {members : List Member} (conveys : Conveys (.members false members) text)
    (rest : List Char) : EndsNumber (text ++ '\x7d' :: rest) := by
  cases members with
  | nil =>
      cases conveys with
      | membersEnd _ blank => exact ends_blank blank (ends_mark (by decide) rest)
  | cons member members =>
      obtain ⟨gap, key, gap', value, tail, rfl, separates, -⟩ := conveys.cons
      rw [List.append_assoc]
      exact ends_separator separates _

end Conveys

theorem Member.Written.solid {member : Member} (written : member.Written text) : Solid text := by
  cases member with
  | field name v => exact Conveys.solid written
  | other name => exact WellFormed.solid written

end

/-! ## Reading values in one way -/

/-- Whether a reader makes the same of each text that says the same as a value. -/
def ReadsAs (reader : Reader α) (v : Json) (a : α) : Prop :=
  ∀ blanks text rest, Blank blanks → Conveys (.value v) text → EndsNumber rest →
    Takes reader (blanks ++ text) a rest

theorem readsAs_text (expected s : String) : ReadsAs (text expected) (.str s) s := by
  intro blanks text rest blank conveys _
  cases conveys with
  | spelled spells =>
      cases spells with
      | str quotes =>
          obtain ⟨body, spells, rfl⟩ := quotes
          exact (sees blank (by decide) _).bind ((takes_skip '"' _).bind
            ((takes_textBody spells rest).finish (Takes.pure s rest).located))

theorem readsAs_bool (b : Bool) : ReadsAs Reader.bool (.bool b) b := by
  intro blanks text rest blank conveys _
  cases conveys with
  | spelled spells =>
      cases spells with
      | true =>
          exact (sees blank (by decide) _).bind ((takes_skip 't' _).bind
            ((takes_word ['r', 'u', 'e'] rest).finish (Takes.pure true rest)))
      | false =>
          exact (sees blank (by decide) _).bind ((takes_skip 'f' _).bind
            ((takes_word ['a', 'l', 's', 'e'] rest).finish (Takes.pure false rest)))

/-- A name is read as what it is the name of. -/
theorem readsAs_variant {names : List (String × α)} {s : String} {a : α}
    (named : names.find? (·.1 == s) = some (s, a)) : ReadsAs (variant names) (.str s) a := by
  intro blanks text rest blank conveys _
  cases conveys with
  | spelled spells =>
      cases spells with
      | str quotes =>
          obtain ⟨body, spells, rfl⟩ := quotes
          refine (sees blank (by decide) _).bind ?_
          refine (sees .nil (by decide) _).look ((takes_skip '"' _).bind
            ((takes_textBody spells rest).finish (.located ?_)))
          simp only [named]
          exact .pure a rest

/-- The elements of a list are read, and its end is left. -/
theorem takes_itemsTail {item : Reader α} {toJson : α → Json} {items : List α}
    (each : ∀ a ∈ items, ReadsAs item (toJson a) a) {first : Bool} {text : List Char}
    (conveys : Conveys (.items first (items.map toJson)) text) :
    ∃ inside, text = inside ++ [']'] ∧ ∀ turns rest, text.length ≤ turns →
      Takes (itemsTail item turns first) inside items (']' :: rest) := by
  induction items generalizing first text with
  | nil =>
      cases conveys with
      | @itemsEnd _ blanks blank =>
          refine ⟨blanks, rfl, fun turns rest enough => ?_⟩
          obtain _ | turns := turns
          · simp at enough
          unfold itemsTail
          exact Takes.finish ((sees blank (by decide) rest).finish (.pure false _)) (.pure [] _)
  | cons a items ih =>
      obtain ⟨reads, others⟩ := List.forall_mem_cons.1 each
      rw [List.map_cons] at conveys
      cases conveys with
      | @item _ _ _ gap text tail separates value members =>
          obtain ⟨c, front, same, -⟩ := value.solid
          have here : 0 < text.length := same ▸ Nat.succ_pos _
          obtain ⟨inside, rfl, takes⟩ := ih others members
          refine ⟨gap ++ (text ++ inside), by simp, fun turns rest enough => ?_⟩
          simp only [List.length_append] at enough
          obtain ⟨turns, rfl⟩ : ∃ more, turns = more + 1 := ⟨turns - 1, by omega⟩
          unfold itemsTail
          refine Takes.bind (takes_anotherItem separates ?_) ?_
          · exact (value.solid.append inside).append _
          rw [if_pos rfl]
          have ends := members.ends_items rest
          rw [List.append_assoc] at ends
          refine Takes.bind (reads [] text _ .nil value ends) ?_
          refine (takes turns rest ?_).finish (.pure _ _)
          simp only [List.length_append]
          omega

theorem readsAs_list {item : Reader α} {toJson : α → Json} {items : List α}
    (each : ∀ a ∈ items, ReadsAs item (toJson a) a) :
    ReadsAs (list item) (.arr (items.map toJson)) items := by
  intro blanks text rest blank conveys _
  obtain ⟨tail, rfl, elements⟩ := conveys.of_list
  obtain ⟨inside, rfl, takes⟩ := takes_itemsTail each elements
  have closes : Takes listEnd [']'] () rest := takes_bracket .nil (by decide) (takes_skip ']' rest)
  have read : Takes (do itemsTail item ((← getThe Source).rest.length + 1) true) inside items
      (']' :: rest) := .inspect fun _ => takes _ rest (by simp)
  unfold list
  exact Takes.bind (sees blank (by decide) _) (Takes.enclosed read closes)

/-! ## Records -/

/-- Whether a member is read, so that what has been read so far is then as it should be. -/
def Member.Read (field : String → σ → Reader σ) (member : Member) (before after : σ) : Prop :=
  ∀ gap text rest, Assigns gap → member.Written text → EndsNumber rest →
    Takes (field member.name before) (gap ++ text) after rest

/-- The members of an object are read one after the other, and its end is left. -/
theorem takes_fieldsTail {field : String → σ → Reader σ} {state : List Member → σ}
    {done members : List Member}
    (each : ∀ before member after, done ++ members = before ++ member :: after →
      member.Read field (state before) (state (before ++ [member])))
    {first : Bool} {text : List Char} (conveys : Conveys (.members first members) text) (turns : Nat)
    (enough : text.length < turns) (rest : List Char) :
    Takes (fieldsTail field turns first (state done)) text (state (done ++ members))
      ('\x7d' :: rest) := by
  obtain _ | turns := turns
  · exact absurd enough (Nat.not_lt_zero _)
  unfold fieldsTail
  -- the members to come grow fewer, and what has been read is that of all that came before
  induction members generalizing done first text turns with
  | nil =>
      cases conveys with
      | membersEnd _ blank =>
          rw [List.append_nil]
          exact Takes.finish ((sees blank (by decide) rest).finish (.pure false _)) (.pure _ _)
  | cons member members ih =>
      obtain ⟨gap, key, gap', value, tail, rfl, separates, quotes, assigns, written, others⟩ :=
        conveys.cons
      obtain ⟨c, front, same, -⟩ := written.solid
      have here : 0 < value.length := same ▸ Nat.succ_pos _
      simp only [List.length_append] at enough
      refine Takes.bind (a := true) ?_ ?_
      · rw [List.append_assoc]
        exact takes_anotherKey separates quotes
      rw [if_pos rfl]
      refine Takes.bind (takes_key quotes _) ?_
      rw [← List.append_assoc]
      refine Takes.bind (each done member members rfl gap' value _ assigns written
        (others.ends_members rest)) ?_
      obtain ⟨turns, rfl⟩ : ∃ more, turns = more + 1 := ⟨turns - 1, by omega⟩
      have later := @ih (done ++ [member]) (fun before m after split => each before m after
        (by rw [← split, List.append_assoc, List.singleton_append])) _ _ others turns (by omega)
      rw [List.append_assoc, List.singleton_append] at later
      unfold fieldsTail
      exact later

/-- A field that may stand once is read if it has not been read before. -/
theorem takes_once {reader : Reader α} {v : Json} {a : α} (reads : ReadsAs reader v a)
    {name : String} {already : Bool} (fresh : already = false) {next : α → Reader σ} {done : σ}
    {gap text rest : List Char} (finish : Takes (next a) [] done rest) (assigns : Assigns gap)
    (conveys : Conveys (.value v) text) (ends : EndsNumber rest) :
    Takes (once name already reader >>= next) (gap ++ text) done rest := by
  subst fresh
  obtain ⟨before, after, blank, blank', rfl⟩ := assigns
  rw [List.append_cons, List.append_assoc]
  refine Takes.finish ?_ finish
  unfold once
  exact (takes_colon blank _).bind (reads after text rest blank' conveys ends)

theorem takes_unknownField {gap text rest : List Char} (assigns : Assigns gap)
    (formed : WellFormed .value text) (ends : EndsNumber rest) :
    Takes unknownField (gap ++ text) () rest := by
  obtain ⟨before, after, blank, blank', rfl⟩ := assigns
  rw [List.append_cons, List.append_assoc]
  exact (takes_colon blank _).bind (takes_ignoredValue formed blank' ends)

/-- Whether a reader of fields, from what has been read once some of them are, comes to what has been
read once it is one more; and whether it passes over other names. -/
structure Tracks (field : String → σ → Reader σ) (fields : List (String × Json))
    (seen : List String → σ) : Prop where
  known : ∀ names name v, (name, v) ∈ fields → name ∉ names → ∀ gap text rest, Assigns gap →
    Conveys (.value v) text → EndsNumber rest →
    Takes (field name (seen names)) (gap ++ text) (seen (names ++ [name])) rest
  unknown : ∀ name done, name ∉ fields.map (·.1) → ∀ gap text rest, Assigns gap →
    WellFormed .value text → EndsNumber rest → Takes (field name done) (gap ++ text) done rest

theorem Tracks.each {field : String → σ → Reader σ} {fields defaults : List (String × Json)}
    {seen : List String → σ} (tracks : Tracks field fields seen) {members : List Member}
    (varies : Varies fields defaults members) (before : List Member) (member : Member)
    (after : List Member) (split : members = before ++ member :: after) :
    member.Read field (seen (Member.names before)) (seen (Member.names (before ++ [member]))) := by
  subst split
  intro gap text rest assigns written ends
  rw [Member.names_append]
  cases member with
  | field name v =>
      obtain ⟨known, fresh⟩ := varies.fresh
      exact tracks.known _ name v known fresh gap text rest assigns written ends
  | other name =>
      have unknown := varies.unknown name (List.mem_append_right _ (.head _))
      have same : Member.names [.other name] = [] := rfl
      rw [same, List.append_nil]
      exact tracks.unknown name _ unknown gap text rest assigns written ends

/-- A record is read from all texts that say the same. -/
theorem Tracks.takes_record {field : String → σ → Reader σ} {fields defaults : List (String × Json)}
    {seen : List String → σ} (tracks : Tracks field fields seen) {members : List Member}
    (varies : Varies fields defaults members) {ofFields : Reader σ → Reader α} {a : α}
    (finish : ∀ front rest (x : Reader σ), Takes x front (seen (Member.names members)) rest →
      Takes (ofFields x) front a rest)
    (expected : String) (ofList : Reader α) {blanks inside : List Char} (blank : Blank blanks)
    (conveys : Conveys (.members true members) inside) (rest : List Char) :
    Takes (record expected ofList (ofFields (Reader.fields field (seen []))))
      (blanks ++ ('\x7b' :: (inside ++ ['\x7d']))) a rest := by
  have read : Takes (Reader.fields field (seen [])) inside (seen (Member.names members))
      ('\x7d' :: rest) :=
    .inspect fun _ => @takes_fieldsTail _ field (fun done => seen (Member.names done)) [] members
      (fun before member after => tracks.each varies before member after) _ _ conveys _
      (by rw [List.length_append]; omega) rest
  have closes : Takes objectEnd ['\x7d'] () rest :=
    takes_bracket .nil (by decide) (takes_skip '\x7d' rest)
  exact Takes.bind (sees blank (by decide) _) (Takes.enclosed (finish _ _ _ read) closes)

section Seen

variable {names : List String} {name name' : String} {a : α}

/-- What has been read of a field, once some fields have been. -/
def seen? (names : List String) (name : String) (a : α) : Option α :=
  if name ∈ names then some a else none

theorem isSome_seen? (fresh : name ∉ names) : (seen? names name a).isSome = false := by
  rw [seen?, if_neg fresh]
  rfl

theorem seen?_append : seen? (names ++ [name]) name a = some a :=
  if_pos (List.mem_append_right _ (.head _))

theorem seen?_append_of_ne (other : name ≠ name') :
    seen? (names ++ [name']) name a = seen? names name a := by
  simp [seen?, other]

section

variable {fields defaults : List (String × Json)} {members : List Member} {v : Json}

/-- A field has been read in the end, unless it has its default. -/
theorem Varies.seen?_eq_some (varies : Varies fields defaults members) (field : (name, v) ∈ fields) :
    seen? (Member.names members) name a = some a ∨ (name, v) ∈ defaults :=
  (varies.complete _ field).imp_left fun here =>
    if_pos (show name ∈ Member.names members from List.mem_map_of_mem here)

/-- What stands for a field in the end, if its default does where it has been left out. -/
theorem Varies.getD_seen? (varies : Varies fields defaults members) (field : (name, v) ∈ fields)
    {default : α} (meant : (name, v) ∈ defaults → a = default) :
    (seen? (Member.names members) name a).getD default = a := by
  rcases varies.seen?_eq_some field with read | left
  · rw [read]
    rfl
  · rw [← meant left, seen?]
    split <;> rfl

end

end Seen

/-! ## Texts that say the same -/

/-- The fields of an object. -/
def fields : Json → List (String × Json)
  | .obj fields => fields
  | _ => []

/-- The texts that say the same as an object, where fields that have their defaults can be left
out. -/
def ConveyedBy (object defaults : Json) (text : String) : Prop :=
  ∃ before members inside after, Blank before ∧ Blank after ∧
    Varies object.fields defaults.fields members ∧ Conveys (.members true members) inside ∧
    text = String.ofList (before ++ ('\x7b' :: (inside ++ ['\x7d'])) ++ after)

/-- What a configuration file may hold: an object as it is printed on one line or on several, or a
text that says the same. -/
def HeldBy (object defaults : Json) (text : String) : Prop :=
  text = object.compact ∨ text = object.pretty ∨ object.ConveyedBy defaults text

theorem conveyed_of_spells {fields : List (String × Json)} (unique : (fields.map (·.1)).Nodup)
    (defaults : Json) {text : List Char} (spells : Spells (.value (.obj fields)) text) :
    (Json.obj fields).ConveyedBy defaults (String.ofList text) := by
  cases spells with
  | obj spells =>
      obtain ⟨inside, rfl, conveys⟩ := conveys_members_of_spells spells
      exact ⟨[], _, inside, [], .nil, .nil, varies_asMembers unique _, conveys, by simp⟩

/-- What is printed of an object is among the texts that say the same. -/
theorem HeldBy.conveyed {fields : List (String × Json)} {defaults : Json} {text : String}
    (held : HeldBy (.obj fields) defaults text) (unique : (fields.map (·.1)).Nodup)
    (fits : Fits (.obj fields)) : ConveyedBy (.obj fields) defaults text := by
  rcases held with rfl | rfl | conveyed
  · have conveyed := conveyed_of_spells unique defaults (spells_compact fits)
    rwa [String.ofList_toList] at conveyed
  · have conveyed := conveyed_of_spells unique defaults (spells_prettyAt fits 0)
    rwa [String.ofList_toList] at conveyed
  · exact conveyed

/-- A record is read from all texts that say the same. -/
theorem Tracks.run_conveyed {field : String → σ → Reader σ} {object defaults : Json}
    {seen : List String → σ} (tracks : Tracks field object.fields seen) {text : String}
    (conveyed : object.ConveyedBy defaults text) {finish : σ → α} {a : α}
    (finishes : ∀ members, Varies object.fields defaults.fields members →
      finish (seen (Member.names members)) = a)
    (expected : String) (ofList : Reader α) :
    run (record expected ofList (finish <$> Reader.fields field (seen []))) text = .ok a := by
  obtain ⟨before, members, inside, after, blank, blank', varies, conveys, rfl⟩ := conveyed
  refine run_eq_ok (tracks.takes_record varies (fun front rest x takes => ?_) expected ofList blank
    conveys after) blank'
  rw [← finishes members varies]
  exact takes.map

end SourceAtlas.Json
