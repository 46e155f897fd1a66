import Mathlib.Data.List.ReduceOption
import SourceAtlas.Proofs.Hearing
import SourceAtlas.Proofs.Stability
import SourceAtlas.Proofs.Texts
import SourceAtlas.Proofs.Walks

/-!
# Views

Parameter types, the diagnostics of a unit, completion results, compile commands and the chunks of a
completion string can be asked for by position and listed as a whole. Both ways give what the engine has
at each position: nothing beyond the end, and nothing where it has a null handle, which only diagnostics
and commands can have. The number of positions does not change while a view is there.
-/

namespace SourceAtlas

open Act

/-! ## Requests for elements -/

/-- The position of the element that an event asks the engine for, if it does. -/
def Event.element? : Event → Option Nat
  | .asked (.argumentType i) _ _ | .asked (.unitDiagnostic i) _ _ | .asked (.command i) _ _
  | .asked (.chunkText i) _ _ | .asked (.chunkKind i) _ _ | .asked (.chunkString i) _ _ => some i
  | _ => none

/-- Whether an action answers wherever the engine is loaded and the units have some entries of the tables,
what then holds of the answer, and for which elements the engine is asked. The units stay as they are. -/
def Act.Fetches (setting : Setting) (tables : Array Nat) (x : Act α) (heard : List Nat)
    (P : α → Prop) : Prop :=
  ∀ w : World, w.loaded = true → w.instances = tables → ∃ a v, x.exec setting w = (.ok a, v) ∧ P a ∧
    v.loaded = true ∧ v.instances = tables ∧ w.Utters Event.element? heard v

namespace Act.Fetches

variable {setting : Setting} {tables : Array Nat} {α β : Type} {x : Act α} {f : α → Act β}
variable {heard later : List Nat} {P : α → Prop} {Q : β → Prop}

theorem pure {a : α} (holds : P a) : Fetches setting tables (Pure.pure a) [] P :=
  fun w loaded same => ⟨a, w, rfl, holds, loaded, same, .refl w⟩

theorem mono {R : α → Prop} (first : Fetches setting tables x heard P) (weaker : ∀ a, P a → R a) :
    Fetches setting tables x heard R := by
  intro w loaded same
  obtain ⟨a, v, ran, holds, rest⟩ := first w loaded same
  exact ⟨a, v, ran, weaker a holds, rest⟩

theorem bind (first : Fetches setting tables x heard P)
    (next : ∀ a, P a → Fetches setting tables (f a) later Q) :
    Fetches setting tables (x >>= f) (heard ++ later) Q := by
  intro w loaded same
  obtain ⟨a, v, ran, holds, loaded, same, utters⟩ := first w loaded same
  obtain ⟨b, u, ran', holds', loaded, same, utters'⟩ := next a holds v loaded same
  exact ⟨b, u, (exec_bind_ok ran).trans ran', holds', loaded, same, utters.trans utters'⟩

/-- After the first part the engine is asked for no element. -/
theorem quietly (first : Fetches setting tables x heard P)
    (next : ∀ a, P a → Fetches setting tables (f a) [] Q) :
    Fetches setting tables (x >>= f) heard Q :=
  List.append_nil heard ▸ first.bind next

/-- An answer that is known may be put in. -/
theorem given {a : α} (first : Fetches setting tables x heard (· = a))
    (next : Fetches setting tables (f a) later Q) :
    Fetches setting tables (x >>= f) (heard ++ later) Q :=
  first.bind fun _ same => same ▸ next

/-- What is made of an answer without the engine. -/
theorem map {g : α → β} (first : Fetches setting tables x heard P) (next : ∀ a, P a → Q (g a)) :
    Fetches setting tables (do return g (← x)) heard Q :=
  first.quietly fun a holds => .pure (next a holds)

theorem mapM {R : α → β → Prop} {hears : α → List Nat} {list : List α}
    (each : ∀ a ∈ list, Fetches setting tables (f a) (hears a) (R a)) :
    Fetches setting tables (list.mapM f) (list.flatMap hears) (List.Forall₂ R list) := by
  induction list with
  | nil => exact .pure .nil
  | cons a rest ih =>
      obtain ⟨first, others⟩ := List.forall_mem_cons.1 each
      rw [List.mapM_cons]
      exact first.bind fun b related => (ih others).map fun bs rest => .cons related rest

theorem ask (question : Question) (operands : List Resource) (memo : Option CellId) :
    Fetches setting tables (Act.ask question operands memo)
      (Event.asked question operands memo).element?.toList fun _ => True := by
  intro w loaded same
  refine ⟨(), _, exec_ask question operands memo loaded, trivial, loaded, same, ?_⟩
  cases element : (Event.asked question operands memo).element? with
  | none => exact .talk [_] rfl (List.forall_mem_singleton.2 element)
  | some i => exact .note element w

theorem engine : Fetches setting tables Act.engine [] (· = setting.engine) :=
  fun w loaded same => ⟨_, w, rfl, rfl, loaded, same, .refl w⟩

theorem table (unit : Resource) :
    Fetches setting tables (Act.table unit) [] (· = tables[unit.label]?.getD 0) :=
  fun w loaded same => ⟨_, w, rfl, by rw [same], loaded, same, .refl w⟩

theorem keep [Holder α] (a : α) : Fetches setting tables (Act.keep a) [] (· = a) := by
  intro w loaded same
  have kept := World.retainAll_eq w (refs a)
  refine ⟨a, w.retainAll (refs a), rfl, rfl, ?_, ?_, .still ?_⟩
  · exact (congrArg World.loaded kept).trans loaded
  · exact (congrArg World.instances kept).trans same
  · rw [kept]

theorem raw (raw : Raw α) (question : Question) (answer : Engine → α → β) (memo : Option CellId) :
    Fetches setting tables (raw.ask question answer memo)
      (Event.asked question [raw.origin] memo).element?.toList
      (· = answer setting.engine raw.value) :=
  (ask question [raw.origin] memo).quietly fun _ _ => engine.map fun _ same => same ▸ rfl

end Act.Fetches

/-! ## The views -/

/-- A view of some elements. -/
inductive View where
  | argumentTypes (types : ArgumentTypes)
  | diagnostics (list : DiagnosticList)
  | completion (results : Completion)
  | commands (list : CommandList)
  | chunks (string : CompletionString)

/-- An object apart from the handle that was taken for it. -/
def Object.subject : Object → Object
  | .diagnostic d => .diagnostic { d with handle := ⟨0, ⟨.diagnostic, 0, 0⟩, d.handle.entry⟩ }
  | object => object

/-- A query of a view as one of a string. -/
def StringQuery.ofView : ViewQuery → StringQuery
  | .length => .length
  | .isEmpty => .isEmpty
  | .elements => .chunks
  | .debug => .debug
  | .get i => .chunk i

/-- The type of a parameter, as the engine has it. -/
def ArgumentTypes.typeAt (engine : Engine) (types : ArgumentTypes) (i : Nat) : SourceType :=
  ⟨⟨engine.argumentType types.type.raw.value i, types.type.raw.origin⟩, types.type.unit⟩

/-- A diagnostic of the unit apart from a handle. -/
def DiagnosticList.about (list : DiagnosticList) (entry : Nat) : Diagnostic :=
  { handle := ⟨0, ⟨.diagnostic, 0, 0⟩, entry⟩, unit := list.unit }

/-- A command of the list, as the engine has it. -/
def CommandList.about (list : CommandList) (entry : CommandEntry) : CompileCommand :=
  ⟨⟨entry, list.resource⟩, list⟩

namespace View

def object : View → Object
  | .argumentTypes types => .argumentTypes types
  | .diagnostics list => .diagnostics list
  | .completion results => .completion results
  | .commands list => .commands list
  | .chunks string => .string string

def answer : View → ViewQuery → Act Answer
  | .argumentTypes types, query => types.answer query
  | .diagnostics list, query => list.answer query
  | .completion results, query => results.answer (.view query)
  | .commands list, query => list.answer query
  | .chunks string, query => string.answer (.ofView query)

/-- What the engine has at each position; none where it has a null handle. -/
def entries (engine : Engine) (w : World) : View → List (Option Object)
  | .argumentTypes types => (List.range types.length).map fun i => some (.type (types.typeAt engine i))
  | .diagnostics list => (engine.unit (w.table list.unit.resource)).diagnostics.map
    (·.map fun entry => .diagnostic (list.about entry))
  | .completion results => results.entry.results.map fun entry =>
    some (.candidate ⟨entry.kind, ⟨entry.string, results.resource⟩, results⟩)
  | .commands list => list.commands.map (·.map fun entry => .command (list.about entry))
  | .chunks string => (List.range (engine.string string.raw.value).chunks.length).map fun i =>
    some (.chunk { string, position := i })

/-- Whether the engine may have null handles among the elements. -/
def mayMiss : View → Bool
  | .diagnostics _ | .commands _ => true
  | _ => false

/-- The positions for which the engine is asked, among those that are looked at. Candidates are part of
the handle, and chunks are positions themselves. -/
def requests : View → List Nat → List Nat
  | .completion _, _ | .chunks _, _ => []
  | _, positions => positions

end View

section Fetches

variable {setting : Setting} {tables : Array Nat} {α : Type} {wrap : α → Object}

/-- Actions with one answer each give these answers, in order. -/
theorem Act.Fetches.mapM_eq {β : Type} {f : α → Act β} {g : α → β} {hears : α → List Nat}
    {list : List α} (each : ∀ a ∈ list, Fetches setting tables (f a) (hears a) (· = g a)) :
    Fetches setting tables (list.mapM f) (list.flatMap hears) (· = list.map g) := by
  refine (mapM each).mono fun found related => ?_
  have same := List.forall₂_map_left_iff.2 (related.imp fun _ _ same => Eq.symm same)
  rw [List.forall₂_eq_eq_eq] at same
  exact same.symm

/-- What stands for elements one by one stands for those that are there, in order. -/
theorem present_eq {entry : Nat → Option Object} {positions : List Nat} {found : List (Option α)}
    (each : List.Forall₂ (fun i a => (a.map wrap).map Object.subject = entry i) positions found) :
    ((found.filterMap id).map wrap).map Object.subject = positions.filterMap entry := by
  induction each with
  | nil => rfl
  | @cons i a positions found same _ ih =>
      cases a with
      | none =>
          rw [List.filterMap_cons_none same.symm]
          exact ih
      | some a =>
          rw [List.filterMap_cons_some same.symm]
          exact congrArg _ ih

theorem getElem?_map_join {β : Type} (source : List (Option β)) (f : β → Object) (i : Nat) :
    (source.map (·.map f))[i]?.join = source[i]?.join.map f := by
  rw [List.getElem?_map]
  cases source[i]? <;> rfl

theorem present_range (entries : List (Option Object)) :
    (List.range entries.length).filterMap (fun i => entries[i]?.join) = entries.reduceOption := by
  have all : (List.range entries.length).map (fun i => entries[i]?.join) = entries := by
    rw [map_range_getElem? entries Option.join]
    exact List.map_id entries
  rw [List.reduceOption]
  nth_rewrite 3 [← all]
  rw [List.filterMap_map]
  rfl

/-- Elements that are asked for one after the other, of which the missing ones are left out. -/
theorem Act.Fetches.present {get : Nat → Act (Option α)} {entries : List (Option Object)}
    (each : ∀ i < entries.length, Fetches setting tables (get i) [i] fun found =>
      (found.map wrap).map Object.subject = entries[i]?.join) :
    Fetches setting tables (do return (← (List.range entries.length).mapM get).filterMap id)
      (List.range entries.length) fun found =>
        (found.map wrap).map Object.subject = entries.reduceOption := by
  have all := Fetches.mapM fun i member => each i (List.mem_range.1 member)
  rw [List.flatMap_singleton'] at all
  exact all.map fun _ related => (present_eq related).trans (present_range entries)

namespace ArgumentTypes

variable (types : ArgumentTypes) (i : Nat)

/-- An element is asked for by its position. -/
theorem fetches_nth : Fetches setting tables (types.nth i) [i] (· = types.typeAt setting.engine i) := by
  have derived : Fetches setting tables
      (types.type.raw.derive (.argumentType i) fun engine t => engine.argumentType t i) [i]
      (· = ⟨setting.engine.argumentType types.type.raw.value i, types.type.raw.origin⟩) :=
    (Fetches.raw types.type.raw _ _ none).map fun _ same => same ▸ rfl
  exact derived.quietly fun _ same => same ▸ .keep _

theorem fetches_get? : Fetches setting tables (types.get? i) (if i < types.length then [i] else [])
    (· = if i < types.length then some (types.typeAt setting.engine i) else none) := by
  unfold get?
  split
  next =>
    rw [← bind_pure_comp]
    exact (types.fetches_nth i).map fun _ same => same ▸ rfl
  next => exact .pure rfl

theorem fetches_toList : Fetches setting tables types.toList (List.range types.length)
    (· = (List.range types.length).map (types.typeAt setting.engine)) := by
  have all : Fetches setting tables types.toList _ _ :=
    Fetches.mapM_eq fun i _ => types.fetches_nth i
  rwa [List.flatMap_singleton'] at all

end ArgumentTypes

namespace DiagnosticList

variable (list : DiagnosticList)

/-- The diagnostics of the unit as the tables have them, by position. -/
def entries (engine : Engine) (tables : Array Nat) : List Ref :=
  (engine.unit (tables[list.unit.resource.label]?.getD 0)).diagnostics

theorem fetches_length : Fetches setting tables list.length []
    (· = (list.entries setting.engine tables).length) := by
  refine (Fetches.ask .diagnosticCount _ _).bind fun _ _ => Fetches.engine.given ?_
  exact (Fetches.table _).map fun _ same => same ▸ rfl

/-- A handle is taken over if there is one. -/
theorem fetches_ofRaw? (entry : Ref) : Fetches setting tables (Diagnostic.ofRaw? entry list.unit) []
    fun found => (found.map Object.diagnostic).map Object.subject =
      entry.map fun entry => .diagnostic (list.about entry) := by
  cases entry with
  | none => exact .pure rfl
  | some entry =>
      intro w loaded same
      have kept := World.retainAll_eq (w.acquire .diagnostic entry).1
        (refs (Content.diagnostic none none list.unit))
      refine ⟨_, _, rfl, rfl, ?_, ?_, ?_⟩
      · exact (congrArg World.loaded kept).trans loaded
      · exact (congrArg World.instances kept).trans same
      · exact .talk [_] (congrArg World.trace kept) (List.forall_mem_singleton.2 rfl)

theorem fetches_get? (i : Nat) : Fetches setting tables (list.get? i)
    (if i < (list.entries setting.engine tables).length then [i] else []) fun found =>
      (found.map Object.diagnostic).map Object.subject =
        (list.entries setting.engine tables)[i]?.join.map fun entry =>
          .diagnostic (list.about entry) := by
  by_cases inside : i < (list.entries setting.engine tables).length
  · rw [if_pos inside]
    refine list.fetches_length.given ?_
    rw [if_pos inside]
    refine (Fetches.ask (.unitDiagnostic i) _ _).quietly fun _ _ => Fetches.engine.given ?_
    exact (Fetches.table _).given (list.fetches_ofRaw? _)
  · rw [if_neg inside]
    refine list.fetches_length.given ?_
    rw [if_neg inside]
    exact .pure (by rw [List.getElem?_eq_none (Nat.le_of_not_lt inside)]; rfl)

end DiagnosticList

namespace CommandList

variable (list : CommandList)

theorem fetches_length : Fetches setting tables list.length [] (· = list.commands.length) :=
  (Fetches.ask .commandCount _ _).map fun _ _ => rfl

theorem fetches_get? (i : Nat) :
    Fetches setting tables (list.get? i) (if i < list.commands.length then [i] else [])
      (· = list.commands[i]?.join.map list.about) := by
  have named : Fetches setting tables (list.command? i) (if i < list.commands.length then [i] else [])
      (· = list.commands[i]?.join.map list.about) := by
    by_cases inside : i < list.commands.length
    · rw [if_pos inside]
      refine list.fetches_length.given ?_
      rw [if_pos inside]
      exact (Fetches.ask (.command i) _ _).map fun _ _ => rfl
    · rw [if_neg inside]
      refine list.fetches_length.given ?_
      rw [if_neg inside]
      exact .pure (by rw [List.getElem?_eq_none (Nat.le_of_not_lt inside)]; rfl)
  exact named.quietly fun _ same => same ▸ .keep _

end CommandList

/-- All candidates are there already. -/
theorem Completion.fetches_toList (results : Completion) : Fetches setting tables results.toList []
    (· = (List.range results.length).filterMap results.candidate?) :=
  .keep _

namespace CompletionString

variable (string : CompletionString)

theorem fetches_length : Fetches setting tables string.length []
    (· = (setting.engine.string string.raw.value).chunks.length) :=
  Fetches.raw string.raw .chunkCount (fun engine s => (engine.string s).chunks.length) none

/-- No chunk is asked for until it is asked about. -/
theorem fetches_chunk? (i : Nat) : Fetches setting tables (string.chunk? i) []
    (· = if i < (setting.engine.string string.raw.value).chunks.length
      then some { string, position := i } else none) := by
  refine string.fetches_length.given ?_
  split
  next =>
    rw [← bind_pure_comp]
    exact (Fetches.keep _).map fun _ same => same ▸ rfl
  next => exact .pure rfl

theorem fetches_chunks : Fetches setting tables string.chunks []
    (· = (List.range (setting.engine.string string.raw.value).chunks.length).map fun i =>
      { string, position := i }) := by
  refine string.fetches_length.given ?_
  have silent : (List.range (setting.engine.string string.raw.value).chunks.length).flatMap
      (fun _ => ([] : List Nat)) = [] := List.flatMap_eq_nil_iff.2 fun _ _ => rfl
  exact silent ▸ Fetches.mapM_eq fun _ _ => .keep _

end CompletionString

end Fetches

/-! ## What a view answers -/

namespace View

/-- What a query of a view gives in some store, and for which elements the engine is asked. -/
def Gives (setting : Setting) (w : World) (view : View) (query : ViewQuery) (heard : List Nat)
    (P : Answer → Prop) : Prop :=
  ∃ answer v, (view.answer query).exec setting w = (.ok answer, v) ∧ P answer ∧
    w.Utters Event.element? heard v

/-- Whether a view has some entries, asked for by position and as a whole. -/
structure Shows (setting : Setting) (w : World) (view : View) (entries : List (Option Object)) :
    Prop where
  length : view.Gives setting w .length [] (· = .nat entries.length)
  isEmpty : view.Gives setting w .isEmpty [] (· = .bool (entries.length == 0))
  get : ∀ i < entries.length, view.Gives setting w (.get i) (view.requests [i]) fun answer =>
    ∃ found, answer = .optional id found ∧ found.map Object.subject = entries[i]?.join
  beyond : ∀ i, entries.length ≤ i → view.Gives setting w (.get i) [] (· = .null)
  elements : view.Gives setting w .elements (view.requests (List.range entries.length)) fun answer =>
    ∃ found, answer = .objects found ∧ found.map Object.subject = entries.reduceOption ∧
      (view.mayMiss = false → found.length = entries.length ∧ (entries = [] ↔ found = []))

variable {setting : Setting} {w : World}

theorem gives_of_fetches {view : View} {query : ViewQuery} {heard : List Nat} {P : Answer → Prop}
    (loaded : w.loaded = true)
    (fetches : Fetches setting w.instances (view.answer query) heard P) :
    view.Gives setting w query heard P := by
  obtain ⟨answer, v, ran, holds, -, -, utters⟩ := fetches w loaded rfl
  exact ⟨answer, v, ran, holds, utters⟩

/-- The number of positions is either known or asked for. -/
theorem fetches_size (setting : Setting) (w : World) (view : View) : ∃ size : Act Nat,
    view.answer .length = (do return .nat (← size)) ∧
      view.answer .isEmpty = (do return .bool ((← size) == 0)) ∧
      Fetches setting w.instances size [] (· = (view.entries setting.engine w).length) := by
  cases view with
  | argumentTypes types => exact ⟨pure types.length, rfl, rfl, .pure (by simp [entries])⟩
  | diagnostics list =>
      refine ⟨list.length, rfl, rfl, ?_⟩
      rw [entries, List.length_map]
      exact list.fetches_length
  | completion results =>
      exact ⟨pure results.length, rfl, rfl, .pure (by simp [entries, Completion.length])⟩
  | commands list =>
      refine ⟨list.length, rfl, rfl, ?_⟩
      rw [entries, List.length_map]
      exact list.fetches_length
  | chunks string =>
      refine ⟨string.length, rfl, rfl, ?_⟩
      rw [entries, List.length_map, List.length_range]
      exact string.fetches_length

theorem optional_eq {α : Type} (wrap : α → Object) (found : Option α) :
    Answer.optional wrap found = .optional id (found.map wrap) := by
  cases found <;> rfl

/-- Whether a view is asked by position and as a whole with two actions, which give what the engine has. -/
structure AskedWith (setting : Setting) (w : World) (view : View) {α : Type} (wrap : α → Object)
    (get : Nat → Act (Option α)) (all : Act (List α)) : Prop where
  gets : ∀ i, view.answer (.get i) = do return .optional wrap (← get i)
  lists : view.answer .elements = do return .list wrap (← all)
  got : ∀ i, Fetches setting w.instances (get i)
    (view.requests (if i < (view.entries setting.engine w).length then [i] else [])) fun found =>
      (found.map wrap).map Object.subject = (view.entries setting.engine w)[i]?.join
  listed : Fetches setting w.instances all
    (view.requests (List.range (view.entries setting.engine w).length)) fun found =>
      (found.map wrap).map Object.subject = (view.entries setting.engine w).reduceOption

theorem asked_argumentTypes (types : ArgumentTypes) :
    AskedWith setting w (.argumentTypes types) .type types.get? types.toList where
  gets _ := rfl
  lists := rfl
  got i := by
    simp only [entries, requests, List.length_map, List.length_range]
    refine (types.fetches_get? i).mono fun found same => ?_
    by_cases inside : i < types.length <;> simp [same, inside, Object.subject]
  listed := by
    simp only [entries, requests, List.length_map, List.length_range]
    refine types.fetches_toList.mono fun found same => ?_
    simp [same, List.reduceOption, List.filterMap_map, Object.subject]

theorem asked_diagnostics (list : DiagnosticList) :
    AskedWith setting w (.diagnostics list) .diagnostic list.get? list.toList := by
  have entry (i : Nat) : (entries setting.engine w (.diagnostics list))[i]?.join = _ :=
    getElem?_map_join (list.entries setting.engine w.instances) _ i
  have size : (entries setting.engine w (.diagnostics list)).length =
      (list.entries setting.engine w.instances).length := List.length_map _
  refine ⟨fun _ => rfl, rfl, fun i => ?got, ?listed⟩
  case got =>
    rw [size, entry]
    exact list.fetches_get? i
  case listed =>
    refine list.fetches_length.given ?_
    rw [← size]
    refine Fetches.present fun i inside => ?_
    have one : Fetches setting w.instances (list.get? i) _ _ := list.fetches_get? i
    rw [size] at inside
    rwa [if_pos inside, ← entry] at one

theorem asked_completion (results : Completion) :
    AskedWith setting w (.completion results) .candidate results.get? results.toList := by
  have entry (i : Nat) : ((results.candidate? i).map Object.candidate).map Object.subject =
      (entries setting.engine w (.completion results))[i]?.join := by
    rw [entries, List.getElem?_map, Completion.candidate?]
    cases results.entry.results[i]? <;> rfl
  have size : (entries setting.engine w (.completion results)).length = results.length :=
    List.length_map _
  refine ⟨fun _ => rfl, rfl, fun i => ?got, ?listed⟩
  case got => exact (Fetches.keep _).mono fun _ same => same ▸ entry i
  case listed =>
    refine results.fetches_toList.mono fun _ same => ?_
    rw [same, ← present_range, size]
    have all := present_eq (List.forall₂_map_right_iff.2 (List.forall₂_same.2
      fun i (_ : i ∈ List.range results.length) => entry i))
    rwa [List.filterMap_map] at all

theorem asked_commands (list : CommandList) :
    AskedWith setting w (.commands list) .command list.get? list.toList := by
  have entry (i : Nat) : (entries setting.engine w (.commands list))[i]?.join = _ :=
    getElem?_map_join list.commands _ i
  have size : (entries setting.engine w (.commands list)).length = list.commands.length :=
    List.length_map _
  have one (i : Nat) : Fetches setting w.instances (list.get? i)
      (if i < list.commands.length then [i] else []) fun found =>
        (found.map Object.command).map Object.subject =
          (entries setting.engine w (.commands list))[i]?.join := by
    refine (list.fetches_get? i).mono fun _ same => ?_
    rw [same, entry]
    cases list.commands[i]?.join <;> rfl
  refine ⟨fun _ => rfl, rfl, fun i => ?got, ?listed⟩
  case got =>
    rw [size]
    exact one i
  case listed =>
    refine list.fetches_length.given ?_
    rw [← size]
    refine Fetches.present fun i inside => ?_
    have one := one i
    rwa [if_pos (size ▸ inside)] at one

theorem asked_chunks (string : CompletionString) :
    AskedWith setting w (.chunks string) .chunk string.chunk? string.chunks where
  gets _ := rfl
  lists := rfl
  got i := by
    refine (string.fetches_chunk? i).mono fun found same => ?_
    by_cases inside : i < (setting.engine.string string.raw.value).chunks.length <;>
      simp [same, entries, inside, Object.subject]
  listed := by
    refine string.fetches_chunks.mono fun found same => ?_
    simp [same, entries, List.reduceOption, List.filterMap_map, Object.subject]

/-- Every view is asked by position, and as a whole. -/
theorem exists_asked (setting : Setting) (w : World) (view : View) :
    ∃ (α : Type) (wrap : α → Object) (get : Nat → Act (Option α)) (all : Act (List α)),
      view.AskedWith setting w wrap get all := by
  cases view with
  | argumentTypes types => exact ⟨_, _, _, _, asked_argumentTypes types⟩
  | diagnostics list => exact ⟨_, _, _, _, asked_diagnostics list⟩
  | completion results => exact ⟨_, _, _, _, asked_completion results⟩
  | commands list => exact ⟨_, _, _, _, asked_commands list⟩
  | chunks string => exact ⟨_, _, _, _, asked_chunks string⟩

/-- Where no null handles are, nothing is missing. -/
theorem length_reduceOption (view : View) (whole : view.mayMiss = false) :
    (view.entries setting.engine w).reduceOption.length =
      (view.entries setting.engine w).length := by
  rw [List.reduceOption_length_eq_iff]
  cases view with
  | diagnostics _ | commands _ => exact nomatch whole
  | _ => simp [entries]

theorem requests_nil (view : View) : view.requests [] = [] := by
  cases view <;> rfl

/-- Wherever the engine is loaded, a view has the entries that the engine has for it. -/
theorem shows (view : View) (loaded : w.loaded = true) :
    view.Shows setting w (view.entries setting.engine w) := by
  obtain ⟨size, length, isEmpty, sized⟩ := fetches_size setting w view
  obtain ⟨α, wrap, get, all, gets, elements, got, listed⟩ := exists_asked setting w view
  have asked {i : Nat} {heard : List Nat}
      (hears : view.requests (if i < (view.entries setting.engine w).length then [i] else []) = heard) :
      view.Gives setting w (.get i) heard fun answer => ∃ found, answer = .optional id found ∧
        found.map Object.subject = (view.entries setting.engine w)[i]?.join := by
    refine gives_of_fetches loaded ?_
    rw [gets, ← hears]
    exact (got i).map fun found same => ⟨found.map wrap, optional_eq wrap found, same⟩
  exact {
    length := gives_of_fetches loaded (length ▸ sized.map fun _ same => congrArg _ same)
    isEmpty := gives_of_fetches loaded (isEmpty ▸ sized.map fun _ same => same ▸ rfl)
    get := fun i inside => asked (by rw [if_pos inside])
    beyond := fun i outside => by
      have silent : view.requests (if i < (view.entries setting.engine w).length then [i] else []) =
          [] := by rw [if_neg (Nat.not_lt.2 outside), requests_nil]
      obtain ⟨_, v, ran, ⟨found, rfl, missing⟩, utters⟩ := asked silent
      rw [List.getElem?_eq_none outside] at missing
      obtain rfl := Option.map_eq_none_iff.1 missing
      exact ⟨_, v, ran, rfl, utters⟩
    elements := by
      refine gives_of_fetches loaded ?_
      rw [elements]
      refine listed.map fun found same => ⟨found.map wrap, rfl, same, fun whole => ?_⟩
      have all : (found.map wrap).length = (view.entries setting.engine w).length := by
        rw [← view.length_reduceOption whole, ← same]
        exact (List.length_map _).symm
      exact ⟨all, by rw [← List.length_eq_zero_iff, ← all, List.length_eq_zero_iff]⟩ }

/-- As long as a view is in some slot, its entries stay the same. -/
theorem entries_eq {first state : State} {view : View}
    (keeping : Session.Keeping setting view.object first state) :
    view.entries setting.engine state.world = view.entries setting.engine first.world := by
  cases view with
  | diagnostics list =>
      have same : state.world.table list.unit.resource = _ :=
        keeping.table_eq (List.mem_singleton_self _) nofun
      rw [entries, entries, same]
  | _ => rfl

end View

/-- Asking a view by position and listing it agree, throughout its life.

From some state on, as long as a view stays in some slot, it has the entries that the engine had for it in
that state, whatever is asked meanwhile, of whom, and on which thread. Their number is the length. At a
position before it the view gives what the engine has there, which may be nothing for a diagnostic or a
command. At any other position it gives nothing, and the engine is not asked for an element. The list of all
elements has the entries that are there, in order. Of parameter types, candidates and chunks none is missing,
so that there are as many as the length says. -/
theorem views_agree (setting : Setting) {first state : State} {view : View}
    (keeping : Session.Keeping setting view.object first state) :
    view.Shows setting state.world (view.entries setting.engine first.world) := by
  obtain ⟨_, reached⟩ := keeping.reached
  obtain ⟨_, _, inv⟩ := reached.inv
  obtain ⟨o, belongs⟩ : ∃ o, o ∈ owners view.object := by
    cases view <;> exact ⟨_, .head _⟩
  rw [← View.entries_eq keeping]
  exact view.shows (inv.isLoaded (reached.within keeping.kept belongs).ne_zero)

/-- A list of diagnostics has a null handle at the first of two positions, also after the unit has
been asked to be parsed again. -/
theorem views_agree_diagnostics :
    let tables : Tables := {
      sources := [{ name := none, unit := some 0 }]
      units := #[{ diagnostics := [none, some 0] }] }
    let setting : Setting := ⟨⟨tables, []⟩, true⟩
    let begun := (({} : State).ask setting none none (some "i") .null "create_index").1
    let parsed := (begun.ask setting (some "i") none (some "u") .null "parse").1
    let first := (parsed.ask setting (some "u") none (some "d") .null "diagnostics").1
    let state := (first.ask setting (some "u") none none .null "reparse").1
    let view := View.diagnostics ⟨Session.firstUnit⟩
    Session.Keeping setting view.object first state ∧
      view.Shows setting state.world
        [none, some (.diagnostic (DiagnosticList.about ⟨Session.firstUnit⟩ 0))] := by
  intro tables setting begun parsed first state view
  have agrees (first : State) (reached : Session.Reached setting {} first)
      (found : first.slots.get? "d" = some view.object) :
      let state := (first.ask setting (some "u") none none .null "reparse").1
      Session.Keeping setting view.object first state ∧
        view.Shows setting state.world (view.entries setting.engine first.world) := by
    intro state
    have stays : (first.ask setting (some "u") none none .null "reparse").1.slots.get? "d" =
        first.slots.get? "d" := by
      refine State.get?_ask setting first (fun asked slot act same poses => ?_)
        (fun absent => nomatch absent) (fun _ absent => nomatch absent)
      obtain rfl := Option.some.inj same
      cases poses <;> decide
    have kept {state : State} (found : state.slots.get? "d" = some view.object) :
        view.object ∈ state.slots.objects := List.mem_map_of_mem (Slots.mem_of_get? found)
    have keeping : Session.Keeping setting view.object first state :=
      .ask (some "u") none none .null "reparse" (.here reached (kept found))
        (kept (stays.trans found))
    exact ⟨keeping, views_agree setting keeping⟩
  have reached : Session.Reached setting {} first :=
    ((Session.Reached.start.ask none none (some "i") .null "create_index").ask (some "i") none
      (some "u") .null "parse").ask (some "u") none (some "d") .null "diagnostics"
  have opened : parsed = Session.parsed := Session.opens rfl rfl
  obtain ⟨before, new, made, entries⟩ : ∃ before : State, before.slots.get? "d" = none ∧
      first = before.store "d" view.object ∧ view.entries setting.engine before.world =
        [none, some (.diagnostic (DiagnosticList.about ⟨Session.firstUnit⟩ 0))] := by
    show ∃ before : State, _ ∧
      (parsed.ask setting (some "u") none (some "d") .null "diagnostics").1 = _ ∧ _
    rw [opened]
    exact ⟨_, rfl, rfl, rfl⟩
  rw [State.store_new new] at made
  have found : first.slots.get? "d" = some view.object := by
    rw [made]
    exact Slots.get?_set ..
  have known : view.entries setting.engine first.world =
      [none, some (.diagnostic (DiagnosticList.about ⟨Session.firstUnit⟩ 0))] := by
    rw [made]
    exact entries
  have shown := agrees first reached found
  rw [known] at shown
  exact shown

end SourceAtlas
