import SourceAtlas.Proofs.Fresh

/-!
# Asking once

In every session, whatever is asked of whom and how often, a question whose answer is remembered is asked
once: for each memo, which a cursor shares with its clones; for each unit; and for each location and
each chunk, which take their answers along when they are copied.
-/

namespace SourceAtlas

open Act

variable {engine : Engine}

/-- How a cursor in a slot shares its memo, and with whom. -/
structure Cursor.Shares (engine : Engine) (state : State) (slot : String) (k : Cursor) : Prop where
  canonical : state.HandsOut ⟨engine, true⟩ slot "canonical" k CursorMemo.canonicalSlot
    fun c => .object (.cursor c)
  semanticParent : state.HandsOut ⟨engine, true⟩ slot "semantic_parent" k
    CursorMemo.semanticParentSlot (.optional .cursor)
  lexicalParent : state.HandsOut ⟨engine, true⟩ slot "lexical_parent" k
    CursorMemo.lexicalParentSlot (.optional .cursor)
  /-- The location in the memo says where it is once. -/
  debug : ∀ target args,
    let after := (state.ask ⟨engine, true⟩ (some slot) none target args "debug").1
    let asked := (state.since after).filterMap Event.carried?
    (asked = [] ∨ asked = [.expansion]) ∧ ((state.world.memo k.memo).placed → asked = []) ∧
      (after.world.memo k.memo).placed
  referenced : state.HandsOutNew ⟨engine, true⟩ slot "referenced" (.cursor k) (.optional .cursor)
    Option.toList
  definition : state.HandsOutNew ⟨engine, true⟩ slot "definition" (.cursor k) (.optional .cursor)
    Option.toList
  visitParent : state.HandsOutNew ⟨engine, true⟩ slot "ast_parent" (.cursor k) (.optional .cursor)
    Option.toList
  arguments : state.HandsOutNew ⟨engine, true⟩ slot "arguments" (.cursor k) (.list .cursor) id
  children : Visit.Sound (engine.childReports k.raw.value) →
    state.HandsOutNew ⟨engine, true⟩ slot "children" (.cursor k) (.list .cursor) id

/-- The cursors that a type in a slot leads to have memos of their own. -/
structure SourceType.Shares (engine : Engine) (state : State) (slot : String) (t : SourceType) :
    Prop where
  declaration : state.HandsOutNew ⟨engine, true⟩ slot "declaration" (.type t) (.optional .cursor)
    Option.toList
  fields : Visit.Sound (engine.fieldReports t.raw.value) →
    state.HandsOutNew ⟨engine, true⟩ slot "fields" (.type t) (.list .cursor) id

/-- How the object in a slot asks, and what is shared by what it hands out. -/
structure Object.Shares (engine : Engine) (state : State) (slot : String) (object : Object) :
    Prop where
  /-- It asks only for its own memo, or for its own unit, and only what is not known there. -/
  asks : ∀ target args name, state.world.Recalling object.askable
    (state.ask ⟨engine, true⟩ (some slot) none target args name).1.world
  /-- A clone is the object itself. -/
  clone : object.isClonable → ∀ target args,
    state.ask ⟨engine, true⟩ (some slot) none target args "clone" =
      State.finish ⟨engine, true⟩ target
        { state with
          world := state.world.retainAll (refs object)
          slots := state.slots.set slot object }
        (.ok (.object object))
  cursor : ∀ k, object = .cursor k → k.Shares engine state slot
  type : ∀ t, object = .type t → t.Shares engine state slot

namespace Session.Reached

variable {begin state : State} {slot : String}

theorem shares_cursor (reached : Reached ⟨engine, true⟩ begin state) {k : Cursor}
    (found : state.slots.get? slot = some (.cursor k)) : k.Shares engine state slot := by
  have loaded := reached.loaded found
  have returns {α : Type} (x : Act α) [(succeeding ⟨engine, true⟩).Covers x] :
      ∃ a v, x.exec ⟨engine, true⟩ state.world = (.ok a, v) := by
    obtain ⟨a, v, ran, -⟩ : ∃ a v, x.exec ⟨engine, true⟩ state.world = (.ok a, v) ∧ _ :=
      exec_succeeding loaded
    exact ⟨a, v, ran⟩
  have linked (link : CursorLink) [(Question.cursorLink link).Free] :
      (succeeding ⟨engine, true⟩).Covers (k.linked link) := by
    unfold Cursor.linked
    infer_instance
  have arguments : (succeeding ⟨engine, true⟩).Covers k.arguments := by
    unfold Cursor.arguments
    infer_instance
  exact {
    canonical := reached.handsOut_canonical found
    semanticParent := reached.handsOut_semanticParent found
    lexicalParent := reached.handsOut_lexicalParent found
    debug := reached.describes found
    referenced := reached.handsOutNew found (by decide) (fun _ => rfl) (k.makes_linked .referenced)
      (returns _)
    definition := reached.handsOutNew found (by decide) (fun _ => rfl) (k.makes_linked .definition)
      (returns _)
    visitParent := reached.handsOutNew found (by decide) (fun _ => rfl) k.makes_visitParent
      (returns _)
    arguments := reached.handsOutNew found (by decide) (fun _ => rfl) k.makes_arguments (returns _)
    children := fun sound => by
      have bridged : Visit.Bridged ⟨engine, true⟩ k.children (.children k.raw.value)
          (engine.childReports k.raw.value) k.raw.origin k.unit := k.bridged_children
      obtain ⟨cursors, v, ran, -⟩ := (bridged.complete sound).2 state.world loaded
      exact reached.handsOutNew found (by decide) (fun _ => rfl) k.makes_children ⟨cursors, v, ran⟩ }

theorem shares_type (reached : Reached ⟨engine, true⟩ begin state) {t : SourceType}
    (found : state.slots.get? slot = some (.type t)) : t.Shares engine state slot where
  declaration := by
    obtain ⟨a, v, ran, -⟩ : ∃ a v, t.declaration.exec ⟨engine, true⟩ state.world = (.ok a, v) ∧ _ :=
      exec_succeeding (reached.loaded found)
    exact reached.handsOutNew found (by decide) (fun _ => rfl) t.makes_declaration ⟨a, v, ran⟩
  fields sound := by
    have bridged : Visit.Bridged ⟨engine, true⟩ t.fields (.fields t.raw.value)
        (engine.fieldReports t.raw.value) t.raw.origin t.unit := t.bridged_fields
    obtain ⟨cursors, v, ran, -⟩ := (bridged.complete sound).2 state.world (reached.loaded found)
    exact reached.handsOutNew found (by decide) (fun _ => rfl) t.makes_fields ⟨cursors, v, ran⟩

theorem shares (reached : Reached ⟨engine, true⟩ begin state) {object : Object}
    (found : state.slots.get? slot = some object) : object.Shares engine state slot where
  asks target args name := by
    refine (reached.recalling_ask (some slot) none target args name).mono ?_
    rintro c kind ⟨slot', object', same | absent, found', asks⟩
    · obtain rfl := Option.some.inj same
      obtain rfl := Option.some.inj (found.symm.trans found')
      exact asks
    · exact nomatch absent
  clone clonable target args := State.ask_clone found clonable target args
  cursor := by
    rintro k rfl
    exact reached.shares_cursor found
  type := by
    rintro t rfl
    exact reached.shares_type found

end Session.Reached

/-- What is remembered is asked for once.

Throughout a session a question of a kind that is remembered is asked for a cell, and at most once for
each cell and each kind. A query asks only for the cells of the objects that it goes to: a cursor for
the memo that it shares with its clones, and other objects for the name of a unit. What a cell knows
is not asked, and nothing that it knows is forgotten as long as it is there; so the cursors that a memo
remembers, among them that there is none, stay the same, and all who ask for them share them.
Cursors that are not remembered have memos of their own.

A location asks where it is in terms of files, lines and columns, and a chunk for its text and for its
kind, as often as it learns the answer: once, and not at all if it had the answer from the beginning. -/
theorem asks_once (engine : Engine) :
    (∀ begin state, Session.Reached ⟨engine, true⟩ begin state →
      (∀ c kind, timesAsked state.world.trace c kind ≤ 1) ∧
      (∀ memo kind, (memo, kind) ∈ state.world.trace.filterMap Event.recalls? → memo.isSome) ∧
      (∀ receiver other target args name, state.world.Recalling (state.askable receiver other)
        (state.ask ⟨engine, true⟩ receiver other target args name).1.world) ∧
      ∀ slot object, state.slots.get? slot = some object → object.Shares engine state slot) ∧
    (∀ first state, Session.Later ⟨engine, true⟩ first state →
      first.world.Recalling (fun _ _ => True) state.world) ∧
    ∀ begin start, Session.Reached ⟨engine, true⟩ begin start → ∀ slot object,
      start.slots.get? slot = some object → object.isCarrier → ∀ asked state,
        Session.Holding ⟨engine, true⟩ slot start asked state →
        ∃ object', state.slots.get? slot = some object' ∧ object.Learns asked object' ∧
          ∀ question, (object.carries question).toNat + asked.count question =
            (object'.carries question).toNat := by
  refine ⟨fun begin state reached => ?_, fun first state later => later.recalling,
    fun begin start reached slot object found carrier asked state holding => ?_⟩
  · obtain ⟨events, trace, tied, once⟩ := (Session.Later.of_reached reached).recalling.trace
    obtain rfl : events = state.world.trace := (trace.trans (List.append_nil events)).symm
    refine ⟨fun c kind => (once c kind).1, fun memo kind member => ?_, reached.recalling_ask,
      fun slot object found => reached.shares found⟩
    obtain ⟨c, rfl, -⟩ := tied memo kind member
    rfl
  · obtain ⟨object', there, learns⟩ := holding.learns reached found carrier
    exact ⟨object', there, learns, learns.count⟩

/-- A unit and its clone ask for the spelling, which is empty, once. -/
theorem asks_once_clone :
    let engine : Engine := ⟨{ sources := [{ name := none, unit := some 0 }], units := #[{}] }, []⟩
    let begun := (({} : State).ask ⟨engine, true⟩ none none (some "i") .null "create_index").1
    let parsed := (begun.ask ⟨engine, true⟩ (some "i") none (some "u") .null "parse").1
    let cloned := (parsed.ask ⟨engine, true⟩ (some "u") none (some "v") .null "clone").1
    let once := (cloned.ask ⟨engine, true⟩ (some "v") none none .null "spelling").1
    let twice := (once.ask ⟨engine, true⟩ (some "u") none none .null "spelling").1
    timesAsked cloned.world.trace 1 .unitSpelling = 0 ∧
      timesAsked once.world.trace 1 .unitSpelling = 1 ∧
      timesAsked twice.world.trace 1 .unitSpelling ≤ 1 := by
  intro engine begun parsed cloned once twice
  have reached : Session.Reached ⟨engine, true⟩ {} twice :=
    ((((Session.Reached.start.ask none none (some "i") .null "create_index").ask (some "i") none
      (some "u") .null "parse").ask (some "u") none (some "v") .null "clone").ask (some "v") none
      none .null "spelling").ask (some "u") none none .null "spelling"
  let index := Session.firstIndex
  let unit := Session.firstUnit
  have opened : parsed = Session.parsed := Session.opens rfl rfl
  have shared : cloned =
      { world :=
          { Session.parsed.world with
            cells := #[some ⟨2, some index.resource, .index⟩,
              some ⟨2, some unit.resource, .unit index none⟩] }
        slots := ("v", .unit unit) :: Session.parsed.slots } := by
    show (parsed.ask ⟨engine, true⟩ (some "u") none (some "v") .null "clone").1 = _
    rw [opened]
    show State.store _ _ _ = _
    rw [State.store_new rfl]
    rfl
  have found : cloned.slots.get? "v" = some (.unit unit) := by
    rw [shared]
    rfl
  obtain ⟨w, ran, asked⟩ : ∃ w, ((Object.unit unit).steady (unit.answer .spelling)).exec
      ⟨engine, true⟩ cloned.world = (.ok ⟨.unit unit, .ok (.text "")⟩, w) ∧
      timesAsked w.trace 1 .unitSpelling = 1 := by
    rw [shared]
    exact ⟨_, rfl, rfl⟩
  have ended : once = { cloned with world := w, slots := cloned.slots.set "v" (.unit unit) } := by
    show (cloned.ask ⟨engine, true⟩ (some "v") none none .null "spelling").1 = _
    rw [State.ask_alone found (by decide) (by rfl), State.turn_ok ran]
    exact congrArg Prod.fst (State.finish_plain _ _ _ _)
  refine ⟨?_, ended ▸ asked, ((asks_once engine).1 _ _ reached).1 1 .unitSpelling⟩
  rw [shared]
  rfl

end SourceAtlas
