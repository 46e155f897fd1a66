import SourceAtlas.Proofs.Bridge
import SourceAtlas.Proofs.Hearing
import SourceAtlas.Proofs.Preorder

/-!
# Walks in preorder

The nodes that a walk has pending are the roots of trees that it has yet to go through; what it yields
is the preorder of these. A step takes the first node off and puts its children in its place, so the
children of a node are asked for when the node is yielded, and never again.
-/

namespace SourceAtlas

open Act

variable {setting : Setting}

/-! ## Steps -/

/-- The question that a walk asks about a node when it yields it. -/
def Cursor.visitEvent (node : Cursor) : Event :=
  .asked (.children node.raw.value) [node.raw.origin] none

/-- Nothing is asked when references are given up. -/
theorem World.Sheds.silent {w v : World} (sheds : w.Sheds v) :
    ∃ events, v.trace = events ++ w.trace ∧ events.filterMap Event.question? = [] := by
  obtain ⟨events, trace, given⟩ := sheds.trace
  refine ⟨events, trace, List.filterMap_eq_nil_iff.2 fun event member => ?_⟩
  obtain ⟨r, rfl⟩ := given event member
  rfl

namespace Walk

/-- Whether some nodes are what a walk has ahead of it: the trees of its pending nodes end, and the
nodes are those of the trees. -/
def Ahead (engine : Engine) (origin : Resource) (unit : SourceUnit) (walk : Walk)
    (nodes : List Visit) : Prop :=
  ∃ visits, List.Forall₂ (Visit.Yields origin unit) visits walk.pending.reverse ∧
    (∀ visit ∈ visits, engine.Grounded visit.cursor) ∧ engine.Preorder visits nodes

variable {origin : Resource} {unit : SourceUnit} {walk : Walk} {w : World}

/-- A step yields the last of the pending nodes, and has asked for its children. -/
theorem exec_advance_grounded (others : List Cursor) (node : Cursor)
    (grounded : setting.engine.Grounded node.raw.value) (loaded : w.loaded = true) :
    ∃ children v, (⟨others ++ [node]⟩ : Walk).advance.exec setting w =
        (.ok (⟨others ++ children.reverse⟩, .ok (some node)), v) ∧
      v.trace = node.visitEvent :: w.trace ∧ v.loaded = true ∧
      List.Forall₂ (Visit.Yields node.raw.origin node.unit)
        (setting.engine.childReports node.raw.value) children := by
  obtain ⟨children, v, ran, trace, handles⟩ :=
    (node.bridged_children.complete grounded.reports_sound).2 w loaded
  have covered : (sound setting).Covers node.children := inferInstance
  have still := ((covered.holds w).loaded loaded).1
  rw [ran] at still
  exact ⟨children, v, by rw [exec_advance, ran], trace, still, handles⟩

/-- From its root a walk goes on to what is below it. -/
theorem advance_root (root : Cursor) (grounded : setting.engine.Grounded root.raw.value)
    {nodes : List Visit}
    (preorder : setting.engine.Preorder (setting.engine.childReports root.raw.value) nodes)
    (loaded : w.loaded = true) :
    ∃ next v, (⟨[root]⟩ : Walk).advance.exec setting w = (.ok (next, .ok (some root)), v) ∧
      v.trace = root.visitEvent :: w.trace ∧ v.loaded = true ∧
      next.Ahead setting.engine root.raw.origin root.unit nodes := by
  obtain ⟨children, v, ran, trace, still, handles⟩ := exec_advance_grounded [] root grounded loaded
  refine ⟨_, v, ran, trace, still, _, ?_, fun visit reported => grounded.child reported, preorder⟩
  rwa [List.nil_append, List.reverse_reverse]

/-- A step takes the first node that is ahead. -/
theorem Ahead.advance {node : Visit} {nodes : List Visit}
    (ahead : walk.Ahead setting.engine origin unit (node :: nodes)) (loaded : w.loaded = true) :
    ∃ next k v, walk.advance.exec setting w = (.ok (next, .ok (some k)), v) ∧
      node.Yields origin unit k ∧ v.trace = k.visitEvent :: w.trace ∧ v.loaded = true ∧
      next.Ahead setting.engine origin unit nodes := by
  obtain ⟨visits, handles, grounded, preorder⟩ := ahead
  cases preorder with
  | @cons _ rest below beside preorder preorder' =>
      obtain ⟨here, there⟩ := List.forall_mem_cons.1 grounded
      obtain ⟨k, others, yields, behind, split⟩ := List.forall₂_cons_left_iff.1 handles
      obtain rfl : walk = ⟨others.reverse ++ [k]⟩ := by
        cases walk
        simpa using congrArg List.reverse split
      have known : setting.engine.Grounded k.raw.value := by rwa [yields.raw]
      obtain ⟨children, v, ran, trace, still, made⟩ :=
        exec_advance_grounded others.reverse k known loaded
      refine ⟨_, k, v, ran, yields, trace, still, setting.engine.childReports node.cursor ++ rest,
        ?_, fun visit member => ?_, preorder.append preorder'⟩
      · rw [yields.raw, yields.unit] at made
        simpa using List.rel_append made behind
      · exact (List.mem_append.1 member).elim here.child (there visit)

/-- A walk with nothing ahead of it is over. -/
theorem Ahead.exhausted (ahead : walk.Ahead setting.engine origin unit []) : walk = ⟨[]⟩ := by
  obtain ⟨visits, handles, -, preorder⟩ := ahead
  cases preorder
  cases walk
  simpa using List.forall₂_nil_left_iff.1 handles

theorem advance_over (w : World) :
    (⟨[]⟩ : Walk).advance.exec setting w = (.ok (⟨[]⟩, .ok none), w) :=
  rfl

/-! ## The rest of a walk -/

/-- A walk that may take enough turns yields all that is ahead of it. -/
theorem Ahead.loop {nodes : List Visit} (ahead : walk.Ahead setting.engine origin unit nodes)
    {turns : Nat} (enough : nodes.length ≤ turns) (yielded : List Cursor) (loaded : w.loaded = true) :
    ∃ cursors v, (drain.loop turns walk yielded).exec setting w =
        (.ok (⟨[]⟩, .ok (yielded.reverse ++ cursors)), v) ∧
      List.Forall₂ (Visit.Yields origin unit) nodes cursors ∧
      v.trace = (cursors.map Cursor.visitEvent).reverse ++ w.trace := by
  induction turns generalizing walk yielded w nodes with
  | zero =>
      obtain rfl := List.eq_nil_of_length_eq_zero (Nat.le_zero.1 enough)
      obtain rfl := ahead.exhausted
      exact ⟨[], w, by simp [drain.loop]; rfl, .nil, rfl⟩
  | succ turns ih =>
      unfold drain.loop
      cases nodes with
      | nil =>
          obtain rfl := ahead.exhausted
          rw [exec_bind_ok (advance_over w)]
          exact ⟨[], w, by simp; rfl, .nil, rfl⟩
      | cons node nodes =>
          obtain ⟨next, k, v, ran, yields, trace, still, further⟩ := ahead.advance loaded
          rw [exec_bind_ok ran]
          obtain ⟨cursors, u, went, handles, later⟩ :=
            ih further (Nat.le_of_succ_le_succ enough) (k :: yielded) still
          refine ⟨k :: cursors, u, ?_, .cons yields handles, ?_⟩
          · simpa using went
          · simp [later, trace]

/-- A walk may take as many turns as there are nodes ahead of it. -/
theorem Ahead.length_le {nodes : List Visit}
    (ahead : walk.Ahead setting.engine origin unit nodes) :
    nodes.length ≤ walk.bound setting.engine := by
  obtain ⟨visits, handles, grounded, preorder⟩ := ahead
  have length := preorder.length_le fun visit member _ below => (grounded visit member).length_lt below
  rwa [handles.length_eq, List.length_reverse] at length

theorem Ahead.drain {nodes : List Visit} (ahead : walk.Ahead setting.engine origin unit nodes)
    (loaded : w.loaded = true) :
    ∃ cursors v, walk.drain.exec setting w = (.ok (⟨[]⟩, .ok cursors), v) ∧
      List.Forall₂ (Visit.Yields origin unit) nodes cursors ∧
      v.trace = (cursors.map Cursor.visitEvent).reverse ++ w.trace := by
  obtain ⟨cursors, v, ran, handles, trace⟩ := ahead.loop (Nat.le_succ_of_le ahead.length_le) [] loaded
  exact ⟨cursors, v, (exec_bind_ok exec_engine).trans ran, handles, trace⟩

theorem drain_root (root : Cursor) (grounded : setting.engine.Grounded root.raw.value)
    {nodes : List Visit}
    (preorder : setting.engine.Preorder (setting.engine.childReports root.raw.value) nodes)
    (loaded : w.loaded = true) :
    ∃ cursors v, (⟨[root]⟩ : Walk).drain.exec setting w = (.ok (⟨[]⟩, .ok (root :: cursors)), v) ∧
      List.Forall₂ (Visit.Yields root.raw.origin root.unit) nodes cursors ∧
      v.trace = ((root :: cursors).map Cursor.visitEvent).reverse ++ w.trace := by
  obtain ⟨next, v, ran, trace, still, ahead⟩ := advance_root root grounded preorder loaded
  have enough : nodes.length ≤ (⟨[root]⟩ : Walk).bound setting.engine := by
    have length := grounded.length_lt preorder
    simp only [bound, List.length_singleton, Nat.one_mul]
    exact Nat.le_of_succ_le length
  obtain ⟨cursors, u, went, handles, later⟩ := ahead.loop enough [root] still
  refine ⟨cursors, u, (exec_bind_ok exec_engine).trans ?_, handles, ?_⟩
  · unfold drain.loop
    rw [exec_bind_ok ran]
    exact went
  · simp [later, trace]

end Walk

/-! ## Queries -/

/-- Whether what is stored for a target goes elsewhere than into a slot. -/
def Spares (slot : String) (target : Option String) : Prop :=
  ∀ place ∈ target, place ≠ slot ∧ ∀ i : Nat, place ++ "." ++ toString i ≠ slot

/-- The places for a list have longer names than the place that is given for it. -/
theorem Spares.of_length {slot place : String} (other : place ≠ slot)
    (short : slot.length ≤ place.length) : Spares slot (some place) := by
  rintro _ ⟨⟩
  refine ⟨other, fun i same => ?_⟩
  have length := congrArg String.length same
  have dot : ".".length = 1 := rfl
  simp only [String.length_append] at length
  omega

/-- Whether a query lets a walk be: the walk is not asked to go on, is not dropped, and nothing is put
in its place. -/
structure Aside (slot : String) (receiver other target : Option String) (args : Json)
    (name : String) : Prop where
  asked : receiver = some slot → other = none → name ≠ "next" ∧ name ≠ "rest"
  dropped : receiver = none → name = "drop" → slot ∉ args.strings "slots"
  stored : Spares slot target

namespace State

variable {state : State} {slot : String} {target : Option String}

theorem get?_store (state : State) {name : String} (other : name ≠ slot) (object : Object) :
    (state.store name object).slots.get? slot = state.slots.get? slot :=
  Slots.get?_set_of_ne other.symm _ _

theorem get?_settle (state : State) (spares : Spares slot target) (answer : Answer) :
    (state.settle target answer).slots.get? slot = state.slots.get? slot := by
  unfold settle
  split
  next name object => exact state.get?_store (spares _ rfl).1 object
  next name objects =>
    unfold storeAll
    induction objects.zipIdx generalizing state with
    | nil => rfl
    | cons first rest ih => exact (ih _).trans (state.get?_store ((spares _ rfl).2 _) _)
  next => rfl

theorem get?_finish (state : State) (spares : Spares slot target) (outcome : Except Fault Answer) :
    (finish setting target state outcome).1.slots.get? slot = state.slots.get? slot := by
  cases outcome with
  | ok answer => exact state.get?_settle spares answer
  | error fault => rfl

/-- A query that takes no turn of the object in a slot, does not drop it and puts nothing in its place
leaves it as it was. -/
theorem get?_ask (setting : Setting) (state : State) {receiver other : Option String} {args : Json}
    {name : String}
    (turns : ∀ asked slot' act, receiver = some asked → state.Poses name args asked other slot' act →
      slot' ≠ slot)
    (dropped : receiver = none → name = "drop" → slot ∉ args.strings "slots")
    (spares : Spares slot target) :
    (state.ask setting receiver other target args name).1.slots.get? slot =
      state.slots.get? slot := by
  cases receiver with
  | none =>
      rcases ask_none_cases setting state other target args name with
        ⟨act, _, asked⟩ | ⟨rfl, -⟩ | ⟨-, asked⟩
      · rw [asked, get?_finish _ spares]
        rfl
      · exact get?_clears (dropped rfl rfl) state
      · rw [asked]
  | some receiver =>
      show (state.askSlot setting name receiver other target args).1.slots.get? slot = _
      rcases askSlot_cases setting state name receiver other target args with
        ⟨slot', act, poses, asked⟩ | ⟨reply, asked, -⟩
      · have elsewhere := turns receiver slot' act rfl poses
        rw [asked]
        rcases ran : act.exec setting state.world with ⟨fault | t, v⟩
        · rw [turn_error ran]
        · rw [turn_ok ran, get?_finish _ spares, Slots.get?_set_of_ne elsewhere.symm]
      · rw [asked]

/-- A walk changes only when it is asked to go on. -/
theorem Poses.ne_of_walk {name slot' receiver : String} {args : Json} {other : Option String}
    {act : Act Turn} {walk : Walk} (poses : state.Poses name args receiver other slot' act)
    (found : state.slots.get? slot = some (.walk walk))
    (asked : receiver = slot → other = none → name ≠ "next" ∧ name ≠ "rest") : slot' ≠ slot := by
  rintro rfl
  obtain ⟨rfl, rfl, turns⟩ := poses.alone_of found rfl
  obtain ⟨next, rest⟩ := asked rfl rfl
  obtain ⟨query, named, -⟩ := Option.map_eq_some_iff.1 turns
  unfold WalkQuery.ofName? at named
  split at named <;> contradiction

end State

/-- A query that lets a walk be leaves it as it was. -/
theorem Aside.kept (setting : Setting) {state : State} {slot : String}
    {receiver other target : Option String} {args : Json} {name : String}
    (aside : Aside slot receiver other target args name) {walk : Walk}
    (found : state.slots.get? slot = some (.walk walk)) :
    (state.ask setting receiver other target args name).1.slots.get? slot = some (.walk walk) := by
  refine (State.get?_ask setting state ?_ aside.dropped aside.stored).trans found
  rintro receiver slot' act rfl poses
  exact poses.ne_of_walk found fun same => aside.asked (congrArg some same)

/-! ## Sessions -/

/-- A query that asks a walk for its next node: the state in which it comes, where the node is put,
and the arguments, which do not matter. -/
structure Walk.Call where
  before : State
  target : Option String
  args : Json

namespace Walk.Call

variable (setting : Setting) (slot : String) (call : Walk.Call)

/-- The state after the query. -/
def after : State :=
  (call.before.ask setting (some slot) none call.target call.args "next").1

/-- The questions that go to the engine because of the query, in order. -/
def questions : List Question :=
  let earlier := call.before.world.trace.length
  let trace := (call.after setting slot).world.trace
  ((trace.take (trace.length - earlier)).filterMap Event.question?).reverse

/-- Whether the query gives a node, or none. -/
def Gives (out : Option Cursor) : Prop :=
  ∃ next v, call.before.ask setting (some slot) none call.target call.args "next" =
    State.finish setting call.target
      { call.before with world := v, slots := call.before.slots.set slot (.walk next) }
      (.ok (.optional .cursor out))

end Walk.Call

/-- A part of a session in which the walk in a slot is asked for its next node now and then. Between
these queries anything may be asked that lets the walk be, and other threads may run. -/
inductive Session.Walking (setting : Setting) (slot : String) (start : State) :
    List Walk.Call → State → Prop
  | start : Walking setting slot start [] start
  | next {calls : List Walk.Call} {state : State} (target : Option String) (args : Json) :
      Walking setting slot start calls state → Spares slot target →
      Walking setting slot start (calls ++ [⟨state, target, args⟩])
        (state.ask setting (some slot) none target args "next").1
  | aside {calls : List Walk.Call} {state : State} {receiver other target : Option String}
      {args : Json} {name : String} : Walking setting slot start calls state →
      Aside slot receiver other target args name →
      Walking setting slot start calls (state.ask setting receiver other target args name).1
  | report {calls : List Walk.Call} {state : State} : Walking setting slot start calls state →
      Walking setting slot start calls state.takeEvents.1
  | thread {calls : List Walk.Call} {state inner : State} :
      Walking setting slot start calls state →
      Session.Reached setting state.enterThread inner → inner.slots = [] →
      Walking setting slot start calls (state.leaveThread inner)

theorem Session.Walking.reached {slot : String} {begin start state : State}
    {calls : List Walk.Call} (reached : Session.Reached setting begin start)
    (walking : Session.Walking setting slot start calls state) :
    Session.Reached setting begin state := by
  induction walking with
  | start => exact reached
  | next target args _ _ ih => exact ih.ask ..
  | aside _ _ ih => exact ih.ask ..
  | report _ ih => exact ih.report
  | thread _ ran empty ih => exact ih.leave ran empty

/-- Whether some cursors are the first ones of a preorder: the root itself, and handles for the nodes
below it. -/
inductive Cursor.Leads (root : Cursor) (below : List Visit) : List Cursor → Prop
  | start : Leads root below []
  | on {done todo : List Visit} {cursors : List Cursor} : below = done ++ todo →
      List.Forall₂ (Visit.Yields root.raw.origin root.unit) done cursors →
      Leads root below (root :: cursors)

namespace State

variable {state : State} {slot : String} {target : Option String} {args : Json}

theorem ask_next {walk next : Walk} {out : Option Cursor} {v : World}
    (found : state.slots.get? slot = some (.walk walk))
    (ran : walk.advance.exec setting state.world = (.ok (next, .ok out), v)) :
    state.ask setting (some slot) none target args "next" =
      finish setting target { state with world := v, slots := state.slots.set slot (.walk next) }
        (.ok (.optional .cursor out)) := by
  have turned : (walk.turn .next).exec setting state.world =
      (.ok ⟨.walk next, .ok (.optional .cursor out)⟩, v) :=
    exec_bind_ok ran
  rw [ask_alone found (by decide) (by rfl), turn_ok turned]

theorem ask_rest {walk next : Walk} {cursors : List Cursor} {v : World}
    (found : state.slots.get? slot = some (.walk walk))
    (ran : walk.drain.exec setting state.world = (.ok (next, .ok cursors), v)) :
    state.ask setting (some slot) none target args "rest" =
      finish setting target { state with world := v, slots := state.slots.set slot (.walk next) }
        (.ok (.list .cursor cursors)) := by
  have turned : (walk.turn .rest).exec setting state.world =
      (.ok ⟨.walk next, .ok (.list .cursor cursors)⟩, v) :=
    exec_bind_ok ran
  rw [ask_alone found (by decide) (by rfl), turn_ok turned]

end State

/-- What a walk does when it is asked is what the query gives, asks and leaves in the slot. -/
theorem Walk.Call.ran (call : Walk.Call) {slot : String} {walk next : Walk} {out : Option Cursor}
    {v : World} (events : List Event) (found : call.before.slots.get? slot = some (.walk walk))
    (ran : walk.advance.exec setting call.before.world = (.ok (next, .ok out), v))
    (trace : v.trace = events ++ call.before.world.trace) (spares : Spares slot call.target) :
    call.Gives setting slot out ∧
      call.questions setting slot = (events.filterMap Event.question?).reverse ∧
      (call.after setting slot).slots.get? slot = some (.walk next) := by
  have asked : call.before.ask setting (some slot) none call.target call.args "next" = _ :=
    State.ask_next found ran
  have after : call.after setting slot = (State.finish setting call.target
      { call.before with world := v, slots := call.before.slots.set slot (.walk next) }
      (.ok (.optional .cursor out))).1 := congrArg Prod.fst asked
  refine ⟨⟨next, v, asked⟩, ?_, ?_⟩
  · obtain ⟨shed, later, silent⟩ := (State.sheds_settle
      { call.before with world := v, slots := call.before.slots.set slot (.walk next) } call.target
      (.optional .cursor out)).silent
    have all : (call.after setting slot).world.trace =
        (shed ++ events) ++ call.before.world.trace := by
      rw [after, List.append_assoc, ← trace]
      exact later
    simp only [questions, all, List.length_append, Nat.add_sub_cancel]
    rw [← List.length_append, List.take_left, List.filterMap_append, silent, List.nil_append]
  · rw [after, State.get?_finish _ spares]
    exact Slots.get?_set ..

namespace Walk

/-- How far a walk in a slot has come: which nodes it has yielded, and that it has the others ahead of
it. -/
inductive Progress (setting : Setting) (slot : String) (root : Cursor) (below : List Visit) :
    List Cursor → State → Prop
  | start {state : State} : state.slots.get? slot = some (.walk ⟨[root]⟩) →
      Progress setting slot root below [] state
  | on {state : State} {walk : Walk} {done todo : List Visit} {cursors : List Cursor} :
      state.slots.get? slot = some (.walk walk) → below = done ++ todo →
      List.Forall₂ (Visit.Yields root.raw.origin root.unit) done cursors →
      walk.Ahead setting.engine root.raw.origin root.unit todo →
      Progress setting slot root below (root :: cursors) state

variable {slot : String} {root : Cursor} {below : List Visit} {yielded : List Cursor}
variable {state after : State} {target : Option String} {args : Json}

namespace Progress

theorem found (progress : Progress setting slot root below yielded state) :
    ∃ walk, state.slots.get? slot = some (.walk walk) := by
  cases progress with
  | start found => exact ⟨_, found⟩
  | on found _ _ _ => exact ⟨_, found⟩

/-- Whatever leaves the walk as it was has not changed how far it has come. -/
theorem congr (progress : Progress setting slot root below yielded state)
    (same : after.slots.get? slot = state.slots.get? slot) :
    Progress setting slot root below yielded after := by
  cases progress with
  | start found => exact .start (same.trans found)
  | on found split handles ahead => exact .on (same.trans found) split handles ahead

theorem leads (progress : Progress setting slot root below yielded state) :
    root.Leads below yielded := by
  cases progress with
  | start _ => exact .start
  | on _ split handles _ => exact .on split handles

/-- A walk with nothing pending has yielded everything. -/
theorem length_eq (progress : Progress setting slot root below yielded state)
    (spent : state.slots.get? slot = some (.walk ⟨[]⟩)) : yielded.length = below.length + 1 := by
  cases progress with
  | start found => exact nomatch found.symm.trans spent
  | on found split handles ahead =>
      obtain rfl := Object.walk.inj (Option.some.inj (found.symm.trans spent))
      obtain ⟨visits, pending, -, preorder⟩ := ahead
      obtain rfl := List.forall₂_nil_right_iff.1 pending
      cases preorder
      simp [split, handles.length_eq]

/-- A walk with something pending yields the next node, and asks for its children only. -/
theorem next (progress : Progress setting slot root below yielded state)
    (grounded : setting.engine.Grounded root.raw.value)
    (preorder : setting.engine.Preorder (setting.engine.childReports root.raw.value) below)
    (loaded : state.world.loaded = true)
    (pending : state.slots.get? slot ≠ some (.walk ⟨[]⟩)) (spares : Spares slot target) :
    ∃ node, Call.Gives setting slot ⟨state, target, args⟩ (some node) ∧
      Call.questions setting slot ⟨state, target, args⟩ = [.children node.raw.value] ∧
      Progress setting slot root below (yielded ++ [node])
        (Call.after setting slot ⟨state, target, args⟩) := by
  cases progress with
  | start found =>
      obtain ⟨next, v, ran, trace, -, ahead⟩ := advance_root root grounded preorder loaded
      obtain ⟨gives, questions, after⟩ :=
        Call.ran ⟨state, target, args⟩ [root.visitEvent] found ran trace spares
      exact ⟨root, gives, questions, .on after (List.nil_append _).symm .nil ahead⟩
  | @on _ walk done todo cursors found split handles ahead =>
      cases todo with
      | nil =>
          obtain rfl := ahead.exhausted
          exact absurd found pending
      | cons node todo =>
          obtain ⟨next, k, v, ran, yields, trace, -, further⟩ := ahead.advance loaded
          obtain ⟨gives, questions, after⟩ :=
            Call.ran ⟨state, target, args⟩ [k.visitEvent] found ran trace spares
          refine ⟨k, gives, questions, .on after ?_ (List.rel_append handles (.cons yields .nil)) further⟩
          rw [split, List.append_assoc, List.singleton_append]

/-- A walk that is over yields nothing, and stays over. -/
theorem exhausted (found : state.slots.get? slot = some (.walk ⟨[]⟩)) (spares : Spares slot target) :
    Call.Gives setting slot ⟨state, target, args⟩ none ∧
      Call.questions setting slot ⟨state, target, args⟩ = [] ∧
      (Call.after setting slot ⟨state, target, args⟩).slots.get? slot = some (.walk ⟨[]⟩) :=
  Call.ran ⟨state, target, args⟩ [] found (advance_over _) rfl spares

/-- The rest of a walk is all that it has not yielded yet. -/
theorem rest (progress : Progress setting slot root below yielded state)
    (grounded : setting.engine.Grounded root.raw.value)
    (preorder : setting.engine.Preorder (setting.engine.childReports root.raw.value) below)
    (loaded : state.world.loaded = true) :
    ∃ rest v, state.ask setting (some slot) none target args "rest" =
        State.finish setting target
          { state with world := v, slots := state.slots.set slot (.walk ⟨[]⟩) }
          (.ok (.list .cursor rest)) ∧
      root.Leads below (yielded ++ rest) ∧ (yielded ++ rest).length = below.length + 1 ∧
      v.trace = (rest.map Cursor.visitEvent).reverse ++ state.world.trace := by
  cases progress with
  | start found =>
      obtain ⟨cursors, v, ran, handles, trace⟩ := drain_root root grounded preorder loaded
      exact ⟨_, v, State.ask_rest found ran, .on (List.append_nil _).symm handles,
        by simp [handles.length_eq], trace⟩
  | on found split handles ahead =>
      obtain ⟨cursors, v, ran, others, trace⟩ := ahead.drain loaded
      exact ⟨_, v, State.ask_rest found ran,
        .on (split.trans (List.append_nil _).symm) (List.rel_append handles others),
        by simp [split, handles.length_eq, others.length_eq], trace⟩

end Progress

end Walk

/-- What has come of a walk: the nodes that it has yielded, and how often it was asked in vain since. -/
structure Session.Walked (setting : Setting) (slot : String) (root : Cursor) (below : List Visit)
    (calls : List Walk.Call) (state : State) (yielded : List Cursor) (vain : Nat) : Prop where
  /-- It has yielded the first nodes of the preorder. -/
  leads : root.Leads below yielded
  /-- It was asked in vain only when there were no more. -/
  length : vain ≠ 0 → yielded.length = below.length + 1
  gives : List.Forall₂ (Walk.Call.Gives setting slot) calls
    (yielded.map some ++ List.replicate vain none)
  /-- It has asked for the children of what it has yielded, once each and in this order. -/
  questions : calls.flatMap (·.questions setting slot) =
    yielded.map fun node => .children node.raw.value
  /-- All that is yet to come comes when it is asked for at once. -/
  rest : ∀ target args, ∃ rest v, state.ask setting (some slot) none target args "rest" =
      State.finish setting target
        { state with world := v, slots := state.slots.set slot (.walk ⟨[]⟩) }
        (.ok (.list .cursor rest)) ∧
    root.Leads below (yielded ++ rest) ∧ (yielded ++ rest).length = below.length + 1 ∧
    v.trace = (rest.map Cursor.visitEvent).reverse ++ state.world.trace

/-- How far a walk has come after some queries for its next node, and what came of these. -/
structure Walk.Course (setting : Setting) (slot : String) (root : Cursor) (below : List Visit)
    (calls : List Walk.Call) (state : State) (yielded : List Cursor) (vain : Nat) : Prop where
  progress : Walk.Progress setting slot root below yielded state
  spent : vain ≠ 0 → state.slots.get? slot = some (.walk ⟨[]⟩)
  gives : List.Forall₂ (Walk.Call.Gives setting slot) calls
    (yielded.map some ++ List.replicate vain none)
  questions : calls.flatMap (·.questions setting slot) =
    yielded.map fun node => .children node.raw.value

namespace Walk.Course

variable {slot : String} {root : Cursor} {below : List Visit} {calls : List Walk.Call}
variable {state after : State} {yielded : List Cursor} {vain : Nat}

theorem start (found : state.slots.get? slot = some (.walk ⟨[root]⟩)) :
    Course setting slot root below [] state [] 0 :=
  ⟨.start found, nofun, .nil, rfl⟩

/-- What lets a walk be does not change its course. -/
theorem congr (course : Course setting slot root below calls state yielded vain)
    (same : after.slots.get? slot = state.slots.get? slot) :
    Course setting slot root below calls after yielded vain :=
  ⟨course.progress.congr same, fun some => same.trans (course.spent some), course.gives,
    course.questions⟩

/-- Each query yields the next node and asks for its children, or it is in vain and asks nothing. -/
theorem next (course : Course setting slot root below calls state yielded vain)
    (grounded : setting.engine.Grounded root.raw.value)
    (preorder : setting.engine.Preorder (setting.engine.childReports root.raw.value) below)
    (loaded : state.world.loaded = true) {target : Option String} (args : Json)
    (spares : Spares slot target) :
    ∃ yielded' vain', Course setting slot root below (calls ++ [⟨state, target, args⟩])
      (Call.after setting slot ⟨state, target, args⟩) yielded' vain' := by
  by_cases ended : state.slots.get? slot = some (.walk ⟨[]⟩)
  · obtain ⟨nothing, silent, still⟩ : Call.Gives setting slot ⟨state, target, args⟩ none ∧ _ :=
      Progress.exhausted ended spares
    refine ⟨yielded, vain + 1, course.progress.congr (still.trans ended.symm), fun _ => still,
      ?_, ?_⟩
    · rw [List.replicate_succ', ← List.append_assoc]
      exact List.rel_append course.gives (.cons nothing .nil)
    · rw [List.flatMap_append, course.questions, List.flatMap_singleton, silent, List.append_nil]
  · obtain ⟨node, given, asked, further⟩ :
        ∃ node, Call.Gives setting slot ⟨state, target, args⟩ (some node) ∧ _ :=
      course.progress.next grounded preorder loaded ended spares
    -- Nothing was asked in vain as long as something is pending.
    obtain rfl : vain = 0 := by_contra fun some => ended (course.spent some)
    refine ⟨yielded ++ [node], 0, further, nofun, ?_, ?_⟩
    · have gives := course.gives
      rw [List.replicate_zero, List.append_nil] at gives ⊢
      rw [List.map_append]
      exact List.rel_append gives (.cons given .nil)
    · rw [List.flatMap_append, course.questions, List.flatMap_singleton, asked, List.map_append]
      rfl

theorem walked (course : Course setting slot root below calls state yielded vain)
    (grounded : setting.engine.Grounded root.raw.value)
    (preorder : setting.engine.Preorder (setting.engine.childReports root.raw.value) below)
    (loaded : state.world.loaded = true) :
    Session.Walked setting slot root below calls state yielded vain where
  leads := course.progress.leads
  length some := course.progress.length_eq (course.spent some)
  gives := course.gives
  questions := course.questions
  rest _ _ := course.progress.rest grounded preorder loaded

end Walk.Course

/-- However a session goes on, a walk goes through its tree. -/
theorem Session.Walking.walked {slot : String} {begin start state : State}
    {calls : List Walk.Call} {root : Cursor} {below : List Visit}
    (reached : Session.Reached setting begin start)
    (found : start.slots.get? slot = some (.walk ⟨[root]⟩))
    (grounded : setting.engine.Grounded root.raw.value)
    (preorder : setting.engine.Preorder (setting.engine.childReports root.raw.value) below)
    (walking : Session.Walking setting slot start calls state) :
    ∃ yielded vain, Session.Walked setting slot root below calls state yielded vain := by
  suffices run : ∃ yielded vain, Walk.Course setting slot root below calls state yielded vain by
    obtain ⟨yielded, vain, course⟩ := run
    obtain ⟨walk, held⟩ := course.progress.found
    exact ⟨yielded, vain, course.walked grounded preorder ((walking.reached reached).loaded held)⟩
  induction walking with
  | start => exact ⟨[], 0, .start found⟩
  | next target args walking spares ih =>
      obtain ⟨yielded, vain, course⟩ := ih
      obtain ⟨walk, held⟩ := course.progress.found
      exact course.next grounded preorder ((walking.reached reached).loaded held) args spares
  | aside _ aside ih =>
      obtain ⟨yielded, vain, course⟩ := ih
      obtain ⟨walk, held⟩ := course.progress.found
      exact ⟨yielded, vain, course.congr ((aside.kept setting held).trans held.symm)⟩
  | report _ ih | thread _ _ _ ih =>
      obtain ⟨yielded, vain, course⟩ := ih
      exact ⟨yielded, vain, course.congr rfl⟩

/-- To start a walk asks nothing, and the walk begins with the cursor that it was started from. -/
theorem State.ask_walk {state : State} {slot : String} {root : Cursor}
    (found : state.slots.get? slot = some (.cursor root)) (place : String) (args : Json) :
    state.ask setting (some slot) none (some place) args "walk_preorder" =
      finish setting (some place)
        { state with
          world := state.world.retainAll (refs root)
          slots := state.slots.set slot (.cursor root) }
        (.ok (.object (.walk ⟨[root]⟩))) := by
  have turned : ((Object.cursor root).steady (root.answer .walk)).exec setting state.world =
      (.ok ⟨.cursor root, .ok (.object (.walk ⟨[root]⟩))⟩, state.world.retainAll (refs root)) :=
    rfl
  rw [ask_alone found (by decide) (by rfl), turn_ok turned]

/-- A walk from a cursor goes through the tree of the cursor in preorder, if the tree ends and no null
cursor is reported in it. The preorder is that of the recursion: the cursor, and then the preorders
of its children, in the order in which they are visited. Its nodes are the places to which paths
lead, in the order of the paths, each once.

A walk starts over whenever it is asked for, and asks nothing until it goes on. However the session
goes on, and whatever else is asked in between, the first node is the cursor itself, which shares its
memo; every other one stands for what was visited, under the parent that was reported; and the walk
has asked for the children of the nodes that it has yielded, once each and in this order. When there
are no more nodes it yields none, and asks nothing. -/
theorem walks_in_preorder (setting : Setting) {begin state : State}
    (reached : Session.Reached setting begin state) {slot : String} {root : Cursor}
    (found : state.slots.get? slot = some (.cursor root))
    (grounded : setting.engine.Grounded root.raw.value) (place : String) (args : Json) :
    let started := (state.ask setting (some slot) none (some place) args "walk_preorder").1
    ∃ below, setting.engine.Preorder (setting.engine.childReports root.raw.value) below ∧
      (∀ other, setting.engine.Preorder (setting.engine.childReports root.raw.value) other →
        other = below) ∧
      (∃ paths : List (List Nat), paths.Pairwise (· < ·) ∧ List.Forall₂
          (setting.engine.Occurs (setting.engine.childReports root.raw.value)) paths below ∧
        ∀ path node, setting.engine.Occurs (setting.engine.childReports root.raw.value) path node →
          path ∈ paths) ∧
      (∀ c, ∀ visit ∈ setting.engine.childReports c,
        visit.parent = if (setting.engine.cursor c).orphanChildren then none else c) ∧
      started.slots.get? place = some (.walk ⟨[root]⟩) ∧
      (∃ events, started.world.trace = events ++ state.world.trace ∧
        events.filterMap Event.question? = []) ∧
      ∀ calls after, Session.Walking setting place started calls after →
        ∃ yielded vain, Session.Walked setting place root below calls after yielded vain := by
  intro started
  have asked : started = State.store
      { state with
        world := state.world.retainAll (refs root)
        slots := state.slots.set slot (.cursor root) } place (.walk ⟨[root]⟩) :=
    congrArg Prod.fst (State.ask_walk found place args)
  have walk : started.slots.get? place = some (.walk ⟨[root]⟩) := by
    rw [asked]
    exact Slots.get?_set ..
  obtain ⟨below, preorder⟩ := grounded.exists_preorder
  have reached' : Session.Reached setting begin started :=
    reached.ask (some slot) none (some place) args "walk_preorder"
  refine ⟨below, preorder, fun other preorder' => preorder'.unique preorder, preorder.occurrences,
    fun c visit reported => Engine.parent_of_mem_childReports reported, walk, ?_,
    fun calls after walking => walking.walked reached' walk grounded preorder⟩
  have silent := (State.sheds_store
    { state with
      world := state.world.retainAll (refs root)
      slots := state.slots.set slot (.cursor root) } place (.walk ⟨[root]⟩)).silent
  rwa [← asked, World.retainAll_eq] at silent

/-- A walk over a cursor with one child. -/
theorem walks_in_preorder_pair :
    let tables : Tables := {
      sources := [{ name := none, unit := some 0 }], units := #[{}]
      cursors := #[{ children := [some 1] }, {}] }
    let setting : Setting := ⟨⟨tables, []⟩, true⟩
    let begun := (({} : State).ask setting none none (some "i") .null "create_index").1
    let parsed := (begun.ask setting (some "i") none (some "u") .null "parse").1
    let state := (parsed.ask setting (some "u") none (some "c") .null "cursor").1
    ∃ root, state.slots.get? "c" = some (.cursor root) ∧ root.raw.value = some 0 ∧
      setting.engine.Grounded root.raw.value ∧
      setting.engine.Preorder (setting.engine.childReports root.raw.value)
        [⟨some 1, some 0⟩] ∧
      (state.ask setting (some "c") none (some "w") .null "walk_preorder").1.slots.get? "w" =
        some (.walk ⟨[root]⟩) := by
  intro tables setting begun parsed state
  have opened : state = Session.rooted := Session.opens_rooted rfl rfl rfl
  have reached : Session.Reached setting {} state := by
    rw [opened]
    exact .rooted rfl rfl rfl
  have found : state.slots.get? "c" = some (.cursor Session.firstRoot) := by
    rw [opened]
    rfl
  have leaf : setting.engine.Grounded (some 1) := .intro fun _ absent => nomatch absent
  have grounded : setting.engine.Grounded (some 0) := .intro fun visit reported => by
    obtain rfl : visit = ⟨some 1, some 0⟩ := List.mem_singleton.1 reported
    exact ⟨nofun, leaf⟩
  have nothing : setting.engine.Preorder (setting.engine.childReports (some 1)) [] := .nil
  have listed : setting.engine.Preorder [⟨some 1, some 0⟩] (⟨some 1, some 0⟩ :: ([] ++ [])) :=
    .cons nothing .nil
  obtain ⟨below, preorder, unique, -, -, walk, -⟩ :=
    walks_in_preorder setting reached found grounded "w" .null
  exact ⟨Session.firstRoot, found, rfl, grounded, unique _ listed ▸ preorder, walk⟩

end SourceAtlas
