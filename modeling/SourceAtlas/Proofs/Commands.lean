import SourceAtlas.Proofs.Acquire
import SourceAtlas.Entity.Database

/-!
# Compilation databases in lockstep

Two runs open corresponding databases, and get alike lists of commands from them. A database that
comes with a problem is given back by both.
-/

namespace SourceAtlas

open Duo

variable {D : Duo} {H F : Grip} {engine : Engine} {held : Held}

/-! ## Commands -/

namespace CompileCommand

variable {command command' : CompileCommand}

theorem pair_list (pair : D.Pair H command command') : D.Pair H command.list command'.list :=
  ⟨⟨trivial, pair.left.within⟩, ⟨trivial, pair.right.within⟩, pair.alike.2⟩

theorem lends_origin (usable : Usable engine held command) : Lends held command.raw.origin :=
  have origin : command.raw.origin = command.list.resource := usable.coherent
  ⟨_, usable.within _ (.head _), congrArg some origin.symm⟩

theorem rawPair (pair : D.Pair H command command') : D.RawPair H command.raw command'.raw :=
  ⟨lends_origin pair.left, lends_origin pair.right, pair.alike.1⟩

theorem same_directory (pair : D.Pair H command command') :
    D.Same H F command.directory command'.directory :=
  ((rawPair pair).same_ask _ _).bind fun _ => same_text _

theorem same_filename (pair : D.Pair H command command') :
    D.Same H F command.filename command'.filename :=
  ((rawPair pair).same_ask _ _).bind fun _ => same_text _

theorem same_arguments (pair : D.Pair H command command') :
    D.Same H F command.arguments command'.arguments :=
  ((rawPair pair).same_ask _ _).bind fun _ => same_mapM (List.forall₂_same.2 fun _ _ =>
    ((rawPair pair).same_ask _ _).bind fun _ => same_text _)

theorem same_inspect (pair : D.Pair H command command') :
    D.Same H F command.inspect command'.inspect :=
  (same_directory pair).bind fun _ => (same_filename pair).bind fun _ => (same_arguments pair).map _

end CompileCommand

/-! ## Lists of commands -/

namespace CommandList

variable {list list' : CommandList}

theorem lends (pair : D.Pair H list list') : H.Lends list.resource list'.resource :=
  ⟨⟨_, pair.left.within _ (.head _), rfl⟩, ⟨_, pair.right.within _ (.head _), rfl⟩⟩

theorem same_length (pair : D.Pair H list list') : D.Same H F list.length list'.length := by
  unfold length
  rw [pair.alike.2.2]
  exact (same_ask_one (lends pair) _).map _

/-- A command belongs to its list. -/
theorem pair_command (pair : D.Pair H list list') (entry : Option CommandEntry) :
    D.Pair H (entry.map fun entry => (⟨⟨entry, list.resource⟩, list⟩ : CompileCommand))
      (entry.map fun entry => ⟨⟨entry, list'.resource⟩, list'⟩) := by
  cases entry with
  | none => exact pair_absent
  | some entry =>
      refine ⟨⟨?_, pair.left.within⟩, ⟨?_, pair.right.within⟩,
        .some ⟨⟨rfl, pair.alike.1⟩, pair.alike⟩⟩ <;>
      · rintro _ ⟨⟩
        rfl

theorem shares_command? (pair : D.Pair H list list') (i : Nat) :
    D.Shares H F (list.command? i) (list'.command? i) := by
  refine (same_length pair).bind fun n => ?_
  rw [pair.alike.2.2]
  split
  · exact (same_ask_one (lends pair) _).bind fun _ => Runs.pure (pair_command pair _) rfl
  · exact Runs.pure pair_absent rfl

theorem gives_get? (pair : D.Pair H list list') (i : Nat) :
    D.Gives H F (list.get? i) (list'.get? i) :=
  (shares_command? pair i).bind fun _ _ command => gives_keep command

theorem gives_toList (pair : D.Pair H list list') : D.Gives H F list.toList list'.toList :=
  (same_length pair).bind fun _ => (gives_mapM (List.forall₂_same.2 fun i _ _ le =>
    gives_get? (pair.mono le) i)).filterMap

theorem same_inspect (pair : D.Pair H list list') : D.Same H F list.inspect list'.inspect :=
  (same_length pair).bind fun _ => (same_mapM (List.forall₂_same.2 fun i _ =>
    (shares_command? pair i).bind fun _ _ command =>
      same_optionMapM (command.option CompileCommand.same_inspect))).map _

end CommandList

/-! ## Databases -/

namespace Database

variable {database database' : Database}

theorem within (usable : Usable engine held database) : Within held (.database database) :=
  usable.within _ (.head _)

/-- A database borrows from nothing. -/
theorem founds (engine : Engine) (held : Held) (entry : DatabaseEntry) :
    Founds engine held .database [] .database fun c r => .database ⟨c, r, entry⟩ where
  cell _ _ := rfl
  kind _ _ := rfl
  describes _ _ _ := ⟨rfl, trivial⟩
  within member := absurd member List.not_mem_nil
  known _ _ _ member := absurd member List.not_mem_nil
  fresh := nofun

theorem gives_openIn (directory : Bytes) : D.Gives H H (openIn directory) (openIn directory) := by
  refine same_load.bind fun _ => ?_
  cases directory.nulPosition? with
  | some position => exact Runs.fail _
  | none =>
      intro base
      refine (lockstep_request (.openDatabase directory) (.openDatabase directory) rfl rfl nofun
        nofun (fun lends => absurd rfl lends) fun lends => absurd rfl lends).bind fun _ _ =>
        lockstep_engine_bind ?_
      cases D.engine.database directory with
      | none => exact fun w w' asked => .inr ⟨_, w, w', rfl, rfl, asked.holds⟩
      | some found =>
          obtain ⟨label, entry⟩ := found
          dsimp only
          split
          next =>
            split
            next =>
              exact lockstep_own_asked (founds _ _ entry) (founds _ _ entry) (by nofun) rfl
                (fun c r => (⟨c, r, entry⟩ : Database)) (fun c r => ⟨c, r, entry⟩) (fun _ _ => rfl)
                (fun _ _ => rfl) fun c r c' r' renamed => ⟨trivial, trivial, renamed, rfl⟩
            next =>
              exact fun w w' asked => lockstep_refuse
                (fun _ absent => absurd absent List.not_mem_nil)
                (fun _ absent => absurd absent List.not_mem_nil) w w'
                (asked.numbered label (by nofun))
          next => exact fun w w' asked => .inr ⟨_, w, w', rfl, rfl, asked.holds⟩

/-- A list of commands borrows from its database. -/
theorem founds_commands (usable : Usable engine held database) (commands : CommandEntries) :
    Founds engine held .commands [database.resource] (.commands database)
      fun c r => .commands ⟨c, r, database, commands⟩ where
  cell _ _ := rfl
  kind _ _ := rfl
  describes _ _ _ := ⟨rfl, rfl⟩
  within member := List.mem_singleton.1 member ▸ within usable
  known _ _ := List.forall_mem_singleton.2 rfl
  fresh := nofun

theorem lendsTo (usable : Usable engine held database) :
    ∀ s ∈ [database.resource], LendsTo held (some .database) s :=
  List.forall_mem_singleton.2 ⟨_, within usable, rfl, rfl⟩

theorem lockstep_listOf? {base : Facts} (pair : D.Pair H database database')
    (commands : Option CommandEntries) :
    D.Lockstep (D.Asked base H .commands [database.resource] [database'.resource])
      (database.listOf? commands) (database'.listOf? commands)
      (fun a b w w' => D.Match a b ∧ D.Holds base (H.add a b) w w') (D.Holds base F) := by
  unfold listOf?
  cases commands with
  | none => exact lockstep_null
  | some commands =>
      refine lockstep_countList.bind fun label label' => ?_
      exact lockstep_own (founds_commands pair.left commands) (founds_commands pair.right commands)
        (f := fun c r => some (⟨c, r, database, commands⟩ : CommandList))
        (g := fun c r => some (⟨c, r, database', commands⟩ : CommandList))
        (fun _ _ => rfl) (fun _ _ => rfl) fun c r c' r' renamed =>
          Match.some ⟨trivial, trivial, renamed, pair.alike, rfl⟩

theorem gives_commandsFor (pair : D.Pair H database database') (file : Bytes) :
    D.Gives H H (database.commandsFor file) (database'.commandsFor file) := by
  unfold commandsFor
  cases file.nulPosition? with
  | some position => exact Runs.fail _
  | none =>
      intro base
      rw [← pair.alike.2]
      exact (lockstep_request (.findCommands database.resource file)
        (.findCommands database'.resource file) rfl rfl (lendsTo pair.left)
        (lendsTo pair.right) (by nofun) (by nofun)).bind fun _ _ => lockstep_listOf? pair _

theorem gives_allCommands (pair : D.Pair H database database') :
    D.Gives H F database.allCommands database'.allCommands := by
  intro base
  unfold allCommands
  rw [← pair.alike.2]
  exact (lockstep_ask (lendsTo pair.left) (lendsTo pair.right) (fun _ _ => ⟨rfl, rfl⟩) (by nofun)
    (by nofun) (unmixed_singleton _) (unmixed_singleton _)).bind fun _ _ => lockstep_listOf? pair _

end Database

end SourceAtlas
