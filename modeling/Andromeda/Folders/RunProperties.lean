import Andromeda.Folders.MoveProperties
import Andromeda.Folders.Scenario

/-! Runs of operations on a tree: every item has one place in it at any time, and a rename or a
move takes no other item out of it than the one it replaces. -/

set_option autoImplicit false

namespace Andromeda.Folders

open Andromeda.Library

variable {β : Type} {world final : World β} {root ref target : Ref} {name : String}
  (calls : Calls β)

/-- The worlds a rename or a move goes through while it loads folders. -/
def Op.stages (world : World β) : Op → List (World β)
  | .rename item _ _ =>
    match (world.heap item).parent with
    | some parent => [loadedWorld calls parent true world]
    | none => []
  | .move item newParent _ =>
    match (world.heap item).parent with
    | some parent =>
      let first := loadedWorld calls parent false world
      [first, loadedWorld calls newParent false first]
    | none => []
  | _ => []

/-- The world in which a rename or a move takes its effect. -/
def Op.loaded (world : World β) (op : Op) : World β := (op.stages calls world).getLastD world

/-- The item that a rename or a move concerns, and the place it shall have. -/
def Op.place (world : World β) : Op → Option (Ref × Ref × String)
  | .rename item newName _ =>
    (world.heap item).parent.map fun parent => (item, parent, newName)
  | .move item newParent _ => some (item, newParent, (world.heap item).name)
  | _ => none

/-- A caller holds the scope locks of the items it passes to a call: they are in the tree, and
the loading of folders does not delete those that a move concerns. -/
def Op.Held (root : Ref) (world : World β) : Op → Prop
  | .load folder => world.Alive root folder
  | .loadFrom folder _ => world.Alive root folder
  | .createFile folder _ => world.Alive root folder
  | .createFolder folder _ => world.Alive root folder
  | .delete item => world.Alive root item
  | .rename item _ _ => world.Alive root item
  | .move item newParent overwrite => world.Alive root item ∧ world.Alive root newParent ∧
    ∀ stage ∈ Op.stages calls world (.move item newParent overwrite),
      stage.Alive root item ∧ stage.Alive root newParent
  | .flush file => world.Alive root file

/-- The new parent is inside the item, or the item inside what it would replace. -/
def Nested (world : World β) (item newParent : Ref) (name : String) : Prop :=
  world.owns.Under item newParent ∨
    ∃ replaced, world.owns newParent name = some replaced ∧ world.owns.Under replaced item

/-- The backend refuses to move an item into itself or over a folder it is in. -/
def Op.RefusesNested (world : World β) : Op → Prop
  | .move item newParent overwrite =>
    Nested (Op.loaded calls world (.move item newParent overwrite)) item newParent
        (world.heap item).name →
      ∃ exception final, Op.run calls (.move item newParent overwrite) world =
        .error exception final
  | _ => True

/-- A call removes what is in a place, with what that owns, and nothing else. -/
def Replaces (world : World β) (root target : Ref) (name : String) (final : World β) : Prop :=
  ∀ ref, final.Alive root ref ↔ world.Alive root ref ∧
    ∀ replaced, world.owns target name = some replaced → ¬ world.owns.Under replaced ref

/-- A rename or a move that throws leaves the tree as it was or as it was loaded; one that
returns has done nothing, or has removed what it replaces, and its item is still there. -/
def Op.Exact (root : Ref) (world : World β) (op : Op) : Prop :=
  ∀ item target name, op.place world = some (item, target, name) →
    (∀ exception final, op.run calls world = .error exception final →
      ∃ stage ∈ world :: op.stages calls world, SameTree stage final) ∧
    ∀ final, op.run calls world = .ok () final → final = world ∨
      Replaces (op.loaded calls world) root target name final ∧ final.Alive root item

/-- Every item is in one map only, under its own name, and that map is its parent's. -/
def UniquePlace (world : World β) (root : Ref) : Prop :=
  (∀ folder name, world.Alive root folder → world.owns folder name ≠ some root) ∧
  ∀ item, world.Alive root item → item ≠ root →
    ∃ folder, world.Alive root folder ∧ (world.heap item).parent = some folder ∧
      world.owns folder (world.heap item).name = some item ∧
      ∀ other name, world.Alive root other → world.owns other name = some item →
        other = folder ∧ name = (world.heap item).name

private theorem WellFormed.uniquePlace (formed : WellFormed world root) :
    UniquePlace world root := by
  refine ⟨fun folder name above => formed.sole.root_free folder name above, ?_⟩
  intro item alive other
  rcases alive.has_owner with rfl | ⟨owner, key, above, entry⟩
  · exact absurd rfl other
  · obtain ⟨named, parented, -⟩ := formed.entry owner key item above entry
    rw [named]
    exact ⟨owner, above, parented, entry, fun upper key' above' entry' =>
      formed.sole.place upper owner key' key item above' above entry' entry⟩

private theorem Rekeyed.replaces {middle loaded : World β} {source : Ref} {oldName newName : String}
    (rekeyed : Rekeyed middle ref source target oldName newName final)
    (formed : WellFormed middle root) (tree : SameTree loaded middle)
    (allowed : Owners.Allowed middle.owns root ref source target newName) {change : Item → Item}
    (items : (change (final.heap ref)).items = (final.heap ref).items)
    (renamed : (change (final.heap ref)).name = newName)
    (parent : (change (final.heap ref)).parent = some target) :
    WellFormed (final.setItem ref change) root ∧
      Replaces loaded root target newName (final.setItem ref change) ∧
      (final.setItem ref change).Alive root ref := by
  obtain ⟨formed', owns⟩ := rekeyed.wellFormed formed allowed items renamed parent
  have alive_iff : Replaces loaded root target newName (final.setItem ref change) := by
    intro other
    rw [World.Alive, owns, rekeyed.relinked.alive_iff allowed, World.Alive, tree.owns]
  refine ⟨formed', alive_iff, ?_⟩
  rw [World.Alive, owns]
  have above := rekeyed.relinked.alive_outside allowed.target_alive allowed.not_inside
    fun replaced entry below => allowed.sole.acyclic allowed.target_alive entry below
  exact above.child rekeyed.relinked.placed

private theorem rename_spec (newName : String) (overwrite : Bool) (formed : WellFormed world root)
    (alive : world.Alive root ref) {parent : Ref}
    (parented : (world.heap ref).parent = some parent) :
    Outcome (rename calls ref newName overwrite) world
      (fun _ final => WellFormed final root ∧ (final = world ∨
        Replaces (loadedWorld calls parent true world) root parent newName final ∧
          final.Alive root ref))
      (fun _ final => WellFormed final root ∧
        (SameTree world final ∨ SameTree (loadedWorld calls parent true world) final)) := by
  have threw : WellFormed world root ∧
      (SameTree world world ∨ SameTree (loadedWorld calls parent true world) world) :=
    ⟨formed, Or.inl (.refl world)⟩
  unfold rename
  rw [Outcome.bind_iff, getItem_iff, Outcome.ite_iff]
  refine ⟨fun different => ?_, fun _ => ⟨formed, Or.inl rfl⟩⟩
  rw [Outcome.bind_iff, validateName_iff]
  refine ⟨fun _ => ?_, fun _ => threw⟩
  rw [Outcome.bind_iff, getParent_iff]
  refine ⟨fun parent' found => ?_, fun _ => threw⟩
  rw [parented, Option.some_inj] at found
  subst found
  obtain ⟨above, entry⟩ := formed.placed alive parented
  rw [Outcome.bind_iff, getItem_iff, Outcome.bind_iff]
  refine (renameItem_spec calls overwrite formed above entry (Ne.symm different)).mono ?_
    fun _ _ => id
  rintro _ final ⟨middle, tree, formed', above', rekeyed⟩
  rw [setItem_iff]
  have present := rekeyed.relinked.entry
  have allowed : Owners.Allowed middle.owns root ref parent parent newName :=
    { sole := formed'.sole
      source_alive := above'
      target_alive := above'
      not_inside := formed'.sole.acyclic above' present
      not_replaced := fun replaced entry => formed'.sole.acyclic above' entry }
  have parent' : (final.heap ref).parent = some parent := by
    rw [rekeyed.parent]
    exact (formed'.entry parent _ ref above' present).2.1
  obtain ⟨formed'', done⟩ := @Rekeyed.replaces _ _ _ _ _ _ _ _ _ _ rekeyed formed' tree allowed
    (fun item => { item with name := newName }) rfl rfl parent'
  exact ⟨formed'', Or.inr done⟩

variable {calls}

private theorem move_spec (echoes : Echoes calls) (newParent : Ref) (overwrite : Bool)
    (formed : WellFormed world root) (alive : world.Alive root ref) {parent : Ref}
    (parented : (world.heap ref).parent = some parent)
    (first : (loadedWorld calls parent false world).Alive root newParent)
    (second : (loadedWorld calls newParent false
      (loadedWorld calls parent false world)).Alive root ref)
    (second' : (loadedWorld calls newParent false
      (loadedWorld calls parent false world)).Alive root newParent) :
    Outcome (move calls ref newParent overwrite) world
      (fun _ final => ¬ Nested (loadedWorld calls newParent false
          (loadedWorld calls parent false world)) ref newParent (world.heap ref).name →
        WellFormed final root ∧ (final = world ∨
        Replaces (loadedWorld calls newParent false (loadedWorld calls parent false world)) root
          newParent (world.heap ref).name final ∧ final.Alive root ref))
      (fun _ final => WellFormed final root ∧ (SameTree world final ∨
        SameTree (loadedWorld calls parent false world) final ∨
        SameTree (loadedWorld calls newParent false (loadedWorld calls parent false world))
          final)) := by
  unfold move
  rw [Outcome.bind_iff, getParent_iff]
  refine ⟨fun parent' found => ?_, fun _ => ⟨formed, Or.inl (.refl world)⟩⟩
  rw [parented, Option.some_inj] at found
  subst found
  rw [Outcome.ite_iff]
  refine ⟨fun different => ?_, fun _ _ => ⟨formed, Or.inl rfl⟩⟩
  obtain ⟨above, entry⟩ := formed.placed alive parented
  rw [Outcome.bind_iff, getItem_iff, Outcome.bind_iff]
  refine (moveItem_spec echoes overwrite formed above entry first different).mono ?_
    fun _ _ => id
  rintro _ final ⟨middle, tree, formed', kept, rekeyed⟩
  rw [setItem_iff]
  intro apart
  have present := rekeyed.relinked.entry
  have alive' : middle.Alive root ref := tree.alive second
  have above' : middle.Alive root parent := (formed'.placed alive' (kept.trans parented)).1
  have allowed : Owners.Allowed middle.owns root ref parent newParent (world.heap ref).name :=
    { sole := formed'.sole
      source_alive := above'
      target_alive := tree.alive second'
      not_inside := fun below => apart (Or.inl (by rw [← tree.owns]; exact below))
      not_replaced := fun replaced entry below => apart (Or.inr ⟨replaced, by
        rw [← tree.owns]; exact entry, by rw [← tree.owns]; exact below.child present⟩) }
  have named : (final.heap ref).name = (world.heap ref).name := by
    rw [rekeyed.name]
    exact (formed'.entry parent _ ref above' present).1
  obtain ⟨formed'', done⟩ := @Rekeyed.replaces _ _ _ _ _ _ _ _ _ _ rekeyed formed' tree allowed
    (fun item => { item with parent := some newParent }) rfl named rfl
  exact ⟨formed'', Or.inr done⟩

private theorem rename_unparented (newName : String) (overwrite : Bool)
    (unparented : (world.heap ref).parent = none) :
    Outcome (rename calls ref newName overwrite) world (fun _ final => final = world)
      (fun _ final => final = world) := by
  unfold rename
  rw [Outcome.bind_iff, getItem_iff, Outcome.ite_iff]
  refine ⟨fun _ => ?_, fun _ => rfl⟩
  rw [Outcome.bind_iff, validateName_iff]
  refine ⟨fun _ => ?_, fun _ => rfl⟩
  rw [Outcome.bind_iff, getParent_iff]
  refine ⟨fun parent found => ?_, fun _ => rfl⟩
  rw [unparented] at found
  cases found

private theorem move_unparented (newParent : Ref) (overwrite : Bool)
    (unparented : (world.heap ref).parent = none) :
    Outcome (move calls ref newParent overwrite) world (fun _ _ => False)
      (fun _ final => final = world) := by
  unfold move
  rw [Outcome.bind_iff, getParent_iff]
  refine ⟨fun parent found => ?_, fun _ => rfl⟩
  rw [unparented] at found
  cases found

private theorem rename_exact (newName : String) (overwrite : Bool) (formed : WellFormed world root)
    (alive : world.Alive root ref) :
    WellFormed (step calls world (.rename ref newName overwrite)) root ∧
      (Op.rename ref newName overwrite).Exact calls root world := by
  cases parented : (world.heap ref).parent with
  | none =>
      have outcome := @rename_unparented β world ref calls newName overwrite parented
      refine ⟨?_, fun item target name found => ?_⟩
      · rw [step, Op.run]
        cases ran : rename calls ref newName overwrite world with
        | ok value final => exact outcome.of_ok ran ▸ formed
        | error exception final => exact outcome.of_error ran ▸ formed
      · rw [Op.place, parented] at found
        cases found
  | some parent =>
      have outcome := rename_spec calls newName overwrite formed alive parented
      refine ⟨?_, fun item target name found => ?_⟩
      · rw [step, Op.run]
        cases ran : rename calls ref newName overwrite world with
        | ok value final => exact (outcome.of_ok ran).1
        | error exception final => exact (outcome.of_error ran).1
      · simp only [Op.place, parented, Option.map_some, Option.some_inj, Prod.mk.injEq] at found
        obtain ⟨rfl, rfl, rfl⟩ := found
        simp only [Op.loaded, Op.stages, parented, List.getLastD_cons, List.getLastD_nil,
          List.mem_cons, List.not_mem_nil, or_false, exists_eq_or_imp, exists_eq_left]
        exact ⟨fun _ final ran => (outcome.of_error ran).2,
          fun final ran => (outcome.of_ok ran).2⟩

private theorem move_exact (echoes : Echoes calls) (newParent : Ref) (overwrite : Bool)
    (formed : WellFormed world root)
    (held : (Op.move ref newParent overwrite).Held calls root world)
    (refuses : (Op.move ref newParent overwrite).RefusesNested calls world) :
    WellFormed (step calls world (.move ref newParent overwrite)) root ∧
      (Op.move ref newParent overwrite).Exact calls root world := by
  obtain ⟨alive, -, stages⟩ := held
  cases parented : (world.heap ref).parent with
  | none =>
      have outcome := @move_unparented β world ref calls newParent overwrite parented
      refine ⟨?_, fun item target name _ => ⟨fun _ final ran => ?_, fun final ran => ?_⟩⟩
      · rw [step, Op.run]
        cases ran : move calls ref newParent overwrite world with
        | ok value final => exact (outcome.of_ok ran).elim
        | error exception final => exact outcome.of_error ran ▸ formed
      · exact ⟨world, List.mem_cons_self, outcome.of_error ran ▸ .refl world⟩
      · exact (outcome.of_ok ran).elim
  | some parent =>
      simp only [Op.stages, parented, List.mem_cons, List.not_mem_nil, or_false,
        forall_eq_or_imp, forall_eq] at stages
      simp only [Op.RefusesNested, Op.loaded, Op.stages, parented, List.getLastD_cons,
        List.getLastD_nil] at refuses
      have outcome := move_spec echoes newParent overwrite formed alive parented stages.1.2
        stages.2.1 stages.2.2
      have returned : ∀ final, move calls ref newParent overwrite world = .ok () final →
          ¬ Nested (loadedWorld calls newParent false (loadedWorld calls parent false world))
            ref newParent (world.heap ref).name := by
        intro final ran nested
        obtain ⟨exception, stop, threw⟩ := refuses nested
        rw [Op.run, ran] at threw
        cases threw
      refine ⟨?_, fun item target name found => ?_⟩
      · rw [step, Op.run]
        cases ran : move calls ref newParent overwrite world with
        | ok value final => exact (outcome.of_ok ran (returned final ran)).1
        | error exception final => exact (outcome.of_error ran).1
      · simp only [Op.place, Option.some_inj, Prod.mk.injEq] at found
        obtain ⟨rfl, rfl, rfl⟩ := found
        simp only [Op.loaded, Op.stages, parented, List.getLastD_cons, List.getLastD_nil,
          List.mem_cons, List.not_mem_nil, or_false, exists_eq_or_imp, exists_eq_left]
        exact ⟨fun _ final ran => (outcome.of_error ran).2,
          fun final ran => (outcome.of_ok ran (returned final ran)).2⟩

private theorem run_spec (echoes : Echoes calls) (op : Op) (formed : WellFormed world root)
    (held : op.Held calls root world) (refuses : op.RefusesNested calls world) :
    WellFormed (step calls world op) root ∧ op.Exact calls root world := by
  -- a call that is neither a rename nor a move
  have plain : op.place world = none →
      Outcome (op.run calls) world (fun _ final => WellFormed final root)
        (fun _ final => WellFormed final root) →
      WellFormed (step calls world op) root ∧ op.Exact calls root world := by
    intro placeless outcome
    refine ⟨?_, fun item target name found => ?_⟩
    · rw [step]
      cases ran : op.run calls world with
      | ok value final => exact outcome.of_ok ran
      | error exception final => exact outcome.of_error ran
    · rw [placeless] at found
      cases found
  cases op with
  | load folder =>
      exact plain rfl ((loadItems_tree calls true formed held).mono (fun _ _ result => result.1)
        fun _ _ result => result.1)
  | loadFrom folder data =>
      exact plain rfl ((loadItemsFrom_tree calls data formed held).mono
        (fun _ _ result => result.1) fun _ _ result => result.1)
  | createFile folder name =>
      exact plain rfl (createItem_wellFormed
        (fun _ formed made => subCreateFile_wellFormed name formed made) formed held)
  | createFolder folder name =>
      exact plain rfl (createItem_wellFormed
        (fun _ formed made => subCreateFolder_wellFormed name formed made) formed held)
  | delete item => exact plain rfl (delete_wellFormed formed held)
  | flush file =>
      exact plain rfl ((flushCache_sameTree echoes file world).mono
        (fun _ _ same => same.wellFormed formed) fun _ _ same => same.wellFormed formed)
  | rename item newName overwrite => exact rename_exact newName overwrite formed held
  | move item newParent overwrite => exact move_exact echoes newParent overwrite formed held refuses

private theorem opened_wellFormed (id : String) (config : Option FSConfig) (outside : β) :
    WellFormed (World.opened id config outside) 0 := by
  refine ⟨Nat.one_pos, rfl, fun folder name ref _ entry => ?_⟩
  cases entry

/-- After every run of calls, each of which may throw, on items that the tree has: every item
has its one place, and the next rename or move removes what it replaces and nothing else. -/
theorem run_uniquePlace (echoes : Echoes calls) (id : String) (config : Option FSConfig)
    (outside : β) {ops : List Op}
    (each : EachStep (step calls) (fun world op => op.Held calls 0 world ∧
      op.RefusesNested calls world) (World.opened id config outside) ops) :
    let world := ops.foldl (step calls) (World.opened id config outside)
    UniquePlace world 0 ∧ ∀ op : Op, op.Held calls 0 world → op.RefusesNested calls world →
      op.Exact calls 0 world := by
  intro world
  have keep : ∀ (world : World β) (op : Op), op.Held calls 0 world ∧ op.RefusesNested calls world →
      WellFormed world 0 → WellFormed (step calls world op) 0 :=
    fun world op condition formed => (run_spec echoes op formed condition.1 condition.2).1
  have formed : WellFormed world 0 :=
    run_preserves keep (opened_wellFormed id config outside) each
  exact ⟨formed.uniquePlace, fun op held refuses => (run_spec echoes op formed held refuses).2⟩

namespace Scenario

private theorem echoes : Echoes Scenario.calls where
  createFile := by
    intro _ name _ data _ returned
    cases returned
    rfl
  uploadFile := by
    intro _ name _ data _ returned
    cases returned
    rfl

/-- A folder and a file are made, and the file is moved into the folder and renamed. -/
def moves : List Op :=
  [.createFolder 0 "a", .createFile 0 "b", .move 2 1 false, .rename 2 "c" true]

theorem moves_uniquePlace :
    UniquePlace (moves.foldl (step Scenario.calls) (World.opened "" none ())) 0 := by
  have child : ∀ {world : World Unit} {folder item : Ref} (name : String),
      world.Alive 0 folder → world.owns folder name = some item → world.Alive 0 item :=
    fun _ above entry => Owners.Under.child above entry
  have root : ∀ world : World Unit, world.Alive 0 0 := fun _ => .refl
  have each : EachStep (step Scenario.calls) (fun world op => op.Held Scenario.calls 0 world ∧
      op.RefusesNested Scenario.calls world) (World.opened "" none ()) moves := by
    refine ⟨⟨root _, trivial⟩, ⟨root _, trivial⟩, ⟨⟨?_, ?_, ?_⟩, ?_⟩, ⟨?_, trivial⟩, trivial⟩
    · exact child "b" (root _) rfl
    · exact child "a" (root _) rfl
    · intro stage member
      rcases List.mem_cons.mp member with rfl | member
      · exact ⟨child "b" (root _) rfl, child "a" (root _) rfl⟩
      · rcases List.mem_cons.mp member with rfl | member
        · exact ⟨child "b" (root _) rfl, child "a" (root _) rfl⟩
        · exact absurd member List.not_mem_nil
    · intro nested
      rcases nested with below | ⟨replaced, entry, -⟩
      · cases below.eq_of_empty fun _ => rfl
      · cases entry
    · exact child "b" (child "a" (root _) rfl) rfl
  exact (run_uniquePlace echoes "" none () each).1

/-- A server that gives a new file another name than it was asked to. -/
def renamingServer : Calls Unit :=
  { Scenario.calls with createFile := fun _ name => pure (dataOf name "c") }

/-- A folder and a file are made, and the file is created on the server when it is moved. -/
def created : List Op := [.createFolder 0 "a", .createFile 0 "b", .move 2 1 false]

/-- The file takes the name of the server's answer and stays under the one it was made with. -/
theorem created_misplaced :
    EachStep (step renamingServer) (fun world op => op.Held renamingServer 0 world ∧
        op.RefusesNested renamingServer world) (World.opened "" none ()) created ∧
      ¬ UniquePlace (created.foldl (step renamingServer) (World.opened "" none ())) 0 := by
  have child : ∀ {world : World Unit} {folder item : Ref} (name : String),
      world.Alive 0 folder → world.owns folder name = some item → world.Alive 0 item :=
    fun _ above entry => Owners.Under.child above entry
  have root : ∀ world : World Unit, world.Alive 0 0 := fun _ => .refl
  refine ⟨⟨⟨root _, trivial⟩, ⟨root _, trivial⟩, ⟨⟨?_, ?_, ?_⟩, ?_⟩, trivial⟩, fun unique => ?_⟩
  · exact child "b" (root _) rfl
  · exact child "a" (root _) rfl
  · intro stage member
    rcases List.mem_cons.mp member with rfl | member
    · exact ⟨child "b" (root _) rfl, child "a" (root _) rfl⟩
    · rcases List.mem_cons.mp member with rfl | member
      · exact ⟨child "b" (root _) rfl, child "a" (root _) rfl⟩
      · exact absurd member List.not_mem_nil
  · intro nested
    rcases nested with below | ⟨replaced, entry, -⟩
    · cases below.eq_of_empty fun _ => rfl
    · cases entry
  · have folder : (created.foldl (step renamingServer) (World.opened "" none ())).Alive 0 1 :=
      child "a" (root _) rfl
    obtain ⟨_, _, _, _, only⟩ := unique.2 2 (child "b" folder rfl) (by decide)
    exact absurd (only 1 "b" folder rfl).2 (by decide +kernel)

end Scenario

end Andromeda.Folders
