import Andromeda.Folders.Scenario
import Andromeda.Folders.TransferProperties

/-! Runs of operations against a backend directory: the tree keeps the children that the backend
has, as long as no file that is not created yet replaces one that is. -/

set_option autoImplicit false

namespace Andromeda.Folders

open Andromeda.Library

variable {β : Type} {world : World β} {root : Ref} {rootId : String}

/-- A call is made on items that the tree has, of the type that it is a function of. -/
def Op.Passes (root : Ref) (world : World β) : Op → Prop
  | .load folder => world.Alive root folder ∧ (world.heap folder).kind = .folder
  | .loadFrom _ _ => False
  | .createFile folder _ => world.Alive root folder ∧ (world.heap folder).kind = .folder
  | .createFolder folder _ => world.Alive root folder ∧ (world.heap folder).kind = .folder
  | .delete item => world.Alive root item
  | .rename item _ _ => world.Alive root item
  | .move item newParent _ => world.Alive root item ∧ world.Alive root newParent ∧
    (world.heap newParent).kind = .folder
  | .flush file => world.Alive root file ∧ (world.heap file).kind = .file

/-- A call returns normally. -/
def Op.Returns (calls : Calls β) (world : World β) (op : Op) : Prop :=
  ∃ final, op.run calls world = .ok () final

/-- The backend has nothing in the new place of a renamed file that it does not have itself. -/
def Op.Clear (content : β → Entries) (world : World β) : Op → Prop
  | .rename item newName _ => (world.heap item).isPending = true → ∀ parent,
    (world.heap item).parent = some parent →
      content world.outside (world.heap parent).id newName = none
  | _ => True

/-- The names and IDs of the backend's children of a folder are those of the items in its map
that exist on the backend, for each folder that was loaded. -/
def Refines (world : World β) (root : Ref) (content : β → Entries) : Prop :=
  ∀ folder, world.Alive root folder → (world.heap folder).haveItems = true → ∀ name id,
    content world.outside (world.heap folder).id name = some id ↔
      ∃ ref, world.owns folder name = some ref ∧ (world.heap ref).isPending = false ∧
        (world.heap ref).id = id

variable {calls : Calls β} {content : β → Entries}

private theorem MirrorsAt.refines (mirrors : Mirrors world root rootId (content world.outside)) :
    Refines world root content := by
  intro folder alive loaded name id
  constructor
  · exact mirrors.found alive loaded
  · rintro ⟨ref, entry, exist, rfl⟩
    exact mirrors.stored alive entry exist

theorem isPending_of_folder {item : Item} (kind : item.kind = .folder) : item.isPending = false := by
  rw [Item.isPending, kind]
  rfl

section

variable (directory : Directory calls rootId content)

include directory

private theorem run_mirrors (op : Op) (mirrors : Mirrors world root rootId (content world.outside))
    (passes : op.Passes root world) (clear : op.Clear content world) :
    Outcome (op.run calls) world
      (fun _ final => Mirrors final root rootId (content final.outside)) (fun _ _ => True) := by
  cases op with
  | load folder =>
      exact (loadItems_mirrors directory true mirrors passes.1
        (isPending_of_folder passes.2)).mono (fun _ _ result => result.1) fun _ _ => id
  | loadFrom folder data => exact passes.elim
  | createFile folder name =>
      exact createItem_mirrors directory
        (fun _ mirrors alive loaded free => subCreateFile_mirrors directory mirrors alive loaded free)
        mirrors passes.1 (isPending_of_folder passes.2)
  | createFolder folder name =>
      exact createItem_mirrors directory
        (fun _ mirrors alive loaded free =>
          subCreateFolder_mirrors directory mirrors alive loaded free)
        mirrors passes.1 (isPending_of_folder passes.2)
  | delete item => exact delete_mirrors directory mirrors passes
  | rename item newName overwrite => exact rename_mirrors directory mirrors passes clear
  | move item newParent overwrite =>
      exact move_mirrors directory mirrors passes.1 passes.2.1 (isPending_of_folder passes.2.2)
  | flush file =>
      exact (flushCache_mirrors directory mirrors passes.1 passes.2).mono
        (fun _ _ result => result.1) fun _ _ => id

private theorem step_mirrors (op : Op) (passes : op.Passes root world)
    (returns : op.Returns calls world)
    (clear : op.Clear content world) (mirrors : Mirrors world root rootId (content world.outside)) :
    Mirrors (step calls world op) root rootId (content (step calls world op).outside) := by
  obtain ⟨final, returned⟩ := returns
  have same : step calls world op = final := by rw [step, returned]; rfl
  rw [same]
  exact (run_mirrors directory op mirrors passes clear).of_ok returned

omit directory in
theorem opened_mirrors (id : String) (config : Option FSConfig) (outside : β) (entries : Entries) :
    Mirrors (World.opened id config outside) 0 id entries := by
  have leaf : ∀ {ref}, (World.opened id config outside).Alive 0 ref → ref = 0 := by
    intro ref above
    exact Owners.Under.eq_of_empty above fun _ => rfl
  refine
    { formed := ⟨Nat.one_pos, rfl, fun _ _ _ _ entry => nomatch entry⟩
      root_id := rfl
      root_exists := rfl
      unseen := fun _ _ _ _ => rfl
      mirror := fun _ _ _ loaded => nomatch loaded
      ids := fun first second above above' _ _ _ => (leaf above).trans (leaf above').symm
      owner := fun _ _ _ loaded => nomatch loaded
      pending := fun _ _ waiting => nomatch waiting }

/-- After every run of calls that return, in which no file that is still pending takes the name
of an item of the backend, each loaded folder has the children that the backend has. -/
theorem run_refines (config : Option FSConfig) (outside : β) {ops : List Op}
    (each : EachStep (step calls) (fun world op => op.Passes 0 world ∧ op.Returns calls world ∧
      op.Clear content world) (World.opened rootId config outside) ops) :
    Refines (ops.foldl (step calls) (World.opened rootId config outside)) 0 content := by
  have keep : ∀ (world : World β) (op : Op),
      op.Passes 0 world ∧ op.Returns calls world ∧ op.Clear content world →
      Mirrors world 0 rootId (content world.outside) →
      Mirrors (step calls world op) 0 rootId (content (step calls world op).outside) :=
    fun world op condition mirrors =>
      step_mirrors directory op condition.1 condition.2.1 condition.2.2 mirrors
  exact (run_preserves keep (opened_mirrors rootId config outside _) each).refines

end

namespace Scenario

/-- The files of a server with one folder, whose names are their IDs. -/
def filesOf (names : List String) : Entries := fun folder name =>
  if folder = "" ∧ name ≠ "" ∧ name ∈ names then some name else none

/-- Files are created under free names, listed and deleted; nothing else succeeds. -/
def server : Calls (List String) where
  readOnly := false
  uncached := false
  now _ := 0
  expired _ := pure false
  loadByID _ := pure ⟨false⟩
  getFolder folder names := .ok
    ⟨some (if folder = "" then (names.filter (· ≠ "")).map fun name => dataOf name name else []),
      some []⟩ names
  createFile folder name names :=
    if folder = "" ∧ name ≠ "" ∧ name ∉ names then .ok (dataOf name name) (name :: names)
    else .error .backend names
  uploadFile folder name names :=
    if folder = "" ∧ name ≠ "" ∧ name ∉ names then .ok (dataOf name name) (name :: names)
    else .error .backend names
  createFolder _ _ := throw .backend
  deleteFile id names := .ok () (names.filter (· ≠ id))
  deleteFolder _ := throw .backend
  renameFile _ _ _ := throw .backend
  renameFolder _ _ _ := throw .backend
  moveFile _ _ _ := throw .backend
  moveFolder _ _ _ := throw .backend
  openFile _ _ := id
  backendSize _ _ := 0
  remoteChanged _ _ := id
  hasFirstPage _ := pure false
  writeFile _ _ := pure ()

private theorem filesOf_eq_some {names : List String} {folder name id : String} :
    filesOf names folder name = some id ↔
      folder = "" ∧ name ≠ "" ∧ name ∈ names ∧ name = id := by
  unfold filesOf
  split
  · next here =>
      obtain ⟨rfl, named, member⟩ := here
      simp [named, member]
  · next absent =>
      simp only [reduceCtorEq, false_iff]
      rintro ⟨here, named, member, -⟩
      exact absent ⟨here, named, member⟩

private theorem created_server {folder name : String} {names final : List String} {data : ItemData}
    (returned : server.createFile folder name names = .ok data final) :
    Created "" (filesOf names) folder name data (filesOf final) := by
  simp only [server] at returned
  split at returned
  · next free =>
      obtain ⟨rfl, named, absent⟩ := free
      cases returned
      refine ⟨if_neg fun there => absent there.2.2, rfl, ?_, fun other otherName => ?_⟩
      · rintro _ ⟨⟩
        refine ⟨named, fun key => if_neg fun there => named there.1, fun other key there => ?_⟩
        obtain ⟨-, -, member, rfl⟩ := filesOf_eq_some.mp there
        exact absent member
      · simp only [filesOf, List.mem_cons]
        by_cases here : other = "" ∧ otherName = name
        · obtain ⟨rfl, rfl⟩ := here
          simp [named, dataOf]
        · rw [if_neg here]
          refine if_congr ?_ rfl rfl
          constructor
          · rintro ⟨rfl, different, rfl | member⟩
            · exact absurd ⟨rfl, rfl⟩ here
            · exact ⟨rfl, different, member⟩
          · exact fun there => ⟨there.1, there.2.1, Or.inr there.2.2⟩
  · cases returned

theorem directory : Directory server "" filesOf where
  single := by
    intro outside first second firstName secondName id left right
    obtain ⟨rfl, -, -, rfl⟩ := filesOf_eq_some.mp left
    obtain ⟨rfl, -, -, rfl⟩ := filesOf_eq_some.mp right
    exact ⟨rfl, rfl⟩
  root_free := by
    intro outside folder name there
    obtain ⟨-, named, -, same⟩ := filesOf_eq_some.mp there
    exact named same
  expired := by
    rintro _ outside due final ⟨⟩
    rfl
  loadByID := by
    rintro _ outside config final ⟨⟩
    rfl
  hasFirstPage := by
    rintro _ outside has final ⟨⟩
    rfl
  writeFile := by
    rintro _ _ outside final ⟨⟩
    rfl
  openFile := fun _ _ _ => rfl
  remoteChanged := fun _ _ _ => rfl
  getFolder := by
    rintro folder names data final ⟨⟩
    refine ⟨rfl, fun files folders hasFiles hasFolders => ?_⟩
    cases hasFolders
    rw [Option.some_inj] at hasFiles
    subst hasFiles
    rw [List.append_nil]
    split
    · next here =>
        subst here
        constructor
        · intro item member name named
          obtain ⟨key, present, rfl⟩ := List.mem_map.mp member
          cases named
          have filtered := List.mem_filter.mp present
          exact ⟨name, rfl, filesOf_eq_some.mpr
            ⟨rfl, of_decide_eq_true filtered.2, filtered.1, rfl⟩⟩
        · intro name id there
          obtain ⟨-, named, member, -⟩ := filesOf_eq_some.mp there
          exact ⟨dataOf name name, List.mem_map_of_mem (List.mem_filter.mpr
            ⟨member, decide_eq_true named⟩), rfl⟩
    · next other =>
        constructor
        · intro item member
          cases member
        · intro name id there
          exact absurd (filesOf_eq_some.mp there).1 other
  createFile := fun _ _ _ _ _ returned => created_server returned
  uploadFile := fun _ _ _ _ _ returned => created_server returned
  createFolder := by
    rintro _ _ outside data final ⟨⟩
  deleteFile := by
    rintro id names final ⟨⟩
    refine ⟨fun folder _ name => ?_⟩
    by_cases same : name = id
    · subst same
      have gone : filesOf (names.filter (· ≠ name)) folder name = none :=
        if_neg fun there => by simpa using List.mem_filter.mp there.2.2
      rw [gone]
      split
      · rfl
      · next other =>
          exact (if_neg fun there => other (filesOf_eq_some.mpr
            ⟨there.1, there.2.1, there.2.2, rfl⟩)).symm
    · rw [if_neg fun there => same (filesOf_eq_some.mp there).2.2.2]
      simp only [filesOf, List.mem_filter, decide_not, Bool.not_eq_true', decide_eq_false_iff_not,
        same, not_false_eq_true, and_true]
  deleteFolder := by
    rintro _ outside final ⟨⟩
  renameFile := by
    rintro _ _ _ outside final ⟨⟩
  renameFolder := by
    rintro _ _ _ outside final ⟨⟩
  moveFile := by
    rintro _ _ _ outside final ⟨⟩
  moveFolder := by
    rintro _ _ _ outside final ⟨⟩

/-- One file is created and flushed, another one only created and given a name that is free. -/
def keeps : List Op :=
  [.createFile 0 "b", .flush 1, .createFile 0 "a", .rename 2 "c" true, .delete 1]

/-- The other one takes the name of the file that was flushed. -/
def replaces : List Op :=
  [.createFile 0 "b", .flush 1, .createFile 0 "a", .rename 2 "b" true]

private theorem child_alive {world : World (List String)} {ref : Ref} (name : String)
    (entry : world.owns 0 name = some ref) : world.Alive 0 ref :=
  Owners.Under.child .refl entry

theorem keeps_refines :
    Refines (keeps.foldl (step server) (World.opened "" none [])) 0 filesOf := by
  refine run_refines directory none [] ⟨⟨⟨.refl, rfl⟩, ⟨_, rfl⟩, trivial⟩,
    ⟨⟨child_alive "b" rfl, rfl⟩, ⟨_, rfl⟩, trivial⟩, ⟨⟨.refl, rfl⟩, ⟨_, rfl⟩, trivial⟩,
    ⟨child_alive "a" rfl, ⟨_, rfl⟩, ?_⟩, ⟨child_alive "b" rfl, ⟨_, rfl⟩, trivial⟩, trivial⟩
  rintro - parent ⟨⟩
  rfl

/-- The backend keeps the file that was replaced in the tree. -/
theorem replaces_differs : Directory server "" filesOf ∧
    EachStep (step server) (fun world op => op.Passes 0 world ∧ op.Returns server world)
      (World.opened "" none []) replaces ∧
    ¬ Refines (replaces.foldl (step server) (World.opened "" none [])) 0 filesOf := by
  refine ⟨directory, ⟨⟨⟨.refl, rfl⟩, ⟨_, rfl⟩⟩, ⟨⟨child_alive "b" rfl, rfl⟩, ⟨_, rfl⟩⟩,
    ⟨⟨.refl, rfl⟩, ⟨_, rfl⟩⟩, ⟨child_alive "a" rfl, ⟨_, rfl⟩⟩, trivial⟩, fun refines => ?_⟩
  obtain ⟨ref, entry, exist, -⟩ := (refines 0 .refl rfl "b" "b").mp rfl
  cases entry
  cases exist

end Scenario

end Andromeda.Folders
