import Andromeda.Fuse.NamespaceProperties
import Andromeda.Fuse.RenameProperties

/-! Every run of operations on a mounted tree does to the paths of the backend what its operations
are meant to do, one after the other. -/

set_option autoImplicit false

namespace Andromeda.Fuse

open Andromeda.Folders Andromeda.Library

variable {β : Type} {calls : Calls β} {adapter : Adapter β} {content : β → Entries}
  {rootId : String} {world : World β}

section

variable (directory : Directory calls rootId content) (faults : calls.Faults)

include directory faults

private theorem step_traced (operation : Operation)
    (answered : operation.Answered calls adapter world)
    (clear : operation.Clear (mounted adapter content rootId world))
    (mirrors : Mounted adapter content rootId world) :
    ∃ answer, operation.answer calls adapter world = some answer ∧
      Mounted adapter content rootId (operation.step calls adapter world) ∧
      operation.Effect (mounted adapter content rootId world)
        (mounted adapter content rootId (operation.step calls adapter world)) answer := by
  have works := run_works directory faults operation answered clear mirrors
  unfold Operation.answer Operation.step
  cases result : operation.run calls adapter world with
  | ok answer final => exact ⟨answer, rfl, works.of_ok result⟩
  | error exception final => exact (works.of_error result).elim

private theorem run_traced (operations : List Operation) (world : World β)
    (mirrors : Mounted adapter content rootId world)
    (each : EachStep (fun world operation => operation.step calls adapter world)
      (fun world operation => operation.Answered calls adapter world ∧
        operation.Clear (mounted adapter content rootId world)) world operations) :
    Traced (mounted adapter content rootId world) (history calls adapter world operations)
      (mounted adapter content rootId
        (operations.foldl (fun world operation => operation.step calls adapter world) world)) := by
  induction operations generalizing world with
  | nil => exact .nil
  | cons operation rest ih =>
      obtain ⟨answer, told, mirrors', effect⟩ :=
        step_traced directory faults operation each.1.1 each.1.2 mirrors
      rw [history, told]
      exact .cons effect (ih _ mirrors' each.2)

private theorem run_mirrors (operations : List Operation)
    (mirrors : Mounted adapter content rootId world)
    (each : EachStep (fun world operation => operation.step calls adapter world)
      (fun world operation => operation.Answered calls adapter world ∧
        operation.Clear (mounted adapter content rootId world)) world operations) :
    Mounted adapter content rootId
      (operations.foldl (fun world operation => operation.step calls adapter world) world) := by
  refine run_preserves (fun world operation condition mirrors => ?_) mirrors each
  exact (step_traced directory faults operation condition.1 condition.2 mirrors).choose_spec.2.1

omit faults directory in
private theorem mounted_opened (config : Option FSConfig) (outside : β)
    (root : adapter.rootFolder = 0) :
    Mounted adapter content rootId (World.opened rootId config outside) := by
  unfold Mounted
  rw [root]
  exact opened_mirrors rootId config outside (content outside)

/-- From the mount on, the paths are those of the backend, changed by one operation after the other
as it has answered, as long as no answer of the backend fails and no file that is not created yet
takes the name of one that the backend has. -/
theorem mount_traced (config : Option FSConfig) (outside : β) (adapter : Adapter β)
    (root : adapter.rootFolder = 0) (operations : List Operation)
    (each : EachStep (fun world operation => operation.step calls adapter world)
      (fun world operation => operation.Answered calls adapter world ∧
        operation.Clear (mounted adapter content rootId world)) (World.opened rootId config outside)
        operations) :
    Traced (fun path => ((content outside).resolve rootId path).map .stored)
      (history calls adapter (World.opened rootId config outside) operations)
      (mounted adapter content rootId
        (operations.foldl (fun world operation => operation.step calls adapter world)
          (World.opened rootId config outside))) := by
  have start : mounted adapter content rootId (World.opened rootId config outside) =
      fun path => ((content outside).resolve rootId path).map .stored := by
    funext path
    unfold mounted
    rw [root]
    exact paths_opened rootId config outside (content outside) path
  rw [← start]
  exact run_traced directory faults operations _ (mounted_opened config outside root) each

/-- After such a run no item is at two paths. -/
theorem mount_distinct (config : Option FSConfig) (outside : β) (adapter : Adapter β)
    (root : adapter.rootFolder = 0) (operations : List Operation)
    (each : EachStep (fun world operation => operation.step calls adapter world)
      (fun world operation => operation.Answered calls adapter world ∧
        operation.Clear (mounted adapter content rootId world)) (World.opened rootId config outside)
        operations) {first second : List String} {node : Node}
    (there : mounted adapter content rootId (operations.foldl
      (fun world operation => operation.step calls adapter world)
      (World.opened rootId config outside)) first = some node)
    (there' : mounted adapter content rootId (operations.foldl
      (fun world operation => operation.step calls adapter world)
      (World.opened rootId config outside)) second = some node) : first = second := by
  have mirrors := run_mirrors directory faults operations (mounted_opened config outside root) each
  exact (mirrors.view_sole directory).resolve_inj there there'

/-- After such a run the lookup of any text finds what its path leads to, or says why it does not. -/
theorem mount_lookups (config : Option FSConfig) (outside : β) (adapter : Adapter β)
    (root : adapter.rootFolder = 0) (operations : List Operation)
    (each : EachStep (fun world operation => operation.step calls adapter world)
      (fun world operation => operation.Answered calls adapter world ∧
        operation.Clear (mounted adapter content rootId world)) (World.opened rootId config outside)
        operations)
    (ran : operations.foldl (fun world operation => operation.step calls adapter world)
      (World.opened rootId config outside) = world) (path : List Char) :
    Follows content rootId adapter.rootFolder world path (fun _ => True)
      (getItemByPath calls adapter.rootFolder path) ∧
    Follows content rootId adapter.rootFolder world path (· = .file)
      (getFileByPath calls adapter.rootFolder path) ∧
    Follows content rootId adapter.rootFolder world path (· = .folder)
      (getFolderByPath calls adapter.rootFolder path) := by
  subst ran
  have mirrors := run_mirrors directory faults operations (mounted_opened config outside root) each
  exact ⟨getItemByPath_follows directory faults path mirrors,
    getFileByPath_follows directory faults path mirrors,
    getFolderByPath_follows directory faults path mirrors⟩

end

section

variable {α γ : Type} (adapter)

/-! The operation `rename` of the tree is the one that was stated over the functions it calls. -/

private theorem throwing_bind (computation : FolderExec β α) (next : α → FolderExec β γ) :
    throwing adapter (computation >>= next) =
      throwing adapter computation >>= fun value => throwing adapter (next value) := by
  funext world
  simp only [throwing, bind, EStateM.bind]
  cases computation world <;> rfl

private theorem inScope_free (acquire : EStateM FuseException (World β) α)
    (body : α → EStateM FuseException (World β) γ) :
    inScope acquire (fun _ => id) body = acquire >>= body := by
  funext world
  simp only [inScope, bind, EStateM.bind]
  cases acquire world with
  | error exception final => rfl
  | ok value final =>
      simp only
      cases body value final <;> rfl

private theorem catch_throwing (computation : FolderExec β Reply) :
    (Answer.reply <$> catchAsErrno (throwing adapter computation)) =
      catchAnswer adapter (Answer.reply <$> computation) := by
  funext world
  simp only [Functor.map, EStateM.map, catchAsErrno, throwing, catchAnswer]
  cases computation world with
  | ok reply final => rfl
  | error exception final =>
      simp only
      cases errno (fuseException adapter final.outside exception) <;> rfl

/-- The body of `rename`, with a plain reply. -/
def renameReply (calls : Calls β) (oldpath newpath : List Char) : FolderExec β Reply :=
  let (oldParent, oldName) := Text.splitPath oldpath
  let (newParent, newName) := Text.splitPath newpath
  if oldParent ≠ newParent ∧ oldName ≠ newName then pure (.failure .eio)
  else if oldParent ≠ newParent then
    if Text.startsWith newParent (oldParent ++ ['/'] ++ oldName ++ ['/']) then
      pure (.failure .einval)
    else do
      let parent ← getFolderByPath calls adapter.rootFolder newParent
      let item ← getItemByPath calls adapter.rootFolder oldpath
      onItems (move calls item parent true)
      return .success
  else if oldName ≠ newName then do
    let item ← getItemByPath calls adapter.rootFolder oldpath
    onItems (Folders.rename calls item (String.ofList newName) true)
    return .success
  else pure .success

private theorem renameReply_eq (oldpath newpath : List Char) :
    Answer.reply <$> renameReply adapter calls oldpath newpath =
      rename calls adapter oldpath newpath := by
  unfold renameReply rename
  simp only
  split
  · rfl
  · split
    · split
      · rfl
      · simp only [map_bind, map_pure]
    · split
      · simp only [map_bind, map_pure]
      · rfl

private theorem renamePath_throwing (oldpath newpath : List Char) :
    (treeItems calls adapter).renamePath oldpath newpath =
      catchAsErrno (throwing adapter (renameReply adapter calls oldpath newpath)) := by
  unfold Items.renamePath renameReply
  simp only
  congr 1
  split
  · rfl
  · split
    · split
      · rfl
      · simp only [Items.moveTo, Items.withItem, treeItems, throwing_bind, inScope_free, bind_assoc,
          pure_bind]
        rfl
    · split
      · simp only [Items.withItem, treeItems, throwing_bind, inScope_free, bind_assoc, pure_bind]
        rfl
      · rfl

theorem renamePath_tree (oldpath newpath : List Char) :
    Answer.reply <$> (treeItems calls adapter).renamePath oldpath newpath =
      catchAnswer adapter (rename calls adapter oldpath newpath) := by
  rw [renamePath_throwing, catch_throwing, renameReply_eq]

end

namespace Scenario

open Folders.Scenario (server filesOf)

/-- The tree of a server with one folder, mounted. -/
def mount : Adapter (List String) where
  rootFolder := 0
  fileMode := 0
  dirMode := 0
  fakeChmod := false
  fakeChown := true
  fileSize _ _ := 0
  pageSize _ _ := 1
  backendException _ := .base

private theorem created_faults (folder name : String) :
    Raises ItemError.Fault (server.createFile folder name) := by
  intro names
  by_cases free : folder = "" ∧ name ≠ "" ∧ name ∉ names
  · simp only [Outcome, server, if_pos free]
  · simp only [Outcome, server, if_neg free]
    exact Or.inr rfl

private theorem server_faults : server.Faults where
  expired _ := raises_pure _
  loadByID _ := raises_pure _
  getFolder _ _ := trivial
  createFile := created_faults
  uploadFile := created_faults
  createFolder _ _ := raises_throw (Or.inr rfl)
  deleteFile _ _ := trivial
  deleteFolder _ := raises_throw (Or.inr rfl)
  renameFile _ _ _ := raises_throw (Or.inr rfl)
  renameFolder _ _ _ := raises_throw (Or.inr rfl)
  moveFile _ _ _ := raises_throw (Or.inr rfl)
  moveFolder _ _ _ := raises_throw (Or.inr rfl)
  hasFirstPage _ := raises_pure _
  writeFile _ _ := raises_pure _

/-- The path of a name at the root. -/
def pathOf (name : Text.Component) : Path := ⟨[name], Nat.lt_of_sub_ne_zero (by simp [sizeMax])⟩

/-- A file is created and flushed, another one created, and the first one removed, which is then not
found. -/
def operations : List Operation :=
  [.create (pathOf nameA), .flush (pathOf nameA), .create (pathOf nameAB), .unlink (pathOf nameA),
    .getattr (pathOf nameA), .readdir ⟨[], Nat.lt_of_sub_ne_zero (by simp [sizeMax])⟩]

private theorem operations_answered :
    EachStep (fun world operation => operation.step server mount world)
    (fun world operation => operation.Answered server mount world) (World.opened "" none [])
    operations := by
  decide +kernel

private theorem operations_clear :
    EachStep (fun world operation => operation.step server mount world)
    (fun world operation => operation.Answered server mount world ∧
      operation.Clear (mounted mount filesOf "" world)) (World.opened "" none []) operations :=
  operations_answered.and ⟨trivial, trivial, trivial, trivial, trivial, trivial, trivial⟩

theorem mount_traced_operations :
    Traced (fun path => ((filesOf []).resolve "" path).map .stored)
      (history server mount (World.opened "" none []) operations)
      (mounted mount filesOf "" (operations.foldl
        (fun world operation => operation.step server mount world) (World.opened "" none []))) :=
  mount_traced Folders.Scenario.directory server_faults none [] mount rfl operations operations_clear

theorem mount_distinct_operations :
    mounted mount filesOf "" (operations.foldl
      (fun world operation => operation.step server mount world) (World.opened "" none []))
      (pathOf nameAB).names ≠ some (.stored "") := by
  intro there
  have start : mounted mount filesOf "" (operations.foldl
      (fun world operation => operation.step server mount world) (World.opened "" none [])) [] =
      some (.stored "") := rfl
  have same := mount_distinct Folders.Scenario.directory server_faults none [] mount rfl operations
    operations_clear there start
  cases same

theorem mount_lookups_operations :
    Follows filesOf "" 0 (operations.foldl
      (fun world operation => operation.step server mount world) (World.opened "" none []))
      (pathOf nameAB).text (· = .file) (getFileByPath server 0 (pathOf nameAB).text) :=
  (mount_lookups Folders.Scenario.directory server_faults none [] mount rfl operations
    operations_clear rfl (pathOf nameAB).text).2.1

end Scenario

end Andromeda.Fuse
