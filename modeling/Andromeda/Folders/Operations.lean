import Andromeda.Folders.Items

/-! The operations on the items of a folder: creation through the folder, deletion, renaming
and moving through the item, and the flush of a file. -/

set_option autoImplicit false

namespace Andromeda.Folders

open Andromeda.Library

variable {β : Type} (calls : Calls β)

/-- `isReadOnlyFS`. -/
def isReadOnlyFS (item : Item) : Bool :=
  calls.readOnly || item.config.any FSConfig.readOnly

/-- `if (isReadOnlyFS()) throw ReadOnlyFSException()`. -/
def checkReadOnlyFS (ref : Ref) : Exec β Unit := do
  if isReadOnlyFS calls (← getItem ref) then throw .readOnlyFS

/-- `mItemMap.find`, throwing if there is no such item. -/
def findItem (folder : Ref) (name : String) : Exec β Ref := do
  match (← getItem folder).items.find? name with
  | some ref => pure ref
  | none => throw .notFound

/-- The object that `SubCreateFile` makes: of a file created now, or of one to be created
later. -/
def makeFile (folder : Ref) (name : String) : Exec β Ref := do
  let item ← getItem folder
  if calls.uncached then
    let data ← call (calls.createFile item.id name)
    newFile calls folder data
  else newPendingFile calls folder name item.config

/-- `SubCreateFile`. -/
def subCreateFile (folder : Ref) (name : String) : Exec β Unit := do
  checkReadOnlyFS calls folder
  let file ← makeFile calls folder name
  setEntry folder (← getItem file).name file

/-- `SubCreateFolder`. -/
def subCreateFolder (folder : Ref) (name : String) : Exec β Unit := do
  checkReadOnlyFS calls folder
  let data ← call (calls.createFolder (← getItem folder).id name)
  let created ← newFolder calls folder data
  setEntry folder (← getItem created).name created

/-- `Folder::CreateFile` and `Folder::CreateFolder`, up to what they create. -/
def createItem (subCreate : Ref → String → Exec β Unit) (folder : Ref) (name : String) :
    Exec β Unit := do
  validateName name false
  loadItems calls folder true
  if ((← getItem folder).items.find? name).isSome ∨ name = "" then throw .duplicateItem
  subCreate folder name

/-- `Folder::CreateFile`. -/
def createFile (folder : Ref) (name : String) : Exec β Unit :=
  createItem calls (subCreateFile calls) folder name

/-- `Folder::CreateFolder`. -/
def createFolder (folder : Ref) (name : String) : Exec β Unit :=
  createItem calls (subCreateFolder calls) folder name

/-- `PageBackend`: creates a file by its current name, in the folder it was made in, with its
first page if it has one. -/
def flushCreate (ref : Ref) : Exec β Unit := do
  let item ← getItem ref
  let folderId := (← getItem item.creator).id
  let data ←
    if ← call (calls.hasFirstPage ref) then call (calls.uploadFile folderId item.name)
    else call (calls.createFile folderId item.name)
  refreshFile calls ref data
  setItem ref fun item => { item with backendExists := true }

/-- `File::FlushCache`. -/
def flushCache (ref : Ref) : Exec β Unit := do
  if !(← getItem ref).backendExists then flushCreate calls ref
  call (calls.writeFile ref (← getItem ref).id)

/-- `SubDelete`, of a file and of a folder. -/
def subDelete (ref : Ref) : Exec β Unit := do
  checkReadOnlyFS calls ref
  let item ← getItem ref
  match item.kind with
  | .file => if item.backendExists then call (calls.deleteFile item.id)
  | .folder => call (calls.deleteFolder item.id)

/-- `SubRename`, of a file and of a folder. -/
def subRename (ref : Ref) (newName : String) (overwrite : Bool) : Exec β Unit := do
  checkReadOnlyFS calls ref
  let item ← getItem ref
  match item.kind with
  | .file => if item.backendExists then call (calls.renameFile item.id newName overwrite)
  | .folder => call (calls.renameFolder item.id newName overwrite)

/-- `SubMove`, of a file and of a folder: a file not created yet is created first. -/
def subMove (ref : Ref) (parentId : String) (overwrite : Bool) : Exec β Unit := do
  checkReadOnlyFS calls ref
  match (← getItem ref).kind with
  | .file =>
    if !(← getItem ref).backendExists then flushCache calls ref
    call (calls.moveFile (← getItem ref).id parentId overwrite)
  | .folder => call (calls.moveFolder (← getItem ref).id parentId overwrite)

/-- `Folder::DeleteItem`. -/
def deleteItem (folder : Ref) (name : String) : Exec β Unit := do
  checkReadOnlyFS calls folder
  loadItems calls folder true
  let ref ← findItem folder name
  subDelete calls ref
  eraseEntry folder name

/-- `Folder::RenameItem`. -/
def renameItem (folder : Ref) (oldName newName : String) (overwrite : Bool) : Exec β Unit := do
  checkReadOnlyFS calls folder
  loadItems calls folder true
  let ref ← findItem folder oldName
  if oldName ≠ newName then
    let dup := (← getItem folder).items.find? newName
    if !overwrite && dup.isSome || decide (newName = "") then throw .duplicateItem
    subRename calls ref newName overwrite
    if dup.isSome then eraseEntry folder newName
    eraseEntry folder oldName
    setEntry folder newName ref

/-- `Folder::MoveItem`. -/
def moveItem (folder : Ref) (name : String) (newParent : Ref) (overwrite : Bool) :
    Exec β Unit := do
  checkReadOnlyFS calls folder
  loadItems calls folder false
  let ref ← findItem folder name
  loadItems calls newParent false
  checkReadOnlyFS calls newParent
  if (← getItem newParent).id = "" then throw .modify
  let dup := (← getItem newParent).items.find? name
  if !overwrite && dup.isSome then throw .duplicateItem
  subMove calls ref (← getItem newParent).id overwrite
  if dup.isSome then eraseEntry newParent name
  eraseEntry folder name
  setEntry newParent name ref

/-- `GetParent`. -/
def getParent (ref : Ref) : Exec β Ref := do
  match (← getItem ref).parent with
  | some parent => pure parent
  | none => throw .nullParent

/-- `Item::Delete`. -/
def delete (ref : Ref) : Exec β Unit := do
  let parent ← getParent ref
  deleteItem calls parent (← getItem ref).name

/-- `Item::Rename`. -/
def rename (ref : Ref) (newName : String) (overwrite : Bool) : Exec β Unit := do
  if newName ≠ (← getItem ref).name then
    validateName newName false
    let parent ← getParent ref
    renameItem calls parent (← getItem ref).name newName overwrite
    setItem ref fun item => { item with name := newName }

/-- `Item::Move`. -/
def move (ref newParent : Ref) (overwrite : Bool) : Exec β Unit := do
  let parent ← getParent ref
  if parent ≠ newParent then
    moveItem calls parent (← getItem ref).name newParent overwrite
    setItem ref fun item => { item with parent := some newParent }

/-- What is done with a tree, one call at a time. -/
inductive Op where
  /-- `LoadItems`, as `GetItems` calls it. -/
  | load (folder : Ref)
  /-- `LoadItemsFrom`, as the constructor of a folder with its contents calls it. -/
  | loadFrom (folder : Ref) (data : FolderData)
  | createFile (folder : Ref) (name : String)
  | createFolder (folder : Ref) (name : String)
  | delete (item : Ref)
  | rename (item : Ref) (newName : String) (overwrite : Bool)
  | move (item newParent : Ref) (overwrite : Bool)
  | flush (file : Ref)
  deriving DecidableEq

def Op.run : Op → Exec β Unit
  | .load folder => loadItems calls folder true
  | .loadFrom folder data => loadItemsFrom calls folder data
  | .createFile folder name => Folders.createFile calls folder name
  | .createFolder folder name => Folders.createFolder calls folder name
  | .delete item => Folders.delete calls item
  | .rename item newName overwrite => Folders.rename calls item newName overwrite
  | .move item newParent overwrite => Folders.move calls item newParent overwrite
  | .flush file => flushCache calls file

/-- The world a call leaves, whether it returned or threw. -/
def exitWorld {α : Type} (result : EStateM.Result ItemError (World β) α) : World β :=
  match result with
  | .ok _ final => final
  | .error _ final => final

def step (world : World β) (op : Op) : World β := exitWorld (op.run calls world)

/-- A root folder as it is constructed without its contents. -/
def World.opened (id : String) (config : Option FSConfig) (outside : β) : World β where
  heap _ := { Item.blank .folder with id, config }
  next := 1
  outside

end Andromeda.Folders
