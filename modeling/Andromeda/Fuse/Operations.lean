import Andromeda.Folders.PathLookup
import Andromeda.Fuse.Rename

/-! The operations of `FuseOperations` on a mounted folder tree. -/

set_option autoImplicit false

namespace Andromeda.Fuse

open Andromeda.Folders
open Text (splitPath startsWith)

/-- `FuseAdapter`: the root folder, the options that the operations read, and what they ask the page
manager of a file and the exceptions of the backend. -/
structure Adapter (β : Type) where
  rootFolder : Ref
  fileMode : Nat
  dirMode : Nat
  fakeChmod : Bool
  fakeChown : Bool
  /-- `File::GetSize`. -/
  fileSize : Ref → β → Nat
  /-- `File::GetPageSize`. -/
  pageSize : Ref → β → Nat
  /-- Which exception the backend has thrown. -/
  backendException : β → FuseException

/-- The fields of `stat` that are the item's. -/
structure Stat where
  mode : Nat
  size : Nat
  blksize : Nat
  blocks : Nat
  ctim : Nat
  mtim : Nat
  atim : Nat
  deriving DecidableEq

/-- What an operation returns, and what it fills in. -/
inductive Answer where
  | reply (reply : Reply)
  /-- `-ENOTEMPTY`. -/
  | notEmpty
  | stat (stat : Stat)
  /-- The names that `readdir` gives to the filler. -/
  | listed (names : List String)
  deriving DecidableEq

abbrev Answer.success : Answer := .reply .success

variable {α β : Type} (calls : Calls β) (adapter : Adapter β)

/-- What `CatchAsErrno` tells an exception from. -/
def fuseException (outside : β) : FolderError → FuseException
  | .notFile => .notFile
  | .notFolder => .notFolder
  | .item .json => .base
  | .item .backend => adapter.backendException outside
  | .item .invalidName => .base
  | .item .duplicateItem => .duplicateItem
  | .item .notFound => .notFound
  | .item .readOnlyFS => .readOnlyFS
  | .item .modify => .modify
  | .item .nullParent => .nullParent

/-- `CatchAsErrno`, of a function of the folder tree. -/
def catchAnswer (func : FolderExec β Answer) : EStateM FuseException (World β) Answer := fun world =>
  match func world with
  | .ok answer final => .ok answer final
  | .error exception final =>
    match errno (fuseException adapter final.outside exception) with
    | some errno => .ok (.reply (.failure errno)) final
    | none => .error (fuseException adapter final.outside exception) final

/-- `S_IFREG`. -/
def regularFile : Nat := 0x8000

/-- `S_IFDIR`. -/
def directoryFile : Nat := 0x4000

/-- `item_stat`. -/
def itemStat (ref : Ref) (world : World β) : Stat :=
  let item := world.heap ref
  let size := match item.kind with
    | .file => adapter.fileSize ref world.outside
    | .folder => 0
  { mode := match item.kind with
      | .file => regularFile ||| adapter.fileMode
      | .folder => directoryFile ||| adapter.dirMode
    size
    blksize := match item.kind with
      | .file => adapter.pageSize ref world.outside
      | .folder => 4096
    blocks := if size = 0 then 0 else (size - 1) / 512 + 1
    ctim := item.created
    mtim := if item.modified = 0 then item.created else item.modified
    atim := if item.accessed = 0 then item.created else item.accessed }

/-- `getattr`. -/
def getattr (path : List Char) : FolderExec β Answer := do
  let item ← getItemByPath calls adapter.rootFolder path
  return .stat (itemStat adapter item (← get))

/-- `open`, without `O_TRUNC`. -/
def openFile (path : List Char) (writing : Bool) : FolderExec β Answer := do
  let file ← getFileByPath calls adapter.rootFolder path
  if writing && isReadOnlyFS calls ((← get).heap file) then return .reply (.failure .erofs)
  return .success

/-- `opendir`. -/
def opendir (path : List Char) (writing : Bool) : FolderExec β Answer := do
  let folder ← getFolderByPath calls adapter.rootFolder path
  if writing && isReadOnlyFS calls ((← get).heap folder) then return .reply (.failure .erofs)
  return .success

/-- `readdir`. -/
def readdir (path : List Char) : FolderExec β Answer := do
  let parent ← getFolderByPath calls adapter.rootFolder path
  let items ← onItems (getItems calls parent)
  let world ← get
  return .listed (items.entries.map (fun entry => (world.heap entry.2).name) ++ [".", ".."])

/-- `create`. -/
def create (fullpath : List Char) : FolderExec β Answer := do
  let (path, name) := splitPath fullpath
  let parent ← getFolderByPath calls adapter.rootFolder path
  onItems (createFile calls parent (String.ofList name))
  return .success

/-- `mkdir`. -/
def mkdir (fullpath : List Char) : FolderExec β Answer := do
  let (path, name) := splitPath fullpath
  let parent ← getFolderByPath calls adapter.rootFolder path
  onItems (createFolder calls parent (String.ofList name))
  return .success

/-- `unlink`. -/
def unlink (path : List Char) : FolderExec β Answer := do
  let file ← getFileByPath calls adapter.rootFolder path
  onItems (delete calls file)
  return .success

/-- `rmdir`. -/
def rmdir (path : List Char) : FolderExec β Answer := do
  let folder ← getFolderByPath calls adapter.rootFolder path
  if (← onItems (countItems calls folder)) ≠ 0 then return .notEmpty
  onItems (delete calls folder)
  return .success

/-- `rename`. -/
def rename (oldpath newpath : List Char) : FolderExec β Answer := do
  let (oldParent, oldName) := splitPath oldpath
  let (newParent, newName) := splitPath newpath
  if oldParent ≠ newParent ∧ oldName ≠ newName then return .reply (.failure .eio)
  else if oldParent ≠ newParent then
    if startsWith newParent (oldParent ++ ['/'] ++ oldName ++ ['/']) then
      return .reply (.failure .einval)
    else
      let parent ← getFolderByPath calls adapter.rootFolder newParent
      let item ← getItemByPath calls adapter.rootFolder oldpath
      onItems (move calls item parent true)
      return .success
  else if oldName ≠ newName then
    let item ← getItemByPath calls adapter.rootFolder oldpath
    onItems (Folders.rename calls item (String.ofList newName) true)
    return .success
  else return .success

/-- `flush`, `fsync` and `release`. -/
def flush (path : List Char) : FolderExec β Answer := do
  let file ← getFileByPath calls adapter.rootFolder path
  onItems (flushCache calls file)
  return .success

/-- `chmod` and `chown`, of which an option tells whether they are to be ignored. -/
def ignoreChange (fake : Bool) (path : List Char) : FolderExec β Answer := do
  if !fake then return .reply (.failure .enotsup)
  let _ ← getItemByPath calls adapter.rootFolder path
  return .success

/-- `chmod`. -/
def chmod (path : List Char) : FolderExec β Answer :=
  ignoreChange calls adapter adapter.fakeChmod path

/-- `chown`. -/
def chown (path : List Char) : FolderExec β Answer :=
  ignoreChange calls adapter adapter.fakeChown path

/-- The functions of the tree that `rename` calls, each throwing what `CatchAsErrno` catches. The
locks of a single thread are free. -/
def throwing (computation : FolderExec β α) : EStateM FuseException (World β) α := fun world =>
  match computation world with
  | .ok value final => .ok value final
  | .error exception final => .error (fuseException adapter final.outside exception) final

/-- The items of a mounted folder tree. -/
def treeItems : Items (World β) Ref where
  getFolderByPath path := throwing adapter (getFolderByPath calls adapter.rootFolder path)
  getItemByPath path := throwing adapter (getItemByPath calls adapter.rootFolder path)
  unlockScope _ := id
  getWriteLock _ := pure ()
  unlockWrite _ := id
  move item newParent overwrite := throwing adapter (onItems (move calls item newParent overwrite))
  rename item newName overwrite :=
    throwing adapter (onItems (Folders.rename calls item (String.ofList newName) overwrite))

end Andromeda.Fuse
