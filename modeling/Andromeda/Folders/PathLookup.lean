import Andromeda.Folders.Operations
import Andromeda.Text.StringUtil

/-! The functions of a folder that take a path, and those that list and count its items. -/

set_option autoImplicit false

namespace Andromeda.Folders

open Andromeda.Library

/-- The exceptions of the functions that take a path. -/
inductive FolderError where
  | item (exception : ItemError)
  | notFile
  | notFolder
  deriving DecidableEq

abbrev FolderExec (β : Type) := EStateM FolderError (World β)

variable {α β : Type}

/-- A function of an item or a folder, called by one that takes a path. -/
def onItems (computation : Exec β α) : FolderExec β α := fun world =>
  match computation world with
  | .ok value final => .ok value final
  | .error exception final => .error (.item exception) final

/-- The largest `size_t`, which `explode` has for a maximum by default. -/
def sizeMax : Nat := 2 ^ 64 - 1

/-- The parts of a path, without the slashes that it begins with. -/
def pathParts (path : List Char) : List String :=
  (Text.explode (path.dropWhile (· == '/')) ['/'] 0 false sizeMax).map String.ofList

variable (calls : Calls β)

/-- The loop of `GetItemByPath`, in the parent that it has come to. -/
def getItemIn (parent : Ref) : (parts : List String) → FolderExec β Ref
  | [] => throw (.item .notFound)
  | part :: rest => do
    onItems (loadItems calls parent true)
    let item ← onItems (findItem parent part)
    if rest = [] then return item
    if ((← get).heap item).kind ≠ .folder then throw .notFolder
    getItemIn item rest

/-- `Folder::GetItemByPath`. -/
def getItemByPath (folder : Ref) (path : List Char) : FolderExec β Ref :=
  if path.dropWhile (· == '/') = [] then pure folder else getItemIn calls folder (pathParts path)

/-- `Folder::GetFileByPath`. -/
def getFileByPath (folder : Ref) (path : List Char) : FolderExec β Ref := do
  let item ← getItemByPath calls folder path
  if ((← get).heap item).kind ≠ .file then throw .notFile
  return item

/-- `Folder::GetFolderByPath`. -/
def getFolderByPath (folder : Ref) (path : List Char) : FolderExec β Ref := do
  let item ← getItemByPath calls folder path
  if ((← get).heap item).kind ≠ .folder then throw .notFolder
  return item

/-- `Folder::GetItems`. -/
def getItems (folder : Ref) : Exec β (KeyMap String Ref) := do
  loadItems calls folder true
  return (← getItem folder).items

/-- `Folder::CountItems`. -/
def countItems (folder : Ref) : Exec β Nat := do
  loadItems calls folder true
  return (← getItem folder).items.entries.length

end Andromeda.Folders
