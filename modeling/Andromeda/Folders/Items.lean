import Andromeda.Folders.Tree

/-! Construction and refresh of items, and the synchronisation of a folder with the
server. -/

set_option autoImplicit false

namespace Andromeda.Folders

open Andromeda.Library

variable {β : Type}

/-- `Item::ValidateName`. -/
def validateName (name : String) (backend : Bool) : Exec β Unit :=
  if name = "." ∨ name = ".." ∨ '/' ∈ name.toList then
    throw (if backend then .json else .invalidName)
  else pure ()

/-- `Item::Item` from JSON data. -/
def itemFrom (kind : Kind) (data : ItemData) : Exec β Item := do
  let id ← field data.id
  let name ← field data.name
  let created ← field data.dateCreated
  let modified ← field data.dateModified
  let accessed ← field data.dateAccessed
  return { Item.blank kind with
    id, name, created
    modified := modified.getD 0
    accessed := accessed.getD 0 }

/-- `Item::Refresh`. -/
def refreshItem (ref : Ref) (data : ItemData) : Exec β Unit := do
  let newName ← field data.name
  if newName ≠ (← getItem ref).name then
    validateName newName true
    setItem ref fun item => { item with name := newName }
  let newCreated ← field data.dateCreated
  setItem ref fun item => { item with created := newCreated }
  let newModified ← field data.dateModified
  setItem ref fun item => { item with modified := newModified.getD item.modified }
  let newAccessed ← field data.dateAccessed
  setItem ref fun item => { item with accessed := newAccessed.getD item.accessed }

variable (calls : Calls β)

/-- `File::Refresh`. -/
def refreshFile (ref : Ref) (data : ItemData) : Exec β Unit := do
  refreshItem ref data
  if (← getItem ref).id = "" then
    let newId ← field data.id
    setItem ref fun item => { item with id := newId }
  let newSize ← field data.size
  if newSize ≠ calls.backendSize ref (← get).outside then notify (calls.remoteChanged ref newSize)

/-- `Refresh` of an item of either kind. -/
def refresh (ref : Ref) (data : ItemData) : Exec β Unit := do
  match (← getItem ref).kind with
  | .file => refreshFile calls ref data
  | .folder => refreshItem ref data

/-- `File::File` from JSON data. -/
def newFile (parent : Ref) (data : ItemData) : Exec β Ref := do
  let item ← itemFrom .file data
  let size ← field data.size
  let storage ← field data.storage
  let config ← call (calls.loadByID storage)
  let ref ← allocate { item with
    parent := some parent
    config := some config
    backendExists := true }
  notify (calls.openFile ref size)
  return ref

/-- `File::File` of a file to be created later. -/
def newPendingFile (parent : Ref) (name : String) (config : Option FSConfig) : Exec β Ref := do
  let ref ← allocate { Item.blank .file with
    name, config
    parent := some parent
    created := calls.now (← get).outside
    creator := parent }
  notify (calls.openFile ref 0)
  return ref

/-- `PlainFolder::PlainFolder` from JSON data, without its contents. -/
def newFolder (parent : Ref) (data : ItemData) : Exec β Ref := do
  let item ← itemFrom .folder data
  let storage ← field data.storage
  let config ← call (calls.loadByID storage)
  allocate { item with
    parent := some parent
    config := some config }

/-- The items of the server by name, each with the constructor to call. -/
abbrev NewItemMap := KeyMap String (ItemData × Kind)

/-- `NewItemFunc`. -/
def newItem (folder : Ref) (data : ItemData) : Kind → Exec β Ref
  | .file => newFile calls folder data
  | .folder => newFolder calls folder data

/-- `mItemMap[name] = item`. -/
def setEntry (folder : Ref) (name : String) (ref : Ref) : Exec β Unit :=
  setItem folder fun item => { item with items := item.items.insert name ref }

/-- `mItemMap.erase`. -/
def eraseEntry (folder : Ref) (name : String) : Exec β Unit :=
  setItem folder fun item => { item with items := item.items.erase name }

/-- The step of `SyncContents` for one item of the server. -/
def syncItem (folder : Ref) (entry : String × ItemData × Kind) : Exec β Unit := do
  validateName entry.1 true
  match (← getItem folder).items.find? entry.1 with
  | some existing => refresh calls existing entry.2.1
  | none => setEntry folder entry.1 (← newItem calls folder entry.2.1 entry.2.2)

/-- Whether `SyncContents` keeps an item that the server did not list. -/
def Item.isPending (item : Item) : Bool :=
  decide (item.kind = .file) && !item.backendExists

/-- The second loop of `SyncContents`: the items that the server did not list leave the
map. -/
def withoutOthers (world : World β) (folder : Ref) (newItems : NewItemMap) : World β :=
  world.setItem folder fun item => { item with
    items := item.items.filter fun name ref =>
      (newItems.find? name).isSome || (world.heap ref).isPending }

/-- `SyncContents`. -/
def syncContents (folder : Ref) (newItems : NewItemMap) : Exec β Unit := do
  forM newItems.entries (syncItem calls folder)
  modify fun world => withoutOthers world folder newItems

/-- One loop of `LoadItemsFrom`: an item of a name that is already there is left out. -/
def collect (kind : Kind) : List ItemData → NewItemMap → Exec β NewItemMap
  | [], newItems => pure newItems
  | data :: rest, newItems => do
    let name ← field data.name
    collect kind rest (newItems.emplace name (data, kind))

/-- `PlainFolder::LoadItemsFrom`. -/
def loadItemsFrom (folder : Ref) (data : FolderData) : Exec β Unit := do
  let files ← field data.files
  let newItems ← collect .file files .empty
  let folders ← field data.folders
  let newItems ← collect .folder folders newItems
  syncContents calls folder newItems

/-- `LoadItems`, with `SubLoadItems`. -/
def loadItems (folder : Ref) (canRefresh : Bool) : Exec β Unit := do
  let expired ← call (calls.expired folder)
  let item ← getItem folder
  if !item.haveItems || (canRefresh && expired) then
    let data ← call (calls.getFolder item.id)
    loadItemsFrom calls folder data
    setItem folder fun item => { item with haveItems := true }

end Andromeda.Folders
