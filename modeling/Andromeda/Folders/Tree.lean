import Andromeda.Library.KeyMap
import Andromeda.Library.Outcome
import Andromeda.Library.Ownership
import Mathlib.Data.String.Basic
import Mathlib.Logic.Function.Basic

/-! The items of a folder tree: objects behind pointers, folders with a map of the items they
own, and what the items call. -/

set_option autoImplicit false

namespace Andromeda.Folders

open Andromeda.Library

/-- A pointer to an item. -/
abbrev Ref := Nat

/-- `Item::Type`. -/
inductive Kind where
  | file
  | folder
  deriving DecidableEq, Repr

/-- The exceptions that item and folder functions throw. -/
inductive ItemError where
  /-- `BackendImpl::JSONErrorException`. -/
  | json
  /-- Any other exception of the backend. -/
  | backend
  | invalidName
  | duplicateItem
  | notFound
  | readOnlyFS
  | modify
  | nullParent
  deriving DecidableEq, Repr

/-- The JSON data of an item. A field that is missing or of another type is `none`; the
modified and accessed dates can also be null. -/
structure ItemData where
  id : Option String
  name : Option String
  dateCreated : Option Nat
  dateModified : Option (Option Nat)
  dateAccessed : Option (Option Nat)
  size : Option Nat
  storage : Option String
  deriving DecidableEq

/-- The JSON data of a folder's contents. -/
structure FolderData where
  files : Option (List ItemData)
  folders : Option (List ItemData)
  deriving DecidableEq

/-- `FSConfig`: what the items read of their storage. -/
structure FSConfig where
  readOnly : Bool
  deriving DecidableEq

/-- An item. -/
structure Item where
  kind : Kind
  /-- `mId`: empty for a file that is not created yet. -/
  id : String
  name : String
  parent : Option Ref
  created : Nat
  modified : Nat
  accessed : Nat
  config : Option FSConfig
  /-- Of a file: whether the backend has it. -/
  backendExists : Bool
  /-- Of a file not created yet: the folder whose `CreateFile` it will call. -/
  creator : Ref
  /-- Of a folder: `mItemMap`. -/
  items : KeyMap String Ref
  /-- Of a folder: whether `mItemMap` has been loaded. -/
  haveItems : Bool

/-- What `Item::Item` starts with. -/
def Item.blank (kind : Kind) : Item where
  kind
  id := ""
  name := ""
  parent := none
  created := 0
  modified := 0
  accessed := 0
  config := none
  backendExists := false
  creator := 0
  items := .empty
  haveItems := false

/-- What the items call: the backend, the clock, and the page managers of the files. `β` is the
state of all these. -/
structure Calls (β : Type) where
  /-- `BackendImpl::isReadOnly`. -/
  readOnly : Bool
  /-- Whether the cache type is `NONE`. -/
  uncached : Bool
  /-- The time of a new file. -/
  now : β → Nat
  /-- Whether the contents of a folder are older than the refresh time. -/
  expired : Ref → EStateM ItemError β Bool
  /-- `FSConfig::LoadByID`. -/
  loadByID : String → EStateM ItemError β FSConfig
  getFolder : String → EStateM ItemError β FolderData
  createFile : String → String → EStateM ItemError β ItemData
  uploadFile : String → String → EStateM ItemError β ItemData
  createFolder : String → String → EStateM ItemError β ItemData
  deleteFile : String → EStateM ItemError β Unit
  deleteFolder : String → EStateM ItemError β Unit
  renameFile : String → String → Bool → EStateM ItemError β Unit
  renameFolder : String → String → Bool → EStateM ItemError β Unit
  moveFile : String → String → Bool → EStateM ItemError β Unit
  moveFolder : String → String → Bool → EStateM ItemError β Unit
  /-- The page manager of a new file, of some size on the backend. -/
  openFile : Ref → Nat → β → β
  /-- The size of a file on the backend. -/
  backendSize : Ref → β → Nat
  /-- `PageManager::RemoteChanged`. -/
  remoteChanged : Ref → Nat → β → β
  /-- Whether the first flush of a file has a first page to upload. -/
  hasFirstPage : Ref → EStateM ItemError β Bool
  /-- The writes of the dirty pages of a file that exists. -/
  writeFile : Ref → String → EStateM ItemError β Unit

/-- The items that were ever made, the next free address, and the state of what is called.
Deleting an item only takes it out of its owner's map. -/
structure World (β : Type) where
  heap : Ref → Item
  next : Ref
  outside : β

namespace World

variable {β : Type}

/-- What each folder owns, by name. -/
def owns (world : World β) : Owners Ref String := fun folder name =>
  (world.heap folder).items.find? name

/-- Change an item in place. -/
def setItem (world : World β) (ref : Ref) (change : Item → Item) : World β :=
  { world with heap := Function.update world.heap ref (change (world.heap ref)) }

/-- Put a new item at the next address. -/
def allocate (world : World β) (item : Item) : World β :=
  { world with heap := Function.update world.heap world.next item, next := world.next + 1 }

end World

abbrev Exec (β : Type) := EStateM ItemError (World β)

section

variable {β α : Type}

def getItem (ref : Ref) : Exec β Item := do
  return (← get).heap ref

def setItem (ref : Ref) (change : Item → Item) : Exec β Unit :=
  modify fun world => world.setItem ref change

/-- A new object, constructed. -/
def allocate (item : Item) : Exec β Ref := do
  let world ← get
  set (world.allocate item)
  return world.next

/-- A call of the backend, the clock or a page manager. -/
def call (request : EStateM ItemError β α) : Exec β α := fun world =>
  match request world.outside with
  | .ok value outside => .ok value { world with outside }
  | .error exception outside => .error exception { world with outside }

/-- What a call that returns nothing does. -/
def notify (change : β → β) : Exec β Unit :=
  modify fun world => { world with outside := change world.outside }

/-- `data.at(field).get_to`. -/
def field (value : Option α) : Exec β α :=
  match value with
  | some value => pure value
  | none => throw .json

end

end Andromeda.Folders
