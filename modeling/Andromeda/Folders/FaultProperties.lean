import Andromeda.Folders.ItemProperties
import Andromeda.Folders.Operations

/-! Which exceptions come from the backend and its answers, and which ones from the checks of the
items. -/

set_option autoImplicit false

namespace Andromeda.Folders

open Andromeda.Library

variable {α β : Type}

/-- An exception of the backend, or of an answer that does not have the form it should have. -/
def ItemError.Fault (exception : ItemError) : Prop := exception = .json ∨ exception = .backend

/-- What is called throws no exceptions of items. -/
structure Calls.Faults (calls : Calls β) : Prop where
  expired : ∀ folder, Raises ItemError.Fault (calls.expired folder)
  loadByID : ∀ storage, Raises ItemError.Fault (calls.loadByID storage)
  getFolder : ∀ folder, Raises ItemError.Fault (calls.getFolder folder)
  createFile : ∀ folder name, Raises ItemError.Fault (calls.createFile folder name)
  uploadFile : ∀ folder name, Raises ItemError.Fault (calls.uploadFile folder name)
  createFolder : ∀ folder name, Raises ItemError.Fault (calls.createFolder folder name)
  deleteFile : ∀ id, Raises ItemError.Fault (calls.deleteFile id)
  deleteFolder : ∀ id, Raises ItemError.Fault (calls.deleteFolder id)
  renameFile : ∀ id name overwrite, Raises ItemError.Fault (calls.renameFile id name overwrite)
  renameFolder : ∀ id name overwrite, Raises ItemError.Fault (calls.renameFolder id name overwrite)
  moveFile : ∀ id parent overwrite, Raises ItemError.Fault (calls.moveFile id parent overwrite)
  moveFolder : ∀ id parent overwrite, Raises ItemError.Fault (calls.moveFolder id parent overwrite)
  hasFirstPage : ∀ file, Raises ItemError.Fault (calls.hasFirstPage file)
  writeFile : ∀ file id, Raises ItemError.Fault (calls.writeFile file id)

private theorem raises_getItem (ref : Ref) : Raises ItemError.Fault (getItem ref : Exec β Item) :=
  fun _ => trivial

private theorem raises_setItem (ref : Ref) (change : Item → Item) :
    Raises ItemError.Fault (setItem ref change : Exec β Unit) := fun _ => trivial

private theorem raises_allocate (item : Item) :
    Raises ItemError.Fault (allocate item : Exec β Ref) :=
  fun _ => trivial

private theorem raises_notify (change : β → β) :
    Raises ItemError.Fault (notify change : Exec β Unit) := fun _ => trivial

private theorem raises_call {request : EStateM ItemError β α}
    (faults : Raises ItemError.Fault request) :
    Raises ItemError.Fault (call request) := by
  intro world
  rw [call_iff]
  exact faults world.outside

private theorem raises_field (value : Option α) :
    Raises ItemError.Fault (field value : Exec β α) := by
  cases value with
  | some value => exact raises_pure value
  | none => exact raises_throw (Or.inl rfl)

private theorem raises_validateName (name : String) :
    Raises ItemError.Fault (validateName name true : Exec β Unit) :=
  raises_ite (fun _ => raises_throw (Or.inl rfl)) fun _ => raises_pure ()

private theorem raises_itemFrom (kind : Kind) (data : ItemData) :
    Raises ItemError.Fault (itemFrom kind data : Exec β Item) :=
  raises_bind (raises_field _) fun _ => raises_bind (raises_field _) fun _ =>
    raises_bind (raises_field _) fun _ => raises_bind (raises_field _) fun _ =>
      raises_bind (raises_field _) fun _ => raises_pure _

private theorem raises_refreshItem (ref : Ref) (data : ItemData) :
    Raises ItemError.Fault (refreshItem ref data : Exec β Unit) := by
  have dates : ∀ _ : Unit, Raises ItemError.Fault (do
      let newCreated ← field data.dateCreated
      setItem ref fun item => { item with created := newCreated }
      let newModified ← field data.dateModified
      setItem ref fun item => { item with modified := newModified.getD item.modified }
      let newAccessed ← field data.dateAccessed
      setItem ref fun item => { item with accessed := newAccessed.getD item.accessed }
        : Exec β Unit) := fun _ =>
    raises_bind (raises_field _) fun _ => raises_bind (raises_setItem _ _) fun _ =>
      raises_bind (raises_field _) fun _ => raises_bind (raises_setItem _ _) fun _ =>
        raises_bind (raises_field _) fun _ => raises_setItem _ _
  exact raises_bind (raises_field _) fun newName => raises_bind (raises_getItem _) fun item =>
    raises_ite (fun _ => raises_bind (raises_validateName _) fun _ =>
      raises_bind (raises_setItem _ _) dates) fun _ => dates ()

section

variable {calls : Calls β}

private theorem raises_refreshFile (ref : Ref) (data : ItemData) :
    Raises ItemError.Fault (refreshFile calls ref data) := by
  have size : ∀ _ : Unit, Raises ItemError.Fault (do
      let newSize ← field data.size
      if newSize ≠ calls.backendSize ref (← get).outside then
        notify (calls.remoteChanged ref newSize) : Exec β Unit) := fun _ =>
    raises_bind (raises_field _) fun _ => raises_bind raises_get fun _ =>
      raises_ite (fun _ => raises_notify _) fun _ => raises_pure _
  exact raises_bind (raises_refreshItem _ _) fun _ => raises_bind (raises_getItem _) fun _ =>
    raises_ite (fun _ => raises_bind (raises_field _) fun _ =>
      raises_bind (raises_setItem _ _) size) fun _ => size ()

private theorem raises_refresh (ref : Ref) (data : ItemData) :
    Raises ItemError.Fault (refresh calls ref data) := by
  refine raises_bind (raises_getItem ref) fun item => ?_
  cases item.kind with
  | file => exact raises_refreshFile ref data
  | folder => exact raises_refreshItem ref data

private theorem raises_collect (kind : Kind) (list : List ItemData) (newItems : NewItemMap) :
    Raises ItemError.Fault (collect kind list newItems : Exec β NewItemMap) := by
  induction list generalizing newItems with
  | nil => exact raises_pure _
  | cons data rest ih => exact raises_bind (raises_field _) fun name => ih _

end

namespace Calls.Faults

variable {calls : Calls β} (faults : calls.Faults)

include faults

theorem newItem (folder : Ref) (data : ItemData) (kind : Kind) :
    Raises ItemError.Fault (newItem calls folder data kind) := by
  cases kind with
  | file =>
      exact raises_bind (raises_itemFrom _ _) fun _ => raises_bind (raises_field _) fun _ =>
        raises_bind (raises_field _) fun _ => raises_bind (raises_call (faults.loadByID _)) fun _ =>
          raises_bind (raises_allocate _) fun _ => raises_bind (raises_notify _) fun _ =>
            raises_pure _
  | folder =>
      exact raises_bind (raises_itemFrom _ _) fun _ => raises_bind (raises_field _) fun _ =>
        raises_bind (raises_call (faults.loadByID _)) fun _ => raises_allocate _

private theorem syncItem (folder : Ref) (entry : String × ItemData × Kind) :
    Raises ItemError.Fault (syncItem calls folder entry) := by
  refine raises_bind (raises_validateName _) fun _ => raises_bind (raises_getItem _) fun item => ?_
  cases item.items.find? entry.1 with
  | some existing => exact raises_refresh existing entry.2.1
  | none => exact raises_bind (faults.newItem _ _ _) fun _ => raises_setItem _ _

private theorem loadItemsFrom (folder : Ref) (data : FolderData) :
    Raises ItemError.Fault (loadItemsFrom calls folder data) :=
  raises_bind (raises_field _) fun _ => raises_bind (raises_collect _ _ _) fun _ =>
    raises_bind (raises_field _) fun _ => raises_bind (raises_collect _ _ _) fun _ =>
      raises_bind (raises_forM fun _ => faults.syncItem _ _) fun _ => raises_modify _

/-- Loading a folder throws what the backend throws. -/
theorem loadItems (folder : Ref) (canRefresh : Bool) :
    Raises ItemError.Fault (loadItems calls folder canRefresh) :=
  raises_bind (raises_call (faults.expired _)) fun _ => raises_bind (raises_getItem _) fun _ =>
    raises_ite (fun _ => raises_bind (raises_call (faults.getFolder _)) fun _ =>
      raises_bind (faults.loadItemsFrom _ _) fun _ => raises_setItem _ _) fun _ => raises_pure _

theorem makeFile (folder : Ref) (name : String) :
    Raises ItemError.Fault (makeFile calls folder name) :=
  raises_bind (raises_getItem _) fun _ => raises_ite
    (fun _ => raises_bind (raises_call (faults.createFile _ _)) fun data =>
      faults.newItem folder data .file)
    fun _ => raises_bind raises_get fun _ => raises_bind (raises_allocate _) fun _ =>
      raises_bind (raises_notify _) fun _ => raises_pure _

/-- Flushing a file throws what the backend throws. -/
theorem flushCache (ref : Ref) : Raises ItemError.Fault (flushCache calls ref) := by
  have written : ∀ _ : Unit, Raises ItemError.Fault
      (do call (calls.writeFile ref (← getItem ref).id) : Exec β Unit) := fun _ =>
    raises_bind (raises_getItem _) fun _ => raises_call (faults.writeFile _ _)
  have entered : ∀ data, Raises ItemError.Fault (do
      refreshFile calls ref data
      setItem ref fun item => { item with backendExists := true } : Exec β Unit) := fun data =>
    raises_bind (raises_refreshFile _ _) fun _ => raises_setItem _ _
  refine raises_bind (raises_getItem _) fun _ => raises_ite
    (fun _ => raises_bind ?_ written) fun _ => written ()
  exact raises_bind (raises_getItem _) fun _ => raises_bind (raises_getItem _) fun _ =>
    raises_bind (raises_call (faults.hasFirstPage _)) fun _ => raises_ite
      (fun _ => raises_bind (raises_call (faults.uploadFile _ _)) entered)
      fun _ => raises_bind (raises_call (faults.createFile _ _)) entered

end Calls.Faults

end Andromeda.Folders
