import Andromeda.Folders.TreeProperties

/-! What a backend directory with one client does, and when a folder tree mirrors it. -/

set_option autoImplicit false

namespace Andromeda.Folders

open Andromeda.Library

variable {β : Type}

/-- The children of the folders of a backend: the ID under a folder's ID and a name. -/
abbrev Entries := Owners String String

/-- A new item, with a new ID, under a name that was free. -/
structure Created (rootId : String) (entries : Entries) (folder name : String) (data : ItemData)
    (final : Entries) : Prop where
  free : entries folder name = none
  named : data.name = some name
  fresh : ∀ id, data.id = some id → id ≠ rootId ∧ (∀ name, entries id name = none) ∧
    ∀ folder name, entries folder name ≠ some id
  entry : ∀ other otherName, final other otherName =
    if other = folder ∧ otherName = name then data.id else entries other otherName

/-- An item was deleted, with what is inside. -/
structure Deleted (entries : Entries) (id : String) (final : Entries) : Prop where
  entry : ∀ folder, ¬ entries.Under id folder → ∀ name, final folder name =
    if entries folder name = some id then none else entries folder name

/-- An item took a place, and what was there was deleted, with what is inside. -/
structure TookPlace (entries : Entries) (id source oldName target newName : String)
    (overwrite : Bool) (final : Entries) : Prop where
  was : entries source oldName = some id
  allowed : ∀ replaced, entries target newName = some replaced → replaced ≠ id →
    overwrite = true ∧ ¬ entries.Under replaced id
  entry : ∀ folder, (∀ replaced, entries target newName = some replaced → replaced ≠ id →
    ¬ entries.Under replaced folder) → ∀ name, final folder name =
      if folder = target ∧ name = newName then some id
      else if folder = source ∧ name = oldName then none else entries folder name

/-- An item has another name. -/
def Renamed (entries : Entries) (id newName : String) (overwrite : Bool) (final : Entries) :
    Prop :=
  ∃ folder oldName, TookPlace entries id folder oldName folder newName overwrite final

/-- An item is in another folder, which is not inside it. -/
def Moved (entries : Entries) (id parent : String) (overwrite : Bool) (final : Entries) : Prop :=
  ¬ entries.Under id parent ∧
    ∃ folder name, TookPlace entries id folder name parent name overwrite final

/-- The calls of a backend with ordinary directory semantics, of which this tree's client is
the only one. `entries` is what its folders hold; the laws are about calls that return. What
was inside a deleted or replaced folder does not matter any more. -/
structure Directory (calls : Calls β) (rootId : String) (entries : β → Entries) : Prop where
  /-- An item has one place. -/
  single : ∀ outside first second firstName secondName id,
    entries outside first firstName = some id → entries outside second secondName = some id →
    first = second ∧ firstName = secondName
  root_free : ∀ outside folder name, entries outside folder name ≠ some rootId
  expired : ∀ folder outside due final, calls.expired folder outside = .ok due final →
    entries final = entries outside
  loadByID : ∀ storage outside config final, calls.loadByID storage outside = .ok config final →
    entries final = entries outside
  hasFirstPage : ∀ file outside has final, calls.hasFirstPage file outside = .ok has final →
    entries final = entries outside
  writeFile : ∀ file id outside final, calls.writeFile file id outside = .ok () final →
    entries final = entries outside
  openFile : ∀ file size outside, entries (calls.openFile file size outside) = entries outside
  remoteChanged : ∀ file size outside,
    entries (calls.remoteChanged file size outside) = entries outside
  /-- A folder is listed with the names and IDs of its children. -/
  getFolder : ∀ folder outside data final, calls.getFolder folder outside = .ok data final →
    entries final = entries outside ∧
    ∀ files folders, data.files = some files → data.folders = some folders →
      (∀ item ∈ files ++ folders, ∀ name, item.name = some name →
        ∃ id, item.id = some id ∧ entries outside folder name = some id) ∧
      ∀ name id, entries outside folder name = some id →
        ∃ item ∈ files ++ folders, item.name = some name
  createFile : ∀ folder name outside data final,
    calls.createFile folder name outside = .ok data final →
      Created rootId (entries outside) folder name data (entries final)
  uploadFile : ∀ folder name outside data final,
    calls.uploadFile folder name outside = .ok data final →
      Created rootId (entries outside) folder name data (entries final)
  createFolder : ∀ folder name outside data final,
    calls.createFolder folder name outside = .ok data final →
      Created rootId (entries outside) folder name data (entries final)
  deleteFile : ∀ id outside final, calls.deleteFile id outside = .ok () final →
    Deleted (entries outside) id (entries final)
  deleteFolder : ∀ id outside final, calls.deleteFolder id outside = .ok () final →
    Deleted (entries outside) id (entries final)
  renameFile : ∀ id name overwrite outside final,
    calls.renameFile id name overwrite outside = .ok () final →
      Renamed (entries outside) id name overwrite (entries final)
  renameFolder : ∀ id name overwrite outside final,
    calls.renameFolder id name overwrite outside = .ok () final →
      Renamed (entries outside) id name overwrite (entries final)
  moveFile : ∀ id parent overwrite outside final,
    calls.moveFile id parent overwrite outside = .ok () final →
      Moved (entries outside) id parent overwrite (entries final)
  moveFolder : ∀ id parent overwrite outside final,
    calls.moveFolder id parent overwrite outside = .ok () final →
      Moved (entries outside) id parent overwrite (entries final)

/-- The ID that an item has on the backend. -/
def World.storedId (world : World β) (ref : Ref) : Option String :=
  if (world.heap ref).isPending then none else some (world.heap ref).id

/-- The tree mirrors the backend: a loaded folder has the entries of the backend, and besides
them its own files that are not created yet. `visible` tells which names of which folders are
loaded. -/
structure MirrorsAt (world : World β) (root : Ref) (rootId : String) (entries : Entries)
    (visible : Ref → String → Prop) : Prop where
  formed : WellFormed world root
  root_id : (world.heap root).id = rootId
  root_exists : (world.heap root).isPending = false
  unseen : ∀ folder name, world.Alive root folder → ¬ visible folder name →
    world.owns folder name = none
  mirror : ∀ folder name, world.Alive root folder → visible folder name →
    entries (world.heap folder).id name = (world.owns folder name).bind world.storedId
  ids : ∀ first second, world.Alive root first → world.Alive root second →
    (world.heap first).isPending = false → (world.heap second).isPending = false →
    (world.heap first).id = (world.heap second).id → first = second
  owner : ∀ folder name, world.Alive root folder → visible folder name →
    (world.heap folder).isPending = false
  pending : ∀ ref, world.Alive root ref → (world.heap ref).isPending = true →
    (world.heap ref).id = "" ∧ (world.heap ref).parent = some (world.heap ref).creator

/-- The tree mirrors the backend in the folders that were loaded. -/
abbrev Mirrors (world : World β) (root : Ref) (rootId : String) (entries : Entries) : Prop :=
  MirrorsAt world root rootId entries fun folder _ => (world.heap folder).haveItems = true

end Andromeda.Folders
