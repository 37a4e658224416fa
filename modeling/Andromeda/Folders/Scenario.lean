import Andromeda.Folders.Items

/-! A server where nothing fails, and a small tree, for single calls. -/

set_option autoImplicit false

namespace Andromeda.Folders.Scenario

open Andromeda.Library

/-- The data of an item with an ID and a name. -/
def dataOf (id name : String) : ItemData where
  id := some id
  name := some name
  dateCreated := some 0
  dateModified := some none
  dateAccessed := some none
  size := some 0
  storage := some ""

/-- Nothing fails and nothing expires; a new item has its name as its ID. -/
def calls : Calls Unit where
  readOnly := false
  uncached := false
  now _ := 0
  expired _ := pure false
  loadByID _ := pure ⟨false⟩
  getFolder _ := pure ⟨some [], some []⟩
  createFile _ name := pure (dataOf name name)
  uploadFile _ name := pure (dataOf name name)
  createFolder _ name := pure (dataOf name name)
  deleteFile _ := pure ()
  deleteFolder _ := pure ()
  renameFile _ _ _ := pure ()
  renameFolder _ _ _ := pure ()
  moveFile _ _ _ := pure ()
  moveFolder _ _ _ := pure ()
  openFile _ _ := id
  backendSize _ _ := 0
  remoteChanged _ _ := id
  hasFirstPage _ := pure false
  writeFile _ _ := pure ()

/-- A folder that was loaded with one file in it. -/
def oneFile (id name : String) : World Unit where
  heap ref :=
    if ref = 0 then { Item.blank .folder with
      items := KeyMap.empty.insert name 1
      haveItems := true }
    else { Item.blank .file with
      id, name
      parent := some 0
      backendExists := true }
  next := 2
  outside := ()

end Andromeda.Folders.Scenario
