import Andromeda.FileData.Invariants
import Andromeda.FileData.PageListProperties
import Andromeda.FileData.WriteListProperties

/-! The steps a write-back is made of. A flush or an eviction, however it nests
and wherever it stops, is a sequence of them. -/

set_option autoImplicit false

namespace Andromeda.FileData

open Andromeda.Library
open Andromeda.Library.Bytes (byteAt resize overwrite slice)

/-- A run of cached pages about to be written. Without random writes it begins
with the first dirty page. -/
structure RunAt (config : Config) (world : World) (first : Nat) (run : List (Nat × Page)) :
    Prop where
  nonempty : run ≠ []
  writeRun : WriteRun first run
  cached : ∀ entry ∈ run, world.pageManager.pages.find? entry.1 = some entry.2
  ordered {index page} : config.randWrite = false →
    world.pageManager.pages.find? index = some page → page.dirty = true → first ≤ index

/-- The checks of `FlushPageList` a page list can fail. -/
def Violated (config : Config) (world : World) (first : Nat) : ErrorCheck → Prop
  | .invalidWriteUpload =>
    config.getWriteMode = .upload ∧ world.pageBackend.backendExists = true
  | .invalidWriteAppend =>
    config.getWriteMode = .append ∧ world.pageBackend.backendExists = true ∧
      first * config.pageSize ≠ world.pageBackend.backendSize
  | .invalidWriteNoRandom =>
    config.randWrite = false ∧ world.pageBackend.backendExists = false ∧ first ≠ 0
  | _ => False

namespace World

/-- A failed check is logged. -/
def logged (world : World) (check : ErrorCheck) : World :=
  { world with trace := { world.trace with errors := world.trace.errors ++ [check] } }

/-- The backend has created the file. -/
def created (world : World) : World :=
  { world.request .createFile with
    remote := some []
    pageBackend := { world.pageBackend with backendExists := true } }

/-- The pages of a run are no longer dirty. -/
def cleaned (config : Config) (world : World) (run : List (Nat × Page)) : World :=
  (run.map Prod.fst).foldl (PageManager.cleanPage config) world

/-- The data of a run. -/
def runData (config : Config) (run : List (Nat × Page)) : Bytes :=
  PageBackend.pageListData config (run.map Prod.snd)

/-- The size of a run. -/
def runSize (run : List (Nat × Page)) : Nat := PageBackend.totalSize (run.map Prod.snd)

/-- The backend has written a run. -/
def written (config : Config) (world : World) (first : Nat) (run : List (Nat × Page)) : World :=
  { world.request (.writeFile (first * config.pageSize) (runData config run)
      world.stored.length) with
    remote := some (overwrite world.stored (first * config.pageSize) (runData config run))
    pageBackend := { world.pageBackend with
      backendSize := max world.pageBackend.backendSize
        (first * config.pageSize + runSize run) } }

/-- The backend has created the file with the data of a run. -/
def uploaded (config : Config) (world : World) (run : List (Nat × Page)) : World :=
  { world.request (.uploadFile (runData config run)) with
    remote := some (runData config run)
    pageBackend :=
      ⟨max world.pageBackend.backendSize (0 * config.pageSize + runSize run), true⟩ }

/-- The backend has extended the file to its size. -/
def extended (world : World) : World :=
  { world.request (.truncateFile world.pageManager.fileSize) with
    remote := some (resize world.stored world.pageManager.fileSize)
    pageBackend := { world.pageBackend with backendSize := world.pageManager.fileSize } }

/-- A dirty page that may not be written yet leaves the queues only. -/
def deferred (config : Config) (world : World) (index : Nat) : World :=
  { PageManager.forgetPage config world index with
    pageManager := { world.pageManager with
      deferredEvicts := world.pageManager.deferredEvicts ++ [index] } }

/-- A page leaves the dirty queue. -/
def undirtied (world : World) (index : Nat) : World :=
  { world with cacheManager := world.cacheManager.removeDirty ownManager index }

end World

/-- One step of a write-back. `concerned` is the page it is done for, which is not
evicted; `writes` says whether requests are made. -/
inductive FlushStep (config : Config) (concerned : Option Nat) (writes : Bool) :
    World → World → Prop
  | environment {world} (uploadMaxBytes dirtyLimit calls : Nat) :
      FlushStep config concerned writes world { world with
        uploadMaxBytes
        cacheManager := { world.cacheManager with dirtyLimit }
        trace := { world.trace with calls } }
  | otherManagers {world} (pageQueue dirtyQueue : List PageInfo) :
      FlushStep config concerned writes world { world with
        cacheManager := world.cacheManager.otherManagers pageQueue dirtyQueue }
  | log {world first run check} : writes = true → RunAt config world first run →
      Violated config world first check →
      FlushStep config concerned writes world (world.logged check)
  | create {world} : writes = true → world.pageBackend.backendExists = false →
      FlushStep config concerned writes world world.created
  | write {world first run} : writes = true → RunAt config world first run →
      world.pageBackend.backendExists = true →
      FlushStep config concerned writes world ((world.written config first run).cleaned config run)
  | upload {world run} : writes = true → RunAt config world 0 run →
      world.pageBackend.backendExists = false →
      FlushStep config concerned writes world ((world.uploaded config run).cleaned config run)
  | extend {world} : writes = true → world.pageBackend.backendExists = true →
      max world.pageBackend.backendSize
        (PageManager.maxDirty config world.pageManager.pages) < world.pageManager.fileSize →
      FlushStep config concerned writes world world.extended
  | evict {world index page} : world.pageManager.pages.find? index = some page →
      page.dirty = false → concerned ≠ some index →
      FlushStep config concerned writes world
        (PageManager.erasePage (PageManager.forgetPage config world index) index)
  | defer {world index page} : world.pageManager.pages.find? index = some page →
      page.dirty = true → config.randWrite = false → concerned ≠ some index →
      FlushStep config concerned writes world (world.deferred config index)
  | undirty {world index} : (config.randWrite = true → ∀ page,
        world.pageManager.pages.find? index = some page → page.dirty = false) →
      FlushStep config concerned writes world (world.undirtied index)
  | clearDeferred {world} :
      FlushStep config concerned writes world { world with
        pageManager := { world.pageManager with deferredEvicts := [] } }

/-- Any number of steps. -/
abbrev FlushSteps (config : Config) (concerned : Option Nat) (writes : Bool) :
    World → World → Prop :=
  Relation.ReflTransGen (FlushStep config concerned writes)

end Andromeda.FileData
