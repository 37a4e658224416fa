import Andromeda.FileData.CacheQueue
import Andromeda.FileData.PageBackend

/-! The page manager's write-back: runs of dirty pages, flushes and evictions. -/

set_option autoImplicit false

namespace Andromeda.FileData

namespace PageManager

/-- The loop of `GetWriteList` from the given entries on: the run, and the
entries from the first one not used. -/
def takeRun (uploadMax : Nat) : List (Nat × Page) → Nat → Nat → List (Nat × Page) →
    List (Nat × Page) × List (Nat × Page)
  | writeList, _, _, [] => (writeList, [])
  | writeList, curSize, lastIndex, (index, page) :: rest =>
    if page.dirty then
      if writeList.isEmpty then
        takeRun uploadMax [(index, page)] (curSize + page.size) index rest
      else if lastIndex + 1 ≠ index ∨ 2 ^ 64 ≤ curSize + page.size then
        (writeList, (index, page) :: rest)
      -- a bigger write than the backend can send at once is of no use
      else if uploadMax ≠ 0 ∧ uploadMax < curSize + page.size then
        (writeList, (index, page) :: rest)
      else takeRun uploadMax (writeList ++ [(index, page)]) (curSize + page.size) index rest
    else if writeList.isEmpty then takeRun uploadMax writeList curSize lastIndex rest
    else (writeList, (index, page) :: rest)

/-- `GetWriteList`. -/
def getWriteList (uploadMax : Nat) (entries : List (Nat × Page)) :
    List (Nat × Page) × List (Nat × Page) :=
  takeRun uploadMax [] 0 0 entries

/-- The loop of `FlushPages` that collects the runs. -/
def writeLists (uploadMax : Nat) : Nat → List (Nat × Page) → List (List (Nat × Page))
  | 0, _ => []
  | _ + 1, [] => []
  | fuel + 1, entry :: rest =>
    let (writeList, remaining) := getWriteList uploadMax (entry :: rest)
    if writeList.isEmpty then writeLists uploadMax fuel remaining
    else writeList :: writeLists uploadMax fuel remaining

/-- The byte after the last dirty byte. -/
def maxDirty (config : Config) (pages : PageMap) : Nat :=
  pages.entries.foldl (fun bound entry =>
    if entry.2.dirty then max bound (entry.1 * config.pageSize + entry.2.size) else bound) 0

variable (config : Config) (env : Env)

/-- A flushed page is no longer dirty, and the cache manager is told. -/
def cleanPage (world : World) (index : Nat) : World :=
  { world with
    pageManager := { world.pageManager with
      pages := world.pageManager.pages.update index (·.setDirty false) }
    cacheManager :=
      if config.cacheMgr then world.cacheManager.removeDirty ownManager index
      else world.cacheManager }

/-- A page leaves the map. -/
def erasePage (world : World) (index : Nat) : World :=
  { world with pageManager := { world.pageManager with
      pages := world.pageManager.pages.erase index } }

/-- The cache manager forgets a page. -/
def forgetPage (world : World) (index : Nat) : World :=
  { world with cacheManager :=
      if config.cacheMgr then world.cacheManager.removePage ownManager index
      else world.cacheManager }

/-- `FlushCreate`: also extends the file on the backend if it was truncated to a
larger size before it existed. -/
def flushCreate : Exec Unit := do
  PageBackend.flushCreate env
  let world ← get
  if max world.pageBackend.backendSize (maxDirty config world.pageManager.pages) <
      world.pageManager.fileSize then
    PageBackend.truncate env world.pageManager.fileSize

/-- `FlushPageList`. -/
def flushPageList (index : Nat) (indices : List Nat) : Exec Nat := do
  let mustCreate := !(← get).pageBackend.backendExists
  let totalSize ←
    if indices.isEmpty then pure 0 else PageBackend.flushPageList config env index indices
  modify fun world => indices.foldl (cleanPage config) world
  if mustCreate then flushCreate config env
  return totalSize

/-- `EvictPage`. A dirty page is kept if it cannot be written at random. -/
def evictPage (index : Nat) : Exec Unit := do
  let world ← get
  match world.pageManager.pages.find? index with
  | none => pure ()
  | some page =>
    if page.dirty ∧ config.randWrite then
      let writeList := (getWriteList world.uploadMaxBytes
        (world.pageManager.pages.entriesFrom index)).1
      let _ ← flushPageList config env index (writeList.map Prod.fst)
    modify fun world => forgetPage config world index
    if !page.dirty ∨ config.randWrite then modify fun world => erasePage world index
    else modify fun world => { world with pageManager := { world.pageManager with
      deferredEvicts := world.pageManager.deferredEvicts ++ [index] } }

/-- `FlushPage`. -/
def flushPage (index : Nat) : Exec Nat := do
  let world ← get
  match world.pageManager.pages.find? index with
  | none => return 0
  | some page =>
    let writeList :=
      if page.dirty ∧ config.randWrite then
        (getWriteList world.uploadMaxBytes (world.pageManager.pages.entriesFrom index)).1
      else []
    if writeList.isEmpty then
      if config.cacheMgr then
        modify fun world => { world with
          cacheManager := world.cacheManager.removeDirty ownManager index }
      return 0
    else flushPageList config env index (writeList.map Prod.fst)

/-- The part of `FlushPages` that writes the runs. Without any, a file that is not
on the backend is still created. -/
def flushRuns (runs : List (List (Nat × Page))) : Exec Unit := do
  if runs.isEmpty then
    let _ ← flushPageList config env 0 []
  else
    forM runs fun run => do
      let _ ← flushPageList config env ((run.head?.map Prod.fst).getD 0) (run.map Prod.fst)

/-- The part of `FlushPages` that does the evictions put off. A page put off again
meanwhile would keep the loop over them from ending. -/
def evictDeferred : Exec Unit := do
  let deferred := (← get).pageManager.deferredEvicts
  forM deferred fun index => evictPage config env index
  if (← get).pageManager.deferredEvicts.length ≠ deferred.length then throw .hang
  modify fun world => { world with pageManager := { world.pageManager with
    deferredEvicts := [] } }

/-- `FlushPages`. -/
def flushPages : Exec Unit := do
  let world ← get
  flushRuns config env (writeLists world.uploadMaxBytes
    world.pageManager.pages.entries.length world.pageManager.pages.entries)
  evictDeferred config env

end PageManager

end Andromeda.FileData
