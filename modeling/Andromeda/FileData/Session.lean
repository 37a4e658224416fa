import Andromeda.FileData.File

/-! Sessions: sequences of operations on one file, each with its own environment. -/

set_option autoImplicit false

namespace Andromeda.FileData

/-- One step of a session. The first four are the file's own operations; evictions
and flushes of a page come from the cache manager, `fetchDone` lets a detached
fetch thread run, and the rest happens outside the file. -/
inductive Op where
  | readBytes (offset length : Nat)
  | writeBytes (buffer : Bytes) (offset : Nat)
  | truncate (newSize : Nat)
  | flushCache
  | evictPage (index : Nat)
  | flushPage (index : Nat)
  | fetchDone (thread : Nat)
  /-- The folder reports a new size of the file. -/
  | remoteChanged (backendSize : Nat)
  /-- Another client replaces the stored bytes. -/
  | remoteWrite (data : Bytes)
  /-- Another upload finds a new limit. -/
  | setUploadMaxBytes (limit : Nat)
  /-- Other page managers change their queue entries. -/
  | otherManagers (pageQueue dirtyQueue : List PageInfo)
  deriving DecidableEq

/-- The bytes an operation returns; only `readBytes` returns any. -/
def Op.run (config : Config) (env : Env) : Op → Exec Bytes
  | .readBytes offset length => File.readBytes config env offset length
  | .writeBytes buffer offset => do
    File.writeBytes config env buffer offset
    return []
  | .truncate newSize => do
    File.truncate config env newSize
    return []
  | .flushCache => do
    File.flushCache config env
    return []
  | .evictPage index => do
    PageManager.evictPage config env index
    return []
  | .flushPage index => do
    CacheManager.flushPage config env index
    return []
  | .fetchDone thread => do
    PageManager.runFetch config env thread
    return []
  | .remoteChanged backendSize => do
    PageManager.remoteChanged config backendSize
    return []
  | .remoteWrite data => do
    modify fun world => { world with remote := world.remote.map fun _ => data }
    return []
  | .setUploadMaxBytes limit => do
    modify fun world => { world with uploadMaxBytes := limit }
    return []
  | .otherManagers pageQueue dirtyQueue => do
    modify fun world => { world with
      cacheManager := world.cacheManager.otherManagers pageQueue dirtyQueue }
    return []

/-- The state an operation leaves, whether it returned or threw. -/
def exitState {α : Type} (result : EStateM.Result Exception World α) : World :=
  match result with
  | .ok _ world => world
  | .error _ world => world

/-- A step of a session. -/
def step (config : Config) (world : World) (action : Op × Env) : World :=
  exitState (action.1.run config action.2 world)

/-- A session runs its actions in order. -/
def session (config : Config) (world : World) (actions : List (Op × Env)) : World :=
  actions.foldl (step config) world

def PageManager.init (fileSize : Nat) : PageManager where
  fileSize
  fetchSize := 1
  pages := .empty
  pendingPages := []
  failedPages := []
  deferredEvicts := []

/-- A cache manager that holds other files' pages only. -/
structure CacheManager.Fresh (cache : CacheManager) : Prop where
  ownPages : own cache.pageQueue = []
  ownDirty : own cache.dirtyQueue = []
  currentTotal : cache.currentTotal = total cache.pageQueue
  currentDirty : cache.currentDirty = total cache.dirtyQueue

/-- A file loaded from the backend. -/
def World.existing (data : Bytes) (cache : CacheManager) (uploadMaxBytes : Nat) : World where
  remote := some data
  pageBackend := ⟨data.length, true⟩
  pageManager := .init data.length
  cacheManager := cache
  uploadMaxBytes
  fetchThreads := []
  trace := ⟨0, [], []⟩

/-- A file created locally and not yet on the backend. -/
def World.pending (cache : CacheManager) (uploadMaxBytes : Nat) : World where
  remote := none
  pageBackend := ⟨0, false⟩
  pageManager := .init 0
  cacheManager := cache
  uploadMaxBytes
  fetchThreads := []
  trace := ⟨0, [], []⟩

/-- The two ways a file starts. An uncached file is created on the backend at once. -/
inductive Initial (config : Config) : World → Prop where
  | existing {data cache uploadMaxBytes} : cache.Fresh →
      Initial config (World.existing data cache uploadMaxBytes)
  | pending {cache uploadMaxBytes} : cache.Fresh → config.cacheType = .normal →
      Initial config (World.pending cache uploadMaxBytes)

end Andromeda.FileData
