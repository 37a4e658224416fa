import Andromeda.FileData.Session

/-! Runs of the page manager's own calls, each with its own environment. -/

set_option autoImplicit false

namespace Andromeda.FileData

/-- One call into the page manager. Another client's change of the stored bytes comes with
the report of their new size. -/
inductive PageCall where
  | readPage (index offset length : Nat)
  | writePage (buffer : Bytes) (index offset : Nat)
  | truncate (newSize : Nat)
  | flushPages
  | flushPage (index : Nat)
  | evictPage (index : Nat)
  | fetchDone (thread : Nat)
  | remoteChanged (data : Bytes)
  | setUploadMaxBytes (limit : Nat)
  | otherManagers (pageQueue dirtyQueue : List PageInfo)
  deriving DecidableEq

namespace PageCall

/-- The bytes a call returns; only `readPage` returns any. -/
def run (config : Config) (env : Env) : PageCall → Exec Bytes
  | .readPage index offset length => PageManager.readPage config env index offset length
  | .writePage buffer index offset => do
    PageManager.writePage config env buffer index offset
    return []
  | .truncate newSize => do
    PageManager.truncate config env newSize
    return []
  | .flushPages => do
    PageManager.flushPages config env
    return []
  | .flushPage index => do
    CacheManager.flushPage config env index
    return []
  | .evictPage index => do
    PageManager.evictPage config env index
    return []
  | .fetchDone thread => do
    PageManager.runFetch config env thread
    return []
  | .remoteChanged data => do
    modify fun world => { world with remote := world.remote.map fun _ => data }
    PageManager.remoteChanged config data.length
    return []
  | .setUploadMaxBytes limit => do
    modify fun world => { world with uploadMaxBytes := limit }
    return []
  | .otherManagers pageQueue dirtyQueue => do
    modify fun world => { world with
      cacheManager := world.cacheManager.otherManagers pageQueue dirtyQueue }
    return []

/-- The calls that change the content. -/
def isWrite : PageCall → Bool
  | .writePage _ _ _ | .truncate _ => true
  | _ => false

/-- The state a call leaves, whether it returned or threw. -/
def step (config : Config) (world : World) (call : PageCall × Env) : World :=
  exitState (call.1.run config call.2 world)

/-- The calls of a run are made in order. -/
def session (config : Config) (world : World) (calls : List (PageCall × Env)) : World :=
  calls.foldl (step config) world

/-- The ranges the callers keep to: a read lies in its page and in the file, a write in its
page. -/
def Permitted (config : Config) (world : World) : PageCall → Prop
  | .readPage index offset length => 0 < length ∧ offset + length ≤ config.pageSize ∧
      index * config.pageSize + offset + length ≤ world.pageManager.fileSize
  | .writePage buffer _ offset => 0 < buffer.length ∧ offset + buffer.length ≤ config.pageSize
  | _ => True

end PageCall

end Andromeda.FileData
