import Andromeda.FileData.Session

/-! Concrete configurations, environments and caches, for single sessions. -/

set_option autoImplicit false

namespace Andromeda.FileData.Scenario

/-- Pages of ten bytes, byte-sized allocations and a cache manager that works in the
caller's thread. -/
def config (mode : WriteMode) : Config where
  pageSize := 10
  pageSize_pos := by decide
  storageMode := mode
  canRandWrite := true
  readOnlyFS := false
  cacheType := .normal
  readAheadBuffer := 2
  cacheMgr := true
  cleanupThreads := false
  memoryLimit := 1000
  allocPageSize := 1
  allocPageSize_pos := by decide
  streamBufferSize := 4
  streamBufferSize_pos := by decide

/-- Nothing throws and no limit changes. -/
def env : Env where
  fault _ _ := false
  delivered _ := 0
  uploadLimit world := world.uploadMaxBytes
  dirtyLimit world := world.cacheManager.dirtyLimit
  fetchTarget world := world.pageManager.fetchSize
  waited world := (world.cacheManager.pageQueue, world.cacheManager.dirtyQueue)
  nextFetch _ := 0

/-- Some calls throw. -/
def failing (fault : World → Call → Bool) : Env := { env with fault }

/-- An empty cache with this dirty limit. -/
def cache (dirtyLimit : Nat) : CacheManager := ⟨[], [], 0, 0, dirtyLimit⟩

theorem cache_fresh (dirtyLimit : Nat) : (cache dirtyLimit).Fresh := ⟨rfl, rfl, rfl, rfl⟩

/-- The bytes 1, 2, 3 and so on. -/
def bytes (count : Nat) : Bytes := (List.range count).map fun position => UInt8.ofNat (position + 1)

/-- Whether a run returned. -/
def returned {α : Type} : EStateM.Result Exception World α → Bool
  | .ok _ _ => true
  | .error _ _ => false

theorem eq_ok {result : EStateM.Result Exception World Unit} (ok : returned result = true) :
    result = .ok () (exitState result) := by
  cases result with
  | ok value final => rfl
  | error exception final => cases ok

/-- The exception a run threw. -/
def thrown {α : Type} : EStateM.Result Exception World α → Option Exception
  | .ok _ _ => none
  | .error exception _ => some exception

theorem eq_error {α : Type} {result : EStateM.Result Exception World α} {exception : Exception}
    (threw : thrown result = some exception) : result = .error exception (exitState result) := by
  cases result with
  | ok value final => cases threw
  | error other final =>
      cases threw
      rfl

end Andromeda.FileData.Scenario
