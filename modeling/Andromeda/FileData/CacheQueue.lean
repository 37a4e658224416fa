import Andromeda.FileData.State

/-! The queue operations of the cache manager that call nothing else. -/

set_option autoImplicit false

namespace Andromeda.FileData

/-- Whether a queue entry belongs to the page with this manager and index. -/
def PageInfo.isFor (info : PageInfo) (manager index : Nat) : Bool :=
  decide (info.manager = manager ∧ info.index = index)

/-- The number of this file's page manager. -/
def ownManager : Nat := 0

namespace CacheManager

/-- `OrderedMap::find` on a queue. -/
def lookup (queue : List PageInfo) (manager index : Nat) : Option PageInfo :=
  queue.find? fun info => info.isFor manager index

/-- `OrderedMap::erase` on a queue. -/
def erase (queue : List PageInfo) (manager index : Nat) : List PageInfo :=
  queue.filter fun info => !info.isFor manager index

/-- `RemoveDirty`. -/
def removeDirty (cache : CacheManager) (manager index : Nat) : CacheManager :=
  match lookup cache.dirtyQueue manager index with
  | none => cache
  | some info => { cache with
      currentDirty := cache.currentDirty - info.pageSize
      dirtyQueue := erase cache.dirtyQueue manager index }

/-- The queued size of a page, zero if it is not queued. -/
def queuedSize (cache : CacheManager) (manager index : Nat) : Nat :=
  match lookup cache.pageQueue manager index with
  | none => 0
  | some info => info.pageSize

/-- `RemovePage`: leaves both queues. -/
def removePage (cache : CacheManager) (manager index : Nat) : CacheManager :=
  removeDirty { cache with
    currentTotal := cache.currentTotal - cache.queuedSize manager index
    pageQueue := erase cache.pageQueue manager index } manager index

/-- `EnqueuePage`: to the front of the queues. -/
def enqueuePage (cache : CacheManager) (manager index newSize : Nat) (dirty : Bool) :
    CacheManager :=
  let removed := cache.removePage manager index
  let info : PageInfo := ⟨manager, index, newSize⟩
  let queued := { removed with
    pageQueue := info :: removed.pageQueue
    currentTotal := removed.currentTotal + newSize }
  if dirty then
    { queued with
      dirtyQueue := info :: queued.dirtyQueue
      currentDirty := queued.currentDirty + newSize }
  else queued

/-- Store a new size in the entry of a page. -/
def setSize (queue : List PageInfo) (manager index newSize : Nat) : List PageInfo :=
  queue.map fun info => if info.isFor manager index then { info with pageSize := newSize } else info

/-- The page queue part of `ResizePage`. -/
def resizeQueued (cache : CacheManager) (manager index newSize : Nat) : CacheManager :=
  match lookup cache.pageQueue manager index with
  | none => cache
  | some info => { cache with
      currentTotal := cache.currentTotal + newSize - info.pageSize
      pageQueue := setSize cache.pageQueue manager index newSize }

/-- The dirty queue part of `ResizePage`. -/
def resizeDirty (cache : CacheManager) (manager index newSize : Nat) : CacheManager :=
  match lookup cache.dirtyQueue manager index with
  | none => cache
  | some info => { cache with
      currentDirty := cache.currentDirty + newSize - info.pageSize
      dirtyQueue := setSize cache.dirtyQueue manager index newSize }

/-- `ShouldEvict`. -/
def shouldEvict (config : Config) (cache : CacheManager) : Bool :=
  decide (config.memoryLimit < cache.currentTotal)

/-- `ShouldFlush`. -/
def shouldFlush (cache : CacheManager) : Bool :=
  decide (cache.dirtyLimit < cache.currentDirty)

/-- The entries of this file's pages. -/
def own (queue : List PageInfo) : List PageInfo :=
  queue.filter fun info => info.manager = ownManager

/-- The sum of the queued sizes. -/
def total (queue : List PageInfo) : Nat :=
  (queue.map PageInfo.pageSize).sum

/-- Other page managers using the cache: they change their own entries only. -/
def otherManagers (cache : CacheManager) (pageQueue dirtyQueue : List PageInfo) : CacheManager :=
  if own pageQueue = own cache.pageQueue ∧ own dirtyQueue = own cache.dirtyQueue then
    { cache with
      pageQueue, dirtyQueue
      currentTotal := total pageQueue
      currentDirty := total dirtyQueue }
  else cache

end CacheManager

end Andromeda.FileData
