import Andromeda.FileData.CacheQueue

/-! What the threads that use a cache manager do to its queues: the stretches of its calls
under the mutex. Between two of them a call may wait, evict or flush pages through their page
managers, or throw. -/

set_option autoImplicit false

namespace Andromeda.FileData

namespace CacheManager

/-- The choice of `DoPageEvictions` from the back of the queue on. The pages of a manager that
is being deleted are removed; the reverse iterator then steps over the entry before the removed
one. The choice ends at the front, past which the source's iterator is undefined. -/
def chooseEvictions (limit margin : Nat) (alive : Nat → Bool) (cleaned : Nat)
    (cache : CacheManager) : List PageInfo → CacheManager × List PageInfo
  | [] => (cache, [])
  | [info] =>
    if limit + cleaned < cache.currentTotal + margin then
      if alive info.manager then (cache, [info])
      else (cache.removePage info.manager info.index, [])
    else (cache, [])
  | info :: next :: rest =>
    if limit + cleaned < cache.currentTotal + margin then
      if alive info.manager then
        let (cache, chosen) :=
          chooseEvictions limit margin alive (cleaned + info.pageSize) cache (next :: rest)
        (cache, info :: chosen)
      else chooseEvictions limit margin alive cleaned
        (cache.removePage info.manager info.index) rest
    else (cache, [])

/-- The choice of `DoPageFlushes` from the back of the dirty queue on. -/
def chooseFlushes (alive : Nat → Bool) (cleaned : Nat) (cache : CacheManager) :
    List PageInfo → CacheManager × List PageInfo
  | [] => (cache, [])
  | [info] =>
    if cache.dirtyLimit + cleaned < cache.currentDirty then
      if alive info.manager then (cache, [info])
      else (cache.removePage info.manager info.index, [])
    else (cache, [])
  | info :: next :: rest =>
    if cache.dirtyLimit + cleaned < cache.currentDirty then
      if alive info.manager then
        let (cache, chosen) :=
          chooseFlushes alive (cleaned + info.pageSize) cache (next :: rest)
        (cache, info :: chosen)
      else chooseFlushes alive cleaned (cache.removePage info.manager info.index) rest
    else (cache, [])

/-- The stretches under the mutex that change the queues, with the page concerned, its capacity
at the time, and which managers can still be locked. -/
inductive Stretch where
  /-- `InformPage`, until it enforces the limits. -/
  | informPage (manager index capacity : Nat) (dirty : Bool)
  /-- `ResizePage`, until it enforces the memory limit. -/
  | resizePage (manager index capacity : Nat)
  /-- `ResizePage`, from there until it enforces the dirty limit. -/
  | resizeDirtyPage (manager index capacity : Nat)
  | removePage (manager index : Nat)
  | removeDirty (manager index : Nat)
  /-- `DoPageEvictions`, until it evicts. -/
  | chooseEvictions (limit margin : Nat) (alive : Nat → Bool)
  /-- `DoPageEvictions`, when an eviction threw: a page still queued goes to the front. -/
  | evictFailed (manager index capacity : Nat) (dirty : Bool)
  /-- `DoPageFlushes`, until it flushes. -/
  | chooseFlushes (alive : Nat → Bool)
  /-- `FlushPage`, after the flush: the dirty limit is measured. -/
  | flushed (dirtyLimit : Nat)

/-- What a stretch does to the cache manager. -/
def Stretch.run (cache : CacheManager) : Stretch → CacheManager
  | .informPage manager index capacity dirty => cache.enqueuePage manager index capacity dirty
  | .resizePage manager index capacity => cache.resizeQueued manager index capacity
  | .resizeDirtyPage manager index capacity => cache.resizeDirty manager index capacity
  | .removePage manager index => cache.removePage manager index
  | .removeDirty manager index => cache.removeDirty manager index
  | .chooseEvictions limit margin alive =>
    (CacheManager.chooseEvictions limit margin alive 0 cache cache.pageQueue.reverse).1
  | .evictFailed manager index capacity dirty =>
    let removed := cache.removePage manager index
    if cache.queuedSize manager index = 0 then removed
    else removed.enqueuePage manager index capacity dirty
  | .chooseFlushes alive =>
    (CacheManager.chooseFlushes alive 0 cache cache.dirtyQueue.reverse).1
  | .flushed dirtyLimit => { cache with dirtyLimit }

end CacheManager

end Andromeda.FileData
