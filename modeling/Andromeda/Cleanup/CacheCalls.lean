import Andromeda.FileData.CacheStretches
import Mathlib.Logic.Function.Basic

/-! The cache manager with its two cleanup threads and the threads that use it: the state they
share, and what a call of `InformPage` or `ResizePage` does to it. A call runs with the cache
manager's mutex, but for its waits and its synchronous evictions and flushes. -/

set_option autoImplicit false

namespace Andromeda.Cleanup

open FileData (CacheManager PageInfo)

/-- The evict thread and the flush thread. What the source has once for each of them is indexed
by it. -/
inductive Cleaner where
  | evict
  | flush
  deriving DecidableEq

/-- The mode in which a thread has the lock of a page manager. -/
inductive LockMode where
  | read
  | write
  deriving DecidableEq

/-- `PageMgrPageMap`: page managers with their pages. -/
abbrev PageMap := List (Nat × List PageInfo)

/-- Where a cleanup thread is. -/
inductive Place where
  /-- Not started. -/
  | absent
  /-- At the top of its loop, before it has the mutex. -/
  | starting
  /-- With the mutex, before it loads `mRunCleanup` for the wait. -/
  | checking
  /-- With the mutex, after this load, about to wait. -/
  | settling
  | asleep
  /-- Woken, before it has the mutex again. -/
  | awake
  /-- With the mutex, after the wait. -/
  | leaving
  /-- In `DoPageEvictions` or `DoPageFlushes`, before it chooses the pages. -/
  | choosing
  /-- Before the next page manager of the map. -/
  | cleaning (left : PageMap)
  /-- In `GetPageManagerLock`, waiting for the lock of the page manager. -/
  | locking (manager : Nat) (pages : List PageInfo) (left : PageMap)
  /-- In `GetPageManagerLock`, with this lock. -/
  | locked (manager : Nat) (pages : List PageInfo) (left : PageMap)
  /-- Evicting or flushing the pages. -/
  | working (manager : Nat) (pages : List PageInfo) (left : PageMap)
  /-- About to give up the lock of the page manager. -/
  | unlocking (manager : Nat) (left : PageMap)
  | ended
  deriving DecidableEq

def Place.hasMutex : Place → Bool
  | checking | settling | leaving => true
  | _ => false

/-- A call of `InformPage` or `ResizePage` by a thread that has the lock of the page manager. -/
structure Call where
  manager : Nat
  index : Nat
  mode : LockMode
  canWait : Bool
  /-- Whether the call is given the write lock. -/
  mgrLock : Bool
  deriving DecidableEq

/-- What a call does after `HandleMemory`. -/
inductive Rest where
  | done
  | handleDirty
  /-- The dirty queue's part of `ResizePage`. -/
  | resizeDirty (newSize : Nat)
  deriving DecidableEq

/-- Where a thread that uses the cache manager is. -/
inductive Client where
  | idle
  /-- With the lock of a page manager, outside the cache manager. -/
  | holding (manager : Nat) (mode : LockMode)
  /-- Evicting or flushing a page itself, without the mutex. -/
  | synchronous (cleaner : Cleaner) (call : Call) (rest : Rest)
  /-- In the wait of `HandleMemory` or `HandleDirtyMemory`. -/
  | waiting (cleaner : Cleaner) (call : Call) (rest : Rest) (notified : Bool)
  deriving DecidableEq

def Client.isWaiting : Client → Bool
  | waiting .. => true
  | _ => false

def Client.notify (cleaner : Cleaner) : Client → Client
  | waiting waited call rest notified =>
    waiting waited call rest (notified || decide (waited = cleaner))
  | client => client

/-- How far `~CacheManager` has come. -/
inductive Destructor where
  | outside
  /-- Before `notify_one` to this thread. -/
  | notifying (cleaner : Cleaner)
  | joining (cleaner : Cleaner)
  | done
  deriving DecidableEq

/-- The cache manager, the locks of the page managers and where each thread is. -/
structure CacheThreads (τ : Type) where
  memoryLimit : Nat
  evictSizeFrac : Nat
  cache : CacheManager
  /-- Whether `mEvictFailure` and `mFlushFailure` are set. -/
  failure : Cleaner → Bool
  /-- `mSkipEvictWait` and `mSkipFlushWait`. -/
  skipWait : Cleaner → Option Nat
  runCleanup : Bool
  joinable : Cleaner → Bool
  places : Cleaner → Place
  clients : τ → Client
  /-- How many threads read under the lock of a page manager. -/
  readers : Nat → Nat
  /-- Whether a thread has the write lock of a page manager. -/
  writer : Nat → Bool
  destructor : Destructor

namespace CacheThreads

variable {τ : Type}

/-- A cache manager without pages, before `StartThreads`. -/
def init (memoryLimit evictSizeFrac : Nat) : CacheThreads τ where
  memoryLimit
  evictSizeFrac
  cache := ⟨[], [], 0, 0, 0⟩
  failure _ := false
  skipWait _ := none
  runCleanup := true
  joinable _ := false
  places _ := .absent
  clients _ := .idle
  readers _ := 0
  writer _ := false
  destructor := .outside

/-- Whether no cleanup thread has the mutex; the other threads never keep it over a step. -/
def mutexFree (state : CacheThreads τ) : Bool :=
  !(state.places .evict).hasMutex && !(state.places .flush).hasMutex

def goTo (state : CacheThreads τ) (cleaner : Cleaner) (place : Place) : CacheThreads τ :=
  { state with places := Function.update state.places cleaner place }

/-- `notify_one` on `mEvictThreadCV` or `mFlushThreadCV`, on which one thread waits. -/
def notifyThread (state : CacheThreads τ) (cleaner : Cleaner) : CacheThreads τ :=
  if state.places cleaner = .asleep then state.goTo cleaner .awake else state

/-- `notify_all` on `mEvictWaitCV` or `mFlushWaitCV`. -/
def notifyWaiters (state : CacheThreads τ) (cleaner : Cleaner) : CacheThreads τ :=
  { state with clients := fun thread => (state.clients thread).notify cleaner }

/-- `ShouldEvict` and `ShouldFlush`. -/
def exceeded (state : CacheThreads τ) : Cleaner → Bool
  | .evict => decide (state.memoryLimit < state.cache.currentTotal)
  | .flush => state.cache.shouldFlush

def queue (state : CacheThreads τ) : Cleaner → List PageInfo
  | .evict => state.cache.pageQueue
  | .flush => state.cache.dirtyQueue

/-- `ShouldSkipWait`. -/
def shouldSkipWait (state : CacheThreads τ) (manager : Nat) : Bool :=
  decide (state.skipWait .evict = some manager) || decide (state.skipWait .flush = some manager)

/-- What `ShouldAwaitEvict` and `ShouldAwaitFlush` answer. -/
inductive Await where
  | proceeds
  /-- `MemoryException`. -/
  | throws
  | sleeps
  deriving DecidableEq

/-- `ShouldAwaitEvict` and `ShouldAwaitFlush`. -/
def shouldAwait (state : CacheThreads τ) (cleaner : Cleaner) (manager : Nat) : Await :=
  if state.exceeded cleaner then
    if state.failure cleaner then .throws
    else if state.shouldSkipWait manager then .proceeds
    else .sleeps
  else .proceeds

/-- Whether the synchronous loop goes on: the limit is exceeded, and the least recently used
page is of this page manager and not the page of the call. -/
def picksOwn (state : CacheThreads τ) (cleaner : Cleaner) (call : Call) : Bool :=
  state.exceeded cleaner &&
    match (state.queue cleaner).getLast? with
    | none => false
    | some info => decide (info.manager = call.manager ∧ info.index ≠ call.index)

variable [DecidableEq τ]

def put (state : CacheThreads τ) (thread : τ) (client : Client) : CacheThreads τ :=
  { state with clients := Function.update state.clients thread client }

/-- Return from a call, or leave it with an exception. -/
def leaveCall (thread : τ) (call : Call) (state : CacheThreads τ) : CacheThreads τ :=
  state.put thread (.holding call.manager call.mode)

/-- The loop around the wait, and the rest of the call after it. -/
def awaitCleanup (cleaner : Cleaner) (thread : τ) (call : Call) (rest : Rest)
    (next : CacheThreads τ → CacheThreads τ) (state : CacheThreads τ) : CacheThreads τ :=
  match state.shouldAwait cleaner call.manager with
  | .proceeds => next state
  | .throws => leaveCall thread call state
  | .sleeps => (state.notifyThread cleaner).put thread (.waiting cleaner call rest false)

/-- What `HandleMemory` and `HandleDirtyMemory` do, and the rest of the call after them. -/
def handle (cleaner : Cleaner) (thread : τ) (call : Call) (rest : Rest)
    (next : CacheThreads τ → CacheThreads τ) (state : CacheThreads τ) : CacheThreads τ :=
  if call.mgrLock && call.canWait && state.picksOwn cleaner call then
    state.put thread (.synchronous cleaner call rest)
  else if state.joinable cleaner then
    if call.canWait then
      awaitCleanup cleaner thread call rest next
        { state with failure := Function.update state.failure cleaner false }
    else if state.exceeded cleaner then next (state.notifyThread cleaner)
    else next state
  else next state

/-- `HandleDirtyMemory`, the last part of a call. -/
def handleDirtyMemory (thread : τ) (call : Call) : CacheThreads τ → CacheThreads τ :=
  handle .flush thread call .done (leaveCall thread call)

/-- A call after `HandleMemory`. -/
def afterMemory (thread : τ) (call : Call) (state : CacheThreads τ) :
    Rest → CacheThreads τ
  | .done => leaveCall thread call state
  | .handleDirty => handleDirtyMemory thread call state
  | .resizeDirty newSize =>
    match CacheManager.lookup state.cache.dirtyQueue call.manager call.index with
    | none => leaveCall thread call state
    | some info =>
      let resized := { state with
        cache := state.cache.resizeDirty call.manager call.index newSize }
      if info.pageSize < newSize then handleDirtyMemory thread call resized
      else leaveCall thread call resized

/-- `HandleMemory`. -/
def handleMemory (thread : τ) (call : Call) (rest : Rest) : CacheThreads τ → CacheThreads τ :=
  handle .evict thread call rest fun state => afterMemory thread call state rest

/-- `InformPage`. -/
def informPage (thread : τ) (call : Call) (capacity : Nat) (dirty : Bool)
    (state : CacheThreads τ) : CacheThreads τ :=
  let queued := { state with
    cache := state.cache.enqueuePage call.manager call.index capacity dirty }
  if state.cache.queuedSize call.manager call.index < capacity then
    handleMemory thread call (if dirty then .handleDirty else .done) queued
  else leaveCall thread call queued

/-- `ResizePage`. -/
def resizePage (thread : τ) (call : Call) (newSize : Nat) (state : CacheThreads τ) :
    CacheThreads τ :=
  match CacheManager.lookup state.cache.pageQueue call.manager call.index with
  | none => afterMemory thread call state (.resizeDirty newSize)
  | some info =>
    let resized := { state with
      cache := state.cache.resizeQueued call.manager call.index newSize }
    if info.pageSize < newSize then handleMemory thread call (.resizeDirty newSize) resized
    else afterMemory thread call resized (.resizeDirty newSize)

/-- What a call does after the wait, or after its synchronous evictions and flushes. -/
def next (cleaner : Cleaner) (thread : τ) (call : Call) (rest : Rest) (state : CacheThreads τ) :
    CacheThreads τ :=
  match cleaner with
  | .evict => afterMemory thread call state rest
  | .flush => leaveCall thread call state

/-- A waiting thread that has the mutex again. -/
def resume (state : CacheThreads τ) (thread : τ) : CacheThreads τ :=
  match state.clients thread with
  | .waiting cleaner call rest true =>
    awaitCleanup cleaner thread call rest (next cleaner thread call rest) state
  | _ => state

end CacheThreads

end Andromeda.Cleanup
