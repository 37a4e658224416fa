import Andromeda.Cleanup.CacheCalls

/-! The steps of the threads that use a cache manager, of its cleanup threads and of its
destructor, in any order. A step that needs the mutex or a lock which is taken does nothing.
Page managers are numbered in the order of their addresses. -/

set_option autoImplicit false

namespace Andromeda.Cleanup

open FileData (CacheManager PageInfo)

/-- The entries at which the loops of `DoPageEvictions` and `DoPageFlushes` stop by, from the
back of the queue on. -/
def visit (exceeds : Nat → CacheManager → Bool) (alive : Nat → Bool) (cleaned : Nat)
    (cache : CacheManager) : List PageInfo → List PageInfo
  | [] => []
  | [info] => if exceeds cleaned cache then [info] else []
  | info :: next :: rest =>
    if exceeds cleaned cache then
      info :: if alive info.manager then
        visit exceeds alive (cleaned + info.pageSize) cache (next :: rest)
      else visit exceeds alive cleaned (cache.removePage info.manager info.index) rest
    else []

/-- The condition of the loop of `DoPageEvictions`. -/
def overMemory (limit margin cleaned : Nat) (cache : CacheManager) : Bool :=
  decide (limit + cleaned < cache.currentTotal + margin)

/-- The condition of the loop of `DoPageFlushes`. -/
def overDirty (cleaned : Nat) (cache : CacheManager) : Bool :=
  decide (cache.dirtyLimit + cleaned < cache.currentDirty)

/-- The page managers of the visited entries, each with the pages to clean: none where the
scope lock failed. -/
def addEntry (alive : Nat → Bool) (info : PageInfo) : PageMap → PageMap
  | [] => [(info.manager, if alive info.manager then [info] else [])]
  | (manager, pages) :: rest =>
    if info.manager = manager then
      (manager, if alive info.manager then pages ++ [info] else pages) :: rest
    else if info.manager < manager then
      (info.manager, if alive info.manager then [info] else []) :: (manager, pages) :: rest
    else (manager, pages) :: addEntry alive info rest

/-- `currentEvicts` and `currentFlushes`. -/
def collect (alive : Nat → Bool) (visited : List PageInfo) : PageMap :=
  visited.foldl (fun map info => addEntry alive info map) []

/-- What a thread that uses the cache manager does next. -/
inductive ClientStep where
  /-- Take the lock of a page manager. -/
  | lock (manager : Nat) (mode : LockMode)
  | unlock
  | informPage (index capacity : Nat) (dirty canWait mgrLock : Bool)
  | resizePage (index newSize : Nat) (mgrLock : Bool)
  | removePage (index : Nat)
  | removeDirty (index : Nat)
  /-- `FlushPage` of the cache manager, after the flush. -/
  | measure (dirtyLimit : Nat)
  /-- Take the mutex after a synchronous eviction or flush. -/
  | relock
  /-- A synchronous eviction or flush throws. -/
  | fail
  /-- Wake up without a notification. -/
  | wake
  /-- Take the mutex again in the wait. -/
  | resume
  /-- `~PageManager` removes a page. -/
  | discard (manager index : Nat)

/-- What a cleanup thread does next. -/
inductive CleanerStep where
  /-- The step that its place determines. -/
  | next
  /-- Choose the pages, with the page managers whose scope can still be locked. -/
  | choose (alive : Nat → Bool)
  | removePage (index : Nat)
  | removeDirty (index : Nat)
  | measure (dirtyLimit : Nat)
  /-- The first of the pages is evicted or flushed. -/
  | finishPage
  /-- The backend fails for the first of the pages. -/
  | failPage (capacity : Nat) (dirty : Bool)
  /-- Wake up without a notification. -/
  | wake

inductive Action (τ : Type) where
  | startThreads
  | client (thread : τ) (act : ClientStep)
  | cleaner (cleaner : Cleaner) (act : CleanerStep)
  /-- The next step of `~CacheManager`. -/
  | destroy

/-- `~CacheManager` after it is done with one of the threads. -/
def Destructor.after : Cleaner → Destructor
  | .evict => .notifying .flush
  | .flush => .done

namespace CacheThreads

variable {τ : Type}

def withCache (state : CacheThreads τ) (cache : CacheManager) : CacheThreads τ :=
  { state with cache }

/-- The queues after the choice of `DoPageEvictions` or `DoPageFlushes`, and its map. -/
def chosen (state : CacheThreads τ) (alive : Nat → Bool) : Cleaner → CacheManager × PageMap
  | .evict =>
    let margin := state.memoryLimit / state.evictSizeFrac
    ((CacheManager.Stretch.chooseEvictions state.memoryLimit margin alive).run state.cache,
      collect alive (visit (overMemory state.memoryLimit margin) alive 0 state.cache
        state.cache.pageQueue.reverse))
  | .flush =>
    ((CacheManager.Stretch.chooseFlushes alive).run state.cache,
      collect alive (visit overDirty alive 0 state.cache state.cache.dirtyQueue.reverse))

/-- The first part of `GetPageManagerLock`. -/
def announce (state : CacheThreads τ) (cleaner : Cleaner) (manager : Nat)
    (pages : List PageInfo) (left : PageMap) : CacheThreads τ :=
  let set := { state with skipWait := Function.update state.skipWait cleaner (some manager) }
  ((set.notifyWaiters .evict).notifyWaiters .flush).goTo cleaner (.locking manager pages left)

/-- Whether the write lock of a page manager is to be had. -/
def lockFree (state : CacheThreads τ) (manager : Nat) : Bool :=
  !state.writer manager && decide (state.readers manager = 0)

def setWriter (state : CacheThreads τ) (manager : Nat) (locked : Bool) : CacheThreads τ :=
  { state with writer := Function.update state.writer manager locked }

def setReaders (state : CacheThreads τ) (manager count : Nat) : CacheThreads τ :=
  { state with readers := Function.update state.readers manager count }

/-- The last part of `GetPageManagerLock`. -/
def unannounce (state : CacheThreads τ) (cleaner : Cleaner) (manager : Nat)
    (pages : List PageInfo) (left : PageMap) : CacheThreads τ :=
  { state with skipWait := Function.update state.skipWait cleaner none }.goTo cleaner
    (.working manager pages left)

/-- `EvictThread`, `FlushThread` and what they call, up to the next point where another thread
can come in. -/
def cleanerNext (state : CacheThreads τ) (cleaner : Cleaner) : CacheThreads τ :=
  match state.places cleaner with
  | .starting | .awake => if state.mutexFree then state.goTo cleaner .checking else state
  | .checking =>
    if state.runCleanup && (!state.exceeded cleaner || state.failure cleaner) then
      state.goTo cleaner .settling
    else state.goTo cleaner .leaving
  | .settling => (state.notifyWaiters cleaner).goTo cleaner .asleep
  | .leaving => state.goTo cleaner (if state.runCleanup then .choosing else .ended)
  | .cleaning [] => state.goTo cleaner .starting
  | .cleaning ((manager, pages) :: left) =>
    if state.mutexFree then state.announce cleaner manager pages left else state
  | .locking manager pages left =>
    if state.lockFree manager then
      (state.setWriter manager true).goTo cleaner (.locked manager pages left)
    else state
  | .locked manager pages left =>
    if state.mutexFree then state.unannounce cleaner manager pages left else state
  | .working manager [] left =>
    (state.notifyWaiters cleaner).goTo cleaner (.unlocking manager left)
  | .unlocking manager left => (state.setWriter manager false).goTo cleaner (.cleaning left)
  | _ => state

/-- The `catch` of `DoPageEvictions` and `DoPageFlushes`, which return early. -/
def failPage (state : CacheThreads τ) (cleaner : Cleaner) (info : PageInfo) (capacity : Nat)
    (dirty : Bool) : CacheThreads τ :=
  let moved := match cleaner with
    | .evict => state.withCache
        ((CacheManager.Stretch.evictFailed info.manager info.index capacity dirty).run state.cache)
    | .flush => state
  let failed := { moved with failure := Function.update moved.failure cleaner true }
  (failed.notifyWaiters cleaner).goTo cleaner (.unlocking info.manager [])

/-- The page manager whose pages a cleanup thread works on. -/
def workingOn (state : CacheThreads τ) (cleaner : Cleaner) : Option Nat :=
  match state.places cleaner with
  | .working manager _ _ => some manager
  | _ => none

/-- `RemovePage` and `RemoveDirty`, called by the page manager whose pages are cleaned. -/
def remove (state : CacheThreads τ) (remove : CacheManager → Nat → Nat → CacheManager)
    (index : Nat) : Option Nat → CacheThreads τ
  | none => state
  | some manager =>
    if state.mutexFree then state.withCache (remove state.cache manager index) else state

def measure (state : CacheThreads τ) (dirtyLimit : Nat) : CacheThreads τ :=
  if state.mutexFree then
    state.withCache ((CacheManager.Stretch.flushed dirtyLimit).run state.cache)
  else state

def cleanerStep (state : CacheThreads τ) (cleaner : Cleaner) : CleanerStep → CacheThreads τ
  | .next => state.cleanerNext cleaner
  | .choose alive =>
    match state.places cleaner with
    | .choosing =>
      if state.mutexFree then
        let (cache, map) := state.chosen alive cleaner
        (state.withCache cache).goTo cleaner (.cleaning map)
      else state
    | _ => state
  | .removePage index => state.remove CacheManager.removePage index (state.workingOn cleaner)
  | .removeDirty index => state.remove CacheManager.removeDirty index (state.workingOn cleaner)
  | .measure dirtyLimit =>
    match cleaner, state.workingOn cleaner with
    | .flush, some _ => state.measure dirtyLimit
    | _, _ => state
  | .finishPage =>
    match state.places cleaner with
    | .working manager (_ :: pages) left => state.goTo cleaner (.working manager pages left)
    | _ => state
  | .failPage capacity dirty =>
    match state.places cleaner with
    | .working _ (info :: _) _ =>
      if state.mutexFree then state.failPage cleaner info capacity dirty else state
    | _ => state
  | .wake => state.notifyThread cleaner

/-- `~CacheManager`, one of its atomic steps after another. -/
def destroy (state : CacheThreads τ) : CacheThreads τ :=
  match state.destructor with
  | .outside => { state with runCleanup := false, destructor := .notifying .evict }
  | .notifying cleaner =>
    if state.joinable cleaner then
      { state.notifyThread cleaner with destructor := .joining cleaner }
    else { state with destructor := Destructor.after cleaner }
  | .joining cleaner =>
    if state.places cleaner = .ended then
      { state with
        joinable := Function.update state.joinable cleaner false
        destructor := Destructor.after cleaner }
    else state
  | .done => state

/-- Start one of the threads, if it is not running. -/
def startThread (state : CacheThreads τ) (cleaner : Cleaner) : CacheThreads τ :=
  if state.joinable cleaner then state
  else { state.goTo cleaner .starting with
    joinable := Function.update state.joinable cleaner true }

/-- `StartThreads`, which nobody calls once the destructor runs. -/
def startThreads (state : CacheThreads τ) : CacheThreads τ :=
  match state.destructor with
  | .outside => (state.startThread .evict).startThread .flush
  | _ => state

variable [DecidableEq τ]

/-- Take the lock of a page manager, if nobody has it in a mode that excludes this one. Which of
several waiting threads comes first is left open. -/
def lock (state : CacheThreads τ) (thread : τ) (manager : Nat) : LockMode → CacheThreads τ
  | .read =>
    if state.writer manager then state
    else (state.setReaders manager (state.readers manager + 1)).put thread (.holding manager .read)
  | .write =>
    if state.lockFree manager then
      (state.setWriter manager true).put thread (.holding manager .write)
    else state

def unlock (state : CacheThreads τ) (thread : τ) (manager : Nat) : LockMode → CacheThreads τ
  | .read => (state.setReaders manager (state.readers manager - 1)).put thread .idle
  | .write => (state.setWriter manager false).put thread .idle

/-- The page manager a thread works on outside the mutex. -/
def usedBy (state : CacheThreads τ) (thread : τ) : Option Nat :=
  match state.clients thread with
  | .holding manager _ => some manager
  | .synchronous _ call _ => some call.manager
  | _ => none

/-- One step of a thread that uses the cache manager. -/
def clientStep (state : CacheThreads τ) (thread : τ) : ClientStep → CacheThreads τ
  | .lock manager mode =>
    match state.clients thread with
    | .idle => state.lock thread manager mode
    | _ => state
  | .unlock =>
    match state.clients thread with
    | .holding manager mode => state.unlock thread manager mode
    | _ => state
  | .informPage index capacity dirty canWait mgrLock =>
    match state.clients thread with
    | .holding manager mode =>
      if state.mutexFree then
        state.informPage thread
          ⟨manager, index, mode, canWait, mgrLock && decide (mode = .write)⟩ capacity dirty
      else state
    | _ => state
  | .resizePage index newSize mgrLock =>
    match state.clients thread with
    | .holding manager mode =>
      if state.mutexFree then
        state.resizePage thread
          ⟨manager, index, mode, true, mgrLock && decide (mode = .write)⟩ newSize
      else state
    | _ => state
  | .removePage index => state.remove CacheManager.removePage index (state.usedBy thread)
  | .removeDirty index => state.remove CacheManager.removeDirty index (state.usedBy thread)
  | .measure dirtyLimit =>
    match state.clients thread with
    | .synchronous .flush _ _ => state.measure dirtyLimit
    | _ => state
  | .relock =>
    match state.clients thread with
    | .synchronous cleaner call rest =>
      if state.mutexFree then
        handle cleaner thread call rest (next cleaner thread call rest) state
      else state
    | _ => state
  | .fail =>
    match state.clients thread with
    | .synchronous _ call _ => leaveCall thread call state
    | _ => state
  | .wake =>
    match state.clients thread with
    | .waiting cleaner call rest false => state.put thread (.waiting cleaner call rest true)
    | _ => state
  | .resume => if state.mutexFree then state.resume thread else state
  | .discard manager index => state.remove CacheManager.removePage index (some manager)

def step (state : CacheThreads τ) : Action τ → CacheThreads τ
  | .startThreads => state.startThreads
  | .client thread act => state.clientStep thread act
  | .cleaner cleaner act => state.cleanerStep cleaner act
  | .destroy => state.destroy

def run (state : CacheThreads τ) (actions : List (Action τ)) : CacheThreads τ :=
  actions.foldl step state

end CacheThreads

end Andromeda.Cleanup
