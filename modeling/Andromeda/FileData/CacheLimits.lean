import Andromeda.FileData.PageFlush

/-! The cache manager's entry points that enforce the memory limits. With the
page manager's write lock at hand they evict and flush synchronously. -/

set_option autoImplicit false

namespace Andromeda.FileData

namespace CacheManager

variable (config : Config) (env : Env)

/-- `CacheManager::FlushPage`: a flush updates the dirty limit. -/
def flushPage (index : Nat) : Exec Unit := do
  let _ ← PageManager.flushPage config env index
  modify fun world => { world with
    cacheManager := { world.cacheManager with dirtyLimit := env.dirtyLimit world } }

/-- The page the synchronous evict loop picks next: the least recently used one,
while over the limit, if it is this file's and not the page concerned. -/
def evictPick (index : Nat) (cache : CacheManager) : Option Nat :=
  match cache.pageQueue.getLast? with
  | none => none
  | some info =>
    if cache.shouldEvict config ∧ info.manager = ownManager ∧ info.index ≠ index then
      some info.index
    else none

/-- The page the synchronous flush loop picks next. -/
def flushPick (index : Nat) (cache : CacheManager) : Option Nat :=
  match cache.dirtyQueue.getLast? with
  | none => none
  | some info =>
    if cache.shouldFlush ∧ info.manager = ownManager ∧ info.index ≠ index then
      some info.index
    else none

/-- The synchronous loop of `HandleMemory`. -/
def evictLoop (index : Nat) : Nat → Exec Unit
  | 0 => throw .hang
  | fuel + 1 => do
    match evictPick config index (← get).cacheManager with
    | none => pure ()
    | some picked =>
      PageManager.evictPage config env picked
      evictLoop index fuel

/-- The synchronous loop of `HandleDirtyMemory`. -/
def flushLoop (index : Nat) : Nat → Exec Unit
  | 0 => throw .hang
  | fuel + 1 => do
    match flushPick index (← get).cacheManager with
    | none => pure ()
    | some picked =>
      flushPage config env picked
      flushLoop index fuel

/-- A wait for a cleanup thread: other managers' pages leave the queues, and a
failed cleanup throws. -/
def awaitCleanup : Exec Unit := do
  modify fun world =>
    let queues := env.waited world
    { world with cacheManager := world.cacheManager.otherManagers queues.1 queues.2 }
  tryCall env .reserveMemory .memory

/-- The wait for the cleanup threads while a limit is exceeded. -/
def awaitWhile (exceeded : CacheManager → Bool) (canWait : Bool) : Exec Unit := do
  if config.cleanupThreads && canWait && exceeded (← get).cacheManager then awaitCleanup env

/-- `HandleMemory`. -/
def handleMemory (index : Nat) (canWait mgrLock : Bool) : Exec Unit := do
  if mgrLock && canWait then
    evictLoop config env index ((← get).cacheManager.pageQueue.length + 1)
  awaitWhile config env (shouldEvict config) canWait

/-- `HandleDirtyMemory`. -/
def handleDirtyMemory (index : Nat) (canWait mgrLock : Bool) : Exec Unit := do
  if mgrLock && canWait then
    flushLoop config env index ((← get).cacheManager.dirtyQueue.length + 1)
  awaitWhile config env shouldFlush canWait

/-- `InformPage`. -/
def informPage (index : Nat) (dirty canWait mgrLock : Bool) : Exec Unit := do
  let world ← get
  match world.pageManager.pages.find? index with
  | none => pure () -- only called with a page of the map
  | some page =>
    let newSize := config.capacity page
    let oldSize := world.cacheManager.queuedSize ownManager index
    set { world with
      cacheManager := world.cacheManager.enqueuePage ownManager index newSize dirty }
    if oldSize < newSize then
      handleMemory config env index canWait mgrLock
      if dirty then handleDirtyMemory config env index canWait mgrLock

/-- One half of `ResizePage`: a queue entry takes the new size, and the limit is
enforced if the page grew. -/
def resizeIn (queue : CacheManager → List PageInfo)
    (resizeEntry : CacheManager → Nat → Nat → Nat → CacheManager)
    (enforce : Nat → Bool → Bool → Exec Unit) (index newSize : Nat) : Exec Unit := do
  match lookup (queue (← get).cacheManager) ownManager index with
  | none => pure ()
  | some info =>
    modify fun world => { world with
      cacheManager := resizeEntry world.cacheManager ownManager index newSize }
    if info.pageSize < newSize then enforce index true true

/-- `ResizePage`, called with the write lock. -/
def resizePage (index : Nat) : Exec Unit := do
  match (← get).pageManager.pages.find? index with
  | none => pure () -- only called with a page of the map
  | some page =>
    let newSize := config.capacity page
    resizeIn pageQueue resizeQueued (handleMemory config env) index newSize
    resizeIn dirtyQueue resizeDirty (handleDirtyMemory config env) index newSize

end CacheManager

end Andromeda.FileData
