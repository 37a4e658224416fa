import Andromeda.FileData.CacheLimits

/-! The page manager's reads, writes and size changes. -/

set_option autoImplicit false

namespace Andromeda.FileData

open Andromeda.Library

namespace PageManager

variable (config : Config) (env : Env)

/-- Change a page of the map in place. -/
def changePage (world : World) (index : Nat) (change : Page → Page) : World :=
  { world with pageManager := { world.pageManager with
      pages := world.pageManager.pages.update index change } }

/-- Put a page into the map if its index is free. -/
def emplacePage (world : World) (index : Nat) (page : Page) : World :=
  { world with pageManager := { world.pageManager with
      pages := world.pageManager.pages.emplace index page } }

/-- Run a handler for the source's exceptions, then throw on. -/
def onThrow (computation : Exec Unit) (undo : Exec Unit) : Exec Unit :=
  tryCatch computation fun exception => do
    if exception.isThrown then undo
    throw exception

/-- `ResizePage`. -/
def resizePage (index pageSize : Nat) (cacheMgr : Bool) : Exec Unit := do
  match (← get).pageManager.pages.find? index with
  | none => pure ()
  | some page =>
    let oldSize := page.size
    if oldSize = pageSize then pure ()
    else
      modify fun world => changePage world index (·.resizeTo pageSize)
      if cacheMgr && config.cacheMgr then
        onThrow (CacheManager.resizePage config env index) do
          modify fun world => changePage world index (·.resizeTo oldSize)
          CacheManager.resizePage config env index

/-- `InformNewPageRead`. -/
def informNewPageRead (index : Nat) (dirty canWait : Bool) : Exec Unit := do
  if config.cacheMgr then
    onThrow (CacheManager.informPage config env index dirty canWait false) do
      modify fun world => erasePage (forgetPage config world index) index

/-- `InformNewPageWrite`. -/
def informNewPageWrite (index : Nat) (dirty : Bool) : Exec Unit := do
  if config.cacheMgr then
    onThrow (CacheManager.informPage config env index dirty true true) do
      modify fun world => erasePage (forgetPage config world index) index

/-- `InformResizePage`. -/
def informResizePage (index : Nat) (dirty : Bool) (pageSize : Nat) : Exec Unit := do
  match (← get).pageManager.pages.find? index with
  | none => pure ()
  | some page =>
    let oldSize := page.size
    resizePage config env index pageSize false
    if config.cacheMgr then
      onThrow (CacheManager.informPage config env index dirty true true) do
        resizePage config env index oldSize false
        CacheManager.resizePage config env index

/-- The part of `GetPageWrite` that extends the old last page if the new page starts
past it. -/
def extendLastPage (pageStart : Nat) : Exec Unit := do
  let fileSize := (← get).pageManager.fileSize
  if fileSize < pageStart ∧ 0 < fileSize then
    resizePage config env ((fileSize - 1) / config.pageSize) config.pageSize true

/-- The part of `GetPageWrite` that needs nothing of the backend. -/
def newPageWrite (index pageSize : Nat) : Exec Unit := do
  extendLastPage config env (index * config.pageSize)
  modify fun world => emplacePage world index ⟨List.replicate pageSize 0, false⟩
  informNewPageWrite config env index true

/-- The part of `GetPageWrite` that reads the page first. -/
def fetchPageWrite (index pageSize : Nat) : Exec Unit := do
  let (pages, failed) ← PageBackend.fetchPages config env index 1
  forM pages fun read => modify fun world => emplacePage world read.1 ⟨read.2, false⟩
  if failed then throw .backend
  resizePage config env index pageSize false
  informNewPageWrite config env index true

/-- `GetPageWrite`. The page returned is the one of the map at `index`. -/
def getPageWrite (index pageSize : Nat) (isPartial : Bool) : Exec Unit := do
  let world ← get
  match world.pageManager.pages.find? index with
  | some _ => informResizePage config env index true pageSize
  | none =>
    if world.pageBackend.backendSize ≤ index * config.pageSize ∨ !isPartial then
      newPageWrite config env index pageSize
    else fetchPageWrite config env index pageSize

/-- `WritePage`. The page is marked dirty last, since `GetPageWrite` may flush. -/
def writePage (buffer : Bytes) (index offset : Nat) : Exec Unit := do
  let fileSize := (← get).pageManager.fileSize
  let pageStart := index * config.pageSize
  let newFileSize := max fileSize (pageStart + offset + buffer.length)
  let pageSize := min (newFileSize - pageStart) config.pageSize
  let isPartial := decide (0 < offset) || decide (buffer.length < pageSize)
  getPageWrite config env index pageSize isPartial
  modify fun world => { world with
    pageManager := { world.pageManager with fileSize := newFileSize } }
  modify fun world => changePage world index fun page =>
    (page.setDirty true).copyIn offset buffer

/-- The loop of `Truncate` over the pages from the given index on. -/
def truncateLoop (newSize : Nat) : Nat → Nat → Exec Unit
  | 0, _ => pure ()
  | fuel + 1, next => do
    match ((← get).pageManager.pages.entriesFrom next).head? with
    | none => pure ()
    | some (index, page) =>
      if newSize = 0 ∨ (newSize - 1) / config.pageSize < index then -- past the end
        modify fun world => erasePage (forgetPage config world index) index
      else if index = (newSize - 1) / config.pageSize then -- the new last page
        resizePage config env index (newSize - index * config.pageSize) true
      else if page.size ≠ config.pageSize then -- the old last page
        resizePage config env index config.pageSize true
      truncateLoop newSize fuel (index + 1)

/-- `Truncate`. -/
def truncate (newSize : Nat) : Exec Unit := do
  PageBackend.truncate env newSize
  modify fun world => { world with
    pageManager := { world.pageManager with fileSize := newSize } }
  truncateLoop config env newSize ((← get).pageManager.pages.entries.length + 1) 0

/-- `RemoteChanged`: clean pages are dropped, dirty ones stay. -/
def remoteChanged (backendSize : Nat) : Exec Unit := do
  let world ← get
  if world.pageBackend.backendExists then
    let pages := world.pageManager.pages
    let clean := (pages.entries.filter fun entry => !entry.2.dirty).map Prod.fst
    let forgotten := clean.foldl (forgetPage config) world
    let kept := pages.filter fun _ page => page.dirty
    set { forgotten with
      pageManager := { forgotten.pageManager with
        pages := kept
        fileSize := max backendSize (maxDirty config kept) }
      pageBackend := { forgotten.pageBackend with backendSize } }

/-- `isFetchPending`. -/
def isFetchPending (manager : PageManager) (index : Nat) : Bool :=
  manager.pendingPages.any fun pend => pend.1 ≤ index && index < pend.1 + pend.2

/-- `isFetchFailed`. -/
def isFetchFailed (manager : PageManager) (index : Nat) : Bool :=
  manager.failedPages.contains index

/-- The entry change of `RemovePendingFetch`, if the index starts an entry. -/
def removePending (index : Nat) (idxOnly : Bool) :
    List (Nat × Nat) → Option (List (Nat × Nat))
  | [] => none
  | (first, count) :: rest =>
    if index = first then
      if !idxOnly || count - 1 = 0 then some rest else some ((first + 1, count - 1) :: rest)
    else (removePending index idxOnly rest).map ((first, count) :: ·)

/-- `RemovePendingFetch`. -/
def removePendingFetch (index : Nat) (idxOnly : Bool) : Exec Unit := do
  let world ← get
  match removePending index idxOnly world.pageManager.pendingPages with
  | none => logError .notPending
  | some pendingPages =>
    set { world with pageManager := { world.pageManager with pendingPages } }

/-- The pending check loop of `GetFetchSize`. -/
def countBeforePending (manager : PageManager) (index : Nat) : Nat → Nat
  | 0 => 0
  | readCount + 1 =>
    if isFetchPending manager index then 0
    else countBeforePending manager (index + 1) readCount + 1

/-- `GetFetchSize` past its check of the index. -/
def fetchSizeAt (backendSize : Nat) (manager : PageManager) (index : Nat) : Nat :=
  if backendSize = 0 then 0
  else
    let lastPage := (backendSize - 1) / config.pageSize
    if lastPage < index then 0
    else if (manager.pages.find? index).isSome then 0
    else
      let maxReadCount := min (lastPage - index + 1) manager.fetchSize
      -- file managers often read just the first page
      let readCount := if 0 < index then maxReadCount else 1
      let readCount := match (manager.pages.entriesFrom (index + 1)).head? with
        | none => readCount
        | some next => min (next.1 - index) readCount
      countBeforePending manager index readCount

/-- `GetFetchSize`. -/
def getFetchSize (index : Nat) : Exec Nat := do
  let world ← get
  if world.pageManager.fileSize ≤ index * config.pageSize then
    logError .invalidRead
    return 0
  else return fetchSizeAt config world.pageBackend.backendSize world.pageManager index

/-- `StartFetch`: registers the range and detaches a thread. -/
def startFetch (world : World) (index readCount : Nat) : World :=
  { world with
    pageManager := { world.pageManager with
      pendingPages := world.pageManager.pendingPages ++ [(index, readCount)]
      failedPages := world.pageManager.failedPages.filter fun failed =>
        !(decide (index ≤ failed) && decide (failed < index + readCount)) }
    fetchThreads := world.fetchThreads ++ [(index, readCount)] }

/-- The loop of `DoAdvanceRead` over the indices from `nextIdx` on. -/
def advanceReadLoop : Nat → Nat → Exec Unit
  | 0, _ => pure ()
  | remaining + 1, nextIdx => do
    let world ← get
    if world.pageManager.fileSize ≤ nextIdx * config.pageSize then pure ()
    else
      let fetchSize ← getFetchSize config nextIdx
      if fetchSize ≠ 0 then modify fun world => startFetch world nextIdx fetchSize
      else advanceReadLoop remaining (nextIdx + 1)

/-- `DoAdvanceRead`. -/
def doAdvanceRead (index : Nat) : Exec Unit :=
  if index = 0 then pure ()
  else advanceReadLoop config config.readAheadBuffer (index + 1)

/-- The page handler of `FetchPages`. -/
def handleFetched (index : Nat) (read : Nat × Bytes) : Exec Unit := do
  let world ← get
  -- the size is taken from the start index of the fetch
  let realSize := min (sub64 world.pageManager.fileSize (index * config.pageSize)) config.pageSize
  let page : Page := ⟨read.2, false⟩
  let page := if page.size < realSize then page.resizeTo realSize else page
  modify fun world => emplacePage world read.1 page
  informNewPageRead config env read.1 false false
  removePendingFetch read.1 true

/-- The failure branch of `FetchPages`. -/
def fetchFailed (curIndex last : Nat) : Exec Unit := do
  modify fun world => { world with pageManager := { world.pageManager with
    failedPages := world.pageManager.failedPages ++
      (List.range' curIndex (last - curIndex)).filter fun failed =>
        !world.pageManager.failedPages.contains failed } }
  if curIndex < last then removePendingFetch curIndex false

/-- `FetchPages`, the body of a fetch thread. -/
def fetchPages (index count : Nat) : Exec Unit := do
  let (pages, failed) ← PageBackend.fetchPages config env index count
  forM pages fun read => handleFetched config env index read
  if failed then fetchFailed (index + pages.length) (index + count)
  else modify fun world => { world with pageManager := { world.pageManager with
    fetchSize := max 1 (env.fetchTarget world) } }

/-- A fetch thread gets its locks and runs. -/
def runFetch (thread : Nat) : Exec Unit := do
  let world ← get
  match world.fetchThreads[thread]? with
  | none => pure ()
  | some (index, count) =>
    set { world with fetchThreads := world.fetchThreads.eraseIdx thread }
    fetchPages config env index count

/-- The wait of `GetPageRead` for a pending page. Only fetch threads can run. -/
def awaitPage (index : Nat) : Nat → Exec Unit
  | 0 => throw .deadlock
  | fuel + 1 => do
    let world ← get
    if (world.pageManager.pages.find? index).isSome then pure ()
    else if isFetchFailed world.pageManager index then throw .backend
    else if world.fetchThreads.isEmpty then throw .deadlock
    else
      runFetch config env (env.nextFetch world % world.fetchThreads.length)
      awaitPage index fuel

/-- The cache manager is told of a page that was read. -/
def informRead (index : Nat) : Exec Unit := do
  match (← get).pageManager.pages.find? index with
  | none => pure ()
  | some page =>
    if config.cacheMgr then
      CacheManager.informPage config env index page.dirty true false

/-- `GetPageRead`. -/
def getPageRead (index : Nat) : Exec Unit := do
  let world ← get
  if world.pageManager.fileSize ≤ index * config.pageSize then logError .invalidRead
  if (world.pageManager.pages.find? index).isSome then
    doAdvanceRead config index
    informRead config env index
  else
    let fetchSize ←
      if isFetchPending world.pageManager index then pure none
      else some <$> getFetchSize config index
    if fetchSize = some 0 then
      -- between the backend's end and a dirty write
      modify fun world => emplacePage world index ⟨List.replicate config.pageSize 0, false⟩
      informNewPageRead config env index false true
    else
      match fetchSize with
      | none => pure ()
      | some readCount => modify fun world => startFetch world index readCount
      awaitPage config env index ((← get).fetchThreads.length + 1)
      informRead config env index

/-- `ReadPage`. -/
def readPage (index offset length : Nat) : Exec Bytes := do
  if (← get).pageManager.fileSize < index * config.pageSize + offset + length then
    logError .invalidRead
  getPageRead config env index
  match (← get).pageManager.pages.find? index with
  | none => return []
  | some page => return Bytes.slice page.data offset length

end PageManager

end Andromeda.FileData
