import Andromeda.FileData.PageAccess

/-! The fetches of one page manager among several threads. Readers and running fetches share the
page manager's lock, and a writer has it alone; a step is a stretch that a thread runs under the
mutex of the pages. The cache manager is left out, since it removes pages only as a writer. -/

set_option autoImplicit false

namespace Andromeda.FileData

/-- What a reader with the shared lock does. -/
inductive Reader where
  | reading
  /-- In the wait of `GetPageRead`. -/
  | waiting (index : Nat)
  deriving DecidableEq

/-- A fetch with its locks: the next page, the end of its range, and where the pages end that a
successful read hands over. -/
structure RunningFetch where
  next : Nat
  last : Nat
  stop : Nat
  deriving DecidableEq

/-- The page manager with the threads that have its lock. Fetches that wait for it are in
`world.fetchThreads`. -/
structure FetchThreads where
  world : World
  readers : List Reader
  running : List RunningFetch
  writing : Bool
  deriving DecidableEq

inductive FetchAction where
  | lockShared
  | unlockShared (reader : Nat)
  | getPageRead (reader index : Nat)
  /-- A waiting reader wakes up, notified or not. -/
  | wake (reader : Nat)
  | lock
  | unlock
  /-- A write, a truncation, an eviction or a remote change. -/
  | change (pages : PageMap) (fileSize backendSize : Nat)
  | beginFetch (thread : Nat)
  /-- The page handler of `FetchPages`, with the page that it puts into the map. -/
  | handPage (thread : Nat) (page : Page)
  | failFetch (thread : Nat)
  | finishFetch (thread : Nat)
  | updateBandwidth (targetPages : Nat)

namespace FetchThreads

open PageManager

variable (config : Config)

/-- `GetPageRead` up to its wait, with whether it waits. -/
def lookPage (index : Nat) : Exec Bool := do
  let world ← get
  if world.pageManager.fileSize ≤ index * config.pageSize then logError .invalidRead
  if (world.pageManager.pages.find? index).isSome then
    doAdvanceRead config index
    return false
  else if isFetchPending world.pageManager index then return true
  else
    let fetchSize ← getFetchSize config index
    if fetchSize = 0 then
      -- between the backend's end and a dirty write
      modify fun world => emplacePage world index ⟨List.replicate config.pageSize 0, false⟩
      return false
    else
      modify fun world => startFetch world index fetchSize
      return true

/-- How many pages a successful read of `FetchPages` hands over. -/
def pagesHanded (backendSize index count : Nat) : Nat :=
  let readSize := min (sub64 backendSize (index * config.pageSize)) (config.pageSize * count)
  (PageBackend.splitPages config backendSize count index (List.replicate readSize 0)).length

/-- The state after a stretch of code. -/
def exitWorld {α : Type} : EStateM.Result Exception World α → World
  | .ok _ world => world
  | .error _ world => world

def readerStep (state : FetchThreads) (reader index : Nat) : FetchThreads :=
  match lookPage config index state.world with
  | .ok true world => { state with world, readers := state.readers.set reader (.waiting index) }
  | .ok false world => { state with world }
  | .error _ world => { state with world }

/-- The wait of `GetPageRead` ends with the page or with the failure of its fetch. -/
def wakeStep (state : FetchThreads) (reader index : Nat) : FetchThreads :=
  if (state.world.pageManager.pages.find? index).isSome ||
      isFetchFailed state.world.pageManager index then
    { state with readers := state.readers.set reader .reading }
  else state

def beginStep (state : FetchThreads) (thread : Nat) (range : Nat × Nat) : FetchThreads :=
  { state with
    world := { state.world with fetchThreads := state.world.fetchThreads.eraseIdx thread }
    running := state.running ++ [⟨range.1, range.1 + range.2,
      range.1 + pagesHanded config state.world.pageBackend.backendSize range.1 range.2⟩] }

def handStep (state : FetchThreads) (thread : Nat) (fetch : RunningFetch) (page : Page) :
    FetchThreads :=
  if fetch.next < fetch.stop then
    { state with
      world := exitWorld (removePendingFetch fetch.next true
        (emplacePage state.world fetch.next page))
      running := state.running.set thread { fetch with next := fetch.next + 1 } }
  else state

def step (state : FetchThreads) : FetchAction → FetchThreads
  | .lockShared =>
    if state.writing then state else { state with readers := state.readers ++ [.reading] }
  | .unlockShared reader =>
    match state.readers[reader]? with
    | some .reading => { state with readers := state.readers.eraseIdx reader }
    | _ => state
  | .getPageRead reader index =>
    match state.readers[reader]? with
    | some .reading => readerStep config state reader index
    | _ => state
  | .wake reader =>
    match state.readers[reader]? with
    | some (.waiting index) => wakeStep state reader index
    | _ => state
  | .lock =>
    if state.writing || !state.readers.isEmpty || !state.running.isEmpty then state
    else { state with writing := true }
  | .unlock => { state with writing := false }
  | .change pages fileSize backendSize =>
    if state.writing then
      { state with world := { state.world with
          pageManager := { state.world.pageManager with pages, fileSize }
          pageBackend := { state.world.pageBackend with backendSize } } }
    else state
  | .beginFetch thread =>
    match state.world.fetchThreads[thread]? with
    | some range => if state.writing then state else beginStep config state thread range
    | none => state
  | .handPage thread page =>
    match state.running[thread]? with
    | some fetch => handStep state thread fetch page
    | none => state
  | .failFetch thread =>
    match state.running[thread]? with
    | some fetch =>
      { state with
        world := exitWorld (fetchFailed fetch.next fetch.last state.world)
        running := state.running.eraseIdx thread }
    | none => state
  | .finishFetch thread =>
    match state.running[thread]? with
    | some fetch =>
      if fetch.next < fetch.stop then state
      else { state with running := state.running.eraseIdx thread }
    | none => state
  | .updateBandwidth targetPages =>
    { state with world := { state.world with pageManager := { state.world.pageManager with
        fetchSize := max 1 targetPages } } }

def run (state : FetchThreads) (actions : List FetchAction) : FetchThreads :=
  actions.foldl (step config) state

/-- A page manager of which nothing is fetched and that nobody uses. -/
structure Initial (state : FetchThreads) : Prop where
  fetchSize : 0 < state.world.pageManager.fetchSize
  pendingPages : state.world.pageManager.pendingPages = []
  failedPages : state.world.pageManager.failedPages = []
  fetchThreads : state.world.fetchThreads = []
  readers : state.readers = []
  running : state.running = []
  noErrors : state.world.trace.errors = []

/-- The ranges that a fetch is to hand over: whole ones before it runs, then what is left. -/
def remaining (fetch : RunningFetch) : Option (Nat × Nat) :=
  if fetch.next < fetch.last then some (fetch.next, fetch.last - fetch.next) else none

/-- The ranges of the fetches that have not finished. -/
def claims (state : FetchThreads) : List (Nat × Nat) :=
  state.world.fetchThreads ++ state.running.filterMap remaining

end FetchThreads

end Andromeda.FileData
