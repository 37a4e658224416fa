import Andromeda.Library.Bytes
import Andromeda.Library.KeyMap
import Andromeda.Library.Outcome
import Mathlib.Data.UInt
import Mathlib.Order.Nat

/-! The state of one open file: the copy the backend stores, the page backend,
the page manager with its cached pages, and the cache manager's queues. -/

set_option autoImplicit false

namespace Andromeda.FileData

open Andromeda.Library
open Andromeda.Library.Bytes (byteAt resize overwrite slice)

abbrev Bytes := List UInt8

/-- Subtraction of `uint64_t` values. -/
def sub64 (left right : Nat) : Nat :=
  if right ≤ left then left - right else left + 2 ^ 64 - right

theorem sub64_of_le {left right : Nat} (ordered : right ≤ left) :
    sub64 left right = left - right := if_pos ordered

/-- The write modes a storage can allow. -/
inductive WriteMode where
  | upload
  | append
  | random
  deriving DecidableEq, Repr

/-- The client cache types that talk to a server. -/
inductive CacheType where
  | none
  | normal
  deriving DecidableEq, Repr

/-- Everything that stays fixed while the file is open. -/
structure Config where
  pageSize : Nat
  pageSize_pos : 0 < pageSize
  /-- `FSConfig::GetWriteMode` of the storage. -/
  storageMode : WriteMode
  canRandWrite : Bool
  readOnlyFS : Bool
  cacheType : CacheType
  readAheadBuffer : Nat
  /-- Whether the backend has a cache manager. -/
  cacheMgr : Bool
  /-- Whether the cache manager's cleanup threads run. -/
  cleanupThreads : Bool
  memoryLimit : Nat
  /-- The granularity of page memory. -/
  allocPageSize : Nat
  allocPageSize_pos : 0 < allocPageSize
  streamBufferSize : Nat
  streamBufferSize_pos : 0 < streamBufferSize

/-- `File::GetWriteMode`: the account may forbid random writes. -/
def Config.getWriteMode (config : Config) : WriteMode :=
  match config.storageMode, config.canRandWrite with
  | .random, false => .append
  | mode, _ => mode

/-- `GetWriteMode() >= RANDOM`. -/
def Config.randWrite (config : Config) : Bool :=
  decide (config.getWriteMode = .random)

/-- A file data page. -/
structure Page where
  data : Bytes
  dirty : Bool
  deriving DecidableEq, Repr

def Page.size (page : Page) : Nat := page.data.length

/-- `Page::resize` with the zero fill of `PageManager::ResizePage`. -/
def Page.resizeTo (page : Page) (size : Nat) : Page :=
  { page with data := resize page.data size }

def Page.setDirty (page : Page) (dirty : Bool) : Page := { page with dirty }

/-- The copy of a buffer into page memory. -/
def Page.copyIn (page : Page) (offset : Nat) (buffer : Bytes) : Page :=
  { page with data := overwrite page.data offset buffer }

/-- `Page::capacity`: whole allocator pages. -/
def Config.capacity (config : Config) (page : Page) : Nat :=
  (if page.size = 0 then 0 else (page.size - 1) / config.allocPageSize + 1) *
    config.allocPageSize

abbrev PageMap := KeyMap Nat Page

/-- `PageBackend`: what the client knows of the stored file. -/
structure PageBackend where
  backendSize : Nat
  backendExists : Bool
  deriving DecidableEq

/-- `PageManager`: the cached pages and the fetches in flight. -/
structure PageManager where
  fileSize : Nat
  fetchSize : Nat
  pages : PageMap
  pendingPages : List (Nat × Nat)
  failedPages : List Nat
  deferredEvicts : List Nat
  deriving DecidableEq

/-- A queue entry of the cache manager. Entries are keyed by page; a page is
identified by its manager and index, and this file's manager is number 0. -/
structure PageInfo where
  manager : Nat
  index : Nat
  pageSize : Nat
  deriving DecidableEq

/-- `CacheManager`: queues ordered from the most to the least recently used. -/
structure CacheManager where
  pageQueue : List PageInfo
  dirtyQueue : List PageInfo
  currentTotal : Nat
  currentDirty : Nat
  dirtyLimit : Nat
  deriving DecidableEq

/-- The checks that log an error and assert. -/
inductive ErrorCheck where
  | emptyPageList
  | invalidWriteUpload
  | invalidWriteAppend
  | invalidWriteNoRandom
  | invalidRead
  | invalidFetch
  | emptyRead
  | notPending
  deriving DecidableEq, Repr

/-- A data request the backend carried out; a write records the size the file
had when it arrived. -/
inductive Request where
  | createFile
  | uploadFile (data : Bytes)
  | writeFile (offset : Nat) (data : Bytes) (sizeBefore : Nat)
  | truncateFile (size : Nat)
  deriving DecidableEq

/-- What can be observed from outside: calls made, requests done, checks failed. -/
structure Trace where
  calls : Nat
  requests : List Request
  errors : List ErrorCheck
  deriving DecidableEq

/-- The whole state. `fetchThreads` are the detached fetches not yet running. -/
structure World where
  remote : Option Bytes
  pageBackend : PageBackend
  pageManager : PageManager
  cacheManager : CacheManager
  uploadMaxBytes : Nat
  fetchThreads : List (Nat × Nat)
  trace : Trace
  deriving DecidableEq

/-- The exits of an operation other than returning. `deadlock` is a wait no other
thread ends, `hang` a loop that makes no progress. -/
inductive Exception where
  | backend
  | memory
  | writeType
  | writeSize
  | readOnlyFS
  | readBounds
  | deadlock
  | hang
  deriving DecidableEq, Repr

/-- Whether the exception is a `BaseException` of the source, so that its
handlers run. -/
def Exception.isThrown : Exception → Bool
  | .deadlock => false
  | .hang => false
  | _ => true

/-- A point where the environment may make the code throw. -/
inductive Call where
  | createFile
  | uploadFile
  | writeFile (offset : Nat)
  | truncateFile (size : Nat)
  | readFile (offset length : Nat)
  | reserveMemory
  deriving DecidableEq, Repr

/-- What the rest of the system decides during one operation. Every choice may
depend on the whole state, which counts the calls already made. -/
structure Env where
  fault : World → Call → Bool
  /-- Bytes a failing read still hands over. -/
  delivered : World → Nat
  /-- The upload limit in force after a data request. -/
  uploadLimit : World → Nat
  /-- The dirty limit measured after a flush. -/
  dirtyLimit : World → Nat
  /-- The read-ahead window measured after a fetch. -/
  fetchTarget : World → Nat
  /-- The queues after a wait for the cleanup threads. -/
  waited : World → List PageInfo × List PageInfo
  /-- The fetch thread to run next while a reader waits. -/
  nextFetch : World → Nat

abbrev Exec := EStateM Exception World

/-- An error message with its assertion, which release builds pass over. -/
def logError (check : ErrorCheck) : Exec Unit :=
  modify fun world => { world with
    trace := { world.trace with errors := world.trace.errors ++ [check] } }

/-- Record a request the backend carried out. -/
def World.request (world : World) (request : Request) : World :=
  { world with trace := { world.trace with requests := world.trace.requests ++ [request] } }

/-- Let the environment make the next call throw. -/
def tryCall (env : Env) (call : Call) (exception : Exception) : Exec Unit := do
  let world ← get
  set { world with trace := { world.trace with calls := world.trace.calls + 1 } }
  if env.fault world call then throw exception

end Andromeda.FileData
