import Andromeda.FileData.QueueProperties
import Mathlib.Logic.Relation

/-! The page addresses behind the cache manager's queues. The queues are keyed by the address
of a page and note its manager and index, while the map of a manager decides which page is at
an index. One table covers every page manager; this file's calls are those of its session. -/

set_option autoImplicit false

namespace Andromeda.FileData

open Andromeda.Library

/-- An entry of a queue: the address of a page, and what is noted of it. -/
structure QueueEntry where
  page : Nat
  info : PageInfo
  deriving DecidableEq

/-- The address of the page that each manager's `mPages` has at an index, and both queues. A
manager that was destroyed has no pages. -/
structure PageTable where
  pages : Nat → Nat → Option Nat
  /-- Two pages never share an address. -/
  apart {manager index other otherIndex page : Nat} : pages manager index = some page →
    pages other otherIndex = some page → manager = other ∧ index = otherIndex
  /-- Memory is finite. -/
  bounded : ∃ limit, ∀ manager index page, pages manager index = some page → page < limit
  pageQueue : List QueueEntry
  dirtyQueue : List QueueEntry

namespace PageTable

/-- No pages and no entries. -/
def empty : PageTable where
  pages _ _ := none
  apart found := by cases found
  bounded := ⟨0, fun _ _ _ found => by cases found⟩
  pageQueue := []
  dirtyQueue := []

/-- `OrderedMap::erase` on a queue. -/
def eraseEntry (queue : List QueueEntry) (page : Nat) : List QueueEntry :=
  queue.filter fun entry => entry.page ≠ page

/-- Store a new size in the entry of a page. -/
def setSize (queue : List QueueEntry) (page newSize : Nat) : List QueueEntry :=
  queue.map fun entry =>
    if entry.page = page then { entry with info := { entry.info with pageSize := newSize } }
    else entry

/-- `RemoveDirty`. -/
def removeDirty (table : PageTable) (page : Nat) : PageTable :=
  { table with dirtyQueue := eraseEntry table.dirtyQueue page }

/-- `RemovePage`. -/
def removePage (table : PageTable) (page : Nat) : PageTable :=
  { table with
    pageQueue := eraseEntry table.pageQueue page
    dirtyQueue := eraseEntry table.dirtyQueue page }

/-- What `RemovePage` returns: the queued size, zero if the page is not queued. -/
def removedSize (table : PageTable) (page : Nat) : Nat :=
  match table.pageQueue.find? fun entry => entry.page = page with
  | none => 0
  | some entry => entry.info.pageSize

/-- `EnqueuePage`: to the front of the queues. -/
def enqueuePage (table : PageTable) (page : Nat) (info : PageInfo) (dirty : Bool) : PageTable :=
  let removed := table.removePage page
  { removed with
    pageQueue := ⟨page, info⟩ :: removed.pageQueue
    dirtyQueue := if dirty then ⟨page, info⟩ :: removed.dirtyQueue else removed.dirtyQueue }

/-- The page queue part of `ResizePage`. -/
def resizeQueued (table : PageTable) (page newSize : Nat) : PageTable :=
  { table with pageQueue := setSize table.pageQueue page newSize }

/-- The dirty queue part of `ResizePage`. -/
def resizeDirty (table : PageTable) (page newSize : Nat) : PageTable :=
  { table with dirtyQueue := setSize table.dirtyQueue page newSize }

/-- A new page is put into the map of a manager, at an address that is free. -/
def emplacePage (table : PageTable) (manager index page : Nat)
    (free : ∀ other otherIndex, table.pages other otherIndex ≠ some page) : PageTable :=
  { table with
    pages := fun other otherIndex => if other = manager ∧ otherIndex = index then some page
      else table.pages other otherIndex
    apart := by
      intro first firstIndex second secondIndex address left right
      split at left <;> split at right
      · next here there => exact ⟨here.1.trans there.1.symm, here.2.trans there.2.symm⟩
      · exact absurd (left ▸ right) (free second secondIndex)
      · exact absurd (right ▸ left) (free first firstIndex)
      · exact table.apart left right
    bounded := by
      obtain ⟨limit, below⟩ := table.bounded
      refine ⟨max limit (page + 1), fun other otherIndex address found => ?_⟩
      split at found
      · cases found
        omega
      · have := below other otherIndex address found
        omega }

/-- A page is taken from the map of a manager. -/
def erasePage (table : PageTable) (manager index : Nat) : PageTable :=
  { table with
    pages := fun other otherIndex => if other = manager ∧ otherIndex = index then none
      else table.pages other otherIndex
    apart := by
      intro first firstIndex second secondIndex address left right
      split at left
      · cases left
      · split at right
        · cases right
        · exact table.apart left right
    bounded := by
      obtain ⟨limit, below⟩ := table.bounded
      refine ⟨limit, fun other otherIndex address found => ?_⟩
      split at found
      · cases found
      · exact below other otherIndex address found }

/-- What the calls of a page manager do to the table. A reference to a page comes from the
manager's map, and a page leaves the map right after the cache manager was told. -/
inductive Move (table : PageTable) : PageTable → Prop where
  | emplaced {manager index page : Nat} (missing : table.pages manager index = none)
      (free : ∀ other otherIndex, table.pages other otherIndex ≠ some page) :
      Move table (table.emplacePage manager index page free)
  | enqueued {manager index page : Nat} (held : table.pages manager index = some page)
      (newSize : Nat) (dirty : Bool) :
      Move table (table.enqueuePage page ⟨manager, index, newSize⟩ dirty)
  | resizedQueued {manager index page : Nat} (held : table.pages manager index = some page)
      (newSize : Nat) : Move table (table.resizeQueued page newSize)
  | resizedDirty {manager index page : Nat} (held : table.pages manager index = some page)
      (newSize : Nat) : Move table (table.resizeDirty page newSize)
  | removedDirty {manager index page : Nat} (held : table.pages manager index = some page) :
      Move table (table.removeDirty page)
  | removed {manager index page : Nat} (held : table.pages manager index = some page) :
      Move table (table.removePage page)
  | gaveUp {manager index page : Nat} (held : table.pages manager index = some page) :
      Move table ((table.removePage page).erasePage manager index)

/-- The moves of any managers, in any order. -/
def Moves : PageTable → PageTable → Prop := Relation.ReflTransGen Move

/-- The manager of an entry has exactly this page at the index. -/
def Designated (table : PageTable) (entry : QueueEntry) : Prop :=
  table.pages entry.info.manager entry.info.index = some entry.page

/-- Every entry of both queues designates its page. -/
structure Live (table : PageTable) : Prop where
  pageQueue : ∀ entry ∈ table.pageQueue, table.Designated entry
  dirtyQueue : ∀ entry ∈ table.dirtyQueue, table.Designated entry

/-- `DoPageEvictions`, when an eviction threw: a page that is still enqueued goes to the front,
with the manager and the index that the pass had noted. -/
def evictFailed (table : PageTable) (noted : QueueEntry) (newSize : Nat) (dirty : Bool) :
    PageTable :=
  if table.removedSize noted.page = 0 then table.removePage noted.page
  else (table.removePage noted.page).enqueuePage noted.page
    { noted.info with pageSize := newSize } dirty

/-- What the cache manager notes of a queue. -/
def infos (queue : List QueueEntry) : List PageInfo := queue.map QueueEntry.info

end PageTable

/-- The cache manager's queues, as a table has them. -/
def World.withQueues (world : World) (table : PageTable) : World :=
  { world with cacheManager := { world.cacheManager with
      pageQueue := PageTable.infos table.pageQueue
      dirtyQueue := PageTable.infos table.dirtyQueue
      currentTotal := CacheManager.total (PageTable.infos table.pageQueue)
      currentDirty := CacheManager.total (PageTable.infos table.dirtyQueue) } }

/-- The table holds the pages and the entries of this file's manager. -/
structure Represents (world : World) (table : PageTable) : Prop where
  pageQueue : CacheManager.own (PageTable.infos table.pageQueue) =
    CacheManager.own world.cacheManager.pageQueue
  dirtyQueue : CacheManager.own (PageTable.infos table.dirtyQueue) =
    CacheManager.own world.cacheManager.dirtyQueue
  cached : ∀ index, (table.pages ownManager index).isSome =
    (world.pageManager.pages.find? index).isSome

/-- This file, until its page manager is destroyed; the table of all pages; and the entries
that the eviction pass has noted. -/
structure System where
  file : Option World
  table : PageTable
  evicting : List QueueEntry

/-- The table is that of the file; after its destruction its manager has no page. -/
def System.Coherent (system : System) : Prop :=
  match system.file with
  | some world => Represents world system.table
  | none => ∀ index, system.table.pages ownManager index = none

/-- A call, or an eviction of the cleanup thread that failed. -/
inductive Event where
  | operation (action : Op × Env)
  /-- Only other managers make calls. -/
  | others
  /-- `~PageManager`. -/
  | destroyed
  | evictFailed (noted : QueueEntry) (newSize : Nat) (dirty : Bool)

/-- What a call leaves of this file. -/
def Event.file (config : Config) (file : Option World) : Event → Option World
  | .operation action => file.map fun world => step config world action
  | .destroyed => none
  | .others => file
  | .evictFailed _ _ _ => file

/-- One event. Other managers move while a call runs, and so does the cleanup thread: a new
pass notes entries that it finds queued at some moment. A destructor waits for the pass to
release the manager, and a pass ends at the first eviction that fails. -/
inductive SystemStep (config : Config) (system : System) : Event → System → Prop where
  | call {event : Event} {middle after : PageTable} {evicting : List QueueEntry}
      (isCall : ∀ noted newSize dirty, event ≠ .evictFailed noted newSize dirty)
      (released : event = .destroyed →
        ∀ noted ∈ system.evicting ++ evicting, noted.info.manager ≠ ownManager)
      (before : system.table.Moves middle)
      (noted : ∀ entry ∈ evicting, entry ∈ system.evicting ∨ entry ∈ middle.pageQueue)
      (rest : middle.Moves after)
      (coherent : System.Coherent ⟨event.file config system.file, after, evicting⟩) :
      SystemStep config system event ⟨event.file config system.file, after, evicting⟩
  | evictFailed {noted : QueueEntry} (member : noted ∈ system.evicting) (newSize : Nat)
      (dirty : Bool) :
      SystemStep config system (.evictFailed noted newSize dirty)
        ⟨system.file.map fun world =>
          world.withQueues (system.table.evictFailed noted newSize dirty),
          system.table.evictFailed noted newSize dirty, []⟩

/-- Where an eviction fails, a page still enqueued under the noted address is the noted one;
and the destructor leaves no fetch thread behind that is yet to run. -/
def StillPlaced (system : System) : Event → Prop
  | .evictFailed noted _ _ =>
    (∃ entry ∈ system.table.pageQueue ++ system.table.dirtyQueue, entry.page = noted.page) →
      system.table.Designated noted
  | .destroyed => ∀ world, system.file = some world → world.fetchThreads = []
  | .operation _ | .others => True

/-- A run whose events all meet a condition. -/
def SystemRun (config : Config) (Condition : System → Event → Prop) : System → System → Prop :=
  Relation.ReflTransGen fun before after =>
    ∃ event, Condition before event ∧ SystemStep config before event after

/-- A file that was just opened, and no page anywhere. -/
def System.start (world : World) : System := ⟨some world, .empty, []⟩

/-- What the queues of the cache manager are good for. -/
structure EntriesDesignate (config : Config) (system : System) : Prop where
  live : system.table.Live
  coherent : system.Coherent
  file : ∀ world, system.file = some world → EntriesLive config world
  evictPage : ∀ world, system.file = some world → ∀ entry ∈ system.table.pageQueue,
    entry.info.manager = ownManager → ∀ env, Outcome
      (PageManager.evictPage config env entry.info.index) world
      (fun _ final => ∀ after, Represents final after → ∀ left ∈ after.pageQueue,
        ¬ (left.info.manager = ownManager ∧ left.info.index = entry.info.index))
      (fun exception _ => exception.isThrown = true)
  flushPage : ∀ world, system.file = some world → ∀ entry ∈ system.table.dirtyQueue,
    entry.info.manager = ownManager → ∀ env, Outcome
      (CacheManager.flushPage config env entry.info.index) world
      (fun _ final => ∀ after, Represents final after → ∀ left ∈ after.dirtyQueue,
        ¬ (left.info.manager = ownManager ∧ left.info.index = entry.info.index))
      (fun exception _ => exception.isThrown = true)
  /-- No call is shut out. -/
  continues : ∀ event : Event, (∀ noted newSize dirty, event ≠ .evictFailed noted newSize dirty) →
    (event = .destroyed → ∀ noted ∈ system.evicting, noted.info.manager ≠ ownManager) →
      ∃ final, SystemStep config system event final

end Andromeda.FileData
