import Andromeda.Cleanup.CleanupThreads

/-! The loops of `DoPageEvictions` and `DoPageFlushes` that select pages, with the reverse iterator
that they step through a queue from which they also erase. -/

set_option autoImplicit false

namespace Andromeda.Cleanup

open FileData (CacheManager PageInfo)

/-- An iterator of a queue: at the entry of a page, or at the end. -/
abbrev QueueIterator := Option (Nat × Nat)

/-- The entry in front of the entry of a page. -/
def entryBefore (page : Nat × Nat) : List PageInfo → Option PageInfo
  | first :: second :: rest =>
    if second.isFor page.1 page.2 then some first else entryBefore page (second :: rest)
  | _ => none

/-- The entry in front of an iterator, which a reverse iterator with that base stands for. There is
none in front of the first entry, and an iterator to an erased entry is not one. -/
def QueueIterator.prev (queue : List PageInfo) : QueueIterator → Option PageInfo
  | none => queue.getLast?
  | some page => entryBefore page queue

inductive SelectionStatus where
  | running
  | stopped
  /-- An iterator past the front of the queue or to an erased entry was used. -/
  | undefined
  deriving DecidableEq

/-- A selection loop between two rounds, with the entries copied for the managers whose scope lock
was taken. -/
structure Selection where
  cache : CacheManager
  /-- The base of the reverse iterator. -/
  pageIt : QueueIterator
  cleaned : Nat
  selected : List PageInfo
  status : SelectionStatus
  deriving DecidableEq

/-- The queue that the loop of a cleanup thread goes through. -/
def Cleaner.queue : Cleaner → CacheManager → List PageInfo
  | .evict => CacheManager.pageQueue
  | .flush => CacheManager.dirtyQueue

/-- The condition of the loop of a cleanup thread. -/
def Cleaner.over (memoryLimit margin : Nat) : Cleaner → Nat → CacheManager → Bool
  | .evict => overMemory memoryLimit margin
  | .flush => overDirty

namespace Selection

variable (memoryLimit margin : Nat) (alive : Nat → Bool) (cleaner : Cleaner)

/-- The body of the loop for the entry that the iterator stands for. -/
def select (info : PageInfo) (state : Selection) : Selection :=
  if alive info.manager then
    { state with
      selected := state.selected ++ [info]
      cleaned := state.cleaned + info.pageSize }
  else { state with cache := state.cache.removePage info.manager info.index } -- being deleted

/-- The step of the iterator after the body. -/
def advance (state : Selection) : Selection :=
  match state.pageIt.prev (cleaner.queue state.cache) with
  | none => { state with status := .undefined }
  | some info => { state with pageIt := some (info.manager, info.index) }

/-- One round of the loop. -/
def step (state : Selection) : Selection :=
  match state.status with
  | .running =>
    if cleaner.over memoryLimit margin state.cleaned state.cache then
      match state.pageIt.prev (cleaner.queue state.cache) with
      | none => { state with status := .undefined }
      | some info => (state.select alive info).advance cleaner
    else { state with status := .stopped }
  | _ => state

/-- The loop after that many rounds. -/
def rounds (state : Selection) (count : Nat) : Selection :=
  (step memoryLimit margin alive cleaner)^[count] state

/-- The loop before its first round. -/
def start (cache : CacheManager) : Selection := ⟨cache, none, 0, [], .running⟩

end Selection

end Andromeda.Cleanup
