import Andromeda.Cleanup.CacheCalls
import Mathlib.Data.Fintype.Basic

/-! The deletion of files while readers, their fetch threads and the cleanup threads run: who
has which lock of a file and of its page manager, and who still refers to them. A lock is held
by the threads whose place says so; a step that needs a lock which is taken does nothing. -/

set_option autoImplicit false

namespace Andromeda.Cleanup

/-- How far the deletion of a file has come. -/
inductive Deletion where
  | alive
  /-- `GetDeleteLock` found nobody inside the file, and nobody gets in any more. -/
  | closed
  /-- In `~PageManager`, with `mScopeMutex`. -/
  | holdsScope
  /-- In `~PageManager`, with `mFetchMutex` as well. -/
  | removing
  /-- `~PageManager` has returned. -/
  | returned
  /-- The file and its lock are destroyed. -/
  | destroyed
  deriving DecidableEq

namespace Deletion

def hasReturned : Deletion → Bool
  | returned | destroyed => true
  | _ => false

/-- Whether `~PageManager` has locked `mFetchMutex` at some time. -/
def hasFetchLock : Deletion → Bool
  | removing | returned | destroyed => true
  | _ => false

/-- Whether `~PageManager` has locked `mScopeMutex` at some time. -/
def hasScopeLock : Deletion → Bool
  | holdsScope | removing | returned | destroyed => true
  | _ => false

end Deletion

/-- Where a reader is. Inside a file it has the scope lock of the item. -/
inductive Reader where
  | outside
  | inside (file : Nat)
  /-- With the read lock of the file. -/
  | reading (file : Nat)
  deriving DecidableEq

def Reader.file : Reader → Option Nat
  | outside => none
  | inside file | reading file => some file

/-- Where a fetch thread is. -/
inductive FetchPlace where
  /-- Started by `StartFetch`, before it has a lock. -/
  | started
  /-- With the read lock of the file. -/
  | locked
  /-- With `mFetchMutex` as well. -/
  | fetching
  /-- `mFetchMutex` given up, still with the read lock. -/
  | unlocking
  | ended
  deriving DecidableEq

structure Fetch where
  file : Nat
  place : FetchPlace
  deriving DecidableEq

/-- An entry of the map of `DoPageEvictions` or `DoPageFlushes`: a page manager, and whether its
scope lock was to be had. -/
structure Entry where
  file : Nat
  inScope : Bool
  deriving DecidableEq

/-- Where a cleanup thread is in `DoPageEvictions` or `DoPageFlushes`. -/
inductive Round where
  | outside
  /-- Before `GetPageManagerLock` of the next entry. -/
  | next (left : List Entry)
  /-- With the write lock of the file. -/
  | working (entry : Entry) (left : List Entry)
  /-- The entry erased, with its scope lock, still with the write lock. -/
  | erased (file : Nat) (left : List Entry)
  /-- A page failed, before the write lock is given up. -/
  | failed (entry : Entry) (left : List Entry)
  /-- A page failed, before the map is destroyed. -/
  | dropping (left : List Entry)
  deriving DecidableEq

namespace Round

/-- The entries in the map. -/
def entries : Round → List Entry
  | outside => []
  | next left | erased _ left | dropping left => left
  | working entry left | failed entry left => entry :: left

/-- The file whose write lock the thread has. -/
def holding : Round → Option Nat
  | working entry _ | failed entry _ => some entry.file
  | erased file _ => some file
  | _ => none

/-- Whether the thread still refers to the page manager of a file or to the file's lock. -/
def refersTo (round : Round) (file : Nat) : Prop :=
  round.holding = some file ∨ file ∈ round.entries.map Entry.file

/-- Whether it does so without the scope lock of the page manager: an entry whose scope lock was
not to be had is left, or the entry is erased before the lock of the file is given up. -/
def exposes (round : Round) (file : Nat) : Bool :=
  decide (⟨file, false⟩ ∈ round.entries) ||
    match round with
    | erased held _ => decide (held = file)
    | _ => false

end Round

/-- The files, each with the number of its pages in the cache manager's queues, and where each
thread is. -/
structure Lifetimes (τ : Type) where
  deletion : Nat → Deletion
  queued : Nat → Nat
  readers : τ → Reader
  fetches : List Fetch
  rounds : Cleaner → Round

/-- What a reader does next. -/
inductive ReaderStep where
  /-- Take the scope lock of an item. -/
  | enter (file : Nat)
  | lock
  | startFetch
  | unlock
  | leave

/-- What a cleanup thread does next. -/
inductive RoundStep where
  /-- Choose pages, with the page managers of those at which the loop stops by. -/
  | choose (visited : List Nat)
  /-- The step that its place determines. -/
  | next
  /-- Evict or flush a page. -/
  | clean
  /-- The backend fails for a page. -/
  | fail

inductive LifetimeAction (τ : Type) where
  | reader (thread : τ) (act : ReaderStep)
  /-- The next step of a fetch thread. -/
  | fetch (index : Nat)
  /-- A fetch thread adds a page. -/
  | fetchPage (index : Nat)
  | cleaner (cleaner : Cleaner) (act : RoundStep)
  /-- The next step of the deletion of a file. -/
  | delete (file : Nat)

namespace Lifetimes

variable {τ : Type}

def init : Lifetimes τ where
  deletion _ := .alive
  queued _ := 0
  readers _ := .outside
  fetches := []
  rounds _ := .outside

/-- Whether a cleanup thread has the write lock of a file. -/
def writeLocked (state : Lifetimes τ) (file : Nat) : Bool :=
  decide ((state.rounds .evict).holding = some file ∨ (state.rounds .flush).holding = some file)

/-- Whether a cleanup thread has `mScopeMutex` of a page manager. -/
def scopeLocked (state : Lifetimes τ) (file : Nat) : Bool :=
  decide (⟨file, true⟩ ∈ (state.rounds .evict).entries ∨
    ⟨file, true⟩ ∈ (state.rounds .flush).entries)

/-- Whether a fetch thread has `mFetchMutex` of a page manager. -/
def fetchLocked (state : Lifetimes τ) (file : Nat) : Bool :=
  decide (⟨file, .fetching⟩ ∈ state.fetches)

/-- Whether a fetch thread has the read lock of a file. -/
def fetchReads (state : Lifetimes τ) (file : Nat) : Bool :=
  decide (⟨file, .locked⟩ ∈ state.fetches ∨ ⟨file, .fetching⟩ ∈ state.fetches ∨
    ⟨file, .unlocking⟩ ∈ state.fetches)

def setFetch (state : Lifetimes τ) (index : Nat) (fetch : Fetch) : Lifetimes τ :=
  { state with fetches := state.fetches.set index fetch }

def setQueued (state : Lifetimes τ) (file count : Nat) : Lifetimes τ :=
  { state with queued := Function.update state.queued file count }

def goTo (state : Lifetimes τ) (cleaner : Cleaner) (round : Round) : Lifetimes τ :=
  { state with rounds := Function.update state.rounds cleaner round }

def setDeletion (state : Lifetimes τ) (file : Nat) (deletion : Deletion) : Lifetimes τ :=
  { state with deletion := Function.update state.deletion file deletion }

/-- `FetchPages`, up to the next lock. The locks are given up in the opposite order. -/
def fetchStep (state : Lifetimes τ) (index : Nat) : Lifetimes τ :=
  match state.fetches[index]? with
  | none => state
  | some ⟨file, .started⟩ =>
    if state.writeLocked file then state else state.setFetch index ⟨file, .locked⟩
  | some ⟨file, .locked⟩ =>
    if state.deletion file = .removing then state else state.setFetch index ⟨file, .fetching⟩
  | some ⟨file, .fetching⟩ => state.setFetch index ⟨file, .unlocking⟩
  | some ⟨file, .unlocking⟩ => state.setFetch index ⟨file, .ended⟩
  | some ⟨_, .ended⟩ => state

/-- The callback of `FetchPages`, which informs the cache manager. -/
def fetchPage (state : Lifetimes τ) (index : Nat) : Lifetimes τ :=
  match state.fetches[index]? with
  | some ⟨file, .fetching⟩ => state.setQueued file (state.queued file + 1)
  | _ => state

/-- `TryLockScope`. -/
def tryLockScope (state : Lifetimes τ) (file : Nat) : Bool :=
  decide (state.deletion file ≠ .holdsScope ∧ state.deletion file ≠ .removing)

/-- One page at which the loop that chooses the pages stops by: its page manager is entered into
the map, and without the scope lock the page is removed from the queues. -/
def visitPage (state : Lifetimes τ) (cleaner : Cleaner) (file : Nat) : Lifetimes τ :=
  match state.rounds cleaner, state.queued file with
  | .next entries, queued + 1 =>
    match entries.find? fun entry => decide (entry.file = file) with
    | some entry => if entry.inScope then state else state.setQueued file queued
    | none =>
      let entry : Entry := ⟨file, state.tryLockScope file⟩
      let entered := state.goTo cleaner (.next (entries ++ [entry]))
      if entry.inScope then entered else entered.setQueued file queued
  | _, _ => state

/-- The first part of `DoPageEvictions` and `DoPageFlushes`, all of it with the cache manager's
mutex. -/
def choose (state : Lifetimes τ) (cleaner : Cleaner) (visited : List Nat) : Lifetimes τ :=
  visited.foldl (fun state file => state.visitPage cleaner file) (state.goTo cleaner (.next []))

section

variable [Fintype τ]

/-- Whether somebody is inside a file. -/
def occupied (state : Lifetimes τ) (file : Nat) : Bool :=
  decide (∃ thread, (state.readers thread).file = some file)

/-- Whether the write lock of a file is to be had. -/
def lockFree (state : Lifetimes τ) (file : Nat) : Bool :=
  !state.writeLocked file && !state.fetchReads file &&
    decide (∀ thread, state.readers thread ≠ .reading file)

/-- The second part of `DoPageEvictions` and `DoPageFlushes`. -/
def roundNext (state : Lifetimes τ) (cleaner : Cleaner) : Lifetimes τ :=
  match state.rounds cleaner with
  | .outside => state
  | .next [] => state.goTo cleaner .outside
  | .next (entry :: left) =>
    if state.lockFree entry.file then state.goTo cleaner (.working entry left) else state
  | .working entry left => state.goTo cleaner (.erased entry.file left)
  | .erased _ left => state.goTo cleaner (.next left)
  | .failed entry left => state.goTo cleaner (.dropping (entry :: left))
  | .dropping _ => state.goTo cleaner .outside

/-- Pages are cleaned only where the scope lock was to be had. -/
def roundStep (state : Lifetimes τ) (cleaner : Cleaner) : RoundStep → Lifetimes τ
  | .choose visited =>
    match state.rounds cleaner with
    | .outside => state.choose cleaner visited
    | _ => state
  | .next => state.roundNext cleaner
  | .clean =>
    match state.rounds cleaner with
    | .working ⟨file, true⟩ _ => state.setQueued file (state.queued file - 1)
    | _ => state
  | .fail =>
    match state.rounds cleaner with
    | .working ⟨file, true⟩ left => state.goTo cleaner (.failed ⟨file, true⟩ left)
    | _ => state

/-- `DeleteItem` or `SyncContents` for one file: `GetDeleteLock`, then `~File`, whose page
manager is destroyed first. -/
def delete (state : Lifetimes τ) (file : Nat) : Lifetimes τ :=
  match state.deletion file with
  | .alive => if state.occupied file then state else state.setDeletion file .closed
  | .closed => if state.scopeLocked file then state else state.setDeletion file .holdsScope
  | .holdsScope => if state.fetchLocked file then state else state.setDeletion file .removing
  | .removing =>
    match state.queued file with
    | queued + 1 => state.setQueued file queued
    | 0 => state.setDeletion file .returned
  | .returned => state.setDeletion file .destroyed
  | .destroyed => state

variable [DecidableEq τ]

def put (state : Lifetimes τ) (thread : τ) (reader : Reader) : Lifetimes τ :=
  { state with readers := Function.update state.readers thread reader }

def readerStep (state : Lifetimes τ) (thread : τ) (act : ReaderStep) : Lifetimes τ :=
  match act, state.readers thread with
  | .enter file, .outside =>
    if state.deletion file = .alive then state.put thread (.inside file) else state
  | .lock, .inside file =>
    if state.writeLocked file then state else state.put thread (.reading file)
  | .startFetch, .reading file => { state with fetches := state.fetches ++ [⟨file, .started⟩] }
  | .unlock, .reading file => state.put thread (.inside file)
  | .leave, .inside _ => state.put thread .outside
  | _, _ => state

def step (state : Lifetimes τ) : LifetimeAction τ → Lifetimes τ
  | .reader thread act => state.readerStep thread act
  | .fetch index => state.fetchStep index
  | .fetchPage index => state.fetchPage index
  | .cleaner cleaner act => state.roundStep cleaner act
  | .delete file => state.delete file

def run (state : Lifetimes τ) (actions : List (LifetimeAction τ)) : Lifetimes τ :=
  actions.foldl step state

end

end Lifetimes

end Andromeda.Cleanup
