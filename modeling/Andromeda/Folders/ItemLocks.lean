import Andromeda.Locks.SharedMutex
import Mathlib.Data.Fintype.Basic

/-! The loop that locks all items of a folder: it tries one after the other, and when one is not free
it gives up all others, waits for that one, and starts over. Other threads lock and unlock items
meanwhile. -/

set_option autoImplicit false

namespace Andromeda.Folders

open Andromeda.Locks

/-- Where a thread is in `LockItems`. -/
inductive LockPlace where
  /-- Before the try of an item. Those before it are locked. -/
  | trying (index : Nat)
  /-- In `lockMap.clear`, after an item was not free: the locks from the next one on are left. -/
  | clearing (index next : Nat)
  /-- In `GetWriteLock`, or at its end. -/
  | waiting (index : Nat)
  | returned
  deriving DecidableEq

/-- The mutexes of the items of a folder, in the order of its map, and the thread that locks them
all, with the number of its tries and of those that failed. -/
structure ItemLocks (τ : Type) where
  mutexes : Nat → SharedMutex τ
  place : LockPlace
  tries : Nat
  restarts : Nat

/-- A step of the thread, a wakeup of it without a notification, or a step of another thread. -/
inductive LockMove (τ : Type) where
  | own
  | wake
  | other (thread : τ) (index : Nat) (action : SharedMutex.Action)

namespace ItemLocks

variable {τ : Type} [DecidableEq τ]

/-- Before the loop. -/
def start (mutexes : Nat → SharedMutex τ) : ItemLocks τ := ⟨mutexes, .trying 0, 0, 0⟩

/-- A step of some thread at the mutex of an item. -/
def act (locks : ItemLocks τ) (index : Nat) (move : τ × SharedMutex.Action) : ItemLocks τ :=
  { locks with mutexes := Function.update locks.mutexes index ((locks.mutexes index).step move) }

def goTo (locks : ItemLocks τ) (place : LockPlace) : ItemLocks τ := { locks with place }

variable (size : Nat) (owner : τ)

/-- The next step of `LockItems`. -/
def ownStep (locks : ItemLocks τ) : ItemLocks τ :=
  match locks.place with
  | .trying index =>
    if index = size then locks.goTo .returned
    else
      let tried := { locks.act index (owner, .tryLock) with tries := locks.tries + 1 }
      if ((locks.mutexes index).tryLock owner).1 then tried.goTo (.trying (index + 1))
      else { tried with place := .clearing index 0, restarts := locks.restarts + 1 }
  | .clearing index next =>
    if next = index then (locks.act index (owner, .lock)).goTo (.waiting index)
    else (locks.act next (owner, .unlock)).goTo (.clearing index (next + 1))
  | .waiting index =>
    if ((locks.mutexes index).waiters.waits owner).isSome then locks.act index (owner, .resume)
    else (locks.act index (owner, .unlock)).goTo (.trying 0)
  | .returned => locks

/-- A step of the system. -/
def step (locks : ItemLocks τ) : LockMove τ → ItemLocks τ
  | .own => locks.ownStep size owner
  | .wake =>
    match locks.place with
    | .waiting index => locks.act index (owner, .wake)
    | _ => locks
  | .other thread index action => if thread = owner then locks else locks.act index (thread, action)

/-- Any interleaving of the thread's steps with those of others. -/
def run (locks : ItemLocks τ) (moves : List (LockMove τ)) : ItemLocks τ :=
  moves.foldl (step size owner) locks

end ItemLocks

end Andromeda.Folders
