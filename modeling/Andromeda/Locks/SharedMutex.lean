import Andromeda.Library.WaitQueue

/-! The shared mutex with a fair queue and a readers-priority lock. A step is one critical
section of its internal mutex: a call up to its return or its wait, or what a thread does
each time it comes back from the wait. -/

set_option autoImplicit false

namespace Andromeda.Locks

open Andromeda.Library

/-- The two kinds of lock a thread can wait for. -/
inductive LockKind where
  | exclusive
  | shared
  deriving DecidableEq

/-- A shared mutex, with the number of locks of each kind each thread holds. -/
structure SharedMutex (τ : Type) where
  waiters : WaitQueue τ LockKind
  readers : Nat
  locked : Bool
  writes : τ → Nat
  reads : τ → Nat

namespace SharedMutex

variable {τ : Type}

def init : SharedMutex τ := ⟨.empty, 0, false, fun _ => 0, fun _ => 0⟩

/-- The part of the wait conditions that is not the place in the queue. -/
def mustWait (mutex : SharedMutex τ) : LockKind → Bool
  | .exclusive => mutex.locked
  | .shared => mutex.readers = 0 && mutex.locked

variable [DecidableEq τ]

/-- One more writer. -/
def enterExclusive (mutex : SharedMutex τ) (thread : τ) : SharedMutex τ :=
  { mutex with
    locked := true
    writes := Function.update mutex.writes thread (mutex.writes thread + 1) }

/-- One more reader. -/
def enterShared (mutex : SharedMutex τ) (thread : τ) : SharedMutex τ :=
  { mutex with
    readers := mutex.readers + 1
    reads := Function.update mutex.reads thread (mutex.reads thread + 1) }

/-- `try_lock`. -/
def tryLock (mutex : SharedMutex τ) (thread : τ) : Bool × SharedMutex τ :=
  if mutex.locked = false ∧ mutex.waiters.queue.isEmpty then (true, mutex.enterExclusive thread)
  else (false, mutex)

/-- `lock` and `lock_shared` after their wait loops. -/
def enter (mutex : SharedMutex τ) (thread : τ) (wait : Wait LockKind) : SharedMutex τ :=
  let popped := { mutex with waiters := mutex.waiters.leave thread wait }
  match wait.kind with
  | .exclusive => popped.enterExclusive thread
  | .shared =>
    let entered := popped.enterShared thread
    { entered with
      locked := if mutex.readers = 0 then true else mutex.locked
      waiters := entered.waiters.notifyAll }

/-- `lock` and `lock_shared` from the test of their wait loops on. -/
def checkTurn (mutex : SharedMutex τ) (thread : τ) (wait : Wait LockKind) : SharedMutex τ :=
  if mutex.mustWait wait.kind = true ∨ mutex.waiters.isFront wait = false then
    { mutex with waiters := mutex.waiters.sleep thread wait }
  else mutex.enter thread wait

/-- Queue up and test the wait loop for the first time. -/
def queueUp (mutex : SharedMutex τ) (thread : τ) (kind : LockKind) (priority : Bool) :
    SharedMutex τ :=
  { mutex with waiters := mutex.waiters.join thread kind priority }.checkTurn thread
    (mutex.waiters.nextWait kind priority)

/-- `lock`. -/
def lock (mutex : SharedMutex τ) (thread : τ) : SharedMutex τ :=
  mutex.queueUp thread .exclusive false

/-- `unlock`. -/
def unlock (mutex : SharedMutex τ) (thread : τ) : SharedMutex τ :=
  { mutex with
    locked := false
    writes := Function.update mutex.writes thread (mutex.writes thread - 1)
    waiters := mutex.waiters.notifyAll }

/-- `lock_shared`. With priority it skips the queue if there are readers, and its other
waiters if not. -/
def lockShared (mutex : SharedMutex τ) (thread : τ) (priority : Bool) : SharedMutex τ :=
  if priority = true ∧ mutex.readers ≠ 0 then mutex.enterShared thread
  else mutex.queueUp thread .shared priority

/-- `unlock_shared`. -/
def unlockShared (mutex : SharedMutex τ) (thread : τ) : SharedMutex τ :=
  { mutex with
    readers := mutex.readers - 1
    locked := if mutex.readers - 1 = 0 then false else mutex.locked
    reads := Function.update mutex.reads thread (mutex.reads thread - 1)
    waiters := mutex.waiters.notifyAll }

/-- What a thread does next: a call, or while it waits a wakeup without a notification or
the return from the wait. -/
inductive Action where
  | lock
  | tryLock
  | unlock
  | lockShared (priority : Bool)
  | unlockShared
  | wake
  | resume
  deriving DecidableEq

/-- A step of a thread. A thread that waits calls nothing, one that does not cannot wake up,
and none unlocks what it does not hold. -/
def step (mutex : SharedMutex τ) (move : τ × Action) : SharedMutex τ :=
  match mutex.waiters.waits move.1, move.2 with
  | none, .lock => mutex.lock move.1
  | none, .tryLock => (mutex.tryLock move.1).2
  | none, .unlock => if mutex.writes move.1 = 0 then mutex else mutex.unlock move.1
  | none, .lockShared priority => mutex.lockShared move.1 priority
  | none, .unlockShared => if mutex.reads move.1 = 0 then mutex else mutex.unlockShared move.1
  | some wait, .wake => { mutex with waiters := mutex.waiters.wake move.1 wait }
  | some wait, .resume => if wait.asleep then mutex else mutex.checkTurn move.1 wait
  | _, _ => mutex

/-- Any interleaving of the threads' steps. -/
def run (mutex : SharedMutex τ) (moves : List (τ × Action)) : SharedMutex τ :=
  moves.foldl step mutex

end SharedMutex

end Andromeda.Locks
