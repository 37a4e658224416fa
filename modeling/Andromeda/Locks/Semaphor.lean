import Andromeda.Library.WaitQueue

/-! The counting semaphor. A step is one critical section of its internal mutex: a call up to
its return or its wait, or what a thread does each time it comes back from the wait. -/

set_option autoImplicit false

namespace Andromeda.Locks

open Andromeda.Library

/-- A semaphor, with the number of locks each thread holds. -/
structure Semaphor (τ : Type) where
  waiters : WaitQueue τ Unit
  available : Nat
  maxCount : Nat
  holds : τ → Nat

namespace Semaphor

variable {τ : Type}

def init (max : Nat) : Semaphor τ := ⟨.empty, max, max, fun _ => 0⟩

variable [DecidableEq τ]

/-- One lock less is free. -/
def take (semaphor : Semaphor τ) (thread : τ) : Semaphor τ :=
  { semaphor with
    available := semaphor.available - 1
    holds := Function.update semaphor.holds thread (semaphor.holds thread + 1) }

/-- `try_lock`. -/
def tryLock (semaphor : Semaphor τ) (thread : τ) : Bool × Semaphor τ :=
  if semaphor.available ≠ 0 ∧ semaphor.waiters.queue.isEmpty then (true, semaphor.take thread)
  else (false, semaphor)

/-- `lock` from the test of its wait loop on. -/
def checkTurn (semaphor : Semaphor τ) (thread : τ) (wait : Wait Unit) : Semaphor τ :=
  if semaphor.available = 0 ∨ semaphor.waiters.isFront wait = false then
    { semaphor with waiters := semaphor.waiters.sleep thread wait }
  else
    let taken := { semaphor with waiters := semaphor.waiters.leave thread wait }.take thread
    if taken.available ≠ 0 then { taken with waiters := taken.waiters.notifyAll } else taken

/-- `lock`. -/
def lock (semaphor : Semaphor τ) (thread : τ) : Semaphor τ :=
  { semaphor with waiters := semaphor.waiters.join thread () false }.checkTurn thread
    (semaphor.waiters.nextWait () false)

/-- `unlock`. -/
def unlock (semaphor : Semaphor τ) (thread : τ) : Semaphor τ :=
  { semaphor with
    available := semaphor.available + 1
    holds := Function.update semaphor.holds thread (semaphor.holds thread - 1)
    waiters := semaphor.waiters.notifyAll }

/-- What a thread does next: a call, or while it waits a wakeup without a notification or
the return from the wait. -/
inductive Action where
  | lock
  | tryLock
  | unlock
  | wake
  | resume
  deriving DecidableEq

/-- A step of a thread. A thread that waits calls nothing, one that does not cannot wake up,
and none unlocks what it does not hold. -/
def step (semaphor : Semaphor τ) (move : τ × Action) : Semaphor τ :=
  match semaphor.waiters.waits move.1, move.2 with
  | none, .lock => semaphor.lock move.1
  | none, .tryLock => (semaphor.tryLock move.1).2
  | none, .unlock => if semaphor.holds move.1 = 0 then semaphor else semaphor.unlock move.1
  | some wait, .wake => { semaphor with waiters := semaphor.waiters.wake move.1 wait }
  | some wait, .resume => if wait.asleep then semaphor else semaphor.checkTurn move.1 wait
  | _, _ => semaphor

/-- Any interleaving of the threads' steps. -/
def run (semaphor : Semaphor τ) (moves : List (τ × Action)) : Semaphor τ :=
  moves.foldl step semaphor

end Semaphor

end Andromeda.Locks
