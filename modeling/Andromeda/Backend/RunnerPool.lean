import Andromeda.Library.Counting

/-! The pool of backend runners. A step of a thread is what it does between two points where
another thread can come in: taking the pool's mutex, trying one runner's lock, unlocking a
runner, notifying. -/

set_option autoImplicit false

namespace Andromeda.Backend

/-- Where a thread is in `GetRunner` and `~LockedRunner`. -/
inductive Place where
  | outside
  /-- In `GetRunner`, before it has the pool's mutex. -/
  | entering
  /-- With the mutex, about to try the lock of this runner. -/
  | scanning (index : Nat)
  /-- With the mutex and the lock of this runner. -/
  | found (index : Nat)
  /-- In the wait on the condition variable. -/
  | sleeping
  /-- Woken, before it has the mutex again. -/
  | notified
  /-- In `~LockedRunner`, with the runner unlocked, before it has the mutex. -/
  | unlocked (index : Nat)
  /-- In `SignalWaiters` with the mutex, before it notifies. -/
  | signalling (index : Nat)
  /-- In `SignalWaiters`, after it has notified. -/
  | signalled
  deriving DecidableEq

namespace Place

def isScanner : Place → Bool
  | entering | scanning _ | notified => true
  | _ => false

/-- Inside `GetRunner`, awake or already notified. -/
def isAwake : Place → Bool
  | entering | scanning _ | found _ | notified => true
  | _ => false

/-- A runner has been unlocked, which has not been signalled yet. -/
def isReleasing : Place → Bool
  | unlocked _ | signalling _ => true
  | _ => false

def hasMutex : Place → Bool
  | scanning _ | found _ | signalling _ | signalled => true
  | _ => false

end Place

/-- The pool, with where each thread is and the runners of the `LockedRunner`s it has. -/
structure RunnerPool (τ : Type) where
  size : Nat
  /-- Whether the runner of this index exists already. -/
  created : Nat → Bool
  locked : Nat → Bool
  mutex : Option τ
  places : τ → Place
  held : τ → List Nat

/-- What a thread does next. -/
inductive RunnerAction (τ : Type) where
  | getRunner
  /-- Lock the pool's mutex. -/
  | acquire
  | tryRunner
  /-- Return from `GetRunner`; a runner that does not exist is cloned first, which can throw. -/
  | finish (throws : Bool)
  /-- Begin `~LockedRunner`. -/
  | destroy (index : Nat)
  /-- `notify_one`, and the thread it wakes. -/
  | notify (target : Option τ)
  | leave
  /-- Wake up without a notification. -/
  | wake

namespace RunnerPool

variable {τ : Type}

def init (size : Nat) : RunnerPool τ where
  size
  created index := decide (index = 0)
  locked _ := false
  mutex := none
  places _ := .outside
  held _ := []

/-- The runners with a free lock. -/
def freeRunners (pool : RunnerPool τ) : Nat :=
  Library.count (Finset.range pool.size) (fun locked => !locked) pool.locked

/-- Whether a thread has the lock of a runner. -/
def Holds (pool : RunnerPool τ) (thread : τ) (index : Nat) : Prop :=
  index ∈ pool.held thread ∨ pool.places thread = .found index

section

variable [Fintype τ]

/-- The threads inside `GetRunner` that are awake or already notified. -/
def awake (pool : RunnerPool τ) : Nat :=
  Library.count Finset.univ Place.isAwake pool.places

/-- The threads that have unlocked a runner but not yet signalled. -/
def releasing (pool : RunnerPool τ) : Nat :=
  Library.count Finset.univ Place.isReleasing pool.places

end

variable [DecidableEq τ]

def goTo (pool : RunnerPool τ) (thread : τ) (place : Place) : RunnerPool τ :=
  { pool with places := Function.update pool.places thread place }

/-- Lock the pool's mutex, if it is free. -/
def acquire (pool : RunnerPool τ) (thread : τ) (place : Place) : RunnerPool τ :=
  match pool.mutex with
  | some _ => pool
  | none => { pool.goTo thread place with mutex := some thread }

/-- Unlock the pool's mutex. -/
def release (pool : RunnerPool τ) (thread : τ) (place : Place) : RunnerPool τ :=
  { pool.goTo thread place with mutex := none }

/-- `try_lock` on a free runner. -/
def lockRunner (pool : RunnerPool τ) (thread : τ) (index : Nat) : RunnerPool τ :=
  { pool.goTo thread (.found index) with locked := Function.update pool.locked index true }

/-- One round of the loop of `GetRunner`. The wait unlocks the mutex. -/
def tryRunner (pool : RunnerPool τ) (thread : τ) (index : Nat) : RunnerPool τ :=
  if pool.locked index then
    if index + 1 = pool.size then pool.release thread .sleeping
    else pool.goTo thread (.scanning (index + 1))
  else pool.lockRunner thread index

/-- `Clone` throws: both locks are given up. -/
def cloneFailed (pool : RunnerPool τ) (thread : τ) (index : Nat) : RunnerPool τ :=
  { pool.release thread .outside with locked := Function.update pool.locked index false }

/-- The return of the `LockedRunner`. -/
def handOut (pool : RunnerPool τ) (thread : τ) (index : Nat) : RunnerPool τ :=
  { pool.release thread .outside with
    created := Function.update pool.created index true
    held := Function.update pool.held thread (index :: pool.held thread) }

/-- `GetRunner` with the lock of a runner, which is cloned first if it does not exist. -/
def finish (pool : RunnerPool τ) (thread : τ) (index : Nat) (throws : Bool) : RunnerPool τ :=
  if pool.created index = false ∧ throws = true then pool.cloneFailed thread index
  else pool.handOut thread index

/-- The first step of `~LockedRunner`. -/
def destroy (pool : RunnerPool τ) (thread : τ) (index : Nat) : RunnerPool τ :=
  { pool.goTo thread (.unlocked index) with
    locked := Function.update pool.locked index false
    held := Function.update pool.held thread ((pool.held thread).erase index) }

section

variable [Fintype τ]

/-- `notify_one` wakes a sleeper, unless there is none. -/
def canNotify (pool : RunnerPool τ) : Option τ → Bool
  | some other => decide (pool.places other = .sleeping)
  | none => decide (∀ other, pool.places other ≠ .sleeping)

/-- `mCV.notify_one()`. -/
def notifyOne (pool : RunnerPool τ) : Option τ → RunnerPool τ
  | some other => pool.goTo other .notified
  | none => pool

/-- A step of a thread; one it cannot take changes nothing. -/
def step (pool : RunnerPool τ) (move : τ × RunnerAction τ) : RunnerPool τ :=
  match pool.places move.1, move.2 with
  | .outside, .getRunner => pool.goTo move.1 .entering
  | .entering, .acquire => pool.acquire move.1 (.scanning 0)
  | .notified, .acquire => pool.acquire move.1 (.scanning 0)
  | .scanning index, .tryRunner => pool.tryRunner move.1 index
  | .found index, .finish throws => pool.finish move.1 index throws
  | .sleeping, .wake => pool.goTo move.1 .notified
  | .outside, .destroy index =>
    if index ∈ pool.held move.1 then pool.destroy move.1 index else pool
  | .unlocked index, .acquire => pool.acquire move.1 (.signalling index)
  | .signalling _, .notify target =>
    if pool.canNotify target then (pool.notifyOne target).goTo move.1 .signalled else pool
  | .signalled, .leave => pool.release move.1 .outside
  | _, _ => pool

/-- Any interleaving of the threads' steps. -/
def run (pool : RunnerPool τ) (moves : List (τ × RunnerAction τ)) : RunnerPool τ :=
  moves.foldl step pool

end

end RunnerPool

end Andromeda.Backend
