import Andromeda.Locks.SharedMutex
import Mathlib.Algebra.Order.BigOperators.Group.Finset

/-! The shared mutex excludes writers from everyone, knows its holders, serves its queue in
order and loses no wakeup. -/

set_option autoImplicit false

namespace Andromeda.Locks.SharedMutex

open Andromeda.Library

variable {τ : Type} [Fintype τ] [DecidableEq τ] {mutex : SharedMutex τ} {thread : τ}

/-- The invariant of every interleaving: one writer if the mutex is locked without readers,
else none. -/
structure Valid (mutex : SharedMutex τ) : Prop where
  ordered : mutex.waiters.Ordered
  readers : mutex.readers = ∑ thread, mutex.reads thread
  writers : ∑ thread, mutex.writes thread =
    if mutex.locked = true ∧ mutex.readers = 0 then 1 else 0
  locked : mutex.readers ≠ 0 → mutex.locked = true
  alert : mutex.waiters.Alert fun kind => mutex.mustWait kind = false

omit [DecidableEq τ] in
theorem valid_init : Valid (init : SharedMutex τ) :=
  ⟨WaitQueue.ordered_empty, by simp [init], by simp [init], by simp [init],
    WaitQueue.alert_empty _⟩

omit [Fintype τ] [DecidableEq τ] in
private theorem mustWait_of_writer (mutex : SharedMutex τ) (locked : mutex.locked = true)
    (none : mutex.readers = 0) (kind : LockKind) : mutex.mustWait kind = true := by
  cases kind with
  | exclusive => exact locked
  | shared => simp [mustWait, locked, none]

private theorem Valid.enterExclusive (valid : Valid mutex) (open_ : mutex.locked = false)
    {waiters : WaitQueue τ LockKind} (ordered : waiters.Ordered) (thread : τ) :
    Valid ({ mutex with waiters }.enterExclusive thread) := by
  have none : mutex.readers = 0 := by
    by_contra some
    rw [valid.locked some] at open_
    cases open_
  have writers := valid.writers
  rw [open_] at writers
  refine ⟨ordered, valid.readers, ?_, fun _ => rfl, fun _ wait _ _ may => ?_⟩
  · show ∑ other, Function.update mutex.writes thread (mutex.writes thread + 1) other =
      if true = true ∧ mutex.readers = 0 then 1 else 0
    rw [sum_update_succ, writers, none]
    rfl
  · have must := mustWait_of_writer ({ mutex with waiters }.enterExclusive thread) rfl none
      wait.kind
    exact Bool.noConfusion (must.symm.trans may)

private theorem Valid.tryLock (valid : Valid mutex) (thread : τ) :
    Valid (mutex.tryLock thread).2 := by
  unfold SharedMutex.tryLock
  split
  · next free => exact valid.enterExclusive free.1 valid.ordered thread
  · exact valid

private theorem Valid.readers_succ (valid : Valid mutex) (thread : τ) :
    mutex.readers + 1 =
      ∑ other, Function.update mutex.reads thread (mutex.reads thread + 1) other := by
  rw [sum_update_succ, ← valid.readers]

private theorem Valid.enterShared (valid : Valid mutex)
    (may : mutex.mustWait .shared = false) {waiters : WaitQueue τ LockKind}
    (ordered : waiters.Ordered) (thread : τ) :
    Valid { mutex with
      readers := mutex.readers + 1
      reads := Function.update mutex.reads thread (mutex.reads thread + 1)
      locked := if mutex.readers = 0 then true else mutex.locked
      waiters := waiters.notifyAll } := by
  refine ⟨ordered.notifyAll, valid.readers_succ thread, ?_, fun _ => ?_,
    WaitQueue.alert_notifyAll ordered _⟩
  · have writers := valid.writers
    rw [if_neg] at writers
    · rw [writers, if_neg (by simp)]
    · rintro ⟨locked, none⟩
      simp [mustWait, locked, none] at may
  · show (if mutex.readers = 0 then true else mutex.locked) = true
    split
    · rfl
    · next some => exact valid.locked some

private theorem Valid.checkTurn (valid : Valid mutex) {wait : Wait LockKind}
    (waiting : mutex.waiters.waits thread = some wait) : Valid (mutex.checkTurn thread wait) := by
  unfold SharedMutex.checkTurn
  split
  · next refused =>
    refine ⟨valid.ordered.sleep waiting, valid.readers, valid.writers, valid.locked,
      valid.alert.sleep fun front may => ?_⟩
    rcases refused with must | notFront
    · exact absurd must (by simpa using may)
    · rw [front] at notFront
      cases notFront
  · next granted =>
    rw [not_or, Bool.not_eq_true, Bool.not_eq_false] at granted
    obtain ⟨may, front⟩ := granted
    have ordered := valid.ordered.leave waiting front
    unfold SharedMutex.enter
    cases kind : wait.kind with
    | exclusive =>
        rw [kind] at may
        exact valid.enterExclusive may ordered thread
    | shared =>
        rw [kind] at may
        exact valid.enterShared may ordered thread

private theorem Valid.queueUp (valid : Valid mutex) (idle : mutex.waiters.waits thread = none)
    (kind : LockKind) (priority : Bool) : Valid (mutex.queueUp thread kind priority) := by
  have joined : Valid { mutex with waiters := mutex.waiters.join thread kind priority } :=
    ⟨valid.ordered.join idle kind priority, valid.readers, valid.writers, valid.locked,
      valid.alert.join valid.ordered kind priority⟩
  exact joined.checkTurn (WaitQueue.waits_join kind priority)

private theorem Valid.lockShared (valid : Valid mutex) (idle : mutex.waiters.waits thread = none)
    (priority : Bool) : Valid (mutex.lockShared thread priority) := by
  unfold SharedMutex.lockShared
  split
  · next skips =>
    have locked := valid.locked skips.2
    refine ⟨valid.ordered, valid.readers_succ thread, ?_, fun _ => locked,
      valid.alert.mono fun kind may => ?_⟩
    · have writers := valid.writers
      rw [if_neg fun single => skips.2 single.2] at writers
      rw [if_neg (by simp [SharedMutex.enterShared])]
      exact writers
    · cases kind with
      | exclusive => exact may
      | shared => simp [mustWait, skips.2]
  · exact valid.queueUp idle .shared priority

private theorem Valid.unlock (valid : Valid mutex) (holds : mutex.writes thread ≠ 0) :
    Valid (mutex.unlock thread) := by
  have less := sum_update_pred holds
  have writers := valid.writers
  have single : mutex.locked = true ∧ mutex.readers = 0 := by
    by_contra notSingle
    rw [if_neg notSingle] at writers
    omega
  rw [if_pos single] at writers
  refine ⟨valid.ordered.notifyAll, valid.readers, ?_, fun some => absurd single.2 some,
    WaitQueue.alert_notifyAll valid.ordered _⟩
  show ∑ other, Function.update mutex.writes thread (mutex.writes thread - 1) other =
    if false = true ∧ mutex.readers = 0 then 1 else 0
  rw [if_neg (by simp)]
  omega

private theorem Valid.unlockShared (valid : Valid mutex) (holds : mutex.reads thread ≠ 0) :
    Valid (mutex.unlockShared thread) := by
  have less := sum_update_pred holds
  have readers := valid.readers
  have some : mutex.readers ≠ 0 := by omega
  have writers := valid.writers
  rw [if_neg fun single => some single.2] at writers
  refine ⟨valid.ordered.notifyAll, ?_, ?_, fun more => ?_,
    WaitQueue.alert_notifyAll valid.ordered _⟩
  · show mutex.readers - 1 =
      ∑ other, Function.update mutex.reads thread (mutex.reads thread - 1) other
    omega
  · show ∑ other, mutex.writes other =
      if (if mutex.readers - 1 = 0 then false else mutex.locked) = true ∧ mutex.readers - 1 = 0
        then 1 else 0
    rw [writers, if_neg]
    rintro ⟨locked, last⟩
    rw [if_pos last] at locked
    cases locked
  · show (if mutex.readers - 1 = 0 then false else mutex.locked) = true
    have notLast : mutex.readers - 1 ≠ 0 := more
    rw [if_neg notLast]
    exact valid.locked some

theorem Valid.step (valid : Valid mutex) (move : τ × Action) : Valid (mutex.step move) := by
  obtain ⟨thread, action⟩ := move
  unfold SharedMutex.step
  cases waiting : mutex.waiters.waits thread with
  | none =>
      cases action with
      | lock => exact valid.queueUp waiting .exclusive false
      | tryLock => exact valid.tryLock thread
      | unlock =>
          dsimp only
          split
          · exact valid
          · next holds => exact valid.unlock holds
      | lockShared priority => exact valid.lockShared waiting priority
      | unlockShared =>
          dsimp only
          split
          · exact valid
          · next holds => exact valid.unlockShared holds
      | wake => exact valid
      | resume => exact valid
  | some wait =>
      cases action with
      | wake =>
          exact ⟨valid.ordered.wake waiting, valid.readers, valid.writers, valid.locked,
            valid.alert.wake⟩
      | resume =>
          dsimp only
          split
          · exact valid
          · exact valid.checkTurn waiting
      | lock => exact valid
      | tryLock => exact valid
      | unlock => exact valid
      | lockShared _ => exact valid
      | unlockShared => exact valid

theorem Valid.run (valid : Valid mutex) (moves : List (τ × Action)) : Valid (mutex.run moves) := by
  induction moves generalizing mutex with
  | nil => exact valid
  | cons move rest ih => exact ih (valid.step move)

/-- A writer is the only holder. -/
theorem Valid.excludes (valid : Valid mutex) (writes : mutex.writes thread ≠ 0) :
    mutex.writes thread = 1 ∧ (∀ other, other ≠ thread → mutex.writes other = 0) ∧
      ∀ other, mutex.reads other = 0 := by
  have writers := valid.writers
  have some : mutex.writes thread ≤ ∑ other, mutex.writes other :=
    Finset.single_le_sum (fun _ _ => Nat.zero_le _) (Finset.mem_univ thread)
  have single : mutex.locked = true ∧ mutex.readers = 0 := by
    by_contra notSingle
    rw [if_neg notSingle] at writers
    omega
  rw [if_pos single] at writers
  refine ⟨by omega, fun other different => ?_, fun other => ?_⟩
  · have both : mutex.writes thread + mutex.writes other ≤ ∑ other, mutex.writes other := by
      rw [← Finset.sum_pair (Ne.symm different)]
      exact Finset.sum_le_sum_of_subset (Finset.subset_univ _)
    omega
  · have readers := valid.readers
    rw [single.2] at readers
    exact Finset.sum_eq_zero_iff.mp readers.symm other (Finset.mem_univ other)

omit [DecidableEq τ] in
/-- The flag says whether anyone holds the mutex. -/
theorem Valid.locked_iff (valid : Valid mutex) :
    mutex.locked = true ↔ ∃ thread, mutex.writes thread ≠ 0 ∨ mutex.reads thread ≠ 0 := by
  have writers := valid.writers
  constructor
  · intro locked
    by_cases none : mutex.readers = 0
    · rw [if_pos ⟨locked, none⟩] at writers
      obtain ⟨thread, _, holds⟩ := Finset.exists_ne_zero_of_sum_ne_zero
        (s := Finset.univ) (f := mutex.writes) (by omega)
      exact ⟨thread, .inl holds⟩
    · rw [valid.readers] at none
      obtain ⟨thread, _, holds⟩ := Finset.exists_ne_zero_of_sum_ne_zero none
      exact ⟨thread, .inr holds⟩
  · rintro ⟨thread, writes | reads⟩
    · have some : mutex.writes thread ≤ ∑ other, mutex.writes other :=
        Finset.single_le_sum (fun _ _ => Nat.zero_le _) (Finset.mem_univ thread)
      by_contra notLocked
      rw [if_neg fun single => notLocked single.1] at writers
      omega
    · refine valid.locked ?_
      have some : mutex.reads thread ≤ ∑ other, mutex.reads other :=
        Finset.single_le_sum (fun _ _ => Nat.zero_le _) (Finset.mem_univ thread)
      rw [valid.readers]
      omega

/-- In every interleaving a writer excludes every other holder, the flag and the count are
those of the holders, the calls queued without priority are served in their order, and the
thread at the front does not sleep while it could have its lock. -/
theorem run_safe (moves : List (τ × Action)) :
    let mutex := (init : SharedMutex τ).run moves
    (∀ thread, mutex.writes thread ≠ 0 → mutex.writes thread = 1 ∧
        (∀ other, other ≠ thread → mutex.writes other = 0) ∧ ∀ other, mutex.reads other = 0) ∧
      (mutex.locked = true ↔ ∃ thread, mutex.writes thread ≠ 0 ∨ mutex.reads thread ≠ 0) ∧
      mutex.readers = ∑ thread, mutex.reads thread ∧
      mutex.waiters.served <+: mutex.waiters.arrivals ∧
      ∀ ticket, mutex.waiters.queue.head? = some ticket →
        ∃ thread wait, mutex.waiters.waits thread = some wait ∧ wait.ticket = ticket ∧
          (mutex.mustWait wait.kind = false → wait.asleep = false) := by
  intro mutex
  have valid : Valid mutex := valid_init.run moves
  refine ⟨fun thread => valid.excludes, valid.locked_iff, valid.readers,
    ⟨_, valid.ordered.history.symm⟩, fun ticket front => ?_⟩
  obtain ⟨thread, wait, waiting, same⟩ := valid.ordered.owner (List.mem_of_mem_head? front)
  refine ⟨thread, wait, waiting, same, fun may => valid.alert thread wait waiting ?_ may⟩
  rw [WaitQueue.isFront, same, front]
  exact decide_eq_true rfl

end Andromeda.Locks.SharedMutex
