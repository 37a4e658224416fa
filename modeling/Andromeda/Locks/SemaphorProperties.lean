import Andromeda.Locks.Semaphor

/-! The semaphor counts its holders, serves its queue in order and loses no wakeup. -/

set_option autoImplicit false

namespace Andromeda.Locks.Semaphor

open Andromeda.Library

variable {τ : Type} [Fintype τ] [DecidableEq τ] {max : Nat} {semaphor : Semaphor τ} {thread : τ}

/-- The invariant of every interleaving. -/
structure Valid (max : Nat) (semaphor : Semaphor τ) : Prop where
  ordered : semaphor.waiters.Ordered
  counted : semaphor.available + ∑ thread, semaphor.holds thread = max
  alert : semaphor.waiters.Alert fun _ => 0 < semaphor.available

omit [DecidableEq τ] in
private theorem valid_init (max : Nat) : Valid max (init max : Semaphor τ) :=
  ⟨WaitQueue.ordered_empty, by simp [init], WaitQueue.alert_empty _⟩

private theorem Valid.counted_take (valid : Valid max semaphor) (free : semaphor.available ≠ 0)
    (thread : τ) :
    (semaphor.take thread).available + ∑ other, (semaphor.take thread).holds other = max := by
  have counted := valid.counted
  show semaphor.available - 1 +
    ∑ other, Function.update semaphor.holds thread (semaphor.holds thread + 1) other = max
  rw [sum_update_succ]
  omega

private theorem Valid.tryLock (valid : Valid max semaphor) (thread : τ) :
    Valid max (semaphor.tryLock thread).2 := by
  unfold Semaphor.tryLock
  split
  · next free =>
    exact ⟨valid.ordered, valid.counted_take free.1 thread,
      valid.alert.mono fun _ more => Nat.lt_of_lt_of_le more (Nat.sub_le _ _)⟩
  · exact valid

/-- The wait loop: either the thread sleeps, or it leaves the front of the queue and the next
one is woken if there is another lock. -/
private theorem Valid.checkTurn (valid : Valid max semaphor) {wait : Wait Unit}
    (waiting : semaphor.waiters.waits thread = some wait) :
    Valid max (semaphor.checkTurn thread wait) := by
  unfold Semaphor.checkTurn
  split
  · next refused =>
    refine ⟨valid.ordered.sleep waiting, valid.counted, valid.alert.sleep fun front free => ?_⟩
    rcases refused with none | notFront
    · omega
    · rw [front] at notFront
      cases notFront
  · next granted =>
    rw [not_or, Bool.not_eq_false] at granted
    have ordered := valid.ordered.leave waiting granted.2
    have counted := valid.counted_take granted.1 thread
    dsimp only
    split
    · exact ⟨ordered.notifyAll, counted, WaitQueue.alert_notifyAll ordered _⟩
    · next last =>
      refine ⟨ordered, counted, fun _ _ _ _ more => ?_⟩
      exact absurd (Nat.ne_of_gt more) last

private theorem Valid.lock (valid : Valid max semaphor)
    (idle : semaphor.waiters.waits thread = none) :
    Valid max (semaphor.lock thread) := by
  have joined : Valid max { semaphor with waiters := semaphor.waiters.join thread () false } :=
    ⟨valid.ordered.join idle () false, valid.counted, valid.alert.join valid.ordered () false⟩
  exact joined.checkTurn (WaitQueue.waits_join () false)

private theorem Valid.unlock (valid : Valid max semaphor) (holds : semaphor.holds thread ≠ 0) :
    Valid max (semaphor.unlock thread) := by
  refine ⟨valid.ordered.notifyAll, ?_, WaitQueue.alert_notifyAll valid.ordered _⟩
  have counted := valid.counted
  have less := sum_update_pred holds
  show semaphor.available + 1 +
    ∑ other, Function.update semaphor.holds thread (semaphor.holds thread - 1) other = max
  omega

private theorem Valid.step (valid : Valid max semaphor) (move : τ × Action) :
    Valid max (semaphor.step move) := by
  obtain ⟨thread, action⟩ := move
  unfold Semaphor.step
  cases waiting : semaphor.waiters.waits thread with
  | none =>
      cases action with
      | lock => exact valid.lock waiting
      | tryLock => exact valid.tryLock thread
      | unlock =>
          dsimp only
          split
          · exact valid
          · next holds => exact valid.unlock holds
      | wake => exact valid
      | resume => exact valid
  | some wait =>
      cases action with
      | wake => exact ⟨valid.ordered.wake waiting, valid.counted, valid.alert.wake⟩
      | resume =>
          dsimp only
          split
          · exact valid
          · exact valid.checkTurn waiting
      | lock => exact valid
      | tryLock => exact valid
      | unlock => exact valid

private theorem Valid.run (valid : Valid max semaphor) (moves : List (τ × Action)) :
    Valid max (semaphor.run moves) := by
  induction moves generalizing semaphor with
  | nil => exact valid
  | cons move rest ih => exact ih (valid.step move)

/-- In every interleaving the free locks and the held ones add up, the queued calls are served
in their order, `try_lock` passes nobody in the queue, and the thread at the front does not
sleep while a lock is free. -/
theorem run_fair (max : Nat) (moves : List (τ × Action)) :
    let semaphor := (init max : Semaphor τ).run moves
    semaphor.available + ∑ thread, semaphor.holds thread = max ∧
      semaphor.waiters.served <+: semaphor.waiters.arrivals ∧
      (∀ thread, (semaphor.tryLock thread).1 = true →
        ∀ other, semaphor.waiters.waits other = none) ∧
      ∀ ticket, semaphor.waiters.queue.head? = some ticket →
        ∃ thread wait, semaphor.waiters.waits thread = some wait ∧ wait.ticket = ticket ∧
          (0 < semaphor.available → wait.asleep = false) := by
  intro semaphor
  have valid : Valid max semaphor := (valid_init max).run moves
  refine ⟨valid.counted, ⟨_, valid.ordered.history.symm⟩, fun thread taken other => ?_,
    fun ticket front => ?_⟩
  · unfold tryLock at taken
    split at taken
    · next free =>
      cases waiting : semaphor.waiters.waits other with
      | none => rfl
      | some wait =>
          have queued := valid.ordered.queued waiting
          rw [List.isEmpty_iff.mp free.2] at queued
          cases queued
    · cases taken
  · obtain ⟨thread, wait, waiting, same⟩ :=
      valid.ordered.owner (List.mem_of_mem_head? front)
    refine ⟨thread, wait, waiting, same, fun free => valid.alert thread wait waiting ?_ free⟩
    rw [WaitQueue.isFront, same, front]
    exact decide_eq_true rfl

end Andromeda.Locks.Semaphor
