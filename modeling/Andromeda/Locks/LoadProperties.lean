import Andromeda.Locks.SharedMutexProperties

/-! What other threads have of a mutex, by the locks that they hold and the places that they have in
its queue: it grows only when one of them asks for a lock. -/

set_option autoImplicit false

namespace Andromeda.Locks.SharedMutex

open Andromeda.Library

variable {τ : Type} [DecidableEq τ] {mutex : SharedMutex τ} {thread owner : τ}

/-- The ticket of a thread that waits, and what it waits for. -/
def seat (mutex : SharedMutex τ) (owner : τ) : Option (Nat × LockKind) :=
  (mutex.waiters.waits owner).map fun wait => (wait.ticket, wait.kind)

omit [DecidableEq τ] in
private theorem seat_congr {final : SharedMutex τ}
    (same : final.waiters.waits owner = mutex.waiters.waits owner) :
    final.seat owner = mutex.seat owner := by rw [seat, same, seat]

omit [DecidableEq τ] in
theorem seat_eq_none : mutex.seat owner = none ↔ mutex.waiters.waits owner = none := by
  rw [seat, Option.map_eq_none_iff]

/-- What a thread has of a mutex, and where it waits. -/
structure SameFor (owner : τ) (mutex final : SharedMutex τ) : Prop where
  writes : final.writes owner = mutex.writes owner
  reads : final.reads owner = mutex.reads owner
  seat : final.seat owner = mutex.seat owner

omit [DecidableEq τ] in
private theorem seat_notifyAll (waiters : WaitQueue τ LockKind) (owner : τ) :
    (waiters.notifyAll.waits owner).map (fun wait => (wait.ticket, wait.kind)) =
      (waiters.waits owner).map fun wait => (wait.ticket, wait.kind) := by
  unfold WaitQueue.notifyAll
  split
  · rfl
  · rw [Option.map_map]
    rfl

section

variable (different : owner ≠ thread)

include different

private theorem sameFor_enter (wait : Wait LockKind) :
    SameFor owner mutex (mutex.enter thread wait) := by
  have left : (mutex.waiters.leave thread wait).waits owner = mutex.waiters.waits owner :=
    Function.update_of_ne different _ _
  unfold enter
  cases wait.kind with
  | exclusive =>
      exact ⟨Function.update_of_ne different _ _, rfl, seat_congr left⟩
  | shared =>
      refine ⟨rfl, Function.update_of_ne different _ _, ?_⟩
      refine (seat_notifyAll _ owner).trans ?_
      show SharedMutex.seat { mutex with waiters := mutex.waiters.leave thread wait } owner = _
      exact seat_congr left

private theorem sameFor_checkTurn (wait : Wait LockKind) :
    SameFor owner mutex (mutex.checkTurn thread wait) := by
  unfold checkTurn
  split
  · exact ⟨rfl, rfl, seat_congr (Function.update_of_ne different _ _)⟩
  · exact sameFor_enter different wait

private theorem sameFor_queueUp (kind : LockKind) (priority : Bool) :
    SameFor owner mutex (mutex.queueUp thread kind priority) := by
  have turn : SameFor owner { mutex with waiters := mutex.waiters.join thread kind priority }
      (mutex.queueUp thread kind priority) := sameFor_checkTurn different _
  exact ⟨turn.writes, turn.reads,
    turn.seat.trans (seat_congr (Function.update_of_ne different _ _))⟩

/-- A step of another thread. -/
theorem sameFor_step (action : Action) : SameFor owner mutex (mutex.step (thread, action)) := by
  unfold step
  cases waiting : mutex.waiters.waits thread with
  | none =>
      cases action with
      | lock => exact sameFor_queueUp different _ _
      | tryLock =>
          dsimp only
          unfold tryLock
          split
          · exact ⟨Function.update_of_ne different _ _, rfl, rfl⟩
          · exact ⟨rfl, rfl, rfl⟩
      | unlock =>
          dsimp only
          split
          · exact ⟨rfl, rfl, rfl⟩
          · exact ⟨Function.update_of_ne different _ _, rfl, seat_notifyAll _ owner⟩
      | lockShared priority =>
          dsimp only
          unfold lockShared
          split
          · exact ⟨rfl, Function.update_of_ne different _ _, rfl⟩
          · exact sameFor_queueUp different _ _
      | unlockShared =>
          dsimp only
          split
          · exact ⟨rfl, rfl, rfl⟩
          · exact ⟨rfl, Function.update_of_ne different _ _, seat_notifyAll _ owner⟩
      | wake => exact ⟨rfl, rfl, rfl⟩
      | resume => exact ⟨rfl, rfl, rfl⟩
  | some wait =>
      cases action with
      | wake =>
          exact ⟨rfl, rfl, seat_congr (Function.update_of_ne different _ _)⟩
      | resume =>
          dsimp only
          split
          · exact ⟨rfl, rfl, rfl⟩
          · exact sameFor_checkTurn different wait
      | lock => exact ⟨rfl, rfl, rfl⟩
      | tryLock => exact ⟨rfl, rfl, rfl⟩
      | unlock => exact ⟨rfl, rfl, rfl⟩
      | lockShared _ => exact ⟨rfl, rfl, rfl⟩
      | unlockShared => exact ⟨rfl, rfl, rfl⟩

end

/-! How much other threads have of a mutex: their locks, and those that are queued. -/

/-- The tickets behind one in the queue. -/
def behind (mutex : SharedMutex τ) (ticket : Nat) : Nat :=
  mutex.waiters.queue.length - (mutex.waiters.queue.idxOf ticket + 1)

variable [Fintype τ]

def othersLocks (mutex : SharedMutex τ) (owner : τ) : Nat :=
  ∑ thread ∈ Finset.univ.erase owner, (mutex.writes thread + mutex.reads thread)

def load (mutex : SharedMutex τ) (owner : τ) : Nat :=
  mutex.othersLocks owner + mutex.waiters.queue.length

/-- One for an action that asks for a lock. -/
def Action.asks : Action → Nat
  | .lock => 1
  | .tryLock => 1
  | .lockShared _ => 1
  | _ => 0

private theorem othersLocks_update {final : SharedMutex τ} {more less : Nat}
    (different : owner ≠ thread)
    (others : ∀ other, other ≠ thread →
      final.writes other + final.reads other = mutex.writes other + mutex.reads other)
    (changed : final.writes thread + final.reads thread + less =
      mutex.writes thread + mutex.reads thread + more) :
    final.othersLocks owner + less = mutex.othersLocks owner + more := by
  have member : thread ∈ Finset.univ.erase owner :=
    Finset.mem_erase.mpr ⟨different.symm, Finset.mem_univ thread⟩
  unfold othersLocks
  rw [← Finset.add_sum_erase _ _ member, ← Finset.add_sum_erase _ _ member]
  have rest : ∑ other ∈ (Finset.univ.erase owner).erase thread,
      (final.writes other + final.reads other) =
        ∑ other ∈ (Finset.univ.erase owner).erase thread,
          (mutex.writes other + mutex.reads other) :=
    Finset.sum_congr rfl fun other member => others other (Finset.mem_erase.mp member).1
  omega

private theorem othersLocks_enterExclusive (different : owner ≠ thread) :
    (mutex.enterExclusive thread).othersLocks owner = mutex.othersLocks owner + 1 := by
  rw [← Nat.add_zero (othersLocks _ owner)]
  refine othersLocks_update different (fun other apart => ?_) ?_
  · exact congrArg (· + _) (Function.update_of_ne apart _ _)
  · simp only [enterExclusive, Function.update_self]
    omega

private theorem othersLocks_enterShared (different : owner ≠ thread) :
    (mutex.enterShared thread).othersLocks owner = mutex.othersLocks owner + 1 := by
  rw [← Nat.add_zero (othersLocks _ owner)]
  refine othersLocks_update different (fun other apart => ?_) ?_
  · exact congrArg (_ + ·) (Function.update_of_ne apart _ _)
  · simp only [enterShared, Function.update_self]
    omega

section

variable (different : owner ≠ thread)

include different

private theorem load_enter {wait : Wait LockKind} (front : mutex.waiters.isFront wait = true) :
    (mutex.enter thread wait).load owner = mutex.load owner := by
  have split := congrArg List.length (WaitQueue.queue_of_isFront front)
  rw [List.length_cons] at split
  unfold enter load
  cases wait.kind with
  | exclusive =>
      rw [othersLocks_enterExclusive different]
      show mutex.othersLocks owner + 1 + mutex.waiters.queue.tail.length = _
      omega
  | shared =>
      simp only [WaitQueue.queue_notifyAll]
      show (SharedMutex.enterShared { mutex with waiters := mutex.waiters.leave thread wait }
        thread).othersLocks owner + mutex.waiters.queue.tail.length = _
      rw [othersLocks_enterShared different]
      show mutex.othersLocks owner + 1 + mutex.waiters.queue.tail.length = _
      omega

private theorem load_checkTurn (wait : Wait LockKind) :
    (mutex.checkTurn thread wait).load owner = mutex.load owner := by
  unfold checkTurn
  split
  · rfl
  · next turn =>
      rw [not_or, Bool.not_eq_false] at turn
      exact load_enter different turn.2

private theorem load_queueUp (kind : LockKind) (priority : Bool) :
    (mutex.queueUp thread kind priority).load owner = mutex.load owner + 1 := by
  unfold queueUp
  rw [load_checkTurn different]
  show mutex.othersLocks owner + (mutex.waiters.join thread kind priority).queue.length = _
  unfold WaitQueue.join load
  cases priority <;> simp <;> omega

theorem load_step (action : Action) :
    (mutex.step (thread, action)).load owner ≤ mutex.load owner + action.asks := by
  unfold step
  cases waiting : mutex.waiters.waits thread with
  | none =>
      cases action with
      | lock => exact (load_queueUp different _ _).le
      | tryLock =>
          dsimp only
          unfold tryLock
          split
          · show (mutex.enterExclusive thread).othersLocks owner + mutex.waiters.queue.length ≤ _
            rw [othersLocks_enterExclusive different, load, Action.asks]
            omega
          · exact Nat.le_add_right _ _
      | unlock =>
          dsimp only
          split
          · exact Nat.le_add_right _ _
          · next holds =>
              have fewer : (mutex.unlock thread).othersLocks owner + 1 =
                  mutex.othersLocks owner + 0 := by
                refine othersLocks_update different (fun other apart => ?_) ?_
                · exact congrArg (· + _) (Function.update_of_ne apart _ _)
                · simp only [unlock, Function.update_self]
                  omega
              unfold load
              rw [show (mutex.unlock thread).waiters.queue = mutex.waiters.queue from
                WaitQueue.queue_notifyAll]
              omega
      | lockShared priority =>
          dsimp only
          unfold lockShared
          split
          · show (mutex.enterShared thread).othersLocks owner + mutex.waiters.queue.length ≤ _
            rw [othersLocks_enterShared different, load, Action.asks]
            omega
          · exact (load_queueUp different _ _).le
      | unlockShared =>
          dsimp only
          split
          · exact Nat.le_add_right _ _
          · next holds =>
              have fewer : (mutex.unlockShared thread).othersLocks owner + 1 =
                  mutex.othersLocks owner + 0 := by
                refine othersLocks_update different (fun other apart => ?_) ?_
                · exact congrArg (_ + ·) (Function.update_of_ne apart _ _)
                · simp only [unlockShared, Function.update_self]
                  omega
              unfold load
              rw [show (mutex.unlockShared thread).waiters.queue = mutex.waiters.queue from
                WaitQueue.queue_notifyAll]
              omega
      | wake => exact Nat.le_add_right _ _
      | resume => exact Nat.le_add_right _ _
  | some wait =>
      cases action with
      | wake => exact Nat.le_add_right _ _
      | resume =>
          dsimp only
          split
          · exact Nat.le_add_right _ _
          · exact (load_checkTurn different wait).le
      | lock => exact Nat.le_add_right _ _
      | tryLock => exact Nat.le_add_right _ _
      | unlock => exact Nat.le_add_right _ _
      | lockShared _ => exact Nat.le_add_right _ _
      | unlockShared => exact Nat.le_add_right _ _

end

/-! The tickets behind one that stays in the queue. -/

section

variable {ticket : Nat}

omit [Fintype τ] in
private theorem behind_enter {wait : Wait LockKind} (front : mutex.waiters.isFront wait = true)
    (apart : wait.ticket ≠ ticket) : (mutex.enter thread wait).behind ticket =
      mutex.behind ticket := by
  have tail : (mutex.enter thread wait).waiters.queue = mutex.waiters.queue.tail := by
    unfold enter
    cases wait.kind with
    | exclusive => rfl
    | shared => exact WaitQueue.queue_notifyAll
  unfold behind
  rw [tail, WaitQueue.queue_of_isFront front, List.tail_cons, List.length_cons,
    List.idxOf_cons_ne _ apart]
  omega

omit [Fintype τ] in
private theorem behind_checkTurn {wait : Wait LockKind} (apart : wait.ticket ≠ ticket) :
    (mutex.checkTurn thread wait).behind ticket = mutex.behind ticket := by
  unfold checkTurn
  split
  · rfl
  · next turn =>
      rw [not_or, Bool.not_eq_false] at turn
      exact behind_enter turn.2 apart

omit [Fintype τ] in
private theorem behind_queueUp (ordered : mutex.waiters.Ordered)
    (queued : ticket ∈ mutex.waiters.queue)
    (kind : LockKind) (priority : Bool) :
    (mutex.queueUp thread kind priority).behind ticket ≤ mutex.behind ticket + 1 := by
  have apart : mutex.waiters.index ≠ ticket := (ordered.fresh queued).ne'
  have place := List.idxOf_lt_length_of_mem queued
  unfold queueUp
  rw [behind_checkTurn apart]
  unfold behind WaitQueue.join
  cases priority with
  | true =>
      simp only [if_true, List.length_cons]
      rw [List.idxOf_cons_ne _ apart]
      omega
  | false =>
      simp only [Bool.false_eq_true, if_false, List.length_append, List.length_singleton]
      rw [List.idxOf_append_of_mem queued]
      omega

omit [Fintype τ] in
theorem behind_step (ordered : mutex.waiters.Ordered) {kind : LockKind} (different : owner ≠ thread)
    (seated : mutex.seat owner = some (ticket, kind)) (action : Action) :
    (mutex.step (thread, action)).behind ticket ≤ mutex.behind ticket + action.asks := by
  obtain ⟨own, waits, same⟩ := Option.map_eq_some_iff.mp seated
  obtain ⟨rfl, -⟩ := Prod.mk.inj same
  have queued := ordered.queued waits
  have kept {final : SharedMutex τ} (queue : final.waiters.queue = mutex.waiters.queue) :
      final.behind own.ticket ≤ mutex.behind own.ticket + action.asks := by
    unfold behind
    rw [queue]
    exact Nat.le_add_right _ _
  unfold step
  cases waiting : mutex.waiters.waits thread with
  | none =>
      cases action with
      | lock => exact behind_queueUp ordered queued _ _
      | tryLock =>
          dsimp only
          unfold tryLock
          split
          · exact kept rfl
          · exact kept rfl
      | unlock =>
          dsimp only
          split
          · exact kept rfl
          · exact kept WaitQueue.queue_notifyAll
      | lockShared priority =>
          dsimp only
          unfold lockShared
          split
          · exact kept rfl
          · exact behind_queueUp ordered queued _ _
      | unlockShared =>
          dsimp only
          split
          · exact kept rfl
          · exact kept WaitQueue.queue_notifyAll
      | wake => exact kept rfl
      | resume => exact kept rfl
  | some wait =>
      cases action with
      | wake => exact kept rfl
      | resume =>
          dsimp only
          split
          · exact kept rfl
          · refine (behind_checkTurn fun same => ?_).le
            exact different (ordered.unique waits waiting same.symm)
      | lock => exact kept rfl
      | tryLock => exact kept rfl
      | unlock => exact kept rfl
      | lockShared _ => exact kept rfl
      | unlockShared => exact kept rfl

end

/-! What the thread's own steps do. -/

private theorem othersLocks_own {final : SharedMutex τ}
    (others : ∀ other, other ≠ owner →
      final.writes other + final.reads other = mutex.writes other + mutex.reads other) :
    final.othersLocks owner = mutex.othersLocks owner :=
  Finset.sum_congr rfl fun other member => others other (Finset.mem_erase.mp member).1

/-- A writer is alone. -/
theorem Valid.othersLocks_eq_zero (valid : Valid mutex) (writes : mutex.writes owner ≠ 0) :
    mutex.othersLocks owner = 0 := by
  obtain ⟨-, others, readers⟩ := valid.excludes writes
  refine Finset.sum_eq_zero fun other member => ?_
  rw [others other (Finset.mem_erase.mp member).1, readers other, Nat.add_zero]

/-- A mutex that cannot be locked at once is one that others have or wait for. -/
theorem Valid.load_pos (valid : Valid mutex) (failed : (mutex.tryLock owner).1 = false)
    (writes : mutex.writes owner = 0) (reads : mutex.reads owner = 0) : 1 ≤ mutex.load owner := by
  unfold SharedMutex.tryLock at failed
  split at failed
  · cases failed
  · next busy =>
      unfold load
      by_cases empty : mutex.waiters.queue.isEmpty
      · have locked : mutex.locked = true := by
          by_contra open_
          exact busy ⟨Bool.eq_false_iff.mpr open_, empty⟩
        obtain ⟨thread, holds⟩ := valid.locked_iff.mp locked
        have different : thread ≠ owner := by
          rintro rfl
          rcases holds with writes' | reads'
          · exact writes' writes
          · exact reads' reads
        have part : mutex.writes thread + mutex.reads thread ≤ mutex.othersLocks owner := by
          have member : thread ∈ Finset.univ.erase owner :=
            Finset.mem_erase.mpr ⟨different, Finset.mem_univ thread⟩
          rw [othersLocks, ← Finset.add_sum_erase _ _ member]
          exact Nat.le_add_right _ _
        omega
      · have some_ : 0 < mutex.waiters.queue.length := by
          rw [List.length_pos_iff]
          rintro none_
          rw [none_] at empty
          exact empty rfl
        omega

/-- What a thread has after it has asked for the mutex: it is queued, with so many behind it, or it
has the mutex, and so many are queued. -/
structure Asked (owner : τ) (mutex final : SharedMutex τ) (left : Nat) : Prop where
  reads : final.reads owner = mutex.reads owner
  turn : (final.writes owner = mutex.writes owner ∧
      ∃ ticket, final.seat owner = some (ticket, .exclusive) ∧ final.behind ticket = left) ∨
    final.writes owner ≠ 0 ∧ final.seat owner = none ∧ final.waiters.queue.length = left

omit [Fintype τ] in
private theorem checkTurn_asked {wait : Wait LockKind} (exclusive : wait.kind = .exclusive) :
    Asked owner mutex (mutex.checkTurn owner wait) (mutex.behind wait.ticket) := by
  unfold checkTurn
  split
  · refine ⟨rfl, Or.inl ⟨rfl, wait.ticket, ?_, rfl⟩⟩
    rw [seat, show (mutex.waiters.sleep owner wait).waits owner = _ from Function.update_self _ _ _,
      Option.map_some, exclusive]
  · next turn =>
      rw [not_or, Bool.not_eq_false] at turn
      have split := WaitQueue.queue_of_isFront turn.2
      unfold enter
      rw [exclusive]
      refine ⟨rfl, Or.inr ⟨?_, ?_, ?_⟩⟩
      · show Function.update mutex.writes owner (mutex.writes owner + 1) owner ≠ 0
        rw [Function.update_self]
        exact Nat.succ_ne_zero _
      · exact seat_eq_none.mpr (Function.update_self _ _ _)
      · show mutex.waiters.queue.tail.length = _
        rw [behind, split, List.idxOf_cons_self, List.tail_cons, List.length_cons]
        rfl

omit [Fintype τ] in
theorem lock_asked (ordered : mutex.waiters.Ordered) (idle : mutex.waiters.waits owner = none) :
    Asked owner mutex (mutex.step (owner, .lock)) 0 := by
  have notQueued : mutex.waiters.index ∉ mutex.waiters.queue := fun member =>
    Nat.lt_irrefl _ (ordered.fresh member)
  have asked : Asked owner { mutex with waiters := mutex.waiters.join owner .exclusive false }
      (mutex.lock owner) _ := checkTurn_asked rfl
  have last : SharedMutex.behind { mutex with waiters := mutex.waiters.join owner .exclusive false }
      (mutex.waiters.nextWait LockKind.exclusive false).ticket = 0 := by
    show (mutex.waiters.queue ++ [mutex.waiters.index]).length -
      ((mutex.waiters.queue ++ [mutex.waiters.index]).idxOf mutex.waiters.index + 1) = 0
    rw [List.idxOf_append_of_notMem notQueued, List.length_append, List.idxOf_cons_self]
    simp
  rw [last] at asked
  unfold step
  rw [idle]
  exact ⟨asked.reads, asked.turn⟩

omit [Fintype τ] in
theorem resume_asked {ticket : Nat} (seated : mutex.seat owner = some (ticket, .exclusive)) :
    Asked owner mutex (mutex.step (owner, .resume)) (mutex.behind ticket) := by
  obtain ⟨wait, waits, same⟩ := Option.map_eq_some_iff.mp seated
  obtain ⟨rfl, exclusive⟩ := Prod.mk.inj same
  unfold step
  rw [waits]
  dsimp only
  split
  · exact ⟨rfl, Or.inl ⟨rfl, wait.ticket, seated, rfl⟩⟩
  · exact checkTurn_asked exclusive

/-- What a thread has after a step that asks for nothing: so much of the mutex, and the others what
they had. -/
structure Left (owner : τ) (mutex final : SharedMutex τ) : Prop where
  reads : final.reads owner = mutex.reads owner
  seat : final.seat owner = mutex.seat owner
  queue : final.waiters.queue = mutex.waiters.queue
  others : final.othersLocks owner = mutex.othersLocks owner

theorem Left.refl (owner : τ) (mutex : SharedMutex τ) : Left owner mutex mutex := ⟨rfl, rfl, rfl, rfl⟩

theorem Left.load {final : SharedMutex τ} (left : Left owner mutex final) :
    final.load owner = mutex.load owner := by
  rw [SharedMutex.load, left.others, left.queue, SharedMutex.load]

omit [Fintype τ] in
private theorem step_tryLock (idle : mutex.waiters.waits owner = none) :
    mutex.step (owner, .tryLock) = (mutex.tryLock owner).2 := by
  unfold step
  rw [idle]

theorem tryLock_left (idle : mutex.waiters.waits owner = none)
    (taken : (mutex.tryLock owner).1 = true) :
    Left owner mutex (mutex.step (owner, .tryLock)) ∧
      (mutex.step (owner, .tryLock)).writes owner ≠ 0 := by
  rw [step_tryLock idle]
  unfold SharedMutex.tryLock at taken ⊢
  split at taken
  · next free =>
      rw [if_pos free]
      refine ⟨⟨rfl, rfl, rfl, othersLocks_own fun other apart => ?_⟩, ?_⟩
      · exact congrArg (· + _) (Function.update_of_ne apart _ _)
      · show Function.update mutex.writes owner (mutex.writes owner + 1) owner ≠ 0
        rw [Function.update_self]
        exact Nat.succ_ne_zero _
  · cases taken

omit [Fintype τ] in
theorem tryLock_failed (idle : mutex.waiters.waits owner = none)
    (failed : (mutex.tryLock owner).1 = false) : mutex.step (owner, .tryLock) = mutex := by
  rw [step_tryLock idle]
  unfold SharedMutex.tryLock at failed ⊢
  split at failed
  · cases failed
  · next busy => rw [if_neg busy]

theorem unlock_left (valid : Valid mutex) (idle : mutex.waiters.waits owner = none)
    (writes : mutex.writes owner ≠ 0) :
    Left owner mutex (mutex.step (owner, .unlock)) ∧
      (mutex.step (owner, .unlock)).writes owner = 0 := by
  unfold step
  rw [idle]
  dsimp only
  rw [if_neg writes]
  refine ⟨⟨rfl, seat_notifyAll _ owner, WaitQueue.queue_notifyAll,
    othersLocks_own fun other apart => ?_⟩, ?_⟩
  · exact congrArg (· + _) (Function.update_of_ne apart _ _)
  · show Function.update mutex.writes owner (mutex.writes owner - 1) owner = 0
    rw [Function.update_self, (valid.excludes writes).1]

theorem wake_left :
    Left owner mutex (mutex.step (owner, .wake)) ∧
      (mutex.step (owner, .wake)).writes owner = mutex.writes owner := by
  unfold step
  cases waiting : mutex.waiters.waits owner with
  | none => exact ⟨⟨rfl, rfl, rfl, rfl⟩, rfl⟩
  | some wait =>
      refine ⟨⟨rfl, ?_, rfl, rfl⟩, rfl⟩
      have woken : (mutex.waiters.wake owner wait).waits owner =
          some { wait with asleep := false } := Function.update_self _ _ _
      show ((mutex.waiters.wake owner wait).waits owner).map _ = _
      rw [woken, seat, waiting]
      rfl

end Andromeda.Locks.SharedMutex
