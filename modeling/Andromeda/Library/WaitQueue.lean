import Andromeda.Library.Lookup
import Mathlib.Algebra.BigOperators.Group.Finset.Piecewise
import Mathlib.Data.List.Nodup

/-! A queue of tickets whose holders sleep on one condition variable. A thread checks its
turn when it joins and each time it has been woken; every notification wakes all. -/

set_option autoImplicit false

namespace Andromeda.Library

/-- A thread's place in the queue. -/
structure Wait (κ : Type) where
  ticket : Nat
  kind : κ
  /-- Whether it joined at the front of the queue. -/
  priority : Bool
  asleep : Bool

/-- The tickets in the queue, the next ticket and the thread behind each. `arrivals` are
the tickets that joined at the back, `served` those of them whose turn came. -/
structure WaitQueue (τ κ : Type) where
  queue : List Nat
  index : Nat
  waits : τ → Option (Wait κ)
  arrivals : List Nat
  served : List Nat

namespace WaitQueue

variable {τ κ : Type}

def empty : WaitQueue τ κ := ⟨[], 0, fun _ => none, [], []⟩

/-- Whether it is the turn of this wait. -/
def isFront (waiters : WaitQueue τ κ) (wait : Wait κ) : Bool :=
  decide (waiters.queue.head? = some wait.ticket)

/-- The wait a thread joins with. -/
def nextWait (waiters : WaitQueue τ κ) (kind : κ) (priority : Bool) : Wait κ :=
  ⟨waiters.index, kind, priority, false⟩

section

variable [DecidableEq τ]

/-- Join the queue, awake. -/
def join (waiters : WaitQueue τ κ) (thread : τ) (kind : κ) (priority : Bool) :
    WaitQueue τ κ where
  queue := if priority then waiters.index :: waiters.queue else waiters.queue ++ [waiters.index]
  index := waiters.index + 1
  waits := Function.update waiters.waits thread (some (waiters.nextWait kind priority))
  arrivals := if priority then waiters.arrivals else waiters.arrivals ++ [waiters.index]
  served := waiters.served

/-- Sleep until notified. -/
def sleep (waiters : WaitQueue τ κ) (thread : τ) (wait : Wait κ) : WaitQueue τ κ :=
  { waiters with
    waits := Function.update waiters.waits thread (some { wait with asleep := true }) }

/-- Wake up without a notification. -/
def wake (waiters : WaitQueue τ κ) (thread : τ) (wait : Wait κ) : WaitQueue τ κ :=
  { waiters with
    waits := Function.update waiters.waits thread (some { wait with asleep := false }) }

/-- Leave the front of the queue. -/
def leave (waiters : WaitQueue τ κ) (thread : τ) (wait : Wait κ) : WaitQueue τ κ :=
  { waiters with
    queue := waiters.queue.tail
    waits := Function.update waiters.waits thread none
    served := if wait.priority then waiters.served else waiters.served ++ [wait.ticket] }

end

/-- Wake all sleepers, if any thread is queued. -/
def notifyAll (waiters : WaitQueue τ κ) : WaitQueue τ κ :=
  if waiters.queue.isEmpty then waiters
  else { waiters with
    waits := fun thread => (waiters.waits thread).map fun wait => { wait with asleep := false } }

/-- The tickets in the queue are those of the waiting threads, each of one of them, and
those that joined at the back are served in that order. -/
structure Ordered (waiters : WaitQueue τ κ) : Prop where
  nodup : waiters.queue.Nodup
  queued {thread wait} : waiters.waits thread = some wait → wait.ticket ∈ waiters.queue
  owner {ticket} : ticket ∈ waiters.queue →
    ∃ thread wait, waiters.waits thread = some wait ∧ wait.ticket = ticket
  unique {thread other wait otherWait} : waiters.waits thread = some wait →
    waiters.waits other = some otherWait → wait.ticket = otherWait.ticket → thread = other
  fresh {ticket} : ticket ∈ waiters.queue → ticket < waiters.index
  arrived {ticket} : ticket ∈ waiters.arrivals → ticket < waiters.index
  plain {thread wait} : waiters.waits thread = some wait →
    (wait.ticket ∈ waiters.arrivals ↔ wait.priority = false)
  history : waiters.arrivals =
    waiters.served ++ waiters.queue.filter fun ticket => decide (ticket ∈ waiters.arrivals)

/-- The thread at the front is not asleep while it may go on. -/
def Alert (waiters : WaitQueue τ κ) (grantable : κ → Prop) : Prop :=
  ∀ thread wait, waiters.waits thread = some wait → waiters.isFront wait = true →
    grantable wait.kind → wait.asleep = false

theorem ordered_empty : (empty : WaitQueue τ κ).Ordered := by
  refine ⟨List.nodup_nil, ?_, ?_, ?_, ?_, ?_, ?_, rfl⟩
  all_goals simp [empty]

theorem alert_empty (grantable : κ → Prop) : (empty : WaitQueue τ κ).Alert grantable := by
  intro thread wait waiting
  cases waiting

variable {waiters : WaitQueue τ κ} {thread : τ} {wait : Wait κ}

private theorem Ordered.rewait (ordered : waiters.Ordered) {waits : τ → Option (Wait κ)}
    (same : ∀ thread, (waits thread).map (fun wait => (wait.ticket, wait.priority)) =
      (waiters.waits thread).map fun wait => (wait.ticket, wait.priority)) :
    ({ waiters with waits } : WaitQueue τ κ).Ordered := by
  have back {thread : τ} {wait : Wait κ} (waiting : waits thread = some wait) :
      ∃ old, waiters.waits thread = some old ∧ old.ticket = wait.ticket ∧
        old.priority = wait.priority := by
    have equal := same thread
    rw [waiting] at equal
    cases old : waiters.waits thread with
    | none => rw [old] at equal; cases equal
    | some old' =>
        rw [old] at equal
        injection equal with equal
        injection equal with ticket priority
        exact ⟨old', rfl, ticket.symm, priority.symm⟩
  refine ⟨ordered.nodup, fun waiting => ?_, fun member => ?_, fun left right same => ?_,
    ordered.fresh, ordered.arrived, fun waiting => ?_, ordered.history⟩
  · obtain ⟨old, found, ticket, _⟩ := back waiting
    rw [← ticket]
    exact ordered.queued found
  · obtain ⟨owner, old, found, ticket⟩ := ordered.owner member
    have equal := same owner
    rw [found] at equal
    cases new : waits owner with
    | none => rw [new] at equal; cases equal
    | some new' =>
        rw [new] at equal
        injection equal with equal
        injection equal with sameTicket _
        exact ⟨owner, new', new, sameTicket.trans ticket⟩
  · obtain ⟨leftOld, leftFound, leftTicket, _⟩ := back left
    obtain ⟨rightOld, rightFound, rightTicket, _⟩ := back right
    exact ordered.unique leftFound rightFound (by rw [leftTicket, rightTicket, same])
  · obtain ⟨old, found, ticket, priority⟩ := back waiting
    rw [← ticket, ← priority]
    exact ordered.plain found

theorem Ordered.notifyAll (ordered : waiters.Ordered) : waiters.notifyAll.Ordered := by
  unfold WaitQueue.notifyAll
  split
  · exact ordered
  · exact ordered.rewait fun thread => by
      cases waiters.waits thread <;> rfl

/-- After a notification nobody sleeps. -/
theorem alert_notifyAll (ordered : waiters.Ordered) (grantable : κ → Prop) :
    waiters.notifyAll.Alert grantable := by
  intro thread wait waiting _ _
  unfold WaitQueue.notifyAll at waiting
  split at waiting
  · next empty =>
    have queued := ordered.queued waiting
    rw [List.isEmpty_iff.mp empty] at queued
    cases queued
  · cases found : waiters.waits thread with
    | none => simp [found] at waiting
    | some old =>
        simp only [found, Option.map_some, Option.some.injEq] at waiting
        rw [← waiting]

@[simp] theorem queue_notifyAll : waiters.notifyAll.queue = waiters.queue := by
  unfold notifyAll
  split <;> rfl

@[simp] theorem waits_notifyAll_none : waiters.notifyAll.waits thread = none ↔
    waiters.waits thread = none := by
  unfold notifyAll
  split
  · rfl
  · simp

section

variable [DecidableEq τ]

theorem Ordered.sleep (ordered : waiters.Ordered) (waiting : waiters.waits thread = some wait) :
    (waiters.sleep thread wait).Ordered :=
  ordered.rewait fun other => by
    by_cases same : other = thread
    · rw [same, Function.update_self, waiting]
      rfl
    · rw [Function.update_of_ne same]

theorem Ordered.wake (ordered : waiters.Ordered) (waiting : waiters.waits thread = some wait) :
    (waiters.wake thread wait).Ordered :=
  ordered.rewait fun other => by
    by_cases same : other = thread
    · rw [same, Function.update_self, waiting]
      rfl
    · rw [Function.update_of_ne same]

/-- A thread may fall asleep if it is not its turn or it may not go on. -/
theorem Alert.sleep {grantable : κ → Prop} (alert : waiters.Alert grantable)
    (refused : waiters.isFront wait = true → ¬ grantable wait.kind) :
    (waiters.sleep thread wait).Alert grantable := by
  intro other otherWait waiting front may
  simp only [WaitQueue.sleep] at waiting
  rcases update_cases waiting with ⟨_, ⟨⟩⟩ | ⟨_, was⟩
  · exact absurd may (refused front)
  · exact alert other otherWait was front may

theorem Alert.wake {grantable : κ → Prop} (alert : waiters.Alert grantable) :
    (waiters.wake thread wait).Alert grantable := by
  intro other otherWait waiting front may
  simp only [WaitQueue.wake] at waiting
  rcases update_cases waiting with ⟨_, ⟨⟩⟩ | ⟨_, was⟩
  · rfl
  · exact alert other otherWait was front may

omit [DecidableEq τ] in
theorem Alert.mono {grantable grantable' : κ → Prop} (alert : waiters.Alert grantable)
    (fewer : ∀ kind, grantable' kind → grantable kind) : waiters.Alert grantable' :=
  fun thread wait waiting front may => alert thread wait waiting front (fewer _ may)

theorem waits_join (kind : κ) (priority : Bool) :
    (waiters.join thread kind priority).waits thread =
      some (waiters.nextWait kind priority) := Function.update_self _ _ _

theorem Ordered.join (ordered : waiters.Ordered) (idle : waiters.waits thread = none) (kind : κ)
    (priority : Bool) : (waiters.join thread kind priority).Ordered := by
  have notQueued : waiters.index ∉ waiters.queue := fun member =>
    Nat.lt_irrefl _ (ordered.fresh member)
  have notArrived : waiters.index ∉ waiters.arrivals := fun member =>
    Nat.lt_irrefl _ (ordered.arrived member)
  have mem_queue {ticket : Nat} : ticket ∈ (waiters.join thread kind priority).queue ↔
      ticket = waiters.index ∨ ticket ∈ waiters.queue := by
    cases priority <;> simp [WaitQueue.join, or_comm]
  have mem_arrivals {ticket : Nat} : ticket ∈ (waiters.join thread kind priority).arrivals ↔
      (priority = false ∧ ticket = waiters.index) ∨ ticket ∈ waiters.arrivals := by
    cases priority <;> simp [WaitQueue.join, or_comm]
  have cases_waits {other : τ} {otherWait : Wait κ}
      (waiting : (waiters.join thread kind priority).waits other = some otherWait) :
      other = thread ∧ otherWait = waiters.nextWait kind priority ∨
        other ≠ thread ∧ waiters.waits other = some otherWait := by
    by_cases same : other = thread
    · rw [same, waits_join] at waiting
      cases waiting
      exact .inl ⟨same, rfl⟩
    · exact .inr ⟨same, by simpa [WaitQueue.join, Function.update_of_ne same] using waiting⟩
  have old_lt {other : τ} {otherWait : Wait κ} (waiting : waiters.waits other = some otherWait) :
      otherWait.ticket < waiters.index := ordered.fresh (ordered.queued waiting)
  refine ⟨?_, fun waiting => ?_, fun member => ?_, fun left right same => ?_, fun member => ?_,
    fun member => ?_, fun {other otherWait} waiting => ?_, ?_⟩
  · cases priority with
    | true => exact List.nodup_cons.mpr ⟨notQueued, ordered.nodup⟩
    | false =>
        show (waiters.queue ++ [waiters.index]).Nodup
        exact List.Nodup.append ordered.nodup (List.nodup_singleton _) (by simpa using notQueued)
  · rw [mem_queue]
    rcases cases_waits waiting with ⟨_, rfl⟩ | ⟨_, old⟩
    · exact .inl rfl
    · exact .inr (ordered.queued old)
  · rcases mem_queue.mp member with rfl | member
    · exact ⟨thread, _, waits_join kind priority, rfl⟩
    · obtain ⟨owner, old, found, ticket⟩ := ordered.owner member
      refine ⟨owner, old, ?_, ticket⟩
      have different : owner ≠ thread := by
        rintro rfl
        rw [idle] at found
        cases found
      simpa [WaitQueue.join, Function.update_of_ne different] using found
  · rcases cases_waits left with ⟨rfl, rfl⟩ | ⟨_, leftOld⟩ <;>
      rcases cases_waits right with ⟨rfl, rfl⟩ | ⟨_, rightOld⟩
    · rfl
    · exact absurd (old_lt rightOld) (by rw [← same]; exact Nat.lt_irrefl _)
    · exact absurd (old_lt leftOld) (by rw [same]; exact Nat.lt_irrefl _)
    · exact ordered.unique leftOld rightOld same
  · show _ < waiters.index + 1
    rcases mem_queue.mp member with rfl | member
    · exact Nat.lt_succ_self _
    · exact Nat.lt_succ_of_lt (ordered.fresh member)
  · show _ < waiters.index + 1
    rcases mem_arrivals.mp member with ⟨_, rfl⟩ | member
    · exact Nat.lt_succ_self _
    · exact Nat.lt_succ_of_lt (ordered.arrived member)
  · rw [mem_arrivals]
    rcases cases_waits waiting with ⟨_, rfl⟩ | ⟨_, old⟩
    · simp [nextWait, notArrived]
    · rw [← ordered.plain old]
      have := old_lt old
      refine or_iff_right ?_
      rintro ⟨_, same⟩
      omega
  · have stays : waiters.queue.filter (fun ticket =>
        decide (ticket ∈ waiters.arrivals ++ [waiters.index])) =
        waiters.queue.filter fun ticket => decide (ticket ∈ waiters.arrivals) := by
      refine List.filter_congr fun ticket member => ?_
      have := ordered.fresh member
      have different : ticket ≠ waiters.index := by omega
      simp [different]
    cases priority with
    | true =>
        show waiters.arrivals = waiters.served ++
          (waiters.index :: waiters.queue).filter fun ticket => decide (ticket ∈ waiters.arrivals)
        rw [List.filter_cons_of_neg (by simpa using notArrived)]
        exact ordered.history
    | false =>
        show waiters.arrivals ++ [waiters.index] = waiters.served ++
          (waiters.queue ++ [waiters.index]).filter fun ticket =>
            decide (ticket ∈ waiters.arrivals ++ [waiters.index])
        rw [List.filter_append, stays, ← List.append_assoc, ← ordered.history]
        simp

/-- A thread that joins is awake, and takes nobody's turn but by going to the front. -/
theorem Alert.join {grantable : κ → Prop} (alert : waiters.Alert grantable)
    (ordered : waiters.Ordered) (kind : κ) (priority : Bool) :
    (waiters.join thread kind priority).Alert grantable := by
  intro other otherWait waiting front may
  by_cases same : other = thread
  · rw [same, waits_join] at waiting
    cases waiting
    rfl
  · have old : waiters.waits other = some otherWait := by
      simpa [WaitQueue.join, Function.update_of_ne same] using waiting
    have older := ordered.fresh (ordered.queued old)
    refine alert other otherWait old ?_ may
    have head := of_decide_eq_true front
    refine decide_eq_true ?_
    cases priority with
    | true =>
        have same : waiters.index = otherWait.ticket := Option.some.inj head
        omega
    | false =>
        have queued := ordered.queued old
        cases tickets : waiters.queue with
        | nil => rw [tickets] at queued; cases queued
        | cons first rest =>
            simp only [WaitQueue.join, tickets, Bool.false_eq_true, if_false] at head
            exact head

omit [DecidableEq τ] in
/-- The front of the queue leaves it. -/
theorem queue_of_isFront (front : waiters.isFront wait = true) :
    waiters.queue = wait.ticket :: waiters.queue.tail := by
  have head : waiters.queue.head? = some wait.ticket := of_decide_eq_true front
  cases tickets : waiters.queue with
  | nil => rw [tickets] at head; cases head
  | cons first rest =>
      rw [tickets] at head
      cases head
      rfl

theorem Ordered.leave (ordered : waiters.Ordered) (waiting : waiters.waits thread = some wait)
    (front : waiters.isFront wait = true) : (waiters.leave thread wait).Ordered := by
  have split := queue_of_isFront front
  have nodup := ordered.nodup
  rw [split, List.nodup_cons] at nodup
  have left {other : τ} {otherWait : Wait κ}
      (found : (waiters.leave thread wait).waits other = some otherWait) :
      other ≠ thread ∧ waiters.waits other = some otherWait := by
    simp only [WaitQueue.leave] at found
    rcases update_cases found with ⟨_, ⟨⟩⟩ | other
    exact other
  have inQueue {ticket : Nat} (member : ticket ∈ waiters.queue.tail) : ticket ∈ waiters.queue :=
    List.mem_of_mem_tail member
  refine ⟨nodup.2, fun found => ?_, fun member => ?_, fun first second => ?_,
    fun member => ordered.fresh (inQueue member), ordered.arrived,
    fun found => ordered.plain (left found).2, ?_⟩
  · obtain ⟨different, found⟩ := left found
    have queued := ordered.queued found
    rw [split] at queued
    rcases List.mem_cons.mp queued with same | queued
    · exact absurd (ordered.unique found waiting same) different
    · exact queued
  · obtain ⟨owner, old, found, ticket⟩ := ordered.owner (inQueue member)
    have different : owner ≠ thread := by
      rintro rfl
      rw [waiting] at found
      cases found
      exact nodup.1 (ticket ▸ member)
    exact ⟨owner, old, by simpa [WaitQueue.leave, Function.update_of_ne different] using found,
      ticket⟩
  · exact ordered.unique (left first).2 (left second).2
  · have history := ordered.history
    rw [split] at history
    show waiters.arrivals = (if wait.priority then waiters.served
      else waiters.served ++ [wait.ticket]) ++ _
    cases priority : wait.priority with
    | true =>
        rw [List.filter_cons_of_neg] at history
        · rw [if_pos rfl]
          exact history
        · have notPlain : ¬ wait.ticket ∈ waiters.arrivals := by
            rw [ordered.plain waiting, priority]
            exact Bool.noConfusion
          simpa using notPlain
    | false =>
        rw [List.filter_cons_of_pos (by simpa using (ordered.plain waiting).mpr priority)] at history
        rw [if_neg Bool.false_ne_true, List.append_assoc]
        exact history

end

end WaitQueue

section

variable {τ : Type} [Fintype τ] [DecidableEq τ] {counts : τ → Nat} {thread : τ}

/-- One thread holds one lock more. -/
theorem sum_update_succ (counts : τ → Nat) (thread : τ) :
    ∑ other, Function.update counts thread (counts thread + 1) other =
      ∑ other, counts other + 1 := by
  rw [Finset.sum_update_of_mem (Finset.mem_univ thread),
    Finset.sum_eq_add_sum_sdiff_singleton_of_mem (Finset.mem_univ thread) counts]
  omega

/-- One thread holds one lock less. -/
theorem sum_update_pred (holds : counts thread ≠ 0) :
    ∑ other, Function.update counts thread (counts thread - 1) other + 1 =
      ∑ other, counts other := by
  rw [Finset.sum_update_of_mem (Finset.mem_univ thread),
    Finset.sum_eq_add_sum_sdiff_singleton_of_mem (Finset.mem_univ thread) counts]
  omega

end

end Andromeda.Library
