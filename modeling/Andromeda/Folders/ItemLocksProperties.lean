import Andromeda.Folders.ItemLocks
import Andromeda.Locks.LoadProperties

/-! When all items are locked no other thread has a lock of one, the thread never waits for one while
it has another, and it starts over only as often as others have locked. -/

set_option autoImplicit false

namespace Andromeda.Folders.ItemLocks

open Andromeda.Library Andromeda.Locks

variable {τ : Type} [Fintype τ] [DecidableEq τ] {locks : ItemLocks τ} {size : Nat} {owner : τ}

/-- Whether the thread has the lock of an item. -/
def Holds (size : Nat) (owner : τ) (locks : ItemLocks τ) (index : Nat) : Prop :=
  match locks.place with
  | .trying next => index < next
  | .clearing failed next => next ≤ index ∧ index < failed
  | .waiting failed => index = failed ∧ (locks.mutexes failed).seat owner = none
  | .returned => index < size

/-- The place is one of an item. -/
def LockPlace.Inside (size : Nat) : LockPlace → Prop
  | .trying next => next ≤ size
  | .clearing failed next => next ≤ failed ∧ failed < size
  | .waiting failed => failed < size
  | .returned => True

/-- The thread has the locks that it should have, and waits where it should. -/
structure Consistent (size : Nat) (owner : τ) (locks : ItemLocks τ) : Prop where
  valid : ∀ index, (locks.mutexes index).Valid
  reads : ∀ index, (locks.mutexes index).reads owner = 0
  writes : ∀ index, (locks.mutexes index).writes owner ≠ 0 ↔ Holds size owner locks index
  seated : ∀ index, (locks.mutexes index).seat owner ≠ none → locks.place = .waiting index ∧
    ∃ ticket, (locks.mutexes index).seat owner = some (ticket, .exclusive)
  inside : LockPlace.Inside size locks.place

omit [Fintype τ] in
@[simp] theorem act_self (locks : ItemLocks τ) (index : Nat) (move : τ × SharedMutex.Action) :
    (locks.act index move).mutexes index = (locks.mutexes index).step move :=
  Function.update_self _ _ _

omit [Fintype τ] in
private theorem act_place (locks : ItemLocks τ) (index : Nat) (move : τ × SharedMutex.Action) :
    (locks.act index move).place = locks.place := rfl

omit [Fintype τ] in
private theorem act_other (locks : ItemLocks τ) {index other : Nat} (apart : other ≠ index)
    (move : τ × SharedMutex.Action) :
    (locks.act index move).mutexes other = locks.mutexes other :=
  Function.update_of_ne apart _ _

omit [Fintype τ] in
private theorem act_cases (Holds : SharedMutex τ → Prop) {index : Nat}
    {move : τ × SharedMutex.Action}
    (others : ∀ other, Holds (locks.mutexes other))
    (here : Holds ((locks.mutexes index).step move)) (other : Nat) :
    Holds ((locks.act index move).mutexes other) := by
  by_cases same : other = index
  · rw [same, act_self]
    exact here
  · rw [act_other locks same]
    exact others other

private theorem Consistent.other (consistent : Consistent size owner locks) {thread : τ}
    (different : owner ≠ thread) (index : Nat) (action : SharedMutex.Action) :
    Consistent size owner (locks.act index (thread, action)) := by
  have same (other : Nat) : SharedMutex.SameFor owner (locks.mutexes other)
      ((locks.act index (thread, action)).mutexes other) := by
    by_cases here : other = index
    · rw [here, act_self]
      exact SharedMutex.sameFor_step different action
    · rw [act_other locks here]
      exact ⟨rfl, rfl, rfl⟩
  refine ⟨act_cases SharedMutex.Valid consistent.valid ((consistent.valid index).step _), fun other => ?_,
    fun other => ?_, fun other => ?_, consistent.inside⟩
  · rw [(same other).reads, consistent.reads]
  · rw [(same other).writes, consistent.writes]
    unfold Holds
    show _ ↔ match locks.place with
      | .trying next => other < next
      | .clearing failed next => next ≤ other ∧ other < failed
      | .waiting failed => other = failed ∧
        ((locks.act index (thread, action)).mutexes failed).seat owner = none
      | .returned => other < size
    cases locks.place with
    | waiting failed => simp only [(same failed).seat]
    | trying next => rfl
    | clearing failed next => rfl
    | returned => rfl
  · rw [(same other).seat]
    exact consistent.seated other

/-- What a step of the thread can do. -/
inductive OwnStep (size : Nat) (owner : τ) (locks : ItemLocks τ) : ItemLocks τ → Prop where
  | finish : locks.place = .trying size → OwnStep size owner locks (locks.goTo .returned)
  | locked {index} : locks.place = .trying index → index < size →
      ((locks.mutexes index).tryLock owner).1 = true → OwnStep size owner locks
        ({ locks.act index (owner, .tryLock) with tries := locks.tries + 1 }.goTo
          (.trying (index + 1)))
  | failed {index} : locks.place = .trying index → index < size →
      ((locks.mutexes index).tryLock owner).1 = false → OwnStep size owner locks
        { locks.act index (owner, .tryLock) with
          tries := locks.tries + 1, place := .clearing index 0, restarts := locks.restarts + 1 }
  | cleared {failed next} : locks.place = .clearing failed next → next < failed →
      OwnStep size owner locks ((locks.act next (owner, .unlock)).goTo (.clearing failed (next + 1)))
  | asks {failed} : locks.place = .clearing failed failed →
      OwnStep size owner locks ((locks.act failed (owner, .lock)).goTo (.waiting failed))
  | resumes {failed ticket} : locks.place = .waiting failed →
      (locks.mutexes failed).seat owner = some (ticket, .exclusive) →
        OwnStep size owner locks (locks.act failed (owner, .resume))
  | restarts {failed} : locks.place = .waiting failed → (locks.mutexes failed).seat owner = none →
      OwnStep size owner locks ((locks.act failed (owner, .unlock)).goTo (.trying 0))
  | done : locks.place = .returned → OwnStep size owner locks locks

private theorem ownStep_cases (consistent : Consistent size owner locks) :
    OwnStep size owner locks (locks.ownStep size owner) := by
  have inside := consistent.inside
  unfold ownStep
  cases place : locks.place with
  | trying index =>
      rw [place] at inside
      dsimp only
      split
      · next last => exact .finish (by rw [place, last])
      · next more =>
          have below : index < size := Nat.lt_of_le_of_ne inside more
          split
          · next taken => exact .locked place below taken
          · next busy => exact .failed place below (Bool.eq_false_iff.mpr busy)
  | clearing failed next =>
      rw [place] at inside
      dsimp only
      split
      · next last =>
          subst last
          exact .asks place
      · next more => exact .cleared place (Nat.lt_of_le_of_ne inside.1 more)
  | waiting failed =>
      dsimp only
      split
      · next waits =>
          have seated : (locks.mutexes failed).seat owner ≠ none := by
            rw [ne_eq, SharedMutex.seat_eq_none]
            intro idle
            rw [idle] at waits
            cases waits
          obtain ⟨ticket, told⟩ := (consistent.seated failed seated).2
          exact .resumes place told
      · next idle =>
          exact .restarts place (SharedMutex.seat_eq_none.mpr (Option.not_isSome_iff_eq_none.mp idle))
  | returned => exact .done place

omit [DecidableEq τ] in
private theorem Consistent.idle (consistent : Consistent size owner locks) {index : Nat}
    (apart : locks.place ≠ .waiting index) :
    (locks.mutexes index).waiters.waits owner = none := by
  rw [← SharedMutex.seat_eq_none]
  by_contra seated
  exact apart (consistent.seated index seated).1

private theorem Consistent.moved (consistent : Consistent size owner locks) {index : Nat}
    {action : SharedMutex.Action} {final : ItemLocks τ}
    (same : final.mutexes = (locks.act index (owner, action)).mutexes)
    (reads : ((locks.mutexes index).step (owner, action)).reads owner = 0)
    (here : ((locks.mutexes index).step (owner, action)).writes owner ≠ 0 ↔
      Holds size owner final index)
    (others : ∀ other, other ≠ index → (Holds size owner final other ↔ Holds size owner locks other))
    (seated : ((locks.mutexes index).step (owner, action)).seat owner ≠ none →
      final.place = .waiting index ∧
        ∃ ticket, ((locks.mutexes index).step (owner, action)).seat owner = some (ticket, .exclusive))
    (idle : ∀ other, other ≠ index → locks.place ≠ .waiting other)
    (inside : LockPlace.Inside size final.place) : Consistent size owner final := by
  refine ⟨?_, ?_, fun other => ?_, fun other seat => ?_, inside⟩
  · rw [same]
    exact act_cases SharedMutex.Valid consistent.valid ((consistent.valid index).step _)
  · rw [same]
    exact act_cases (fun mutex => mutex.reads owner = 0) consistent.reads reads
  · rw [same]
    by_cases at_ : other = index
    · subst at_
      rw [act_self]
      exact here
    · rw [act_other locks at_, others other at_]
      exact consistent.writes other
  · rw [same] at seat ⊢
    by_cases at_ : other = index
    · subst at_
      rw [act_self] at seat ⊢
      exact seated seat
    · rw [act_other locks at_] at seat
      exact absurd (consistent.seated other seat).1 (idle other at_)

private theorem OwnStep.consistent {final : ItemLocks τ} (took : OwnStep size owner locks final)
    (consistent : Consistent size owner locks) : Consistent size owner final := by
  have inside := consistent.inside
  cases took with
  | finish place =>
      refine ⟨consistent.valid, consistent.reads, fun index => ?_, fun index seated => ?_, trivial⟩
      · have held := consistent.writes index
        rw [Holds, place] at held
        exact held
      · have waiting := (consistent.seated index seated).1
        rw [place] at waiting
        cases waiting
  | @locked index place below taken =>
      have idle : (locks.mutexes index).waiters.waits owner = none :=
        consistent.idle (by rw [place]; simp)
      obtain ⟨left, writes⟩ := SharedMutex.tryLock_left idle taken
      refine consistent.moved rfl (left.reads.trans (consistent.reads index)) ?_ ?_ ?_ ?_ below
      · exact iff_of_true writes (Nat.lt_succ_self index)
      · intro other apart
        rw [Holds, Holds, place]
        show other < index + 1 ↔ other < index
        omega
      · intro seated
        rw [left.seat] at seated
        exact absurd (SharedMutex.seat_eq_none.mpr idle) seated
      · intro other _
        rw [place]
        simp
  | @failed index place below busy =>
      have idle : (locks.mutexes index).waiters.waits owner = none :=
        consistent.idle (by rw [place]; simp)
      have same := SharedMutex.tryLock_failed idle busy
      have free := mt (consistent.writes index).mp (by rw [Holds, place]; exact Nat.lt_irrefl _)
      refine consistent.moved rfl (by rw [same, consistent.reads]) ?_ ?_ ?_ ?_
        ⟨Nat.zero_le _, below⟩
      · rw [same]
        exact iff_of_false free fun holds => Nat.lt_irrefl _ holds.2
      · intro other _
        rw [Holds, Holds, place]
        exact and_iff_right (Nat.zero_le _)
      · intro seated
        rw [same] at seated
        exact absurd (SharedMutex.seat_eq_none.mpr idle) seated
      · intro other _
        rw [place]
        simp
  | @cleared failed next place more =>
      have idle : (locks.mutexes next).waiters.waits owner = none :=
        consistent.idle (by rw [place]; simp)
      have holds : (locks.mutexes next).writes owner ≠ 0 :=
        (consistent.writes next).mpr (by rw [Holds, place]; exact ⟨Nat.le_refl _, more⟩)
      obtain ⟨left, free⟩ := SharedMutex.unlock_left (consistent.valid next) idle holds
      rw [place] at inside
      refine consistent.moved rfl (left.reads.trans (consistent.reads next)) ?_ ?_ ?_ ?_
        ⟨more, inside.2⟩
      · exact iff_of_false (not_not.mpr free) fun holds => Nat.lt_irrefl _ holds.1
      · intro other apart
        rw [Holds, Holds, place]
        show next + 1 ≤ other ∧ other < failed ↔ next ≤ other ∧ other < failed
        omega
      · intro seated
        rw [left.seat] at seated
        exact absurd (SharedMutex.seat_eq_none.mpr idle) seated
      · intro other _
        rw [place]
        simp
  | @asks failed place =>
      have idle : (locks.mutexes failed).waiters.waits owner = none :=
        consistent.idle (by rw [place]; simp)
      have free : ∀ index, ¬ Holds size owner locks index := by
        intro index holds
        rw [Holds, place] at holds
        exact absurd holds.2 (Nat.not_lt.mpr holds.1)
      have asked := SharedMutex.lock_asked (consistent.valid failed).ordered idle
      rw [place] at inside
      refine consistent.moved rfl (asked.reads.trans (consistent.reads failed)) ?_ ?_ ?_ ?_ inside.2
      · rw [Holds]
        show _ ↔ failed = failed ∧ ((locks.act failed (owner, .lock)).mutexes failed).seat owner = none
        rw [act_self, eq_self_iff_true, true_and]
        rcases asked.turn with ⟨writes, ticket, seated, -⟩ | ⟨writes, unseated, -⟩
        · rw [writes, consistent.writes, seated]
          exact iff_of_false (free failed) (by simp)
        · exact iff_of_true writes unseated
      · intro other apart
        exact iff_of_false (fun holds => apart holds.1) (free other)
      · intro seated
        rcases asked.turn with ⟨-, ticket, told, -⟩ | ⟨-, unseated, -⟩
        · exact ⟨rfl, ticket, told⟩
        · exact absurd unseated seated
      · intro other _
        rw [place]
        simp
  | @resumes failed ticket place seated =>
      have asked := SharedMutex.resume_asked seated
      have free : ∀ index, ¬ Holds size owner locks index := by
        intro index holds
        rw [Holds, place] at holds
        have unseated := holds.2
        rw [seated] at unseated
        cases unseated
      rw [place] at inside
      refine consistent.moved rfl (asked.reads.trans (consistent.reads failed)) ?_ ?_ ?_ ?_
        (by rw [act_place, place]
            exact inside)
      · rw [Holds, act_place, place]
        dsimp only
        rw [act_self, eq_self_iff_true, true_and]
        rcases asked.turn with ⟨writes, ticket, told, -⟩ | ⟨writes, unseated, -⟩
        · rw [writes, consistent.writes, told]
          exact iff_of_false (free failed) (by simp)
        · exact iff_of_true writes unseated
      · intro other apart
        refine iff_of_false (fun holds => ?_) (free other)
        rw [Holds, act_place, place] at holds
        exact apart holds.1
      · intro still
        rcases asked.turn with ⟨-, ticket, told, -⟩ | ⟨-, unseated, -⟩
        · exact ⟨place, ticket, told⟩
        · exact absurd unseated still
      · intro other apart
        rw [place]
        simpa using apart.symm
  | @restarts failed place unseated =>
      have idle := SharedMutex.seat_eq_none.mp unseated
      have holds : (locks.mutexes failed).writes owner ≠ 0 :=
        (consistent.writes failed).mpr (by rw [Holds, place]; exact ⟨rfl, unseated⟩)
      obtain ⟨left, free⟩ := SharedMutex.unlock_left (consistent.valid failed) idle holds
      refine consistent.moved rfl (left.reads.trans (consistent.reads failed)) ?_ ?_ ?_ ?_
        (Nat.zero_le _)
      · exact iff_of_false (not_not.mpr free) (Nat.not_lt_zero _)
      · intro other apart
        rw [Holds, Holds, place]
        exact iff_of_false (Nat.not_lt_zero _) fun holds => apart holds.1
      · intro seated
        rw [left.seat] at seated
        exact absurd unseated seated
      · intro other apart
        rw [place]
        simpa using apart.symm
  | done place => exact consistent

private theorem Consistent.wake (consistent : Consistent size owner locks) {failed : Nat}
    (place : locks.place = .waiting failed) :
    Consistent size owner (locks.act failed (owner, .wake)) := by
  have inside := consistent.inside
  rw [place] at inside
  have woken : SharedMutex.Left owner (locks.mutexes failed)
    ((locks.mutexes failed).step (owner, .wake)) ∧ _ := SharedMutex.wake_left
  obtain ⟨left, writes⟩ := woken
  have still : (locks.act failed (owner, .wake)).place = .waiting failed := place
  refine consistent.moved rfl (left.reads.trans (consistent.reads failed)) ?_ ?_ ?_ ?_
    (by rw [still]; exact inside)
  · rw [writes, consistent.writes, Holds, Holds, still, place]
    dsimp only
    rw [act_self, left.seat]
  · intro other apart
    rw [Holds, Holds, still, place]
    exact iff_of_false (fun holds => apart holds.1) fun holds => apart holds.1
  · intro seated
    rw [left.seat] at seated ⊢
    exact consistent.seated failed seated
  · intro other apart
    rw [place]
    simpa using apart.symm

private theorem Consistent.step (consistent : Consistent size owner locks) (move : LockMove τ) :
    Consistent size owner (locks.step size owner move) := by
  cases move with
  | own => exact (ownStep_cases consistent).consistent consistent
  | wake =>
      unfold ItemLocks.step
      cases place : locks.place with
      | waiting failed => exact consistent.wake place
      | trying index => exact consistent
      | clearing failed next => exact consistent
      | returned => exact consistent
  | other thread index action =>
      unfold ItemLocks.step
      dsimp only
      split
      · exact consistent
      · next different => exact consistent.other (Ne.symm different) index action

private theorem Consistent.run (consistent : Consistent size owner locks)
    (moves : List (LockMove τ)) :
    Consistent size owner (locks.run size owner moves) := by
  induction moves generalizing locks with
  | nil => exact consistent
  | cons move rest ih => exact ih (consistent.step move)

omit [DecidableEq τ] in
private theorem consistent_start {mutexes : Nat → SharedMutex τ}
    (valid : ∀ index, (mutexes index).Valid)
    (idle : ∀ index, (mutexes index).writes owner = 0 ∧ (mutexes index).reads owner = 0 ∧
      (mutexes index).waiters.waits owner = none) : Consistent size owner (start mutexes) where
  valid := valid
  reads := fun index => (idle index).2.1
  writes := fun index => iff_of_false (not_not.mpr (idle index).1) (Nat.not_lt_zero _)
  seated := fun index seated => absurd (SharedMutex.seat_eq_none.mpr (idle index).2.2) seated
  inside := Nat.zero_le _

/-- What others have of an item that the thread could fail for: of the one that it waits for, only
what came after it. -/
def charge (owner : τ) (locks : ItemLocks τ) (index : Nat) : Nat :=
  match locks.place with
  | .clearing failed _ => if index = failed then 0 else (locks.mutexes index).load owner
  | _ =>
    match (locks.mutexes index).seat owner with
    | none => (locks.mutexes index).load owner
    | some (ticket, _) => (locks.mutexes index).behind ticket

private theorem sum_charge_le {final : ItemLocks τ} {index more : Nat}
    (others : ∀ other, other ≠ index → charge owner final other = charge owner locks other)
    (here : charge owner final index ≤ charge owner locks index + more) :
    ∑ other ∈ Finset.range size, charge owner final other ≤
      ∑ other ∈ Finset.range size, charge owner locks other + more := by
  by_cases member : index ∈ Finset.range size
  · rw [← Finset.add_sum_erase _ _ member, ← Finset.add_sum_erase _ _ member]
    have rest : ∑ other ∈ (Finset.range size).erase index, charge owner final other =
        ∑ other ∈ (Finset.range size).erase index, charge owner locks other :=
      Finset.sum_congr rfl fun other member => others other (Finset.mem_erase.mp member).1
    omega
  · refine le_trans (Finset.sum_le_sum fun other there => ?_) (Nat.le_add_right _ _)
    rw [others other fun same => member (same ▸ there)]

private theorem charge_elsewhere {index other : Nat} {move : τ × SharedMutex.Action}
    (apart : other ≠ index) :
    charge owner (locks.act index move) other = charge owner locks other := by
  unfold charge
  rw [act_place, act_other locks apart]

private theorem charge_other (consistent : Consistent size owner locks) {thread : τ}
    (different : owner ≠ thread) (index : Nat) (action : SharedMutex.Action) :
    charge owner (locks.act index (thread, action)) index ≤
      charge owner locks index + action.asks := by
  have same : SharedMutex.SameFor owner (locks.mutexes index)
    ((locks.mutexes index).step (thread, action)) := SharedMutex.sameFor_step different action
  have ordinary : (match ((locks.act index (thread, action)).mutexes index).seat owner with
      | none => ((locks.act index (thread, action)).mutexes index).load owner
      | some (ticket, _) => ((locks.act index (thread, action)).mutexes index).behind ticket) ≤
      (match (locks.mutexes index).seat owner with
      | none => (locks.mutexes index).load owner
      | some (ticket, _) => (locks.mutexes index).behind ticket) + action.asks := by
    rw [act_self, same.seat]
    cases seated : (locks.mutexes index).seat owner with
    | none => exact SharedMutex.load_step different action
    | some seat => exact SharedMutex.behind_step (consistent.valid index).ordered different seated action
  unfold charge
  rw [act_place]
  cases locks.place with
  | clearing failed next =>
      dsimp only
      split
      · exact Nat.zero_le _
      · rw [act_self]
        exact SharedMutex.load_step different action
  | trying next => exact ordinary
  | waiting failed => exact ordinary
  | returned => exact ordinary

private theorem charge_idle {index : Nat} (idle : (locks.mutexes index).seat owner = none)
    (kept : ∀ next, locks.place ≠ .clearing index next) :
    charge owner locks index = (locks.mutexes index).load owner := by
  unfold charge
  cases place : locks.place with
  | clearing failed next =>
      dsimp only
      rw [if_neg]
      rintro rfl
      exact kept next place
  | trying next => rw [idle]
  | waiting failed => rw [idle]
  | returned => rw [idle]

private theorem charge_cleared {failed next : Nat} (place : locks.place = .clearing failed next) :
    charge owner locks failed = 0 := by
  unfold charge
  rw [place]
  exact if_pos rfl

private theorem charge_seated {index failed ticket : Nat} {kind : LockKind}
    (place : locks.place = .waiting failed)
    (seated : (locks.mutexes index).seat owner = some (ticket, kind)) :
    charge owner locks index = (locks.mutexes index).behind ticket := by
  unfold charge
  rw [place]
  dsimp only
  rw [seated]

private theorem charge_asked {failed left : Nat} {final : ItemLocks τ} (mutex : SharedMutex τ)
    (valid : (final.mutexes failed).Valid) (place : final.place = .waiting failed)
    (asked : SharedMutex.Asked owner mutex (final.mutexes failed) left) :
    charge owner final failed = left := by
  rcases asked.turn with ⟨-, ticket, seated, last⟩ | ⟨writes, unseated, queued⟩
  · rw [charge_seated place seated, last]
  · rw [charge_idle unseated (by rw [place]; simp), SharedMutex.load,
      valid.othersLocks_eq_zero writes, queued, Nat.zero_add]

private theorem charge_kept {index : Nat} {final : ItemLocks τ}
    (idle : (locks.mutexes index).seat owner = none)
    (left : SharedMutex.Left owner (locks.mutexes index) (final.mutexes index))
    (kept : ∀ next, locks.place ≠ .clearing index next)
    (kept' : ∀ next, final.place ≠ .clearing index next) :
    charge owner final index = charge owner locks index := by
  rw [charge_idle (left.seat.trans idle) kept', charge_idle idle kept, left.load]

private theorem left_act {index : Nat} {move : τ × SharedMutex.Action}
    (left : SharedMutex.Left owner (locks.mutexes index) ((locks.mutexes index).step move))
    (other : Nat) :
    SharedMutex.Left owner (locks.mutexes other) ((locks.act index move).mutexes other) := by
  by_cases here : other = index
  · rw [here, act_self]
    exact left
  · rw [act_other locks here]
    exact .refl owner _

private theorem OwnStep.charge {final : ItemLocks τ} (took : OwnStep size owner locks final)
    (consistent : Consistent size owner locks) :
    final.restarts + ∑ index ∈ Finset.range size, ItemLocks.charge owner final index ≤
      locks.restarts + ∑ index ∈ Finset.range size, ItemLocks.charge owner locks index := by
  have after := took.consistent consistent
  have unseated {index : Nat} (apart : locks.place ≠ .waiting index) :
      (locks.mutexes index).seat owner = none := SharedMutex.seat_eq_none.mpr (consistent.idle apart)
  cases took with
  | finish place =>
      refine Nat.add_le_add_left (Finset.sum_le_sum fun index _ => Eq.le ?_) _
      exact charge_kept (unseated (by rw [place]; simp)) (.refl owner _)
        (fun _ => by rw [place]; simp) (fun _ => by simp [goTo])
  | @locked index place below taken =>
      have left := (SharedMutex.tryLock_left (consistent.idle (by rw [place]; simp)) taken).1
      refine Nat.add_le_add_left (Finset.sum_le_sum fun other _ => Eq.le ?_) _
      exact charge_kept (unseated (by rw [place]; simp)) (left_act left other)
        (fun _ => by rw [place]; simp) (fun _ => by simp [goTo])
  | @failed index place below busy =>
      have idle : (locks.mutexes index).waiters.waits owner = none :=
        consistent.idle (by rw [place]; simp)
      have same := SharedMutex.tryLock_failed idle busy
      have free : (locks.mutexes index).writes owner = 0 := by
        by_contra holds
        have held := (consistent.writes index).mp holds
        rw [Holds, place] at held
        exact Nat.lt_irrefl _ held
      have some_ := (consistent.valid index).load_pos busy free (consistent.reads index)
      have member := Finset.mem_range.mpr below
      have before : _ + ∑ other ∈ (Finset.range size).erase index,
          ItemLocks.charge owner locks other =
        ∑ other ∈ Finset.range size, ItemLocks.charge owner locks other :=
        Finset.add_sum_erase _ _ member
      rw [charge_idle (unseated (by rw [place]; simp)) (fun _ => by rw [place]; simp)] at before
      rw [← Finset.add_sum_erase _ _ member, charge_cleared rfl]
      have rest : ∀ other ∈ (Finset.range size).erase index, ItemLocks.charge owner
          { locks.act index (owner, .tryLock) with
            tries := locks.tries + 1, place := .clearing index 0, restarts := locks.restarts + 1 }
          other = ItemLocks.charge owner locks other := by
        intro other there
        refine charge_kept (unseated (by rw [place]; simp))
          (left_act (by rw [same]; exact .refl owner _) other)
          (fun _ => by rw [place]; simp) fun next told => ?_
        cases told
        exact (Finset.mem_erase.mp there).1 rfl
      have total : ∑ other ∈ (Finset.range size).erase index, ItemLocks.charge owner
          { locks.act index (owner, .tryLock) with
            tries := locks.tries + 1, place := .clearing index 0, restarts := locks.restarts + 1 }
          other = ∑ other ∈ (Finset.range size).erase index, ItemLocks.charge owner locks other :=
        Finset.sum_congr rfl rest
      rw [total]
      show locks.restarts + 1 + _ ≤ _
      omega
  | @cleared failed next place more =>
      have holds : (locks.mutexes next).writes owner ≠ 0 :=
        (consistent.writes next).mpr (by rw [Holds, place]; exact ⟨Nat.le_refl _, more⟩)
      have left := (SharedMutex.unlock_left (consistent.valid next)
        (consistent.idle (by rw [place]; simp)) holds).1
      refine Nat.add_le_add_left (Finset.sum_le_sum fun other _ => Eq.le ?_) _
      by_cases here : other = failed
      · rw [here, charge_cleared place, charge_cleared rfl]
      · refine charge_kept (unseated (by rw [place]; simp)) (left_act left other)
          (fun later told => ?_) fun later told => ?_
        · rw [place] at told
          cases told
          exact here rfl
        · cases told
          exact here rfl
  | @asks failed place =>
      have asked := SharedMutex.lock_asked (consistent.valid failed).ordered
        (consistent.idle (by rw [place]; simp))
      refine Nat.add_le_add_left (Finset.sum_le_sum fun other _ => Eq.le ?_) _
      by_cases here : other = failed
      · rw [here, charge_cleared place]
        exact charge_asked (locks.mutexes failed) (after.valid failed) rfl
          (by rw [goTo, act_self]; exact asked)
      · refine charge_kept (unseated (by rw [place]; simp)) ?_ (fun later told => ?_)
          fun later => by simp [goTo]
        · rw [goTo, act_other locks here]
          exact .refl owner _
        · rw [place] at told
          cases told
          exact here rfl
  | @resumes failed ticket place seated =>
      have asked := SharedMutex.resume_asked seated
      refine Nat.add_le_add_left (Finset.sum_le_sum fun other _ => Eq.le ?_) _
      by_cases here : other = failed
      · rw [here, charge_seated place seated]
        exact charge_asked (locks.mutexes failed) (after.valid failed) place
          (by rw [act_self]; exact asked)
      · refine charge_kept (unseated (by rw [place]; simpa using Ne.symm here)) ?_
          (fun _ => by rw [place]; simp) fun _ => by rw [act_place, place]; simp
        rw [act_other locks here]
        exact .refl owner _
  | @restarts failed place idle =>
      have holds : (locks.mutexes failed).writes owner ≠ 0 :=
        (consistent.writes failed).mpr (by rw [Holds, place]; exact ⟨rfl, idle⟩)
      have left := (SharedMutex.unlock_left (consistent.valid failed)
        (SharedMutex.seat_eq_none.mp idle) holds).1
      refine Nat.add_le_add_left (Finset.sum_le_sum fun other _ => Eq.le ?_) _
      have nowhere : (locks.mutexes other).seat owner = none := by
        by_cases here : other = failed
        · rw [here, idle]
        · exact unseated (by rw [place]; simpa using Ne.symm here)
      exact charge_kept nowhere (left_act left other) (fun _ => by rw [place]; simp)
        fun _ => by simp [goTo]
  | done place => exact Nat.le_refl _

private theorem charge_wake {failed : Nat} (place : locks.place = .waiting failed) (index : Nat) :
    charge owner (locks.act failed (owner, .wake)) index = charge owner locks index := by
  have woken : SharedMutex.Left owner (locks.mutexes failed)
    ((locks.mutexes failed).step (owner, .wake)) ∧ _ := SharedMutex.wake_left
  have left := left_act woken.1 index
  cases seated : (locks.mutexes index).seat owner with
  | none =>
      exact charge_kept seated left (fun _ => by rw [place]; simp)
        fun _ => by rw [act_place, place]; simp
  | some seat =>
      obtain ⟨ticket, kind⟩ := seat
      have still : (locks.act failed (owner, .wake)).place = .waiting failed := place
      rw [charge_seated place seated, charge_seated still (left.seat.trans seated),
        SharedMutex.behind, left.queue, SharedMutex.behind]

/-- How often others ask for a lock of an item. -/
def asked (owner : τ) : List (LockMove τ) → Nat
  | [] => 0
  | .other thread _ action :: rest => (if thread = owner then 0 else action.asks) + asked owner rest
  | _ :: rest => asked owner rest

private theorem step_charge (consistent : Consistent size owner locks) (move : LockMove τ) :
    (locks.step size owner move).restarts +
        ∑ index ∈ Finset.range size, charge owner (locks.step size owner move) index ≤
      locks.restarts + ∑ index ∈ Finset.range size, charge owner locks index +
        asked owner [move] := by
  cases move with
  | own => exact (ownStep_cases consistent).charge consistent
  | wake =>
      unfold ItemLocks.step
      cases place : locks.place with
      | waiting failed =>
          exact Nat.add_le_add_left (Finset.sum_le_sum fun index _ =>
            (charge_wake place index).le) _
      | trying index => exact Nat.le_refl _
      | clearing failed next => exact Nat.le_refl _
      | returned => exact Nat.le_refl _
  | other thread index action =>
      unfold ItemLocks.step
      dsimp only [asked]
      split
      · exact Nat.le_add_right _ _
      · next different =>
          have grown : ∑ other ∈ Finset.range size,
              charge owner (locks.act index (thread, action)) other ≤ _ :=
            sum_charge_le (fun other apart => charge_elsewhere apart)
              (charge_other consistent (Ne.symm different) index action)
          show locks.restarts + _ ≤ _
          omega

/-- The loop has tried each item at most once since it started over. -/
def Tried (size : Nat) (locks : ItemLocks τ) : Prop :=
  match locks.place with
  | .trying next => locks.tries ≤ locks.restarts * size + next
  | .returned => locks.tries ≤ (locks.restarts + 1) * size
  | _ => locks.tries ≤ locks.restarts * size

omit [Fintype τ] in
private theorem OwnStep.tried {final : ItemLocks τ} (took : OwnStep size owner locks final)
    (tried : Tried size locks) : Tried size final := by
  unfold Tried at tried ⊢
  cases took with
  | finish place =>
      rw [place] at tried
      show locks.tries ≤ (locks.restarts + 1) * size
      rw [Nat.succ_mul]
      exact tried
  | @locked index place below taken =>
      rw [place] at tried
      exact Nat.succ_le_succ tried
  | @failed index place below busy =>
      rw [place] at tried
      show locks.tries + 1 ≤ (locks.restarts + 1) * size
      rw [Nat.succ_mul]
      dsimp only at tried
      omega
  | cleared place more =>
      rw [place] at tried
      exact tried
  | asks place =>
      rw [place] at tried
      exact tried
  | resumes place seated =>
      rw [act_place]
      exact tried
  | restarts place idle =>
      rw [place] at tried
      exact tried
  | done place => exact tried

private theorem step_tried (consistent : Consistent size owner locks) (tried : Tried size locks)
    (move : LockMove τ) : Tried size (locks.step size owner move) := by
  cases move with
  | own => exact (ownStep_cases consistent).tried tried
  | wake =>
      unfold ItemLocks.step
      cases place : locks.place with
      | waiting failed => exact tried
      | trying index => exact tried
      | clearing failed next => exact tried
      | returned => exact tried
  | other thread index action =>
      unfold ItemLocks.step
      dsimp only
      split
      · exact tried
      · exact tried

private theorem run_charge (consistent : Consistent size owner locks) (tried : Tried size locks)
    (moves : List (LockMove τ)) :
    Tried size (locks.run size owner moves) ∧
      (locks.run size owner moves).restarts +
          ∑ index ∈ Finset.range size, charge owner (locks.run size owner moves) index ≤
        locks.restarts + ∑ index ∈ Finset.range size, charge owner locks index +
          asked owner moves := by
  induction moves generalizing locks with
  | nil => exact ⟨tried, Nat.le_refl _⟩
  | cons move rest ih =>
      obtain ⟨tried', whole⟩ := ih (consistent.step move) (step_tried consistent tried move)
      have first := step_charge consistent move
      have split : asked owner (move :: rest) = asked owner [move] + asked owner rest := by
        cases move <;> simp [asked]
      refine ⟨tried', ?_⟩
      show ((locks.step size owner move).run size owner rest).restarts + ∑ index ∈ Finset.range size,
        charge owner ((locks.step size owner move).run size owner rest) index ≤ _
      omega

private theorem ownStep_gets (consistent : Consistent size owner locks) {failed ticket : Nat}
    {kind : LockKind} (place : locks.place = .waiting failed)
    (seated : (locks.mutexes failed).seat owner = some (ticket, kind))
    (free : (locks.mutexes failed).locked = false)
    (front : (locks.mutexes failed).waiters.queue.head? = some ticket) :
    ((locks.ownStep size owner).mutexes failed).writes owner = 1 := by
  obtain ⟨wait, waits, same⟩ := Option.map_eq_some_iff.mp seated
  obtain ⟨rfl, rfl⟩ := Prod.mk.inj same
  have exclusive : wait.kind = .exclusive := by
    obtain ⟨other, told⟩ := (consistent.seated failed (by rw [seated]; simp)).2
    rw [seated] at told
    exact (Prod.mk.inj (Option.some.inj told)).2
  have turn : (locks.mutexes failed).waiters.isFront wait = true := decide_eq_true front
  have may : (locks.mutexes failed).mustWait wait.kind = false := by
    rw [exclusive]
    exact free
  have awake := (consistent.valid failed).alert owner wait waits turn may
  have after := (ownStep_cases consistent).consistent consistent
  refine ((after.valid failed).excludes ?_).1
  rw [ownStep, place]
  dsimp only
  rw [waits, Option.isSome_some, if_pos rfl, act_self, SharedMutex.step, waits]
  dsimp only
  rw [awake, if_neg Bool.false_ne_true, SharedMutex.checkTurn, may, turn]
  simp only [Bool.false_eq_true, Bool.true_eq_false, or_self, if_false]
  rw [SharedMutex.enter, exclusive]
  show Function.update (locks.mutexes failed).writes owner _ owner ≠ 0
  rw [Function.update_self]
  exact Nat.succ_ne_zero _

section

variable {mutexes : Nat → SharedMutex τ} (valid : ∀ index, (mutexes index).Valid)
  (idle : ∀ index, (mutexes index).writes owner = 0 ∧ (mutexes index).reads owner = 0 ∧
    (mutexes index).waiters.waits owner = none)

include valid idle

/-- In every interleaving with other threads: when the loop returns, its thread is the writer of each
item, and nobody else has one; while it waits for one it has none; and when its turn comes at a free
item, its next step gets it. -/
theorem lockItems_safe (moves : List (LockMove τ)) :
    let locks := (start mutexes).run size owner moves
    (locks.place = .returned → ∀ index < size, (locks.mutexes index).writes owner = 1 ∧
      (∀ other, other ≠ owner → (locks.mutexes index).writes other = 0) ∧
      ∀ other, (locks.mutexes index).reads other = 0) ∧
    ∀ failed ticket kind, locks.place = .waiting failed →
      (locks.mutexes failed).seat owner = some (ticket, kind) →
      (∀ index, (locks.mutexes index).writes owner = 0 ∧ (locks.mutexes index).reads owner = 0) ∧
      ((locks.mutexes failed).locked = false →
        (locks.mutexes failed).waiters.queue.head? = some ticket →
        ((locks.ownStep size owner).mutexes failed).writes owner = 1) := by
  intro locks
  have consistent : Consistent size owner locks := (consistent_start valid idle).run moves
  refine ⟨fun place index below => ?_, fun failed ticket kind place seated => ⟨fun index => ?_, ?_⟩⟩
  · have holds : (locks.mutexes index).writes owner ≠ 0 :=
      (consistent.writes index).mpr (by rw [Holds, place]; exact below)
    exact (consistent.valid index).excludes holds
  · refine ⟨?_, consistent.reads index⟩
    by_contra holds
    have held := (consistent.writes index).mp holds
    rw [Holds, place] at held
    have unseated := held.2
    rw [seated] at unseated
    cases unseated
  · exact ownStep_gets consistent place seated

/-- The loop starts over at most as often as others have locks of items at its begin, are queued for
one, or ask for one later; and it tries each item at most once each time. -/
theorem lockItems_bounded (moves : List (LockMove τ)) :
    let locks := (start mutexes).run size owner moves
    let bound := ∑ index ∈ Finset.range size, (mutexes index).load owner + asked owner moves
    locks.restarts ≤ bound ∧ locks.tries ≤ (bound + 1) * size := by
  intro locks bound
  have consistent : Consistent size owner (start mutexes) := consistent_start valid idle
  obtain ⟨tried, whole⟩ := run_charge consistent (Nat.zero_le _) moves
  have first : ∑ index ∈ Finset.range size, charge owner (start mutexes) index =
      ∑ index ∈ Finset.range size, (mutexes index).load owner :=
    Finset.sum_congr rfl fun index _ => charge_idle
      (SharedMutex.seat_eq_none.mpr (idle index).2.2) fun _ => by simp [start]
  have few : ((start mutexes).run size owner moves).restarts ≤
      ∑ index ∈ Finset.range size, (mutexes index).load owner + asked owner moves := by
    rw [first, show (start mutexes).restarts = 0 from rfl, Nat.zero_add] at whole
    exact (Nat.le_add_right _ _).trans whole
  refine ⟨few, ?_⟩
  have inside := (consistent.run moves).inside
  have most : locks.tries ≤ (locks.restarts + 1) * size := by
    unfold Tried at tried
    show ((start mutexes).run size owner moves).tries ≤ _
    rw [Nat.succ_mul]
    cases place : ((start mutexes).run size owner moves).place with
    | trying next =>
        rw [place] at tried inside
        exact tried.trans (Nat.add_le_add_left inside _)
    | clearing failed next =>
        rw [place] at tried
        exact tried.trans (Nat.le_add_right _ _)
    | waiting failed =>
        rw [place] at tried
        exact tried.trans (Nat.le_add_right _ _)
    | returned =>
        rw [place] at tried
        rw [← Nat.succ_mul]
        exact tried
  exact most.trans (Nat.mul_le_mul_right _ (Nat.succ_le_succ few))

end

namespace Scenario

/-- Two items, one of which another thread has. -/
def mutexes (index : Nat) : SharedMutex (Fin 2) :=
  SharedMutex.run .init (if index = 1 then [(1, .lock)] else [])

private theorem mutexes_valid (index : Nat) : (mutexes index).Valid := SharedMutex.valid_init.run _

private theorem mutexes_idle (index : Nat) :
    (mutexes index).writes 0 = 0 ∧ (mutexes index).reads 0 = 0 ∧
    (mutexes index).waiters.waits 0 = none := by
  unfold mutexes
  split
  · exact ⟨rfl, rfl, rfl⟩
  · exact ⟨rfl, rfl, rfl⟩

/-- The first item is locked and unlocked again, the other thread unlocks the second one, and the
loop starts over. -/
def moves : List (LockMove (Fin 2)) :=
  [.own, .own, .own, .own, .wake, .own, .other 1 1 .unlock, .own, .own, .own, .own, .own]

theorem lockItems_safe_moves :
    (((start mutexes).run 2 0 moves).mutexes 1).writes 0 = 1 ∧
      (∀ other, other ≠ 0 → (((start mutexes).run 2 0 moves).mutexes 1).writes other = 0) ∧
      ∀ other, (((start mutexes).run 2 0 moves).mutexes 1).reads other = 0 :=
  (lockItems_safe mutexes_valid mutexes_idle moves).1 (by decide +kernel) 1 (by decide)

theorem lockItems_bounded_moves : ((start mutexes).run 2 0 moves).restarts ≤
    ∑ index ∈ Finset.range 2, (mutexes index).load 0 + asked 0 moves :=
  (lockItems_bounded mutexes_valid mutexes_idle moves).1

end Scenario

end Andromeda.Folders.ItemLocks
