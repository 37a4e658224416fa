import Andromeda.Cleanup.CleanupThreads

/-! What the steps of the threads that use a cache manager and of its cleanup threads keep: an
invariant is theirs if the few changes keep it of which all these steps are made. -/

set_option autoImplicit false

namespace Andromeda.Cleanup

open FileData (CacheManager PageInfo)

/-- Inside its loop and awake. -/
def Place.isRunning : Place → Bool
  | absent | asleep | ended => false
  | _ => true

/-- In `GetPageManagerLock`, without the lock. -/
def Place.isLocking : Place → Bool
  | locking .. => true
  | _ => false

/-- About to wait or waiting. -/
def Place.isSettled : Place → Bool
  | settling | asleep => true
  | _ => false

/-- In a wait, and not notified. -/
def Client.isAsleep : Client → Bool
  | waiting _ _ _ notified => !notified
  | _ => false

namespace CacheThreads

variable {τ : Type} [DecidableEq τ]

/-- The changes that the steps consist of keep an invariant. -/
structure Kept (Invariant : CacheThreads τ → Prop) : Prop where
  frame {state : CacheThreads τ} (cache : CacheManager) (failure : Cleaner → Bool)
    (readers : Nat → Nat) (writer : Nat → Bool) : Invariant state →
      Invariant { state with cache, failure, readers, writer }
  put {state : CacheThreads τ} {thread : τ} {client : Client} : Invariant state →
    client.isAsleep = false → Invariant (state.put thread client)
  sleep {state : CacheThreads τ} {thread : τ} {cleaner : Cleaner} {call : Call} {rest : Rest} :
    Invariant state → state.shouldSkipWait call.manager = false →
      Invariant (state.put thread (.waiting cleaner call rest false))
  notifyThread {state : CacheThreads τ} {cleaner : Cleaner} : Invariant state →
    Invariant (state.notifyThread cleaner)
  notifyWaiters {state : CacheThreads τ} {cleaner : Cleaner} : Invariant state →
    Invariant (state.notifyWaiters cleaner)
  goTo {state : CacheThreads τ} {cleaner : Cleaner} {old place : Place} : Invariant state →
    state.places cleaner = old → old.isRunning = true → place.isLocking = false →
      (place.isSettled = true → state.runCleanup = true ∨ old.isSettled = true) →
        Invariant (state.goTo cleaner place)
  announce {state : CacheThreads τ} {cleaner : Cleaner} {old : Place} {manager : Nat}
    {pages : List PageInfo} {left : PageMap} : Invariant state →
      state.places cleaner = old → old.isRunning = true →
        Invariant (state.announce cleaner manager pages left)
  unannounce {state : CacheThreads τ} {cleaner : Cleaner} {old : Place} {manager : Nat}
    {pages : List PageInfo} {left : PageMap} : Invariant state →
      state.places cleaner = old → old.isRunning = true →
        Invariant (state.unannounce cleaner manager pages left)

namespace Kept

variable {Invariant : CacheThreads τ → Prop} {state : CacheThreads τ} {cleaner : Cleaner}
  {thread : τ} {call : Call} {rest : Rest}

private theorem withCache (kept : Kept Invariant) (holds : Invariant state) (cache : CacheManager) :
    Invariant (state.withCache cache) :=
  kept.frame cache state.failure state.readers state.writer holds

private theorem setFailure (kept : Kept Invariant) (holds : Invariant state)
    (failure : Cleaner → Bool) : Invariant { state with failure } :=
  kept.frame state.cache failure state.readers state.writer holds

private theorem setReaders (kept : Kept Invariant) (holds : Invariant state) (manager count : Nat) :
    Invariant (state.setReaders manager count) :=
  kept.frame state.cache state.failure _ state.writer holds

private theorem setWriter (kept : Kept Invariant) (holds : Invariant state) (manager : Nat)
    (locked : Bool) : Invariant (state.setWriter manager locked) :=
  kept.frame state.cache state.failure state.readers _ holds

private theorem remove (kept : Kept Invariant) (holds : Invariant state)
    (removal : CacheManager → Nat → Nat → CacheManager) (index : Nat) (manager : Option Nat) :
    Invariant (state.remove removal index manager) := by
  cases manager with
  | none => exact holds
  | some manager =>
      unfold CacheThreads.remove
      dsimp only
      split
      · exact kept.withCache holds _
      · exact holds

private theorem measure (kept : Kept Invariant) (holds : Invariant state) (dirtyLimit : Nat) :
    Invariant (state.measure dirtyLimit) := by
  unfold CacheThreads.measure
  split
  · exact kept.withCache holds _
  · exact holds

private theorem leaveCall (kept : Kept Invariant) (holds : Invariant state) :
    Invariant (leaveCall thread call state) := kept.put holds rfl

omit [DecidableEq τ] in
/-- A thread that falls asleep found its own manager unnamed. -/
theorem shouldSkipWait_of_sleeps {manager : Nat}
    (sleeps : state.shouldAwait cleaner manager = .sleeps) :
    state.shouldSkipWait manager = false := by
  unfold shouldAwait at sleeps
  split at sleeps
  · split at sleeps
    · cases sleeps
    · split at sleeps
      · cases sleeps
      · next unnamed => exact Bool.eq_false_iff.mpr unnamed
  · cases sleeps

omit [DecidableEq τ] in
private theorem shouldSkipWait_notifyThread (manager : Nat) :
    (state.notifyThread cleaner).shouldSkipWait manager = state.shouldSkipWait manager := by
  unfold CacheThreads.notifyThread
  split <;> rfl

private theorem awaitCleanup (kept : Kept Invariant) (holds : Invariant state)
    {next : CacheThreads τ → CacheThreads τ}
    (keeps : ∀ state, Invariant state → Invariant (next state)) :
    Invariant (awaitCleanup cleaner thread call rest next state) := by
  unfold CacheThreads.awaitCleanup
  cases awaited : state.shouldAwait cleaner call.manager with
  | proceeds => exact keeps state holds
  | throws => exact kept.leaveCall holds
  | sleeps =>
      have unnamed := shouldSkipWait_of_sleeps awaited
      rw [← shouldSkipWait_notifyThread] at unnamed
      exact kept.sleep (kept.notifyThread holds) unnamed

private theorem handle (kept : Kept Invariant) (holds : Invariant state)
    {next : CacheThreads τ → CacheThreads τ}
    (keeps : ∀ state, Invariant state → Invariant (next state)) :
    Invariant (handle cleaner thread call rest next state) := by
  unfold CacheThreads.handle
  split
  · exact kept.put holds rfl
  · split
    · split
      · exact kept.awaitCleanup (kept.setFailure holds _) keeps
      · split
        · exact keeps _ (kept.notifyThread holds)
        · exact keeps _ holds
    · exact keeps _ holds

private theorem handleDirtyMemory (kept : Kept Invariant) (holds : Invariant state) :
    Invariant (handleDirtyMemory thread call state) :=
  kept.handle holds fun _ => kept.leaveCall

private theorem afterMemory (kept : Kept Invariant) (holds : Invariant state) :
    Invariant (afterMemory thread call state rest) := by
  cases rest with
  | done => exact kept.leaveCall holds
  | handleDirty => exact kept.handleDirtyMemory holds
  | resizeDirty newSize =>
      unfold CacheThreads.afterMemory
      dsimp only
      split
      · exact kept.leaveCall holds
      · split
        · exact kept.handleDirtyMemory (kept.withCache holds _)
        · exact kept.leaveCall (kept.withCache holds _)

private theorem handleMemory (kept : Kept Invariant) (holds : Invariant state) :
    Invariant (handleMemory thread call rest state) :=
  kept.handle holds fun _ => kept.afterMemory

private theorem next (kept : Kept Invariant) (holds : Invariant state) :
    Invariant (next cleaner thread call rest state) := by
  cases cleaner with
  | evict => exact kept.afterMemory holds
  | flush => exact kept.leaveCall holds

private theorem informPage (kept : Kept Invariant) (holds : Invariant state) (capacity : Nat)
    (dirty : Bool) : Invariant (informPage thread call capacity dirty state) := by
  unfold CacheThreads.informPage
  dsimp only
  split
  · exact kept.handleMemory (kept.withCache holds _)
  · exact kept.leaveCall (kept.withCache holds _)

private theorem resizePage (kept : Kept Invariant) (holds : Invariant state) (newSize : Nat) :
    Invariant (resizePage thread call newSize state) := by
  unfold CacheThreads.resizePage
  split
  · exact kept.afterMemory holds
  · dsimp only
    split
    · exact kept.handleMemory (kept.withCache holds _)
    · exact kept.afterMemory (kept.withCache holds _)

private theorem resume (kept : Kept Invariant) (holds : Invariant state) :
    Invariant (state.resume thread) := by
  unfold CacheThreads.resume
  split
  · exact kept.awaitCleanup holds fun _ => kept.next
  · exact holds

private theorem lock (kept : Kept Invariant) (holds : Invariant state) (manager : Nat)
    (mode : LockMode) : Invariant (state.lock thread manager mode) := by
  cases mode with
  | read =>
      unfold CacheThreads.lock
      dsimp only
      split
      · exact holds
      · exact kept.put (kept.setReaders holds _ _) rfl
  | write =>
      unfold CacheThreads.lock
      dsimp only
      split
      · exact kept.put (kept.setWriter holds _ _) rfl
      · exact holds

private theorem unlock (kept : Kept Invariant) (holds : Invariant state) (manager : Nat)
    (mode : LockMode) : Invariant (state.unlock thread manager mode) := by
  cases mode with
  | read => exact kept.put (kept.setReaders holds _ _) rfl
  | write => exact kept.put (kept.setWriter holds _ _) rfl

theorem clientStep (kept : Kept Invariant) (holds : Invariant state) (act : ClientStep) :
    Invariant (state.clientStep thread act) := by
  cases act with
  | removePage index => exact kept.remove holds _ _ _
  | removeDirty index => exact kept.remove holds _ _ _
  | discard manager index =>
      exact kept.remove holds CacheManager.removePage index (some manager)
  | resume =>
      simp only [CacheThreads.clientStep]
      split
      · exact kept.resume holds
      · exact holds
  | lock manager mode =>
      simp only [CacheThreads.clientStep]
      split
      · exact kept.lock holds manager mode
      · exact holds
  | unlock =>
      simp only [CacheThreads.clientStep]
      split
      · exact kept.unlock holds _ _
      · exact holds
  | informPage index capacity dirty canWait mgrLock =>
      simp only [CacheThreads.clientStep]
      split
      · split
        · exact kept.informPage holds capacity dirty
        · exact holds
      · exact holds
  | resizePage index newSize mgrLock =>
      simp only [CacheThreads.clientStep]
      split
      · split
        · exact kept.resizePage holds newSize
        · exact holds
      · exact holds
  | measure dirtyLimit =>
      simp only [CacheThreads.clientStep]
      split
      · exact kept.measure holds dirtyLimit
      · exact holds
  | relock =>
      simp only [CacheThreads.clientStep]
      split
      · split
        · exact kept.handle holds fun _ => kept.next
        · exact holds
      · exact holds
  | fail =>
      simp only [CacheThreads.clientStep]
      split
      · exact kept.leaveCall holds
      · exact holds
  | wake =>
      simp only [CacheThreads.clientStep]
      split
      · exact kept.put holds rfl
      · exact holds

private theorem move (kept : Kept Invariant) (holds : Invariant state) {old place : Place}
    (placed : state.places cleaner = old) (running : old.isRunning = true)
    (unlocked : place.isLocking = false) (awake : place.isSettled = false) :
    Invariant (state.goTo cleaner place) :=
  kept.goTo holds placed running unlocked fun settled => by
    rw [awake] at settled
    cases settled

private theorem cleanerNext (kept : Kept Invariant) (holds : Invariant state) :
    Invariant (state.cleanerNext cleaner) := by
  unfold CacheThreads.cleanerNext
  cases placed : state.places cleaner with
  | starting | awake =>
      dsimp only
      split
      · exact kept.move holds placed rfl rfl rfl
      · exact holds
  | checking =>
      dsimp only
      split
      · next stays =>
        have runs := (Bool.and_eq_true_iff.mp stays).1
        exact kept.goTo holds placed rfl rfl fun _ => .inl runs
      · exact kept.move holds placed rfl rfl rfl
  | settling => exact kept.goTo (kept.notifyWaiters holds) placed rfl rfl fun _ => .inr rfl
  | leaving =>
      dsimp only
      split
      · exact kept.move holds placed rfl rfl rfl
      · exact kept.move holds placed rfl rfl rfl
  | cleaning left =>
      cases left with
      | nil => exact kept.move holds placed rfl rfl rfl
      | cons entry left =>
          dsimp only
          split
          · exact kept.announce holds placed rfl
          · exact holds
  | locking manager pages left =>
      dsimp only
      split
      · exact kept.move (kept.setWriter holds _ _) placed rfl rfl rfl
      · exact holds
  | locked manager pages left =>
      dsimp only
      split
      · exact kept.unannounce holds placed rfl
      · exact holds
  | working manager pages left =>
      cases pages with
      | nil => exact kept.move (kept.notifyWaiters holds) placed rfl rfl rfl
      | cons page pages => exact holds
  | unlocking manager left => exact kept.move (kept.setWriter holds _ _) placed rfl rfl rfl
  | absent | asleep | choosing | ended => exact holds

private theorem failPage (kept : Kept Invariant) (holds : Invariant state) {old : Place}
    (placed : state.places cleaner = old) (running : old.isRunning = true) (info : PageInfo)
    (capacity : Nat) (dirty : Bool) :
    Invariant (state.failPage cleaner info capacity dirty) := by
  cases cleaner with
  | evict =>
      exact kept.move (kept.notifyWaiters (kept.setFailure (kept.withCache holds _) _)) placed
        running rfl rfl
  | flush => exact kept.move (kept.notifyWaiters (kept.setFailure holds _)) placed running rfl rfl

theorem cleanerStep (kept : Kept Invariant) (holds : Invariant state) (act : CleanerStep) :
    Invariant (state.cleanerStep cleaner act) := by
  cases act with
  | next => exact kept.cleanerNext holds
  | choose alive =>
      simp only [CacheThreads.cleanerStep]
      split
      · next placed =>
        split
        · exact kept.move (kept.withCache holds _) placed rfl rfl rfl
        · exact holds
      · exact holds
  | removePage index => exact kept.remove holds _ _ _
  | removeDirty index => exact kept.remove holds _ _ _
  | measure dirtyLimit =>
      simp only [CacheThreads.cleanerStep]
      split
      · exact kept.measure holds dirtyLimit
      · exact holds
  | finishPage =>
      simp only [CacheThreads.cleanerStep]
      split
      · next placed => exact kept.move holds placed rfl rfl rfl
      · exact holds
  | failPage capacity dirty =>
      simp only [CacheThreads.cleanerStep]
      split
      · next placed =>
        split
        · exact kept.failPage holds placed rfl _ _ _
        · exact holds
      · exact holds
  | wake => exact kept.notifyThread holds

end Kept

end CacheThreads

end Andromeda.Cleanup
