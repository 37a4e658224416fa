import Andromeda.Cleanup.StepProperties

/-! The cleanup threads and the threads that use the cache manager do not wait for each other. -/

set_option autoImplicit false

namespace Andromeda.Cleanup

open FileData (CacheManager PageInfo)

namespace CacheThreads

variable {τ : Type} {state : CacheThreads τ} {cleaner : Cleaner} {thread : τ} {call : Call}
  {rest : Rest}

/-- A cleanup thread that waits for the lock of a page manager has named this manager, and no
thread is asleep that has the lock of a named manager. -/
structure Safe (state : CacheThreads τ) : Prop where
  announced {cleaner : Cleaner} {manager : Nat} {pages : List PageInfo} {left : PageMap} :
    state.places cleaner = .locking manager pages left → state.skipWait cleaner = some manager
  alerted {thread : τ} {waited : Cleaner} {call : Call} {rest : Rest} :
    state.clients thread = .waiting waited call rest false →
      state.shouldSkipWait call.manager = false

private theorem safe_init (memoryLimit evictSizeFrac : Nat) :
    (init memoryLimit evictSizeFrac : CacheThreads τ).Safe where
  announced placed := by cases placed
  alerted waiting := by cases waiting

private theorem shouldSkipWait_iff {manager : Nat} :
    state.shouldSkipWait manager = true ↔ ∃ cleaner, state.skipWait cleaner = some manager := by
  simp only [shouldSkipWait, Bool.or_eq_true, decide_eq_true_eq]
  constructor
  · intro named
    cases named with
    | inl named => exact ⟨.evict, named⟩
    | inr named => exact ⟨.flush, named⟩
  · intro named
    obtain ⟨cleaner, named⟩ := named
    cases cleaner with
    | evict => exact .inl named
    | flush => exact .inr named

private theorem Safe.frame (safe : state.Safe) {other : CacheThreads τ}
    (places : other.places = state.places) (clients : other.clients = state.clients)
    (skipWait : other.skipWait = state.skipWait) : other.Safe where
  announced placed := by
    rw [places] at placed
    rw [skipWait]
    exact safe.announced placed
  alerted waiting := by
    rw [clients] at waiting
    have alerted := safe.alerted waiting
    simp only [shouldSkipWait, skipWait] at alerted ⊢
    exact alerted

private theorem Safe.goTo (safe : state.Safe) {place : Place}
    (elsewhere : place.isLocking = false) :
    (state.goTo cleaner place).Safe where
  announced {other manager pages left} placed := by
    simp only [CacheThreads.goTo] at placed
    cases decEq other cleaner with
    | isTrue same =>
        rw [same, Function.update_self] at placed
        rw [placed] at elsewhere
        cases elsewhere
    | isFalse different =>
        rw [Function.update_of_ne different] at placed
        exact safe.announced placed
  alerted waiting := safe.alerted waiting

private theorem Safe.notifyThread (safe : state.Safe) : (state.notifyThread cleaner).Safe := by
  unfold CacheThreads.notifyThread
  split
  · exact safe.goTo rfl
  · exact safe

private theorem waiting_of_notify {client : Client} {waited : Cleaner}
    (waiting : client.notify cleaner = .waiting waited call rest false) :
    client = .waiting waited call rest false ∧ waited ≠ cleaner := by
  cases client with
  | waiting other otherCall otherRest notified =>
      simp only [Client.notify, Client.waiting.injEq, Bool.or_eq_false_iff,
        decide_eq_false_iff_not] at waiting
      obtain ⟨rfl, rfl, rfl, rfl, different⟩ := waiting
      exact ⟨rfl, different⟩
  | idle | holding _ _ | synchronous _ _ _ => cases waiting

private theorem Safe.notifyWaiters (safe : state.Safe) : (state.notifyWaiters cleaner).Safe where
  announced placed := safe.announced placed
  alerted waiting := safe.alerted (waiting_of_notify waiting).1

private theorem Safe.announce (safe : state.Safe) (manager : Nat) (pages : List PageInfo)
    (left : PageMap) : (state.announce cleaner manager pages left).Safe where
  announced {other otherManager otherPages otherLeft} placed := by
    simp only [CacheThreads.announce, CacheThreads.goTo] at placed ⊢
    cases decEq other cleaner with
    | isTrue same =>
        rw [same, Function.update_self] at placed
        injection placed with named
        show Function.update _ _ _ other = _
        rw [same, Function.update_self, named]
    | isFalse different =>
        rw [Function.update_of_ne different] at placed
        show Function.update _ _ _ other = _
        rw [Function.update_of_ne different]
        exact safe.announced placed
  alerted {_ waited _ _} waiting := by
    have notFlush := waiting_of_notify waiting
    have notEvict := waiting_of_notify notFlush.1
    cases waited with
    | evict => exact absurd rfl notEvict.2
    | flush => exact absurd rfl notFlush.2

private theorem Safe.unannounce (safe : state.Safe) (manager : Nat) (pages : List PageInfo)
    (left : PageMap) : (state.unannounce cleaner manager pages left).Safe where
  announced {other otherManager otherPages otherLeft} placed := by
    simp only [CacheThreads.unannounce, CacheThreads.goTo] at placed ⊢
    cases decEq other cleaner with
    | isTrue same =>
        rw [same, Function.update_self] at placed
        cases placed
    | isFalse different =>
        rw [Function.update_of_ne different] at placed ⊢
        exact safe.announced placed
  alerted {_ _ call _} waiting := by
    have alerted := safe.alerted waiting
    cases named : shouldSkipWait _ call.manager with
    | false => rfl
    | true =>
        obtain ⟨other, named⟩ := shouldSkipWait_iff.mp named
        simp only [CacheThreads.unannounce, CacheThreads.goTo] at named
        have kept : state.skipWait other = some call.manager := by
          cases decEq other cleaner with
          | isTrue same =>
              rw [same, Function.update_self] at named
              cases named
          | isFalse different => rwa [Function.update_of_ne different] at named
        rw [shouldSkipWait_iff.mpr ⟨other, kept⟩] at alerted
        cases alerted

private theorem Safe.startThread (safe : state.Safe) : (state.startThread cleaner).Safe := by
  unfold CacheThreads.startThread
  split
  · exact safe
  · have started : (state.goTo cleaner .starting).Safe := safe.goTo rfl
    exact started.frame rfl rfl rfl

private theorem Safe.startThreads (safe : state.Safe) : state.startThreads.Safe := by
  unfold CacheThreads.startThreads
  split
  · exact safe.startThread.startThread
  · exact safe

private theorem Safe.destroy (safe : state.Safe) : state.destroy.Safe := by
  unfold CacheThreads.destroy
  cases state.destructor with
  | outside => exact safe.frame rfl rfl rfl
  | notifying cleaner =>
      dsimp only
      split
      · have notified : (state.notifyThread cleaner).Safe := safe.notifyThread
        exact notified.frame rfl rfl rfl
      · exact safe.frame rfl rfl rfl
  | joining cleaner =>
      dsimp only
      split
      · exact safe.frame rfl rfl rfl
      · exact safe
  | done => exact safe

section

variable [DecidableEq τ]

private theorem Safe.put (safe : state.Safe) {client : Client} (awake : client.isAsleep = false) :
    (state.put thread client).Safe where
  announced placed := safe.announced placed
  alerted {other _ _ _} waiting := by
    simp only [CacheThreads.put] at waiting
    cases decEq other thread with
    | isTrue same =>
        rw [same, Function.update_self] at waiting
        rw [waiting] at awake
        cases awake
    | isFalse different =>
        rw [Function.update_of_ne different] at waiting
        exact safe.alerted waiting

private theorem Safe.sleep (safe : state.Safe)
    (unnamed : state.shouldSkipWait call.manager = false) :
    (state.put thread (.waiting cleaner call rest false)).Safe where
  announced placed := safe.announced placed
  alerted {other _ _ _} waiting := by
    simp only [CacheThreads.put] at waiting
    cases decEq other thread with
    | isTrue same =>
        rw [same, Function.update_self] at waiting
        cases waiting
        exact unnamed
    | isFalse different =>
        rw [Function.update_of_ne different] at waiting
        exact safe.alerted waiting

private theorem kept_safe : Kept (fun state : CacheThreads τ => state.Safe) where
  frame _ _ _ _ safe := safe.frame rfl rfl rfl
  put safe awake := safe.put awake
  sleep safe unnamed := safe.sleep unnamed
  notifyThread safe := safe.notifyThread
  notifyWaiters safe := safe.notifyWaiters
  goTo safe _ _ elsewhere _ := safe.goTo elsewhere
  announce safe _ _ := safe.announce _ _ _
  unannounce safe _ _ := safe.unannounce _ _ _

private theorem Safe.step (safe : state.Safe) (action : Action τ) : (state.step action).Safe := by
  cases action with
  | startThreads => exact safe.startThreads
  | client thread act => exact kept_safe.clientStep safe act
  | cleaner cleaner act => exact kept_safe.cleanerStep safe act
  | destroy => exact safe.destroy

private theorem Safe.run (safe : state.Safe) (actions : List (Action τ)) :
    (state.run actions).Safe := by
  induction actions generalizing state with
  | nil => exact safe
  | cons action rest ih => exact ih (safe.step action)

private theorem isWaiting_leaveCall :
    ((leaveCall thread call state).clients thread).isWaiting = false := by
  simp only [CacheThreads.leaveCall, CacheThreads.put, Function.update_self, Client.isWaiting]

private theorem isWaiting_awaitCleanup (named : state.shouldSkipWait call.manager = true)
    {next : CacheThreads τ → CacheThreads τ}
    (proceeds : ((next state).clients thread).isWaiting = false) :
    ((awaitCleanup cleaner thread call rest next state).clients thread).isWaiting = false := by
  unfold awaitCleanup
  cases awaited : state.shouldAwait cleaner call.manager with
  | proceeds => exact proceeds
  | throws => exact isWaiting_leaveCall
  | sleeps =>
      rw [Kept.shouldSkipWait_of_sleeps awaited] at named
      cases named

private theorem isWaiting_handle (named : state.shouldSkipWait call.manager = true)
    {next : CacheThreads τ → CacheThreads τ}
    (proceeds : ∀ state, ((next state).clients thread).isWaiting = false) :
    ((handle cleaner thread call rest next state).clients thread).isWaiting = false := by
  unfold handle
  split
  · simp only [CacheThreads.put, Function.update_self, Client.isWaiting]
  · split
    · split
      · refine isWaiting_awaitCleanup ?_ (proceeds _)
        exact named
      · split
        · exact proceeds _
        · exact proceeds _
    · exact proceeds _

private theorem isWaiting_afterMemory (named : state.shouldSkipWait call.manager = true) :
    ((afterMemory thread call state rest).clients thread).isWaiting = false := by
  cases rest with
  | done => exact isWaiting_leaveCall
  | handleDirty => exact isWaiting_handle named fun _ => isWaiting_leaveCall
  | resizeDirty newSize =>
      unfold afterMemory
      dsimp only
      split
      · exact isWaiting_leaveCall
      · split
        · refine isWaiting_handle ?_ fun _ => isWaiting_leaveCall
          exact named
        · exact isWaiting_leaveCall

private theorem isWaiting_resume {waited : Cleaner}
    (waiting : state.clients thread = .waiting waited call rest true)
    (named : state.shouldSkipWait call.manager = true) :
    ((state.resume thread).clients thread).isWaiting = false := by
  simp only [CacheThreads.resume, waiting]
  refine isWaiting_awaitCleanup named ?_
  cases waited with
  | evict => exact isWaiting_afterMemory named
  | flush => exact isWaiting_leaveCall

/-- A cleanup thread waits for the lock of a page manager, and a thread that has it is in the
wait of `HandleMemory` or `HandleDirtyMemory` without a notification that lets it go on. -/
def Deadlocked (state : CacheThreads τ) : Prop :=
  ∃ cleaner manager pages left thread waited call rest notified,
    state.places cleaner = .locking manager pages left ∧
      state.clients thread = .waiting waited call rest notified ∧ call.manager = manager ∧
        ¬ (notified = true ∧ ((state.resume thread).clients thread).isWaiting = false)

private theorem Safe.not_deadlocked (safe : state.Safe) : ¬ state.Deadlocked := by
  intro deadlocked
  obtain ⟨cleaner, manager, pages, left, thread, waited, call, rest, notified, locking, waiting,
    rfl, stuck⟩ := deadlocked
  have named := shouldSkipWait_iff.mpr ⟨cleaner, safe.announced locking⟩
  cases notified with
  | false =>
      rw [safe.alerted waiting] at named
      cases named
  | true => exact stuck ⟨rfl, isWaiting_resume waiting named⟩

/-- In no order of their steps do the cleanup threads and the threads that use the cache manager
deadlock. -/
theorem run_undeadlocked (memoryLimit evictSizeFrac : Nat) (actions : List (Action τ)) :
    ¬ ((init memoryLimit evictSizeFrac).run actions).Deadlocked :=
  ((safe_init memoryLimit evictSizeFrac).run actions).not_deadlocked

end

/-- A reader sleeps over the limit until the evict thread wants the lock it reads under. -/
example :
    let actions : List (Action Unit) :=
      [.startThreads, .client () (.lock 0 .read), .client () (.informPage 0 20 false true false),
        .cleaner .evict .next, .cleaner .evict .next, .cleaner .evict .next,
        .cleaner .evict (.choose fun _ => true)]
    let reached := (init 10 2).run actions
    (reached.clients ()).isAsleep = true ∧
      ((reached.step (.cleaner .evict .next)).places .evict).isLocking = true ∧
      ((reached.step (.cleaner .evict .next)).clients ()).isAsleep = false ∧
      ((reached.step (.cleaner .evict .next)).step (.client () .resume)).clients () =
        .holding 0 .read := by
  decide

end CacheThreads

end Andromeda.Cleanup
