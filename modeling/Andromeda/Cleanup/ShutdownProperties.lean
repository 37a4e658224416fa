import Andromeda.Cleanup.StepProperties
import Andromeda.Library.Run

/-! What `~CacheManager` and its cleanup threads do in any order: a thread sleeps through the
end exactly if the destructor notifies it between its load of `mRunCleanup` and its wait. -/

set_option autoImplicit false

namespace Andromeda.Cleanup

/-- Between the start of the thread and its end. -/
def Place.isStarted : Place → Bool
  | absent | ended => false
  | _ => true

private theorem Place.isStarted_of_isRunning {place : Place} (running : place.isRunning = true) :
    place.isStarted = true := by
  cases place with
  | absent | asleep | ended => cases running
  | _ => rfl

/-- Whether the destructor has sent its one notification to this thread. -/
def Destructor.hasNotified : Destructor → Cleaner → Bool
  | joining .evict, .evict | notifying .flush, .evict | joining .flush, _ | done, _ => true
  | _, _ => false

private theorem Destructor.hasNotified_joining (cleaner other : Cleaner) :
    (joining cleaner).hasNotified other =
      (decide (other = cleaner) || (notifying cleaner).hasNotified other) := by
  cases cleaner <;> cases other <;> rfl

private theorem Destructor.hasNotified_after (cleaner other : Cleaner) :
    (after cleaner).hasNotified other = (joining cleaner).hasNotified other := by
  cases cleaner <;> cases other <;> rfl

private theorem Place.isStarted_of_isSettled {place : Place} (settled : place.isSettled = true) :
    place.isStarted = true := by
  cases place with
  | settling | asleep => rfl
  | _ => cases settled

namespace CacheThreads

variable {τ : Type} {state : CacheThreads τ} {cleaner : Cleaner}

/-- The threads are told to stop, and one of them is asleep or about to be, with its
notification behind it. -/
def Stranded (state : CacheThreads τ) : Prop :=
  ∃ cleaner, state.runCleanup = false ∧ state.destructor.hasNotified cleaner = true ∧
    (state.places cleaner).isSettled = true

/-- The destructor does not notify a thread between its load of `mRunCleanup` and its wait. -/
def Clear (state : CacheThreads τ) (action : Action τ) : Prop :=
  match action with
  | .destroy => ∀ cleaner, state.destructor = .notifying cleaner →
      state.places cleaner ≠ .settling
  | _ => True

/-- The threads are joinable, run until the destructor tells them to stop, and none sleeps after
its notification. -/
structure Alert (state : CacheThreads τ) : Prop where
  told : state.destructor = .outside ∨ state.runCleanup = false
  started {cleaner : Cleaner} : (state.places cleaner).isStarted = true →
    state.joinable cleaner = true
  reached {cleaner : Cleaner} : state.destructor.hasNotified cleaner = true →
    (state.places cleaner).isSettled = false

private theorem alert_init (memoryLimit evictSizeFrac : Nat) :
    (init memoryLimit evictSizeFrac : CacheThreads τ).Alert where
  told := .inl rfl
  started started := by cases started
  reached notified := by cases notified

private theorem Alert.not_stranded (alert : state.Alert) : ¬ state.Stranded := by
  intro stranded
  obtain ⟨cleaner, _, notified, settled⟩ := stranded
  rw [alert.reached notified] at settled
  cases settled

private theorem Alert.goTo (alert : state.Alert) {old place : Place}
    (placed : state.places cleaner = old) (joinable : state.joinable cleaner = true)
    (settles : place.isSettled = true → state.runCleanup = true ∨ old.isSettled = true) :
    (state.goTo cleaner place).Alert where
  told := alert.told
  started {other} started := by
    cases decEq other cleaner with
    | isTrue same =>
        rw [same]
        exact joinable
    | isFalse different =>
        simp only [CacheThreads.goTo, Function.update_of_ne different] at started
        exact alert.started started
  reached {other} notified := by
    cases decEq other cleaner with
    | isFalse different =>
        simp only [CacheThreads.goTo, Function.update_of_ne different]
        exact alert.reached notified
    | isTrue same =>
        subst same
        simp only [CacheThreads.goTo, Function.update_self]
        cases settled : place.isSettled with
        | false => rfl
        | true =>
            cases settles settled with
            | inl runs =>
                cases alert.told with
                | inl outside =>
                    rw [show (state.goTo other place).destructor = .outside from outside]
                      at notified
                    cases notified
                | inr stopped =>
                    rw [stopped] at runs
                    cases runs
            | inr settledBefore =>
                have awake := alert.reached notified
                rw [placed, settledBefore] at awake
                cases awake

private theorem Alert.frame (alert : state.Alert) {other : CacheThreads τ}
    (destructor : other.destructor = state.destructor)
    (runCleanup : other.runCleanup = state.runCleanup)
    (joinable : other.joinable = state.joinable) (places : other.places = state.places) :
    other.Alert where
  told := by
    rw [destructor, runCleanup]
    exact alert.told
  started started := by
    rw [joinable]
    rw [places] at started
    exact alert.started started
  reached notified := by
    rw [places]
    rw [destructor] at notified
    exact alert.reached notified

private theorem Alert.notifyThread (alert : state.Alert) : (state.notifyThread cleaner).Alert := by
  unfold CacheThreads.notifyThread
  split
  · next asleep =>
    have started : (state.places cleaner).isStarted = true := by
      rw [asleep]
      rfl
    exact alert.goTo asleep (alert.started started) fun _ => .inr rfl
  · exact alert

section

variable [DecidableEq τ]

private theorem kept_alert : Kept (fun state : CacheThreads τ => state.Alert) where
  frame _ _ _ _ alert := alert.frame rfl rfl rfl rfl
  put alert _ := alert.frame rfl rfl rfl rfl
  sleep alert _ := alert.frame rfl rfl rfl rfl
  notifyThread alert := alert.notifyThread
  notifyWaiters alert := alert.frame rfl rfl rfl rfl
  goTo {state cleaner old place} alert placed running _ settles := by
    have started : (state.places cleaner).isStarted = true := by
      rw [placed]
      exact Place.isStarted_of_isRunning running
    exact alert.goTo placed (alert.started started) settles
  announce {state cleaner old manager pages left} alert placed running := by
    have started : (state.places cleaner).isStarted = true := by
      rw [placed]
      exact Place.isStarted_of_isRunning running
    have moved : (state.goTo cleaner (.locking manager pages left)).Alert :=
      alert.goTo placed (alert.started started) nofun
    exact moved.frame rfl rfl rfl rfl
  unannounce {state cleaner old manager pages left} alert placed running := by
    have started : (state.places cleaner).isStarted = true := by
      rw [placed]
      exact Place.isStarted_of_isRunning running
    have moved : (state.goTo cleaner (.working manager pages left)).Alert :=
      alert.goTo placed (alert.started started) nofun
    exact moved.frame rfl rfl rfl rfl

end

private theorem Alert.startThread (alert : state.Alert) (outside : state.destructor = .outside) :
    (state.startThread cleaner).Alert ∧ (state.startThread cleaner).destructor = .outside := by
  unfold CacheThreads.startThread
  split
  · exact ⟨alert, outside⟩
  · refine ⟨⟨.inl outside, fun {other} started => ?_, fun notified => ?_⟩, outside⟩
    · cases decEq other cleaner with
      | isTrue same =>
          rw [same]
          exact Function.update_self _ _ _
      | isFalse different =>
          simp only [CacheThreads.goTo, Function.update_of_ne different] at started ⊢
          exact alert.started started
    · rw [show (CacheThreads.goTo state cleaner .starting).destructor = .outside from outside]
        at notified
      cases notified

private theorem Alert.startThreads (alert : state.Alert) : state.startThreads.Alert := by
  unfold CacheThreads.startThreads
  split
  · next outside =>
    have evict : (state.startThread .evict).Alert ∧
        (state.startThread .evict).destructor = .outside := alert.startThread outside
    exact (evict.1.startThread evict.2).1
  · exact alert

private theorem Alert.awake_of_joining (alert : state.Alert)
    (destructor : state.destructor = .notifying cleaner)
    (awake : (state.places cleaner).isSettled = false) {other : Cleaner}
    (notified : (Destructor.joining cleaner).hasNotified other = true) :
    (state.places other).isSettled = false := by
  rw [Destructor.hasNotified_joining, Bool.or_eq_true, decide_eq_true_eq] at notified
  cases notified with
  | inl same =>
      rw [same]
      exact awake
  | inr before =>
      rw [← destructor] at before
      exact alert.reached before

private theorem isSettled_notifyThread (clear : state.places cleaner ≠ .settling) :
    ((state.notifyThread cleaner).places cleaner).isSettled = false := by
  unfold CacheThreads.notifyThread
  split
  · simp only [CacheThreads.goTo, Function.update_self, Place.isSettled]
  · next notAsleep =>
    cases placed : state.places cleaner with
    | settling => exact absurd placed clear
    | asleep => exact absurd placed notAsleep
    | _ => rfl

private theorem destructor_notifyThread :
    (state.notifyThread cleaner).destructor = state.destructor := by
  unfold CacheThreads.notifyThread
  split <;> rfl

private theorem runCleanup_notifyThread :
    (state.notifyThread cleaner).runCleanup = state.runCleanup := by
  unfold CacheThreads.notifyThread
  split <;> rfl

private theorem Alert.destroy (alert : state.Alert) (clear : state.Clear .destroy) :
    state.destroy.Alert := by
  unfold CacheThreads.destroy
  cases destructor : state.destructor with
  | outside => exact ⟨.inr rfl, alert.started, nofun⟩
  | notifying cleaner =>
      have stopped : state.runCleanup = false := by
        refine alert.told.resolve_left fun outside => ?_
        rw [destructor] at outside
        cases outside
      dsimp only
      split
      · have notified : (state.notifyThread cleaner).Alert := alert.notifyThread
        have awake := isSettled_notifyThread (clear cleaner destructor)
        have same : (state.notifyThread cleaner).destructor = .notifying cleaner :=
          destructor_notifyThread.trans destructor
        refine ⟨.inr ?_, notified.started, notified.awake_of_joining same awake⟩
        exact runCleanup_notifyThread.trans stopped
      · next absent =>
        refine ⟨.inr stopped, alert.started, fun reached => ?_⟩
        rw [Destructor.hasNotified_after] at reached
        refine alert.awake_of_joining destructor ?_ reached
        cases settled : (state.places cleaner).isSettled with
        | false => rfl
        | true => exact absurd (alert.started (Place.isStarted_of_isSettled settled)) absent
  | joining cleaner =>
      dsimp only
      split
      · next ended =>
        refine ⟨alert.told.imp (fun outside => ?_) id, fun {other} started => ?_,
          fun reached => ?_⟩
        · rw [destructor] at outside
          cases outside
        · cases decEq other cleaner with
          | isTrue same =>
              rw [same, ended] at started
              cases started
          | isFalse different =>
              simp only [Function.update_of_ne different]
              exact alert.started started
        · rw [Destructor.hasNotified_after, ← destructor] at reached
          exact alert.reached reached
      · exact alert
  | done => exact alert

section

variable [DecidableEq τ]

private theorem Alert.step (alert : state.Alert) {action : Action τ} (clear : state.Clear action) :
    (state.step action).Alert := by
  cases action with
  | startThreads => exact alert.startThreads
  | client thread act => exact kept_alert.clientStep alert act
  | cleaner cleaner act => exact kept_alert.cleanerStep alert act
  | destroy => exact alert.destroy clear

private theorem stranded_of_not_clear (alert : state.Alert) {action : Action τ}
    (lost : ¬ state.Clear action) : (state.step action).Stranded := by
  cases action with
  | startThreads | client _ _ | cleaner _ _ => exact absurd trivial lost
  | destroy =>
      simp only [Clear, not_forall, ne_eq, Decidable.not_not] at lost
      obtain ⟨cleaner, destructor, settling⟩ := lost
      have stopped : state.runCleanup = false := by
        refine alert.told.resolve_left fun outside => ?_
        rw [destructor] at outside
        cases outside
      have joinable : state.joinable cleaner = true := by
        refine alert.started ?_
        rw [settling]
        rfl
      have stays : state.notifyThread cleaner = state := by
        simp only [CacheThreads.notifyThread, settling, reduceCtorEq, if_false]
      refine ⟨cleaner, ?_, ?_, ?_⟩
      · simp only [CacheThreads.step, CacheThreads.destroy, destructor, joinable, if_true, stays,
          stopped]
      · simp only [CacheThreads.step, CacheThreads.destroy, destructor, joinable, if_true,
          Destructor.hasNotified_joining, decide_true, Bool.true_or]
      · simp only [CacheThreads.step, CacheThreads.destroy, destructor, joinable, if_true, stays,
          settling, Place.isSettled]

/-- In every order of the steps, no thread sleeps through the end in any state of a run exactly
if the destructor never notifies a thread between its load of `mRunCleanup` and its wait. -/
theorem run_joins_iff (memoryLimit evictSizeFrac : Nat) (actions : List (Action τ)) :
    (∀ done left, actions = done ++ left → ¬ ((init memoryLimit evictSizeFrac).run done).Stranded) ↔
      Library.EachStep step Clear (init memoryLimit evictSizeFrac) actions := by
  suffices each : ∀ state : CacheThreads τ, state.Alert →
      ((∀ done left, actions = done ++ left → ¬ (state.run done).Stranded) ↔
        Library.EachStep step Clear state actions) from
    each _ (alert_init memoryLimit evictSizeFrac)
  intro state alert
  induction actions generalizing state with
  | nil =>
      refine ⟨fun _ => trivial, fun _ done left split => ?_⟩
      rw [(List.append_eq_nil_iff.mp split.symm).1]
      exact alert.not_stranded
  | cons action rest ih =>
      constructor
      · intro never
        have clear : state.Clear action := by
          by_contra lost
          exact never [action] rest rfl (stranded_of_not_clear alert lost)
        refine ⟨clear, (ih _ (alert.step clear)).mp fun done left split => ?_⟩
        exact never (action :: done) left (by rw [split, List.cons_append])
      · intro each done left split
        cases done with
        | nil => exact alert.not_stranded
        | cons first done =>
            rw [List.cons_append, List.cons.injEq] at split
            obtain ⟨rfl, split⟩ := split
            exact (ih _ (alert.step each.1)).mpr each.2 done left split

end

private theorem cleanerStep_frame {other : Cleaner} (different : other ≠ cleaner)
    (act : CleanerStep) :
    (state.cleanerStep cleaner act).places other = state.places other ∧
      (state.cleanerStep cleaner act).destructor = state.destructor := by
  have moved (changed : CacheThreads τ) (place : Place) :
      (changed.goTo cleaner place).places other = changed.places other ∧
        (changed.goTo cleaner place).destructor = changed.destructor :=
    ⟨Function.update_of_ne different _ _, rfl⟩
  have removed (removal : FileData.CacheManager → Nat → Nat → FileData.CacheManager)
      (index : Nat) (manager : Option Nat) :
      (state.remove removal index manager).places other = state.places other ∧
        (state.remove removal index manager).destructor = state.destructor := by
    cases manager with
    | none => exact ⟨rfl, rfl⟩
    | some manager =>
        simp only [CacheThreads.remove]
        split <;> exact ⟨rfl, rfl⟩
  cases act with
  | next =>
      simp only [CacheThreads.cleanerStep, CacheThreads.cleanerNext]
      repeat' split
      all_goals first
        | exact ⟨rfl, rfl⟩
        | exact moved _ _
  | choose alive =>
      simp only [CacheThreads.cleanerStep]
      repeat' split
      all_goals first
        | exact ⟨rfl, rfl⟩
        | exact moved _ _
  | removePage index => exact removed _ _ _
  | removeDirty index => exact removed _ _ _
  | measure dirtyLimit =>
      simp only [CacheThreads.cleanerStep, CacheThreads.measure]
      repeat' split
      all_goals exact ⟨rfl, rfl⟩
  | finishPage =>
      simp only [CacheThreads.cleanerStep]
      split
      · exact moved _ _
      · exact ⟨rfl, rfl⟩
  | failPage capacity dirty =>
      simp only [CacheThreads.cleanerStep, CacheThreads.failPage]
      repeat' split
      all_goals first
        | exact ⟨rfl, rfl⟩
        | exact moved _ _
  | wake =>
      simp only [CacheThreads.cleanerStep, CacheThreads.notifyThread]
      split
      · exact moved _ _
      · exact ⟨rfl, rfl⟩

private theorem cleanerStep_asleep (asleep : state.places cleaner = .asleep) (act : CleanerStep)
    (notified : act ≠ .wake) : state.cleanerStep cleaner act = state := by
  have idle : state.workingOn cleaner = none := by simp only [workingOn, asleep]
  cases act with
  | next => simp only [CacheThreads.cleanerStep, CacheThreads.cleanerNext, asleep]
  | choose alive => simp only [CacheThreads.cleanerStep, asleep]
  | removePage index => simp only [CacheThreads.cleanerStep, idle, CacheThreads.remove]
  | removeDirty index => simp only [CacheThreads.cleanerStep, idle, CacheThreads.remove]
  | measure dirtyLimit =>
      cases cleaner <;> simp only [CacheThreads.cleanerStep, idle]
  | finishPage => simp only [CacheThreads.cleanerStep, asleep]
  | failPage capacity dirty => simp only [CacheThreads.cleanerStep, asleep]
  | wake => exact absurd rfl notified

/-- A step of the cleanup threads or of the destructor, but for a wakeup without a
notification. -/
def Notified : Action τ → Prop
  | .client _ _ | .cleaner _ .wake => False
  | _ => True

private theorem run_joining [DecidableEq τ] {actions : List (Action τ)}
    (asleep : state.places cleaner = .asleep) (joining : state.destructor = .joining cleaner)
    (notified : ∀ action ∈ actions, Notified action) :
    (state.run actions).destructor = .joining cleaner := by
  induction actions generalizing state with
  | nil => exact joining
  | cons action rest ih =>
      have later : ∀ action ∈ rest, Notified action := fun action member =>
        notified action (List.mem_cons_of_mem _ member)
      suffices same : (state.step action).places cleaner = .asleep ∧
          (state.step action).destructor = .joining cleaner from ih same.1 same.2 later
      cases action with
      | startThreads =>
          simp only [CacheThreads.step, CacheThreads.startThreads, joining, asleep, and_self]
      | client thread act => exact (notified _ List.mem_cons_self).elim
      | cleaner other act =>
          cases decEq cleaner other with
          | isFalse different =>
              have frame : (state.cleanerStep other act).places cleaner = state.places cleaner ∧
                  (state.cleanerStep other act).destructor = state.destructor :=
                cleanerStep_frame different act
              exact ⟨frame.1.trans asleep, frame.2.trans joining⟩
          | isTrue same =>
              subst same
              have stays : state.cleanerStep cleaner act = state :=
                cleanerStep_asleep asleep act fun woken => by
                  subst woken
                  exact notified _ List.mem_cons_self
              rw [show state.step (.cleaner cleaner act) = state from stays]
              exact ⟨asleep, joining⟩
      | destroy =>
          simp only [CacheThreads.step, CacheThreads.destroy, joining, asleep, reduceCtorEq,
            if_false, and_self]

/-- The evict thread is notified between its load of `mRunCleanup` and its wait, and the
destructor never returns. -/
theorem lost_notification :
    let actions : List (Action Unit) :=
      [.startThreads, .cleaner .evict .next, .cleaner .evict .next, .destroy, .destroy,
        .cleaner .evict .next]
    let reached := (init 10 2).run actions
    reached.Stranded ∧ ∀ later, (∀ action ∈ later, Notified action) →
      (reached.run later).destructor = .joining .evict := by
  intro actions reached
  have asleep : reached.places .evict = .asleep := by decide
  have joining : reached.destructor = .joining .evict := by decide
  refine ⟨⟨.evict, by decide, ?_, ?_⟩, fun later => run_joining asleep joining⟩
  · rw [joining]
    rfl
  · rw [asleep]
    rfl

end CacheThreads

end Andromeda.Cleanup
