import Andromeda.FileData.CacheLimits
import Andromeda.FileData.PageFlushProperties

/-! The cache manager's entry points: enforcing a limit is a sequence of
write-back steps, and its loops end. -/

set_option autoImplicit false

namespace Andromeda.FileData

open Andromeda.Library

section

variable {config : Config} {world : World} {index : Nat} {stale : Option Nat}

private theorem QueueLive.enqueued {queue : List PageInfo} {pages : PageMap} {page : Page}
    (live : QueueLive config (some index) queue pages) (cacheMgr : config.cacheMgr = true)
    (found : pages.find? index = some page) :
    QueueLive config none (⟨ownManager, index, config.capacity page⟩ ::
      CacheManager.erase queue ownManager index) pages where
  cacheMgr _ _ := cacheMgr
  cached member isOwn := by
    rcases List.mem_cons.mp member with rfl | member
    · exact ⟨page, found, fun _ => rfl⟩
    · obtain ⟨member, other⟩ := CacheManager.mem_erase.mp member
      obtain ⟨cachedPage, foundPage, size⟩ := live.cached member isOwn
      exact ⟨cachedPage, foundPage, fun _ => size (by simpa [isOwn, eq_comm] using other)⟩

private theorem QueueLive.erase {queue : List PageInfo} {pages : PageMap}
    (live : QueueLive config (some index) queue pages) :
    QueueLive config none (CacheManager.erase queue ownManager index) pages where
  cacheMgr member isOwn := live.cacheMgr (CacheManager.mem_erase.mp member).1 isOwn
  cached member isOwn := by
    obtain ⟨member, other⟩ := CacheManager.mem_erase.mp member
    obtain ⟨cachedPage, foundPage, size⟩ := live.cached member isOwn
    exact ⟨cachedPage, foundPage, fun _ => size (by simpa [isOwn, eq_comm] using other)⟩

private theorem QueueLive.setSize {queue : List PageInfo} {pages : PageMap} {page : Page}
    (live : QueueLive config (some index) queue pages) (found : pages.find? index = some page) :
    QueueLive config none
      (CacheManager.setSize queue ownManager index (config.capacity page)) pages where
  cacheMgr member isOwn := by
    obtain ⟨old, oldMember, manager, _⟩ := CacheManager.mem_setSize member
    exact live.cacheMgr oldMember (manager ▸ isOwn)
  cached {info} member isOwn := by
    obtain ⟨old, oldMember, manager, sameIndex, size⟩ := CacheManager.mem_setSize member
    obtain ⟨cachedPage, foundPage, oldSize⟩ := live.cached oldMember (manager ▸ isOwn)
    rw [← sameIndex] at foundPage oldSize
    refine ⟨cachedPage, foundPage, fun _ => ?_⟩
    by_cases same : info.index = index
    · rw [same, found] at foundPage
      cases foundPage
      simpa [isOwn, same] using size
    · rw [size, if_neg (by simp [same])]
      exact oldSize (by simpa [eq_comm] using same)

private theorem QueueLive.weaken {queue : List PageInfo} {pages : PageMap}
    (live : QueueLive config none queue pages) : QueueLive config stale queue pages where
  cacheMgr := live.cacheMgr
  cached member isOwn := by
    obtain ⟨page, found, size⟩ := live.cached member isOwn
    exact ⟨page, found, fun _ => size (by simp)⟩

/-- Without a cache manager there is no own entry. -/
theorem Live.of_no_cacheMgr (live : Live config stale world) (none : ¬ config.cacheMgr = true) :
    Live config Option.none world :=
  ⟨⟨live.pageQueue.cacheMgr, fun member isOwn =>
      absurd (live.pageQueue.cacheMgr member isOwn) none⟩,
    ⟨live.dirtyQueue.cacheMgr, fun member isOwn =>
      absurd (live.dirtyQueue.cacheMgr member isOwn) none⟩⟩

theorem Live.weaken (live : Live config none world) : Live config stale world :=
  ⟨live.pageQueue.weaken, live.dirtyQueue.weaken⟩

end

namespace CacheManager

variable {config : Config} {env : Env} {world : World} {index : Nat} {stale : Option Nat}

theorem flushPage_spec {concerned : Option Nat} :
    Outcome (flushPage config env index) world
      (fun _ final => Flushed config concerned config.randWrite world final ∧
        (∀ stale, Live config stale world → ∀ info ∈ final.cacheManager.dirtyQueue,
          ¬ (info.manager = ownManager ∧ info.index = index)))
      (Stopped config env concerned config.randWrite world) := by
  simp only [flushPage, Outcome.bind_iff, Outcome.modify_iff]
  refine (PageManager.flushPage_spec id).mono ?_ fun _ _ => id
  rintro _ middle ⟨flushed, gone⟩
  exact ⟨flushed.trans (.of_step (.environment middle.uploadMaxBytes _ middle.trace.calls) rfl),
    gone⟩

theorem evictPick_spec {cache : CacheManager} {picked : Nat}
    (pick : evictPick config index cache = some picked) : picked ≠ index ∧
      ∃ info ∈ cache.pageQueue, info.manager = ownManager ∧ info.index = picked := by
  unfold evictPick at pick
  split at pick
  · cases pick
  · next info last =>
    split at pick
    · next evictable =>
      cases pick
      exact ⟨evictable.2.2, info, List.mem_of_getLast? last, evictable.2.1, rfl⟩
    · cases pick

theorem flushPick_spec {cache : CacheManager} {picked : Nat}
    (pick : flushPick index cache = some picked) : picked ≠ index ∧
      ∃ info ∈ cache.dirtyQueue, info.manager = ownManager ∧ info.index = picked := by
  unfold flushPick at pick
  split at pick
  · cases pick
  · next info last =>
    split at pick
    · next evictable =>
      cases pick
      exact ⟨evictable.2.2, info, List.mem_of_getLast? last, evictable.2.1, rfl⟩
    · cases pick

/-- A queue that lost an own entry has fewer own entries. -/
theorem own_length_lt {before after : List PageInfo} {picked : Nat}
    (sublist : (own after).Sublist (own before))
    (present : ∃ info ∈ before, info.manager = ownManager ∧ info.index = picked)
    (gone : ∀ info ∈ after, ¬ (info.manager = ownManager ∧ info.index = picked)) :
    (own after).length < (own before).length := by
  refine Nat.lt_of_le_of_ne sublist.length_le fun same => ?_
  obtain ⟨info, member, isOwn, isPicked⟩ := present
  have still : info ∈ own after := by
    rw [sublist.eq_of_length same]
    exact mem_own.mpr ⟨member, isOwn⟩
  exact gone info (mem_own.mp still).1 ⟨isOwn, isPicked⟩

private theorem evictLoop_spec (fuel : Nat) (live : Live config stale world)
    (enough : (own world.cacheManager.pageQueue).length < fuel) :
    Outcome (evictLoop config env index fuel) world
      (fun _ => Flushed config (some index) config.randWrite world)
      (Stopped config env (some index) config.randWrite world) := by
  induction fuel generalizing world with
  | zero => omega
  | succ fuel ih =>
      simp only [evictLoop, Outcome.bind_iff, Outcome.get_iff]
      cases pick : evictPick config index world.cacheManager with
      | none => exact .refl world
      | some picked =>
          obtain ⟨other, present⟩ := evictPick_spec pick
          rw [Outcome.bind_iff]
          refine (PageManager.evictPage_spec id (by simpa using other.symm)).mono ?_
            fun _ _ => id
          rintro _ middle ⟨flushed, gone⟩
          have fewer := own_length_lt flushed.steps.own_sublist.1 present (gone stale live)
          refine (ih (flushed.steps.live live) (by omega)).mono ?_ fun _ _ => flushed.then_stopped
          exact fun _ _ rest => flushed.trans rest

private theorem flushLoop_spec (fuel : Nat) (live : Live config stale world)
    (enough : (own world.cacheManager.dirtyQueue).length < fuel) :
    Outcome (flushLoop config env index fuel) world
      (fun _ => Flushed config (some index) config.randWrite world)
      (Stopped config env (some index) config.randWrite world) := by
  induction fuel generalizing world with
  | zero => omega
  | succ fuel ih =>
      simp only [flushLoop, Outcome.bind_iff, Outcome.get_iff]
      cases pick : flushPick index world.cacheManager with
      | none => exact .refl world
      | some picked =>
          obtain ⟨other, present⟩ := flushPick_spec pick
          rw [Outcome.bind_iff]
          refine flushPage_spec.mono ?_ fun _ _ => id
          rintro _ middle ⟨flushed, gone⟩
          have fewer := own_length_lt flushed.steps.own_sublist.2 present (gone stale live)
          refine (ih (flushed.steps.live live) (by omega)).mono ?_ fun _ _ => flushed.then_stopped
          exact fun _ _ rest => flushed.trans rest

private theorem awaitCleanup_spec {concerned : Option Nat} {writes : Bool} :
    Outcome (awaitCleanup env) world
      (fun _ => Flushed config concerned writes world)
      (Stopped config env concerned writes world) := by
  simp only [awaitCleanup, Outcome.bind_iff, Outcome.modify_iff]
  have waited : Flushed config concerned writes world { world with
      cacheManager := world.cacheManager.otherManagers (env.waited world).1
        (env.waited world).2 } := .of_step (.otherManagers _ _) rfl
  refine (tryCall_spec env .reserveMemory .memory _).mono ?_ ?_
  · rintro _ _ rfl
    exact waited.trans (.of_step (.environment _ _ _) rfl)
  · rintro _ _ ⟨rfl, fault, rfl⟩
    exact ⟨rfl, waited.steps.tail (.environment _ _ _), _, _, fault, rfl⟩

theorem own_length_le (queue : List PageInfo) : (own queue).length ≤ queue.length :=
  List.length_filter_le _ _

private theorem awaitWhile_spec {concerned : Option Nat} {writes : Bool}
    (exceeded : CacheManager → Bool)
    (canWait : Bool) :
    Outcome (awaitWhile config env exceeded canWait) world
      (fun _ => Flushed config concerned writes world)
      (Stopped config env concerned writes world) := by
  simp only [awaitWhile, Outcome.bind_iff, Outcome.get_iff, Outcome.ite_iff]
  exact ⟨fun _ => awaitCleanup_spec, fun _ => .refl world⟩

private theorem handleMemory_spec (canWait mgrLock : Bool) (live : Live config stale world) :
    Outcome (handleMemory config env index canWait mgrLock) world
      (fun _ => Flushed config (some index) config.randWrite world)
      (Stopped config env (some index) config.randWrite world) := by
  simp only [handleMemory, Outcome.bind_iff, Outcome.get_iff, Outcome.ite_iff]
  refine ⟨fun _ => ?_, fun _ => awaitWhile_spec _ _⟩
  refine (evictLoop_spec _ live (Nat.lt_succ_of_le (own_length_le _))).mono ?_ fun _ _ => id
  intro _ middle flushed
  exact (awaitWhile_spec _ _).mono (fun _ _ => flushed.trans) fun _ _ => flushed.then_stopped

private theorem handleDirtyMemory_spec (canWait mgrLock : Bool) (live : Live config stale world) :
    Outcome (handleDirtyMemory config env index canWait mgrLock) world
      (fun _ => Flushed config (some index) config.randWrite world)
      (Stopped config env (some index) config.randWrite world) := by
  simp only [handleDirtyMemory, Outcome.bind_iff, Outcome.get_iff, Outcome.ite_iff]
  refine ⟨fun _ => ?_, fun _ => awaitWhile_spec _ _⟩
  refine (flushLoop_spec _ live (Nat.lt_succ_of_le (own_length_le _))).mono ?_ fun _ _ => id
  intro _ middle flushed
  exact (awaitWhile_spec _ _).mono (fun _ _ => flushed.trans) fun _ _ => flushed.then_stopped

/-- A page has been put at the front of the queues. -/
def enqueued (config : Config) (world : World) (index : Nat) (page : Page) (dirty : Bool) :
    World :=
  { world with
    cacheManager :=
      world.cacheManager.enqueuePage ownManager index (config.capacity page) dirty }

/-- The entry of a page in the page queue has its size. -/
def requeued (config : Config) (world : World) (index : Nat) (page : Page) : World :=
  { world with
    cacheManager := world.cacheManager.resizeQueued ownManager index (config.capacity page) }

/-- The entry of a page in the dirty queue has its size. -/
def redirtied (config : Config) (world : World) (index : Nat) (page : Page) : World :=
  { world with
    cacheManager := world.cacheManager.resizeDirty ownManager index (config.capacity page) }

theorem live_enqueued {page : Page} (live : Live config (some index) world)
    (cacheMgr : config.cacheMgr = true)
    (found : world.pageManager.pages.find? index = some page) (dirty : Bool) :
    Live config none (enqueued config world index page dirty) where
  pageQueue := by
    simp only [enqueued, enqueuePage_pageQueue]
    exact live.pageQueue.enqueued cacheMgr found
  dirtyQueue := by
    simp only [enqueued, enqueuePage_dirtyQueue]
    cases dirty with
    | true => exact live.dirtyQueue.enqueued cacheMgr found
    | false => exact live.dirtyQueue.erase

theorem informPage_spec {page : Page} (live : Live config (some index) world)
    (cacheMgr : config.cacheMgr = true)
    (found : world.pageManager.pages.find? index = some page) (dirty canWait mgrLock : Bool) :
    Outcome (informPage config env index dirty canWait mgrLock) world
      (fun _ => Flushed config (some index) config.randWrite
        (enqueued config world index page dirty))
      (Stopped config env (some index) config.randWrite
        (enqueued config world index page dirty)) := by
  have queued := live_enqueued live cacheMgr found dirty
  simp only [informPage, Outcome.bind_iff, Outcome.get_iff, found, Outcome.set_iff,
    Outcome.ite_iff, Outcome.pure_iff]
  refine ⟨fun _ => ?_, fun _ => .refl _⟩
  refine (handleMemory_spec canWait mgrLock queued).mono ?_ fun _ _ => id
  intro _ middle flushed
  refine ⟨fun _ => ?_, fun _ => flushed⟩
  exact (handleDirtyMemory_spec canWait mgrLock (flushed.steps.live queued)).mono
    (fun _ _ => flushed.trans) fun _ _ => flushed.then_stopped

/-- `ResizePage` that returned: both queues have been given the size, and the
limits enforced after each. -/
def Resized (config : Config) (index : Nat) (page : Page) (before after : World) : Prop :=
  ∃ middle, Flushed config (some index) config.randWrite
      (requeued config before index page) middle ∧
    Flushed config (some index) config.randWrite (redirtied config middle index page) after

/-- `ResizePage` that threw while enforcing one of the limits. -/
def ResizeStopped (config : Config) (env : Env) (index : Nat) (page : Page) (before : World)
    (exception : Exception) (after : World) : Prop :=
  Stopped config env (some index) config.randWrite (requeued config before index page)
      exception after ∨
    ∃ middle, Flushed config (some index) config.randWrite
        (requeued config before index page) middle ∧
      Stopped config env (some index) config.randWrite (redirtied config middle index page)
        exception after

private theorem live_requeued {page : Page} (live : Live config (some index) world)
    (found : world.pageManager.pages.find? index = some page) :
    QueueLive config none (requeued config world index page).cacheManager.pageQueue
        world.pageManager.pages ∧
      Live config (some index) (requeued config world index page) := by
  have pageQueue : QueueLive config none
      (requeued config world index page).cacheManager.pageQueue world.pageManager.pages := by
    simp only [requeued, resizeQueued_pageQueue]
    exact live.pageQueue.setSize found
  refine ⟨pageQueue, pageQueue.weaken, ?_⟩
  simp only [requeued, resizeQueued_dirtyQueue]
  exact live.dirtyQueue

private theorem live_redirtied {page : Page} (live : Live config (some index) world)
    (pageQueue : QueueLive config none world.cacheManager.pageQueue world.pageManager.pages)
    (found : world.pageManager.pages.find? index = some page) :
    Live config none (redirtied config world index page) where
  pageQueue := by
    simp only [redirtied, resizeDirty_pageQueue]
    exact pageQueue
  dirtyQueue := by
    simp only [redirtied, resizeDirty_dirtyQueue]
    exact live.dirtyQueue.setSize found

private theorem resizePageQueue_spec {page : Page} (live : Live config (some index) world)
    (found : world.pageManager.pages.find? index = some page) :
    Outcome (resizeIn pageQueue resizeQueued (handleMemory config env) index
        (config.capacity page)) world
      (fun _ => Flushed config (some index) config.randWrite (requeued config world index page))
      (Stopped config env (some index) config.randWrite (requeued config world index page)) := by
  simp only [resizeIn, Outcome.bind_iff, Outcome.get_iff]
  cases queued : lookup world.cacheManager.pageQueue ownManager index with
  | none =>
      have same : requeued config world index page = world := by
        simp [requeued, resizeQueued, queued]
      rw [same]
      exact .refl world
  | some info =>
      rw [Outcome.bind_iff, Outcome.modify_iff, Outcome.ite_iff]
      exact ⟨fun _ => handleMemory_spec true true (live_requeued live found).2,
        fun _ => .refl _⟩

private theorem resizeDirtyQueue_spec {page : Page} (live : Live config none
      (redirtied config world index page)) :
    Outcome (resizeIn dirtyQueue resizeDirty (handleDirtyMemory config env) index
        (config.capacity page)) world
      (fun _ => Flushed config (some index) config.randWrite (redirtied config world index page))
      (Stopped config env (some index) config.randWrite
        (redirtied config world index page)) := by
  simp only [resizeIn, Outcome.bind_iff, Outcome.get_iff]
  cases queued : lookup world.cacheManager.dirtyQueue ownManager index with
  | none =>
      have same : redirtied config world index page = world := by
        simp [redirtied, resizeDirty, queued]
      rw [same]
      exact .refl world
  | some info =>
      rw [Outcome.bind_iff, Outcome.modify_iff, Outcome.ite_iff]
      exact ⟨fun _ => handleDirtyMemory_spec true true live, fun _ => .refl _⟩

theorem resizePage_spec {page : Page} (live : Live config (some index) world)
    (found : world.pageManager.pages.find? index = some page) :
    Outcome (resizePage config env index) world
      (fun _ final => Resized config index page world final ∧ Live config none final)
      (fun exception final => ResizeStopped config env index page world exception final ∧
        Live config (some index) final) := by
  simp only [resizePage, Outcome.bind_iff, Outcome.get_iff, found]
  obtain ⟨pageQueue, requeuedLive⟩ := live_requeued live found
  refine (resizePageQueue_spec live found).mono ?_ ?_
  · intro _ middle flushed
    obtain ⟨page', found', data⟩ := flushed.steps.file.concerned_kept found
    have dirtied : Live config none (redirtied config middle index page) := by
      have sameSize := live_redirtied (flushed.steps.live requeuedLive)
        (FlushSteps.live_pageQueue flushed.steps pageQueue) found'
      rwa [redirtied, config.capacity_congr data] at sameSize
    refine (resizeDirtyQueue_spec dirtied).mono ?_ ?_
    · intro _ final dirtyFlushed
      exact ⟨⟨middle, flushed, dirtyFlushed⟩, dirtyFlushed.steps.live dirtied⟩
    · intro _ final stopped
      exact ⟨.inr ⟨middle, flushed, stopped⟩, (stopped.steps.live dirtied).weaken⟩
  · intro _ final stopped
    exact ⟨.inl stopped, stopped.steps.live requeuedLive⟩

theorem hasEntry_enqueued {other : Nat} {page : Page} {dirty : Bool} (entry : HasEntry world other) :
    HasEntry (enqueued config world index page dirty) other := by
  obtain ⟨info, member, isOwn, rfl⟩ := entry
  simp only [HasEntry, enqueued, enqueuePage_pageQueue]
  by_cases same : info.index = index
  · exact ⟨_, List.mem_cons_self, rfl, same.symm⟩
  · exact ⟨info, List.mem_cons_of_mem _ (mem_erase.mpr ⟨member, fun both => same both.2⟩),
      isOwn, rfl⟩

private theorem hasEntry_requeued {other : Nat} {page : Page} (entry : HasEntry world other) :
    HasEntry (requeued config world index page) other := by
  obtain ⟨info, member, isOwn, rfl⟩ := entry
  simp only [HasEntry, requeued, resizeQueued_pageQueue]
  refine ⟨_, List.mem_map_of_mem member, ?_, ?_⟩
  · split <;> exact isOwn
  · split <;> rfl

private theorem hasEntry_redirtied {other : Nat} {page : Page} (entry : HasEntry world other) :
    HasEntry (redirtied config world index page) other := by
  simpa only [HasEntry, redirtied, resizeDirty_pageQueue] using entry

/-- The queue entries of a page have at least this size. -/
def EntriesAtLeast (index size : Nat) (world : World) : Prop :=
  ∀ info, info ∈ world.cacheManager.pageQueue ∨ info ∈ world.cacheManager.dirtyQueue →
    info.manager = ownManager → info.index = index → size ≤ info.pageSize

private theorem entriesAtLeast_steps {concerned : Option Nat} {writes : Bool} {final : World}
    {size : Nat} (steps : FlushSteps config concerned writes world final)
    (entries : EntriesAtLeast index size world) : EntriesAtLeast index size final := by
  intro info member isOwn same
  refine entries info ?_ isOwn same
  rcases member with member | member
  · exact .inl (mem_own.mp
      (steps.own_sublist.1.subset (mem_own.mpr ⟨member, isOwn⟩))).1
  · exact .inr (mem_own.mp
      (steps.own_sublist.2.subset (mem_own.mpr ⟨member, isOwn⟩))).1

private theorem entriesAtLeast_requeued {page : Page} {size : Nat}
    (entries : EntriesAtLeast index size world) (grows : size ≤ config.capacity page) :
    EntriesAtLeast index size (requeued config world index page) := by
  intro info member isOwn same
  simp only [requeued, resizeQueued_pageQueue, resizeQueued_dirtyQueue] at member
  rcases member with member | member
  · obtain ⟨old, oldMember, manager, sameIndex, newSize⟩ := mem_setSize member
    rw [newSize, if_pos ⟨isOwn, same⟩]
    exact grows
  · exact entries info (.inr member) isOwn same

private theorem entriesAtLeast_redirtied {page : Page} {size : Nat}
    (entries : EntriesAtLeast index size world) (grows : size ≤ config.capacity page) :
    EntriesAtLeast index size (redirtied config world index page) := by
  intro info member isOwn same
  simp only [redirtied, resizeDirty_pageQueue, resizeDirty_dirtyQueue] at member
  rcases member with member | member
  · exact entries info (.inl member) isOwn same
  · obtain ⟨old, oldMember, manager, sameIndex, newSize⟩ := mem_setSize member
    rw [newSize, if_pos ⟨isOwn, same⟩]
    exact grows

theorem ResizeStopped.entriesAtLeast {page : Page} {exception : Exception} {final : World}
    {size : Nat} (stopped : ResizeStopped config env index page world exception final)
    (entries : EntriesAtLeast index size world) (grows : size ≤ config.capacity page) :
    EntriesAtLeast index size final := by
  have requeued := entriesAtLeast_requeued entries grows
  rcases stopped with stopped | ⟨middle, flushed, stopped⟩
  · exact entriesAtLeast_steps stopped.steps requeued
  · exact entriesAtLeast_steps stopped.steps
      (entriesAtLeast_redirtied (entriesAtLeast_steps flushed.steps requeued) grows)

private theorem resizePage_shrink {page : Page}
    (found : world.pageManager.pages.find? index = some page)
    (entries : EntriesAtLeast index (config.capacity page) world) :
    Outcome (resizePage config env index) world
      (fun _ final => final = redirtied config (requeued config world index page) index page)
      (fun _ _ => False) := by
  have first : Outcome (resizeIn pageQueue resizeQueued (handleMemory config env) index
      (config.capacity page)) world
      (fun _ middle => middle = requeued config world index page) (fun _ _ => False) := by
    simp only [resizeIn, Outcome.bind_iff, Outcome.get_iff]
    cases queued : lookup world.cacheManager.pageQueue ownManager index with
    | none => simp [requeued, resizeQueued, queued]
    | some info =>
        obtain ⟨member, isOwn, same⟩ := lookup_eq_some queued
        have enough := entries info (.inl member) isOwn same
        rw [Outcome.bind_iff, Outcome.modify_iff, if_neg (Nat.not_lt.mpr enough)]
        rfl
  simp only [resizePage, Outcome.bind_iff, Outcome.get_iff, found]
  refine first.mono ?_ fun _ _ => id
  rintro _ _ rfl
  simp only [resizeIn, Outcome.bind_iff, Outcome.get_iff]
  have entries := entriesAtLeast_requeued entries (Nat.le_refl (config.capacity page))
  cases queued : lookup (requeued config world index page).cacheManager.dirtyQueue
      ownManager index with
  | none => simp [redirtied, resizeDirty, queued]
  | some info =>
      obtain ⟨member, isOwn, same⟩ := lookup_eq_some queued
      have enough := entries info (.inr member) isOwn same
      rw [Outcome.bind_iff, Outcome.modify_iff, if_neg (Nat.not_lt.mpr enough)]
      rfl

end CacheManager

/-- A change seen from the file that returned. -/
structure Moved (config : Config) (concerned : Option Nat) (before after : World) : Prop where
  steps : FileSteps config concerned before after
  settled {bound} : Shaped config bound before → before.pageManager.fileSize ≤ bound →
    Settled config before → Settled config after

/-- A change seen from the file that threw. -/
structure Threw (config : Config) (env : Env) (concerned : Option Nat) (before : World)
    (exception : Exception) (after : World) : Prop where
  thrown : exception.isThrown = true
  steps : FileSteps config concerned before after
  fault : ∃ world call, env.fault world call = true ∧ after = world.called

section

variable {config : Config} {env : Env} {concerned : Option Nat} {writes : Bool}
  {before middle after : World}

theorem Flushed.moved (flushed : Flushed config concerned writes before after) :
    Moved config concerned before after :=
  ⟨flushed.steps.file, flushed.settled⟩

theorem Stopped.threw {exception : Exception}
    (stopped : Stopped config env concerned writes before exception after) :
    Threw config env concerned before exception after :=
  ⟨stopped.thrown, stopped.steps.file, stopped.fault⟩

private theorem Moved.trans (left : Moved config concerned before middle)
    (right : Moved config concerned middle after) : Moved config concerned before after where
  steps := left.steps.trans right.steps
  settled shaped size settled :=
    right.settled (left.steps.shaped shaped size) (left.steps.fileSize ▸ size)
      (left.settled shaped size settled)

private theorem Moved.then_threw {exception : Exception}
    (left : Moved config concerned before middle)
    (right : Threw config env concerned middle exception after) :
    Threw config env concerned before exception after :=
  ⟨right.thrown, left.steps.trans right.steps, right.fault⟩

theorem Moved.cache (world : World) (cacheManager : CacheManager)
    (entries : ∀ index, HasEntry world index → HasEntry { world with cacheManager } index) :
    Moved config concerned world { world with cacheManager } :=
  ⟨.cache world cacheManager entries, fun _ _ settled => settled⟩

end

namespace CacheManager

variable {config : Config} {env : Env} {world : World} {index : Nat} {page : Page}

theorem informPage_moved (live : Live config (some index) world)
    (cacheMgr : config.cacheMgr = true)
    (found : world.pageManager.pages.find? index = some page) (dirty canWait mgrLock : Bool) :
    Outcome (informPage config env index dirty canWait mgrLock) world
      (fun _ final => Moved config (some index) world final ∧ Live config none final)
      (fun exception final => Threw config env (some index) world exception final ∧
        Live config none final) := by
  have queued := live_enqueued live cacheMgr found dirty
  have start : Moved config (some index) world (enqueued config world index page dirty) :=
    .cache _ _ fun _ => hasEntry_enqueued
  refine (informPage_spec live cacheMgr found dirty canWait mgrLock).mono ?_ ?_
  · intro _ final flushed
    exact ⟨start.trans flushed.moved, flushed.steps.live queued⟩
  · intro _ final stopped
    exact ⟨start.then_threw stopped.threw, stopped.steps.live queued⟩

theorem Resized.moved {before after : World} (resized : Resized config index page before after) :
    Moved config (some index) before after := by
  obtain ⟨middle, first, second⟩ := resized
  exact ((Moved.cache _ _ fun _ => hasEntry_requeued).trans first.moved).trans
    ((Moved.cache _ _ fun _ => hasEntry_redirtied).trans second.moved)

theorem ResizeStopped.threw {before after : World} {exception : Exception}
    (stopped : ResizeStopped config env index page before exception after) :
    Threw config env (some index) before exception after := by
  have start : Moved config (some index) before (requeued config before index page) :=
    .cache _ _ fun _ => hasEntry_requeued
  rcases stopped with stopped | ⟨middle, first, second⟩
  · exact start.then_threw stopped.threw
  · exact ((start.trans first.moved).trans (.cache _ _ fun _ => hasEntry_redirtied)).then_threw
      second.threw

/-- Without enforcing a limit only the entries of the page change. -/
theorem shrink_moved (live : Live config (some index) world)
    (found : world.pageManager.pages.find? index = some page)
    (entries : EntriesAtLeast index (config.capacity page) world) :
    Outcome (resizePage config env index) world
      (fun _ final => Moved config (some index) world final ∧ Live config none final ∧
        SameFile world final)
      (fun _ _ => False) := by
  refine (resizePage_shrink found entries).mono ?_ fun _ _ => id
  rintro _ _ rfl
  obtain ⟨pageQueue, requeuedLive⟩ := live_requeued live found
  exact ⟨(Moved.cache _ _ fun _ => hasEntry_requeued).trans
    (.cache _ _ fun _ => hasEntry_redirtied), live_redirtied requeuedLive pageQueue found,
    ⟨rfl, rfl, rfl, rfl⟩⟩

end CacheManager

end Andromeda.FileData
