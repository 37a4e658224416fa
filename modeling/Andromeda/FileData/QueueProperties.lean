import Andromeda.FileData.FrameProperties
import Andromeda.FileData.OperationProperties

/-! The queue entries of a file stand for its cached pages, after every operation and on
every error path. -/

set_option autoImplicit false

namespace Andromeda.FileData

open Andromeda.Library

/-- Every own entry of a queue stands for a cached page. -/
def Designates (config : Config) (queue : List PageInfo) (pages : PageMap) : Prop :=
  ∀ info ∈ queue, info.manager = ownManager →
    config.cacheMgr = true ∧ (pages.find? info.index).isSome = true

/-- Both queues. -/
structure Tracked (config : Config) (world : World) : Prop where
  pageQueue : Designates config world.cacheManager.pageQueue world.pageManager.pages
  dirtyQueue : Designates config world.cacheManager.dirtyQueue world.pageManager.pages

section

variable {config : Config} {env : Env} {world : World} {queue : List PageInfo} {pages : PageMap}

private theorem Designates.erase (designates : Designates config queue pages) (index : Nat) :
    Designates config (CacheManager.erase queue ownManager index) pages :=
  fun info member => designates info (CacheManager.mem_erase.mp member).1

private theorem Designates.setSize (designates : Designates config queue pages)
    (index newSize : Nat) :
    Designates config (CacheManager.setSize queue ownManager index newSize) pages := by
  intro info member isOwn
  obtain ⟨old, oldMember, manager, sameIndex, _⟩ := CacheManager.mem_setSize member
  rw [sameIndex]
  exact designates old oldMember (manager ▸ isOwn)

private theorem Designates.cons (designates : Designates config queue pages) {index : Nat}
    (cacheMgr : config.cacheMgr = true) (cached : (pages.find? index).isSome = true)
    (newSize : Nat) : Designates config (⟨ownManager, index, newSize⟩ :: queue) pages := by
  intro info member isOwn
  rcases List.mem_cons.mp member with rfl | later
  · exact ⟨cacheMgr, cached⟩
  · exact designates info later isOwn

private theorem Designates.congr {after : PageMap} (designates : Designates config queue pages)
    (cached : ∀ index, (pages.find? index).isSome = true → (after.find? index).isSome = true) :
    Designates config queue after := fun info member isOwn =>
  ⟨(designates info member isOwn).1, cached info.index (designates info member isOwn).2⟩

private theorem Designates.of_own {other : List PageInfo}
    (designates : Designates config queue pages)
    (same : CacheManager.own other = CacheManager.own queue) :
    Designates config other pages := by
  intro info member isOwn
  have inOwn : info ∈ CacheManager.own queue := by
    rw [← same]
    exact CacheManager.mem_own.mpr ⟨member, isOwn⟩
  exact designates info (CacheManager.mem_own.mp inOwn).1 isOwn

private theorem Designates.gone (designates : Designates config queue pages) (index : Nat) :
    Designates config (if config.cacheMgr then CacheManager.erase queue ownManager index
      else queue) (pages.erase index) := by
  intro info member isOwn
  split at member
  · obtain ⟨member, differs⟩ := CacheManager.mem_erase.mp member
    obtain ⟨cacheMgr, cached⟩ := designates info member isOwn
    refine ⟨cacheMgr, ?_⟩
    rw [KeyMap.find?_erase, if_neg fun same => differs ⟨isOwn, same⟩]
    exact cached
  · next noCacheMgr => exact absurd (designates info member isOwn).1 noCacheMgr

theorem forgetPage_queues (config : Config) (world : World) (index : Nat) :
    (PageManager.forgetPage config world index).cacheManager.pageQueue =
        (if config.cacheMgr then CacheManager.erase world.cacheManager.pageQueue ownManager index
          else world.cacheManager.pageQueue) ∧
      (PageManager.forgetPage config world index).cacheManager.dirtyQueue =
        (if config.cacheMgr then CacheManager.erase world.cacheManager.dirtyQueue ownManager index
          else world.cacheManager.dirtyQueue) := by
  unfold PageManager.forgetPage
  split <;> simp

theorem outward_tracked (config : Config) : Outward (Tracked config) := by
  intro before after sent tracked
  have cached (index : Nat) (found : (before.pageManager.pages.find? index).isSome = true) :
      (after.pageManager.pages.find? index).isSome = true := by
    rw [sent.sameCache.cached]
    exact found
  refine ⟨?_, ?_⟩
  · rw [sent.sameCache.cacheManager]
    exact tracked.pageQueue.congr cached
  · rw [sent.sameCache.cacheManager]
    exact tracked.dirtyQueue.congr cached

/-- The moves of the cache keep every entry's page. -/
theorem closed_tracked (config : Config) : Closed config (Tracked config) where
  still := (outward_tracked config).still
  enqueued {world index} newSize dirty cacheMgr cached tracked := by
    have page := tracked.pageQueue.erase index
    have dirtied := tracked.dirtyQueue.erase index
    refine ⟨?_, ?_⟩
    · rw [CacheManager.enqueuePage_pageQueue]
      exact page.cons cacheMgr cached newSize
    · rw [CacheManager.enqueuePage_dirtyQueue]
      split
      · exact dirtied.cons cacheMgr cached newSize
      · exact dirtied
  resizeQueued index newSize tracked := by
    refine ⟨?_, ?_⟩
    · rw [CacheManager.resizeQueued_pageQueue]
      exact tracked.pageQueue.setSize index newSize
    · rw [CacheManager.resizeQueued_dirtyQueue]
      exact tracked.dirtyQueue
  resizeDirty index newSize tracked := by
    refine ⟨?_, ?_⟩
    · rw [CacheManager.resizeDirty_pageQueue]
      exact tracked.pageQueue
    · rw [CacheManager.resizeDirty_dirtyQueue]
      exact tracked.dirtyQueue.setSize index newSize
  removeDirty index tracked := by
    refine ⟨?_, ?_⟩
    · rw [CacheManager.removeDirty_pageQueue]
      exact tracked.pageQueue
    · rw [CacheManager.removeDirty_dirtyQueue]
      exact tracked.dirtyQueue.erase index
  dirtyLimit _ tracked := ⟨tracked.pageQueue, tracked.dirtyQueue⟩
  otherManagers {world} pageQueue dirtyQueue tracked := by
    obtain ⟨samePage, sameDirty⟩ :=
      CacheManager.own_otherManagers world.cacheManager pageQueue dirtyQueue
    exact ⟨tracked.pageQueue.of_own samePage, tracked.dirtyQueue.of_own sameDirty⟩
  forgotten {world} index tracked := by
    obtain ⟨page, dirty⟩ := forgetPage_queues config world index
    refine ⟨?_, ?_⟩
    · rw [page]
      split
      · exact tracked.pageQueue.erase index
      · exact tracked.pageQueue
    · rw [dirty]
      split
      · exact tracked.dirtyQueue.erase index
      · exact tracked.dirtyQueue
  gaveUp {world} index tracked := by
    obtain ⟨page, dirty⟩ := forgetPage_queues config world index
    refine ⟨?_, ?_⟩
    · show Designates config (PageManager.forgetPage config world index).cacheManager.pageQueue _
      rw [page]
      exact tracked.pageQueue.gone index
    · show Designates config (PageManager.forgetPage config world index).cacheManager.dirtyQueue _
      rw [dirty]
      exact tracked.dirtyQueue.gone index
  emplaced {world} index page tracked := by
    have cached (other : Nat) (found : (world.pageManager.pages.find? other).isSome = true) :
        ((world.pageManager.pages.emplace index page).find? other).isSome = true := by
      rw [KeyMap.find?_emplace]
      split
      · rfl
      · exact found
    exact ⟨tracked.pageQueue.congr cached, tracked.dirtyQueue.congr cached⟩

private theorem flushKeeps_tracked (config : Config) (env : Env) :
    FlushKeeps config env (Tracked config) :=
  PageManager.flushKeeps_outward (closed_tracked config) (outward_tracked config)

/-- No own entry of a queue has this index. -/
def Unqueued (queue : List PageInfo) (index : Nat) : Prop :=
  ∀ info ∈ queue, ¬ (info.manager = ownManager ∧ info.index = index)

theorem Designates.unqueued (designates : Designates config queue pages) {index : Nat}
    (missing : pages.find? index = none) : Unqueued queue index := by
  rintro info member ⟨isOwn, rfl⟩
  have cached := (designates info member isOwn).2
  rw [missing] at cached
  cases cached

private theorem Designates.unqueued_erase (designates : Designates config queue pages)
    (index : Nat) :
    Unqueued (if config.cacheMgr then CacheManager.erase queue ownManager index else queue)
      index := by
  rintro info member ⟨isOwn, same⟩
  split at member
  · exact (CacheManager.mem_erase.mp member).2 ⟨isOwn, same⟩
  · next noCacheMgr => exact noCacheMgr (designates info member isOwn).1

/-- An eviction that returns has taken the page's entry from the queue. -/
theorem evictPage_removes (tracked : Tracked config world) (index : Nat) :
    Outcome (PageManager.evictPage config env index) world
      (fun _ final => Tracked config final ∧ Unqueued final.cacheManager.pageQueue index)
      (fun exception final => Tracked config final ∧ exception.isThrown = true) := by
  have thrown : Outcome (PageManager.evictPage config env index) world (fun _ _ => True)
      (fun exception _ => exception.isThrown = true) :=
    (@PageManager.evictPage_spec config env world none config.randWrite index id (by simp)).mono
      (fun _ _ _ => trivial) fun _ _ stopped => stopped.thrown
  have removed : Outcome (PageManager.evictPage config env index) world
      (fun _ final => Unqueued final.cacheManager.pageQueue index) (fun _ _ => True) := by
    simp only [PageManager.evictPage, Outcome.bind_iff, Outcome.get_iff]
    cases found : world.pageManager.pages.find? index with
    | none => exact tracked.pageQueue.unqueued found
    | some page =>
        have leave (middle : World) (kept : Tracked config middle) :
            Outcome (do
              modify fun world => PageManager.forgetPage config world index
              if !page.dirty ∨ config.randWrite then
                modify fun world => PageManager.erasePage world index
              else modify fun world => { world with pageManager := { world.pageManager with
                deferredEvicts := world.pageManager.deferredEvicts ++ [index] } } : Exec Unit)
              middle (fun _ final => Unqueued final.cacheManager.pageQueue index)
              (fun _ _ => True) := by
          have gone : Unqueued
              (PageManager.forgetPage config middle index).cacheManager.pageQueue index := by
            rw [(forgetPage_queues config middle index).1]
            exact kept.pageQueue.unqueued_erase index
          rw [Outcome.bind_iff, Outcome.modify_iff, Outcome.ite_iff]
          exact ⟨fun _ => gone, fun _ => gone⟩
        dsimp only
        rw [Outcome.ite_iff]
        refine ⟨fun writeBack => ?_, fun _ => leave world tracked⟩
        rw [Outcome.bind_iff]
        exact (flushKeeps_tracked config env writeBack.2 _ _ world tracked).mono
          (fun _ middle kept => leave middle kept) fun _ _ _ => trivial
  refine (((PageManager.keeps_evictPage (closed_tracked config) (flushKeeps_tracked config env)
    index world tracked).and removed).and thrown).mono ?_ ?_
  · rintro _ final ⟨⟨kept, gone⟩, _⟩
    exact ⟨kept, gone⟩
  · rintro exception final ⟨⟨kept, _⟩, isThrown⟩
    exact ⟨kept, isThrown⟩

/-- A flush that returns has taken the page's entry from the dirty queue. -/
theorem flushPage_removes (tracked : Tracked config world) (index : Nat) :
    Outcome (CacheManager.flushPage config env index) world
      (fun _ final => Tracked config final ∧ Unqueued final.cacheManager.dirtyQueue index)
      (fun exception final => Tracked config final ∧ exception.isThrown = true) := by
  have thrown : Outcome (CacheManager.flushPage config env index) world (fun _ _ => True)
      (fun exception _ => exception.isThrown = true) :=
    (@CacheManager.flushPage_spec config env world index none).mono
      (fun _ _ _ => trivial) fun _ _ stopped => stopped.thrown
  have removed : Outcome (PageManager.flushPage config env index) world
      (fun _ final => Unqueued final.cacheManager.dirtyQueue index) (fun _ _ => True) := by
    simp only [PageManager.flushPage, Outcome.bind_iff, Outcome.get_iff]
    cases found : world.pageManager.pages.find? index with
    | none => exact tracked.dirtyQueue.unqueued found
    | some page =>
        by_cases writeBack : page.dirty = true ∧ config.randWrite = true
        · obtain ⟨dirty, random⟩ := writeBack
          obtain ⟨nonempty, runAt⟩ :=
            PageManager.runAt_getWriteList world.uploadMaxBytes found dirty random
          have notEmpty : (PageManager.getWriteList world.uploadMaxBytes
              (world.pageManager.pages.entriesFrom index)).1.isEmpty = false := by
            simpa using nonempty
          simp only [dirty, random, and_self, if_true, notEmpty, Bool.false_eq_true, if_false]
          refine ((PageManager.flushPageList_spec none index _ world fun _ => runAt).and
            (flushKeeps_tracked config env random _ _ world tracked)).mono ?_ fun _ _ _ => trivial
          rintro _ final ⟨⟨_, _, _, undirtied⟩, kept⟩ info member ⟨isOwn, rfl⟩
          refine undirtied (kept.dirtyQueue info member isOwn).1 info member isOwn
            (runAt.mem_indices.mpr ⟨Nat.le_refl _, ?_⟩)
          have := List.length_pos_iff.mpr nonempty
          omega
        · simp only [writeBack, if_false, List.isEmpty_nil, if_true]
          by_cases cacheMgr : config.cacheMgr = true
          · simp only [cacheMgr, if_true, Outcome.bind_iff, Outcome.modify_iff, Outcome.pure_iff]
            intro info member
            rw [CacheManager.removeDirty_dirtyQueue, CacheManager.mem_erase] at member
            exact member.2
          · simp only [cacheMgr, if_false, Bool.false_eq_true, Outcome.pure_iff]
            rintro info member ⟨isOwn, _⟩
            exact cacheMgr (tracked.dirtyQueue info member isOwn).1
  have removedHere : Outcome (CacheManager.flushPage config env index) world
      (fun _ final => Unqueued final.cacheManager.dirtyQueue index) (fun _ _ => True) := by
    rw [CacheManager.flushPage, Outcome.bind_iff]
    exact removed
  refine (((CacheManager.keeps_flushPage (closed_tracked config) (flushKeeps_tracked config env)
    index world tracked).and removedHere).and thrown).mono ?_ ?_
  · rintro _ final ⟨⟨kept, gone⟩, _⟩
    exact ⟨kept, gone⟩
  · rintro exception final ⟨⟨kept, _⟩, isThrown⟩
    exact ⟨kept, isThrown⟩

private theorem evictLoop_ends (index fuel : Nat) (tracked : Tracked config world)
    (enough : (CacheManager.own world.cacheManager.pageQueue).length < fuel) :
    Outcome (CacheManager.evictLoop config env index fuel) world (fun _ => Tracked config)
      (fun exception final => Tracked config final ∧ exception.isThrown = true) := by
  induction fuel generalizing world with
  | zero => omega
  | succ fuel ih =>
      simp only [CacheManager.evictLoop, Outcome.bind_iff, Outcome.get_iff]
      cases pick : CacheManager.evictPick config index world.cacheManager with
      | none => exact tracked
      | some picked =>
          obtain ⟨other, present⟩ := CacheManager.evictPick_spec pick
          rw [Outcome.bind_iff]
          refine ((evictPage_removes tracked picked).and (PageManager.evictPage_spec id
            (by simpa using other.symm : some index ≠ some picked))).mono ?_ fun _ _ => And.left
          rintro _ middle ⟨⟨kept, gone⟩, flushed, _⟩
          have fewer := CacheManager.own_length_lt flushed.steps.own_sublist.1 present gone
          exact ih kept (by omega)

private theorem flushLoop_ends (index fuel : Nat) (tracked : Tracked config world)
    (enough : (CacheManager.own world.cacheManager.dirtyQueue).length < fuel) :
    Outcome (CacheManager.flushLoop config env index fuel) world (fun _ => Tracked config)
      (fun exception final => Tracked config final ∧ exception.isThrown = true) := by
  induction fuel generalizing world with
  | zero => omega
  | succ fuel ih =>
      simp only [CacheManager.flushLoop, Outcome.bind_iff, Outcome.get_iff]
      cases pick : CacheManager.flushPick index world.cacheManager with
      | none => exact tracked
      | some picked =>
          obtain ⟨_, present⟩ := CacheManager.flushPick_spec pick
          rw [Outcome.bind_iff]
          refine ((flushPage_removes tracked picked).and
            (@CacheManager.flushPage_spec config env world picked none)).mono ?_ fun _ _ => And.left
          rintro _ middle ⟨⟨kept, gone⟩, flushed, _⟩
          have fewer := CacheManager.own_length_lt flushed.steps.own_sublist.2 present gone
          exact ih kept (by omega)

/-- `~PageManager`: the cache manager forgets every page. -/
def PageManager.destroy (config : Config) (world : World) : World :=
  (world.pageManager.pages.entries.map Prod.fst).foldl (forgetPage config) world

private theorem unqueued_forgetPages (indices : List Nat) (tracked : Tracked config world) :
    ∀ index, index ∈ indices ∨ (world.pageManager.pages.find? index).isSome = false →
      Unqueued (indices.foldl (PageManager.forgetPage config) world).cacheManager.pageQueue
          index ∧
        Unqueued (indices.foldl (PageManager.forgetPage config) world).cacheManager.dirtyQueue
          index := by
  induction indices generalizing world with
  | nil =>
      intro index cases
      have missing : world.pageManager.pages.find? index = none := by
        simpa using cases.resolve_left List.not_mem_nil
      exact ⟨tracked.pageQueue.unqueued missing, tracked.dirtyQueue.unqueued missing⟩
  | cons first rest ih =>
      intro index cases
      -- without an entry the page might as well leave the map
      have gaveUp := (closed_tracked config).gaveUp first tracked
      have same : (rest.foldl (PageManager.forgetPage config)
            (PageManager.forgetPage config world first)).cacheManager =
          (rest.foldl (PageManager.forgetPage config)
            (PageManager.erasePage (PageManager.forgetPage config world first) first)).cacheManager :=
        PageManager.forgetPages_cacheManager config rest rfl
      rw [List.foldl_cons, same]
      refine ih gaveUp index ?_
      by_cases inRest : index ∈ rest
      · exact .inl inRest
      · refine .inr ?_
        show ((world.pageManager.pages.erase first).find? index).isSome = false
        rw [KeyMap.find?_erase]
        split
        · rfl
        · next differs =>
            refine cases.resolve_left fun member => ?_
            rcases List.mem_cons.mp member with same | later
            · exact differs same
            · exact inRest later

private theorem destroy_unqueued (tracked : Tracked config world) (index : Nat) :
    Unqueued (PageManager.destroy config world).cacheManager.pageQueue index ∧
      Unqueued (PageManager.destroy config world).cacheManager.dirtyQueue index := by
  refine unqueued_forgetPages _ tracked index ?_
  cases found : world.pageManager.pages.find? index with
  | none => exact .inr rfl
  | some page =>
      exact .inl (List.mem_map.mpr ⟨(index, page), KeyMap.find?_eq_some_iff.mp found, rfl⟩)

theorem Initial.tracked (initial : Initial config world) : Tracked config world := by
  have noOwn (queue : List PageInfo) (own : CacheManager.own queue = []) (pages : PageMap) :
      Designates config queue pages := by
    intro info member isOwn
    have inOwn : info ∈ CacheManager.own queue := CacheManager.mem_own.mpr ⟨member, isOwn⟩
    rw [own] at inOwn
    cases inOwn
  cases initial with
  | existing fresh => exact ⟨noOwn _ fresh.ownPages _, noOwn _ fresh.ownDirty _⟩
  | pending fresh _ => exact ⟨noOwn _ fresh.ownPages _, noOwn _ fresh.ownDirty _⟩

/-- What the queue entries of a file are good for. -/
structure EntriesLive (config : Config) (world : World) : Prop where
  tracked : Tracked config world
  evict (env : Env) (index : Nat) : Outcome (PageManager.evictPage config env index) world
    (fun _ final => Tracked config final ∧ Unqueued final.cacheManager.pageQueue index)
    (fun _ => Tracked config)
  flush (env : Env) (index : Nat) : Outcome (CacheManager.flushPage config env index) world
    (fun _ final => Tracked config final ∧ Unqueued final.cacheManager.dirtyQueue index)
    (fun _ => Tracked config)
  evictLoop (env : Env) (index : Nat) : Outcome (CacheManager.evictLoop config env index
      (world.cacheManager.pageQueue.length + 1)) world
    (fun _ => Tracked config) (fun exception _ => exception ≠ .hang)
  flushLoop (env : Env) (index : Nat) : Outcome (CacheManager.flushLoop config env index
      (world.cacheManager.dirtyQueue.length + 1)) world
    (fun _ => Tracked config) (fun exception _ => exception ≠ .hang)
  destroy (index : Nat) :
    Unqueued (PageManager.destroy config world).cacheManager.pageQueue index ∧
      Unqueued (PageManager.destroy config world).cacheManager.dirtyQueue index

theorem Tracked.entriesLive (tracked : Tracked config world) : EntriesLive config world where
  tracked := tracked
  evict _ index := (evictPage_removes tracked index).mono (fun _ _ => id) fun _ _ => And.left
  flush _ index := (flushPage_removes tracked index).mono (fun _ _ => id) fun _ _ => And.left
  evictLoop _ index := (evictLoop_ends index _ tracked
    (Nat.lt_succ_of_le (CacheManager.own_length_le _))).mono (fun _ _ => id) fun exception _ ended => by
      rintro rfl
      cases ended.2
  flushLoop _ index := (flushLoop_ends index _ tracked
    (Nat.lt_succ_of_le (CacheManager.own_length_le _))).mono (fun _ _ => id) fun exception _ ended => by
      rintro rfl
      cases ended.2
  destroy := destroy_unqueued tracked

end

end Andromeda.FileData
