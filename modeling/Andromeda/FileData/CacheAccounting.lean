import Andromeda.FileData.CacheStretches
import Andromeda.FileData.CacheQueueProperties
import Andromeda.Library.Run
import Mathlib.Algebra.Order.BigOperators.Group.List
import Mathlib.Algebra.Order.Group.Nat

/-! The totals of the cache manager are the sums over its queues, after every sequence of
stretches of its calls. -/

set_option autoImplicit false

namespace Andromeda.FileData

open Andromeda.Library

namespace CacheManager

/-- The page an entry is queued for. -/
def key (info : PageInfo) : Nat × Nat := (info.manager, info.index)

/-- No page is queued twice. -/
def Distinct (queue : List PageInfo) : Prop := (queue.map key).Nodup

variable {queue : List PageInfo} {manager index newSize : Nat} {info : PageInfo}

theorem isFor_iff_key : info.isFor manager index = true ↔ key info = (manager, index) := by
  simp [key]

private theorem pageSize_le_total (member : info ∈ queue) : info.pageSize ≤ total queue :=
  List.le_sum_of_mem (List.mem_map_of_mem member)

private theorem lookup_cons_isFor (same : info.isFor manager index = true) :
    lookup (info :: queue) manager index = some info := by
  simp [lookup, same]

private theorem lookup_cons_other (other : ¬ info.isFor manager index = true) :
    lookup (info :: queue) manager index = lookup queue manager index := by
  simp [lookup, other]

private theorem lookup_behind (distinct : Distinct (info :: queue))
    (same : info.isFor manager index = true) : lookup queue manager index = none := by
  rw [lookup_eq_none]
  intro behind member equal
  have keys : key behind = key info := by
    rw [isFor_iff_key.mp same, ← isFor_iff_key, PageInfo.isFor_iff]
    exact equal
  exact (List.nodup_cons.mp distinct).1 (keys ▸ List.mem_map_of_mem member)

theorem Distinct.tail (distinct : Distinct (info :: queue)) : Distinct queue :=
  (List.nodup_cons.mp distinct).2

private theorem total_erase (distinct : Distinct queue)
    (found : lookup queue manager index = some info) :
    total (erase queue manager index) + info.pageSize = total queue := by
  induction queue with
  | nil => simp [lookup] at found
  | cons first rest ih =>
      by_cases same : first.isFor manager index = true
      · have missing := lookup_behind distinct same
        rw [lookup_cons_isFor same, Option.some_inj] at found
        subst found
        have erased : erase (first :: rest) manager index = rest := by
          rw [← erase_of_lookup_none missing]
          simp [erase, same]
        simp only [erased, total, List.map_cons, List.sum_cons]
        omega
      · have sum := ih distinct.tail (by rwa [lookup_cons_other same] at found)
        have kept : erase (first :: rest) manager index = first :: erase rest manager index := by
          simp [erase, same]
        simp only [total, kept, List.map_cons, List.sum_cons] at sum ⊢
        omega

private theorem total_setSize (distinct : Distinct queue)
    (found : lookup queue manager index = some info) :
    total (setSize queue manager index newSize) + info.pageSize = total queue + newSize := by
  induction queue with
  | nil => simp [lookup] at found
  | cons first rest ih =>
      by_cases same : first.isFor manager index = true
      · have missing := lookup_behind distinct same
        rw [lookup_cons_isFor same, Option.some_inj] at found
        subst found
        have resized : setSize (first :: rest) manager index newSize =
            { first with pageSize := newSize } :: rest := by
          conv => rhs; rw [← @setSize_of_lookup_none rest manager index newSize missing]
          rw [setSize, List.map_cons, if_pos same, setSize]
        simp only [resized, total, List.map_cons, List.sum_cons]
        omega
      · have sum := ih distinct.tail (by rwa [lookup_cons_other same] at found)
        have kept : setSize (first :: rest) manager index newSize =
            first :: setSize rest manager index newSize := by
          rw [setSize, List.map_cons, if_neg same, setSize]
        simp only [total, kept, List.map_cons, List.sum_cons] at sum ⊢
        omega

private theorem Distinct.erase (distinct : Distinct queue) (manager index : Nat) :
    Distinct (erase queue manager index) :=
  List.Nodup.sublist ((erase_sublist queue manager index).map key) distinct

private theorem map_key_setSize (queue : List PageInfo) (manager index newSize : Nat) :
    (setSize queue manager index newSize).map key = queue.map key := by
  rw [setSize, List.map_map]
  apply List.map_congr_left
  intro info _
  rw [Function.comp_apply]
  split <;> rfl

private theorem mem_keys_erase {page : Nat × Nat} : page ∈ (erase queue manager index).map key ↔
    page ∈ queue.map key ∧ page ≠ (manager, index) := by
  constructor
  · intro member
    obtain ⟨info, erased, rfl⟩ := List.mem_map.mp member
    obtain ⟨queued, other⟩ := mem_erase.mp erased
    exact ⟨List.mem_map_of_mem queued, fun same => other (Prod.mk.inj same)⟩
  · rintro ⟨member, other⟩
    obtain ⟨info, queued, rfl⟩ := List.mem_map.mp member
    exact List.mem_map_of_mem (mem_erase.mpr ⟨queued, fun same => other (Prod.ext same.1 same.2)⟩)

/-- The queued sizes add up to the totals, no page is queued twice, and the dirty pages are
queued among the pages. -/
structure Accounted (cache : CacheManager) : Prop where
  pages : Distinct cache.pageQueue
  dirtyPages : Distinct cache.dirtyQueue
  total : cache.currentTotal = total cache.pageQueue
  dirty : cache.currentDirty = CacheManager.total cache.dirtyQueue
  dirtyQueued : ∀ page ∈ cache.dirtyQueue.map key, page ∈ cache.pageQueue.map key

variable {cache : CacheManager}

private theorem Accounted.queuedSize_le (accounted : Accounted cache) (manager index : Nat) :
    cache.queuedSize manager index ≤ cache.currentTotal := by
  unfold queuedSize
  cases found : lookup cache.pageQueue manager index with
  | none => exact Nat.zero_le _
  | some info => exact accounted.total ▸ pageSize_le_total (lookup_eq_some found).1

private theorem removePage_currentTotal (accounted : Accounted cache) (manager index : Nat) :
    (cache.removePage manager index).currentTotal =
      CacheManager.total (erase cache.pageQueue manager index) := by
  have stays : (cache.removePage manager index).currentTotal =
      cache.currentTotal - cache.queuedSize manager index := by
    unfold removePage removeDirty
    split <;> rfl
  rw [stays, accounted.total, queuedSize]
  cases found : lookup cache.pageQueue manager index with
  | none => rw [erase_of_lookup_none found]; rfl
  | some info => exact Nat.sub_eq_of_eq_add (total_erase accounted.pages found).symm

private theorem removeDirty_currentDirty (accounted : Accounted cache) (manager index : Nat) :
    (cache.removeDirty manager index).currentDirty =
      CacheManager.total (erase cache.dirtyQueue manager index) := by
  unfold removeDirty
  cases found : lookup cache.dirtyQueue manager index with
  | none => rw [erase_of_lookup_none found]; exact accounted.dirty
  | some info =>
      simp only
      rw [accounted.dirty]
      exact Nat.sub_eq_of_eq_add (total_erase accounted.dirtyPages found).symm

private theorem removePage_currentDirty (accounted : Accounted cache) (manager index : Nat) :
    (cache.removePage manager index).currentDirty =
      CacheManager.total (erase cache.dirtyQueue manager index) := by
  rw [← removeDirty_currentDirty accounted manager index]
  simp only [removePage, removeDirty]
  split <;> rfl

private theorem Accounted.removeDirty (accounted : Accounted cache) (manager index : Nat) :
    Accounted (cache.removeDirty manager index) where
  pages := by rw [removeDirty_pageQueue]; exact accounted.pages
  dirtyPages := by rw [removeDirty_dirtyQueue]; exact accounted.dirtyPages.erase manager index
  total := by
    have stays : (cache.removeDirty manager index).currentTotal = cache.currentTotal := by
      unfold CacheManager.removeDirty
      split <;> rfl
    rw [stays, removeDirty_pageQueue, accounted.total]
  dirty := by rw [removeDirty_currentDirty accounted, removeDirty_dirtyQueue]
  dirtyQueued := by
    intro page member
    rw [removeDirty_dirtyQueue, mem_keys_erase] at member
    rw [removeDirty_pageQueue]
    exact accounted.dirtyQueued page member.1

theorem Accounted.removePage (accounted : Accounted cache) (manager index : Nat) :
    Accounted (cache.removePage manager index) where
  pages := by rw [removePage_pageQueue]; exact accounted.pages.erase manager index
  dirtyPages := by rw [removePage_dirtyQueue]; exact accounted.dirtyPages.erase manager index
  total := by rw [removePage_currentTotal accounted, removePage_pageQueue]
  dirty := by rw [removePage_currentDirty accounted, removePage_dirtyQueue]
  dirtyQueued := by
    intro page member
    rw [removePage_dirtyQueue, mem_keys_erase] at member
    rw [removePage_pageQueue, mem_keys_erase]
    exact ⟨accounted.dirtyQueued page member.1, member.2⟩

private theorem Distinct.enqueue (distinct : Distinct queue) (manager index newSize : Nat) :
    Distinct (⟨manager, index, newSize⟩ :: CacheManager.erase queue manager index) := by
  refine List.nodup_cons.mpr ⟨fun member => ?_, distinct.erase manager index⟩
  exact (mem_keys_erase.mp member).2 rfl

private theorem Accounted.enqueuePage (accounted : Accounted cache) (manager index newSize : Nat)
    (dirty : Bool) : Accounted (cache.enqueuePage manager index newSize dirty) where
  pages := by rw [enqueuePage_pageQueue]; exact accounted.pages.enqueue manager index newSize
  dirtyPages := by
    rw [enqueuePage_dirtyQueue]
    cases dirty with
    | false => exact accounted.dirtyPages.erase manager index
    | true => exact accounted.dirtyPages.enqueue manager index newSize
  total := by
    rw [enqueuePage_pageQueue, CacheManager.total, List.map_cons, List.sum_cons, Nat.add_comm]
    change _ = CacheManager.total _ + newSize
    rw [← removePage_currentTotal accounted]
    unfold CacheManager.enqueuePage
    cases dirty <;> rfl
  dirty := by
    rw [enqueuePage_dirtyQueue]
    have removed := removePage_currentDirty accounted manager index
    cases dirty with
    | false => exact removed
    | true =>
        simp only [if_true, CacheManager.total, List.map_cons, List.sum_cons]
        rw [Nat.add_comm]
        exact congrArg (· + newSize) removed
  dirtyQueued := by
    intro page member
    rw [enqueuePage_pageQueue, List.map_cons, List.mem_cons, mem_keys_erase]
    rw [enqueuePage_dirtyQueue] at member
    by_cases same : page = (manager, index)
    · exact Or.inl same
    · refine Or.inr ⟨accounted.dirtyQueued page ?_, same⟩
      cases dirty with
      | false => exact (mem_keys_erase.mp member).1
      | true =>
          rcases List.mem_cons.mp member with front | erased
          · exact absurd front same
          · exact (mem_keys_erase.mp erased).1

private theorem Accounted.resizeQueued (accounted : Accounted cache) (manager index newSize : Nat) :
    Accounted (cache.resizeQueued manager index newSize) where
  pages := by
    rw [Distinct, resizeQueued_pageQueue, map_key_setSize]
    exact accounted.pages
  dirtyPages := by rw [resizeQueued_dirtyQueue]; exact accounted.dirtyPages
  total := by
    rw [resizeQueued_pageQueue]
    unfold CacheManager.resizeQueued
    cases found : lookup cache.pageQueue manager index with
    | none => rw [setSize_of_lookup_none found]; exact accounted.total
    | some info =>
        simp only
        rw [accounted.total]
        exact Nat.sub_eq_of_eq_add (total_setSize accounted.pages found).symm
  dirty := by
    have stays : (cache.resizeQueued manager index newSize).currentDirty = cache.currentDirty := by
      unfold CacheManager.resizeQueued
      split <;> rfl
    rw [stays, resizeQueued_dirtyQueue, accounted.dirty]
  dirtyQueued := by
    intro page member
    rw [resizeQueued_dirtyQueue] at member
    rw [resizeQueued_pageQueue, map_key_setSize]
    exact accounted.dirtyQueued page member

private theorem Accounted.resizeDirty (accounted : Accounted cache) (manager index newSize : Nat) :
    Accounted (cache.resizeDirty manager index newSize) where
  pages := by rw [resizeDirty_pageQueue]; exact accounted.pages
  dirtyPages := by
    rw [Distinct, resizeDirty_dirtyQueue, map_key_setSize]
    exact accounted.dirtyPages
  total := by
    have stays : (cache.resizeDirty manager index newSize).currentTotal = cache.currentTotal := by
      unfold CacheManager.resizeDirty
      split <;> rfl
    rw [stays, resizeDirty_pageQueue, accounted.total]
  dirty := by
    rw [resizeDirty_dirtyQueue]
    unfold CacheManager.resizeDirty
    cases found : lookup cache.dirtyQueue manager index with
    | none => rw [setSize_of_lookup_none found]; exact accounted.dirty
    | some info =>
        simp only
        rw [accounted.dirty]
        exact Nat.sub_eq_of_eq_add (total_setSize accounted.dirtyPages found).symm
  dirtyQueued := by
    intro page member
    rw [resizeDirty_dirtyQueue, map_key_setSize] at member
    rw [resizeDirty_pageQueue]
    exact accounted.dirtyQueued page member

/-- The removal of an entry's page. -/
def removeEntry (cache : CacheManager) (info : PageInfo) : CacheManager :=
  cache.removePage info.manager info.index

/-- What `RemovePage` subtracts from the totals is part of them. -/
def RemovalFits (cache : CacheManager) (manager index : Nat) : Prop :=
  cache.queuedSize manager index ≤ cache.currentTotal ∧
    ∀ info, lookup cache.dirtyQueue manager index = some info →
      info.pageSize ≤ cache.currentDirty

private theorem Accounted.removalFits (accounted : Accounted cache) (manager index : Nat) :
    RemovalFits cache manager index :=
  ⟨accounted.queuedSize_le manager index, fun _ found =>
    accounted.dirty ▸ pageSize_le_total (lookup_eq_some found).1⟩

private theorem Accounted.removals (accounted : Accounted cache) (removed : List PageInfo) :
    Accounted (removed.foldl removeEntry cache) := by
  induction removed generalizing cache with
  | nil => exact accounted
  | cons info rest ih => exact ih (accounted.removePage info.manager info.index)

private theorem chooseEvictions_removals (limit margin : Nat) (alive : Nat → Bool) (cleaned : Nat)
    (cache : CacheManager) (walked : List PageInfo) : ∃ removed : List PageInfo,
      (chooseEvictions limit margin alive cleaned cache walked).1 =
        removed.foldl removeEntry cache := by
  fun_induction chooseEvictions limit margin alive cleaned cache walked with
  | case1 => exact ⟨[], rfl⟩
  | case2 => exact ⟨[], rfl⟩
  | case3 cleaned cache info => exact ⟨[info], rfl⟩
  | case4 => exact ⟨[], rfl⟩
  | case5 cleaned cache info next rest exceeded live cache' chosen result ih => rwa [result] at ih
  | case6 cleaned cache info next rest exceeded dead ih =>
      obtain ⟨removed, result⟩ := ih
      exact ⟨info :: removed, result⟩
  | case7 => exact ⟨[], rfl⟩

private theorem chooseFlushes_removals (alive : Nat → Bool) (cleaned : Nat) (cache : CacheManager)
    (walked : List PageInfo) : ∃ removed : List PageInfo,
      (chooseFlushes alive cleaned cache walked).1 = removed.foldl removeEntry cache := by
  fun_induction chooseFlushes alive cleaned cache walked with
  | case1 => exact ⟨[], rfl⟩
  | case2 => exact ⟨[], rfl⟩
  | case3 cleaned cache info => exact ⟨[info], rfl⟩
  | case4 => exact ⟨[], rfl⟩
  | case5 cleaned cache info next rest exceeded live cache' chosen result ih => rwa [result] at ih
  | case6 cleaned cache info next rest exceeded dead ih =>
      obtain ⟨removed, result⟩ := ih
      exact ⟨info :: removed, result⟩
  | case7 => exact ⟨[], rfl⟩

/-- Every subtraction of a stretch from a total leaves it at least zero. -/
def Stretch.Fits (cache : CacheManager) : Stretch → Prop
  | .informPage manager index _ _ => RemovalFits cache manager index
  | .resizePage manager index capacity =>
    ∀ info, lookup cache.pageQueue manager index = some info →
      info.pageSize ≤ cache.currentTotal + capacity
  | .resizeDirtyPage manager index capacity =>
    ∀ info, lookup cache.dirtyQueue manager index = some info →
      info.pageSize ≤ cache.currentDirty + capacity
  | .removePage manager index => RemovalFits cache manager index
  | .removeDirty manager index =>
    ∀ info, lookup cache.dirtyQueue manager index = some info →
      info.pageSize ≤ cache.currentDirty
  | .evictFailed manager index _ _ =>
    RemovalFits cache manager index ∧ RemovalFits (cache.removePage manager index) manager index
  | .chooseEvictions limit margin alive => ∃ removed : List PageInfo,
    Stretch.run cache (.chooseEvictions limit margin alive) = removed.foldl removeEntry cache ∧
      Library.EachStep removeEntry (fun cache info => RemovalFits cache info.manager info.index)
        cache removed
  | .chooseFlushes alive => ∃ removed : List PageInfo,
    Stretch.run cache (.chooseFlushes alive) = removed.foldl removeEntry cache ∧
      Library.EachStep removeEntry (fun cache info => RemovalFits cache info.manager info.index)
        cache removed
  | .flushed _ => True

private theorem Accounted.removalsFit (accounted : Accounted cache) (removed : List PageInfo) :
    Library.EachStep removeEntry (fun cache info => RemovalFits cache info.manager info.index)
      cache removed :=
  eachStep_of_invariant
    (fun _ info accounted => accounted.removalFits info.manager info.index)
    (fun _ info accounted => accounted.removePage info.manager info.index) accounted

private theorem Accounted.fits (accounted : Accounted cache) (stretch : Stretch) :
    stretch.Fits cache := by
  cases stretch with
  | informPage manager index _ _ => exact accounted.removalFits manager index
  | resizePage manager index capacity =>
      intro info found
      have part := pageSize_le_total (lookup_eq_some found).1
      rw [← accounted.total] at part
      exact Nat.le_add_right_of_le part
  | resizeDirtyPage manager index capacity =>
      intro info found
      have part := pageSize_le_total (lookup_eq_some found).1
      rw [← accounted.dirty] at part
      exact Nat.le_add_right_of_le part
  | removePage manager index => exact accounted.removalFits manager index
  | removeDirty manager index => exact (accounted.removalFits manager index).2
  | evictFailed manager index _ _ =>
      exact ⟨accounted.removalFits manager index,
        (accounted.removePage manager index).removalFits manager index⟩
  | chooseEvictions limit margin alive =>
      obtain ⟨removed, result⟩ := chooseEvictions_removals limit margin alive 0 cache
        cache.pageQueue.reverse
      exact ⟨removed, result, accounted.removalsFit removed⟩
  | chooseFlushes alive =>
      obtain ⟨removed, result⟩ := chooseFlushes_removals alive 0 cache cache.dirtyQueue.reverse
      exact ⟨removed, result, accounted.removalsFit removed⟩
  | flushed _ => trivial

private theorem Accounted.run (accounted : Accounted cache) (stretch : Stretch) :
    Accounted (stretch.run cache) := by
  cases stretch with
  | informPage manager index capacity dirty =>
      exact accounted.enqueuePage manager index capacity dirty
  | resizePage manager index capacity => exact accounted.resizeQueued manager index capacity
  | resizeDirtyPage manager index capacity => exact accounted.resizeDirty manager index capacity
  | removePage manager index => exact accounted.removePage manager index
  | removeDirty manager index => exact accounted.removeDirty manager index
  | chooseEvictions limit margin alive =>
      obtain ⟨removed, result⟩ := chooseEvictions_removals limit margin alive 0 cache
        cache.pageQueue.reverse
      simpa only [Stretch.run, result] using accounted.removals removed
  | evictFailed manager index capacity dirty =>
      have removed := accounted.removePage manager index
      simp only [Stretch.run]
      split
      · exact removed
      · exact removed.enqueuePage manager index capacity dirty
  | chooseFlushes alive =>
      obtain ⟨removed, result⟩ := chooseFlushes_removals alive 0 cache cache.dirtyQueue.reverse
      simpa only [Stretch.run, result] using accounted.removals removed
  | flushed dirtyLimit =>
      exact ⟨accounted.pages, accounted.dirtyPages, accounted.total, accounted.dirty,
        accounted.dirtyQueued⟩

/-- The cache manager before the first call. -/
def created : CacheManager := ⟨[], [], 0, 0, 0⟩

private theorem accounted_created : Accounted created :=
  ⟨List.nodup_nil, List.nodup_nil, rfl, rfl, fun _ member => absurd member List.not_mem_nil⟩

/-- After every sequence of stretches of the calls and of the cleanup loops, each call possibly
cut short, the totals are the sums over the queues and the dirty pages are queued; no
subtraction on the way underflows. -/
theorem Stretch.runs_accounted (stretches : List Stretch) :
    let cache := stretches.foldl Stretch.run created
    cache.currentTotal = CacheManager.total cache.pageQueue ∧
      cache.currentDirty = CacheManager.total cache.dirtyQueue ∧
      (∀ info ∈ cache.dirtyQueue, ∃ queued ∈ cache.pageQueue,
        queued.manager = info.manager ∧ queued.index = info.index) ∧
      Library.EachStep Stretch.run Stretch.Fits created stretches := by
  intro cache
  have accounted : Accounted cache :=
    run_preserves (fun _ stretch _ accounted => accounted.run stretch) accounted_created
      (eachStep_of_invariant (fun _ _ _ => trivial) (fun _ stretch accounted =>
        accounted.run stretch) accounted_created)
  have fits : Library.EachStep Stretch.run Stretch.Fits created stretches :=
    eachStep_of_invariant (fun _ stretch accounted => accounted.fits stretch)
      (fun _ stretch accounted => accounted.run stretch) accounted_created
  refine ⟨accounted.total, accounted.dirty, fun info member => ?_, fits⟩
  obtain ⟨queued, place, same⟩ :=
    List.mem_map.mp (accounted.dirtyQueued (key info) (List.mem_map_of_mem member))
  exact ⟨queued, place, Prod.mk.inj same⟩

end CacheManager

end Andromeda.FileData
