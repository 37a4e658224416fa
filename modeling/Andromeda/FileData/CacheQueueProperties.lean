import Andromeda.FileData.CacheQueue

/-! How the queue operations of the cache manager change membership. -/

set_option autoImplicit false

namespace Andromeda.FileData

@[simp] theorem PageInfo.isFor_iff {info : PageInfo} {manager index : Nat} :
    info.isFor manager index = true ↔ info.manager = manager ∧ info.index = index := by
  simp [PageInfo.isFor]

namespace CacheManager

variable {queue : List PageInfo} {manager index : Nat} {info : PageInfo}

theorem mem_erase : info ∈ erase queue manager index ↔
    info ∈ queue ∧ ¬ (info.manager = manager ∧ info.index = index) := by
  rw [erase, List.mem_filter, Bool.not_eq_true', ← Bool.not_eq_true, PageInfo.isFor_iff]

theorem mem_own : info ∈ own queue ↔ info ∈ queue ∧ info.manager = ownManager := by
  simp [own]

theorem lookup_eq_none : lookup queue manager index = none ↔
    ∀ info ∈ queue, ¬ (info.manager = manager ∧ info.index = index) := by
  simp only [lookup, List.find?_eq_none, PageInfo.isFor_iff]

theorem lookup_eq_some (found : lookup queue manager index = some info) :
    info ∈ queue ∧ info.manager = manager ∧ info.index = index := by
  refine ⟨List.mem_of_find?_eq_some found, ?_⟩
  simpa using List.find?_some found

theorem lookup_isSome (member : info ∈ queue) :
    ∃ found, lookup queue info.manager info.index = some found := by
  cases result : lookup queue info.manager info.index with
  | some found => exact ⟨found, rfl⟩
  | none => exact absurd ⟨rfl, rfl⟩ (lookup_eq_none.mp result info member)

theorem erase_of_lookup_none (missing : lookup queue manager index = none) :
    erase queue manager index = queue := by
  rw [erase, List.filter_eq_self]
  intro info member
  rw [Bool.not_eq_true', ← Bool.not_eq_true, PageInfo.isFor_iff]
  exact lookup_eq_none.mp missing info member

theorem erase_sublist (queue : List PageInfo) (manager index : Nat) :
    (erase queue manager index).Sublist queue := List.filter_sublist

variable (cache : CacheManager) (manager index : Nat)

@[simp] theorem removeDirty_dirtyQueue :
    (cache.removeDirty manager index).dirtyQueue = erase cache.dirtyQueue manager index := by
  unfold removeDirty
  split
  · next missing => rw [erase_of_lookup_none missing]
  · rfl

@[simp] theorem removeDirty_pageQueue :
    (cache.removeDirty manager index).pageQueue = cache.pageQueue := by
  unfold removeDirty
  split <;> rfl

@[simp] theorem removePage_pageQueue :
    (cache.removePage manager index).pageQueue = erase cache.pageQueue manager index := by
  simp [removePage]

@[simp] theorem removePage_dirtyQueue :
    (cache.removePage manager index).dirtyQueue = erase cache.dirtyQueue manager index := by
  simp [removePage]

@[simp] theorem enqueuePage_pageQueue (newSize : Nat) (dirty : Bool) :
    (cache.enqueuePage manager index newSize dirty).pageQueue =
      ⟨manager, index, newSize⟩ :: erase cache.pageQueue manager index := by
  unfold enqueuePage
  split <;> simp

@[simp] theorem enqueuePage_dirtyQueue (newSize : Nat) (dirty : Bool) :
    (cache.enqueuePage manager index newSize dirty).dirtyQueue =
      if dirty then ⟨manager, index, newSize⟩ :: erase cache.dirtyQueue manager index
      else erase cache.dirtyQueue manager index := by
  unfold enqueuePage
  split <;> simp

@[simp] theorem resizeQueued_dirtyQueue (newSize : Nat) :
    (cache.resizeQueued manager index newSize).dirtyQueue = cache.dirtyQueue := by
  unfold resizeQueued
  split <;> rfl

@[simp] theorem resizeDirty_pageQueue (newSize : Nat) :
    (cache.resizeDirty manager index newSize).pageQueue = cache.pageQueue := by
  unfold resizeDirty
  split <;> rfl

theorem setSize_of_lookup_none {queue : List PageInfo} {manager index newSize : Nat}
    (missing : lookup queue manager index = none) :
    setSize queue manager index newSize = queue := by
  rw [setSize]
  conv => rhs; rw [← List.map_id queue]
  apply List.map_congr_left
  intro info member
  have other := lookup_eq_none.mp missing info member
  simp only [PageInfo.isFor_iff, id, if_neg other]

@[simp] theorem resizeQueued_pageQueue (newSize : Nat) :
    (cache.resizeQueued manager index newSize).pageQueue =
      setSize cache.pageQueue manager index newSize := by
  unfold resizeQueued
  split
  · next missing => rw [setSize_of_lookup_none missing]
  · rfl

@[simp] theorem resizeDirty_dirtyQueue (newSize : Nat) :
    (cache.resizeDirty manager index newSize).dirtyQueue =
      setSize cache.dirtyQueue manager index newSize := by
  unfold resizeDirty
  split
  · next missing => rw [setSize_of_lookup_none missing]
  · rfl

/-- An entry of the resized queue: the page concerned has the new size, the others
are as they were. -/
theorem mem_setSize {queue : List PageInfo} {manager index newSize : Nat} {info : PageInfo}
    (member : info ∈ setSize queue manager index newSize) :
    ∃ old ∈ queue, info.manager = old.manager ∧ info.index = old.index ∧
      info.pageSize =
        if info.manager = manager ∧ info.index = index then newSize else old.pageSize := by
  obtain ⟨old, oldMember, rfl⟩ := List.mem_map.mp member
  refine ⟨old, oldMember, ?_⟩
  by_cases same : old.manager = manager ∧ old.index = index
  · simp [same]
  · simp [same]

theorem own_otherManagers (pageQueue dirtyQueue : List PageInfo) :
    own (cache.otherManagers pageQueue dirtyQueue).pageQueue = own cache.pageQueue ∧
      own (cache.otherManagers pageQueue dirtyQueue).dirtyQueue = own cache.dirtyQueue := by
  unfold otherManagers
  split
  · next same => exact same
  · exact ⟨rfl, rfl⟩

end CacheManager

end Andromeda.FileData
