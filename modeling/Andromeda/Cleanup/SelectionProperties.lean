import Andromeda.Cleanup.SelectionLoops
import Andromeda.FileData.CacheAccounting

/-! When the selection loops stay inside their queue: with managers that are being deleted, only if
the pages that the iterator steps over are small enough to be kept. -/

set_option autoImplicit false

namespace Andromeda.Cleanup

open FileData (CacheManager PageInfo)
open FileData.CacheManager (Accounted Distinct key total erase)

variable {queue passed rest : List PageInfo} {info : PageInfo} {page : Nat × Nat}

private theorem total_append (first second : List PageInfo) :
    total (first ++ second) = total first + total second := by
  simp only [total, List.map_append, List.sum_append]

private theorem total_reverse (queue : List PageInfo) : total queue.reverse = total queue := by
  simp only [total, List.map_reverse, List.sum_reverse]

private theorem total_cons (info : PageInfo) (rest : List PageInfo) :
    total (info :: rest) = info.pageSize + total rest := by
  simp only [total, List.map_cons, List.sum_cons]

private theorem entryBefore_first (first : PageInfo) {behind : List PageInfo}
    (others : ∀ other ∈ behind, ¬ other.isFor page.1 page.2 = true) :
    entryBefore page (first :: behind) = none := by
  induction behind generalizing first with
  | nil => rfl
  | cons second behind ih =>
      obtain ⟨other, rest⟩ := List.forall_mem_cons.mp others
      rw [entryBefore, if_neg other]
      exact ih second rest

private theorem entryBefore_append {front behind : List PageInfo}
    (distinct : Distinct (front ++ info :: behind)) :
    entryBefore (info.manager, info.index) (front ++ info :: behind) = front.getLast? := by
  induction front with
  | nil =>
      refine entryBefore_first info fun other member same => ?_
      have keys : key other = key info := CacheManager.isFor_iff_key.mp same
      exact (List.nodup_cons.mp distinct).1 (keys ▸ List.mem_map_of_mem member)
  | cons first front ih =>
      cases front with
      | nil =>
          rw [List.cons_append, List.nil_append, entryBefore, if_pos (by simp)]
          rfl
      | cons second front =>
          have other : ¬ second.isFor info.manager info.index = true := by
            intro same
            have keys : key second = key info := CacheManager.isFor_iff_key.mp same
            refine (List.nodup_cons.mp distinct.tail).1 (keys ▸ List.mem_map_of_mem ?_)
            exact List.mem_append_right _ List.mem_cons_self
          rw [List.cons_append, List.cons_append, entryBefore, if_neg other]
          exact (ih distinct.tail).trans List.getLast?_cons_cons.symm

private theorem erase_middle (distinct : Distinct queue)
    (split : queue.reverse = passed ++ info :: rest) :
    (erase queue info.manager info.index).reverse = passed ++ rest := by
  have turned : Distinct (passed ++ info :: rest) := by
    rw [← split, Distinct, List.map_reverse]
    exact List.nodup_reverse.mpr distinct
  have others : ∀ other ∈ passed ++ rest, (!other.isFor info.manager info.index) = true := by
    intro other member
    rw [Bool.not_eq_true', ← Bool.not_eq_true]
    intro same
    have keys : key other = key info := CacheManager.isFor_iff_key.mp same
    have apart := (List.nodup_cons.mp ((List.perm_middle.map key).nodup_iff.mp turned)).1
    exact apart (keys ▸ List.mem_map_of_mem member)
  rw [erase, ← List.filter_reverse, split, List.filter_append, List.filter_cons,
    if_neg (by simp), ← List.filter_append, List.filter_eq_self.mpr others]

/-- The limit that a loop selects down to. -/
def Cleaner.limit (memoryLimit : Nat) : Cleaner → CacheManager → Nat
  | .evict, _ => memoryLimit
  | .flush, cache => cache.dirtyLimit

/-- How far below the limit a loop goes. -/
def Cleaner.below (margin : Nat) : Cleaner → Nat
  | .evict => margin
  | .flush => 0

section Queues

variable {cleaner : Cleaner} {cache : CacheManager} {memoryLimit margin cleaned : Nat}

private theorem distinct_queue (accounted : Accounted cache) : Distinct (cleaner.queue cache) := by
  cases cleaner with
  | evict => exact accounted.pages
  | flush => exact accounted.dirtyPages

private theorem over_iff (accounted : Accounted cache) :
    cleaner.over memoryLimit margin cleaned cache = true ↔
      cleaner.limit memoryLimit cache + cleaned <
        total (cleaner.queue cache) + cleaner.below margin := by
  cases cleaner with
  | evict =>
      simp only [Cleaner.over, overMemory, decide_eq_true_eq, Cleaner.limit, Cleaner.queue,
        Cleaner.below, accounted.total]
  | flush =>
      simp only [Cleaner.over, overDirty, decide_eq_true_eq, Cleaner.limit, Cleaner.queue,
        Cleaner.below, accounted.dirty, Nat.add_zero]

private theorem queue_removePage (manager index : Nat) :
    cleaner.queue (cache.removePage manager index) = erase (cleaner.queue cache) manager index := by
  cases cleaner with
  | evict => exact CacheManager.removePage_pageQueue _ _ _
  | flush => exact CacheManager.removePage_dirtyQueue _ _ _

private theorem limit_removePage (manager index : Nat) :
    cleaner.limit memoryLimit (cache.removePage manager index) =
      cleaner.limit memoryLimit cache := by
  cases cleaner with
  | evict => rfl
  | flush =>
      simp only [Cleaner.limit, CacheManager.removePage, CacheManager.removeDirty]
      split <;> rfl

end Queues

/-- The choice of a loop that stops at the front of its queue. -/
def choose (beyond : Nat → CacheManager → Bool) (alive : Nat → Bool) (cleaned : Nat)
    (cache : CacheManager) : List PageInfo → CacheManager × List PageInfo
  | [] => (cache, [])
  | [info] =>
    if beyond cleaned cache then
      if alive info.manager then (cache, [info])
      else (cache.removePage info.manager info.index, [])
    else (cache, [])
  | info :: next :: rest =>
    if beyond cleaned cache then
      if alive info.manager then
        let (cache, chosen) := choose beyond alive (cleaned + info.pageSize) cache (next :: rest)
        (cache, info :: chosen)
      else choose beyond alive cleaned (cache.removePage info.manager info.index) rest
    else (cache, [])

section Choose

variable {beyond : Nat → CacheManager → Bool} {alive : Nat → Bool} {cleaned : Nat}
  {cache : CacheManager}

private theorem choose_under (under : ¬ beyond cleaned cache = true) (rest : List PageInfo) :
    choose beyond alive cleaned cache rest = (cache, []) := by
  unfold choose
  split
  · rfl
  · exact if_neg under
  · exact if_neg under

private theorem choose_live (exceeded : beyond cleaned cache = true)
    (live : alive info.manager = true) :
    choose beyond alive cleaned cache (info :: rest) =
      ((choose beyond alive (cleaned + info.pageSize) cache rest).1,
        info :: (choose beyond alive (cleaned + info.pageSize) cache rest).2) := by
  cases rest with
  | nil => simp only [choose, exceeded, live, if_true]
  | cons next rest => rw [choose, if_pos exceeded, if_pos live]

private theorem choose_dead (exceeded : beyond cleaned cache = true)
    (dead : ¬ alive info.manager = true)
    (skipped : PageInfo) :
    choose beyond alive cleaned cache (info :: skipped :: rest) =
      choose beyond alive cleaned (cache.removePage info.manager info.index) rest := by
  rw [choose, if_pos exceeded, if_neg dead]

private theorem choose_sublist (beyond : Nat → CacheManager → Bool) (alive : Nat → Bool)
    (cleaned : Nat)
    (cache : CacheManager) (rest : List PageInfo) :
    (choose beyond alive cleaned cache rest).2.Sublist rest ∧
      ∀ info ∈ (choose beyond alive cleaned cache rest).2, alive info.manager = true := by
  fun_induction choose beyond alive cleaned cache rest with
  | case1 => exact ⟨List.nil_sublist _, nofun⟩
  | case2 cleaned cache info exceeded live =>
      exact ⟨List.Sublist.refl _, fun other member => List.mem_singleton.mp member ▸ live⟩
  | case3 => exact ⟨List.nil_sublist _, nofun⟩
  | case4 => exact ⟨List.nil_sublist _, nofun⟩
  | case5 cleaned cache info next rest exceeded live cache' chosen result ih =>
      rw [result] at ih
      exact ⟨ih.1.cons_cons info, List.forall_mem_cons.mpr ⟨live, ih.2⟩⟩
  | case6 cleaned cache info next rest exceeded dead ih =>
      exact ⟨(ih.1.cons next).cons info, ih.2⟩
  | case7 => exact ⟨List.nil_sublist _, nofun⟩

private theorem choose_kept (cleaner : Cleaner) (beyond : Nat → CacheManager → Bool)
    (alive : Nat → Bool)
    (cleaned : Nat) (cache : CacheManager) (rest : List PageInfo) :
    (cleaner.queue (choose beyond alive cleaned cache rest).1).Sublist (cleaner.queue cache) ∧
      ∀ info ∈ cleaner.queue cache,
        info ∈ cleaner.queue (choose beyond alive cleaned cache rest).1 ∨
          alive info.manager = false := by
  have dropped (cache : CacheManager) {info : PageInfo} (dead : ¬ alive info.manager = true) :
      (cleaner.queue (cache.removePage info.manager info.index)).Sublist (cleaner.queue cache) ∧
        ∀ other ∈ cleaner.queue cache,
          other ∈ cleaner.queue (cache.removePage info.manager info.index) ∨
            alive other.manager = false := by
    rw [queue_removePage]
    refine ⟨CacheManager.erase_sublist _ _ _, fun other member => ?_⟩
    by_cases same : other.manager = info.manager ∧ other.index = info.index
    · right
      rw [same.1]
      exact Bool.eq_false_iff.mpr dead
    · exact .inl (CacheManager.mem_erase.mpr ⟨member, same⟩)
  have kept (cache : CacheManager) : (cleaner.queue cache).Sublist (cleaner.queue cache) ∧
      ∀ info ∈ cleaner.queue cache,
        info ∈ cleaner.queue cache ∨ alive info.manager = false :=
    ⟨List.Sublist.refl _, fun _ member => .inl member⟩
  fun_induction choose beyond alive cleaned cache rest with
  | case1 => exact kept _
  | case2 => exact kept _
  | case3 cleaned cache info exceeded dead => exact dropped cache dead
  | case4 => exact kept _
  | case5 cleaned cache info next rest exceeded live cache' chosen result ih => rwa [result] at ih
  | case6 cleaned cache info next rest exceeded dead ih =>
      obtain ⟨shorter, others⟩ := dropped cache dead
      refine ⟨ih.1.trans shorter, fun other member => ?_⟩
      rcases others other member with stays | gone
      · exact ih.2 other stays
      · exact .inr gone
  | case7 => exact kept _

end Choose

/-- The sizes of the pages that the iterator steps over, from the back of the queue on: each that
follows a page of a manager being deleted, and the first of the queue if it is such a page itself. -/
def passedOver (alive : Nat → Bool) : List PageInfo → Nat
  | [] => 0
  | [info] => if alive info.manager then 0 else info.pageSize
  | info :: next :: rest =>
    if alive info.manager then passedOver alive (next :: rest)
    else next.pageSize + passedOver alive rest

private theorem passedOver_live {alive : Nat → Bool} (live : alive info.manager = true) :
    passedOver alive (info :: rest) = passedOver alive rest := by
  cases rest with
  | nil => exact if_pos live
  | cons next rest => exact if_pos live

private theorem passedOver_le (alive : Nat → Bool) (rest : List PageInfo) :
    passedOver alive rest ≤ total rest := by
  fun_induction passedOver alive rest with
  | case1 => exact Nat.le_refl _
  | case2 info live => exact Nat.zero_le _
  | case3 info dead => exact Nat.le_refl _
  | case4 info next rest live ih =>
      rw [total_cons]
      exact Nat.le_trans ih (Nat.le_add_left _ _)
  | case5 info next rest dead ih =>
      rw [total_cons, total_cons]
      omega

namespace Selection

variable {memoryLimit margin : Nat} {alive : Nat → Bool} {cleaner : Cleaner}
  {state : Selection}

/-- A loop between two rounds, with the entries that its iterator has passed and those to come. -/
structure At (cleaner : Cleaner) (passed rest : List PageInfo) (state : Selection) : Prop where
  running : state.status = .running
  accounted : Accounted state.cache
  split : (cleaner.queue state.cache).reverse = passed ++ rest
  pageIt : state.pageIt = passed.getLast?.map fun info => (info.manager, info.index)

private theorem prev_at {passed rest : List PageInfo} {pageIt : QueueIterator}
    {queue : List PageInfo}
    (distinct : Distinct queue) (split : queue.reverse = passed ++ rest)
    (place : pageIt = passed.getLast?.map fun info => (info.manager, info.index)) :
    pageIt.prev queue = rest.head? := by
  have turned : queue = rest.reverse ++ passed.reverse := by
    rw [← List.reverse_append, ← split, List.reverse_reverse]
  cases last : passed.getLast? with
  | none =>
      rw [List.getLast?_eq_none_iff] at last
      subst last
      rw [place, turned]
      simp [QueueIterator.prev]
  | some info =>
      obtain ⟨front, rfl⟩ := List.getLast?_eq_some_iff.mp last
      rw [List.reverse_append, List.reverse_singleton, List.singleton_append] at turned
      rw [place, last, turned]
      rw [turned] at distinct
      exact (entryBefore_append distinct).trans List.getLast?_reverse

private theorem At.over_iff {passed rest : List PageInfo} (place : At cleaner passed rest state) :
    cleaner.over memoryLimit margin state.cleaned state.cache = true ↔
      cleaner.limit memoryLimit state.cache + state.cleaned <
        total passed + total rest + cleaner.below margin := by
  rw [Cleanup.over_iff place.accounted, ← total_reverse, place.split, total_append]

private theorem step_front {passed : List PageInfo} (place : At cleaner passed [] state)
    (beyond : cleaner.over memoryLimit margin state.cleaned state.cache = true) :
    (step memoryLimit margin alive cleaner state).status = .undefined := by
  unfold step
  rw [place.running]
  simp only [beyond, if_true, prev_at (distinct_queue place.accounted) place.split place.pageIt,
    List.head?_nil]

private theorem step_over {passed rest : List PageInfo} {info : PageInfo}
    (place : At cleaner passed (info :: rest) state)
    (beyond : cleaner.over memoryLimit margin state.cleaned state.cache = true) :
    step memoryLimit margin alive cleaner state = (state.select alive info).advance cleaner := by
  unfold step
  rw [place.running]
  simp only [beyond, if_true, prev_at (distinct_queue place.accounted) place.split place.pageIt,
    List.head?_cons]

private theorem advance_front {passed : List PageInfo}
    (distinct : Distinct (cleaner.queue state.cache))
    (split : (cleaner.queue state.cache).reverse = passed)
    (place : state.pageIt = passed.getLast?.map fun info => (info.manager, info.index)) :
    (state.advance cleaner).status = .undefined := by
  have prev := prev_at distinct (split.trans (List.append_nil passed).symm) place
  unfold advance
  rw [prev]
  rfl

private theorem advance_at {passed rest : List PageInfo} {info : PageInfo}
    (running : state.status = .running) (accounted : Accounted state.cache)
    (split : (cleaner.queue state.cache).reverse = passed ++ info :: rest)
    (place : state.pageIt = passed.getLast?.map fun info => (info.manager, info.index)) :
    state.advance cleaner = { state with pageIt := some (info.manager, info.index) } ∧
      At cleaner (passed ++ [info]) rest (state.advance cleaner) := by
  have moved : state.advance cleaner =
      { state with pageIt := some (info.manager, info.index) } := by
    unfold advance
    rw [prev_at (distinct_queue accounted) split place]
    rfl
  refine ⟨moved, ?_⟩
  rw [moved]
  refine ⟨running, accounted, ?_, ?_⟩
  · rw [List.append_assoc]
    exact split
  · rw [List.getLast?_append]
    rfl

private theorem step_stop (running : state.status = .running)
    (under : ¬ cleaner.over memoryLimit margin state.cleaned state.cache = true) :
    step memoryLimit margin alive cleaner state = { state with status := .stopped } := by
  unfold step
  rw [running]
  exact if_neg under

private theorem step_live {passed rest : List PageInfo} {info : PageInfo}
    (place : At cleaner passed (info :: rest) state)
    (beyond : cleaner.over memoryLimit margin state.cleaned state.cache = true)
    (live : alive info.manager = true) :
    ∃ next, step memoryLimit margin alive cleaner state = next ∧
      At cleaner (passed ++ [info]) rest next ∧ next.cache = state.cache ∧
        next.selected = state.selected ++ [info] ∧
          next.cleaned = state.cleaned + info.pageSize := by
  have selected : state.select alive info = { state with
      selected := state.selected ++ [info]
      cleaned := state.cleaned + info.pageSize } := if_pos live
  obtain ⟨moved, next⟩ := @advance_at cleaner (state.select alive info) passed rest info
    (by rw [selected]; exact place.running) (by rw [selected]; exact place.accounted)
    (by rw [selected]; exact place.split) (by rw [selected]; exact place.pageIt)
  refine ⟨_, step_over place beyond, next, ?_⟩
  rw [moved, selected]
  exact ⟨rfl, rfl, rfl⟩

private theorem select_dead {info : PageInfo} (dead : ¬ alive info.manager = true) :
    state.select alive info =
      { state with cache := state.cache.removePage info.manager info.index } := if_neg dead

private theorem dropped_split {passed rest : List PageInfo} {info : PageInfo}
    (place : At cleaner passed (info :: rest) state) :
    (cleaner.queue (state.cache.removePage info.manager info.index)).reverse = passed ++ rest := by
  rw [queue_removePage]
  exact erase_middle (distinct_queue place.accounted) place.split

private theorem step_dead_front {passed : List PageInfo} {info : PageInfo}
    (place : At cleaner passed [info] state)
    (beyond : cleaner.over memoryLimit margin state.cleaned state.cache = true)
    (dead : ¬ alive info.manager = true) :
    (step memoryLimit margin alive cleaner state).status = .undefined := by
  have accounted := place.accounted.removePage info.manager info.index
  rw [step_over place beyond, select_dead dead]
  exact advance_front (distinct_queue accounted) ((dropped_split place).trans (List.append_nil _))
    place.pageIt

private theorem step_dead {passed rest : List PageInfo} {info skipped : PageInfo}
    (place : At cleaner passed (info :: skipped :: rest) state)
    (beyond : cleaner.over memoryLimit margin state.cleaned state.cache = true)
    (dead : ¬ alive info.manager = true) :
    ∃ next, step memoryLimit margin alive cleaner state = next ∧
      At cleaner (passed ++ [skipped]) rest next ∧
        next.cache = state.cache.removePage info.manager info.index ∧
          next.selected = state.selected ∧ next.cleaned = state.cleaned := by
  obtain ⟨moved, next⟩ := @advance_at cleaner (state.select alive info) passed rest skipped
    (by rw [select_dead dead]; exact place.running)
    (by rw [select_dead dead]; exact place.accounted.removePage info.manager info.index)
    (by rw [select_dead dead]; exact dropped_split place)
    (by rw [select_dead dead]; exact place.pageIt)
  refine ⟨_, step_over place beyond, next, ?_⟩
  rw [moved, select_dead dead]
  exact ⟨rfl, rfl, rfl⟩

/-- A loop that has stopped with the choice from the entries to come. -/
structure Stops (memoryLimit margin : Nat) (alive : Nat → Bool) (cleaner : Cleaner)
    (rest : List PageInfo) (state final : Selection) : Prop where
  stopped : final.status = .stopped
  cache : final.cache = (choose (cleaner.over memoryLimit margin) alive state.cleaned state.cache
    rest).1
  selected : final.selected = state.selected ++ (choose (cleaner.over memoryLimit margin) alive
    state.cleaned state.cache rest).2
  cleaned : final.cleaned = state.cleaned + total (choose (cleaner.over memoryLimit margin) alive
    state.cleaned state.cache rest).2
  target : total (cleaner.queue final.cache) + cleaner.below margin ≤
    cleaner.limit memoryLimit state.cache + final.cleaned

private theorem At.stops {passed rest : List PageInfo} (place : At cleaner passed rest state)
    (under : ¬ cleaner.over memoryLimit margin state.cleaned state.cache = true) :
    Stops memoryLimit margin alive cleaner rest state
      (rounds memoryLimit margin alive cleaner state 1) := by
  have stop : rounds memoryLimit margin alive cleaner state 1 = { state with status := .stopped } :=
    step_stop place.running under
  have chosen := @choose_under _ alive _ _ under rest
  rw [stop]
  refine ⟨rfl, by rw [chosen], by rw [chosen, List.append_nil], by rw [chosen]; rfl, ?_⟩
  rw [Cleanup.over_iff place.accounted] at under
  exact Nat.not_lt.mp under

private theorem rounds_succ (state : Selection) (count : Nat) :
    rounds memoryLimit margin alive cleaner state (count + 1) =
      rounds memoryLimit margin alive cleaner (step memoryLimit margin alive cleaner state) count :=
  rfl

/-- A loop stops if what its iterator has passed over and will pass over can be kept, and does what
is undefined if not. -/
def Decided (memoryLimit margin : Nat) (alive : Nat → Bool) (cleaner : Cleaner)
    (passed rest : List PageInfo) (state : Selection) : Prop :=
  (total passed + passedOver alive rest + cleaner.below margin ≤
      cleaner.limit memoryLimit state.cache + state.cleaned →
    ∃ count, Stops memoryLimit margin alive cleaner rest state
      (rounds memoryLimit margin alive cleaner state count)) ∧
  (cleaner.limit memoryLimit state.cache + state.cleaned <
      total passed + passedOver alive rest + cleaner.below margin →
    ∃ count, (rounds memoryLimit margin alive cleaner state count).status = .undefined)

private theorem decided_under {passed rest : List PageInfo} (place : At cleaner passed rest state)
    (under : ¬ cleaner.over memoryLimit margin state.cleaned state.cache = true) :
    Decided memoryLimit margin alive cleaner passed rest state := by
  refine ⟨fun _ => ⟨1, place.stops under⟩, fun exceeded => ?_⟩
  have few := passedOver_le alive rest
  rw [place.over_iff] at under
  omega

private theorem decided_nil {passed : List PageInfo} (place : At cleaner passed [] state) :
    Decided memoryLimit margin alive cleaner passed [] state := by
  by_cases beyond : cleaner.over memoryLimit margin state.cleaned state.cache = true
  · refine ⟨fun fits => ?_, fun _ => ⟨1, step_front place beyond⟩⟩
    have exceeded := place.over_iff.mp beyond
    have none : total [] = passedOver alive [] := rfl
    omega
  · exact decided_under place beyond

private theorem decided_live {passed rest : List PageInfo} {info : PageInfo}
    (place : At cleaner passed (info :: rest) state) (live : alive info.manager = true)
    (later : ∀ next, At cleaner (passed ++ [info]) rest next →
      Decided memoryLimit margin alive cleaner (passed ++ [info]) rest next) :
    Decided memoryLimit margin alive cleaner passed (info :: rest) state := by
  by_cases beyond : cleaner.over memoryLimit margin state.cleaned state.cache = true
  · obtain ⟨next, stepped, there, same, selected, cleaned⟩ := step_live place beyond live
    obtain ⟨stops, undefined⟩ := later next there
    rw [same, cleaned, total_append, total_cons] at stops undefined
    have none : total [] = 0 := rfl
    have chosen := @choose_live rest info _ alive _ _ beyond live
    unfold Decided
    rw [passedOver_live live]
    constructor
    · intro fits
      obtain ⟨count, stops⟩ := stops (by omega)
      refine ⟨count + 1, ?_⟩
      rw [rounds_succ, stepped]
      refine ⟨stops.stopped, ?_, ?_, ?_, ?_⟩
      · rw [chosen, ← cleaned, ← same]
        exact stops.cache
      · rw [chosen, List.append_cons, ← selected, ← cleaned, ← same]
        exact stops.selected
      · rw [chosen, total_cons, ← Nat.add_assoc, ← cleaned, ← same]
        exact stops.cleaned
      · rw [← same]
        exact stops.target
    · intro exceeded
      obtain ⟨count, undefined⟩ := undefined (by omega)
      refine ⟨count + 1, ?_⟩
      rw [rounds_succ, stepped]
      exact undefined
  · exact decided_under place beyond

private theorem decided_dead_front {passed : List PageInfo} {info : PageInfo}
    (place : At cleaner passed [info] state) (dead : ¬ alive info.manager = true) :
    Decided memoryLimit margin alive cleaner passed [info] state := by
  by_cases beyond : cleaner.over memoryLimit margin state.cleaned state.cache = true
  · refine ⟨fun fits => ?_, fun _ => ⟨1, step_dead_front place beyond dead⟩⟩
    have exceeded := place.over_iff.mp beyond
    have whole : passedOver alive [info] = total [info] := if_neg dead
    omega
  · exact decided_under place beyond

private theorem decided_dead {passed rest : List PageInfo} {info skipped : PageInfo}
    (place : At cleaner passed (info :: skipped :: rest) state)
    (dead : ¬ alive info.manager = true)
    (later : ∀ next, At cleaner (passed ++ [skipped]) rest next →
      Decided memoryLimit margin alive cleaner (passed ++ [skipped]) rest next) :
    Decided memoryLimit margin alive cleaner passed (info :: skipped :: rest) state := by
  by_cases beyond : cleaner.over memoryLimit margin state.cleaned state.cache = true
  · obtain ⟨next, stepped, there, dropped, selected, cleaned⟩ := step_dead place beyond dead
    obtain ⟨stops, undefined⟩ := later next there
    have limit : cleaner.limit memoryLimit next.cache = cleaner.limit memoryLimit state.cache := by
      rw [dropped, limit_removePage]
    rw [limit, cleaned, total_append, total_cons] at stops undefined
    have none : total [] = 0 := rfl
    have chosen := @choose_dead rest info _ alive _ _ beyond dead skipped
    have beyond' : passedOver alive (info :: skipped :: rest) =
        skipped.pageSize + passedOver alive rest := if_neg dead
    unfold Decided
    rw [beyond']
    constructor
    · intro fits
      obtain ⟨count, stops⟩ := stops (by omega)
      refine ⟨count + 1, ?_⟩
      rw [rounds_succ, stepped]
      refine ⟨stops.stopped, ?_, ?_, ?_, ?_⟩
      · rw [chosen, ← dropped, ← cleaned]
        exact stops.cache
      · rw [chosen, ← dropped, ← cleaned, ← selected]
        exact stops.selected
      · rw [chosen, ← dropped, ← cleaned]
        exact stops.cleaned
      · rw [← limit]
        exact stops.target
    · intro exceeded
      obtain ⟨count, undefined⟩ := undefined (by omega)
      refine ⟨count + 1, ?_⟩
      rw [rounds_succ, stepped]
      exact undefined
  · exact decided_under place beyond

private theorem rounds_decided {passed rest : List PageInfo}
    (place : At cleaner passed rest state) :
    Decided memoryLimit margin alive cleaner passed rest state := by
  induction rest using passedOver.induct alive generalizing passed state with
  | case1 => exact decided_nil place
  | case2 info live => exact decided_live place live fun next there => decided_nil there
  | case3 info dead => exact decided_dead_front place dead
  | case4 info next rest live ih => exact decided_live place live fun _ there => ih there
  | case5 info skipped rest dead ih => exact decided_dead place dead fun _ there => ih there

private theorem rounds_ended {count : Nat}
    (ended : (rounds memoryLimit margin alive cleaner state count).status ≠ .running)
    (more : Nat) :
    rounds memoryLimit margin alive cleaner state (count + more) =
      rounds memoryLimit margin alive cleaner state count := by
  induction more with
  | zero => rfl
  | succ more ih =>
      have next : rounds memoryLimit margin alive cleaner state (count + more + 1) =
          step memoryLimit margin alive cleaner
            (rounds memoryLimit margin alive cleaner state (count + more)) :=
        Function.iterate_succ_apply' _ _ _
      rw [← Nat.add_assoc, next, ih]
      unfold step
      split
      · next running => exact absurd running ended
      · rfl

end Selection

/-- A selection that has stopped: the pages selected, oldest first and of managers that can be
locked, the pages of the other managers that were dropped, and the rest at the target. -/
structure Completed (memoryLimit margin : Nat) (alive : Nat → Bool) (cleaner : Cleaner)
    (cache : CacheManager) (final : Selection) : Prop where
  stopped : final.status = .stopped
  inOrder : final.selected.Sublist (cleaner.queue cache).reverse
  locked : ∀ info ∈ final.selected, alive info.manager = true
  remaining : (cleaner.queue final.cache).Sublist (cleaner.queue cache)
  dropped : ∀ info ∈ cleaner.queue cache,
    info ∈ cleaner.queue final.cache ∨ alive info.manager = false
  target : total (cleaner.queue final.cache) + cleaner.below margin ≤
    cleaner.limit memoryLimit cache + total final.selected

open Selection

/-- A selection loop never uses an iterator past the front of its queue or to an erased entry, and
stops with the total at the target, exactly if the pages that its iterator would step over are not
more than the target. -/
theorem selection_iff {cache : CacheManager} (accounted : Accounted cache)
    (memoryLimit margin : Nat) (alive : Nat → Bool) (cleaner : Cleaner) :
    ((∀ count, (rounds memoryLimit margin alive cleaner (start cache) count).status ≠
        .undefined) ∧
      ∃ count, Completed memoryLimit margin alive cleaner cache
        (rounds memoryLimit margin alive cleaner (start cache) count)) ↔
      passedOver alive (cleaner.queue cache).reverse + cleaner.below margin ≤
        cleaner.limit memoryLimit cache := by
  have place : At cleaner [] (cleaner.queue cache).reverse (start cache) :=
    ⟨rfl, accounted, rfl, rfl⟩
  obtain ⟨stops, undefined⟩ := @rounds_decided memoryLimit margin alive cleaner (start cache) [] _
    place
  have none : total [] = 0 := rfl
  have zero : (start cache).cleaned = 0 := rfl
  have same : (start cache).cache = cache := rfl
  rw [none, zero, same] at stops undefined
  constructor
  · intro ⟨never, _⟩
    by_contra exceeded
    obtain ⟨count, undefined⟩ := undefined (by omega)
    exact never count undefined
  · intro fits
    obtain ⟨count, stops⟩ := stops (by omega)
    obtain ⟨inOrder, locked⟩ := choose_sublist (cleaner.over memoryLimit margin) alive
      (start cache).cleaned (start cache).cache (cleaner.queue cache).reverse
    obtain ⟨remaining, dropped⟩ := choose_kept cleaner (cleaner.over memoryLimit margin) alive
      (start cache).cleaned (start cache).cache (cleaner.queue cache).reverse
    have selected := stops.selected
    rw [show (start cache).selected = [] from rfl, List.nil_append] at selected
    rw [← selected] at inOrder locked
    rw [← stops.cache] at remaining dropped
    have target := stops.target
    rw [stops.cleaned, ← selected, zero, Nat.zero_add] at target
    refine ⟨fun other => ?_, count, stops.stopped, inOrder, locked, remaining, dropped, target⟩
    intro undefined
    have ended : (rounds memoryLimit margin alive cleaner (start cache) count).status ≠ .running :=
      by rw [stops.stopped]; nofun
    rcases Nat.le_total count other with before | after
    · obtain ⟨more, rfl⟩ := Nat.le.dest before
      rw [rounds_ended ended, stops.stopped] at undefined
      cases undefined
    · obtain ⟨more, rfl⟩ := Nat.le.dest after
      have stays := @rounds_ended memoryLimit margin alive cleaner (start cache) other
        (by rw [undefined]; nofun) more
      rw [stays, undefined] at ended
      rw [← stays, stops.stopped] at undefined
      cases undefined

/-- The oldest page is dropped with its manager, the next one is stepped over, the newest one is
selected. -/
theorem selection_steps_over :
    ∃ count, Completed 12 2 (fun manager => manager != 2) .evict
      ⟨[⟨0, 0, 10⟩, ⟨1, 0, 5⟩, ⟨2, 0, 10⟩], [], 25, 0, 0⟩
      (rounds 12 2 (fun manager => manager != 2) .evict
        (start ⟨[⟨0, 0, 10⟩, ⟨1, 0, 5⟩, ⟨2, 0, 10⟩], [], 25, 0, 0⟩) count) :=
  ((@selection_iff ⟨[⟨0, 0, 10⟩, ⟨1, 0, 5⟩, ⟨2, 0, 10⟩], [], 25, 0, 0⟩
    ⟨by unfold Distinct; decide, by unfold Distinct; decide, by decide, by decide, by decide⟩ 12 2
    (fun manager => manager != 2) .evict).mpr (by decide)).2

/-- The last page left is dropped with its manager, or stepped over after such a page: either loop
goes past the front of its queue. -/
theorem deleted_manager_past_front :
    (rounds 5 0 (fun _ => false) .evict (start ⟨[⟨0, 0, 10⟩], [], 10, 0, 0⟩) 1).status =
        .undefined ∧
      (rounds 5 0 (fun manager => manager != 0) .evict
        (start ⟨[⟨1, 0, 10⟩, ⟨0, 0, 10⟩], [], 20, 0, 0⟩) 2).status = .undefined ∧
        (rounds 5 0 (fun manager => manager != 0) .flush
          (start ⟨[⟨1, 0, 10⟩, ⟨0, 0, 10⟩], [⟨1, 0, 10⟩, ⟨0, 0, 10⟩], 20, 20, 5⟩) 2).status =
          .undefined := by
  decide

end Andromeda.Cleanup
