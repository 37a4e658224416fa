import Andromeda.Allocation.CachingAllocatorProperties

/-! The size of the free pool. Its limit is the peak of the allocated memory less the baseline,
in unsigned arithmetic: below the baseline it wraps around, and everything freed is kept. -/

set_option autoImplicit false

namespace Andromeda.Allocation.Memory

open Andromeda.Library CachingAllocator

variable {settings : Settings} {memory : Memory}

/-- The bytes that the callers have. -/
def liveBytes (settings : Settings) (memory : Memory) : Nat :=
  Block.total memory.live * settings.pageSize

/-- The bytes in the free pool. -/
def cachedBytes (settings : Settings) (memory : Memory) : Nat :=
  Block.total memory.allocator.freeQueue * settings.pageSize

/-- The peak of the allocated bytes over a sequence of calls. -/
def peak (settings : Settings) : Memory → List Call → Nat
  | memory, [] => memory.liveBytes settings
  | memory, call :: rest =>
    max (memory.liveBytes settings) (peak settings (memory.step settings call) rest)

/-- A call that gives pages back, with an allocation that has reached the baseline before. -/
def FreesFromBaseline (settings : Settings) (memory : Memory) : Call → Prop
  | .alloc _ _ => True
  | .free ptr pages => ptr ≠ 0 → pages ≠ 0 → settings.baseline ≤ memory.allocator.maxAlloc

instance (settings : Settings) (memory : Memory) (call : Call) :
    Decidable (memory.FreesFromBaseline settings call) :=
  match call with
  | .alloc _ _ => inferInstanceAs (Decidable True)
  | .free _ _ => inferInstanceAs (Decidable (_ → _))

private theorem poolLimit_eq {allocator : CachingAllocator}
    (reached : settings.baseline ≤ allocator.maxAlloc)
    (fits : allocator.maxAlloc < wordSize) :
    allocator.poolLimit settings = allocator.maxAlloc - settings.baseline :=
  subSize_eq reached fits

private theorem maxAlloc_lt_poolLimit {allocator : CachingAllocator}
    (below : allocator.maxAlloc < settings.baseline) :
    allocator.maxAlloc < allocator.poolLimit settings := by
  have fits := settings.fits
  unfold poolLimit subSize
  rw [Nat.mod_eq_of_lt (by omega)]
  omega

namespace Valid

private theorem step_maxAlloc (valid : Valid settings memory) {call : Call}
    (permitted : memory.Permitted settings call) :
    (memory.step settings call).allocator.maxAlloc =
      max memory.allocator.maxAlloc ((memory.step settings call).liveBytes settings) := by
  have after := valid.step permitted
  have peak := after.peak
  rw [after.curAlloc] at peak
  have before := valid.peak
  rw [valid.curAlloc] at before
  cases call with
  | alloc pages fresh =>
      by_cases none : pages = 0
      · rw [none, step_alloc_zero]
        exact (max_eq_left before).symm
      · obtain ⟨ptr, next, _, _, maxAlloc, same, _, _⟩ := valid.alloc none permitted
        have exact_ := after.curAlloc
        rw [same] at exact_ ⊢
        rw [maxAlloc, exact_, max_comm]
        rfl
  | free ptr pages =>
      by_cases none : ptr = 0 ∨ pages = 0
      · rw [step_free_nothing none]
        exact (max_eq_left before).symm
      · obtain ⟨_, next, _, _, maxAlloc, _, _, stepped, _⟩ := valid.free (not_or.mp none) permitted
        have same : (memory.step settings (.free ptr pages)).allocator.maxAlloc =
            memory.allocator.maxAlloc := by
          rw [stepped]
          exact maxAlloc
        rw [same] at peak ⊢
        exact (max_eq_left peak).symm

private theorem run_maxAlloc (valid : Valid settings memory) {calls : List Call}
    (permitted : EachStep (Memory.step settings) (Permitted settings) memory calls) :
    (memory.run settings calls).allocator.maxAlloc =
      max memory.allocator.maxAlloc (memory.peak settings calls) := by
  induction calls generalizing memory with
  | nil =>
      have peak := valid.peak
      rw [valid.curAlloc] at peak
      exact (max_eq_left peak).symm
  | cons call rest ih =>
      have peak := valid.peak
      rw [valid.curAlloc] at peak
      have whole := ih (valid.step permitted.1) permitted.2
      rw [valid.step_maxAlloc permitted.1] at whole
      have first : (memory.step settings call).liveBytes settings ≤
          (memory.step settings call).peak settings rest := by
        cases rest with
        | nil => exact Nat.le_refl _
        | cons _ _ => exact Nat.le_max_left _ _
      show ((memory.step settings call).run settings rest).allocator.maxAlloc = _
      rw [whole, Memory.peak]
      unfold liveBytes at first ⊢
      omega

private theorem free_within (valid : Valid settings memory) {ptr pages : Nat}
    (some_ : ptr ≠ 0 ∧ pages ≠ 0) (permitted : memory.Permitted settings (.free ptr pages))
    (reached : settings.baseline ≤ memory.allocator.maxAlloc) :
    (memory.step settings (.free ptr pages)).cachedBytes settings ≤
      memory.allocator.maxAlloc - settings.baseline := by
  obtain ⟨_, next, _, _, maxAlloc, enough, _, stepped, after⟩ := valid.free some_ permitted
  have exact_ := after.curFree
  rw [stepped] at exact_
  rw [stepped]
  rw [poolLimit_eq (by rw [maxAlloc]; exact reached) (by rw [maxAlloc]; exact valid.fits),
    maxAlloc] at enough
  exact (show Block.total next.freeQueue * settings.pageSize = next.curFree from
    exact_.symm).trans_le enough

private theorem free_below (valid : Valid settings memory) {ptr pages : Nat}
    (some_ : ptr ≠ 0 ∧ pages ≠ 0) (permitted : memory.Permitted settings (.free ptr pages))
    (below : memory.allocator.maxAlloc < settings.baseline) :
    0 < (memory.step settings (.free ptr pages)).cachedBytes settings := by
  obtain ⟨returned, next, _, queue, maxAlloc, _, last, stepped, after⟩ :=
    valid.free some_ permitted
  have kept : next.freeQueue ≠ [] := by
    intro empty
    rw [empty, List.nil_append] at queue
    have final : returned.getLast? = some ⟨ptr, pages⟩ := by
      rw [← List.head?_reverse, ← queue]
      rfl
    have more := last _ final
    rw [empty, Block.total_nil, Nat.zero_add] at more
    have beyond : next.maxAlloc < next.poolLimit settings :=
      maxAlloc_lt_poolLimit (by rw [maxAlloc]; exact below)
    have inside : ∃ block ∈ memory.live, block.contains ⟨ptr, pages⟩ = true := by
      rcases permitted with null | none | inside
      · exact absurd null some_.1
      · exact absurd none some_.2
      · exact inside
    have total := Block.total_takeOut inside
    have freed : pages * settings.pageSize ≤ memory.allocator.curAlloc := by
      rw [valid.curAlloc, total]
      exact Nat.mul_le_mul_right _ (Nat.le_add_right _ _)
    have peak := valid.peak
    dsimp only at more
    omega
  rw [stepped]
  obtain ⟨newest, others, split⟩ := List.exists_cons_of_ne_nil kept
  have length := after.placed.some newest (List.mem_append_left _ (by
    rw [stepped]
    show newest ∈ next.freeQueue
    rw [split]
    exact List.mem_cons_self))
  show 0 < Block.total next.freeQueue * settings.pageSize
  rw [split, Block.total_cons]
  exact Nat.mul_pos (by omega) settings.positive

private theorem step_within (valid : Valid settings memory) {call : Call}
    (permitted : memory.Permitted settings call) (from_ : memory.FreesFromBaseline settings call)
    (within : memory.cachedBytes settings ≤ memory.allocator.maxAlloc - settings.baseline) :
    (memory.step settings call).cachedBytes settings ≤
      (memory.step settings call).allocator.maxAlloc - settings.baseline := by
  have grows := valid.step_maxAlloc permitted
  cases call with
  | alloc pages fresh =>
      by_cases none : pages = 0
      · rw [none, step_alloc_zero]
        exact within
      · obtain ⟨ptr, next, _, smaller, _, same, _, _⟩ := valid.alloc none permitted
        have less : (memory.step settings (.alloc pages fresh)).cachedBytes settings ≤
            memory.cachedBytes settings := by
          unfold cachedBytes
          rw [same]
          exact Nat.mul_le_mul_right _ smaller
        omega
  | free ptr pages =>
      by_cases none : ptr = 0 ∨ pages = 0
      · rw [step_free_nothing none]
        exact within
      · have some_ := not_or.mp none
        have bound := valid.free_within some_ permitted (from_ some_.1 some_.2)
        omega

end Valid

/-- While every free is made with a peak that has reached the baseline, the pool stays within the
difference. After a free the pool is within it exactly if the peak has reached the baseline, and
exactly then the subtraction for the limit does not wrap. -/
theorem pool_bound {calls : List Call}
    (permitted : EachStep (step settings) (Permitted settings) init calls) :
    let memory := init.run settings calls
    let reached := init.peak settings calls
    (EachStep (step settings) (FreesFromBaseline settings) init calls →
        memory.cachedBytes settings ≤ reached - settings.baseline) ∧
      ∀ ptr pages, ptr ≠ 0 → pages ≠ 0 → memory.Permitted settings (.free ptr pages) →
        let after := memory.step settings (.free ptr pages)
        (after.cachedBytes settings ≤ reached - settings.baseline ↔
            settings.baseline ≤ reached) ∧
          (after.allocator.poolLimit settings = reached - settings.baseline ↔
            settings.baseline ≤ reached) := by
  intro memory reached
  have valid : Valid settings memory := (valid_init settings).run permitted
  have maxAlloc : memory.allocator.maxAlloc = reached := by
    have same := (valid_init settings).run_maxAlloc permitted
    exact same.trans (Nat.max_eq_right (Nat.zero_le _))
  constructor
  · intro each
    have keep (before : Memory) (call : Call)
        (meets : before.Permitted settings call ∧ before.FreesFromBaseline settings call)
        (holds : Valid settings before ∧
          before.cachedBytes settings ≤ before.allocator.maxAlloc - settings.baseline) :
        Valid settings (before.step settings call) ∧
          (before.step settings call).cachedBytes settings ≤
            (before.step settings call).allocator.maxAlloc - settings.baseline :=
      ⟨holds.1.step meets.1, holds.1.step_within meets.1 meets.2 holds.2⟩
    have start : init.cachedBytes settings ≤ init.allocator.maxAlloc - settings.baseline := by
      simp [cachedBytes, init, CachingAllocator.init]
    rw [← maxAlloc]
    exact (run_preserves keep ⟨valid_init settings, start⟩ (permitted.and each)).2
  · intro ptr pages nonnull some_ may after
    have same : after.allocator.maxAlloc = reached := by
      obtain ⟨_, next, _, _, unchanged, _, _, stepped, _⟩ := valid.free ⟨nonnull, some_⟩ may
      show (memory.step settings (.free ptr pages)).allocator.maxAlloc = reached
      rw [stepped, ← maxAlloc]
      exact unchanged
    have afterValid := valid.step may
    constructor
    · constructor
      · intro within
        by_contra below
        have kept := valid.free_below ⟨nonnull, some_⟩ may (by omega)
        have none : reached - settings.baseline = 0 := by omega
        rw [none] at within
        exact absurd kept (Nat.not_lt.mpr within)
      · intro enough
        have within := valid.free_within ⟨nonnull, some_⟩ may (by omega)
        rw [maxAlloc] at within
        exact within
    · constructor
      · intro limit
        by_contra below
        have wraps : after.allocator.maxAlloc < after.allocator.poolLimit settings :=
          maxAlloc_lt_poolLimit (by omega)
        omega
      · intro enough
        have reaches : settings.baseline ≤ after.allocator.maxAlloc := by
          rw [same]
          exact enough
        rw [poolLimit_eq reaches afterValid.fits, same]

/-- With a baseline of one page, two pages are allocated and one of them is freed. -/
theorem pool_bound_reached :
    (init.run (usualPages 4096 (by decide)) [.alloc 2 1, .free 1 1]).cachedBytes
        (usualPages 4096 (by decide)) ≤
      init.peak (usualPages 4096 (by decide)) [.alloc 2 1, .free 1 1] - 4096 :=
  (@pool_bound (usualPages 4096 (by decide)) [.alloc 2 1, .free 1 1]
    ⟨by decide +kernel, by decide +kernel, trivial⟩).1
      ⟨by decide +kernel, by decide +kernel, trivial⟩

/-- With a baseline of two pages, a page is allocated and freed: it stays in the pool. -/
theorem page_kept_below_baseline :
    EachStep (step (usualPages 8192 (by decide))) (Permitted (usualPages 8192 (by decide))) init
        [.alloc 1 1, .free 1 1] ∧
      ¬(init.run (usualPages 8192 (by decide)) [.alloc 1 1, .free 1 1]).cachedBytes
          (usualPages 8192 (by decide)) ≤
        init.peak (usualPages 8192 (by decide)) [.alloc 1 1, .free 1 1] - 8192 :=
  ⟨⟨by decide +kernel, by decide +kernel, trivial⟩, by decide +kernel⟩

end Andromeda.Allocation.Memory
