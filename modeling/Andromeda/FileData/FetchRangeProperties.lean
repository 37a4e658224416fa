import Andromeda.FileData.FetchThreads
import Andromeda.FileData.ReadProperties

/-! The ranges that fetches ask for: `GetFetchSize` stops before the pages that are cached or
pending, and `StartFetch` and `RemovePendingFetch` keep the pending ranges apart. -/

set_option autoImplicit false

namespace Andromeda.FileData

/-- A pending range has this index. -/
def HasIndex (range : Nat × Nat) (index : Nat) : Prop :=
  range.1 ≤ index ∧ index < range.1 + range.2

/-- Two ranges without a common index. -/
def Apart (left right : Nat × Nat) : Prop := ∀ index, ¬ (HasIndex left index ∧ HasIndex right index)

theorem Apart.symm {left right : Nat × Nat} (apart : Apart left right) : Apart right left :=
  fun index both => apart index both.symm

theorem Apart.mono {left smaller right : Nat × Nat} (apart : Apart left right)
    (inside : ∀ index, HasIndex smaller index → HasIndex left index) : Apart smaller right :=
  fun index both => apart index ⟨inside index both.1, both.2⟩

/-- Pending ranges that have no index in common, with each other and with the failed pages. -/
structure Pending (pendingPages : List (Nat × Nat)) (failedPages : List Nat) : Prop where
  positive : ∀ range ∈ pendingPages, 0 < range.2
  apart : pendingPages.Pairwise Apart
  failed : ∀ index ∈ failedPages, ∀ range ∈ pendingPages, ¬ HasIndex range index

theorem Pending.perm {first second : List (Nat × Nat)} {failedPages : List Nat}
    (pending : Pending first failedPages) (same : first.Perm second) :
    Pending second failedPages where
  positive range member := pending.positive range (same.mem_iff.mpr member)
  apart := (same.pairwise_iff fun apart => apart.symm).mp pending.apart
  failed index member range found := pending.failed index member range (same.mem_iff.mpr found)

theorem pending_cons_iff {range : Nat × Nat} {rest : List (Nat × Nat)} {failedPages : List Nat} :
    Pending (range :: rest) failedPages ↔
      0 < range.2 ∧ (∀ other ∈ rest, Apart range other) ∧
        (∀ index ∈ failedPages, ¬ HasIndex range index) ∧ Pending rest failedPages := by
  constructor
  · intro pending
    obtain ⟨apart, others⟩ := List.pairwise_cons.mp pending.apart
    exact ⟨pending.positive range List.mem_cons_self, apart,
      fun index member => pending.failed index member range List.mem_cons_self,
      fun other member => pending.positive other (List.mem_cons_of_mem _ member), others,
      fun index member other found =>
        pending.failed index member other (List.mem_cons_of_mem _ found)⟩
  · rintro ⟨positive, apart, failed, rest⟩
    refine ⟨List.forall_mem_cons.mpr ⟨positive, rest.positive⟩,
      List.pairwise_cons.mpr ⟨apart, rest.apart⟩, fun index member => ?_⟩
    exact List.forall_mem_cons.mpr ⟨failed index member, rest.failed index member⟩

namespace PageManager

variable {config : Config} {index backendSize : Nat} {manager : PageManager}

theorem isFetchPending_iff :
    isFetchPending manager index = true ↔ ∃ range ∈ manager.pendingPages, HasIndex range index := by
  simp [isFetchPending, HasIndex]

private theorem countBeforePending_spec (readCount : Nat) :
    countBeforePending manager index readCount ≤ readCount ∧
      ∀ place, index ≤ place → place < index + countBeforePending manager index readCount →
        isFetchPending manager place = false := by
  induction readCount generalizing index with
  | zero => exact ⟨Nat.le_refl _, fun place from' before => absurd before (Nat.not_lt.mpr from')⟩
  | succ readCount ih =>
      unfold countBeforePending
      split
      · exact ⟨Nat.zero_le _, fun place from' before => absurd before (Nat.not_lt.mpr from')⟩
      · next free =>
        obtain ⟨shorter, later⟩ := @ih (index + 1)
        refine ⟨Nat.succ_le_succ shorter, fun place from' before => ?_⟩
        rcases Nat.eq_or_lt_of_le from' with rfl | after
        · exact Bool.eq_false_iff.mpr free
        · exact later place after (by omega)

/-- The pages that a fetch asks for are neither cached nor pending, and the backend has them. -/
theorem fetchSizeAt_spec (config : Config) (backendSize : Nat) (manager : PageManager)
    (index : Nat) :
    (∀ place, index ≤ place → place < index + fetchSizeAt config backendSize manager index →
      manager.pages.find? place = none ∧ isFetchPending manager place = false) ∧
    (fetchSizeAt config backendSize manager index ≠ 0 →
      backendSize ≠ 0 ∧ index + fetchSizeAt config backendSize manager index - 1 ≤
        (backendSize - 1) / config.pageSize) := by
  have nothing : (∀ place, index ≤ place → place < index + 0 →
      manager.pages.find? place = none ∧ isFetchPending manager place = false) ∧
      ((0 : Nat) ≠ 0 → backendSize ≠ 0 ∧ index + 0 - 1 ≤ (backendSize - 1) / config.pageSize) :=
    ⟨fun place from' before => absurd before (Nat.not_lt.mpr from'), fun some => absurd rfl some⟩
  unfold fetchSizeAt
  split
  · exact nothing
  · next nonempty =>
    dsimp only
    split
    · exact nothing
    · next inside =>
      split
      · exact nothing
      · next missing =>
        have missing : manager.pages.find? index = none := Option.not_isSome_iff_eq_none.mp missing
        -- the bound by the backend's end, then the one by the next page
        generalize bound : (if 0 < index then
          min ((backendSize - 1) / config.pageSize - index + 1) manager.fetchSize else 1) = readCount
        have within : readCount ≤ (backendSize - 1) / config.pageSize - index + 1 := by
          rw [← bound]
          split
          · exact Nat.min_le_left _ _
          · omega
        have limited (limit : Nat) (smaller : limit ≤ readCount)
            (uncached : ∀ place, index < place → place < index + limit →
              manager.pages.find? place = none) :
            (∀ place, index ≤ place → place < index + countBeforePending manager index limit →
              manager.pages.find? place = none ∧ isFetchPending manager place = false) ∧
            (countBeforePending manager index limit ≠ 0 → backendSize ≠ 0 ∧
              index + countBeforePending manager index limit - 1 ≤
                (backendSize - 1) / config.pageSize) := by
          obtain ⟨shorter, free⟩ := @countBeforePending_spec index manager limit
          refine ⟨fun place from' before => ⟨?_, free place from' before⟩,
            fun some => ⟨nonempty, by omega⟩⟩
          rcases Nat.eq_or_lt_of_le from' with rfl | after
          · exact missing
          · exact uncached place after (by omega)
        cases next : (manager.pages.entriesFrom (index + 1)).head? with
        | none =>
            refine limited readCount (Nat.le_refl _) fun place after _ => ?_
            cases cached : manager.pages.find? place with
            | none => rfl
            | some page =>
                have member : (place, page) ∈ manager.pages.entriesFrom (index + 1) :=
                  Library.KeyMap.mem_entriesFrom.mpr ⟨after, cached⟩
                rw [List.head?_eq_none_iff.mp next] at member
                cases member
        | some first =>
            refine limited (min (first.1 - index) readCount) (Nat.min_le_right _ _)
              fun place after before => ?_
            cases cached : manager.pages.find? place with
            | none => rfl
            | some page =>
                have member : (place, page) ∈ manager.pages.entriesFrom (index + 1) :=
                  Library.KeyMap.mem_entriesFrom.mpr ⟨after, cached⟩
                have sorted := manager.pages.sorted_entriesFrom (index + 1)
                obtain ⟨others, entries⟩ := List.head?_eq_some_iff.mp next
                rw [entries] at member sorted
                have later : first.1 ≤ place := by
                  rcases List.mem_cons.mp member with rfl | member
                  · exact Nat.le_refl _
                  · exact Nat.le_of_lt ((List.pairwise_cons.mp sorted).1 _ member)
                omega

/-- A new range leaves the failed pages. -/
theorem startFetch_pending {world : World} {readCount : Nat}
    (pending : Pending world.pageManager.pendingPages world.pageManager.failedPages)
    (positive : readCount ≠ 0)
    (free : ∀ place, index ≤ place → place < index + readCount →
      isFetchPending world.pageManager place = false) :
    Pending (startFetch world index readCount).pageManager.pendingPages
      (startFetch world index readCount).pageManager.failedPages := by
  refine Pending.perm ?_ (@List.perm_append_comm _ [(index, readCount)] _)
  refine pending_cons_iff.mpr ⟨Nat.pos_of_ne_zero positive, ?_, ?_, pending.positive,
    pending.apart, fun failed member => pending.failed failed (List.mem_of_mem_filter member)⟩
  · intro other member place both
    have notPending := free place both.1.1 both.1.2
    rw [isFetchPending_iff.mpr ⟨other, member, both.2⟩] at notPending
    cases notPending
  · intro failed member covers
    have outside := (List.mem_filter.mp member).2
    simp [covers.1, covers.2] at outside

/-- What `RemovePendingFetch` leaves of a range and of the others. -/
theorem removePending_perm {pendingPages rest : List (Nat × Nat)} {failedPages : List Nat}
    {count : Nat} (pending : Pending pendingPages failedPages) (idxOnly : Bool)
    (owners : pendingPages.Perm ((index, count) :: rest)) :
    ∃ after, removePending index idxOnly pendingPages = some after ∧
      after.Perm ((if !idxOnly || count - 1 = 0 then [] else [(index + 1, count - 1)]) ++ rest) := by
  have member : (index, count) ∈ pendingPages := owners.mem_iff.mpr List.mem_cons_self
  obtain ⟨before, later, split⟩ := List.append_of_mem member
  have others : rest.Perm (before ++ later) := by
    rw [split] at owners
    exact (owners.symm.trans List.perm_middle).cons_inv
  have skips : ∀ range ∈ before, range.1 ≠ index := by
    intro range found same
    have apart := pending.apart
    have positive := pending.positive range (by rw [split]; exact List.mem_append_left _ found)
    have length := pending.positive (index, count) member
    rw [split, List.pairwise_append] at apart
    have both := apart.2.2 range found (index, count) List.mem_cons_self index
    dsimp only at length
    refine both ⟨⟨by omega, by omega⟩, ⟨Nat.le_refl _, by dsimp only; omega⟩⟩
  have result : removePending index idxOnly pendingPages = some (before ++
      ((if !idxOnly || count - 1 = 0 then [] else [(index + 1, count - 1)]) ++ later)) := by
    rw [split]
    clear split others member
    induction before with
    | nil =>
        simp only [List.nil_append, removePending, if_true]
        split
        · rfl
        · rfl
    | cons range before ih =>
        obtain ⟨first, length⟩ := range
        have other : index ≠ first := fun same => skips (first, length) List.mem_cons_self same.symm
        have tail := ih fun range found => skips range (List.mem_cons_of_mem _ found)
        simp only [List.cons_append, removePending, other, if_false, tail, Option.map_some]
  refine ⟨_, result, ?_⟩
  refine List.perm_append_comm_assoc _ _ _ |>.trans ?_
  exact List.Perm.append_left _ others.symm

end PageManager

end Andromeda.FileData
