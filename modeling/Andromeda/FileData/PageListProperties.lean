import Andromeda.FileData.PageBackend

/-! What a page list sends: the stream function hands over the pages' data in
order, and stops at the first short page. -/

set_option autoImplicit false

namespace Andromeda.FileData

open Andromeda.Library

/-- A page list that can be sent whole: only its last page may be short. -/
structure Sendable (config : Config) (pages : List Page) : Prop where
  full : ∀ place, place + 1 < pages.length →
    ((pages.map Page.data).getD place []).length = config.pageSize
  fits : ∀ place, place < pages.length →
    ((pages.map Page.data).getD place []).length ≤ config.pageSize

namespace PageBackend

variable {config : Config} {pages : List Page}

theorem totalSize_eq (pages : List Page) :
    totalSize pages = (pages.map Page.data).flatten.length := by
  simp only [totalSize, List.length_flatten, List.map_map, Function.comp_def]
  rfl

/-- One buffer of the stream function. -/
theorem writeFunc_spec (sendable : Sendable config pages) (offset buflen : Nat) :
    writeFunc config pages offset buflen =
      if offset < totalSize pages then
        (((pages.getD (offset / config.pageSize) ⟨[], false⟩).data.drop
          (offset % config.pageSize)).take buflen, true)
      else ([], false) := by
  have pagePos := config.pageSize_pos
  have position : offset - offset / config.pageSize * config.pageSize =
      offset % config.pageSize := by
    have split := Nat.div_add_mod offset config.pageSize
    rw [Nat.mul_comm] at split
    omega
  have located : offset < totalSize pages ↔ offset % config.pageSize <
      ((pages.map Page.data).getD (offset / config.pageSize) []).length := by
    rw [← Bytes.lt_length_flatten_iff _ (by simpa using sendable.full) (by simpa using sendable.fits)
      (Nat.mod_lt offset pagePos), Nat.div_add_mod', totalSize_eq]
  unfold writeFunc
  simp only [position]
  cases found : pages[offset / config.pageSize]? with
  | none =>
      have past : ¬ offset < totalSize pages := by simp [located, found]
      rw [if_neg past]
  | some page =>
      have inside : offset < totalSize pages ↔ offset % config.pageSize < page.size := by
        simpa [found, Page.size] using located
      by_cases bound : offset < totalSize pages
      · have notPast : ¬ page.size ≤ offset % config.pageSize := by
          have := inside.mp bound
          omega
        simp [bound, notPast, found]
      · have past : page.size ≤ offset % config.pageSize := by
          have := mt inside.mpr bound
          omega
        simp [bound, past]

/-- What is written before the end of the pages. -/
theorem writeFunc_inside (sendable : Sendable config pages) {offset buflen : Nat}
    (inside : offset < totalSize pages) (positive : 0 < buflen) :
    ∃ written, writeFunc config pages offset buflen = (written, true) ∧
      written ≠ [] ∧ written <+: (pages.map Page.data).flatten.drop offset := by
  have written := writeFunc_spec sendable offset buflen
  rw [if_pos inside] at written
  have located : offset % config.pageSize <
      ((pages.map Page.data).getD (offset / config.pageSize) []).length := by
    rw [← Bytes.lt_length_flatten_iff _ (by simpa using sendable.full)
      (by simpa using sendable.fits) (Nat.mod_lt offset config.pageSize_pos),
      Nat.div_add_mod', ← totalSize_eq]
    exact inside
  have block : (pages.map Page.data).getD (offset / config.pageSize) [] =
      (pages.getD (offset / config.pageSize) ⟨[], false⟩).data := by
    simp only [List.getD_eq_getElem?_getD, List.getElem?_map]
    cases pages[offset / config.pageSize]? <;> rfl
  have rest := Bytes.drop_flatten (by simpa using sendable.full) located
  rw [Nat.div_add_mod', block] at rest
  rw [block] at located
  refine ⟨_, written, ?_, ?_⟩
  · intro nothing
    have short := congrArg List.length nothing
    simp only [List.length_take, List.length_drop, List.length_nil] at short
    omega
  · rw [rest]
    exact (List.take_prefix _ _).trans (List.prefix_append _ _)

/-- A transport that reads the stream function to its end gets the rest of the
pages' data, whatever its buffer size. -/
private theorem drain_writeFunc (sendable : Sendable config pages) {bufferSize : Nat}
    (bufferPos : 0 < bufferSize) {fuel offset : Nat} (bound : offset ≤ totalSize pages)
    (enough : totalSize pages - offset < fuel) :
    (writeFunc config pages).drain bufferSize fuel offset =
      (pages.map Page.data).flatten.drop offset := by
  induction fuel generalizing offset with
  | zero => omega
  | succ fuel ih =>
      rcases Nat.lt_or_ge offset (totalSize pages) with inside | past
      · obtain ⟨written, result, some, left, rest⟩ := writeFunc_inside sendable inside bufferPos
        have longer := List.length_pos_of_ne_nil some
        have remaining := congrArg List.length rest
        rw [List.length_drop, List.length_append, ← totalSize_eq] at remaining
        have later : (pages.map Page.data).flatten.drop (offset + written.length) = left := by
          rw [← List.drop_drop, ← rest, List.drop_left]
        have tail := @ih (offset + written.length) (by omega) (by omega)
        simp only [WriteFunc.drain, result, if_true, tail, later, rest]
      · have ended : offset = totalSize pages := by omega
        have result := writeFunc_spec sendable offset bufferSize
        rw [if_neg (Nat.not_lt.mpr past)] at result
        simp only [WriteFunc.drain, result, Bool.false_eq_true, if_false]
        rw [ended, totalSize_eq, List.drop_length]

theorem pageListData_eq (sendable : Sendable config pages) :
    pageListData config pages = (pages.map Page.data).flatten := by
  rw [pageListData, drain_writeFunc sendable config.streamBufferSize_pos (Nat.zero_le _)
    (Nat.lt_succ_of_le (Nat.sub_le _ _)), List.drop_zero]

end PageBackend

end Andromeda.FileData
