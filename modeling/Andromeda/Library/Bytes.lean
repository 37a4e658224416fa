import Mathlib.Order.Defs.LinearOrder

/-! Finite byte strings read as zero-extended arrays. A string is determined by
its length and its cells, so resizing, overwriting and slicing are compared cell
by cell. -/

set_option autoImplicit false

namespace Andromeda.Library.Bytes

variable {α : Type} [Zero α]

/-- The cell at a position, zero past the end. -/
def byteAt (data : List α) (position : Nat) : α :=
  data.getD position 0

/-- Cut or zero-extend to an exact length. -/
def resize (data : List α) (size : Nat) : List α :=
  data.take size ++ List.replicate (size - data.length) 0

/-- Replace the cells from `offset` on, zero-filling a hole before it. -/
def overwrite (data : List α) (offset : Nat) (written : List α) : List α :=
  resize data offset ++ written ++ data.drop (offset + written.length)

/-- The cells of a window, without extension past the end. -/
def slice (data : List α) (offset length : Nat) : List α :=
  (data.drop offset).take length

@[simp] theorem byteAt_nil (position : Nat) : byteAt ([] : List α) position = 0 := by
  simp [byteAt]

theorem byteAt_of_length_le {data : List α} {position : Nat}
    (past : data.length ≤ position) : byteAt data position = 0 := by
  simp [byteAt, List.getElem?_eq_none past]

private theorem byteAt_append (left right : List α) (position : Nat) :
    byteAt (left ++ right) position =
      if position < left.length then byteAt left position
      else byteAt right (position - left.length) := by
  unfold byteAt
  split
  · next inside => simp [List.getElem?_append_left inside]
  · next outside => simp [List.getElem?_append_right (Nat.le_of_not_lt outside)]

theorem byteAt_take (data : List α) (size position : Nat) :
    byteAt (data.take size) position =
      if position < size then byteAt data position else 0 := by
  unfold byteAt
  split
  · next inside => simp [List.getElem?_take_of_lt inside]
  · next outside => simp [List.getElem?_take, outside]

theorem byteAt_drop (data : List α) (size position : Nat) :
    byteAt (data.drop size) position = byteAt data (size + position) := by
  simp [byteAt]

theorem byteAt_replicate (size position : Nat) :
    byteAt (List.replicate size (0 : α)) position = 0 := by
  simp only [byteAt, List.getD_eq_getElem?_getD, List.getElem?_replicate]
  split <;> rfl

/-- Two strings of one length with the same cells are equal. -/
theorem ext_byteAt {left right : List α} (sameLength : left.length = right.length)
    (sameCells : ∀ position, byteAt left position = byteAt right position) :
    left = right := by
  apply List.ext_getElem sameLength
  intro position insideLeft insideRight
  have same := sameCells position
  simpa [byteAt, insideLeft, insideRight] using same

@[simp] theorem length_resize (data : List α) (size : Nat) :
    (resize data size).length = size := by
  simp only [resize, List.length_append, List.length_take, List.length_replicate]
  omega

theorem byteAt_resize (data : List α) (size position : Nat) :
    byteAt (resize data size) position =
      if position < size then byteAt data position else 0 := by
  simp only [resize, byteAt_append, byteAt_take, byteAt_replicate, List.length_take]
  by_cases inside : position < size
  · by_cases stored : position < data.length
    · rw [if_pos (show position < min size data.length by omega), if_pos inside]
    · rw [if_neg (show ¬ position < min size data.length by omega), if_pos inside,
        byteAt_of_length_le (Nat.le_of_not_lt stored)]
  · rw [if_neg (show ¬ position < min size data.length by omega), if_neg inside]

theorem resize_of_length_eq {data : List α} {size : Nat} (same : data.length = size) :
    resize data size = data := by
  subst same
  simp [resize]

@[simp] theorem length_overwrite (data : List α) (offset : Nat) (written : List α) :
    (overwrite data offset written).length =
      max (offset + written.length) data.length := by
  simp only [overwrite, List.length_append, length_resize, List.length_drop]
  omega

theorem byteAt_overwrite (data : List α) (offset : Nat) (written : List α) (position : Nat) :
    byteAt (overwrite data offset written) position =
      if offset ≤ position ∧ position < offset + written.length then
        byteAt written (position - offset)
      else byteAt data position := by
  simp only [overwrite, byteAt_append, byteAt_resize, byteAt_drop, List.length_append,
    length_resize]
  by_cases before : position < offset
  · rw [if_pos (by omega), if_pos before, if_pos before, if_neg (by omega)]
  · by_cases inside : position < offset + written.length
    · rw [if_pos inside, if_neg before, if_pos (by omega)]
    · rw [if_neg inside, if_neg (by omega)]
      congr 1
      omega

@[simp] theorem overwrite_nil (written : List α) : overwrite [] 0 written = written := by
  simp [overwrite, resize]

/-- Two writes, the second where the first ended, are one. -/
theorem overwrite_append (data : List α) (offset : Nat) (first second : List α) :
    overwrite (overwrite data offset first) (offset + first.length) second =
      overwrite data offset (first ++ second) := by
  apply ext_byteAt
  · simp only [length_overwrite, List.length_append]
    omega
  · intro position
    simp only [byteAt_overwrite, byteAt_append, List.length_append]
    by_cases inFirst : offset ≤ position ∧ position < offset + first.length
    · rw [if_neg (by omega), if_pos inFirst, if_pos (by omega), if_pos (by omega)]
    · by_cases inSecond : offset + first.length ≤ position ∧
          position < offset + first.length + second.length
      · rw [if_pos inSecond, if_pos (by omega), if_neg (by omega)]
        congr 1
        omega
      · rw [if_neg inSecond, if_neg inFirst, if_neg (by omega)]

theorem byteAt_slice (data : List α) (offset length position : Nat) :
    byteAt (slice data offset length) position =
      if position < length then byteAt data (offset + position) else 0 := by
  simp only [slice, byteAt_take, byteAt_drop]

omit [Zero α] in
theorem length_slice (data : List α) (offset length : Nat) :
    (slice data offset length).length = min length (data.length - offset) := by
  simp [slice]

/-- A window inside the string splits at any inner position. -/
theorem slice_append (data : List α) (offset first second : Nat)
    (inside : offset + first ≤ data.length) :
    slice data offset (first + second) =
      slice data offset first ++ slice data (offset + first) second := by
  apply ext_byteAt
  · simp only [length_slice, List.length_append]
    omega
  · intro position
    simp only [byteAt_append, byteAt_slice, length_slice]
    by_cases before : position < first
    · rw [if_pos (by omega), if_pos (by omega), if_pos before]
    · rw [if_neg (by omega : ¬ position < min first (data.length - offset))]
      have split : min first (data.length - offset) = first := by omega
      rw [split]
      by_cases within : position < first + second
      · rw [if_pos within, if_pos (by omega)]
        congr 1
        omega
      · rw [if_neg within, if_neg (by omega)]

/-- Equal-length blocks are addressed by block and position; only the last block
may be short. -/
private theorem byteAt_flatten {blockSize : Nat} {blocks : List (List α)} (block : Nat)
    {position : Nat}
    (full : ∀ index, index + 1 < blocks.length → (blocks.getD index []).length = blockSize)
    (short : ∀ index, index < blocks.length → (blocks.getD index []).length ≤ blockSize)
    (inside : position < blockSize) :
    byteAt blocks.flatten (block * blockSize + position) =
      byteAt (blocks.getD block []) position := by
  induction blocks generalizing block with
  | nil => simp
  | cons head tail ih =>
      have headShort : head.length ≤ blockSize := by simpa using short 0 (by simp)
      have tailFull : ∀ index, index + 1 < tail.length →
          (tail.getD index []).length = blockSize := by
        intro index bound
        simpa using full (index + 1) (by simpa using bound)
      have tailShort : ∀ index, index < tail.length →
          (tail.getD index []).length ≤ blockSize := by
        intro index bound
        simpa using short (index + 1) (by simpa using bound)
      cases block with
      | zero =>
          simp only [List.flatten_cons, byteAt_append, Nat.zero_mul, Nat.zero_add]
          split
          · rfl
          · next past =>
              rw [show (head :: tail).getD 0 [] = head from rfl,
                @byteAt_of_length_le _ _ head _ (by omega)]
              cases tail with
              | nil => simp
              | cons next rest =>
                  have headFull : head.length = blockSize := by
                    simpa using full 0 (by simp)
                  omega
      | succ block =>
          cases tail with
          | nil =>
              have past : blockSize ≤ (block + 1) * blockSize := by
                simpa using Nat.mul_le_mul_right blockSize (Nat.succ_le_succ (Nat.zero_le block))
              simp only [List.flatten_cons, List.flatten_nil, List.append_nil]
              rw [byteAt_of_length_le (by omega)]
              simp
          | cons next rest =>
              have headFull : head.length = blockSize := by
                simpa using full 0 (by simp)
              have shifted : (block + 1) * blockSize + position =
                  head.length + (block * blockSize + position) := by
                rw [headFull, Nat.succ_mul]
                omega
              rw [List.flatten_cons, byteAt_append, shifted, if_neg (by omega),
                Nat.add_sub_cancel_left]
              exact ih block tailFull tailShort

omit [Zero α] in
/-- A position inside the blocks is a position inside one of them. -/
theorem lt_length_flatten_iff {blockSize : Nat} {blocks : List (List α)} (block : Nat)
    {position : Nat}
    (full : ∀ index, index + 1 < blocks.length → (blocks.getD index []).length = blockSize)
    (short : ∀ index, index < blocks.length → (blocks.getD index []).length ≤ blockSize)
    (inside : position < blockSize) :
    block * blockSize + position < blocks.flatten.length ↔
      position < (blocks.getD block []).length := by
  induction blocks generalizing block with
  | nil => simp
  | cons head tail ih =>
      have headShort : head.length ≤ blockSize := by simpa using short 0 (by simp)
      have tailFull : ∀ index, index + 1 < tail.length →
          (tail.getD index []).length = blockSize := by
        intro index bound
        simpa using full (index + 1) (by simpa using bound)
      have tailShort : ∀ index, index < tail.length →
          (tail.getD index []).length ≤ blockSize := by
        intro index bound
        simpa using short (index + 1) (by simpa using bound)
      have headFull : tail ≠ [] → head.length = blockSize := by
        intro more
        simpa using full 0 (by simpa using List.length_pos_iff.mpr more)
      rw [List.flatten_cons, List.length_append]
      cases block with
      | zero =>
          rw [show (head :: tail).getD 0 [] = head from rfl]
          by_cases last : tail = []
          · simp [last]
          · have := headFull last
            omega
      | succ block =>
          rw [show (head :: tail).getD (block + 1) [] = tail.getD block [] from rfl,
            Nat.succ_mul]
          by_cases last : tail = []
          · simp only [last, List.flatten_nil, List.length_nil, List.getD_nil]
            omega
          · have := headFull last
            rw [← ih block tailFull tailShort]
            omega

omit [Zero α] in
/-- What follows a position inside a block: the rest of the block, then the later
blocks. -/
theorem drop_flatten {blockSize : Nat} {blocks : List (List α)} {block position : Nat}
    (full : ∀ index, index + 1 < blocks.length → (blocks.getD index []).length = blockSize)
    (inside : position < (blocks.getD block []).length) :
    blocks.flatten.drop (block * blockSize + position) =
      (blocks.getD block []).drop position ++ (blocks.drop (block + 1)).flatten := by
  induction blocks generalizing block with
  | nil => simp at inside
  | cons head tail ih =>
      have tailFull : ∀ index, index + 1 < tail.length →
          (tail.getD index []).length = blockSize := by
        intro index bound
        simpa using full (index + 1) (by simpa using bound)
      cases block with
      | zero =>
          have within : position < head.length := by simpa using inside
          simp [List.drop_append_of_le_length (Nat.le_of_lt within)]
      | succ block =>
          have within : position < (tail.getD block []).length := by simpa using inside
          have more : tail ≠ [] := by
            rintro rfl
            simp at within
          have headFull : head.length = blockSize := by
            simpa using full 0 (by simpa using List.length_pos_iff.mpr more)
          have shifted : (block + 1) * blockSize + position =
              head.length + (block * blockSize + position) := by
            rw [headFull, Nat.succ_mul]
            omega
          rw [List.flatten_cons, shifted, List.drop_length_add_append, ih tailFull within]
          rfl

/-- Writing blocks at a block boundary changes the cells they cover and no others. -/
theorem byteAt_overwrite_flatten {blockSize : Nat} {blocks : List (List α)}
    {first index place : Nat} (data : List α)
    (full : ∀ index, index + 1 < blocks.length → (blocks.getD index []).length = blockSize)
    (short : ∀ index, index < blocks.length → (blocks.getD index []).length ≤ blockSize)
    (inside : place < blockSize) :
    byteAt (overwrite data (first * blockSize) blocks.flatten) (index * blockSize + place) =
      if first ≤ index ∧ place < (blocks.getD (index - first) []).length then
        byteAt (blocks.getD (index - first) []) place
      else byteAt data (index * blockSize + place) := by
  rw [byteAt_overwrite]
  by_cases after : first ≤ index
  · obtain ⟨block, rfl⟩ := Nat.le.dest after
    have position : (first + block) * blockSize + place =
        first * blockSize + (block * blockSize + place) := by
      rw [Nat.add_mul]
      omega
    have located := lt_length_flatten_iff block full short inside
    have same := byteAt_flatten block full short inside
    rw [position, Nat.add_sub_cancel_left, Nat.add_sub_cancel_left, same]
    by_cases covered : place < (blocks.getD block []).length
    · have := located.mpr covered
      rw [if_pos (by omega), if_pos ⟨after, covered⟩]
    · have := mt located.mp covered
      rw [if_neg (by omega), if_neg fun both => covered both.2]
  · have before : (index + 1) * blockSize ≤ first * blockSize :=
      Nat.mul_le_mul_right _ (Nat.lt_of_not_le after)
    rw [Nat.succ_mul] at before
    rw [if_neg (by omega), if_neg fun both => after both.1]

end Andromeda.Library.Bytes
