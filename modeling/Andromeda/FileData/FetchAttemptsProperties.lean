import Andromeda.FileData.FetchAttempts
import Andromeda.FileData.FetchProperties
import Andromeda.FileData.Scenario

/-! A fetch whose download is attempted several times hands over each of its pages once and in
order, and leaves no page unfinished, unless an attempt before the last one delivered all. -/

set_option autoImplicit false

namespace Andromeda.FileData

open Andromeda.Library
open Andromeda.Library.Bytes (byteAt resize overwrite slice)
open PageBackend (readSize pageSize_inside)

private theorem take_overwrite {page data bytes : Bytes} {start offset : Nat}
    (filled : page.take offset = slice data start offset) (inside : offset ≤ page.length)
    (stored : bytes <+: data.drop (start + offset)) (reaches : start + offset ≤ data.length) :
    (overwrite page offset bytes).take (offset + bytes.length) =
      slice data start (offset + bytes.length) := by
  have written : bytes = slice data (start + offset) bytes.length :=
    List.prefix_iff_eq_take.mp stored
  have length : (resize page offset ++ bytes).length = offset + bytes.length := by
    rw [List.length_append, Bytes.length_resize]
  rw [overwrite, List.take_append_of_le_length (Nat.le_of_eq length.symm),
    List.take_of_length_le (Nat.le_of_eq length), Bytes.slice_append _ _ _ _ reaches, ← written,
    ← filled, resize, Nat.sub_eq_zero_of_le inside, List.replicate_zero, List.append_nil]

private theorem drop_prefix_drop {data bytes : Bytes} {start size : Nat}
    (stored : bytes <+: data.drop start)
    (inside : size ≤ bytes.length) : bytes.drop size <+: data.drop (start + size) := by
  obtain ⟨rest, split⟩ := stored
  refine ⟨rest, ?_⟩
  rw [← List.drop_drop, ← split, List.drop_append_of_le_length inside]

namespace Reassembly

variable {config : Config} {backendSize index count : Nat} {memory : Nat → Nat → UInt8}
  {data : Bytes} {state : Reassembly}

/-- The first pages of a range. -/
def pages (config : Config) (backendSize index : Nat) (data : Bytes) (finished : Nat) :
    List (Nat × Bytes) :=
  (List.range finished).map fun page => (index + page,
    slice data (page * config.pageSize) (config.lengthAt backendSize (index + page)))

private theorem pages_succ (finished : Nat) :
    pages config backendSize index data (finished + 1) =
      pages config backendSize index data finished ++ [(index + finished,
        slice data (finished * config.pageSize)
          (config.lengthAt backendSize (index + finished)))] := by
  simp only [pages, List.range_succ, List.map_append, List.map_cons, List.map_nil]

private theorem pageEnd (inRange : InRange config backendSize index count) {finished : Nat}
    (more : finished < count) :
    0 < config.lengthAt backendSize (index + finished) ∧
      config.lengthAt backendSize (index + finished) ≤ config.pageSize ∧
        (finished + 1 < count →
          config.lengthAt backendSize (index + finished) = config.pageSize ∧
            (finished + 1) * config.pageSize ≤ readSize config backendSize index count) ∧
          (finished + 1 = count → finished * config.pageSize +
            config.lengthAt backendSize (index + finished) =
              readSize config backendSize index count) := by
  obtain ⟨_, last⟩ := inRange
  have positive := config.pageSize_pos
  have split : (index + finished) * config.pageSize =
      index * config.pageSize + finished * config.pageSize := Nat.add_mul _ _ _
  have lastSplit : (index + count - 1) * config.pageSize =
      index * config.pageSize + (count - 1) * config.pageSize := by
    rw [← Nat.add_mul]
    congr 1
    omega
  have before : finished * config.pageSize ≤ (count - 1) * config.pageSize :=
    Nat.mul_le_mul_right _ (by omega)
  have all : config.pageSize * count = (count - 1) * config.pageSize + config.pageSize := by
    rw [← Nat.succ_mul, Nat.mul_comm]
    congr 1
    omega
  unfold Config.lengthAt readSize
  refine ⟨by omega, Nat.min_le_right _ _, fun notLast => ?_, fun isLast => ?_⟩
  · have next : (finished + 1) * config.pageSize ≤ (count - 1) * config.pageSize :=
      Nat.mul_le_mul_right _ (by omega)
    rw [Nat.succ_mul] at next ⊢
    omega
  · have same : finished = count - 1 := by omega
    subst same
    omega

/-- A download that has come to a position with that many pages handed over, and the position
before the end of the page that is being filled. -/
structure Filling (config : Config) (backendSize index count : Nat) (memory : Nat → Nat → UInt8)
    (data : Bytes) (finished position : Nat) (state : Reassembly) : Prop where
  curIndex : state.curIndex = index + finished
  handled : state.handled = pages config backendSize index data finished
  more : finished < count
  before : position < finished * config.pageSize +
    config.lengthAt backendSize (index + finished)
  length : (state.page config backendSize memory).length =
    config.lengthAt backendSize (index + finished)
  filled : (state.page config backendSize memory).take (position - finished * config.pageSize) =
    slice data (finished * config.pageSize) (position - finished * config.pageSize)

private theorem pageSize_at (inRange : InRange config backendSize index count) {finished : Nat}
    (more : finished < count) :
    min (sub64 backendSize ((index + finished) * config.pageSize)) config.pageSize =
      config.lengthAt backendSize (index + finished) := by
  have positive := (pageEnd inRange more).1
  refine pageSize_inside ?_
  unfold Config.lengthAt at positive
  omega

private theorem Filling.start (inRange : InRange config backendSize index count)
    {finished position : Nat}
    (more : finished < count) (before : position ≤ finished * config.pageSize) :
    Filling config backendSize index count memory data finished position
      ⟨index + finished, none, pages config backendSize index data finished⟩ where
  curIndex := rfl
  handled := rfl
  more := more
  before := by
    have := (pageEnd inRange more).1
    omega
  length := by
    simp only [page, pageSize_at inRange more, Option.getD_none, List.length_map, List.length_range]
  filled := by
    rw [Nat.sub_eq_zero_of_le before]
    rfl

private theorem Filling.restart (inRange : InRange config backendSize index count)
    {finished position : Nat}
    (filling : Filling config backendSize index count memory data finished position state) :
    Filling config backendSize index count memory data finished 0 state where
  curIndex := filling.curIndex
  handled := filling.handled
  more := filling.more
  before := by
    have := (pageEnd inRange filling.more).1
    omega
  length := filling.length
  filled := by
    rw [Nat.zero_sub]
    rfl

/-- All pages handed over and none begun. -/
def whole (config : Config) (backendSize index count : Nat) (data : Bytes) : Reassembly :=
  ⟨index + count, none, pages config backendSize index data count⟩

/-- A download that has come to a position of its range. -/
def Reached (config : Config) (backendSize index count : Nat) (memory : Nat → Nat → UInt8)
    (data : Bytes) (position : Nat) (state : Reassembly) : Prop :=
  (∃ finished, Filling config backendSize index count memory data finished position state) ∨
    position = readSize config backendSize index count ∧
      state = whole config backendSize index count data

private theorem Filling.lt_readSize (inRange : InRange config backendSize index count)
    {finished position : Nat}
    (filling : Filling config backendSize index count memory data finished position state) :
    position < readSize config backendSize index count := by
  obtain ⟨_, _, notLast, last⟩ := pageEnd inRange filling.more
  have before := filling.before
  rcases Nat.lt_or_ge (finished + 1) count with next | end'
  · obtain ⟨full, inside⟩ := notLast next
    rw [Nat.succ_mul] at inside
    omega
  · have := last (by have := filling.more; omega)
    omega

private theorem Filling.writePage (inRange : InRange config backendSize index count)
    (length : data.length = readSize config backendSize index count) {finished position : Nat}
    (filling : Filling config backendSize index count memory data finished position state)
    {bytes : Bytes} (stored : bytes <+: data.drop position)
    (one : position - position / config.pageSize * config.pageSize + bytes.length ≤
      config.pageSize) :
    Reached config backendSize index count memory data (position + bytes.length)
      (state.writePage config backendSize index memory position bytes) := by
  obtain ⟨_, short, notLast, last⟩ := pageEnd inRange filling.more
  have before := filling.before
  have more := filling.more
  have within := stored.length_le
  rw [List.length_drop, length] at within
  have low : position / config.pageSize * config.pageSize ≤ position := Nat.div_mul_le_self _ _
  have same : state.curIndex - index = finished := by
    rw [filling.curIndex]
    omega
  have reaches := filling.lt_readSize inRange
  have noLater : position / config.pageSize ≤ finished := by
    refine Nat.le_of_lt_succ (Nat.div_lt_of_lt_mul ?_)
    rw [Nat.mul_comm, Nat.succ_mul]
    omega
  unfold Reassembly.writePage
  simp only [same]
  rcases Nat.lt_or_eq_of_le noLater with earlier | here
  · -- a page that an earlier attempt has completed
    have next : (position / config.pageSize + 1) * config.pageSize ≤ finished * config.pageSize :=
      Nat.mul_le_mul_right _ earlier
    rw [Nat.succ_mul] at next
    rw [if_neg (Nat.ne_of_lt earlier)]
    refine .inl ⟨finished, filling.curIndex, filling.handled, more, by omega, filling.length, ?_⟩
    rw [Nat.sub_eq_zero_of_le (by omega)]
    rfl
  · rw [if_pos here, here]
    rw [here] at one low
    have fits : position - finished * config.pageSize + bytes.length ≤
        config.lengthAt backendSize (index + finished) := by
      rcases Nat.lt_or_ge (finished + 1) count with next | end'
      · rw [(notLast next).1]
        exact one
      · have := last (by omega)
        omega
    have place : finished * config.pageSize + (position - finished * config.pageSize) = position := by
      omega
    have written := @take_overwrite _ _ bytes _ _ filling.filled
      (by rw [filling.length]; omega) (by rw [place]; exact stored) (by omega)
    have size : (overwrite (state.page config backendSize memory)
        (position - finished * config.pageSize) bytes).length =
          config.lengthAt backendSize (index + finished) := by
      rw [Bytes.length_overwrite, filling.length]
      omega
    rw [filling.length]
    split
    · next done =>
      rw [List.take_of_length_le (by omega), done] at written
      rcases Nat.lt_or_ge (finished + 1) count with next | end'
      · refine .inl ⟨finished + 1, ?_⟩
        have started := @Filling.start config backendSize index count memory data inRange
          (finished + 1) (position + bytes.length) next (by rw [Nat.succ_mul]; omega)
        rw [pages_succ, ← written, ← filling.handled, ← Nat.add_assoc, ← filling.curIndex] at started
        exact started
      · have all : finished + 1 = count := by omega
        refine .inr ⟨by have := last all; omega, ?_⟩
        unfold whole
        rw [← all, pages_succ, ← written, ← filling.handled, ← Nat.add_assoc, ← filling.curIndex]
    · next undone =>
      refine .inl ⟨finished, filling.curIndex, filling.handled, more, by omega, size, ?_⟩
      rw [show position + bytes.length - finished * config.pageSize =
        position - finished * config.pageSize + bytes.length by omega]
      exact written

private theorem Reached.receive (inRange : InRange config backendSize index count)
    (length : data.length = readSize config backendSize index count) {rounds position : Nat}
    {chunk : Bytes} (reached : Reached config backendSize index count memory data position state)
    (stored : chunk <+: data.drop position) (enough : chunk.length ≤ rounds) :
    Reached config backendSize index count memory data (position + chunk.length)
      (receive config backendSize index memory rounds position chunk state) := by
  induction rounds generalizing position chunk state with
  | zero =>
      rw [List.length_eq_zero_iff.mp (Nat.le_zero.mp enough)]
      exact reached
  | succ rounds ih =>
      unfold Reassembly.receive
      split
      · next none =>
        rw [none]
        exact reached
      · next some =>
        rcases reached with ⟨finished, filling⟩ | ⟨ended, _⟩
        · have positive := config.pageSize_pos
          have low : position / config.pageSize * config.pageSize ≤ position :=
            Nat.div_mul_le_self _ _
          have high : position < position / config.pageSize * config.pageSize + config.pageSize :=
            Nat.lt_div_mul_add positive
          have nonempty := List.length_pos_of_ne_nil some
          dsimp only
          generalize size : min chunk.length (config.pageSize -
            (position - position / config.pageSize * config.pageSize)) = pwLength
          have inside : pwLength ≤ chunk.length := by omega
          have taken : (chunk.take pwLength).length = pwLength := List.length_take_of_le inside
          have piece := filling.writePage inRange length
            ((List.take_prefix pwLength chunk).trans stored) (by omega)
          rw [taken] at piece
          have rest := ih piece (drop_prefix_drop stored inside)
            (by rw [List.length_drop]; omega)
          rw [List.length_drop, show position + pwLength + (chunk.length - pwLength) =
            position + chunk.length by omega] at rest
          exact rest
        · -- past the end there are no bytes
          rw [List.drop_of_length_le (by omega), List.prefix_nil] at stored
          exact absurd stored some

private theorem receive_over {rounds position : Nat} {chunk : Bytes} (some : chunk ≠ [])
    (past : state.curIndex = index + count)
    (inside : position + chunk.length ≤ config.pageSize * count) (enough : chunk.length ≤ rounds) :
    (receive config backendSize index memory rounds position chunk state).curIndex =
        index + count ∧
      (receive config backendSize index memory rounds position chunk state).curPage ≠ none := by
  induction rounds generalizing position chunk state with
  | zero => exact absurd (List.length_eq_zero_iff.mp (Nat.le_zero.mp enough)) some
  | succ rounds ih =>
      have positive := config.pageSize_pos
      have low : position / config.pageSize * config.pageSize ≤ position :=
        Nat.div_mul_le_self _ _
      have high : position < position / config.pageSize * config.pageSize + config.pageSize :=
        Nat.lt_div_mul_add positive
      have nonempty := List.length_pos_of_ne_nil some
      have earlier : position / config.pageSize < count :=
        Nat.div_lt_of_lt_mul (by omega)
      unfold Reassembly.receive
      rw [if_neg some]
      dsimp only
      generalize size : min chunk.length (config.pageSize -
        (position - position / config.pageSize * config.pageSize)) = pwLength
      have ignored : state.writePage config backendSize index memory position
          (chunk.take pwLength) =
            { state with curPage := .some (state.page config backendSize memory) } :=
        if_neg (by rw [past]; omega)
      rw [ignored]
      rcases Nat.lt_or_ge pwLength chunk.length with more | last
      · exact ih (List.ne_nil_of_length_pos (by rw [List.length_drop]; omega)) past
          (by rw [List.length_drop]; omega) (by rw [List.length_drop]; omega)
      · rw [List.drop_of_length_le last]
        cases rounds <;> exact ⟨past, nofun⟩

private theorem Reached.le_readSize (inRange : InRange config backendSize index count)
    {position : Nat}
    (reached : Reached config backendSize index count memory data position state) :
    position ≤ readSize config backendSize index count := by
  rcases reached with ⟨_, filling⟩ | ⟨ended, _⟩
  · exact Nat.le_of_lt (filling.lt_readSize inRange)
  · exact Nat.le_of_eq ended

private theorem chunk_stored {chunk : Bytes} {rest : List Bytes} {offset : Nat}
    (inside : offset ≤ data.length) (stored : (chunk :: rest).flatten <+: data.drop offset) :
    offset + chunk.length ≤ data.length ∧ chunk <+: data.drop offset ∧
      rest.flatten <+: data.drop (offset + chunk.length) := by
  rw [List.flatten_cons] at stored
  have first := (List.prefix_append chunk rest.flatten).trans stored
  have short := first.length_le
  rw [List.length_drop] at short
  have following := @drop_prefix_drop _ _ _ chunk.length stored
    (by rw [List.length_append]; exact Nat.le_add_right _ _)
  rw [List.drop_left] at following
  exact ⟨by omega, first, following⟩

private theorem attempt_reached (inRange : InRange config backendSize index count)
    (length : data.length = readSize config backendSize index count) {chunks : List Bytes}
    {offset read : Nat} (counted : offset ≤ read)
    (reached : Reached config backendSize index count memory data offset state)
    (stored : chunks.flatten <+: data.drop offset) :
    ∃ total final, attempt config backendSize index memory data.length offset chunks
        (read, state) = .ok (total, final) ∧
      offset + chunks.flatten.length ≤ total ∧
        Reached config backendSize index count memory data (offset + chunks.flatten.length)
          final := by
  induction chunks generalizing offset read state with
  | nil => exact ⟨read, state, rfl, counted, reached⟩
  | cons chunk rest ih =>
      have inside := reached.le_readSize inRange
      rw [← length] at inside
      obtain ⟨fits, first, following⟩ := chunk_stored inside stored
      obtain ⟨total, final, ran, all, later⟩ := @ih _ _ (max read (offset + chunk.length))
        (Nat.le_max_right _ _) (reached.receive inRange length first (Nat.le_refl _)) following
      refine ⟨total, final, ?_, ?_, ?_⟩
      · rw [attempt, if_neg (Nat.not_lt.mpr fits)]
        exact ran
      · rw [List.flatten_cons, List.length_append]
        omega
      · rw [List.flatten_cons, List.length_append, ← Nat.add_assoc]
        exact later

private theorem attempt_over (length : data.length = readSize config backendSize index count)
    {chunks : List Bytes} {offset read : Nat} (inside : offset ≤ data.length)
    (past : state.curIndex = index + count) (stored : chunks.flatten <+: data.drop offset) :
    ∃ total final, attempt config backendSize index memory data.length offset chunks
        (read, state) = .ok (total, final) ∧ final.curIndex = index + count ∧
          (chunks.flatten ≠ [] ∨ state.curPage ≠ none → final.curPage ≠ none) := by
  induction chunks generalizing offset read state with
  | nil => exact ⟨read, state, rfl, past, fun some => some.resolve_left (absurd rfl)⟩
  | cons chunk rest ih =>
      obtain ⟨fits, _, following⟩ := chunk_stored inside stored
      have whole : data.length ≤ config.pageSize * count := by
        rw [length]
        exact Nat.min_le_right _ _
      rw [attempt, if_neg (Nat.not_lt.mpr fits)]
      cases chunk with
      | nil => exact ih fits past following
      | cons byte bytes =>
          obtain ⟨still, begun⟩ := @receive_over config backendSize index count memory state
            (byte :: bytes).length offset (byte :: bytes) (List.cons_ne_nil _ _) past (by omega)
            (Nat.le_refl _)
          obtain ⟨total, final, ran, after, left⟩ := @ih _ _
            (max read (offset + (byte :: bytes).length)) fits still following
          exact ⟨total, final, ran, after, fun _ => left (.inr begun)⟩

private theorem attempts_spec (inRange : InRange config backendSize index count)
    (length : data.length = readSize config backendSize index count)
    {earlier : List (List Bytes)} {read : Nat}
    (stored : ∀ chunks ∈ earlier, chunks.flatten <+: data) :
    (state.curIndex = index + count → ∃ total final,
      earlier.foldlM (fun state chunks =>
          attempt config backendSize index memory data.length 0 chunks state) (read, state) =
        .ok (total, final) ∧ final.curIndex = index + count) ∧
    ((∃ finished, Filling config backendSize index count memory data finished 0 state) →
      ∃ total final, earlier.foldlM (fun state chunks =>
          attempt config backendSize index memory data.length 0 chunks state) (read, state) =
        .ok (total, final) ∧
          ((∀ chunks ∈ earlier, chunks.flatten ≠ data) ∧
              (∃ finished, Filling config backendSize index count memory data finished 0 final) ∨
            (∃ chunks ∈ earlier, chunks.flatten = data) ∧ final.curIndex = index + count)) := by
  induction earlier generalizing read state with
  | nil => exact ⟨fun past => ⟨read, state, rfl, past⟩,
      fun filling => ⟨read, state, rfl, .inl ⟨nofun, filling⟩⟩⟩
  | cons chunks rest ih =>
      obtain ⟨first, others⟩ := List.forall_mem_cons.mp stored
      rw [← List.drop_zero (l := data)] at first
      constructor
      · intro past
        obtain ⟨total, final, ran, still, _⟩ := @attempt_over config backendSize index count memory
          data state length chunks 0 read (Nat.zero_le _) past first
        obtain ⟨total', final', later, past'⟩ := (@ih final total others).1 still
        refine ⟨total', final', ?_, past'⟩
        rw [List.foldlM_cons, ran]
        exact later
      · intro ⟨finished, filling⟩
        obtain ⟨total, final, ran, _, reached⟩ := @attempt_reached config backendSize index count
          memory data state inRange length chunks 0 read (Nat.zero_le _) (.inl ⟨finished, filling⟩)
          first
        rw [List.drop_zero] at first
        rw [Nat.zero_add] at reached
        rw [List.foldlM_cons, ran]
        rcases reached with ⟨next, filling⟩ | ⟨all, done⟩
        · have partly : chunks.flatten ≠ data := by
            intro same
            have less := filling.lt_readSize inRange
            rw [same, length] at less
            exact Nat.lt_irrefl _ less
          obtain ⟨total', final', later, cases'⟩ :=
            (@ih final total others).2 ⟨next, filling.restart inRange⟩
          refine ⟨total', final', later, ?_⟩
          rcases cases' with ⟨none, filling⟩ | ⟨⟨other, member, same⟩, past⟩
          · exact .inl ⟨List.forall_mem_cons.mpr ⟨partly, none⟩, filling⟩
          · exact .inr ⟨⟨other, List.mem_cons_of_mem _ member, same⟩, past⟩
        · have same : chunks.flatten = data := first.eq_of_length (all.trans length.symm)
          obtain ⟨total', final', later, past⟩ := (@ih final total others).1 (by rw [done]; rfl)
          exact ⟨total', final', later, .inr ⟨⟨chunks, List.mem_cons_self, same⟩, past⟩⟩

/-- A range of the stored bytes. -/
def rangeBytes (config : Config) (stored : Bytes) (index count : Nat) : Bytes :=
  slice stored (index * config.pageSize) (readSize config stored.length index count)

private theorem length_rangeBytes (config : Config) (stored : Bytes) (index count : Nat) :
    (rangeBytes config stored index count).length =
      readSize config stored.length index count := by
  rw [rangeBytes, Bytes.length_slice]
  unfold readSize
  omega

private theorem readSize_pos (inRange : InRange config backendSize index count) :
    0 < readSize config backendSize index count := by
  obtain ⟨some, last⟩ := inRange
  have start : index * config.pageSize ≤ (index + count - 1) * config.pageSize :=
    Nat.mul_le_mul_right _ (by omega)
  exact Nat.lt_min.mpr ⟨by omega, Nat.mul_pos config.pageSize_pos (Nat.pos_of_ne_zero some)⟩

private theorem pages_stored {stored : Bytes} (inRange : InRange config stored.length index count) :
    pages config stored.length index (rangeBytes config stored index count) count =
      (List.range' index count).map fun page => (page,
        slice stored (page * config.pageSize) (config.lengthAt stored.length page)) := by
  rw [pages, List.range'_eq_map_range, List.map_map]
  refine List.map_congr_left fun page member => ?_
  have more := List.mem_range.mp member
  obtain ⟨_, short, notLast, last⟩ := pageEnd inRange more
  have inside : page * config.pageSize + config.lengthAt stored.length (index + page) ≤
      readSize config stored.length index count := by
    rcases Nat.lt_or_ge (page + 1) count with next | end'
    · have := (notLast next).2
      rw [Nat.succ_mul] at this
      omega
    · exact Nat.le_of_eq (last (by omega))
  simp only [Function.comp, rangeBytes, slice, List.drop_take, List.drop_drop, List.take_take]
  rw [Nat.add_mul, Nat.min_eq_left (by omega)]

/-- After attempts that each deliver what the range begins with, the last one all of it, each page
has been handed over once, in order and with its stored bytes, and none is left unfinished, exactly
if no attempt before the last one delivered all. -/
theorem fetchPages_iff (config : Config) (memory : Nat → Nat → UInt8) {stored : Bytes}
    {index count : Nat} (inRange : InRange config stored.length index count)
    {earlier : List (List Bytes)} {last : List Bytes}
    (began : ∀ chunks ∈ earlier, chunks.flatten <+: rangeBytes config stored index count)
    (ended : last.flatten = rangeBytes config stored index count) :
    fetchPages config stored.length index memory count (earlier ++ [last]) =
        .ok ((List.range' index count).map fun page => (page,
          slice stored (page * config.pageSize) (config.lengthAt stored.length page)), none) ↔
      ∀ chunks ∈ earlier, chunks.flatten ≠ rangeBytes config stored index count := by
  have length := length_rangeBytes config stored index count
  have positive := inRange.1
  have start : index * config.pageSize ≤ (index + count - 1) * config.pageSize :=
    Nat.mul_le_mul_right _ (by omega)
  have size : min (sub64 stored.length (index * config.pageSize)) (config.pageSize * count) =
      (rangeBytes config stored index count).length := by
    rw [length, sub64_of_le (Nat.le_trans start (Nat.le_of_lt inRange.2))]
    rfl
  have delivered : last.flatten <+: (rangeBytes config stored index count).drop 0 := by
    rw [ended]
    exact List.prefix_refl _
  obtain ⟨read, middle, ran, cases'⟩ :=
    (@attempts_spec config stored.length index count memory _ ⟨index, none, []⟩ inRange length
      earlier 0 began).2 ⟨0, .start inRange (Nat.pos_of_ne_zero positive) (Nat.zero_le _)⟩
  unfold fetchPages readFile
  simp only [size, List.foldlM_append, ran, bind, Except.bind, List.foldlM_cons, List.foldlM_nil]
  rw [← pages_stored inRange]
  rcases cases' with ⟨partly, finished, filling⟩ | ⟨⟨chunks, member, same⟩, past⟩
  · obtain ⟨total, final, lastRan, all, reached⟩ := @attempt_reached config stored.length index
      count memory _ middle inRange length last 0 read (Nat.zero_le _) (.inl ⟨finished, filling⟩)
      delivered
    rw [ended, Nat.zero_add] at all reached
    rcases reached with ⟨_, still⟩ | ⟨_, done⟩
    · have less := still.lt_readSize inRange
      omega
    · simp only [lastRan, pure, Except.pure, if_neg (Nat.not_lt.mpr all), done]
      exact ⟨fun _ => partly, fun _ => rfl⟩
  · obtain ⟨total, final, lastRan, _, left⟩ := @attempt_over config stored.length index count memory
      _ middle length last 0 read (Nat.zero_le _) past delivered
    have nonempty : last.flatten ≠ [] := by
      refine List.ne_nil_of_length_pos ?_
      rw [ended, length]
      exact readSize_pos inRange
    have unfinished := left (.inl nonempty)
    simp only [lastRan, pure, Except.pure]
    refine ⟨fun result => ?_, fun partly => absurd same (partly chunks member)⟩
    rcases Nat.lt_or_ge total (rangeBytes config stored index count).length with short | all
    · rw [if_pos short] at result
      cases result
    · rw [if_neg (Nat.not_lt.mpr all)] at result
      simp only [Except.ok.injEq, Prod.mk.injEq] at result
      exact absurd result.2 unfinished

private theorem fetched_pages {stored : Bytes}
    (inRange : InRange config stored.length index count) :
    Fetched config stored.length stored index ((List.range' index count).map fun page => (page,
      slice stored (page * config.pageSize) (config.lengthAt stored.length page))) where
  indices := by
    rw [List.map_map, List.length_map, List.length_range']
    exact List.map_id _
  inside := by
    intro read member
    obtain ⟨page, inside, rfl⟩ := List.mem_map.mp member
    have bound : page * config.pageSize ≤ (index + count - 1) * config.pageSize :=
      Nat.mul_le_mul_right _ (by have := (List.mem_range'_1.mp inside).2; omega)
    exact Nat.lt_of_le_of_lt bound inRange.2
  length := by
    intro read member
    obtain ⟨page, _, rfl⟩ := List.mem_map.mp member
    rw [Bytes.length_slice]
    exact Nat.min_eq_left (Nat.min_le_left _ _)
  bytes := by
    intro read member place inside
    obtain ⟨page, _, rfl⟩ := List.mem_map.mp member
    rw [Bytes.length_slice] at inside
    rw [Bytes.byteAt_slice, if_pos (Nat.lt_of_lt_of_le inside (Nat.min_le_left _ _))]

private theorem fetched_unique {stored : Bytes} {left right : List (Nat × Bytes)}
    (first : Fetched config backendSize stored index left)
    (second : Fetched config backendSize stored index right) (length : left.length = right.length) :
    left = right := by
  have indices : left.map Prod.fst = right.map Prod.fst := by
    rw [first.indices, second.indices, length]
  refine List.ext_getElem length fun place inLeft inRight => ?_
  have same : left[place].1 = right[place].1 := by
    have := List.getElem_of_eq indices (by simpa using inLeft)
    simpa using this
  have one := List.getElem_mem inLeft
  have other := List.getElem_mem inRight
  have sizes : left[place].2.length = right[place].2.length := by
    rw [first.length _ one, second.length _ other, same]
  refine Prod.ext same (Bytes.ext_byteAt sizes fun position => ?_)
  rcases Nat.lt_or_ge position left[place].2.length with inside | past
  · rw [first.bytes _ one position inside, second.bytes _ other position (sizes ▸ inside), same]
  · rw [Bytes.byteAt_of_length_le past, Bytes.byteAt_of_length_le (sizes ▸ past)]

/-- A fetch that no attempt before the last one has completed hands over the pages that the page
backend cuts from a read in one piece. -/
theorem fetchPages_splitPages (config : Config) (memory : Nat → Nat → UInt8) {stored : Bytes}
    {index count : Nat} (inRange : InRange config stored.length index count)
    {earlier : List (List Bytes)} {last : List Bytes}
    (began : ∀ chunks ∈ earlier, chunks.flatten <+: rangeBytes config stored index count)
    (ended : last.flatten = rangeBytes config stored index count)
    (partly : ∀ chunks ∈ earlier, chunks.flatten ≠ rangeBytes config stored index count) :
    fetchPages config stored.length index memory count (earlier ++ [last]) =
      .ok (PageBackend.splitPages config stored.length count index
        (rangeBytes config stored index count), none) := by
  have length := length_rangeBytes config stored index count
  have window (place : Nat) (inside : place < (rangeBytes config stored index count).length) :
      byteAt (rangeBytes config stored index count) place =
        byteAt stored (index * config.pageSize + place) := by
    rw [length] at inside
    rw [rangeBytes, Bytes.byteAt_slice, if_pos inside]
  obtain ⟨_, cut⟩ := PageBackend.splitPages_spec count window
    (by rw [length]; exact Nat.min_le_left _ _)
  have every := PageBackend.splitPages_complete (fun _ => inRange) length
  have handed := fetched_pages inRange
  rw [(fetchPages_iff config memory inRange began ended).mpr partly,
    fetched_unique handed cut (by rw [every, List.length_map, List.length_range'])]

/-- A page and three bytes of the next, in chunks across the border, after an attempt that broke one
byte before the end. -/
theorem fetchPages_after_failure :
    fetchPages (Scenario.config .random) 13 0 (fun _ _ => 255) 2
        ([[[0, 1, 2, 3, 4, 5], [6, 7, 8, 9, 10, 11]]] ++ [[[0, 1, 2, 3, 4, 5, 6], [7, 8, 9, 10, 11, 12]]]) =
      .ok ([(0, [0, 1, 2, 3, 4, 5, 6, 7, 8, 9]), (1, [10, 11, 12])], none) :=
  (@fetchPages_iff (Scenario.config .random) (fun _ _ => 255)
    [0, 1, 2, 3, 4, 5, 6, 7, 8, 9, 10, 11, 12] 0 2 ⟨by decide, by decide⟩
    [[[0, 1, 2, 3, 4, 5], [6, 7, 8, 9, 10, 11]]] [[0, 1, 2, 3, 4, 5, 6], [7, 8, 9, 10, 11, 12]]
    (by decide) (by decide)).mpr (by decide)

/-- The first attempt delivers all and fails after that: the second one begins a page that it never
ends. -/
theorem completed_attempt_unfinished :
    fetchPages (Scenario.config .random) 3 0 (fun _ _ => 255) 1 [[[1, 2, 3]], [[1, 2, 3]]] =
      .ok ([(0, [1, 2, 3])], some (List.replicate 10 255)) := by
  decide

end Reassembly

end Andromeda.FileData
