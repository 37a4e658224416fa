import Andromeda.Backend.RunnerInput
import Andromeda.Library.Outcome

/-! The stream function over a string can be called for any offsets in any order. The one over an
input stream can until a read comes up short; from then on only for the end of the data. -/

set_option autoImplicit false

namespace Andromeda.Backend

open Library

variable {data : List UInt8}

namespace FromStream

/-- The function at an offset of a stream without errors. -/
def opened (offset : Nat) : FromStream := ⟨⟨offset, false, false, false⟩, offset⟩

/-- The function after a read that came up short. -/
def ended (offset : Nat) : FromStream := ⟨⟨offset, true, true, false⟩, offset⟩

private theorem moveTo_opened {offset : Nat} (place : Nat) (inside : offset ≤ data.length) :
    moveTo data offset (opened place) = .ok ⟨⟩ (opened offset) := by
  unfold moveTo
  simp only [bind, EStateM.bind, run_get]
  split
  · simp only [InputStream.seekg, InputStream.failed, InputStream.good, opened, Bool.or_self,
      Bool.false_eq_true, if_false, inside, if_true]
    rfl
  · next same =>
    rw [Decidable.not_not.mp same]
    rfl

private theorem call_opened {offset : Nat} (place buflen : Nat) (inside : offset ≤ data.length) :
    call data offset buflen (opened place) =
      .ok ((data.drop offset).take buflen, decide (offset + buflen ≤ data.length))
        (if offset + buflen ≤ data.length then opened (offset + buflen)
          else ended data.length) := by
  have moved := @moveTo_opened data _ place inside
  have length : ((data.drop offset).take buflen).length = min buflen (data.length - offset) := by
    rw [List.length_take, List.length_drop]
  unfold call
  simp only [bind, EStateM.bind, moved, run_get]
  simp only [InputStream.read, InputStream.good, InputStream.failed, opened, Bool.not_false,
    Bool.and_self, if_true, length]
  rcases Nat.lt_or_ge data.length (offset + buflen) with short | enough
  · have less : min buflen (data.length - offset) < buflen := by omega
    have reached : offset + min buflen (data.length - offset) = data.length := by omega
    simp only [less, reached, decide_true, Nat.not_le.mpr short, decide_false, if_false]
    rfl
  · have full : min buflen (data.length - offset) = buflen := by omega
    simp only [full, Nat.lt_irrefl, decide_false, enough, decide_true, if_true]
    rfl

private theorem call_ended_here (place buflen : Nat) :
    call data place buflen (ended place) = .ok ([], false) (ended place) := by
  have stays : moveTo data place (ended place) = .ok ⟨⟩ (ended place) := by
    unfold moveTo
    simp only [bind, EStateM.bind, run_get]
    split
    · next moves => exact absurd rfl moves
    · rfl
  unfold call
  simp only [bind, EStateM.bind, stays]
  rfl

private theorem call_ended_elsewhere {offset place : Nat} (buflen : Nat) (other : offset ≠ place) :
    ∃ state, call data offset buflen (ended place) = .error .seek state := by
  have fails : ∃ state, moveTo data offset (ended place) = .error .seek state := by
    refine ⟨⟨⟨place, false, true, false⟩, place⟩, ?_⟩
    unfold moveTo
    simp only [bind, EStateM.bind, run_get]
    split
    · rfl
    · next same => exact absurd (Decidable.not_not.mp same) other
  obtain ⟨state, thrown⟩ := fails
  refine ⟨state, ?_⟩
  unfold call
  simp only [bind, EStateM.bind, thrown]

end FromStream

namespace StreamFunc

/-- A call writes exactly the bytes at its offset, and has more unless none are left after it. -/
def Exact (data : List UInt8) (call : Nat × Nat)
    (result : Except StreamException (List UInt8 × Bool)) : Prop :=
  ∃ bytes more, result = .ok (bytes, more) ∧ bytes = (data.drop call.1).take call.2 ∧
    (more = false → data.length ≤ call.1 + bytes.length)

/-- Each of some calls does. -/
def AllExact (data : List UInt8) (func : StreamFunc) (list : List (Nat × Nat)) : Prop :=
  List.Forall₂ (Exact data) list (func.calls data list)

private theorem allExact_cons {func : StreamFunc} {call : Nat × Nat} {rest : List (Nat × Nat)} :
    AllExact data func (call :: rest) ↔
      Exact data call (func.call data call.1 call.2).1 ∧
        AllExact data (func.call data call.1 call.2).2 rest :=
  List.forall₂_cons

private theorem allExact_fromString (list : List (Nat × Nat)) : AllExact data .fromString list := by
  induction list with
  | nil => exact .nil
  | cons call rest ih =>
      refine allExact_cons.mpr ⟨⟨_, _, rfl, rfl, fun none => ?_⟩, ih⟩
      have past : data.length ≤ call.1 := Nat.not_lt.mp (of_decide_eq_false none)
      exact Nat.le_trans past (Nat.le_add_right _ _)

private theorem allExact_ended_iff {list : List (Nat × Nat)} :
    AllExact data (.fromStream (.ended data.length)) list ↔
      ∀ call ∈ list, call.1 = data.length := by
  induction list with
  | nil => exact ⟨fun _ _ => nofun, fun _ => .nil⟩
  | cons call rest ih =>
      obtain ⟨offset, buflen⟩ := call
      rw [allExact_cons, List.forall_mem_cons]
      simp only [StreamFunc.call]
      rcases Decidable.em (offset = data.length) with rfl | other
      · rw [FromStream.call_ended_here]
        dsimp only
        rw [ih]
        refine and_congr_left fun _ => ⟨fun _ => rfl, fun _ => ⟨[], false, rfl, ?_, fun _ => ?_⟩⟩
        · simp
        · exact Nat.le_refl _
      · obtain ⟨state, thrown⟩ := @FromStream.call_ended_elsewhere data _ _ buflen other
        rw [thrown]
        constructor
        · rintro ⟨⟨_, _, same, _⟩, _⟩
          cases same
        · exact fun both => absurd both.1 other

private theorem allExact_opened_iff {list : List (Nat × Nat)} (place : Nat)
    (inside : ∀ call ∈ list, call.1 ≤ data.length) :
    AllExact data (.fromStream (.opened place)) list ↔
      list.Pairwise fun earlier later =>
        data.length < earlier.1 + earlier.2 → later.1 = data.length := by
  induction list generalizing place with
  | nil => exact ⟨fun _ => .nil, fun _ => .nil⟩
  | cons call rest ih =>
      obtain ⟨offset, buflen⟩ := call
      obtain ⟨here, others⟩ := List.forall_mem_cons.mp inside
      have exact : Exact data (offset, buflen)
          (.ok ((data.drop offset).take buflen, decide (offset + buflen ≤ data.length))) := by
        refine ⟨_, _, rfl, rfl, fun none => ?_⟩
        have short := of_decide_eq_false none
        rw [List.length_take, List.length_drop]
        dsimp only at here ⊢
        omega
      rw [allExact_cons, List.pairwise_cons]
      simp only [StreamFunc.call, FromStream.call_opened place buflen here]
      rw [and_iff_right exact]
      rcases Nat.lt_or_ge data.length (offset + buflen) with short | enough
      · rw [if_neg (Nat.not_le.mpr short), allExact_ended_iff]
        constructor
        · intro atEnd
          exact ⟨fun later member _ => atEnd later member,
            List.pairwise_of_forall_mem_list fun _ _ later member _ => atEnd later member⟩
        · exact fun both later member => both.1 later member short
      · rw [if_pos enough, ih _ others]
        refine ⟨fun rest => ⟨fun later _ short => ?_, rest⟩, And.right⟩
        exact absurd enough (Nat.not_le.mpr short)

private theorem streamSizeLoop_fromString {bufsiz fuel retval : Nat} (positive : 0 < bufsiz)
    (inside : retval ≤ data.length) (enough : data.length < retval + fuel) :
    streamSizeLoop data bufsiz fuel retval .fromString = some (.ok data.length, .fromString) := by
  induction fuel generalizing retval with
  | zero => exact absurd enough (Nat.not_lt.mpr inside)
  | succ fuel ih =>
      simp only [streamSizeLoop, StreamFunc.call, WriteFunc.fromString, decide_eq_true_eq]
      have length : ((data.drop retval).take bufsiz).length =
          min bufsiz (data.length - retval) := by
        rw [List.length_take, List.length_drop]
      rw [length]
      split
      · exact ih (by omega) (by omega)
      · next past =>
        have reached : retval + min bufsiz (data.length - retval) = data.length := by omega
        rw [reached]

private theorem streamSizeLoop_opened {bufsiz fuel retval : Nat} (place : Nat)
    (positive : 0 < bufsiz)
    (inside : retval ≤ data.length) (enough : data.length < retval + fuel) :
    streamSizeLoop data bufsiz fuel retval (.fromStream (.opened place)) =
      some (.ok data.length, .fromStream (.ended data.length)) := by
  induction fuel generalizing retval place with
  | zero => exact absurd enough (Nat.not_lt.mpr inside)
  | succ fuel ih =>
      have length : ((data.drop retval).take bufsiz).length =
          min bufsiz (data.length - retval) := by
        rw [List.length_take, List.length_drop]
      simp only [streamSizeLoop, StreamFunc.call, FromStream.call_opened place bufsiz inside,
        length, decide_eq_true_eq]
      split
      · next more =>
        have full : min bufsiz (data.length - retval) = bufsiz := by omega
        rw [full]
        exact ih (retval + bufsiz) more (by omega)
      · next short =>
        have reached : retval + min bufsiz (data.length - retval) = data.length := by omega
        rw [reached]

/-- The stream functions write exactly what their calls ask for if they are `FromString`'s, or if
each call after one whose buffer reaches past the end of the data is for the end of the data.
`StreamSize` finds the size of the data, and it is a call of the second kind. -/
theorem streamFunc_exact_iff (data : List UInt8) (func : StreamFunc)
    (unused : func = .fromString ∨ func = .fromStream .init) (list : List (Nat × Nat))
    (inside : ∀ call ∈ list, call.1 ≤ data.length) (bufsiz : Nat) (positive : 0 < bufsiz) :
    (AllExact data func list ↔ func = .fromString ∨ list.Pairwise fun earlier later =>
      data.length < earlier.1 + earlier.2 → later.1 = data.length) ∧
    ∃ after, (∀ fuel, data.length < fuel →
        streamSize data bufsiz fuel func = some (.ok data.length, after)) ∧
      (AllExact data after list ↔ func = .fromString ∨ ∀ call ∈ list, call.1 = data.length) := by
  have start (fuel : Nat) (enough : data.length < fuel) : data.length < 0 + fuel := by omega
  rcases unused with rfl | rfl
  · refine ⟨⟨fun _ => .inl rfl, fun _ => allExact_fromString list⟩, .fromString,
      fun fuel enough => ?_, ⟨fun _ => .inl rfl, fun _ => allExact_fromString list⟩⟩
    exact streamSizeLoop_fromString positive (Nat.zero_le _) (start fuel enough)
  · have other : StreamFunc.fromStream .init ≠ .fromString := nofun
    refine ⟨?_, .fromStream (.ended data.length), fun fuel enough => ?_, ?_⟩
    · rw [or_iff_right other]
      exact allExact_opened_iff 0 inside
    · exact streamSizeLoop_opened 0 positive (Nat.zero_le _) (start fuel enough)
    · rw [or_iff_right other]
      exact allExact_ended_iff

/-- Three bytes are read by exact buffers, and read again. -/
theorem streamFunc_exact_again :
    AllExact [1, 2, 3] (.fromStream .init) [(0, 2), (2, 1), (0, 3)] :=
  ((streamFunc_exact_iff [1, 2, 3] (.fromStream .init) (.inr rfl) [(0, 2), (2, 1), (0, 3)]
    (by decide) 8192 (by decide)).1).mpr (.inr (by decide))

/-- The stream of three bytes is read with a larger buffer, and cannot be read again. -/
theorem rewound_stream_fails :
    StreamFunc.calls [1, 2, 3] (.fromStream .init) [(0, 4), (0, 4)] =
        [.ok ([1, 2, 3], false), .error .seek] ∧
      ¬ AllExact [1, 2, 3] (.fromStream .init) [(0, 4), (0, 4)] := by
  have results : StreamFunc.calls [1, 2, 3] (.fromStream .init) [(0, 4), (0, 4)] =
      [.ok ([1, 2, 3], false), .error .seek] := by decide
  refine ⟨results, fun exact => ?_⟩
  unfold AllExact at exact
  rw [results] at exact
  obtain ⟨_, again⟩ := List.forall₂_cons.mp exact
  obtain ⟨⟨_, _, same, _⟩, _⟩ := List.forall₂_cons.mp again
  cases same

end StreamFunc

end Andromeda.Backend
