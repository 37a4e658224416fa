import Andromeda.Text.StringUtil

/-! Exploding a string: the pieces joined give the string back, cut at the occurrences of the
delimiter that a scan finds. In reverse the scan looks for the delimiter as it stands in a string
that is turned around. -/

set_option autoImplicit false

namespace Andromeda.Text

open Library

variable {α : Type}

/-- Where the delimiters between pieces stand, in a string that begins at a position. -/
def cutPositions (delim : List α) : (position : Nat) → List (List α) → List Nat
  | _, [] => []
  | _, [_] => []
  | position, piece :: next :: rest =>
    (position + piece.length) ::
      cutPositions delim (position + piece.length + delim.length) (next :: rest)

/-- The pieces turned around, with their order. -/
def turned (pieces : List (List α)) : List (List α) := (pieces.map List.reverse).reverse

/-- The pieces that a string is meant to be cut into: at most so many, cut at the occurrences of the
delimiter after the first ones, which are kept. In reverse, both are counted from the right. -/
structure Exploded [DecidableEq α] (str delim : List α) (skip : Nat) (reverse : Bool) (max : Nat)
    (pieces : List (List α)) : Prop where
  joined : implode delim pieces = str
  bounded : pieces.length ≤ max
  cuts :
    if reverse then
      cutPositions delim 0 (turned pieces) =
        ((occurrences delim.reverse str.reverse).drop skip).take (max - 1)
    else cutPositions delim 0 pieces = ((occurrences delim str).drop skip).take (max - 1)

section Pieces

variable {delim piece : List α} {pieces : List (List α)}

private theorem implode_cons_cons {next : List α} {rest : List (List α)} :
    implode delim (piece :: next :: rest) = piece ++ delim ++ implode delim (next :: rest) := by
  simp [implode]

@[simp] theorem implode_singleton : implode delim [piece] = piece := by simp [implode]

private theorem implode_cons (nonempty : pieces ≠ []) :
    implode delim (piece :: pieces) = piece ++ delim ++ implode delim pieces := by
  obtain ⟨next, rest, rfl⟩ := List.exists_cons_of_ne_nil nonempty
  exact implode_cons_cons

private theorem cutPositions_cons {position : Nat} (nonempty : pieces ≠ []) :
    cutPositions delim position (piece :: pieces) =
      (position + piece.length) ::
        cutPositions delim (position + piece.length + delim.length) pieces := by
  obtain ⟨next, rest, rfl⟩ := List.exists_cons_of_ne_nil nonempty
  rfl

private theorem cutPositions_length (delim : List α) (position : Nat) (pieces : List (List α)) :
    (cutPositions delim position pieces).length = pieces.length - 1 := by
  induction pieces generalizing position with
  | nil => rfl
  | cons piece rest ih =>
      cases rest with
      | nil => rfl
      | cons next rest =>
        rw [cutPositions, List.length_cons, ih]
        rfl

private theorem cutPositions_reverse {position : Nat} :
    cutPositions delim.reverse position pieces = cutPositions delim position pieces := by
  induction pieces generalizing position with
  | nil => rfl
  | cons piece rest ih =>
      cases rest with
      | nil => rfl
      | cons next rest => rw [cutPositions, cutPositions, ih, List.length_reverse]

@[simp] theorem turned_turned : turned (turned pieces) = pieces := by
  simp [turned, List.map_reverse]

@[simp] theorem turned_length : (turned pieces).length = pieces.length := by simp [turned]

private theorem implode_append {first second : List (List α)} (nonempty : first ≠ [])
    (other : second ≠ []) :
    implode delim (first ++ second) = implode delim first ++ delim ++ implode delim second := by
  induction first with
  | nil => exact absurd rfl nonempty
  | cons piece rest ih =>
      cases rest with
      | nil =>
        rw [List.singleton_append, implode_cons other, implode_singleton]
      | cons next rest =>
        have more : next :: rest ++ second ≠ [] := List.cons_ne_nil _ _
        rw [List.cons_append, implode_cons more, ih (List.cons_ne_nil _ _), implode_cons_cons]
        simp only [List.append_assoc]

private theorem implode_turned (delim : List α) (pieces : List (List α)) :
    implode delim.reverse (turned pieces) = (implode delim pieces).reverse := by
  induction pieces with
  | nil => rfl
  | cons piece rest ih =>
      cases rest with
      | nil => simp [turned]
      | cons next rest =>
        have shape : turned (piece :: next :: rest) = turned (next :: rest) ++ [piece.reverse] := by
          simp [turned]
        have nonempty : turned (next :: rest) ≠ [] := by simp [turned]
        rw [shape, implode_append nonempty (List.cons_ne_nil _ _), ih, implode_cons_cons]
        simp only [implode_singleton, List.reverse_append, List.append_assoc]

/-- A string cut at a delimiter is cut at another one of its length only if they are the same, or
if there is one piece. -/
private theorem eq_or_singleton_of_implode {other : List α} (length : delim.length = other.length)
    (some_ : pieces ≠ []) (same : implode delim pieces = implode other pieces) :
    delim = other ∨ ∃ piece, pieces = [piece] := by
  cases pieces with
  | nil => exact absurd rfl some_
  | cons piece rest =>
    cases rest with
    | nil => exact Or.inr ⟨piece, rfl⟩
    | cons next rest =>
      simp only [implode_cons_cons, List.append_assoc, List.append_cancel_left_eq] at same
      exact Or.inl (List.append_inj_left same length)

end Pieces

section Loop

variable [DecidableEq α] {delim : List α}

section Rounds

variable {skip max skipped segEnd : Nat} {str el : List α} {retval : List (List α)}

theorem explodeLoop_of_find (nonempty : delim ≠ []) (room : retval.length + 1 < max)
    (found : find delim str = some segEnd) :
    explodeLoop delim nonempty skip max str el skipped retval =
      if skipped ≥ skip then
        explodeLoop delim nonempty skip max (str.drop (segEnd + delim.length)) [] skipped
          (retval ++ [el ++ str.take segEnd])
      else
        explodeLoop delim nonempty skip max (str.drop (segEnd + delim.length))
          (el ++ str.take segEnd ++ delim) (skipped + 1) retval := by
  rw [explodeLoop, if_pos room]
  split
  · next other =>
      rw [found] at other
      cases other
  · next other same =>
      rw [found] at same
      cases same
      rfl

theorem explodeLoop_of_none (nonempty : delim ≠ []) (room : retval.length + 1 < max)
    (found : find delim str = none) :
    explodeLoop delim nonempty skip max str el skipped retval = retval ++ [el ++ str] := by
  rw [explodeLoop, if_pos room]
  split
  · rfl
  · next other same =>
      rw [found] at same
      cases same

end Rounds

/-- The loop gives the pieces that it had, and cuts the rest after the occurrences that are still
to be kept. -/
private theorem explodeLoop_pieces (nonempty : delim ≠ []) (skip max : Nat) (str el : List α)
    (skipped : Nat) (retval : List (List α)) (position : Nat) (within : retval.length < max)
    (passed : skipped ≤ skip) :
    ∃ pieces, explodeLoop delim nonempty skip max str el skipped retval = retval ++ pieces ∧
      pieces ≠ [] ∧ implode delim pieces = el ++ str ∧
      retval.length + pieces.length ≤ max ∧
      cutPositions delim position pieces =
        ((occurrencesFrom delim 0 (position + el.length) str).drop (skip - skipped)).take
          (max - 1 - retval.length) := by
  induction str, el, skipped, retval using explodeLoop.induct delim nonempty skip max
    generalizing position with
  | case1 str el skipped retval room found =>
    refine ⟨[el ++ str], explodeLoop_of_none nonempty room found, List.cons_ne_nil _ _,
      implode_singleton, ?_, ?_⟩
    · simp only [List.length_singleton]
      omega
    · simp [cutPositions, occurrencesFrom_of_none found]
  | case2 str el skipped retval room segEnd found reached ih =>
    rw [explodeLoop_of_find nonempty room found, if_pos reached]
    obtain ⟨pieces, equal, some_, joined, bounded, cuts⟩ :=
      ih (position + (el ++ str.take segEnd).length + delim.length)
        (by simp only [List.length_append, List.length_singleton]; omega) passed
    have inside := find_length found
    refine ⟨(el ++ str.take segEnd) :: pieces, ?_, List.cons_ne_nil _ _, ?_, ?_, ?_⟩
    · rw [equal, List.append_assoc]
      rfl
    · rw [implode_cons some_, joined]
      have whole := find_split found
      simp only [List.nil_append, List.append_assoc] at whole ⊢
      rw [whole]
    · simp only [List.length_append, List.length_cons, List.length_nil] at bounded ⊢
      omega
    · rw [cutPositions_cons some_, cuts, occurrencesFrom_of_find nonempty found]
      have none_left : skip - skipped = 0 := by omega
      obtain ⟨left, count⟩ : ∃ left, max - 1 - retval.length = left + 1 :=
        ⟨max - 1 - retval.length - 1, by omega⟩
      have fewer : max - 1 - (retval ++ [el ++ str.take segEnd]).length = left := by
        simp only [List.length_append, List.length_singleton]
        omega
      have size : (el ++ str.take segEnd).length = el.length + segEnd := by
        simp only [List.length_append, List.length_take]
        omega
      rw [none_left, count, fewer, size]
      simp only [List.drop_zero, List.take_succ_cons, List.length_nil, Nat.add_zero,
        Nat.add_assoc]
  | case3 str el skipped retval room segEnd found reached ih =>
    rw [explodeLoop_of_find nonempty room found, if_neg reached]
    obtain ⟨pieces, equal, some_, joined, bounded, cuts⟩ := ih position within (by omega)
    have inside := find_length found
    refine ⟨pieces, equal, some_, ?_, bounded, ?_⟩
    · rw [joined]
      have whole := find_split found
      simp only [List.append_assoc] at whole ⊢
      rw [whole]
    · rw [cuts, occurrencesFrom_of_find nonempty found]
      have more : skip - skipped = skip - (skipped + 1) + 1 := by omega
      have size : (el ++ str.take segEnd ++ delim).length = el.length + segEnd + delim.length := by
        simp only [List.length_append, List.length_take]
        omega
      rw [more, size, List.drop_succ_cons]
      simp only [Nat.add_assoc]
  | case4 str el skipped retval full =>
    rw [explodeLoop, if_neg full]
    refine ⟨[el ++ str], rfl, List.cons_ne_nil _ _, implode_singleton, ?_, ?_⟩
    · simp only [List.length_singleton]
      omega
    · have done : max - 1 - retval.length = 0 := by omega
      simp [cutPositions, done]

end Loop

section Explode

variable [DecidableEq α] {str delim : List α} {skip max : Nat} {pieces : List (List α)}

private theorem exploded_reverse_iff :
    Exploded str delim skip true max (turned pieces) ↔
      Exploded str.reverse delim.reverse skip false max pieces := by
  have joins : implode delim (turned pieces) = str ↔ implode delim.reverse pieces = str.reverse := by
    have same := implode_turned delim (turned pieces)
    rw [turned_turned] at same
    rw [same, List.reverse_inj]
  constructor
  · intro exploded
    refine ⟨joins.mp exploded.joined, by simpa using exploded.bounded, ?_⟩
    simpa [cutPositions_reverse] using exploded.cuts
  · intro exploded
    refine ⟨joins.mpr exploded.joined, by simpa using exploded.bounded, ?_⟩
    simpa [cutPositions_reverse] using exploded.cuts

/-- From the left, the loop cuts a string as it is meant to be cut. -/
theorem explodeLoop_exploded (str : List α) (skip : Nat) (nonempty : delim ≠ []) (positive : 1 ≤ max) :
    Exploded str delim skip false max (explodeLoop delim nonempty skip max str [] 0 []) ∧
      explodeLoop delim nonempty skip max str [] 0 [] ≠ [] := by
  obtain ⟨pieces, equal, some_, joined, bounded, cuts⟩ :=
    explodeLoop_pieces nonempty skip max str [] 0 [] 0 positive (Nat.zero_le _)
  rw [equal]
  refine ⟨⟨joined, by simpa using bounded, ?_⟩, some_⟩
  simpa [occurrences] using cuts

private theorem exploded_singleton_iff {piece : List α} :
    Exploded str delim skip false max [piece] ↔
      piece = str ∧ 1 ≤ max ∧ (max = 1 ∨ (occurrences delim str).length ≤ skip) := by
  have nothing : ([] : List Nat) = ((occurrences delim str).drop skip).take (max - 1) ↔
      max - 1 = 0 ∨ (occurrences delim str).length ≤ skip := by
    rw [eq_comm, List.take_eq_nil_iff, List.drop_eq_nil_iff]
  constructor
  · intro exploded
    have bounded : 1 ≤ max := exploded.bounded
    refine ⟨by simpa using exploded.joined, bounded, ?_⟩
    rcases nothing.mp exploded.cuts with single | few
    · exact Or.inl (by omega)
    · exact Or.inr few
  · rintro ⟨rfl, positive, few⟩
    refine ⟨implode_singleton, positive, nothing.mpr ?_⟩
    rcases few with rfl | few
    · exact Or.inl rfl
    · exact Or.inr few

private theorem Exploded.eq_singleton (exploded : Exploded str delim skip false max pieces)
    (some_ : pieces ≠ []) (few : max = 1 ∨ (occurrences delim str).length ≤ skip) :
    pieces = [str] := by
  have nothing : cutPositions delim 0 pieces = [] := by
    have cuts := exploded.cuts
    rcases few with rfl | few
    · simpa using cuts
    · simpa [List.drop_eq_nil_of_le few] using cuts
  have length := cutPositions_length delim 0 pieces
  obtain ⟨piece, rest, rfl⟩ := List.exists_cons_of_ne_nil some_
  have alone : rest = [] :=
    List.eq_nil_of_length_eq_zero (by simpa [nothing] using length.symm)
  rw [alone] at exploded ⊢
  rw [← exploded.joined, implode_singleton]

/-- Exploding a string cuts it as it is meant to be cut exactly if it is not in reverse, or the
delimiter reads the same from both ends, or there is nothing to cut. -/
theorem explode_exploded_iff (str delim : List α) (skip : Nat) (reverse : Bool) (max : Nat)
    (filled : str ≠ []) (nonempty : delim ≠ []) (positive : 1 ≤ max) :
    Exploded str delim skip reverse max (explode str delim skip reverse max) ↔
      reverse = false ∨ delim.reverse = delim ∨ max = 1 ∨
        (occurrences delim str.reverse).length ≤ skip ∧
          (occurrences delim.reverse str.reverse).length ≤ skip := by
  cases reverse with
  | false =>
    have forward := (explodeLoop_exploded str skip nonempty positive).1
    simpa [explode, filled, nonempty] using forward
  | true =>
    obtain ⟨forward, some_⟩ :=
      explodeLoop_exploded str.reverse skip nonempty positive
    have shape : explode str delim skip true max =
        turned (explodeLoop delim nonempty skip max str.reverse [] 0 []) := by
      simp [explode, filled, nonempty, turned]
    rw [shape, exploded_reverse_iff]
    generalize explodeLoop delim nonempty skip max str.reverse [] 0 [] = pieces at forward some_
    simp only [reduceCtorEq, false_or]
    constructor
    · intro exploded
      have same := exploded.joined.trans forward.joined.symm
      rcases eq_or_singleton_of_implode List.length_reverse some_ same with equal | ⟨piece, rfl⟩
      · exact Or.inl equal
      · rcases (exploded_singleton_iff.mp exploded).2.2 with single | few
        · exact Or.inr (Or.inl single)
        · rcases (exploded_singleton_iff.mp forward).2.2 with single | none_
          · exact Or.inr (Or.inl single)
          · exact Or.inr (Or.inr ⟨none_, few⟩)
    · intro allowed
      rcases allowed with equal | few
      · rw [equal]
        exact forward
      · rw [forward.eq_singleton some_ (few.imp_right And.left)]
        exact exploded_singleton_iff.mpr ⟨rfl, positive, few.imp_right And.right⟩

/-- A path, cut before its last component. -/
theorem explode_exploded_path :
    Exploded "a/b/c".toList ['/'] 0 true 2 (explode "a/b/c".toList ['/'] 0 true 2) ↔
      true = false ∨ ['/'].reverse = ['/'] ∨ 2 = 1 ∨
        (occurrences ['/'] "a/b/c".toList.reverse).length ≤ 0 ∧
          (occurrences ['/'].reverse "a/b/c".toList.reverse).length ≤ 0 :=
  explode_exploded_iff "a/b/c".toList ['/'] 0 true 2 (by decide) (by decide) (by decide)

/-- In reverse, a delimiter of two characters is not found. -/
theorem explode_reverse_uncut :
    explode "x::=y".toList [':', '='] 0 true 2 = ["x::=y".toList] ∧
      ¬ Exploded "x::=y".toList [':', '='] 0 true 2
        (explode "x::=y".toList [':', '='] 0 true 2) := by
  have uncut : explode "x::=y".toList [':', '='] 0 true 2 = ["x::=y".toList] := by
    simp [explode, explodeLoop, find]
  refine ⟨uncut, ?_⟩
  rw [uncut]
  intro exploded
  have cuts := exploded.cuts
  revert cuts
  decide

private theorem explode_forward (symbol : α) (skip : Nat) (filled : str ≠ []) :
    Exploded str [symbol] skip false 2 (explode str [symbol] skip false 2) ∧
      explode str [symbol] skip false 2 ≠ [] := by
  have shape : explode str [symbol] skip false 2 =
      explodeLoop [symbol] (List.cons_ne_nil _ _) skip 2 str [] 0 [] := by
    simp [explode, filled]
  rw [shape]
  exact explodeLoop_exploded str skip _ (Nat.le_succ 1)

/-- A string split at a character that stands in it once more than is skipped. -/
theorem split_forward {symbol : α} (first rest : List α) (count : first.count symbol = skip) :
    split (first ++ symbol :: rest) [symbol] skip false = (first, rest) := by
  have filled : first ++ symbol :: rest ≠ [] := by simp
  obtain ⟨exploded, _⟩ := explode_forward symbol skip filled
  rw [split]
  generalize explode (first ++ symbol :: rest) [symbol] skip false 2 = pieces at exploded
  have positions : occurrences [symbol] (first ++ symbol :: rest) =
      occurrencesFrom [symbol] 0 0 first ++
        first.length :: occurrencesFrom [symbol] 0 (first.length + 1) rest := by
    rw [occurrences, occurrencesFrom_singleton_append]
    simp [occurrencesFrom]
  have skipped : (occurrencesFrom [symbol] 0 0 first).length = skip :=
    occurrencesFrom_singleton_length.trans count
  have cut : cutPositions [symbol] 0 pieces = [first.length] := by
    have cuts := exploded.cuts
    rw [if_neg Bool.false_ne_true, positions, List.drop_left' skipped] at cuts
    simpa using cuts
  rcases pieces with _ | ⟨left, _ | ⟨right, _ | ⟨next, more⟩⟩⟩
  · cases cut
  · cases cut
  · have length : left.length = first.length := by simpa [cutPositions] using cut
    have joined : left ++ symbol :: right = first ++ symbol :: rest := by
      simpa [implode] using exploded.joined
    obtain ⟨same, tail⟩ := List.append_inj joined length
    rw [same, (List.cons_eq_cons.mp tail).2]
  · have bounded := exploded.bounded
    simp only [List.length_cons] at bounded
    omega

/-- A string in which the character stands no more often than is skipped is not split. -/
theorem split_uncut {symbol : α} (few : str.count symbol ≤ skip) :
    split str [symbol] skip false = (str, []) := by
  by_cases empty : str = []
  · simp [split, explode, empty]
  · obtain ⟨exploded, some_⟩ := explode_forward symbol skip empty
    have length : (occurrences [symbol] str).length ≤ skip := by
      rw [occurrences, occurrencesFrom_singleton_length]
      exact few
    rw [split, exploded.eq_singleton some_ (Or.inr length)]
    rfl

/-- A string in which the character stands is split where it stands first. -/
theorem split_joined {symbol : α} (member : symbol ∈ str) :
    (split str [symbol] 0 false).1 ++ symbol :: (split str [symbol] 0 false).2 = str ∧
      symbol ∉ (split str [symbol] 0 false).1 := by
  obtain ⟨first, rest, rfl, absent⟩ := List.eq_append_cons_of_mem member
  rw [split_forward first rest (List.count_eq_zero.mpr absent)]
  exact ⟨rfl, absent⟩

theorem split_isPrefix (str : List α) (symbol : α) : (split str [symbol] 0 false).1 <+: str := by
  by_cases member : symbol ∈ str
  · exact ⟨_, (split_joined member).1⟩
  · have uncut := split_uncut (Nat.le_of_eq (List.count_eq_zero.mpr member))
    exact ⟨[], by rw [uncut, List.append_nil]⟩

end Explode

end Andromeda.Text
