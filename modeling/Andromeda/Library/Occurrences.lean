import Mathlib.Data.List.Basic

/-! Occurrences of a list in another one: the first, and those of a scan that does not let them
overlap. -/

set_option autoImplicit false

namespace Andromeda.Library

variable {α : Type*} [DecidableEq α]

/-- The position of the first occurrence. -/
def find (part : List α) : List α → Option Nat
  | [] => if part = [] then some 0 else none
  | symbol :: rest =>
    if part <+: symbol :: rest then some 0 else (find part rest).map (· + 1)

/-- The positions of the occurrences that a scan from the left finds in a list that begins at a
position, once it has passed the symbols that it waits for. -/
def occurrencesFrom (part : List α) : (wait position : Nat) → List α → List Nat
  | _, _, [] => []
  | wait + 1, position, _ :: rest => occurrencesFrom part wait (position + 1) rest
  | 0, position, symbol :: rest =>
    if part <+: symbol :: rest then
      position :: occurrencesFrom part (part.length - 1) (position + 1) rest
    else occurrencesFrom part 0 (position + 1) rest

/-- The positions of the occurrences that a scan from the left finds, none overlapping the one
before it. -/
def occurrences (part list : List α) : List Nat := occurrencesFrom part 0 0 list

section Find

variable {part list : List α} {index position : Nat}

private theorem find_cons {symbol : α} {rest : List α} :
    find part (symbol :: rest) =
      if part <+: symbol :: rest then some 0 else (find part rest).map (· + 1) := rfl

private theorem find_isPrefix (found : find part list = some index) : part <+: list.drop index := by
  induction list generalizing index with
  | nil =>
      by_cases empty : part = []
      · rw [empty]
        exact List.nil_prefix
      · simp [find, empty] at found
  | cons symbol rest ih =>
      rw [find_cons] at found
      split at found
      · cases found
        assumption
      · obtain ⟨earlier, foundRest, rfl⟩ := Option.map_eq_some_iff.mp found
        exact ih foundRest

/-- No occurrence stands before the one found. -/
theorem find_first (found : find part list = some index) {earlier : Nat} (before : earlier < index) :
    ¬ part <+: list.drop earlier := by
  induction list generalizing index earlier with
  | nil =>
      by_cases empty : part = []
      · simp [find, empty] at found
        omega
      · simp [find, empty] at found
  | cons symbol rest ih =>
      rw [find_cons] at found
      split at found
      · cases found
        omega
      · rename_i differs
        obtain ⟨next, foundRest, rfl⟩ := Option.map_eq_some_iff.mp found
        cases earlier with
        | zero => exact differs
        | succ earlier => exact ih foundRest (by omega)

theorem find_eq_none_iff : find part list = none ↔ ¬ part <:+: list := by
  induction list with
  | nil => simp [find]
  | cons symbol rest ih =>
      rw [find_cons, List.infix_cons_iff]
      split
      · simp_all
      · simp_all

/-- The list, cut around the occurrence found. -/
theorem find_split (found : find part list = some index) :
    list.take index ++ part ++ list.drop (index + part.length) = list := by
  obtain ⟨rest, equal⟩ := find_isPrefix found
  have after : list.drop (index + part.length) = rest := by
    rw [← List.drop_drop, ← equal, List.drop_left]
  rw [after, List.append_assoc, equal, List.take_append_drop]

theorem find_length (found : find part list = some index) :
    index + part.length ≤ list.length := by
  induction list generalizing index with
  | nil =>
      by_cases empty : part = []
      · simp [find, empty] at found
        simp [empty, ← found]
      · simp [find, empty] at found
  | cons symbol rest ih =>
      rw [find_cons] at found
      split at found
      · rename_i here
        cases found
        have := here.length_le
        omega
      · obtain ⟨next, foundRest, rfl⟩ := Option.map_eq_some_iff.mp found
        have := ih foundRest
        rw [List.length_cons]
        omega

theorem find_singleton_append {symbol : α} {first rest : List α} (absent : symbol ∉ first) :
    find [symbol] (first ++ symbol :: rest) = some first.length := by
  induction first with
  | nil => simp [find]
  | cons head first ih =>
      have differs := List.ne_of_not_mem_cons absent
      rw [List.cons_append, find_cons, ih (List.not_mem_of_not_mem_cons absent)]
      simp [differs]

theorem find_singleton_eq_none {symbol : α} (absent : symbol ∉ list) : find [symbol] list = none := by
  rw [find_eq_none_iff]
  rintro ⟨before, after, rfl⟩
  exact absent (by simp)

end Find

section Occurrences

variable {part list : List α} {index position : Nat}

private theorem occurrencesFrom_wait {wait : Nat} :
    occurrencesFrom part wait position list =
      occurrencesFrom part 0 (position + wait) (list.drop wait) := by
  induction wait generalizing position list with
  | zero => rfl
  | succ wait ih =>
      cases list with
      | nil => rfl
      | cons symbol rest =>
        rw [occurrencesFrom, ih, List.drop_succ_cons]
        congr 1
        omega

/-- The scan goes on after the first occurrence. -/
theorem occurrencesFrom_of_find (nonempty : part ≠ []) (found : find part list = some index) :
    occurrencesFrom part 0 position list =
      (position + index) ::
        occurrencesFrom part 0 (position + index + part.length)
          (list.drop (index + part.length)) := by
  have length : 0 < part.length := List.length_pos_iff.mpr nonempty
  induction list generalizing index position with
  | nil => simp [find, nonempty] at found
  | cons symbol rest ih =>
      rw [find_cons] at found
      split at found
      · rename_i here
        cases found
        obtain ⟨size, sized⟩ : ∃ size, part.length = size + 1 := ⟨part.length - 1, by omega⟩
        rw [occurrencesFrom, if_pos here, occurrencesFrom_wait, sized]
        simp only [Nat.add_zero, Nat.zero_add, Nat.add_sub_cancel, List.drop_succ_cons]
        congr 2
        omega
      · rename_i differs
        obtain ⟨next, foundRest, rfl⟩ := Option.map_eq_some_iff.mp found
        have moved : next + 1 + part.length = next + part.length + 1 := by omega
        have start : position + 1 + next = position + (next + 1) := by omega
        rw [occurrencesFrom, if_neg differs, ih foundRest, moved, List.drop_succ_cons, start]

theorem occurrencesFrom_of_none (found : find part list = none) :
    occurrencesFrom part 0 position list = [] := by
  induction list generalizing position with
  | nil => rfl
  | cons symbol rest ih =>
      rw [find_cons] at found
      split at found
      · cases found
      · rename_i differs
        rw [occurrencesFrom, if_neg differs]
        exact ih (by simpa using found)

/-- The occurrences of one symbol in the parts of a list. -/
theorem occurrencesFrom_singleton_append {symbol : α} {first second : List α} :
    occurrencesFrom [symbol] 0 position (first ++ second) =
      occurrencesFrom [symbol] 0 position first ++
        occurrencesFrom [symbol] 0 (position + first.length) second := by
  induction first generalizing position with
  | nil => rfl
  | cons head rest ih =>
      have start : position + 1 + rest.length = position + (head :: rest).length := by
        rw [List.length_cons]
        omega
      rw [List.cons_append, occurrencesFrom, occurrencesFrom, List.length_singleton, ih, start]
      by_cases same : symbol = head <;> simp [same]

theorem occurrencesFrom_singleton_length {symbol : α} :
    (occurrencesFrom [symbol] 0 position list).length = list.count symbol := by
  induction list generalizing position with
  | nil => rfl
  | cons head rest ih =>
      rw [occurrencesFrom, List.length_singleton]
      rcases eq_or_ne symbol head with rfl | differs
      · simp [ih]
      · simp [differs, Ne.symm differs, ih]

end Occurrences

end Andromeda.Library
