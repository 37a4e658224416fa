import Mathlib.Data.List.Basic
import Andromeda.Text.StringUtil

/-! Replacing and escaping single characters, as one pass over the string. -/

set_option autoImplicit false

namespace Andromeda.Text

open Library

variable {α : Type} [DecidableEq α] {str repl delims : List α} {symbol escape : α}

/-- A character in the place of which another string is put. -/
def substitute (symbol : α) (repl : List α) (found : α) : List α :=
  if found = symbol then repl else [found]

private theorem flatMap_substitute_of_absent (absent : symbol ∉ str) :
    str.flatMap (substitute symbol repl) = str := by
  induction str with
  | nil => rfl
  | cons head rest ih =>
      have differs : head ≠ symbol := (List.ne_of_not_mem_cons absent).symm
      rw [List.flatMap_cons, ih (List.not_mem_of_not_mem_cons absent), substitute, if_neg differs]
      rfl

private theorem replaceLoop_eq_flatMap (nonempty : [symbol] ≠ []) :
    replaceLoop [symbol] repl nonempty str = str.flatMap (substitute symbol repl) := by
  induction str using replaceLoop.induct [symbol] nonempty with
  | case1 str found =>
    have absent : symbol ∉ str := by
      intro member
      obtain ⟨before, after, rfl⟩ := List.append_of_mem member
      exact find_eq_none_iff.mp found ⟨before, after, by simp⟩
    rw [replaceLoop]
    split
    · exact (flatMap_substitute_of_absent absent).symm
    · rename_i other
      rw [found] at other
      cases other
  | case2 str pos found ih =>
    have absent : symbol ∉ str.take pos := by
      intro member
      obtain ⟨index, inside, here⟩ := List.mem_iff_getElem.mp member
      rw [List.length_take] at inside
      apply find_first found (Nat.lt_of_lt_of_le inside (Nat.min_le_left _ _))
      rw [List.getElem_take] at here
      rw [List.drop_eq_getElem_cons (by omega), here]
      exact ⟨_, rfl⟩
    rw [replaceLoop]
    split
    · rename_i other
      rw [found] at other
      cases other
    · rename_i other same
      rw [found] at same
      cases same
      have whole := find_split found
      rw [ih]
      nth_rewrite 3 [← whole]
      rw [List.flatMap_append, List.flatMap_append, flatMap_substitute_of_absent absent]
      simp [substitute]

private theorem replaceAll_eq_flatMap :
    replaceAll str [symbol] repl = str.flatMap (substitute symbol repl) := by
  rw [replaceAll, dif_neg (List.cons_ne_nil _ _)]
  exact replaceLoop_eq_flatMap _

/-- A character with an escape before it, if it is one of those that get one. -/
def escapeOne (delims : List α) (escape found : α) : List α :=
  if found = escape ∨ found ∈ delims then [escape, found] else [found]

private theorem escape_foldl {before : List α} (distinct : (before ++ delims).Nodup)
    (apart : escape ∉ before ++ delims) :
    delims.foldl (fun retval delim => replaceAll retval [delim] [escape, delim])
        (str.flatMap (escapeOne before escape)) =
      str.flatMap (escapeOne (before ++ delims) escape) := by
  induction delims generalizing before with
  | nil => simp
  | cons delim delims ih =>
      have fresh : delim ∉ before := fun member =>
        (List.nodup_append.mp distinct).2.2 delim member delim List.mem_cons_self rfl
      have differs : escape ≠ delim := fun same => apart (by simp [same])
      have step : replaceAll (str.flatMap (escapeOne before escape)) [delim] [escape, delim] =
          str.flatMap (escapeOne (before ++ [delim]) escape) := by
        rw [replaceAll_eq_flatMap, List.flatMap_assoc]
        congr 1
        funext found
        by_cases same : found = delim
        · simp [escapeOne, substitute, same, fresh, Ne.symm differs]
        · by_cases special : found = escape ∨ found ∈ before
          · simp [escapeOne, substitute, same, special, differs]
          · simp [escapeOne, substitute, same, special]
      have assoc : before ++ delim :: delims = before ++ [delim] ++ delims := by simp
      rw [List.foldl_cons, step, assoc]
      rw [assoc] at distinct apart
      exact ih distinct apart

/-- Escaping puts the escape before each delimiter and before itself. -/
theorem escapeAll_eq_flatMap (distinct : delims.Nodup) (apart : escape ∉ delims) :
    escapeAll str delims escape = str.flatMap (escapeOne delims escape) := by
  have first : replaceAll str [escape] [escape, escape] = str.flatMap (escapeOne [] escape) := by
    rw [replaceAll_eq_flatMap]
    congr 1
    funext found
    by_cases same : found = escape <;> simp [substitute, escapeOne, same]
  rw [escapeAll, first]
  exact escape_foldl distinct apart

end Andromeda.Text
