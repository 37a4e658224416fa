import Mathlib.Data.List.Nodup
import Mathlib.Logic.Function.Basic

/-! Lookups in lists of pairs whose keys are distinct, and in functions changed at one place. -/

set_option autoImplicit false

namespace Andromeda.Library

/-- What is found after an update is the new value, or was there before. -/
theorem update_cases {α β : Type*} [DecidableEq α] {values : α → β} {place other : α}
    {value found : β} (there : Function.update values place value other = found) :
    other = place ∧ found = value ∨ other ≠ place ∧ values other = found := by
  by_cases same : other = place
  · rw [same, Function.update_self] at there
    exact .inl ⟨same, there.symm⟩
  · rw [Function.update_of_ne same] at there
    exact .inr ⟨same, there⟩

variable {α β κ : Type*} [BEq κ] [LawfulBEq κ]

theorem lookup_of_mem {entries : List (κ × β)} {key : κ} {value : β}
    (keys : (entries.map Prod.fst).Nodup) (member : (key, value) ∈ entries) :
    entries.lookup key = some value := by
  induction entries with
  | nil => cases member
  | cons entry rest ih =>
      rw [List.map_cons, List.nodup_cons] at keys
      rcases List.mem_cons.mp member with rfl | later
      · rw [List.lookup_cons, beq_self_eq_true]
      · have differs : key ≠ entry.1 := by
          rintro rfl
          exact keys.1 (List.mem_map.mpr ⟨(entry.1, value), later, rfl⟩)
        rw [List.lookup_cons, beq_eq_false_iff_ne.mpr differs]
        exact ih keys.2 later

theorem lookup_eq_some_iff_mem {entries : List (κ × β)} {key : κ} {value : β}
    (keys : (entries.map Prod.fst).Nodup) :
    entries.lookup key = some value ↔ (key, value) ∈ entries := by
  constructor
  · intro found
    obtain ⟨before, after, rfl, _⟩ := List.lookup_eq_some_iff.mp found
    exact List.mem_append_right _ List.mem_cons_self
  · exact lookup_of_mem keys

theorem lookup_map_of_mem {entries : List α} {key : α → κ} {value : α → β}
    (keys : (entries.map key).Nodup) (entry : α) (member : entry ∈ entries) :
    (entries.map fun entry => (key entry, value entry)).lookup (key entry) =
      some (value entry) := by
  apply lookup_of_mem
  · rw [List.map_map]
    exact keys
  · exact List.mem_map_of_mem member

theorem lookup_map_of_not_mem {entries : List α} {key : α → κ} {value : α → β} {other : κ}
    (absent : other ∉ entries.map key) :
    (entries.map fun entry => (key entry, value entry)).lookup other = none := by
  rw [List.lookup_eq_none_iff]
  intro entry member
  obtain ⟨source, included, rfl⟩ := List.mem_map.mp member
  have differs : other ≠ key source := by
    rintro rfl
    exact absent (List.mem_map_of_mem included)
  simpa using differs

/-- The lookup of a key is the first entry that has it. -/
theorem lookup_map_eq_find? [DecidableEq κ] (entries : List α) (key : α → κ) (value : α → β) (other : κ) :
    (entries.map fun entry => (key entry, value entry)).lookup other =
      (entries.find? fun entry => key entry = other).map value := by
  induction entries with
  | nil => rfl
  | cons entry rest ih =>
      by_cases same : other = key entry
      · rw [List.map_cons, List.lookup_cons, beq_iff_eq.mpr same,
          List.find?_cons_of_pos (by simpa using same.symm)]
        rfl
      · rw [List.map_cons, List.lookup_cons, beq_eq_false_iff_ne.mpr same,
          List.find?_cons_of_neg (by simpa using fun equal => same equal.symm)]
        exact ih

end Andromeda.Library
