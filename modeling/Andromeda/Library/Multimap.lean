import Andromeda.Library.KeyMap
import Mathlib.Data.List.Perm.Basic

/-! Lists of named values, where a name may come more than once. -/

set_option autoImplicit false

namespace Andromeda.Library.Multimap

variable {κ ν α γ : Type}

section Names

variable [DecidableEq κ] {entries others : List (κ × α)} {key : κ} {value : α}

/-- The values under a name. -/
def values (entries : List (κ × α)) (key : κ) : List α :=
  (entries.filter fun entry => entry.1 = key).map Prod.snd

/-- The value under a name, if it is the only one. -/
def single? (entries : List (κ × α)) (key : κ) : Option α :=
  match values entries key with
  | [value] => some value
  | _ => none

theorem single?_iff : single? entries key = some value ↔ values entries key = [value] := by
  unfold single?
  constructor
  · intro found
    split at found
    · next same =>
      cases found
      exact same
    · cases found
  · intro same
    rw [same]

theorem values_append (entries others : List (κ × α)) (key : κ) :
    values (entries ++ others) key = values entries key ++ values others key := by
  unfold values
  rw [List.filter_append, List.map_append]

theorem values_of_notMem (absent : ∀ entry ∈ entries, entry.1 ≠ key) : values entries key = [] := by
  unfold values
  rw [List.filter_eq_nil_iff.mpr fun entry member => by simpa using absent entry member,
    List.map_nil]

/-- The order of the entries does not matter to one that is the only one of its name. -/
theorem single?_perm (perm : entries.Perm others) : single? entries key = single? others key := by
  have same : (values entries key).Perm (values others key) := (perm.filter _).map _
  apply Option.ext
  intro value
  rw [single?_iff, single?_iff]
  constructor
  · intro only
    rw [only] at same
    exact (List.singleton_perm.mp same).symm
  · intro only
    rw [only] at same
    exact List.perm_singleton.mp same

end Names

section Ordered

variable [LinearOrder κ]

/-- Add a value after those of its name. -/
def emplace (entries : List (κ × α)) (key : κ) (value : α) : List (κ × α) :=
  (entries.takeWhile fun entry => entry.1 ≤ key) ++
    (key, value) :: entries.dropWhile fun entry => entry.1 ≤ key

private theorem emplace_perm (entries : List (κ × α)) (key : κ) (value : α) :
    (emplace entries key value).Perm ((key, value) :: entries) := by
  unfold emplace
  refine List.perm_middle.trans (.cons _ ?_)
  rw [List.takeWhile_append_dropWhile]

theorem foldl_emplace_perm (added entries : List (κ × α)) :
    (added.foldl (fun entries entry => emplace entries entry.1 entry.2) entries).Perm
      (added ++ entries) := by
  induction added generalizing entries with
  | nil => exact .refl _
  | cons entry added ih =>
      refine (ih _).trans ?_
      exact ((emplace_perm entries entry.1 entry.2).append_left added).trans List.perm_middle

/-- Under each key of a map there is its value alone. -/
theorem values_entries [DecidableEq κ] (map : KeyMap κ α) (key : κ) :
    values map.entries key = (map.find? key).toList := by
  obtain ⟨entries, sorted⟩ := map
  induction entries with
  | nil => rfl
  | cons head tail ih =>
      have rest := ih (List.pairwise_cons.mp sorted).2
      unfold values KeyMap.find? at rest ⊢
      by_cases same : head.1 = key
      · have last : (tail.filter fun entry => decide (entry.1 = key)) = [] := by
          refine List.filter_eq_nil_iff.mpr fun entry member => ?_
          have above := (List.pairwise_cons.mp sorted).1 entry member
          rw [same] at above
          simpa using (ne_of_lt above).symm
        rw [List.filter_cons_of_pos (by simpa using same), last,
          List.find?_cons_of_pos (by simpa using same)]
        rfl
      · rw [List.filter_cons_of_neg (by simpa using same), rest,
          List.find?_cons_of_neg (by simpa using same)]

/-- A renamed entry is the only one of its name just when no other key gets this name. -/
theorem values_renamed_iff [DecidableEq ν] (map : KeyMap κ α) (rename : κ → ν) (change : α → γ)
    {key : κ} {value : α} (found : map.find? key = some value) :
    values (map.entries.map fun entry => (rename entry.1, change entry.2)) (rename key) =
        [change value] ↔
      ∀ other stored, map.find? other = some stored → rename other = rename key → other = key := by
  have here : (key, value) ∈ map.entries.filter fun entry => rename entry.1 = rename key :=
    List.mem_filter.mpr ⟨KeyMap.find?_eq_some_iff.mp found, decide_eq_true rfl⟩
  have renamed : values (map.entries.map fun entry => (rename entry.1, change entry.2))
      (rename key) =
        (map.entries.filter fun entry => rename entry.1 = rename key).map (change ·.2) := by
    unfold values
    rw [List.filter_map, List.map_map]
    rfl
  rw [renamed]
  constructor
  · intro only other stored there same
    have length := congrArg List.length only
    rw [List.length_map] at length
    obtain ⟨entry, single⟩ := List.length_eq_one_iff.mp length
    have member : (other, stored) ∈ map.entries.filter fun entry => rename entry.1 = rename key :=
      List.mem_filter.mpr ⟨KeyMap.find?_eq_some_iff.mp there, decide_eq_true same⟩
    rw [single, List.mem_singleton] at here member
    rw [← here] at member
    exact congrArg Prod.fst member
  · intro apart
    have same : (map.entries.filter fun entry => rename entry.1 = rename key) =
        map.entries.filter fun entry => entry.1 = key := by
      refine List.filter_congr fun entry member => ?_
      rw [decide_eq_decide]
      exact ⟨apart entry.1 entry.2 (KeyMap.find?_eq_some_iff.mpr member), congrArg rename⟩
    have alone := values_entries map key
    rw [found] at alone
    rw [same]
    have changed := congrArg (List.map change) alone
    unfold values at changed
    rw [List.map_map] at changed
    exact changed

end Ordered

end Andromeda.Library.Multimap
