import Mathlib.Data.List.Sort
import Mathlib.Order.Defs.LinearOrder

/-! Ordered finite maps. The entries are kept in strictly increasing key order,
so iterating a map visits every key once and lookup is membership. -/

set_option autoImplicit false

namespace Andromeda.Library

/-- A finite map carrying the order of its entries as an invariant. -/
structure KeyMap (κ α : Type) [LinearOrder κ] where
  entries : List (κ × α)
  sorted : entries.Pairwise (fun earlier later => earlier.1 < later.1)

namespace KeyMap

variable {κ α : Type} [LinearOrder κ]

theorem ext_entries {left right : KeyMap κ α} (same : left.entries = right.entries) :
    left = right := by
  cases left
  cases right
  simpa using same

instance [DecidableEq α] : DecidableEq (KeyMap κ α) := fun left right =>
  decidable_of_iff (left.entries = right.entries)
    ⟨ext_entries, fun same => same ▸ rfl⟩

/-- The map without entries. -/
def empty : KeyMap κ α := ⟨[], .nil⟩

/-- The value stored under a key. -/
def find? (map : KeyMap κ α) (key : κ) : Option α :=
  (map.entries.find? fun entry => entry.1 = key).map Prod.snd

/-- Keep the entries a test accepts. -/
def filter (map : KeyMap κ α) (keep : κ → α → Bool) : KeyMap κ α :=
  ⟨map.entries.filter fun entry => keep entry.1 entry.2, map.sorted.filter _⟩

/-- Store a value under a key, replacing an earlier one. -/
def insert (map : KeyMap κ α) (key : κ) (value : α) : KeyMap κ α where
  entries := (map.entries.filter fun entry => entry.1 < key) ++
    (key, value) :: map.entries.filter fun entry => key < entry.1
  sorted := by
    rw [List.pairwise_append]
    refine ⟨map.sorted.filter _, List.pairwise_cons.mpr ⟨?_, map.sorted.filter _⟩, ?_⟩
    · intro entry member
      simpa using (List.mem_filter.mp member).2
    · intro earlier below later above
      have belowKey : earlier.1 < key := by simpa using (List.mem_filter.mp below).2
      rcases List.mem_cons.mp above with rfl | above
      · exact belowKey
      · have aboveKey : key < later.1 := by simpa using (List.mem_filter.mp above).2
        exact lt_trans belowKey aboveKey

/-- Remove a key. -/
def erase (map : KeyMap κ α) (key : κ) : KeyMap κ α :=
  map.filter fun other _ => decide (other ≠ key)

/-- Rewrite the values in place; the keys stay. -/
def mapValues (map : KeyMap κ α) (change : κ → α → α) : KeyMap κ α where
  entries := map.entries.map fun entry => (entry.1, change entry.1 entry.2)
  sorted := List.pairwise_map.mpr map.sorted

/-- Rewrite the value under one key in place. -/
def update (map : KeyMap κ α) (key : κ) (change : α → α) : KeyMap κ α :=
  map.mapValues fun other value => if other = key then change value else value

/-- Store a value only if the key is free. -/
def emplace (map : KeyMap κ α) (key : κ) (value : α) : KeyMap κ α :=
  if (map.find? key).isSome then map else map.insert key value

/-- The entries from a key on, in key order. -/
def entriesFrom (map : KeyMap κ α) (key : κ) : List (κ × α) :=
  map.entries.filter fun entry => key ≤ entry.1

theorem find?_eq_some_iff {map : KeyMap κ α} {key : κ} {value : α} :
    map.find? key = some value ↔ (key, value) ∈ map.entries := by
  obtain ⟨entries, sorted⟩ := map
  simp only [find?]
  induction entries with
  | nil => simp
  | cons head tail ih =>
      obtain ⟨headKey, headValue⟩ := head
      rw [List.pairwise_cons] at sorted
      rw [List.find?_cons]
      by_cases same : headKey = key
      · subst same
        simp only [decide_true, Option.map_some, Option.some.injEq, List.mem_cons,
          Prod.mk.injEq, true_and]
        constructor
        · intro equal
          exact .inl equal.symm
        · rintro (equal | member)
          · exact equal.symm
          · exact absurd (sorted.1 _ member) (lt_irrefl headKey)
      · have different : ¬ key = headKey := fun equal => same equal.symm
        simp only [same, decide_false, List.mem_cons, Prod.mk.injEq, different, false_and,
          false_or]
        exact ih sorted.2

theorem find?_eq_none_iff {map : KeyMap κ α} {key : κ} :
    map.find? key = none ↔ ∀ value, (key, value) ∉ map.entries := by
  constructor
  · intro absent value member
    rw [find?_eq_some_iff.mpr member] at absent
    cases absent
  · intro missing
    cases found : map.find? key with
    | none => rfl
    | some value => exact absurd (find?_eq_some_iff.mp found) (missing value)

@[simp] theorem find?_empty (key : κ) : (empty : KeyMap κ α).find? key = none := rfl

theorem mem_insert {map : KeyMap κ α} {key other : κ} {value stored : α} :
    (other, stored) ∈ (map.insert key value).entries ↔
      other = key ∧ stored = value ∨ other ≠ key ∧ (other, stored) ∈ map.entries := by
  simp only [insert, List.mem_append, List.mem_cons, List.mem_filter, decide_eq_true_eq,
    Prod.mk.injEq]
  constructor
  · rintro (⟨member, below⟩ | equal | ⟨member, above⟩)
    · exact .inr ⟨ne_of_lt below, member⟩
    · exact .inl equal
    · exact .inr ⟨(ne_of_lt above).symm, member⟩
  · rintro (equal | ⟨different, member⟩)
    · exact .inr (.inl equal)
    · rcases lt_or_gt_of_ne different with below | above
      · exact .inl ⟨member, below⟩
      · exact .inr (.inr ⟨member, above⟩)

theorem find?_insert (map : KeyMap κ α) (key other : κ) (value : α) :
    (map.insert key value).find? other =
      if other = key then some value else map.find? other := by
  apply Option.ext
  intro stored
  rw [find?_eq_some_iff, mem_insert]
  by_cases same : other = key
  · simp [same, eq_comm]
  · simp [same, find?_eq_some_iff]

@[simp] theorem find?_filter (map : KeyMap κ α) (keep : κ → α → Bool) (key : κ) :
    (map.filter keep).find? key = (map.find? key).filter (keep key) := by
  apply Option.ext
  intro value
  simp [find?_eq_some_iff, filter, Option.filter_eq_some_iff]

/-- A test that all entries pass keeps the map. -/
theorem filter_of_all {map : KeyMap κ α} {keep : κ → α → Bool}
    (all : ∀ key value, map.find? key = some value → keep key value = true) :
    map.filter keep = map :=
  ext_entries (List.filter_eq_self.mpr fun entry member =>
    all entry.1 entry.2 (find?_eq_some_iff.mpr member))

theorem find?_erase (map : KeyMap κ α) (key other : κ) :
    (map.erase key).find? other = if other = key then none else map.find? other := by
  rw [erase, find?_filter]
  by_cases same : other = key
  · simp [same]
  · cases found : map.find? other <;> simp [same]

@[simp] theorem find?_mapValues (map : KeyMap κ α) (change : κ → α → α) (key : κ) :
    (map.mapValues change).find? key = (map.find? key).map (change key) := by
  apply Option.ext
  intro value
  simp only [find?_eq_some_iff, mapValues, List.mem_map, Option.map_eq_some_iff, Prod.mk.injEq,
    Prod.exists]
  constructor
  · rintro ⟨other, stored, member, rfl, rfl⟩
    exact ⟨stored, member, rfl⟩
  · rintro ⟨stored, member, rfl⟩
    exact ⟨key, stored, member, rfl, rfl⟩

theorem find?_update (map : KeyMap κ α) (key other : κ) (change : α → α) :
    (map.update key change).find? other =
      if other = key then (map.find? key).map change else map.find? other := by
  rw [update, find?_mapValues]
  by_cases same : other = key
  · simp [same]
  · simp [same]

theorem find?_emplace (map : KeyMap κ α) (key other : κ) (value : α) :
    (map.emplace key value).find? other =
      if other = key then some ((map.find? key).getD value) else map.find? other := by
  unfold emplace
  cases found : map.find? key with
  | none => simp [find?_insert]
  | some stored =>
      by_cases same : other = key
      · simp [same, found]
      · simp [same]

theorem mem_entriesFrom {map : KeyMap κ α} {key : κ} {entry : κ × α} :
    entry ∈ map.entriesFrom key ↔ key ≤ entry.1 ∧ map.find? entry.1 = some entry.2 := by
  rw [find?_eq_some_iff]
  simp [entriesFrom, and_comm]

/-- The entries from a stored key on begin with this key. -/
theorem entriesFrom_cons (map : KeyMap κ α) {key : κ} {value : α}
    (found : map.find? key = some value) :
    ∃ tail, map.entriesFrom key = (key, value) :: tail := by
  have member : (key, value) ∈ map.entriesFrom key :=
    mem_entriesFrom.mpr ⟨le_refl key, found⟩
  have sorted : (map.entriesFrom key).Pairwise (fun earlier later => earlier.1 < later.1) :=
    map.sorted.filter _
  cases entries : map.entriesFrom key with
  | nil => rw [entries] at member; cases member
  | cons head tail =>
      rw [entries] at member sorted
      rcases List.mem_cons.mp member with rfl | later
      · exact ⟨tail, rfl⟩
      · have above : head.1 < key := (List.pairwise_cons.mp sorted).1 _ later
        have below : key ≤ head.1 :=
          (mem_entriesFrom.mp (entries ▸ List.mem_cons_self : head ∈ map.entriesFrom key)).1
        exact absurd above (not_lt_of_ge below)

theorem sorted_entriesFrom (map : KeyMap κ α) (key : κ) :
    (map.entriesFrom key).Pairwise (fun earlier later => earlier.1 < later.1) :=
  map.sorted.filter _

private theorem sorted_ext {left right : List (κ × α)}
    (leftSorted : left.Pairwise (fun earlier later => earlier.1 < later.1))
    (rightSorted : right.Pairwise (fun earlier later => earlier.1 < later.1))
    (same : ∀ entry, entry ∈ left ↔ entry ∈ right) : left = right := by
  have irrefl : Std.Irrefl (fun earlier later : κ × α => earlier.1 < later.1) :=
    ⟨fun entry => lt_irrefl entry.1⟩
  have antisymm : Std.Antisymm (fun earlier later : κ × α => earlier.1 < later.1) :=
    ⟨fun _ _ before after => absurd before (lt_asymm after)⟩
  exact List.Pairwise.eq_of_mem_iff leftSorted rightSorted same

/-- Maps that store the same values are the same. -/
theorem ext_find? {left right : KeyMap κ α}
    (same : ∀ key value, left.find? key = some value ↔ right.find? key = some value) :
    left = right := by
  refine ext_entries (sorted_ext left.sorted right.sorted fun entry => ?_)
  have agree := same entry.1 entry.2
  rwa [find?_eq_some_iff, find?_eq_some_iff] at agree

/-- Maps that agree from a key on have the same entries from it on. -/
theorem entriesFrom_congr {left right : KeyMap κ α} {key : κ}
    (same : ∀ other, key ≤ other → left.find? other = right.find? other) :
    left.entriesFrom key = right.entriesFrom key := by
  refine sorted_ext (left.sorted_entriesFrom key) (right.sorted_entriesFrom key) fun entry => ?_
  rw [mem_entriesFrom, mem_entriesFrom]
  exact and_congr_right fun after => by rw [same entry.1 after]

/-- The entries after the first one. -/
theorem entriesFrom_tail {map : KeyMap κ α} {key next : κ} {entry : κ × α} {tail : List (κ × α)}
    (entries : map.entriesFrom key = entry :: tail)
    (succ : ∀ other, entry.1 < other ↔ next ≤ other) : map.entriesFrom next = tail := by
  have sorted := map.sorted_entriesFrom key
  rw [entries, List.pairwise_cons] at sorted
  refine sorted_ext (map.sorted_entriesFrom next) sorted.2 fun other => ?_
  have member : other ∈ map.entriesFrom key ↔ other = entry ∨ other ∈ tail := by
    rw [entries, List.mem_cons]
  rw [mem_entriesFrom] at member
  rw [mem_entriesFrom, ← succ]
  have first : key ≤ entry.1 := (mem_entriesFrom.mp (entries ▸ List.mem_cons_self)).1
  constructor
  · rintro ⟨after, found⟩
    rcases member.mp ⟨first.trans after.le, found⟩ with rfl | inTail
    · exact absurd after (lt_irrefl _)
    · exact inTail
  · intro inTail
    exact ⟨sorted.1 _ inTail, (member.mpr (.inr inTail)).2⟩

end KeyMap

end Andromeda.Library
