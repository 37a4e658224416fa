import Andromeda.Folders.ItemProperties
import Andromeda.Folders.Scenario

/-! When a folder holds what the server listed after its synchronisation. -/

set_option autoImplicit false

namespace Andromeda.Folders

open Andromeda.Library

variable {β : Type} {world middle final : World β} {folder ref : Ref}

/-- The map of a folder owns its items: they exist, once each, and are not the folder. -/
structure Placed (world : World β) (folder : Ref) : Prop where
  folder_made : folder < world.next
  made : ∀ name ref, world.owns folder name = some ref → ref < world.next
  apart : ∀ name, world.owns folder name ≠ some folder
  single : ∀ first second ref, world.owns folder first = some ref →
    world.owns folder second = some ref → first = second

/-- The entries of some names, and the items behind them, are as they were. -/
def Untouched (world : World β) (folder : Ref) (names : String → Prop) (final : World β) : Prop :=
  ∀ name, names name → final.owns folder name = world.owns folder name ∧
    ∀ ref, world.owns folder name = some ref → final.heap ref = world.heap ref

private theorem Untouched.trans {names : String → Prop}
    (first : Untouched world folder names middle)
    (second : Untouched middle folder names final) : Untouched world folder names final := by
  intro name named
  obtain ⟨entry, items⟩ := first name named
  obtain ⟨entry', items'⟩ := second name named
  refine ⟨entry'.trans entry, fun ref found => ?_⟩
  rw [items' ref (entry.trans found), items ref found]

private theorem Untouched.mono {names fewer : String → Prop}
    (untouched : Untouched world folder names final)
    (included : ∀ name, fewer name → names name) : Untouched world folder fewer final :=
  fun name named => untouched name (included name named)

/-- What the first loop of the synchronisation leaves under a name that the server listed: the
item that was there, refreshed, or a new one. -/
def Synced (world : World β) (folder : Ref) (entry : String × ItemData × Kind)
    (final : World β) : Prop :=
  ∃ ref, final.owns folder entry.1 = some ref ∧
    match world.owns folder entry.1 with
    | some old => old = ref ∧ (final.heap ref).kind = (world.heap ref).kind ∧
        IdRefreshed (world.heap ref) entry.2.1 (final.heap ref)
    | none => (final.heap ref).kind = entry.2.2 ∧ entry.2.1.id = some (final.heap ref).id

private theorem Synced.before {names : String → Prop} {entry : String × ItemData × Kind}
    (synced : Synced middle folder entry final) (untouched : Untouched world folder names middle)
    (named : names entry.1) : Synced world folder entry final := by
  obtain ⟨ref, found, done⟩ := synced
  obtain ⟨same, items⟩ := untouched entry.1 named
  refine ⟨ref, found, ?_⟩
  rw [same] at done
  cases old : world.owns folder entry.1 with
  | none => simpa only [old] using done
  | some existing =>
      simp only [old] at done ⊢
      obtain ⟨rfl, kind, id⟩ := done
      rw [items existing old] at kind id
      exact ⟨rfl, kind, id⟩

private theorem Synced.after {names : String → Prop} {entry : String × ItemData × Kind}
    (synced : Synced world folder entry middle) (untouched : Untouched middle folder names final)
    (named : names entry.1) : Synced world folder entry final := by
  obtain ⟨ref, found, done⟩ := synced
  obtain ⟨same, items⟩ := untouched entry.1 named
  refine ⟨ref, same.trans found, ?_⟩
  rw [items ref found]
  exact done

private theorem owns_of_heap (same : final.heap folder = world.heap folder) :
    final.owns folder = world.owns folder := by
  funext name
  simp only [World.owns, same]

private theorem placed_of_refreshed {data : ItemData} (placed : Placed world folder)
    (other : folder ≠ ref) (refreshed : Refreshed world ref data final) : Placed final folder := by
  have entries := owns_of_heap (refreshed.others folder other)
  constructor
  · rw [refreshed.next]
    exact placed.folder_made
  · rw [entries, refreshed.next]
    exact placed.made
  · rw [entries]
    exact placed.apart
  · rw [entries]
    exact placed.single

variable (calls : Calls β)

private theorem syncItem_spec (world : World β) (folder : Ref) (entry : String × ItemData × Kind)
    (placed : Placed world folder) :
    Outcome (syncItem calls folder entry) world
      (fun _ final => Placed final folder ∧ Untouched world folder (· ≠ entry.1) final ∧
        Synced world folder entry final)
      (fun _ _ => True) := by
  unfold syncItem
  rw [Outcome.bind_iff, validateName_iff]
  refine ⟨fun _ => ?_, fun _ => trivial⟩
  rw [Outcome.bind_iff, getItem_iff]
  cases old : world.owns folder entry.1 with
  | some existing =>
      have found : (world.heap folder).items.find? entry.1 = some existing := old
      rw [found]
      have other : folder ≠ existing := fun same => placed.apart entry.1 (same ▸ old)
      refine (refresh_spec calls world existing entry.2.1).mono ?_ fun _ _ _ => trivial
      rintro _ final ⟨refreshed, -, -, id⟩
      have entries := owns_of_heap (refreshed.others folder other)
      refine ⟨placed_of_refreshed placed other refreshed, fun name named => ?_, existing, ?_, ?_⟩
      · refine ⟨by rw [entries], fun ref present => refreshed.others ref ?_⟩
        rintro rfl
        exact named (placed.single _ _ _ present old)
      · rw [entries, old]
      · simp only [old, true_and]
        exact ⟨refreshed.same.kind, id⟩
  | none =>
      have missing : (world.heap folder).items.find? entry.1 = none := old
      rw [missing, Outcome.bind_iff]
      refine (newItem_spec calls world folder entry.2.1 entry.2.2).mono ?_ fun _ _ _ => trivial
      intro fresh middle made
      rw [setEntry, setItem_iff]
      have other : folder ≠ fresh := by
        rw [made.fresh]
        exact Nat.ne_of_lt placed.folder_made
      have heap : ∀ ref, ref ≠ folder →
          (middle.setItem folder fun item =>
            { item with items := item.items.insert entry.1 fresh }).heap ref = middle.heap ref :=
        fun ref different => middle.heap_setItem_of_ne folder ref _ different
      have entries : ∀ name, (middle.setItem folder fun item =>
          { item with items := item.items.insert entry.1 fresh }).owns folder name =
          if name = entry.1 then some fresh else world.owns folder name := by
        intro name
        simp only [World.owns, World.heap_setItem_self, KeyMap.find?_insert,
          made.others folder other]
      have below : ∀ name ref, world.owns folder name = some ref → ref ≠ fresh := by
        intro name ref present
        rw [made.fresh]
        exact Nat.ne_of_lt (placed.made name ref present)
      refine ⟨⟨?_, ?_, ?_, ?_⟩, fun name named => ⟨?_, fun ref present => ?_⟩, fresh, ?_, ?_⟩
      · rw [World.next_setItem, made.next]
        exact Nat.lt_succ_of_lt placed.folder_made
      · intro name ref present
        rw [World.next_setItem, made.next]
        rw [entries] at present
        split at present
        · cases present
          rw [made.fresh]
          exact Nat.lt_succ_self world.next
        · exact Nat.lt_succ_of_lt (placed.made name ref present)
      · intro name present
        rw [entries] at present
        split at present
        · exact other (Option.some_inj.mp present).symm
        · exact placed.apart name present
      · intro first second ref left right
        rw [entries] at left right
        split at left
        · next same =>
            split at right
            · next same' => exact same.trans same'.symm
            · cases left
              exact absurd rfl (below second fresh right)
        · split at right
          · cases right
            exact absurd rfl (below first fresh left)
          · exact placed.single first second ref left right
      · rw [entries, if_neg named]
      · have different : ref ≠ folder := fun same => placed.apart name (same ▸ present)
        rw [heap ref different, made.others ref (below name ref present)]
      · rw [entries, if_pos rfl]
      · simp only [old]
        rw [heap fresh other.symm]
        exact ⟨made.kind, made.id⟩

private theorem syncItems_spec (folder : Ref) (entries : List (String × ItemData × Kind))
    (distinct : (entries.map Prod.fst).Nodup) (world : World β) (placed : Placed world folder) :
    Outcome (forM entries (syncItem calls folder)) world
      (fun _ final => Untouched world folder (· ∉ entries.map Prod.fst) final ∧
        ∀ entry ∈ entries, Synced world folder entry final)
      (fun _ _ => True) := by
  induction entries generalizing world with
  | nil =>
      refine ⟨fun name _ => ⟨rfl, fun _ _ => rfl⟩, fun entry member => ?_⟩
      exact absurd member List.not_mem_nil
  | cons head rest ih =>
      rw [List.map_cons, List.nodup_cons] at distinct
      rw [List.forM_cons, Outcome.bind_iff]
      refine (syncItem_spec calls world folder head placed).mono ?_ fun _ _ _ => trivial
      rintro _ middle ⟨placed', untouched, synced⟩
      refine (ih distinct.2 middle placed').mono ?_ fun _ _ _ => trivial
      rintro _ final ⟨later, done⟩
      have apart : ∀ entry ∈ rest, entry.1 ≠ head.1 := fun entry member same =>
        distinct.1 (same ▸ List.mem_map_of_mem member)
      constructor
      · refine (untouched.mono fun name outside => ?_).trans (later.mono fun name outside => ?_)
        · exact fun same => outside (List.mem_cons.mpr (Or.inl same))
        · exact fun member => outside (List.mem_cons_of_mem _ member)
      · intro entry member
        rcases List.mem_cons.mp member with rfl | member
        · exact synced.after later distinct.1
        · exact (done entry member).before untouched (apart entry member)

/-- What a folder should hold once it is synchronised: the items of the server and its own
files that are not created yet, and under each name of the server an item of the kind and with
the ID that the server reports. -/
def Matches (world : World β) (folder : Ref) (newItems : NewItemMap) (final : World β) : Prop :=
  (∀ name, (∃ ref, final.owns folder name = some ref) ↔
    (∃ listed, newItems.find? name = some listed) ∨
      ∃ ref, world.owns folder name = some ref ∧ (world.heap ref).isPending = true) ∧
  ∀ name data kind, newItems.find? name = some (data, kind) →
    ∃ ref, final.owns folder name = some ref ∧ (final.heap ref).kind = kind ∧
      data.id = some (final.heap ref).id

/-- No item that the server lists replaced another one of that name: it is of the same kind
and has the same ID, unless it is a file that had none. -/
def Current (world : World β) (folder : Ref) (newItems : NewItemMap) : Prop :=
  ∀ name data kind ref, newItems.find? name = some (data, kind) →
    world.owns folder name = some ref → (world.heap ref).kind = kind ∧
      (data.id = some (world.heap ref).id ∨ kind = .file ∧ (world.heap ref).id = "")

private theorem distinct_names {α : Type} (map : KeyMap String α) :
    (map.entries.map Prod.fst).Nodup := by
  rw [List.nodup_iff_pairwise_ne, List.pairwise_map]
  exact map.sorted.imp fun below => ne_of_lt below

private theorem idRefreshed_iff {item refreshed : Item} {data : ItemData} {kind : Kind}
    (same : refreshed.kind = item.kind) (id : IdRefreshed item data refreshed) :
    (refreshed.kind = kind ∧ data.id = some refreshed.id) ↔
      item.kind = kind ∧ (data.id = some item.id ∨ kind = .file ∧ item.id = "") := by
  rw [same]
  refine and_congr_right fun kinds => ?_
  subst kinds
  unfold IdRefreshed at id
  split at id
  · next empty => exact ⟨fun _ => Or.inr empty, fun _ => id⟩
  · next present =>
      rw [id]
      exact ⟨Or.inl, fun reported => reported.resolve_right present⟩

section

variable {newItems : NewItemMap}

private theorem names_synced
    (untouched : Untouched world folder (· ∉ newItems.entries.map Prod.fst) middle)
    (synced : ∀ entry ∈ newItems.entries, Synced world folder entry middle) (name : String) :
    (∃ ref, (withoutOthers middle folder newItems).owns folder name = some ref) ↔
      (∃ listed, newItems.find? name = some listed) ∨
        ∃ ref, world.owns folder name = some ref ∧ (world.heap ref).isPending = true := by
  simp only [owns_withoutOthers, Option.filter_eq_some_iff, Bool.or_eq_true]
  cases listed : newItems.find? name with
  | some entry =>
      obtain ⟨ref, found, -⟩ := synced (name, entry) (KeyMap.find?_eq_some_iff.mp listed)
      exact ⟨fun _ => Or.inl ⟨entry, rfl⟩, fun _ => ⟨ref, found, Or.inl rfl⟩⟩
  | none =>
      have outside : name ∉ newItems.entries.map Prod.fst := by
        intro member
        obtain ⟨entry, present, rfl⟩ := List.mem_map.mp member
        exact KeyMap.find?_eq_none_iff.mp listed entry.2 present
      obtain ⟨same, items⟩ := untouched name outside
      simp only [Option.isSome_none, Bool.false_eq_true, false_or, reduceCtorEq, exists_false, same]
      constructor
      · rintro ⟨ref, found, pending⟩
        exact ⟨ref, found, by rw [← items ref found]; exact pending⟩
      · rintro ⟨ref, found, pending⟩
        exact ⟨ref, found, by rw [items ref found]; exact pending⟩

private theorem items_synced (synced : ∀ entry ∈ newItems.entries, Synced world folder entry middle)
    :
    (∀ name data kind, newItems.find? name = some (data, kind) →
      ∃ ref, (withoutOthers middle folder newItems).owns folder name = some ref ∧
        ((withoutOthers middle folder newItems).heap ref).kind = kind ∧
        data.id = some ((withoutOthers middle folder newItems).heap ref).id) ↔
      Current world folder newItems := by
  refine forall_congr' fun name => forall_congr' fun data => forall_congr' fun kind => ?_
  rw [forall_comm]
  refine forall_congr' fun listed => ?_
  obtain ⟨ref, found, done⟩ := synced (name, data, kind) (KeyMap.find?_eq_some_iff.mp listed)
  have kept : (withoutOthers middle folder newItems).owns folder name = some ref := by
    rw [owns_withoutOthers, found, listed]
    rfl
  have heap := @heap_withoutOthers β middle folder newItems ref
  simp only [kept, Option.some_inj, exists_eq_left', heap.1, heap.2]
  cases old : world.owns folder name with
  | none =>
      simp only [old] at done
      exact ⟨fun _ _ absent => (nomatch absent), fun _ => done⟩
  | some existing =>
      simp only [old] at done
      obtain ⟨rfl, kinds, id⟩ := done
      rw [idRefreshed_iff kinds id]
      simp only [Option.some_inj, forall_eq']

end

private theorem syncContents_spec {newItems : NewItemMap} (placed : Placed world folder) :
    Outcome (syncContents calls folder newItems) world
      (fun _ final => Matches world folder newItems final ↔ Current world folder newItems)
      (fun _ _ => True) := by
  unfold syncContents
  rw [Outcome.bind_iff]
  refine (syncItems_spec calls folder newItems.entries (distinct_names newItems) world
    placed).mono ?_ fun _ _ _ => trivial
  rintro _ middle ⟨untouched, synced⟩
  rw [Outcome.modify_iff]
  exact ⟨fun right => (items_synced synced).mp right.2,
    fun current => ⟨names_synced untouched synced, (items_synced synced).mpr current⟩⟩

/-- A synchronised folder has the names it should have, and holds what it should exactly if no
item was replaced by another one of its name. -/
theorem syncContents_matches_iff {newItems : NewItemMap} (placed : Placed world folder)
    (returned : syncContents calls folder newItems world = .ok () final) :
    Matches world folder newItems final ↔ Current world folder newItems :=
  (syncContents_spec calls placed).of_ok returned

namespace Scenario

private theorem owns_oneFile {id name other : String} {ref : Ref}
    (found : (oneFile id name).owns 0 other = some ref) : other = name ∧ ref = 1 := by
  simp only [World.owns, oneFile, if_true, KeyMap.find?_insert, KeyMap.find?_empty] at found
  split at found
  · next same => exact ⟨same, (Option.some_inj.mp found).symm⟩
  · cases found

private theorem placed_oneFile (id name : String) : Placed (oneFile id name) 0 := by
  refine ⟨Nat.zero_lt_two, fun other ref found => ?_, fun other found => ?_,
    fun first second ref left right => ?_⟩
  · rw [(owns_oneFile found).2]
    exact Nat.one_lt_two
  · cases (owns_oneFile found).2
  · rw [(owns_oneFile left).1, (owns_oneFile right).1]

/-- The server's answer that a folder has one file. -/
def listed (id name : String) : NewItemMap := KeyMap.empty.insert name (dataOf id name, .file)

private theorem current_listed_iff {id newId name : String} :
    Current (oneFile id name) 0 (listed newId name) ↔ newId = id ∨ id = "" := by
  have entry : (oneFile id name).owns 0 name = some 1 := by
    simp [World.owns, oneFile, KeyMap.find?_insert]
  constructor
  · intro current
    have same := (current name (dataOf newId name) .file 1 (by
      simp [listed, KeyMap.find?_insert]) entry).2
    simpa [oneFile, dataOf] using same
  · intro reported other data kind ref found owned
    obtain ⟨rfl, rfl⟩ := owns_oneFile owned
    rw [listed, KeyMap.find?_insert, if_pos rfl, Option.some_inj, Prod.mk.injEq] at found
    obtain ⟨rfl, rfl⟩ := found
    refine ⟨rfl, ?_⟩
    simpa [oneFile, dataOf] using reported

/-- The file that the server still has is kept. -/
theorem unchanged_matches : ∃ final,
    syncContents Scenario.calls 0 (listed "1" "a") (oneFile "1" "a") = .ok () final ∧
      (Matches (oneFile "1" "a") 0 (listed "1" "a") final ↔
        Current (oneFile "1" "a") 0 (listed "1" "a")) :=
  ⟨_, rfl, syncContents_matches_iff Scenario.calls (placed_oneFile "1" "a") rfl⟩

/-- The server replaced the file with ID 1 by another one of the same name, with ID 2: the
local file keeps the ID of the deleted one. -/
theorem replaced_differs : Placed (oneFile "1" "a") 0 ∧ ∃ final,
    syncContents Scenario.calls 0 (listed "2" "a") (oneFile "1" "a") = .ok () final ∧
      ¬ Matches (oneFile "1" "a") 0 (listed "2" "a") final := by
  refine ⟨placed_oneFile "1" "a", _, rfl, ?_⟩
  rw [(syncContents_spec Scenario.calls (placed_oneFile "1" "a")).of_ok rfl, current_listed_iff]
  decide

end Scenario

end Andromeda.Folders
