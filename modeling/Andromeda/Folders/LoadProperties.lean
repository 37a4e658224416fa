import Andromeda.Folders.TreeProperties

/-! Loading a folder keeps the shape of the tree, and never exchanges the item that the folder
has under a name for another one. -/

set_option autoImplicit false

namespace Andromeda.Folders

open Andromeda.Library

variable {β : Type} {world middle final : World β} {root folder ref : Ref}

/-- What the insertions into a folder leave. -/
structure Grown (world : World β) (folder : Ref) (final : World β) : Prop where
  next : world.next ≤ final.next
  others : ∀ other, other ≠ folder → other < world.next → final.owns other = world.owns other
  kept : ∀ name ref, world.owns folder name = some ref → final.owns folder name = some ref
  parents : ∀ other, other < world.next → (final.heap other).parent = (world.heap other).parent

private theorem Grown.refl (world : World β) (folder : Ref) : Grown world folder world :=
  ⟨Nat.le_refl _, fun _ _ _ => rfl, fun _ _ => id, fun _ _ => rfl⟩

private theorem Grown.trans (first : Grown world folder middle)
    (second : Grown middle folder final) :
    Grown world folder final where
  next := Nat.le_trans first.next second.next
  others := fun other different made =>
    (second.others other different (Nat.lt_of_lt_of_le made first.next)).trans
      (first.others other different made)
  kept := fun name ref entry => second.kept name ref (first.kept name ref entry)
  parents := fun other made =>
    (second.parents other (Nat.lt_of_lt_of_le made first.next)).trans (first.parents other made)

private theorem SameTree.grown (same : SameTree world final) : Grown world folder final :=
  ⟨same.next.ge, fun other _ _ => congrFun same.owns other, fun name ref entry => by
    rw [same.owns]
    exact entry, fun other _ => same.parent other⟩

/-- What loading a folder leaves. -/
structure Loaded (world : World β) (folder : Ref) (final : World β) : Prop where
  next : world.next ≤ final.next
  others : ∀ other, other ≠ folder → other < world.next → final.owns other = world.owns other
  left : ∀ name ref ref', world.owns folder name = some ref → final.owns folder name = some ref' →
    ref' = ref
  parents : ∀ other, other < world.next → (final.heap other).parent = (world.heap other).parent

private theorem Grown.loaded (grown : Grown world folder final) : Loaded world folder final where
  next := grown.next
  others := grown.others
  left := by
    intro name ref ref' before after
    rw [grown.kept name ref before, Option.some_inj] at after
    exact after.symm
  parents := grown.parents

/-- A folder is alive as long as the others keep their entries. -/
theorem WellFormed.alive_of_others (formed : WellFormed world root)
    (alive : world.Alive root folder)
    (others : ∀ other, other ≠ folder → other < world.next → final.owns other = world.owns other) :
    final.Alive root folder :=
  formed.sole.alive_of_others (fun other different above =>
    others other different (formed.made above)) alive

/-- A new item that is in no map yet. -/
structure Fresh (world : World β) (folder ref : Ref) (final : World β) : Prop where
  fresh : ref = world.next
  next : final.next = world.next + 1
  others : ∀ other, other ≠ ref → final.heap other = world.heap other
  parent : (final.heap ref).parent = some folder
  items : (final.heap ref).items = .empty

theorem Made.isFresh {data : ItemData} {kind : Kind} (made : Made world folder data kind ref final) :
    Fresh world folder ref final :=
  ⟨made.fresh, made.next, made.others, made.parent, made.items⟩

/-- The world once a new item is in the map of its folder. -/
def entered (world : World β) (folder : Ref) (name : String) (ref : Ref) : World β :=
  world.setItem folder fun item => { item with items := item.items.insert name ref }

section

variable (fresh : Fresh world folder ref middle) (made : folder < world.next) {name : String}

include fresh made

theorem Fresh.apart : folder ≠ ref := by
  rw [fresh.fresh]
  exact Nat.ne_of_lt made

theorem Fresh.owns_entered (other : Ref) (key : String) :
    (entered middle folder name ref).owns other key =
      if other = folder ∧ key = name then some ref
      else if other = ref then none else world.owns other key := by
  by_cases here : other = folder
  · subst here
    simp only [World.owns, entered, World.heap_setItem_self, KeyMap.find?_insert, true_and,
      fresh.apart made, if_false, fresh.others other (fresh.apart made)]
  · simp only [here, false_and, if_false, World.owns, entered,
      World.heap_setItem_of_ne _ _ _ _ here]
    by_cases new : other = ref
    · rw [if_pos new, new, fresh.items, KeyMap.find?_empty]
    · rw [if_neg new, fresh.others other new]

theorem Fresh.heap_entered (other : Ref) (different : other ≠ ref) :
    ((entered middle folder name ref).heap other).name = (world.heap other).name ∧
      ((entered middle folder name ref).heap other).parent = (world.heap other).parent := by
  by_cases here : other = folder
  · subst here
    rw [entered, World.heap_setItem_self, fresh.others other different]
    exact ⟨rfl, rfl⟩
  · rw [entered, World.heap_setItem_of_ne _ _ _ _ here, fresh.others other different]
    exact ⟨rfl, rfl⟩

theorem Fresh.heap_entered_self :
    (entered middle folder name ref).heap ref = middle.heap ref :=
  World.heap_setItem_of_ne _ _ _ _ (fresh.apart made).symm

/-- A new item under its own name keeps the tree in shape. -/
theorem Fresh.wellFormed (formed : WellFormed world root) (named : (middle.heap ref).name = name) :
    WellFormed (entered middle folder name ref) root := by
  have self : (entered middle folder name ref).heap ref = middle.heap ref :=
    fresh.heap_entered_self made
  refine @WellFormed.plant β world (entered middle folder name ref) root folder ref formed ?_ ?_ ?_ ?_ ?_
    (fresh.heap_entered made) ?_
  · rw [self, named]
    constructor
    · rw [fresh.owns_entered made, if_pos ⟨rfl, rfl⟩]
    · intro key
      rw [fresh.owns_entered made, if_neg fun same => fresh.apart made same.1.symm, if_pos rfl]
    · intro other key owned different entry
      rw [fresh.owns_entered made, if_neg fun same => different (Prod.ext same.1 same.2)] at entry
      split at entry
      · cases entry
      · exact entry
  · rw [entered, World.next_setItem, fresh.next]
    exact Nat.le_succ _
  · rw [entered, World.next_setItem, fresh.next, fresh.fresh]
    exact Nat.lt_succ_self _
  · rw [fresh.fresh]
    exact (Nat.ne_of_lt formed.root_made).symm
  · rw [self]
    exact fresh.parent
  · intro upper key above entry
    have below := (formed.entry upper key ref above entry).2.2
    rw [fresh.fresh] at below
    exact Nat.lt_irrefl _ below

private theorem Fresh.grown (free : world.owns folder name = none) :
    Grown world folder (entered middle folder name ref) where
  next := by
    rw [entered, World.next_setItem, fresh.next]
    exact Nat.le_succ _
  others := by
    intro other different old
    funext key
    have apart : other ≠ ref := by
      rw [fresh.fresh]
      exact Nat.ne_of_lt old
    rw [fresh.owns_entered made, if_neg fun same => different same.1, if_neg apart]
  kept := by
    intro key owned entry
    have other : key ≠ name := by
      rintro rfl
      rw [free] at entry
      cases entry
    rw [fresh.owns_entered made, if_neg fun same => other same.2, if_neg (fresh.apart made)]
    exact entry
  parents := by
    intro other old
    refine (fresh.heap_entered made other ?_).2
    rw [fresh.fresh]
    exact Nat.ne_of_lt old

end

variable (calls : Calls β)

private theorem syncItem_tree {entry : String × ItemData × Kind} (formed : WellFormed world root)
    (alive : world.Alive root folder) (named : entry.2.1.name = some entry.1) :
    Outcome (syncItem calls folder entry) world
      (fun _ final => WellFormed final root ∧ Grown world folder final)
      (fun _ final => WellFormed final root ∧ Grown world folder final) := by
  unfold syncItem
  rw [Outcome.bind_iff, validateName_iff]
  refine ⟨fun _ => ?_, fun _ => ⟨formed, .refl world folder⟩⟩
  rw [Outcome.bind_iff, getItem_iff]
  cases old : world.owns folder entry.1 with
  | some existing =>
      have found : (world.heap folder).items.find? entry.1 = some existing := old
      rw [found]
      have name := (formed.entry folder entry.1 existing alive old).1
      have same : ∀ final, Refreshed world existing entry.2.1 final →
          WellFormed final root ∧ Grown world folder final := by
        intro final refreshed
        have tree := refreshed.sameTree (by rw [named, name])
        exact ⟨tree.wellFormed formed, tree.grown⟩
      exact (refresh_spec calls world existing entry.2.1).mono
        (fun _ final result => same final result.1) fun _ final result => same final result.1
  | none =>
      have missing : (world.heap folder).items.find? entry.1 = none := old
      rw [missing, Outcome.bind_iff]
      refine (newItem_spec calls world folder entry.2.1 entry.2.2).mono ?_ ?_
      · intro ref middle made
        rw [setEntry, setItem_iff]
        have fresh := made.isFresh
        have placed := formed.made alive
        have name : (middle.heap ref).name = entry.1 :=
          Option.some_inj.mp (made.name.symm.trans named)
        exact ⟨fresh.wellFormed placed formed name, fresh.grown placed old⟩
      · rintro _ final ⟨heap, next⟩
        have tree : SameTree world final := ⟨fun _ => by rw [heap], fun _ => by rw [heap],
          fun _ => by rw [heap], next⟩
        exact ⟨tree.wellFormed formed, tree.grown⟩

private theorem syncItems_tree (entries : List (String × ItemData × Kind))
    (named : ∀ entry ∈ entries, entry.2.1.name = some entry.1) (world : World β)
    (formed : WellFormed world root) (alive : world.Alive root folder) :
    Outcome (forM entries (syncItem calls folder)) world
      (fun _ final => WellFormed final root ∧ Grown world folder final)
      (fun _ final => WellFormed final root ∧ Grown world folder final) := by
  induction entries generalizing world with
  | nil => exact ⟨formed, .refl world folder⟩
  | cons head rest ih =>
      rw [List.forM_cons, Outcome.bind_iff]
      refine (syncItem_tree calls formed alive (named head List.mem_cons_self)).mono ?_
        fun _ _ => id
      rintro _ middle ⟨formed', grown⟩
      have alive' := formed.alive_of_others alive grown.others
      refine (ih (fun entry member => named entry (List.mem_cons_of_mem _ member)) middle formed'
        alive').mono ?_ ?_
      · rintro _ final ⟨formed'', grown'⟩
        exact ⟨formed'', grown.trans grown'⟩
      · rintro _ final ⟨formed'', grown'⟩
        exact ⟨formed'', grown.trans grown'⟩

private theorem withoutOthers_tree (newItems : NewItemMap) (formed : WellFormed middle root)
    (grown : Grown world folder middle) :
    WellFormed (withoutOthers middle folder newItems) root ∧
      Loaded world folder (withoutOthers middle folder newItems) := by
  have others : ∀ other, other ≠ folder →
      (withoutOthers middle folder newItems).owns other = middle.owns other := fun other different =>
    funext fun name => by
      simp only [World.owns, withoutOthers, World.heap_setItem_of_ne _ _ _ _ different]
  have subset : ∀ upper name owned, (withoutOthers middle folder newItems).owns upper name =
      some owned → middle.owns upper name = some owned := by
    intro upper name owned entry
    by_cases here : upper = folder
    · subst here
      rw [owns_withoutOthers, Option.filter_eq_some_iff] at entry
      exact entry.1
    · rwa [others upper here] at entry
  have fields : ∀ ref, ((withoutOthers middle folder newItems).heap ref).name =
        (middle.heap ref).name ∧
      ((withoutOthers middle folder newItems).heap ref).parent = (middle.heap ref).parent := by
    intro ref
    by_cases here : ref = folder
    · subst here
      rw [withoutOthers, World.heap_setItem_self]
      exact ⟨rfl, rfl⟩
    · rw [withoutOthers, World.heap_setItem_of_ne _ _ _ _ here]
      exact ⟨rfl, rfl⟩
  constructor
  · exact formed.fewer (Nat.le_refl _) subset fun ref _ => fields ref
  · refine ⟨grown.next, fun other different made => ?_, fun name ref ref' before after => ?_,
      fun other made => ?_⟩
    · rw [others other different, grown.others other different made]
    · exact grown.loaded.left name ref ref' before (subset folder name ref' after)
    · rw [(fields other).2, grown.parents other made]

/-- Every item of the server is listed under its own name. -/
def Named (newItems : NewItemMap) : Prop :=
  ∀ name listed, newItems.find? name = some listed → listed.1.name = some name

private theorem collect_spec (kind : Kind) (list : List ItemData) (newItems : NewItemMap)
    (named : Named newItems) (world : World β) :
    Outcome (collect kind list newItems) world
      (fun result final => world = final ∧ Named result) (fun _ final => world = final) := by
  induction list generalizing newItems with
  | nil => exact ⟨rfl, named⟩
  | cons data rest ih =>
      rw [collect, Outcome.bind_iff, field_iff]
      refine ⟨fun name found => ih _ ?_, fun _ => rfl⟩
      intro other listed present
      rw [KeyMap.find?_emplace] at present
      split at present
      · next same =>
          subst same
          cases old : newItems.find? other with
          | some earlier =>
              rw [old] at present
              cases present
              exact named other _ old
          | none =>
              rw [old] at present
              cases present
              exact found
      · exact named other listed present

theorem loadItemsFrom_tree (data : FolderData) (formed : WellFormed world root)
    (alive : world.Alive root folder) :
    Outcome (loadItemsFrom calls folder data) world
      (fun _ final => WellFormed final root ∧ Loaded world folder final)
      (fun _ final => WellFormed final root ∧ Loaded world folder final) := by
  have same : WellFormed world root ∧ Loaded world folder world :=
    ⟨formed, (Grown.refl world folder).loaded⟩
  unfold loadItemsFrom
  rw [Outcome.bind_iff, field_iff]
  refine ⟨fun files _ => ?_, fun _ => same⟩
  rw [Outcome.bind_iff]
  refine (collect_spec .file files .empty (fun _ _ found => nomatch found) world).mono ?_ ?_
  · rintro fromFiles _ ⟨rfl, named⟩
    rw [Outcome.bind_iff, field_iff]
    refine ⟨fun folders _ => ?_, fun _ => same⟩
    rw [Outcome.bind_iff]
    refine (collect_spec .folder folders fromFiles named world).mono ?_ ?_
    · rintro newItems _ ⟨rfl, named⟩
      unfold syncContents
      rw [Outcome.bind_iff]
      refine (syncItems_tree calls newItems.entries (fun entry member => ?_) world formed
        alive).mono ?_ ?_
      · exact named entry.1 entry.2 (KeyMap.find?_eq_some_iff.mpr member)
      · rintro _ middle ⟨formed', grown⟩
        rw [Outcome.modify_iff]
        exact withoutOthers_tree newItems formed' grown
      · rintro _ final ⟨formed', grown⟩
        exact ⟨formed', grown.loaded⟩
    · rintro _ _ rfl
      exact same
  · rintro _ _ rfl
    exact same

private theorem SameTree.loaded (first : SameTree world middle)
    (second : Loaded middle folder final) :
    Loaded world folder final where
  next := first.next ▸ second.next
  others := fun other different made => by
    rw [second.others other different (first.next.symm ▸ made), first.owns]
  left := fun name ref ref' before after =>
    second.left name ref ref' (by rw [first.owns]; exact before) after
  parents := fun other made => by
    rw [second.parents other (first.next.symm ▸ made), first.parent]

private theorem Loaded.sameTree (first : Loaded world folder middle)
    (second : SameTree middle final) :
    Loaded world folder final where
  next := second.next ▸ first.next
  others := fun other different made => by
    rw [second.owns, first.others other different made]
  left := fun name ref ref' before after =>
    first.left name ref ref' before (by rw [second.owns] at after; exact after)
  parents := fun other made => by
    rw [second.parent, first.parents other made]

/-- Only what is called has changed. -/
theorem sameTree_outside {outside : β} : SameTree world { world with outside } :=
  ⟨fun _ => rfl, fun _ => rfl, fun _ => rfl, rfl⟩

theorem loadItems_tree (canRefresh : Bool) (formed : WellFormed world root)
    (alive : world.Alive root folder) :
    Outcome (loadItems calls folder canRefresh) world
      (fun _ final => WellFormed final root ∧ Loaded world folder final)
      (fun _ final => WellFormed final root ∧ Loaded world folder final) := by
  have called : ∀ outside : β, WellFormed { world with outside } root ∧
      Loaded world folder { world with outside } := fun outside =>
    ⟨sameTree_outside.wellFormed formed, sameTree_outside.grown.loaded⟩
  unfold loadItems
  rw [Outcome.bind_iff, call_iff]
  refine (Outcome.ran _ _).mono (fun expired outside _ => ?_) fun _ outside _ => called outside
  rw [Outcome.bind_iff, getItem_iff, Outcome.ite_iff]
  refine ⟨fun _ => ?_, fun _ => called outside⟩
  rw [Outcome.bind_iff, call_iff]
  refine (Outcome.ran _ _).mono (fun data outside' _ => ?_) fun _ outside' _ => called outside'
  have same : SameTree world { world with outside := outside' } := sameTree_outside
  rw [Outcome.bind_iff]
  refine (loadItemsFrom_tree calls data (same.wellFormed formed) (same.alive alive)).mono ?_ ?_
  · rintro _ final ⟨formed', loaded⟩
    rw [setItem_iff]
    have tree := @sameTree_setItem β final folder (fun item => { item with haveItems := true })
      rfl rfl rfl
    exact ⟨tree.wellFormed formed', (same.loaded loaded).sameTree tree⟩
  · rintro _ final ⟨formed', loaded⟩
    exact ⟨formed', same.loaded loaded⟩

end Andromeda.Folders
