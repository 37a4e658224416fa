import Andromeda.Folders.ItemProperties
import Andromeda.Folders.Operations

/-! The shape of the tree: every item that is alive has its place under its own name in the map
of its parent, and loading a folder keeps it so. -/

set_option autoImplicit false

namespace Andromeda.Folders

open Andromeda.Library

variable {β : Type} {world middle final : World β} {root folder ref : Ref}

/-- The items that were not deleted: the root and what it owns. -/
def World.Alive (world : World β) (root ref : Ref) : Prop := world.owns.Under root ref

/-- Every item of a folder that is alive has its key as its name and the folder as its
parent. -/
structure WellFormed (world : World β) (root : Ref) : Prop where
  root_made : root < world.next
  root_parent : (world.heap root).parent = none
  entry : ∀ folder name ref, world.Alive root folder → world.owns folder name = some ref →
    (world.heap ref).name = name ∧ (world.heap ref).parent = some folder ∧ ref < world.next

theorem WellFormed.sole (formed : WellFormed world root) : world.owns.Sole root where
  place := by
    intro first second firstName secondName ref above above' entry entry'
    have here := formed.entry first firstName ref above entry
    have there := formed.entry second secondName ref above' entry'
    exact ⟨Option.some_inj.mp (here.2.1.symm.trans there.2.1), here.1.symm.trans there.1⟩
  root_free := by
    intro owner name above entry
    have parent := (formed.entry owner name root above entry).2.1
    rw [formed.root_parent] at parent
    cases parent

theorem WellFormed.made (formed : WellFormed world root) (alive : world.Alive root ref) :
    ref < world.next := by
  rcases alive.has_owner with rfl | ⟨owner, name, above, entry⟩
  · exact formed.root_made
  · exact (formed.entry owner name ref above entry).2.2

/-- An item with a parent is in its map, under its name. -/
theorem WellFormed.placed (formed : WellFormed world root) (alive : world.Alive root ref)
    {parent : Ref} (parented : (world.heap ref).parent = some parent) :
    world.Alive root parent ∧ world.owns parent (world.heap ref).name = some ref := by
  rcases alive.has_owner with rfl | ⟨owner, name, above, entry⟩
  · rw [formed.root_parent] at parented
    cases parented
  · obtain ⟨named, there, -⟩ := formed.entry owner name ref above entry
    rw [there, Option.some_inj] at parented
    rw [named, ← parented]
    exact ⟨above, entry⟩

/-- Fewer entries, with the same names and parents. -/
theorem WellFormed.fewer (formed : WellFormed world root) (next : world.next ≤ final.next)
    (fewer : ∀ folder name ref, final.owns folder name = some ref →
      world.owns folder name = some ref)
    (same : ∀ ref, world.Alive root ref → (final.heap ref).name = (world.heap ref).name ∧
      (final.heap ref).parent = (world.heap ref).parent) : WellFormed final root where
  root_made := Nat.lt_of_lt_of_le formed.root_made next
  root_parent := (same root .refl).2.trans formed.root_parent
  entry := by
    intro folder name ref above entry
    have alive : world.Alive root folder := above.mono fewer
    have before := fewer folder name ref entry
    obtain ⟨named, parented, made⟩ := formed.entry folder name ref alive before
    obtain ⟨name', parent'⟩ := same ref (alive.child before)
    exact ⟨name'.trans named, parent'.trans parented, Nat.lt_of_lt_of_le made next⟩

/-- A new item in the place of its name and parent. -/
theorem WellFormed.plant (formed : WellFormed world root)
    (planted : Owners.Planted world.owns final.owns folder (final.heap ref).name ref)
    (next : world.next ≤ final.next) (fresh : ref < final.next) (other : ref ≠ root)
    (parent : (final.heap ref).parent = some folder)
    (same : ∀ other, other ≠ ref → (final.heap other).name = (world.heap other).name ∧
      (final.heap other).parent = (world.heap other).parent)
    (unused : ∀ folder name, world.Alive root folder → world.owns folder name ≠ some ref) :
    WellFormed final root where
  root_made := Nat.lt_of_lt_of_le formed.root_made next
  root_parent := (same root other.symm).2.trans formed.root_parent
  entry := by
    intro upper name lower above entry
    by_cases here : (upper, name) = (folder, (final.heap ref).name)
    · obtain ⟨rfl, rfl⟩ := Prod.mk.inj here
      rw [planted.placed, Option.some_inj] at entry
      subst entry
      exact ⟨rfl, parent, fresh⟩
    · have before := planted.others upper name lower here entry
      rcases planted.alive_before above with alive | rfl
      · obtain ⟨named, parented, made⟩ := formed.entry upper name lower alive before
        obtain ⟨name', parent'⟩ := same lower fun equal => unused upper name alive (equal ▸ before)
        exact ⟨name'.trans named, parent'.trans parented, Nat.lt_of_lt_of_le made next⟩
      · rw [planted.empty] at entry
        cases entry

/-- What changed neither entries nor names nor parents. -/
structure SameTree (world final : World β) : Prop where
  items : ∀ ref, (final.heap ref).items = (world.heap ref).items
  name : ∀ ref, (final.heap ref).name = (world.heap ref).name
  parent : ∀ ref, (final.heap ref).parent = (world.heap ref).parent
  next : final.next = world.next

theorem SameTree.refl (world : World β) : SameTree world world :=
  ⟨fun _ => rfl, fun _ => rfl, fun _ => rfl, rfl⟩

theorem SameTree.trans (first : SameTree world middle) (second : SameTree middle final) :
    SameTree world final :=
  ⟨fun ref => (second.items ref).trans (first.items ref),
    fun ref => (second.name ref).trans (first.name ref),
    fun ref => (second.parent ref).trans (first.parent ref), second.next.trans first.next⟩

theorem SameTree.owns (same : SameTree world final) : final.owns = world.owns := by
  funext folder name
  simp only [World.owns, same.items]

theorem SameTree.wellFormed (same : SameTree world final) (formed : WellFormed world root) :
    WellFormed final root :=
  formed.fewer same.next.ge (fun _ _ _ entry => same.owns ▸ entry)
    fun ref _ => ⟨same.name ref, same.parent ref⟩

theorem SameTree.alive (same : SameTree world final) (alive : world.Alive root ref) :
    final.Alive root ref := by
  rw [World.Alive, same.owns]
  exact alive

/-- A refresh under the name that an item has. -/
theorem Refreshed.sameTree {data : ItemData} (refreshed : Refreshed world ref data final)
    (named : data.name = some (world.heap ref).name) : SameTree world final := by
  have name : (final.heap ref).name = (world.heap ref).name := by
    rcases refreshed.name with kept | new
    · exact kept
    · exact Option.some_inj.mp (new.symm.trans named)
  refine ⟨fun other => ?_, fun other => ?_, fun other => ?_, refreshed.next⟩
  · by_cases here : other = ref
    · rw [here, refreshed.same.items]
    · rw [refreshed.others other here]
  · by_cases here : other = ref
    · rw [here, name]
    · rw [refreshed.others other here]
  · by_cases here : other = ref
    · rw [here, refreshed.same.parent]
    · rw [refreshed.others other here]

/-- A change of fields that the tree does not depend on. -/
theorem sameTree_setItem {change : Item → Item}
    (items : (change (world.heap ref)).items = (world.heap ref).items)
    (name : (change (world.heap ref)).name = (world.heap ref).name)
    (parent : (change (world.heap ref)).parent = (world.heap ref).parent) :
    SameTree world (world.setItem ref change) := by
  refine ⟨fun other => ?_, fun other => ?_, fun other => ?_, rfl⟩
  · by_cases here : other = ref
    · rw [here, World.heap_setItem_self, items]
    · rw [World.heap_setItem_of_ne _ _ _ _ here]
  · by_cases here : other = ref
    · rw [here, World.heap_setItem_self, name]
    · rw [World.heap_setItem_of_ne _ _ _ _ here]
  · by_cases here : other = ref
    · rw [here, World.heap_setItem_self, parent]
    · rw [World.heap_setItem_of_ne _ _ _ _ here]

end Andromeda.Folders
