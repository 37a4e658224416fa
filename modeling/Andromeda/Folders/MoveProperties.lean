import Andromeda.Folders.OperationProperties

/-! Renaming and moving: an item takes another place in the tree, and what was in that place is
removed. -/

set_option autoImplicit false

namespace Andromeda.Folders

open Andromeda.Library

variable {β : Type} {world middle final : World β} {root folder ref source target : Ref}
  {oldName newName : String}

/-- The entries of an item were exchanged, the item itself not yet changed. -/
structure Rekeyed (world : World β) (ref source target : Ref) (oldName newName : String)
    (final : World β) : Prop where
  relinked : Owners.Relinked world.owns final.owns ref source target oldName newName
  name : ∀ other, (final.heap other).name = (world.heap other).name
  parent : ∀ other, (final.heap other).parent = (world.heap other).parent
  next : final.next = world.next

/-- What a rename and a move do to the maps, once the backend has done it. -/
def rekey (ref source target : Ref) (oldName newName : String) (replaces : Bool) : Exec β Unit := do
  if replaces then eraseEntry target newName
  eraseEntry source oldName
  setEntry target newName ref

theorem owns_setItem_items (world : World β) (changed : Ref)
    (change : KeyMap String Ref → KeyMap String Ref) (other : Ref) (name : String) :
    (world.setItem changed fun item => { item with items := change item.items }).owns other name =
      if other = changed then (change (world.heap changed).items).find? name
      else world.owns other name := by
  by_cases here : other = changed
  · subst here
    simp only [World.owns, World.heap_setItem_self, if_true]
  · simp only [World.owns, World.heap_setItem_of_ne _ _ _ _ here, here, if_false]

private theorem fields_setItem_items (world : World β) (changed : Ref)
    (change : KeyMap String Ref → KeyMap String Ref) (other : Ref) :
    ((world.setItem changed fun item => { item with items := change item.items }).heap other).name =
      (world.heap other).name ∧
    ((world.setItem changed fun item =>
      { item with items := change item.items }).heap other).parent =
        (world.heap other).parent := by
  by_cases here : other = changed
  · subst here
    rw [World.heap_setItem_self]
    exact ⟨rfl, rfl⟩
  · rw [World.heap_setItem_of_ne _ _ _ _ here]
    exact ⟨rfl, rfl⟩

theorem rekey_spec {replaces : Bool} (entry : world.owns source oldName = some ref)
    (apart : (source, oldName) ≠ (target, newName)) :
    Outcome (rekey ref source target oldName newName replaces) world
      (fun _ final => Rekeyed world ref source target oldName newName final)
      (fun _ _ => False) := by
  have finish : ∀ middle : World β, middle.next = world.next →
      (∀ other, (middle.heap other).name = (world.heap other).name ∧
        (middle.heap other).parent = (world.heap other).parent) →
      (∀ other name, (other, name) ≠ (target, newName) →
        middle.owns other name = world.owns other name) →
      Outcome (do
        eraseEntry source oldName
        setEntry target newName ref : Exec β Unit) middle
        (fun _ final => Rekeyed world ref source target oldName newName final)
        (fun _ _ => False) := by
    intro middle next fields owns
    rw [Outcome.bind_iff, eraseEntry, setItem_iff, setEntry, setItem_iff]
    have entries := fun other name => owns_setItem_items (middle.setItem source fun item =>
      { item with items := item.items.erase oldName }) target (fun items =>
        items.insert newName ref) other name
    have erased := fun other name => owns_setItem_items middle source
      (fun items => items.erase oldName) other name
    have placed := entries target newName
    rw [if_pos rfl, KeyMap.find?_insert, if_pos rfl] at placed
    have others : ∀ other name, (other, name) ≠ (target, newName) →
        ((middle.setItem source fun item =>
          { item with items := item.items.erase oldName }).setItem target fun item =>
            { item with items := item.items.insert newName ref }).owns other name =
          if other = source ∧ name = oldName then none else world.owns other name := by
      intro other name different
      have kept : ((middle.setItem source fun item =>
          { item with items := item.items.erase oldName }).setItem target fun item =>
            { item with items := item.items.insert newName ref }).owns other name =
          (middle.setItem source fun item =>
            { item with items := item.items.erase oldName }).owns other name := by
        rw [entries]
        split
        · next here =>
            subst here
            rw [KeyMap.find?_insert, if_neg fun same => different (Prod.ext rfl same)]
            rfl
        · rfl
      rw [kept, erased, ← owns other name different]
      by_cases here : other = source
      · subst here
        rw [if_pos rfl, KeyMap.find?_erase]
        simp only [true_and]
        rfl
      · rw [if_neg here, if_neg fun same => here same.1]
    constructor
    · refine ⟨entry, ?_, placed, fun other name old new => ?_⟩
      · rw [others source oldName apart, if_pos ⟨rfl, rfl⟩]
      · rw [others other name new, if_neg fun same => old (Prod.ext same.1 same.2)]
    · intro other
      rw [(fields_setItem_items _ target (fun items => items.insert newName ref) other).1,
        (fields_setItem_items middle source (fun items => items.erase oldName) other).1,
        (fields other).1]
    · intro other
      rw [(fields_setItem_items _ target (fun items => items.insert newName ref) other).2,
        (fields_setItem_items middle source (fun items => items.erase oldName) other).2,
        (fields other).2]
    · exact next
  unfold rekey
  rw [Outcome.ite_iff]
  refine ⟨fun _ => ?_, fun _ => finish world rfl (fun _ => ⟨rfl, rfl⟩) fun _ _ _ => rfl⟩
  rw [Outcome.bind_iff, eraseEntry, setItem_iff]
  refine finish _ rfl
    (fun other => fields_setItem_items world target (fun items => items.erase newName) other)
    fun other name different => ?_
  have erased := owns_setItem_items world target (fun items => items.erase newName) other name
  rw [erased]
  split
  · next here =>
      subst here
      rw [KeyMap.find?_erase, if_neg fun same => different (Prod.ext rfl same)]
      rfl
  · rfl

/-- The item then takes the name and the parent of its new place. -/
theorem Rekeyed.wellFormed (rekeyed : Rekeyed world ref source target oldName newName middle)
    (formed : WellFormed world root)
    (allowed : Owners.Allowed world.owns root ref source target newName) {change : Item → Item}
    (items : (change (middle.heap ref)).items = (middle.heap ref).items)
    (name : (change (middle.heap ref)).name = newName)
    (parent : (change (middle.heap ref)).parent = some target) :
    WellFormed (middle.setItem ref change) root ∧
      (middle.setItem ref change).owns = middle.owns := by
  have owns : (middle.setItem ref change).owns = middle.owns := by
    funext other name
    by_cases here : other = ref
    · subst here
      simp only [World.owns, World.heap_setItem_self, items]
    · simp only [World.owns, World.heap_setItem_of_ne _ _ _ _ here]
  have ref_ne_root : ref ≠ root := by
    rintro rfl
    exact allowed.sole.root_free source oldName allowed.source_alive rekeyed.relinked.entry
  refine ⟨⟨?_, ?_, ?_⟩, owns⟩
  · rw [World.next_setItem, rekeyed.next]
    exact formed.root_made
  · rw [World.heap_setItem_of_ne _ _ _ _ ref_ne_root.symm, rekeyed.parent]
    exact formed.root_parent
  · intro upper key lower above entry
    rw [World.Alive, owns] at above
    rw [owns] at entry
    rw [World.next_setItem, rekeyed.next]
    rcases rekeyed.relinked.cases entry with ⟨rfl, rfl, rfl⟩ | ⟨old, new, before⟩
    · rw [World.heap_setItem_self]
      exact ⟨name, parent, (formed.entry _ _ _ allowed.source_alive rekeyed.relinked.entry).2.2⟩
    · have alive := (rekeyed.relinked.alive_before allowed above).1
      have apart : lower ≠ ref := by
        rintro rfl
        obtain ⟨rfl, rfl⟩ := formed.sole.place _ _ _ _ _ alive allowed.source_alive before
          rekeyed.relinked.entry
        exact old rfl
      rw [World.heap_setItem_of_ne _ _ _ _ apart, rekeyed.name, rekeyed.parent]
      exact formed.entry upper key lower alive before

variable (calls : Calls β)

/-- The world once a folder was loaded, or its loading threw. -/
def loadedWorld (folder : Ref) (canRefresh : Bool) (world : World β) : World β :=
  exitWorld (loadItems calls folder canRefresh world)

private theorem loadItems_ends (canRefresh : Bool) (formed : WellFormed world root)
    (alive : world.Alive root folder) :
    Outcome (loadItems calls folder canRefresh) world
      (fun _ final => loadedWorld calls folder canRefresh world = final ∧
        WellFormed final root ∧ Loaded world folder final)
      (fun _ final => loadedWorld calls folder canRefresh world = final ∧
        WellFormed final root ∧ Loaded world folder final) := by
  refine ((Outcome.ran _ _).and (loadItems_tree calls canRefresh formed alive)).mono ?_ ?_
  · rintro _ final ⟨ran, result⟩
    exact ⟨by rw [loadedWorld, ran]; rfl, result⟩
  · rintro _ final ⟨ran, result⟩
    exact ⟨by rw [loadedWorld, ran]; rfl, result⟩

/-- What `RenameItem` leaves when it throws: the tree as it was, or as it was loaded. -/
theorem renameItem_spec (overwrite : Bool) (formed : WellFormed world root)
    (alive : world.Alive root folder) (entry : world.owns folder oldName = some ref)
    (different : oldName ≠ newName) :
    Outcome (renameItem calls folder oldName newName overwrite) world
      (fun _ final => ∃ middle, SameTree (loadedWorld calls folder true world) middle ∧
        WellFormed middle root ∧ middle.Alive root folder ∧
        Rekeyed middle ref folder folder oldName newName final)
      (fun _ final => WellFormed final root ∧
        (SameTree world final ∨ SameTree (loadedWorld calls folder true world) final)) := by
  unfold renameItem
  rw [Outcome.bind_iff, checkReadOnlyFS_iff]
  refine ⟨fun _ => ⟨formed, Or.inl (.refl world)⟩, fun _ => ?_⟩
  rw [Outcome.bind_iff]
  refine (loadItems_ends calls true formed alive).mono ?_ ?_
  · rintro _ loaded ⟨same, formed', frame⟩
    rw [same]
    have alive' := formed.alive_of_others alive frame.others
    have threw : ∀ final, SameTree loaded final → WellFormed final root ∧
        (SameTree world final ∨ SameTree loaded final) :=
      fun final tree => ⟨tree.wellFormed formed', Or.inr tree⟩
    rw [Outcome.bind_iff, findItem_iff]
    refine ⟨fun found present => ?_, fun _ => threw loaded (.refl loaded)⟩
    have here : found = ref := frame.left oldName ref found entry present
    subst here
    rw [if_pos different, Outcome.bind_iff, getItem_iff, Outcome.ite_iff]
    refine ⟨fun _ => threw loaded (.refl loaded), fun _ => ?_⟩
    rw [Outcome.bind_iff]
    refine (subRename_sameTree calls found newName overwrite loaded).mono ?_ fun _ => threw
    intro _ middle tree
    have apart : (folder, oldName) ≠ (folder, newName) := fun equal =>
      different (Prod.mk.inj equal).2
    refine (rekey_spec (by rw [tree.owns]; exact present) apart).mono ?_ fun _ _ => False.elim
    exact fun _ final rekeyed =>
      ⟨middle, tree, tree.wellFormed formed', tree.alive alive', rekeyed⟩
  · rintro _ final ⟨rfl, formed', -⟩
    exact ⟨formed', Or.inr (.refl _)⟩

variable {calls}

/-- `MoveItem`, while its two folders and the item stay in the tree. -/
theorem moveItem_spec (echoes : Echoes calls) (overwrite : Bool) (formed : WellFormed world root)
    (alive : world.Alive root source) (entry : world.owns source oldName = some ref)
    (alive' : (loadedWorld calls source false world).Alive root target)
    (different : source ≠ target) :
    Outcome (moveItem calls source oldName target overwrite) world
      (fun _ final => ∃ middle,
        SameTree (loadedWorld calls target false (loadedWorld calls source false world)) middle ∧
        WellFormed middle root ∧ (middle.heap ref).parent = (world.heap ref).parent ∧
        Rekeyed middle ref source target oldName oldName final)
      (fun _ final => WellFormed final root ∧ (SameTree world final ∨
        SameTree (loadedWorld calls source false world) final ∨
        SameTree (loadedWorld calls target false (loadedWorld calls source false world))
          final)) := by
  unfold moveItem
  rw [Outcome.bind_iff, checkReadOnlyFS_iff]
  refine ⟨fun _ => ⟨formed, Or.inl (.refl world)⟩, fun _ => ?_⟩
  rw [Outcome.bind_iff]
  refine (loadItems_ends calls false formed alive).mono ?_ ?_
  · rintro _ first ⟨same, formed', frame⟩
    rw [same] at alive' ⊢
    rw [Outcome.bind_iff, findItem_iff]
    refine ⟨fun found present => ?_, fun _ => ⟨formed', Or.inr (Or.inl (.refl first))⟩⟩
    have here : found = ref := frame.left oldName ref found entry present
    subst here
    rw [Outcome.bind_iff]
    refine (loadItems_ends calls false formed' alive').mono ?_ ?_
    · rintro _ second ⟨same', formed'', frame'⟩
      rw [same']
      have threw : ∀ final, SameTree second final → WellFormed final root ∧
          (SameTree world final ∨ SameTree first final ∨ SameTree second final) :=
        fun final tree => ⟨tree.wellFormed formed'', Or.inr (Or.inr tree)⟩
      have present' : second.owns source oldName = some found := by
        have made := Nat.lt_of_lt_of_le (formed.made alive) frame.next
        rw [frame'.others source different made]
        exact present
      rw [Outcome.bind_iff, checkReadOnlyFS_iff]
      refine ⟨fun _ => threw second (.refl second), fun _ => ?_⟩
      rw [Outcome.bind_iff, getItem_iff, Outcome.ite_iff]
      refine ⟨fun _ => threw second (.refl second), fun _ => ?_⟩
      rw [Outcome.bind_iff, getItem_iff, Outcome.ite_iff]
      refine ⟨fun _ => threw second (.refl second), fun _ => ?_⟩
      rw [Outcome.bind_iff, getItem_iff, Outcome.bind_iff]
      refine (subMove_sameTree echoes found _ overwrite second).mono ?_ fun _ => threw
      intro _ middle tree
      have apart : (source, oldName) ≠ (target, oldName) := fun equal =>
        different (Prod.mk.inj equal).1
      refine (rekey_spec (by rw [tree.owns]; exact present') apart).mono ?_ fun _ _ => False.elim
      intro _ final rekeyed
      have old := (formed.entry source oldName found alive entry).2.2
      have parent : (middle.heap found).parent = (world.heap found).parent := by
        rw [tree.parent, frame'.parents found (Nat.lt_of_lt_of_le old frame.next),
          frame.parents found old]
      exact ⟨middle, tree, tree.wellFormed formed'', parent, rekeyed⟩
    · rintro _ final ⟨rfl, formed'', -⟩
      exact ⟨formed'', Or.inr (Or.inr (.refl _))⟩
  · rintro _ final ⟨rfl, formed', -⟩
    exact ⟨formed', Or.inr (Or.inl (.refl _))⟩

end Andromeda.Folders
