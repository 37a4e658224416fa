import Andromeda.Folders.FaultProperties
import Andromeda.Folders.Namespace

/-! Loading folders on the way to an item does not change what the paths lead to. -/

set_option autoImplicit false

namespace Andromeda.Folders

open Andromeda.Library

variable {β : Type} {world middle final : World β} {root folder ref : Ref} {rootId name : String}

/-- The files that are not created yet are among those that were there before. -/
def OldAwaited (world : World β) (root : Ref) (final : World β) : Prop :=
  ∀ folder name ref, final.Alive root folder → final.owns folder name = some ref →
    (final.heap ref).isPending = true →
      world.Alive root folder ∧ world.owns folder name = some ref ∧
        (world.heap ref).isPending = true

private theorem OldAwaited.trans (first : OldAwaited world root middle)
    (second : OldAwaited middle root final) : OldAwaited world root final := by
  intro folder name ref alive entry waiting
  obtain ⟨alive', entry', waiting'⟩ := second folder name ref alive entry waiting
  exact first folder name ref alive' entry' waiting'

private theorem oldAwaited_of_same (owns : final.owns = world.owns)
    (isPending : ∀ ref, (final.heap ref).isPending = (world.heap ref).isPending) :
    OldAwaited world root final := by
  intro folder name ref alive entry waiting
  rw [World.Alive, owns] at alive
  rw [owns] at entry
  rw [isPending] at waiting
  exact ⟨alive, entry, waiting⟩

private theorem Redated.oldAwaited (redated : Redated world final) : OldAwaited world root final :=
  oldAwaited_of_same redated.sameTree.owns fun ref => (redated.same ref).isPending

private theorem Refreshed.oldAwaited {data : ItemData}
    (refreshed : Refreshed world ref data final) :
    OldAwaited world root final := by
  refine oldAwaited_of_same ?_ fun other => ?_
  · funext other key
    by_cases here : other = ref
    · rw [here, World.owns, refreshed.same.items, World.owns]
    · rw [World.owns, refreshed.others other here, World.owns]
  · by_cases here : other = ref
    · rw [here, refreshed.same.isPending]
    · rw [refreshed.others other here]

private theorem Made.exists {data : ItemData} {kind : Kind}
    (made : Made world folder data kind ref final) :
    (final.heap ref).isPending = false := by
  rw [Item.isPending, made.kind, made.exist]
  cases kind <;> rfl

private theorem Fresh.oldAwaited (fresh : Fresh world folder ref middle)
    (made : folder < world.next)
    (exist : (middle.heap ref).isPending = false) :
    OldAwaited world root (entered middle folder name ref) := by
  intro other key owned alive entry waiting
  have apart : owned ≠ ref := by
    rintro rfl
    rw [fresh.heap_entered_self made, exist] at waiting
    cases waiting
  rw [(fresh.others_entered made apart).1] at waiting
  rw [fresh.owns_entered made] at entry
  split at entry
  · exact absurd (Option.some_inj.mp entry).symm apart
  · split at entry
    · cases entry
    · next different =>
        have before := (fresh.planted made).alive_before alive
        exact ⟨before.resolve_right different, entry, waiting⟩

variable (calls : Calls β)

private theorem syncItem_oldAwaited {entry : String × ItemData × Kind} (root : Ref)
    (made : folder < world.next) :
    Outcome (syncItem calls folder entry) world
      (fun _ final => OldAwaited world root final ∧ world.next ≤ final.next) (fun _ _ => True) := by
  unfold syncItem
  rw [Outcome.bind_iff, validateName_iff]
  refine ⟨fun _ => ?_, fun _ => trivial⟩
  rw [Outcome.bind_iff, getItem_iff]
  cases (world.heap folder).items.find? entry.1 with
  | some existing =>
      refine (refresh_spec calls world existing entry.2.1).mono ?_ fun _ _ _ => trivial
      exact fun _ final result => ⟨result.1.oldAwaited, result.1.next.ge⟩
  | none =>
      rw [Outcome.bind_iff]
      refine (newItem_spec calls world folder entry.2.1 entry.2.2).mono ?_ fun _ _ _ => trivial
      intro ref middle new
      rw [setEntry, setItem_iff]
      refine ⟨new.isFresh.oldAwaited made new.exists, ?_⟩
      rw [World.next_setItem, new.next]
      exact Nat.le_succ _

private theorem withoutOthers_oldAwaited (newItems : NewItemMap) :
    OldAwaited world root (withoutOthers world folder newItems) := by
  have fewer : ∀ other key owned, (withoutOthers world folder newItems).owns other key = some owned →
      world.owns other key = some owned := by
    intro other key owned entry
    by_cases here : other = folder
    · subst here
      rw [owns_withoutOthers] at entry
      exact (Option.filter_eq_some_iff.mp entry).1
    · rw [World.owns, withoutOthers, World.heap_setItem_of_ne _ _ _ _ here] at entry
      exact entry
  intro other key owned alive entry waiting
  refine ⟨alive.mono fewer, fewer other key owned entry, ?_⟩
  by_cases here : owned = folder
  · subst here
    rw [withoutOthers, World.heap_setItem_self] at waiting
    exact waiting
  · rw [withoutOthers, World.heap_setItem_of_ne _ _ _ _ here] at waiting
    exact waiting

private theorem oldAwaited_opened (world : World β) (folder : Ref) :
    OldAwaited world root (world.setItem folder fun item => { item with haveItems := true }) := by
  refine oldAwaited_of_same (SameTree.owns (sameTree_setItem rfl rfl rfl)) fun other => ?_
  by_cases here : other = folder
  · rw [here, World.heap_setItem_self]
    rfl
  · rw [World.heap_setItem_of_ne _ _ _ _ here]

private theorem loadItems_oldAwaited (root : Ref) (canRefresh : Bool) (made : folder < world.next) :
    Outcome (loadItems calls folder canRefresh) world
      (fun _ final => OldAwaited world root final) (fun _ _ => True) := by
  have outside : ∀ (outside : β), OldAwaited world root { world with outside } := fun _ =>
    Redated.outside.oldAwaited
  unfold loadItems
  rw [Outcome.bind_iff, call_iff]
  refine (Outcome.ran _ _).mono (fun _ asked _ => ?_) fun _ _ _ => trivial
  rw [Outcome.bind_iff, getItem_iff, Outcome.ite_iff]
  refine ⟨fun _ => ?_, fun _ => outside asked⟩
  rw [Outcome.bind_iff, call_iff]
  refine (Outcome.ran _ _).mono (fun data answered _ => ?_) fun _ _ _ => trivial
  rw [Outcome.bind_iff]
  unfold loadItemsFrom
  rw [Outcome.bind_iff, field_iff]
  refine ⟨fun files _ => ?_, fun _ => trivial⟩
  rw [Outcome.bind_iff]
  refine (collect_lists .file files .empty _).mono ?_ fun _ _ _ => trivial
  rintro newFiles _ ⟨rfl, -⟩
  rw [Outcome.bind_iff, field_iff]
  refine ⟨fun folders _ => ?_, fun _ => trivial⟩
  rw [Outcome.bind_iff]
  refine (collect_lists .folder folders newFiles _).mono ?_ fun _ _ _ => trivial
  rintro newItems _ ⟨rfl, -⟩
  unfold syncContents
  rw [Outcome.bind_iff]
  have synced : Outcome (forM newItems.entries (syncItem calls folder))
      ({ world with outside := answered } : World β)
      (fun _ middle => OldAwaited world root middle ∧ folder < middle.next) (fun _ _ => True) := by
    refine Outcome.forM_invariant ⟨outside answered, made⟩ ?_
    rintro entry _ middle ⟨old, made'⟩
    refine (syncItem_oldAwaited calls root made').mono ?_ fun _ _ => id
    exact fun _ final result => ⟨old.trans result.1, Nat.lt_of_lt_of_le made' result.2⟩
  refine synced.mono (fun _ middle result => ?_) fun _ _ => id
  rw [Outcome.modify_iff, setItem_iff]
  exact (result.1.trans (withoutOthers_oldAwaited newItems)).trans (oldAwaited_opened _ folder)

/-- Only folders were loaded: what was there still is, and nothing else is awaited. -/
structure Browsed (content : β → Entries) (world : World β) (root : Ref) (final : World β) :
    Prop where
  kept : Kept world final
  old : OldAwaited world root final
  silent : content final.outside = content world.outside

variable {calls} {content : β → Entries}

theorem Browsed.refl (content : β → Entries) (world : World β) (root : Ref) :
    Browsed content world root world :=
  ⟨.refl world, (Redated.refl world).oldAwaited, rfl⟩

theorem Browsed.trans (first : Browsed content world root middle)
    (second : Browsed content middle root final) : Browsed content world root final :=
  ⟨first.kept.trans second.kept, first.old.trans second.old, second.silent.trans first.silent⟩

private theorem Browsed.awaits_iff (browsed : Browsed content world root final)
    (formed : WellFormed world root) {id : String} :
    final.Awaits root id name ref ↔ world.Awaits root id name ref := by
  constructor
  · rintro ⟨folder, alive, exist, here, entry, waiting⟩
    obtain ⟨alive', entry', waiting'⟩ := browsed.old folder name ref alive entry waiting
    have made := formed.made alive'
    rw [browsed.kept.isPending folder made] at exist
    rw [browsed.kept.id folder made] at here
    exact ⟨folder, alive', exist, here, entry', waiting'⟩
  · rintro ⟨folder, alive, exist, here, entry, waiting⟩
    have made := formed.made alive
    have made' := (formed.entry folder name ref alive entry).2.2
    exact ⟨folder, browsed.kept.alive formed alive, (browsed.kept.isPending folder made).trans exist,
      (browsed.kept.id folder made).trans here, browsed.kept.owns folder name ref made entry,
      (browsed.kept.isPending ref made').trans waiting⟩

theorem Browsed.view (browsed : Browsed content world root final)
    (formed : WellFormed world root) :
    final.view root (content final.outside) = world.view root (content world.outside) := by
  funext node name
  cases node with
  | awaited => rfl
  | stored id =>
      exact World.view_congr (by rw [browsed.silent]) fun ref => browsed.awaits_iff formed

theorem Browsed.paths (browsed : Browsed content world root final)
    (formed : WellFormed world root) :
    final.paths root rootId (content final.outside) =
      world.paths root rootId (content world.outside) := by
  rw [World.paths, browsed.view formed, World.paths]

theorem Browsed.node (browsed : Browsed content world root final) (made : ref < world.next) :
    final.node ref = world.node ref :=
  World.node_congr (browsed.kept.isPending ref made) (browsed.kept.id ref made)

variable (directory : Directory calls rootId content) (faults : calls.Faults)

include directory faults

/-- Loading a folder shows its names, and changes none. -/
theorem loadItems_browsed (canRefresh : Bool)
    (mirrors : Mirrors world root rootId (content world.outside))
    (alive : world.Alive root folder) (exist : (world.heap folder).isPending = false) :
    Outcome (loadItems calls folder canRefresh) world
      (fun _ final => Mirrors final root rootId (content final.outside) ∧
        (final.heap folder).haveItems = true ∧ Browsed content world root final)
      (fun exception _ => exception.Fault) := by
  have made := mirrors.formed.made alive
  refine ((loadItems_mirrors directory canRefresh mirrors alive exist).and
    ((loadItems_oldAwaited calls root canRefresh made).and
      (faults.loadItems folder canRefresh world))).mono ?_ fun _ _ result => result.2.2
  rintro _ final ⟨⟨mirrors', loaded, kept, silent⟩, old, -⟩
  exact ⟨mirrors', loaded, kept, old, silent⟩

end Andromeda.Folders
