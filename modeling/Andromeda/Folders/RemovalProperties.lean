import Andromeda.Folders.PathLookupProperties

/-! The deletion of an item removes its name from the mounted tree, with those below it. -/

set_option autoImplicit false

namespace Andromeda.Folders

open Andromeda.Library

variable {β : Type} {world middle final : World β} {root folder ref : Ref} {rootId name : String}
  {entries entries' : Entries} {path : List String}

/-- The world without an entry of a folder. -/
def World.without (world : World β) (folder : Ref) (name : String) : World β :=
  world.setItem folder fun item => { item with items := item.items.erase name }

private theorem World.heap_without (world : World β) (folder : Ref) (name : String) (other : Ref) :
    ∃ items, (world.without folder name).heap other = { world.heap other with items } := by
  by_cases here : other = folder
  · exact ⟨(world.heap folder).items.erase name, by rw [here, without, World.heap_setItem_self]⟩
  · exact ⟨(world.heap other).items, World.heap_setItem_of_ne _ _ _ _ here⟩

private theorem World.owns_without (other : Ref) (key : String) :
    (world.without folder name).owns other key =
      if other = folder ∧ key = name then none else world.owns other key := by
  have changed := owns_setItem_items world folder (fun items => items.erase name) other key
  rw [without, changed]
  by_cases here : other = folder
  · subst here
    simp only [if_true, KeyMap.find?_erase, true_and]
    rfl
  · rw [if_neg here, if_neg fun both => here both.1]

private theorem World.removed_without (entry : world.owns folder name = some ref) :
    Owners.Removed world.owns (world.without folder name).owns ref folder name :=
  ⟨entry, by rw [owns_without, if_pos ⟨rfl, rfl⟩], fun other key different => by
    rw [owns_without, if_neg fun both => different (Prod.ext both.1 both.2)]⟩

private theorem MirrorsAt.pathRemoved (sole : (world.view root entries).Sole (.stored rootId))
    (mirrors : Mirrors world root rootId entries)
    (mirrors' : Mirrors (world.without folder name) root rootId entries')
    (alive : world.Alive root folder) (entry : world.owns folder name = some ref)
    (gone : ∀ id key, ¬ (world.view root entries).Under (world.node ref) (.stored id) →
      entries' id key = if id = (world.heap folder).id ∧ key = name then none else entries id key)
    (leads : world.paths root rootId entries path = some (world.node folder)) :
    PathRemoved (world.paths root rootId entries)
      ((world.without folder name).paths root rootId entries') (path ++ [name]) := by
  have exist := mirrors.owner_exists alive entry
  have loaded := mirrors.visible_of_entry alive entry
  have removed := World.removed_without entry
  have fields : ∀ other, ((world.without folder name).heap other).isPending =
      (world.heap other).isPending ∧ ((world.without folder name).heap other).id =
        (world.heap other).id ∧ ((world.without folder name).heap other).haveItems =
          (world.heap other).haveItems := by
    intro other
    obtain ⟨items, changed⟩ := world.heap_without folder name other
    rw [changed]
    exact ⟨rfl, rfl, rfl⟩
  have alive' := removed.alive_after alive (mirrors.formed.sole.acyclic alive entry)
  have same : (world.without folder name).node folder = world.node folder :=
    World.node_congr (fields folder).1 (fields folder).2.1
  refine Owners.pathRemoved sole leads (mirrors.view_entry alive entry) ?_ ?_
  · rw [← same, mirrors'.view_loaded alive' ((fields folder).2.2.trans loaded), removed.left,
      Option.map_none]
  · intro other key _ outside different
    cases other with
    | awaited => rfl
    | stored id =>
        rw [World.node_of_exists exist] at different
        have elsewhere : ¬ (id = (world.heap folder).id ∧ key = name) := by
          rintro ⟨rfl, rfl⟩
          exact different rfl
        refine World.view_congr ?_ fun other => World.awaits_congr (fun other => (fields other).1)
          (fun other => (fields other).2.1) fun owner exist' here => ?_
        · rw [gone id key outside, if_neg elsewhere]
        · have apart : (owner, key) ≠ (folder, name) := by
            intro equal
            obtain ⟨rfl, rfl⟩ := Prod.mk.inj equal
            exact elsewhere ⟨here.symm, rfl⟩
          rw [removed.others owner key apart]
          refine and_congr_left fun _ => ⟨fun above =>
            (removed.alive_before mirrors.formed.sole alive above).1, fun above =>
              removed.alive_after above fun below => outside ?_⟩
          have under := mirrors.view_under (alive.child entry) below
          rwa [World.node_of_exists exist', here] at under

variable {calls : Calls β} {content : β → Entries} (directory : Directory calls rootId content)
  (faults : calls.Faults)

include directory faults

private theorem subDelete_gone (mirrors : Mirrors world root rootId (content world.outside))
    (alive : world.Alive root folder) (entry : world.owns folder name = some ref) :
    Outcome (subDelete calls ref) world
      (fun _ final => ∀ id key,
        ¬ (world.view root (content world.outside)).Under (world.node ref) (.stored id) →
          content final.outside id key = if id = (world.heap folder).id ∧ key = name then none
            else content world.outside id key)
      (fun exception final => exception.Fault ∨ final = world) := by
  have loaded := mirrors.visible_of_entry alive entry
  -- what the backend had is found by its ID
  have deleted : ∀ outside, (world.heap ref).isPending = false →
      Deleted (content world.outside) (world.heap ref).id (content outside) →
      ∀ id key, ¬ (world.view root (content world.outside)).Under (world.node ref) (.stored id) →
        content outside id key = if id = (world.heap folder).id ∧ key = name then none
          else content world.outside id key := by
    intro outside exist deleted id key apart
    rw [World.node_of_exists exist] at apart
    have stored := mirrors.stored alive entry exist
    rw [deleted.entry id fun below => apart (view_under_of_entries below)]
    refine if_congr ⟨fun there => directory.single _ _ _ _ _ _ there stored, ?_⟩ rfl rfl
    rintro ⟨rfl, rfl⟩
    exact stored
  unfold subDelete
  rw [Outcome.bind_iff, checkReadOnlyFS_iff]
  refine ⟨fun _ => Or.inr rfl, fun _ => ?_⟩
  rw [Outcome.bind_iff, getItem_iff]
  cases kind : (world.heap ref).kind with
  | file =>
      rw [Outcome.ite_iff]
      refine ⟨fun present => ?_, fun missing => ?_⟩
      · have exist : (world.heap ref).isPending = false := by
          rw [Item.isPending, present, Bool.not_true, Bool.and_false]
        rw [call_iff]
        refine ((Outcome.ran _ _).and (faults.deleteFile _ _)).mono ?_ fun _ _ threw =>
          Or.inl threw.2
        exact fun _ outside returned =>
          deleted outside exist (directory.deleteFile _ _ _ returned.1)
      · -- nothing is called for a file that is not created yet
        intro id key _
        split
        · next here =>
            obtain ⟨rfl, rfl⟩ := here
            have waiting : (world.heap ref).isPending = true := by
              rw [Item.isPending, kind, Bool.eq_false_of_not_eq_true missing]
              rfl
            rw [mirrors.mirror folder key alive loaded, entry, Option.bind_some, World.storedId,
              if_pos waiting]
        · rfl
  | folder =>
      rw [call_iff]
      refine ((Outcome.ran _ _).and (faults.deleteFolder _ _)).mono ?_ fun _ _ threw =>
        Or.inl threw.2
      exact fun _ outside returned =>
        deleted outside (isPending_of_folder kind) (directory.deleteFolder _ _ _ returned.1)

/-- A deletion removes the name of its item, or throws and changes no name. -/
theorem delete_removesName (mirrors : Mirrors world root rootId (content world.outside))
    (alive : world.Alive root ref)
    (leads : world.paths root rootId (content world.outside) path = some (world.node ref)) :
    Outcome (delete calls ref) world
      (fun _ final => Mirrors final root rootId (content final.outside) ∧
        PathRemoved (world.paths root rootId (content world.outside))
          (final.paths root rootId (content final.outside)) path)
      (fun exception final => exception.Fault ∨
        Mirrors final root rootId (content final.outside) ∧ Browsed content world root final) := by
  have sole := mirrors.view_sole directory
  unfold delete
  rw [Outcome.bind_iff, getParent_iff]
  refine ⟨fun parent parented => ?_, fun _ => Or.inr ⟨mirrors, .refl content world root⟩⟩
  obtain ⟨above, entry⟩ := mirrors.formed.placed alive parented
  obtain ⟨upper, rfl, leads'⟩ := mirrors.parent_path sole above entry leads
  have placed := mirrors.formed.made above
  rw [Outcome.bind_iff, getItem_iff]
  unfold deleteItem
  rw [Outcome.bind_iff, checkReadOnlyFS_iff]
  refine ⟨fun _ => Or.inr ⟨mirrors, .refl content world root⟩, fun _ => ?_⟩
  rw [Outcome.bind_iff]
  refine (loadItems_browsed directory faults true mirrors above
    (mirrors.owner_exists above entry)).mono ?_ fun _ _ => Or.inl
  rintro _ loaded ⟨mirrors', -, browsed⟩
  have present' := browsed.kept.owns parent _ ref placed entry
  rw [Outcome.bind_iff, findItem_iff]
  refine ⟨fun found present => ?_, fun _ => Or.inr ⟨mirrors', browsed⟩⟩
  obtain rfl : found = ref := Option.some_inj.mp (present.symm.trans present')
  have alive' := browsed.kept.alive mirrors.formed above
  rw [Outcome.bind_iff]
  refine ((subDelete_mirrors directory mirrors' alive' present).and
    (subDelete_gone directory faults mirrors' alive' present)).mono ?_ ?_
  · rintro _ final ⟨⟨⟨outside, rfl⟩, same⟩, gone⟩
    rw [eraseEntry, setItem_iff]
    have redated : Redated loaded { loaded with outside } := .outside
    have mirrors'' : Mirrors (({ loaded with outside } : World β).without parent
        (world.heap found).name) root rootId (content outside) :=
      @MirrorsAt.erased β { loaded with outside } root parent found rootId _ _ _
        (redated.mirrors mirrors') (redated.sameTree.alive alive') present same
    refine ⟨mirrors'', ?_⟩
    rw [← browsed.paths mirrors.formed] at leads' ⊢
    rw [← browsed.node placed] at leads'
    exact @MirrorsAt.pathRemoved β { loaded with outside } root parent found rootId _ _ _ upper
      (mirrors'.view_sole directory) (redated.mirrors mirrors') mirrors'' alive' present gone leads'
  · rintro exception final ⟨-, fault | rfl⟩
    · exact Or.inl fault
    · exact Or.inr ⟨mirrors', browsed⟩

end Andromeda.Folders
