import Andromeda.Folders.PathLookupProperties

/-! The creation of a file or a folder adds one name to the mounted tree. -/

set_option autoImplicit false

namespace Andromeda.Folders

open Andromeda.Library

variable {β : Type} {world middle final : World β} {root folder ref : Ref} {rootId name : String}
  {entries entries' : Entries} {path : List String}

section

variable (fresh : Fresh world folder ref middle) (made : folder < world.next)

include fresh made

private theorem Fresh.awaits_iff (mirrors : Mirrors world root rootId entries)
    (alive : world.Alive root folder) (exist : (world.heap folder).isPending = false)
    (free : world.owns folder name = none) {id key : String} {other : Ref}
    (elsewhere : ¬ (id = (world.heap folder).id ∧ key = name)) :
    (entered middle folder name ref).Awaits root id key other ↔ world.Awaits root id key other := by
  have old : ∀ {other}, world.Alive root other → other ≠ ref := by
    intro other above
    rw [fresh.fresh]
    exact Nat.ne_of_lt (mirrors.formed.made above)
  have fields := fun {other} (above : world.Alive root other) =>
    @Fresh.others_entered β world middle folder ref name fresh made other (old above)
  constructor
  · rintro ⟨owner, above, exist', same, entry, waiting⟩
    rw [fresh.owns_entered made] at entry
    split at entry
    · next here =>
        obtain ⟨rfl, rfl⟩ := here
        rw [(fields alive).2.1] at same
        exact absurd ⟨same.symm, rfl⟩ elsewhere
    · split at entry
      · cases entry
      · next different =>
          have above' := ((fresh.planted made).alive_before above).resolve_right different
          rw [(fields (above'.child entry)).1] at waiting
          rw [(fields above').1] at exist'
          rw [(fields above').2.1] at same
          exact ⟨owner, above', exist', same, entry, waiting⟩
  · rintro ⟨owner, above, exist', same, entry, waiting⟩
    have kept := @Fresh.kept β world middle folder ref name fresh made free
    refine ⟨owner, kept.alive mirrors.formed above, ?_, ?_, ?_, ?_⟩
    · rw [(fields above).1, exist']
    · rw [(fields above).2.1, same]
    · exact kept.owns owner key other (mirrors.formed.made above) entry
    · rw [(fields (above.child entry)).1, waiting]

private theorem Fresh.pathAdded (sole : (world.view root entries).Sole (.stored rootId))
    (mirrors : Mirrors world root rootId entries)
    (mirrors' : Mirrors (entered middle folder name ref) root rootId entries')
    (alive : world.Alive root folder) (loaded : (world.heap folder).haveItems = true)
    (free : world.owns folder name = none) (unloaded : (middle.heap ref).haveItems = false)
    (others : ∀ folderId key, (folderId, key) ≠ ((world.heap folder).id, name) →
      entries' folderId key = entries folderId key)
    (bare : (middle.heap ref).isPending = false → ∀ key, entries' (middle.heap ref).id key = none)
    (leads : world.paths root rootId entries path = some (world.node folder)) :
    ∃ node, PathAdded (world.paths root rootId entries)
      ((entered middle folder name ref).paths root rootId entries') (path ++ [name]) node := by
  have exist := mirrors.owner folder name alive loaded
  have self : (entered middle folder name ref).heap ref = middle.heap ref :=
    fresh.heap_entered_self made
  have owned : (entered middle folder name ref).owns folder name = some ref := by
    rw [fresh.owns_entered made, if_pos ⟨rfl, rfl⟩]
  have alive' : (entered middle folder name ref).Alive root folder :=
    (fresh.kept made free).alive mirrors.formed alive
  have fields := @Fresh.others_entered β world middle folder ref name fresh made folder
    (fresh.apart made)
  have same : (entered middle folder name ref).node folder = world.node folder :=
    World.node_congr fields.1 fields.2.1
  refine ⟨(entered middle folder name ref).node ref, Owners.pathAdded sole leads ?_ ?_ ?_ ?_⟩
  · rw [mirrors.view_loaded alive loaded, free, Option.map_none]
  · rw [← same]
    exact mirrors'.view_entry alive' owned
  · intro key
    cases waiting : (middle.heap ref).isPending with
    | true => rw [World.node_of_pending (self ▸ waiting), World.view_awaited]
    | false =>
        rw [mirrors'.view_unloaded (alive'.child owned) (self ▸ waiting)
          (by rw [self, unloaded]; exact Bool.false_ne_true), self, bare waiting, Option.map_none]
  · intro other key _ different
    cases other with
    | awaited => rfl
    | stored id =>
        rw [World.node_of_exists exist] at different
        have elsewhere : ¬ (id = (world.heap folder).id ∧ key = name) := by
          rintro ⟨rfl, rfl⟩
          exact different rfl
        exact World.view_congr (others id key fun equal => elsewhere (Prod.mk.inj equal))
          fun _ => fresh.awaits_iff made mirrors alive exist free elsewhere

end

variable {calls : Calls β} {content : β → Entries} (directory : Directory calls rootId content)
  (faults : calls.Faults)

/-- What a creation in a folder leaves, where some paths lead to it. -/
def AddsName (content : β → Entries) (rootId : String) (world : World β) (root folder : Ref)
    (name : String) (final : World β) : Prop :=
  Mirrors final root rootId (content final.outside) ∧
    ∀ path, world.paths root rootId (content world.outside) path = some (world.node folder) →
      ∃ node, PathAdded (world.paths root rootId (content world.outside))
        (final.paths root rootId (content final.outside)) (path ++ [name]) node

include directory in
private theorem Created.addsName {kind : Kind} {data : ItemData} {outside : β}
    (created : Created rootId (content world.outside) (world.heap folder).id name data
      (content outside))
    (made : Made { world with outside } folder data kind ref middle)
    (silent : content middle.outside = content outside)
    (mirrors : Mirrors world root rootId (content world.outside))
    (alive : world.Alive root folder) (loaded : (world.heap folder).haveItems = true)
    (free : world.owns folder name = none) :
    AddsName content rootId world root folder name (entered middle folder name ref) := by
  have redated : Redated world { world with outside } := .outside
  have told : content (entered middle folder name ref).outside = content outside := silent
  have mirrors' : Mirrors (entered middle folder name ref) root rootId (content outside) :=
    @Created.mirrors β { world with outside } middle root folder ref rootId name kind data _ _
      created made (redated.mirrors mirrors) (redated.sameTree.alive alive) loaded free
  have fresh : Fresh world folder ref middle :=
    ⟨made.fresh, made.next, made.others, made.parent, made.items⟩
  unfold AddsName
  rw [told]
  refine ⟨mirrors', fun path leads => ?_⟩
  refine fresh.pathAdded (mirrors.formed.made alive) (mirrors.view_sole directory) mirrors mirrors'
    alive loaded free made.haveItems (fun folderId key different => ?_) (fun _ key => ?_) leads
  · rw [created.entry, if_neg fun same => different (Prod.ext same.1 same.2)]
  · obtain ⟨-, empty, -⟩ := created.fresh _ made.id
    have apart := created.distinct made.id mirrors alive (mirrors.owner folder name alive loaded)
    rw [created.entry, if_neg fun same => apart same.1.symm, empty]

include directory faults

theorem subCreateFile_addsName (mirrors : Mirrors world root rootId (content world.outside))
    (alive : world.Alive root folder) (loaded : (world.heap folder).haveItems = true)
    (free : world.owns folder name = none) :
    Outcome (subCreateFile calls folder name) world
      (fun _ final => AddsName content rootId world root folder name final)
      (fun exception final => exception.Fault ∨ final = world) := by
  have placed := mirrors.formed.made alive
  unfold subCreateFile
  rw [Outcome.bind_iff, checkReadOnlyFS_iff]
  refine ⟨fun _ => Or.inr rfl, fun _ => ?_⟩
  rw [Outcome.bind_iff]
  unfold makeFile
  rw [Outcome.bind_iff, getItem_iff, Outcome.ite_iff]
  refine ⟨fun _ => ?_, fun _ => ?_⟩
  · rw [Outcome.bind_iff, call_iff]
    refine ((Outcome.ran _ _).and (faults.createFile _ _ _)).mono ?_ fun _ _ threw => Or.inl threw.2
    rintro data outside ⟨returned, -⟩
    have created := directory.createFile _ _ _ _ _ returned
    refine ((newFile_spec calls { world with outside } folder data).and
      ((newItem_content directory data .file { world with outside }).and
        (faults.newItem folder data .file _))).mono ?_ fun _ _ threw => Or.inl threw.2.2
    rintro ref middle ⟨made, silent, -⟩
    rw [Outcome.bind_iff, getItem_iff, setEntry, setItem_iff]
    have named : (middle.heap ref).name = name :=
      Option.some_inj.mp (made.name.symm.trans created.named)
    rw [named]
    exact created.addsName directory made silent mirrors alive loaded free
  · refine (newPendingFile_spec calls name _ world).mono ?_ fun _ _ => False.elim
    intro ref middle awaited
    rw [Outcome.bind_iff, getItem_iff, setEntry, setItem_iff, awaited.name]
    have told : content (entered middle folder name ref).outside = content world.outside := by
      rw [entered, World.outside_setItem, awaited.outside, directory.openFile]
    have mirrors' : Mirrors (entered middle folder name ref) root rootId
        (content world.outside) := by
      refine @Fresh.mirrors β world middle root folder ref rootId name awaited.fresh placed _ _
        mirrors awaited.name awaited.haveItems alive loaded free ?_ (fun _ _ _ => rfl)
        (fun exist => ?_) fun _ => ⟨awaited.id, awaited.parent⟩
      · rw [mirrors.mirror folder name alive loaded, free, Option.bind_none, World.storedId,
          if_pos awaited.isPending]
      · rw [awaited.isPending] at exist
        cases exist
    change AddsName content rootId world root folder name (entered middle folder name ref)
    unfold AddsName
    rw [told]
    refine ⟨mirrors', fun path leads => ?_⟩
    refine awaited.fresh.pathAdded placed (mirrors.view_sole directory) mirrors mirrors' alive loaded
      free awaited.haveItems (fun _ _ _ => rfl) (fun exist => ?_) leads
    rw [awaited.isPending] at exist
    cases exist

theorem subCreateFolder_addsName (mirrors : Mirrors world root rootId (content world.outside))
    (alive : world.Alive root folder) (loaded : (world.heap folder).haveItems = true)
    (free : world.owns folder name = none) :
    Outcome (subCreateFolder calls folder name) world
      (fun _ final => AddsName content rootId world root folder name final)
      (fun exception final => exception.Fault ∨ final = world) := by
  unfold subCreateFolder
  rw [Outcome.bind_iff, checkReadOnlyFS_iff]
  refine ⟨fun _ => Or.inr rfl, fun _ => ?_⟩
  rw [Outcome.bind_iff, getItem_iff, Outcome.bind_iff, call_iff]
  refine ((Outcome.ran _ _).and (faults.createFolder _ _ _)).mono ?_ fun _ _ threw => Or.inl threw.2
  rintro data outside ⟨returned, -⟩
  have created := directory.createFolder _ _ _ _ _ returned
  rw [Outcome.bind_iff]
  refine ((newFolder_spec calls { world with outside } folder data).and
    ((newItem_content directory data .folder { world with outside }).and
      (faults.newItem folder data .folder _))).mono ?_ fun _ _ threw => Or.inl threw.2.2
  rintro ref middle ⟨made, silent, -⟩
  rw [Outcome.bind_iff, getItem_iff, setEntry, setItem_iff]
  have named : (middle.heap ref).name = name :=
    Option.some_inj.mp (made.name.symm.trans created.named)
  rw [named]
  exact created.addsName directory made silent mirrors alive loaded free

/-- A creation adds its name, or throws and changes no name. -/
theorem createItem_addsName {subCreate : Ref → String → Exec β Unit}
    (creates : ∀ middle : World β, Mirrors middle root rootId (content middle.outside) →
      middle.Alive root folder → (middle.heap folder).haveItems = true →
      middle.owns folder name = none →
      Outcome (subCreate folder name) middle
        (fun _ final => AddsName content rootId middle root folder name final)
        (fun exception final => exception.Fault ∨ final = middle))
    (mirrors : Mirrors world root rootId (content world.outside))
    (alive : world.Alive root folder) (exist : (world.heap folder).isPending = false) :
    Outcome (createItem calls subCreate folder name) world
      (fun _ final => AddsName content rootId world root folder name final)
      (fun exception final => exception.Fault ∨
        Mirrors final root rootId (content final.outside) ∧ Browsed content world root final) := by
  unfold createItem
  rw [Outcome.bind_iff, validateName_iff]
  refine ⟨fun _ => ?_, fun _ => Or.inr ⟨mirrors, .refl content world root⟩⟩
  rw [Outcome.bind_iff]
  refine (loadItems_browsed directory faults true mirrors alive exist).mono ?_ fun _ _ => Or.inl
  rintro _ middle ⟨mirrors', loaded, browsed⟩
  rw [Outcome.bind_iff, getItem_iff, Outcome.ite_iff]
  refine ⟨fun _ => Or.inr ⟨mirrors', browsed⟩, fun new => ?_⟩
  rw [not_or, Bool.not_eq_true, Option.isSome_eq_false_iff, Option.isNone_iff_eq_none] at new
  refine (creates middle mirrors' (browsed.kept.alive mirrors.formed alive) loaded new.1).mono ?_ ?_
  · rintro _ final ⟨mirrors'', added⟩
    refine ⟨mirrors'', fun path leads => ?_⟩
    rw [← browsed.paths mirrors.formed] at leads ⊢
    rw [← browsed.node (mirrors.formed.made alive)] at leads
    exact added path leads
  · rintro exception final (fault | rfl)
    · exact Or.inl fault
    · exact Or.inr ⟨mirrors', browsed⟩

/-- Nothing is created without a name. -/
theorem createItem_unnamed {subCreate : Ref → String → Exec β Unit}
    (mirrors : Mirrors world root rootId (content world.outside))
    (alive : world.Alive root folder) (exist : (world.heap folder).isPending = false) :
    Outcome (createItem calls subCreate folder "") world (fun _ _ => False)
      (fun exception final => exception.Fault ∨
        Mirrors final root rootId (content final.outside) ∧ Browsed content world root final) := by
  unfold createItem
  rw [Outcome.bind_iff, validateName_iff]
  refine ⟨fun _ => ?_, fun _ => Or.inr ⟨mirrors, .refl content world root⟩⟩
  rw [Outcome.bind_iff]
  refine (loadItems_browsed directory faults true mirrors alive exist).mono ?_ fun _ _ => Or.inl
  rintro _ middle ⟨mirrors', -, browsed⟩
  rw [Outcome.bind_iff, getItem_iff, Outcome.ite_iff]
  exact ⟨fun _ => Or.inr ⟨mirrors', browsed⟩, fun named => absurd (Or.inr rfl) named⟩

end Andromeda.Folders
