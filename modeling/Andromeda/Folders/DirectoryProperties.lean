import Andromeda.Folders.ListingProperties

/-! Creating, flushing and deleting items against a backend directory: the tree still mirrors
it. -/

set_option autoImplicit false

namespace Andromeda.Folders

open Andromeda.Library

variable {β : Type} {world middle final : World β} {root folder ref : Ref} {rootId name : String}

section

variable (fresh : Fresh world folder ref middle) (made : folder < world.next)

include fresh made

/-- A new item in a loaded folder, and on the backend unless it is pending. -/
theorem Fresh.mirrors {entries entries' : Entries} (mirrors : Mirrors world root rootId entries)
    (named : (middle.heap ref).name = name) (unloaded : (middle.heap ref).haveItems = false)
    (alive : world.Alive root folder) (loaded : (world.heap folder).haveItems = true)
    (free : world.owns folder name = none)
    (entry : entries' (world.heap folder).id name = middle.storedId ref)
    (others : ∀ folderId key, (folderId, key) ≠ ((world.heap folder).id, name) →
      entries' folderId key = entries folderId key)
    (distinct : (middle.heap ref).isPending = false → ∀ other, world.Alive root other →
      (world.heap other).isPending = false → (world.heap other).id ≠ (middle.heap ref).id)
    (unborn : (middle.heap ref).isPending = true → (middle.heap ref).id = "" ∧
      (middle.heap ref).parent = some (middle.heap ref).creator) :
    Mirrors (entered middle folder name ref) root rootId entries' := by
  have exist := mirrors.owner folder name alive loaded
  have self : (entered middle folder name ref).heap ref = middle.heap ref :=
    fresh.heap_entered_self made
  refine @MirrorsAt.plant β world middle root folder ref _ _ name rootId fresh made _ _
    mirrors named alive free ?_ (fun other key different _ => ?_) (fun key => ?_) exist entry others
    distinct unborn
  · have same := @Fresh.others_entered β world middle folder ref name fresh made folder
      (fresh.apart made)
    exact same.2.2.2.2.trans loaded
  · have same := @Fresh.others_entered β world middle folder ref name fresh made other different
    exact iff_of_eq (congrArg (· = true) same.2.2.2.2)
  · rw [self, unloaded]
    exact Bool.false_ne_true

end

variable {calls : Calls β} {content : β → Entries} (directory : Directory calls rootId content)

/-- The ID of a new item is that of no item of the tree. -/
theorem Created.distinct {entries entries' : Entries} {folderId id : String} {data : ItemData}
    (created : Created rootId entries folderId name data entries') (told : data.id = some id)
    {visible : Ref → String → Prop} (mirrors : MirrorsAt world root rootId entries visible)
    {other : Ref} (above : world.Alive root other) (exist : (world.heap other).isPending = false) :
    (world.heap other).id ≠ id := by
  obtain ⟨notRoot, -, unused⟩ := created.fresh id told
  rcases above.has_owner with rfl | ⟨owner, key, placed, entry⟩
  · rw [mirrors.root_id]
    exact notRoot.symm
  · intro same
    have stored := mirrors.stored placed entry exist
    rw [same] at stored
    exact unused _ key stored

/-- An item that the backend has created enters the map of its folder. -/
theorem Created.mirrors {kind : Kind} {data : ItemData} {entries entries' : Entries}
    (created : Created rootId entries (world.heap folder).id name data entries')
    (made : Made world folder data kind ref middle) (mirrors : Mirrors world root rootId entries)
    (alive : world.Alive root folder) (loaded : (world.heap folder).haveItems = true)
    (free : world.owns folder name = none) :
    Mirrors (entered middle folder name ref) root rootId entries' := by
  have named : (middle.heap ref).name = name :=
    Option.some_inj.mp (made.name.symm.trans created.named)
  have exist : (middle.heap ref).isPending = false := by
    simp only [Item.isPending, made.kind, made.exist, Bool.and_not_self]
  refine @Fresh.mirrors β world middle root folder ref rootId name made.isFresh
    (mirrors.formed.made alive) _ _ mirrors named made.haveItems alive loaded free ?_ ?_ ?_ ?_
  · rw [created.entry, if_pos ⟨rfl, rfl⟩, World.storedId_of_exists exist, made.id]
  · intro folderId key different
    rw [created.entry, if_neg fun same => different (Prod.ext same.1 same.2)]
  · intro _ other above exist'
    exact created.distinct made.id mirrors above exist'
  · intro waiting
    rw [exist] at waiting
    cases waiting

include directory

/-- Making a file, and putting it in the map of its folder under its name. -/
theorem subCreateFile_mirrors (mirrors : Mirrors world root rootId (content world.outside))
    (alive : world.Alive root folder) (loaded : (world.heap folder).haveItems = true)
    (free : world.owns folder name = none) :
    Outcome (subCreateFile calls folder name) world
      (fun _ final => Mirrors final root rootId (content final.outside)) (fun _ _ => True) := by
  have placed := mirrors.formed.made alive
  unfold subCreateFile
  rw [Outcome.bind_iff, checkReadOnlyFS_iff]
  refine ⟨fun _ => trivial, fun _ => ?_⟩
  rw [Outcome.bind_iff]
  unfold makeFile
  rw [Outcome.bind_iff, getItem_iff, Outcome.ite_iff]
  refine ⟨fun _ => ?_, fun _ => ?_⟩
  · rw [Outcome.bind_iff, call_iff]
    refine (Outcome.ran _ _).mono (fun data outside returned => ?_) fun _ _ _ => trivial
    have created := directory.createFile _ _ _ _ _ returned
    have redated : Redated world { world with outside } := .outside
    refine ((newFile_spec calls { world with outside } folder data).and
      (newItem_content directory data .file { world with outside })).mono ?_ fun _ _ _ => trivial
    rintro ref middle ⟨made, silent⟩
    rw [Outcome.bind_iff, getItem_iff, setEntry, setItem_iff, World.outside_setItem, silent]
    have named : (middle.heap ref).name = name :=
      Option.some_inj.mp (made.name.symm.trans created.named)
    rw [named]
    exact @Created.mirrors β { world with outside } middle root folder ref rootId name _ _ _ _
      created made (redated.mirrors mirrors) (redated.sameTree.alive alive) loaded free
  · refine (newPendingFile_spec calls name _ world).mono ?_ fun _ _ => False.elim
    intro ref middle awaited
    rw [Outcome.bind_iff, getItem_iff, setEntry, setItem_iff, World.outside_setItem,
      awaited.outside, directory.openFile, awaited.name]
    refine @Fresh.mirrors β world middle root folder ref rootId name awaited.fresh placed _ _
      mirrors awaited.name awaited.haveItems alive loaded free ?_ (fun _ _ _ => rfl)
      (fun exist => ?_) fun _ => ⟨awaited.id, awaited.parent⟩
    · rw [mirrors.mirror folder name alive loaded, free, Option.bind_none, World.storedId,
        if_pos awaited.isPending]
    · rw [awaited.isPending] at exist
      cases exist

theorem subCreateFolder_mirrors (mirrors : Mirrors world root rootId (content world.outside))
    (alive : world.Alive root folder) (loaded : (world.heap folder).haveItems = true)
    (free : world.owns folder name = none) :
    Outcome (subCreateFolder calls folder name) world
      (fun _ final => Mirrors final root rootId (content final.outside)) (fun _ _ => True) := by
  unfold subCreateFolder
  rw [Outcome.bind_iff, checkReadOnlyFS_iff]
  refine ⟨fun _ => trivial, fun _ => ?_⟩
  rw [Outcome.bind_iff, getItem_iff, Outcome.bind_iff, call_iff]
  refine (Outcome.ran _ _).mono (fun data outside returned => ?_) fun _ _ _ => trivial
  have created := directory.createFolder _ _ _ _ _ returned
  have redated : Redated world { world with outside } := .outside
  rw [Outcome.bind_iff]
  refine ((newFolder_spec calls { world with outside } folder data).and
    (newItem_content directory data .folder { world with outside })).mono ?_ fun _ _ _ => trivial
  rintro ref middle ⟨made, silent⟩
  rw [Outcome.bind_iff, getItem_iff, setEntry, setItem_iff, World.outside_setItem, silent]
  have named : (middle.heap ref).name = name :=
    Option.some_inj.mp (made.name.symm.trans created.named)
  rw [named]
  exact @Created.mirrors β { world with outside } middle root folder ref rootId name _ _ _ _
    created made (redated.mirrors mirrors) (redated.sameTree.alive alive) loaded free

theorem createItem_mirrors {subCreate : Ref → String → Exec β Unit}
    (creates : ∀ middle : World β, Mirrors middle root rootId (content middle.outside) →
      middle.Alive root folder → (middle.heap folder).haveItems = true →
      middle.owns folder name = none →
      Outcome (subCreate folder name) middle
        (fun _ final => Mirrors final root rootId (content final.outside)) (fun _ _ => True))
    (mirrors : Mirrors world root rootId (content world.outside))
    (alive : world.Alive root folder) (exist : (world.heap folder).isPending = false) :
    Outcome (createItem calls subCreate folder name) world
      (fun _ final => Mirrors final root rootId (content final.outside)) (fun _ _ => True) := by
  unfold createItem
  rw [Outcome.bind_iff, validateName_iff]
  refine ⟨fun _ => ?_, fun _ => trivial⟩
  rw [Outcome.bind_iff]
  refine (loadItems_mirrors directory true mirrors alive exist).mono ?_ fun _ _ => id
  rintro _ middle ⟨mirrors', loaded, kept, -⟩
  rw [Outcome.bind_iff, getItem_iff, Outcome.ite_iff]
  refine ⟨fun _ => trivial, fun new => ?_⟩
  rw [not_or, Bool.not_eq_true, Option.isSome_eq_false_iff, Option.isNone_iff_eq_none] at new
  exact creates middle mirrors' (kept.alive mirrors.formed alive) loaded new.1

omit directory in
private theorem Created.flushed {data : ItemData} {entries entries' : Entries} {parent : Ref}
    {id : String}
    (created : Created rootId entries (world.heap parent).id (world.heap ref).name data entries')
    (told : data.id = some id) (mirrors : Mirrors world root rootId entries)
    (alive : world.Alive root ref) (parented : (world.heap ref).parent = some parent)
    (waiting : (world.heap ref).isPending = true) (tree : SameTree world final)
    (others : ∀ other, other ≠ ref → final.heap other = world.heap other)
    (haveItems : (final.heap ref).haveItems = (world.heap ref).haveItems)
    (exist : (final.heap ref).isPending = false) (id' : (final.heap ref).id = id) :
    Mirrors final root rootId entries' := by
  obtain ⟨upper, entry⟩ := mirrors.formed.placed alive parented
  have before : ∀ {other}, final.Alive root other → world.Alive root other := by
    intro other above
    rw [World.Alive, tree.owns] at above
    exact above
  have shown : (fun (other : Ref) (_ : String) => (final.heap other).haveItems = true) =
      fun other _ => (world.heap other).haveItems = true := by
    funext other _
    by_cases here : other = ref
    · rw [here, haveItems]
    · rw [others other here]
  -- what is loaded was created before
  have owner : ∀ {other}, world.Alive root other → (world.heap other).haveItems = true →
      other ≠ ref := by
    rintro other above loaded rfl
    rw [mirrors.owner other "" above loaded] at waiting
    cases waiting
  have old : ∀ {other}, world.Alive root other → other ≠ ref →
      (final.heap other).isPending = false → (final.heap other).id ≠ (final.heap ref).id := by
    intro other above different stored
    rw [others other different] at stored ⊢
    rw [id']
    exact created.distinct told mirrors above stored
  rw [Mirrors, shown]
  refine
    { formed := tree.wellFormed mirrors.formed
      root_id := ?_
      root_exists := ?_
      unseen := fun other key above hidden => ?_
      mirror := fun other key above loaded => ?_
      ids := fun first second above above' stored stored' same => ?_
      owner := fun other key above loaded => ?_
      pending := fun other above still => ?_ }
  · have apart : root ≠ ref := by
      rintro rfl
      rw [mirrors.formed.root_parent] at parented
      cases parented
    rw [others root apart, mirrors.root_id]
  · have apart : root ≠ ref := by
      rintro rfl
      rw [mirrors.formed.root_parent] at parented
      cases parented
    rw [others root apart, mirrors.root_exists]
  · rw [tree.owns]
    exact mirrors.unseen other key (before above) hidden
  · have placed := before above
    have apart := owner placed loaded
    rw [others other apart, tree.owns]
    by_cases here : (other, key) = (parent, (world.heap ref).name)
    · obtain ⟨rfl, rfl⟩ := Prod.mk.inj here
      rw [created.entry, if_pos ⟨rfl, rfl⟩, told, entry, Option.bind_some,
        World.storedId_of_exists exist, id']
    · have elsewhere : ¬ ((world.heap other).id = (world.heap parent).id ∧
          key = (world.heap ref).name) := by
        rintro ⟨same, rfl⟩
        have same := mirrors.ids other parent placed upper (mirrors.owner other "" placed loaded)
          (mirrors.owner_exists upper entry) same
        exact here (Prod.ext same rfl)
      rw [created.entry, if_neg elsewhere, mirrors.mirror other key placed loaded]
      refine Option.bind_congr fun item owned => ?_
      have different : item ≠ ref := by
        rintro rfl
        obtain ⟨rfl, rfl⟩ := mirrors.formed.sole.place _ _ _ _ _ placed upper owned entry
        exact here rfl
      exact (World.storedId_congr (by rw [others item different])
        (by rw [others item different])).symm
  · by_cases one : first = ref
    · by_cases two : second = ref
      · exact one.trans two.symm
      · rw [one] at same
        exact absurd same.symm (old (before above') two stored')
    · by_cases two : second = ref
      · rw [two] at same
        exact absurd same (old (before above) one stored)
      · rw [others first one] at stored same
        rw [others second two] at stored' same
        exact mirrors.ids first second (before above) (before above') stored stored' same
  · rw [others other (owner (before above) loaded)]
    exact mirrors.owner other key (before above) loaded
  · have apart : other ≠ ref := by
      rintro rfl
      rw [exist] at still
      cases still
    rw [others other apart] at still ⊢
    exact mirrors.pending other (before above) still

/-- What a flush leaves of the tree. -/
structure Flushed (world : World β) (ref : Ref) (final : World β) : Prop where
  tree : SameTree world final
  isPending : (final.heap ref).isPending = false
  kind : (final.heap ref).kind = (world.heap ref).kind
  haveItems : (final.heap ref).haveItems = (world.heap ref).haveItems
  others : ∀ other, other ≠ ref → final.heap other = world.heap other

/-- A pending file is created on the backend. -/
theorem flushCreate_mirrors (mirrors : Mirrors world root rootId (content world.outside))
    (alive : world.Alive root ref) (waiting : (world.heap ref).isPending = true) :
    Outcome (flushCreate calls ref) world
      (fun _ final => Mirrors final root rootId (content final.outside) ∧ Flushed world ref final)
      (fun _ _ => True) := by
  obtain ⟨noId, parented⟩ := mirrors.pending ref alive waiting
  -- what the server tells of the new file is entered
  have entered : ∀ (data : ItemData) (outside : β),
      Created rootId (content world.outside) (world.heap (world.heap ref).creator).id
        (world.heap ref).name data (content outside) →
      Outcome (do
        refreshFile calls ref data
        setItem ref fun item => { item with backendExists := true } : Exec β Unit)
        { world with outside }
        (fun _ final => Mirrors final root rootId (content final.outside) ∧
          Flushed world ref final) (fun _ _ => True) := by
    intro data outside created
    rw [Outcome.bind_iff]
    refine (refreshFile_spec calls { world with outside } ref data).mono ?_ fun _ _ _ => trivial
    rintro _ middle ⟨refreshed, size, -, id⟩
    rw [if_pos noId] at id
    have silent := content_of_sizeTold directory size
    rw [setItem_iff, World.outside_setItem, silent]
    have heap : (middle.setItem ref fun item => { item with backendExists := true }).heap ref =
        { middle.heap ref with backendExists := true } := World.heap_setItem_self _ _ _
    have others : ∀ other, other ≠ ref → (middle.setItem ref fun item =>
        { item with backendExists := true }).heap other = world.heap other := by
      intro other different
      rw [World.heap_setItem_of_ne _ _ _ _ different]
      exact refreshed.others other different
    have tree : SameTree world (middle.setItem ref fun item =>
        { item with backendExists := true }) :=
      (sameTree_outside.trans (refreshed.sameTree created.named)).trans
        (@sameTree_setItem β middle ref (fun item => { item with backendExists := true })
          rfl rfl rfl)
    have kind : (middle.heap ref).kind = (world.heap ref).kind := refreshed.same.kind
    have haveItems : (middle.heap ref).haveItems = (world.heap ref).haveItems :=
      refreshed.same.haveItems
    have exist : ((middle.setItem ref fun item =>
        { item with backendExists := true }).heap ref).isPending = false := by
      rw [heap, Item.isPending, Bool.not_true, Bool.and_false]
    have id' : ((middle.setItem ref fun item => { item with backendExists := true }).heap ref).id =
        (middle.heap ref).id := by rw [heap]
    refine ⟨created.flushed id mirrors alive parented waiting tree others ?_ exist id', tree, exist,
      ?_, ?_, others⟩
    · rw [heap]
      exact haveItems
    · rw [heap]
      exact kind
    · rw [heap]
      exact haveItems
  unfold flushCreate
  rw [Outcome.bind_iff, getItem_iff, Outcome.bind_iff, getItem_iff, Outcome.bind_iff, call_iff]
  refine (Outcome.ran _ _).mono (fun first outside asked => ?_) fun _ _ _ => trivial
  have silent := directory.hasFirstPage _ _ _ _ asked
  cases first with
  | true =>
      rw [if_pos rfl, Outcome.bind_iff, call_iff]
      refine (Outcome.ran _ _).mono (fun data outside' returned => ?_) fun _ _ _ => trivial
      have created := directory.uploadFile _ _ _ _ _ returned
      rw [silent] at created
      exact entered data outside' created
  | false =>
      rw [if_neg Bool.false_ne_true, Outcome.bind_iff, call_iff]
      refine (Outcome.ran _ _).mono (fun data outside' returned => ?_) fun _ _ _ => trivial
      have created := directory.createFile _ _ _ _ _ returned
      rw [silent] at created
      exact entered data outside' created

/-- A file is flushed. -/
theorem flushCache_mirrors (mirrors : Mirrors world root rootId (content world.outside))
    (alive : world.Alive root ref) (file : (world.heap ref).kind = .file) :
    Outcome (flushCache calls ref) world
      (fun _ final => Mirrors final root rootId (content final.outside) ∧ Flushed world ref final)
      (fun _ _ => True) := by
  have written : ∀ middle, Mirrors middle root rootId (content middle.outside) →
      Flushed world ref middle →
      Outcome (do call (calls.writeFile ref (← getItem ref).id) : Exec β Unit) middle
        (fun _ final => Mirrors final root rootId (content final.outside) ∧
          Flushed world ref final) (fun _ _ => True) := by
    intro middle mirrors' flushed
    rw [Outcome.bind_iff, getItem_iff, call_iff]
    refine (Outcome.ran _ _).mono (fun _ outside returned => ?_) fun _ _ _ => trivial
    have silent := directory.writeFile _ _ _ _ returned
    have redated : Redated middle { middle with outside } := .outside
    refine ⟨?_, flushed.tree.trans sameTree_outside, flushed.isPending, flushed.kind,
      flushed.haveItems, flushed.others⟩
    rw [silent]
    exact redated.mirrors mirrors'
  unfold flushCache
  rw [Outcome.bind_iff, getItem_iff, Outcome.ite_iff]
  refine ⟨fun missing => ?_, fun present => ?_⟩
  · have waiting : (world.heap ref).isPending = true := by
      simp only [Item.isPending, file, decide_true, Bool.true_and]
      exact missing
    rw [Outcome.bind_iff]
    refine (flushCreate_mirrors directory mirrors alive waiting).mono ?_ fun _ _ => id
    exact fun _ middle result => written middle result.1 result.2
  · have exist : (world.heap ref).isPending = false := by
      simp only [Item.isPending, file, decide_true, Bool.true_and]
      exact Bool.eq_false_of_not_eq_true present
    exact written world mirrors ⟨.refl world, exist, rfl, rfl, fun _ _ => rfl⟩

/-- What is not inside an item is not inside it on the backend. -/
theorem MirrorsAt.apart {outside : β} {visible : Ref → String → Prop}
    (mirrors : MirrorsAt world root rootId (content outside) visible)
    (alive : world.Alive root ref) (exist : (world.heap ref).isPending = false) {other : Ref}
    (above : world.Alive root other) (exist' : (world.heap other).isPending = false)
    (below : (content outside).Under (world.heap ref).id (world.heap other).id) :
    world.owns.Under ref other := by
  obtain ⟨upper, higher, exist'', same, under⟩ := mirrors.lift directory above exist' below
  exact mirrors.ids upper ref higher alive exist'' exist same ▸ under

private theorem MirrorsAt.place_iff {outside : β} {visible : Ref → String → Prop}
    (mirrors : MirrorsAt world root rootId (content outside) visible)
    (alive : world.Alive root folder) (entry : world.owns folder name = some ref)
    (exist : (world.heap ref).isPending = false) {other : Ref} {key : String}
    (above : world.Alive root other) (exist' : (world.heap other).isPending = false) :
    content outside (world.heap other).id key = some (world.heap ref).id ↔
      other = folder ∧ key = name := by
  have stored := mirrors.stored alive entry exist
  constructor
  · intro there
    obtain ⟨ids, rfl⟩ := directory.single outside _ _ _ _ _ there stored
    exact ⟨mirrors.ids other folder above alive exist' (mirrors.owner_exists alive entry) ids, rfl⟩
  · rintro ⟨rfl, rfl⟩
    exact stored

omit directory in
/-- An item leaves its map, and its place on the backend. -/
theorem MirrorsAt.erased {entries entries' : Entries}
    (mirrors : Mirrors world root rootId entries) (alive : world.Alive root folder)
    (entry : world.owns folder name = some ref)
    (same : ∀ other key, world.Alive root other → (world.heap other).haveItems = true →
      ¬ world.owns.Under ref other → entries' (world.heap other).id key =
        if other = folder ∧ key = name then none else entries (world.heap other).id key) :
    Mirrors (world.setItem folder fun item => { item with items := item.items.erase name }) root
      rootId entries' := by
  have owns : ∀ other key, (world.setItem folder fun item =>
      { item with items := item.items.erase name }).owns other key =
        if other = folder ∧ key = name then none else world.owns other key := by
    intro other key
    have changed := owns_setItem_items world folder (fun items => items.erase name) other key
    rw [changed]
    by_cases here : other = folder
    · subst here
      simp only [if_true, KeyMap.find?_erase, true_and]
      rfl
    · rw [if_neg here, if_neg fun both => here both.1]
  have heap : ∀ other, ∃ items, (world.setItem folder fun item =>
      { item with items := item.items.erase name }).heap other =
        { world.heap other with items } := by
    intro other
    by_cases here : other = folder
    · exact ⟨(world.heap folder).items.erase name, by rw [here, World.heap_setItem_self]⟩
    · exact ⟨(world.heap other).items, World.heap_setItem_of_ne _ _ _ _ here⟩
  have removed : Owners.Removed world.owns (world.setItem folder fun item =>
      { item with items := item.items.erase name }).owns ref folder name :=
    ⟨entry, by rw [owns, if_pos ⟨rfl, rfl⟩], fun other key different => by
      rw [owns, if_neg fun both => different (Prod.ext both.1 both.2)]⟩
  have before := fun {other} (above : World.Alive _ root other) =>
    removed.alive_before mirrors.formed.sole alive above
  have shown : (fun (other : Ref) (_ : String) => ((world.setItem folder fun item =>
      { item with items := item.items.erase name }).heap other).haveItems = true) =
        fun other _ => (world.heap other).haveItems = true := by
    funext other _
    obtain ⟨items, changed⟩ := heap other
    rw [changed]
  rw [Mirrors, shown]
  refine mirrors.reshape (eraseEntry_wellFormed name mirrors.formed) (fun above => (before above).1)
    (fun other => ?_) (fun other => ?_) (fun other above waiting => ?_)
    (fun other key above hidden => ?_) fun other key above loaded => ?_
  · obtain ⟨items, changed⟩ := heap other
    rw [changed]
    rfl
  · obtain ⟨items, changed⟩ := heap other
    rw [changed]
  · obtain ⟨items, changed⟩ := heap other
    rw [changed]
    exact (mirrors.pending other (before above).1 waiting).2
  · rw [owns, mirrors.unseen other key (before above).1 hidden, ite_self]
  · rw [same other key (before above).1 loaded (before above).2, owns]
    split
    · rfl
    · exact mirrors.mirror other key (before above).1 loaded

/-- What a deletion has done on the backend. -/
theorem subDelete_mirrors (mirrors : Mirrors world root rootId (content world.outside))
    (alive : world.Alive root folder) (entry : world.owns folder name = some ref) :
    Outcome (subDelete calls ref) world
      (fun _ final => (∃ outside, final = { world with outside }) ∧
        ∀ other key, world.Alive root other → (world.heap other).haveItems = true →
          ¬ world.owns.Under ref other → content final.outside (world.heap other).id key =
            if other = folder ∧ key = name then none
            else content world.outside (world.heap other).id key)
      (fun _ _ => True) := by
  -- the item was on the backend
  have deleted : ∀ outside, (world.heap ref).isPending = false →
      Deleted (content world.outside) (world.heap ref).id (content outside) →
      ∀ other key, world.Alive root other → (world.heap other).haveItems = true →
        ¬ world.owns.Under ref other → content outside (world.heap other).id key =
          if other = folder ∧ key = name then none
          else content world.outside (world.heap other).id key := by
    intro outside exist deleted other key above loaded apart
    have exist' := mirrors.owner other key above loaded
    rw [deleted.entry _ fun below =>
      apart (mirrors.apart directory (alive.child entry) exist above exist' below)]
    exact if_congr (mirrors.place_iff directory alive entry exist above exist') rfl rfl
  unfold subDelete
  rw [Outcome.bind_iff, checkReadOnlyFS_iff]
  refine ⟨fun _ => trivial, fun _ => ?_⟩
  rw [Outcome.bind_iff, getItem_iff]
  cases kind : (world.heap ref).kind with
  | file =>
      rw [Outcome.ite_iff]
      refine ⟨fun present => ?_, fun missing => ⟨⟨world.outside, rfl⟩, ?_⟩⟩
      · have exist : (world.heap ref).isPending = false := by
          rw [Item.isPending, present, Bool.not_true, Bool.and_false]
        rw [call_iff]
        refine (Outcome.ran _ _).mono (fun _ outside returned => ?_) fun _ _ _ => trivial
        exact ⟨⟨outside, rfl⟩, deleted outside exist (directory.deleteFile _ _ _ returned)⟩
      · -- nothing is called for a file that is not created yet
        intro other key above loaded _
        split
        · next here =>
            obtain ⟨rfl, rfl⟩ := here
            have waiting : (world.heap ref).isPending = true := by
              rw [Item.isPending, kind, Bool.eq_false_of_not_eq_true missing]
              rfl
            rw [mirrors.mirror other key above loaded, entry, Option.bind_some, World.storedId,
              if_pos waiting]
        · rfl
  | folder =>
      have exist : (world.heap ref).isPending = false := by
        rw [Item.isPending, kind]
        rfl
      rw [call_iff]
      refine (Outcome.ran _ _).mono (fun _ outside returned => ?_) fun _ _ _ => trivial
      exact ⟨⟨outside, rfl⟩, deleted outside exist (directory.deleteFolder _ _ _ returned)⟩

/-- An item is deleted. -/
theorem delete_mirrors (mirrors : Mirrors world root rootId (content world.outside))
    (alive : world.Alive root ref) :
    Outcome (delete calls ref) world
      (fun _ final => Mirrors final root rootId (content final.outside)) (fun _ _ => True) := by
  unfold delete
  rw [Outcome.bind_iff, getParent_iff]
  refine ⟨fun parent parented => ?_, fun _ => trivial⟩
  obtain ⟨above, entry⟩ := mirrors.formed.placed alive parented
  rw [Outcome.bind_iff, getItem_iff]
  unfold deleteItem
  rw [Outcome.bind_iff, checkReadOnlyFS_iff]
  refine ⟨fun _ => trivial, fun _ => ?_⟩
  rw [Outcome.bind_iff]
  refine (loadItems_mirrors directory true mirrors above
    (mirrors.owner_exists above entry)).mono ?_ fun _ _ => id
  rintro _ loaded ⟨mirrors', -, kept, -⟩
  rw [Outcome.bind_iff, findItem_iff]
  refine ⟨fun found present => ?_, fun _ => trivial⟩
  have alive' := kept.alive mirrors.formed above
  rw [Outcome.bind_iff]
  refine (subDelete_mirrors directory mirrors' alive' present).mono ?_ fun _ _ => id
  rintro _ final ⟨⟨outside, rfl⟩, same⟩
  rw [eraseEntry, setItem_iff, World.outside_setItem]
  have redated : Redated loaded { loaded with outside } := .outside
  exact @MirrorsAt.erased β { loaded with outside } root parent found rootId _ _ _
    (redated.mirrors mirrors') (redated.sameTree.alive alive') present same

end Andromeda.Folders
