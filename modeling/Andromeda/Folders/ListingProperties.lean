import Andromeda.Folders.MirrorProperties

/-! Listing a folder: a tree that mirrors the backend mirrors it in one more folder afterwards,
and loses nothing. -/

set_option autoImplicit false

namespace Andromeda.Folders

open Andromeda.Library

variable {β : Type} {world middle final : World β} {root folder ref : Ref} {rootId name : String}

/-- What was there is still there, as the backend knows it. -/
structure Kept (world final : World β) : Prop where
  next : world.next ≤ final.next
  owns : ∀ other name ref, other < world.next → world.owns other name = some ref →
    final.owns other name = some ref
  name : ∀ ref, ref < world.next → (final.heap ref).name = (world.heap ref).name
  id : ∀ ref, ref < world.next → (final.heap ref).id = (world.heap ref).id
  kind : ∀ ref, ref < world.next → (final.heap ref).kind = (world.heap ref).kind
  isPending : ∀ ref, ref < world.next → (final.heap ref).isPending = (world.heap ref).isPending
  parent : ∀ ref, ref < world.next → (final.heap ref).parent = (world.heap ref).parent

theorem Kept.trans (first : Kept world middle) (second : Kept middle final) :
    Kept world final where
  next := Nat.le_trans first.next second.next
  owns := fun other name ref made entry =>
    second.owns other name ref (Nat.lt_of_lt_of_le made first.next)
      (first.owns other name ref made entry)
  name := fun ref made =>
    (second.name ref (Nat.lt_of_lt_of_le made first.next)).trans (first.name ref made)
  id := fun ref made =>
    (second.id ref (Nat.lt_of_lt_of_le made first.next)).trans (first.id ref made)
  kind := fun ref made =>
    (second.kind ref (Nat.lt_of_lt_of_le made first.next)).trans (first.kind ref made)
  isPending := fun ref made =>
    (second.isPending ref (Nat.lt_of_lt_of_le made first.next)).trans (first.isPending ref made)
  parent := fun ref made =>
    (second.parent ref (Nat.lt_of_lt_of_le made first.next)).trans (first.parent ref made)

private theorem Redated.kept (redated : Redated world final) : Kept world final where
  next := redated.next.ge
  owns := fun other name ref _ entry => by rw [redated.sameTree.owns, entry]
  name := fun ref _ => redated.name ref
  id := fun ref _ => redated.id ref
  kind := fun ref _ => (redated.same ref).kind
  isPending := fun ref _ => (redated.same ref).isPending
  parent := fun ref _ => (redated.same ref).parent

theorem Kept.refl (world : World β) : Kept world world := (Redated.refl world).kept

theorem Kept.alive (kept : Kept world final) (formed : WellFormed world root)
    (alive : world.Alive root ref) : final.Alive root ref := by
  induction alive with
  | refl => exact .refl
  | tail above step ih =>
      obtain ⟨key, entry⟩ := step
      exact ih.child (kept.owns _ key _ (formed.made above) entry)

theorem Fresh.kept (fresh : Fresh world folder ref middle) (made : folder < world.next)
    (free : world.owns folder name = none) : Kept world (entered middle folder name ref) := by
  have apart : ∀ {other}, other < world.next → other ≠ ref := by
    intro other old
    rw [fresh.fresh]
    exact Nat.ne_of_lt old
  have fields := fun other (old : other < world.next) =>
    @Fresh.others_entered β world middle folder ref name fresh made other (apart old)
  have tree := fun other (old : other < world.next) =>
    @Fresh.heap_entered β world middle folder ref fresh made name other (apart old)
  have kinds : ∀ other, other < world.next →
      ((entered middle folder name ref).heap other).kind = (world.heap other).kind := by
    intro other old
    by_cases here : other = folder
    · subst here
      rw [entered, World.heap_setItem_self, fresh.others other (apart old)]
    · rw [entered, World.heap_setItem_of_ne _ _ _ _ here, fresh.others other (apart old)]
  refine ⟨?_, fun other key owned old entry => ?_, fun other old => (tree other old).1,
    fun other old => (fields other old).2.1, kinds, fun other old => (fields other old).1,
    fun other old => (tree other old).2⟩
  · rw [entered, World.next_setItem, fresh.next]
    exact Nat.le_succ _
  · rw [fresh.owns_entered made, if_neg, if_neg (apart old), entry]
    rintro ⟨rfl, rfl⟩
    rw [free] at entry
    cases entry

/-- The names that are loaded while a folder is being listed. -/
def Listing (world : World β) (folder : Ref) (seen : String → Prop) (other : Ref)
    (name : String) : Prop :=
  if other = folder then seen name else (world.heap other).haveItems = true

private theorem Redated.listing (redated : Redated world final) (seen : String → Prop) :
    Listing final folder seen = Listing world folder seen := by
  funext other name
  simp only [Listing, (redated.same other).haveItems]

variable {calls : Calls β} {content : β → Entries} (directory : Directory calls rootId content)

include directory

/-- Constructing an item asks the backend for no change. -/
theorem newItem_content (data : ItemData) (kind : Kind) (world : World β) :
    Outcome (newItem calls folder data kind) world
      (fun _ final => content final.outside = content world.outside) (fun _ _ => True) := by
  cases kind with
  | file =>
      unfold newItem newFile
      rw [Outcome.bind_iff]
      refine (itemFrom_spec .file world data).mono ?_ fun _ _ _ => trivial
      rintro item _ ⟨rfl, -⟩
      simp only [Outcome.bind_iff, field_iff, call_iff, allocate_iff, notify_iff, Outcome.pure_iff,
        implies_true, and_true]
      intro size _ storage _
      refine (Outcome.ran _ _).mono (fun config outside returned => ?_) fun _ _ _ => trivial
      exact (directory.openFile _ _ _).trans (directory.loadByID storage _ _ _ returned)
  | folder =>
      unfold newItem newFolder
      rw [Outcome.bind_iff]
      refine (itemFrom_spec .folder world data).mono ?_ fun _ _ _ => trivial
      rintro item _ ⟨rfl, -⟩
      simp only [Outcome.bind_iff, field_iff, call_iff, allocate_iff, implies_true, and_true]
      intro storage _
      refine (Outcome.ran _ _).mono (fun config outside returned => ?_) fun _ _ _ => trivial
      exact directory.loadByID storage _ _ _ returned

theorem content_of_sizeTold (told : SizeTold calls world ref final) :
    content final.outside = content world.outside := by
  rcases told with same | ⟨size, same⟩
  · rw [same]
  · rw [same, directory.remoteChanged]

/-- An item that exists, in a place of the tree whose ID on the backend is that of a folder and
a name: the item under this name. -/
private theorem MirrorsAt.unique {outside : β} {visible : Ref → String → Prop} {id : String}
    (mirrors : MirrorsAt world root rootId (content outside) visible)
    (alive : world.Alive root folder) (exist : (world.heap folder).isPending = false)
    (stored : content outside (world.heap folder).id name = some id)
    {other : Ref} (above : world.Alive root other) (exists' : (world.heap other).isPending = false)
    (same : (world.heap other).id = id) : world.owns folder name = some other := by
  rcases above.has_owner with rfl | ⟨owner, key, placed, entry⟩
  · rw [mirrors.root_id] at same
    rw [← same] at stored
    exact absurd stored (directory.root_free outside _ name)
  · have kept := mirrors.stored placed entry exists'
    rw [same] at kept
    obtain ⟨ids, rfl⟩ := directory.single outside _ _ _ _ _ kept stored
    have here := mirrors.ids owner folder placed alive (mirrors.owner_exists placed entry) exist ids
    exact here ▸ entry

private theorem syncItem_mirrors {entry : String × ItemData × Kind} {id : String}
    {seen : String → Prop}
    (mirrors : MirrorsAt world root rootId (content world.outside) (Listing world folder seen))
    (alive : world.Alive root folder) (exist : (world.heap folder).isPending = false)
    (named : entry.2.1.name = some entry.1) (told : entry.2.1.id = some id)
    (stored : content world.outside (world.heap folder).id entry.1 = some id) :
    Outcome (syncItem calls folder entry) world
      (fun _ final => MirrorsAt final root rootId (content world.outside)
          (Listing final folder fun key => seen key ∨ key = entry.1) ∧
        Kept world final ∧ content final.outside = content world.outside)
      (fun _ _ => True) := by
  unfold syncItem
  rw [Outcome.bind_iff, validateName_iff]
  refine ⟨fun _ => ?_, fun _ => trivial⟩
  rw [Outcome.bind_iff, getItem_iff]
  cases old : world.owns folder entry.1 with
  | some existing =>
      have found : (world.heap folder).items.find? entry.1 = some existing := old
      rw [found]
      refine (refresh_spec calls world existing entry.2.1).mono ?_ fun _ _ _ => trivial
      rintro _ final ⟨refreshed, size, renamed, id'⟩
      have shown := mirrors.visible_of_entry alive old
      have kept := mirrors.mirror folder entry.1 alive shown
      rw [old, Option.bind_some, stored] at kept
      have same : (final.heap existing).id = (world.heap existing).id := by
        unfold IdRefreshed at id'
        split at id'
        · rw [told, Option.some_inj] at id'
          rw [(World.storedId_eq_some kept.symm).2, id']
        · exact id'
      have name : (final.heap existing).name = (world.heap existing).name := by
        rw [named, Option.some_inj] at renamed
        rw [(mirrors.formed.entry folder entry.1 existing alive old).1, renamed]
      have redated : Redated world final := by
        refine ⟨fun other => ?_, fun other => ?_, fun other => ?_, refreshed.next⟩
        · by_cases here : other = existing
          · rw [here]
            exact refreshed.same
          · rw [refreshed.others other here]
            exact .refl _
        · by_cases here : other = existing
          · rw [here, name]
          · rw [refreshed.others other here]
        · by_cases here : other = existing
          · rw [here, same]
          · rw [refreshed.others other here]
      refine ⟨?_, redated.kept, content_of_sizeTold directory size⟩
      have shown' : seen entry.1 := by simpa only [Listing, if_true] using shown
      have again : (fun key => seen key ∨ key = entry.1) = seen := by
        funext key
        exact propext (or_iff_left_of_imp fun same => same ▸ shown')
      rw [again, redated.listing]
      exact redated.mirrorsAt mirrors
  | none =>
      have missing : (world.heap folder).items.find? entry.1 = none := old
      rw [missing, Outcome.bind_iff]
      refine ((newItem_spec calls world folder entry.2.1 entry.2.2).and
        (newItem_content directory entry.2.1 entry.2.2 world)).mono ?_ fun _ _ _ => trivial
      rintro ref middle ⟨made, silent⟩
      rw [setEntry, setItem_iff]
      have fresh := made.isFresh
      have placed := mirrors.formed.made alive
      have name : (middle.heap ref).name = entry.1 :=
        Option.some_inj.mp (made.name.symm.trans named)
      have exists' : (middle.heap ref).isPending = false := by
        simp only [Item.isPending, made.kind, made.exist, Bool.and_not_self]
      have id' : (middle.heap ref).id = id := Option.some_inj.mp (made.id.symm.trans told)
      have empty : (middle.heap ref).haveItems = false := made.haveItems
      refine ⟨?_, fresh.kept placed old, silent⟩
      have apart := fresh.apart placed
      refine @MirrorsAt.plant β world middle root folder ref _ _ entry.1 rootId fresh placed _ _
        mirrors name alive old ?_ ?_ ?_ exist ?_ (fun _ _ _ => rfl) ?_ ?_
      · rw [Listing, if_pos rfl]
        exact Or.inr rfl
      · intro other key different elsewhere
        by_cases here : other = folder
        · subst here
          rw [Listing, if_pos rfl, Listing, if_pos rfl]
          exact or_iff_left fun same => elsewhere (Prod.ext rfl same)
        · have fields := @Fresh.others_entered β world middle folder ref entry.1 fresh placed other
            different
          rw [Listing, if_neg here, Listing, if_neg here]
          exact iff_of_eq (congrArg (· = true) fields.2.2.2.2)
      · intro key
        have self : (entered middle folder entry.1 ref).heap ref = middle.heap ref :=
          fresh.heap_entered_self placed
        rw [Listing, if_neg apart.symm]
        change ¬ ((entered middle folder entry.1 ref).heap ref).haveItems = true
        rw [self, empty]
        exact Bool.false_ne_true
      · rw [stored, World.storedId_of_exists exists', id']
      · intro _ other above exists'' same
        have taken := mirrors.unique directory alive exist stored above exists'' (same.trans id')
        rw [old] at taken
        cases taken
      · intro waiting
        rw [exists'] at waiting
        cases waiting

private theorem syncItems_mirrors {stored : Entries} (list : List (String × ItemData × Kind))
    (folderId : String) (answered : ∀ entry ∈ list, entry.2.1.name = some entry.1 ∧
      ∃ id, entry.2.1.id = some id ∧ stored folderId entry.1 = some id)
    (seen : String → Prop) (world : World β) (same : content world.outside = stored)
    (here : (world.heap folder).id = folderId)
    (mirrors : MirrorsAt world root rootId stored (Listing world folder seen))
    (alive : world.Alive root folder) (exist : (world.heap folder).isPending = false) :
    Outcome (forM list (syncItem calls folder)) world
      (fun _ final => MirrorsAt final root rootId stored
          (Listing final folder fun key => seen key ∨ key ∈ list.map Prod.fst) ∧
        Kept world final ∧ content final.outside = stored)
      (fun _ _ => True) := by
  induction list generalizing seen world with
  | nil =>
      have again : (fun key => seen key ∨ key ∈ ([] : List String)) = seen := by
        funext key
        exact propext (or_iff_left List.not_mem_nil)
      rw [List.forM_nil, Outcome.pure_iff, List.map_nil, again]
      exact ⟨mirrors, .refl world, same⟩
  | cons head rest ih =>
      obtain ⟨named, id, told, present⟩ := answered head List.mem_cons_self
      subst same here
      rw [List.forM_cons, Outcome.bind_iff]
      refine (syncItem_mirrors directory mirrors alive exist named told present).mono ?_
        fun _ _ _ => trivial
      rintro _ middle ⟨mirrors', kept, silent⟩
      have made := mirrors.formed.made alive
      refine (ih (fun entry member => answered entry (List.mem_cons_of_mem _ member)) _ middle
        silent (kept.id folder made) mirrors' (kept.alive mirrors.formed alive)
        ((kept.isPending folder made).trans exist)).mono ?_ fun _ _ _ => trivial
      rintro _ final ⟨mirrors'', kept', silent'⟩
      have names : (fun key => (seen key ∨ key = head.1) ∨ key ∈ rest.map Prod.fst) =
          fun key => seen key ∨ key ∈ (head :: rest).map Prod.fst := by
        funext key
        simp only [List.map_cons, List.mem_cons, or_assoc]
      exact ⟨names ▸ mirrors'', kept.trans kept', silent'⟩

omit directory in
/-- The collection has what was listed, and nothing else. -/
theorem collect_lists (kind : Kind) (list : List ItemData) (newItems : NewItemMap)
    (world : World β) :
    Outcome (collect kind list newItems) world
      (fun result final => world = final ∧
        (∀ name listed, result.find? name = some listed → newItems.find? name = some listed ∨
          listed.1 ∈ list ∧ listed.1.name = some name) ∧
        ∀ name, ((newItems.find? name).isSome = true ∨ ∃ data ∈ list, data.name = some name) →
          (result.find? name).isSome = true)
      (fun _ _ => True) := by
  induction list generalizing newItems with
  | nil =>
      refine ⟨rfl, fun name listed found => Or.inl found, ?_⟩
      rintro name (found | ⟨data, member, -⟩)
      · exact found
      · cases member
  | cons data rest ih =>
      rw [collect, Outcome.bind_iff, field_iff]
      refine ⟨fun name found => (ih _).mono ?_ fun _ _ => id, fun _ => trivial⟩
      rintro result _ ⟨rfl, from_, covers⟩
      refine ⟨rfl, fun other listed present => ?_, fun other there => covers other ?_⟩
      · rcases from_ other listed present with earlier | ⟨member, named⟩
        · rw [KeyMap.find?_emplace] at earlier
          split at earlier
          · next same =>
              subst same
              cases old : newItems.find? other with
              | some first =>
                  rw [old] at earlier
                  exact Or.inl earlier
              | none =>
                  rw [old] at earlier
                  cases earlier
                  exact Or.inr ⟨List.mem_cons_self, found⟩
          · exact Or.inl earlier
        · exact Or.inr ⟨List.mem_cons_of_mem _ member, named⟩
      · rw [KeyMap.find?_emplace]
        rcases there with early | ⟨item, member, named⟩
        · refine Or.inl ?_
          split
          · rfl
          · exact early
        · rcases List.mem_cons.mp member with rfl | member
          · have same : other = name := Option.some_inj.mp (named.symm.trans found)
            rw [if_pos same]
            exact Or.inl rfl
          · exact Or.inr ⟨item, member, named⟩

omit directory in
private theorem withoutOthers_mirrors {newItems : NewItemMap} {stored : Entries}
    {visible : Ref → String → Prop} (mirrors : MirrorsAt world root rootId stored visible)
    (alive : world.Alive root folder)
    (covers : ∀ name id, stored (world.heap folder).id name = some id →
      (newItems.find? name).isSome = true) :
    withoutOthers world folder newItems = world := by
  have keep : ∀ name ref, world.owns folder name = some ref →
      ((newItems.find? name).isSome || (world.heap ref).isPending) = true := by
    intro name ref entry
    cases waiting : (world.heap ref).isPending with
    | true => rw [Bool.or_true]
    | false => rw [covers name _ (mirrors.stored alive entry waiting), Bool.true_or]
  refine world.setItem_self folder ?_
  have same : (world.heap folder).items.filter (fun name ref =>
      (newItems.find? name).isSome || (world.heap ref).isPending) = (world.heap folder).items :=
    KeyMap.filter_of_all keep
  rw [same]

private theorem loadItemsFrom_mirrors {data : FolderData} {seen : String → Prop}
    (mirrors : MirrorsAt world root rootId (content world.outside) (Listing world folder seen))
    (alive : world.Alive root folder) (exist : (world.heap folder).isPending = false)
    (listed : ∀ files folders, data.files = some files → data.folders = some folders →
      (∀ item ∈ files ++ folders, ∀ name, item.name = some name →
        ∃ id, item.id = some id ∧ content world.outside (world.heap folder).id name = some id) ∧
      ∀ name id, content world.outside (world.heap folder).id name = some id →
        ∃ item ∈ files ++ folders, item.name = some name) :
    Outcome (loadItemsFrom calls folder data) world
      (fun _ final => MirrorsAt final root rootId (content world.outside)
          (Listing final folder fun _ => True) ∧
        Kept world final ∧ content final.outside = content world.outside)
      (fun _ _ => True) := by
  unfold loadItemsFrom
  rw [Outcome.bind_iff, field_iff]
  refine ⟨fun files hasFiles => ?_, fun _ => trivial⟩
  rw [Outcome.bind_iff]
  refine (collect_lists .file files .empty world).mono ?_ fun _ _ => id
  rintro fromFiles _ ⟨rfl, filesOnly, allFiles⟩
  rw [Outcome.bind_iff, field_iff]
  refine ⟨fun folders hasFolders => ?_, fun _ => trivial⟩
  rw [Outcome.bind_iff]
  refine (collect_lists .folder folders fromFiles world).mono ?_ fun _ _ => id
  rintro newItems _ ⟨rfl, onlyThese, allThese⟩
  obtain ⟨true_, complete⟩ := listed files folders hasFiles hasFolders
  have answered : ∀ entry ∈ newItems.entries, entry.2.1.name = some entry.1 ∧
      ∃ id, entry.2.1.id = some id ∧
        content world.outside (world.heap folder).id entry.1 = some id := by
    intro entry member
    rcases onlyThese entry.1 entry.2 (KeyMap.find?_eq_some_iff.mpr member) with early | late
    · rcases filesOnly entry.1 entry.2 early with none | file
      · cases none
      · exact ⟨file.2, true_ _ (List.mem_append_left _ file.1) _ file.2⟩
    · exact ⟨late.2, true_ _ (List.mem_append_right _ late.1) _ late.2⟩
  have covers : ∀ name id, content world.outside (world.heap folder).id name = some id →
      (newItems.find? name).isSome = true := by
    intro name id stored
    obtain ⟨item, member, named⟩ := complete name id stored
    refine allThese name ?_
    rcases List.mem_append.mp member with file | folder'
    · exact Or.inl (allFiles name (Or.inr ⟨item, file, named⟩))
    · exact Or.inr ⟨item, folder', named⟩
  unfold syncContents
  rw [Outcome.bind_iff]
  refine (syncItems_mirrors directory newItems.entries _ answered seen world rfl rfl mirrors alive
    exist).mono ?_ fun _ _ => id
  rintro _ middle ⟨mirrors', kept, silent⟩
  rw [Outcome.modify_iff]
  have made := mirrors.formed.made alive
  have alive' := kept.alive mirrors.formed alive
  have sameId := kept.id folder made
  rw [withoutOthers_mirrors mirrors' alive' fun name id stored =>
    covers name id (sameId ▸ stored)]
  refine ⟨?_, kept, silent⟩
  refine @MirrorsAt.reveal β middle root folder _ _ rootId mirrors' _ (fun other key shown => ?_)
    ((kept.isPending folder made).trans exist) fun other key _ shown hidden => ?_
  · unfold Listing at shown ⊢
    split
    · trivial
    · next different => rwa [if_neg different] at shown
  · unfold Listing at shown hidden
    by_cases same : other = folder
    · rw [if_pos same, not_or] at hidden
      refine ⟨same, ?_⟩
      rw [sameId]
      cases stored : content world.outside (world.heap folder).id key with
      | none => rfl
      | some id =>
          obtain ⟨entry, present⟩ := Option.isSome_iff_exists.mp (covers key id stored)
          exact absurd (List.mem_map_of_mem (KeyMap.find?_eq_some_iff.mp present)) hidden.2
    · rw [if_neg same] at shown hidden
      exact absurd shown hidden

omit directory in
private theorem MirrorsAt.opened {stored : Entries}
    (mirrors : MirrorsAt world root rootId stored (Listing world folder fun _ => True)) :
    Mirrors (world.setItem folder fun item => { item with haveItems := true }) root rootId
      stored := by
  have tree := @sameTree_setItem β world folder (fun item => { item with haveItems := true })
    rfl rfl rfl
  have heap : ∀ other, ((world.setItem folder fun item =>
      { item with haveItems := true }).heap other) =
        if other = folder then { world.heap folder with haveItems := true }
        else world.heap other := by
    intro other
    by_cases here : other = folder
    · rw [here, World.heap_setItem_self, if_pos rfl]
    · rw [World.heap_setItem_of_ne _ _ _ _ here, if_neg here]
  have shown : (fun (other : Ref) (_ : String) => ((world.setItem folder fun item =>
      { item with haveItems := true }).heap other).haveItems = true) =
        Listing world folder fun _ => True := by
    funext other name
    rw [heap, Listing]
    split
    · exact eq_true rfl
    · rfl
  have before : ∀ {ref}, (world.setItem folder fun item =>
      { item with haveItems := true }).Alive root ref → world.Alive root ref := by
    intro ref above
    rw [World.Alive, tree.owns] at above
    exact above
  rw [Mirrors, shown]
  refine mirrors.reshape (tree.wellFormed mirrors.formed) before (fun other => ?_)
    (fun other => ?_) (fun other above waiting => ?_) (fun other key above hidden => ?_)
    fun other key above seen => ?_
  · rw [heap]
    split
    · next here => rw [here]; rfl
    · rfl
  · rw [heap]
    split
    · next here => rw [here]
    · rfl
  · have kept := (mirrors.pending other (before above) waiting).2
    rw [heap]
    split
    · next here =>
        subst here
        exact kept
    · exact kept
  · rw [tree.owns]
    exact mirrors.unseen other key (before above) hidden
  · rw [tree.owns]
    exact mirrors.mirror other key (before above) seen

omit directory in
private theorem kept_opened (world : World β) (folder : Ref) :
    Kept world (world.setItem folder fun item => { item with haveItems := true }) := by
  have heap : ∀ ref, ∃ haveItems, (world.setItem folder fun item =>
      { item with haveItems := true }).heap ref = { world.heap ref with haveItems } := by
    intro ref
    by_cases here : ref = folder
    · exact ⟨true, by rw [here, World.heap_setItem_self]⟩
    · exact ⟨(world.heap ref).haveItems, World.heap_setItem_of_ne _ _ _ _ here⟩
  have tree := @sameTree_setItem β world folder (fun item => { item with haveItems := true })
    rfl rfl rfl
  refine ⟨Nat.le_refl _, fun other name ref _ entry => ?_, fun ref _ => tree.name ref,
    fun ref _ => ?_, fun ref _ => ?_, fun ref _ => ?_, fun ref _ => tree.parent ref⟩
  · rw [tree.owns, entry]
  · obtain ⟨haveItems, same⟩ := heap ref
    rw [same]
  · obtain ⟨haveItems, same⟩ := heap ref
    rw [same]
  · obtain ⟨haveItems, same⟩ := heap ref
    rw [same]
    rfl

/-- Loading a folder. -/
theorem loadItems_mirrors (canRefresh : Bool)
    (mirrors : Mirrors world root rootId (content world.outside))
    (alive : world.Alive root folder) (exist : (world.heap folder).isPending = false) :
    Outcome (loadItems calls folder canRefresh) world
      (fun _ final => Mirrors final root rootId (content final.outside) ∧
        (final.heap folder).haveItems = true ∧ Kept world final ∧
        content final.outside = content world.outside)
      (fun _ _ => True) := by
  unfold loadItems
  rw [Outcome.bind_iff, call_iff]
  refine (Outcome.ran _ _).mono (fun expired outside returned => ?_) fun _ _ _ => trivial
  have silent := directory.expired folder _ _ _ returned
  rw [Outcome.bind_iff, getItem_iff, Outcome.ite_iff]
  refine ⟨fun _ => ?_, fun fresh => ?_⟩
  · rw [Outcome.bind_iff, call_iff]
    refine (Outcome.ran _ _).mono (fun data outside' answered => ?_) fun _ _ _ => trivial
    obtain ⟨silent', listed⟩ := directory.getFolder _ _ _ _ answered
    have same : content outside' = content world.outside := silent'.trans silent
    have redated : Redated world { world with outside := outside' } := .outside
    have mirrors' : MirrorsAt { world with outside := outside' } root rootId (content outside')
        (Listing { world with outside := outside' } folder fun _ =>
          (world.heap folder).haveItems = true) := by
      rw [redated.listing, same]
      refine redated.mirrorsAt ?_
      have plain : Listing world folder (fun _ => (world.heap folder).haveItems = true) =
          fun other _ => (world.heap other).haveItems = true := by
        funext other name
        unfold Listing
        split
        · next here => rw [here]
        · rfl
      rw [plain]
      exact mirrors
    rw [Outcome.bind_iff]
    refine (loadItemsFrom_mirrors directory mirrors' (redated.sameTree.alive alive) exist
      (by rw [silent'] ; exact listed)).mono ?_ fun _ _ => id
    rintro _ final ⟨mirrors'', kept, silent''⟩
    rw [setItem_iff]
    have opened := mirrors''.opened
    have told : content final.outside = content outside' := silent''
    refine ⟨by rw [World.outside_setItem, told]; exact opened, by rw [World.heap_setItem_self],
      ?_, told.trans same⟩
    exact (redated.kept.trans kept).trans (kept_opened final folder)
  · simp only [Bool.or_eq_true, Bool.not_eq_true', not_or, Bool.not_eq_false] at fresh
    have redated : Redated world { world with outside } := .outside
    refine ⟨?_, fresh.1, redated.kept, silent⟩
    rw [silent]
    exact redated.mirrors mirrors

end Andromeda.Folders
