import Andromeda.Folders.Directory
import Andromeda.Folders.MoveProperties

/-! How a tree goes on mirroring the backend when an item is added, removed or takes another
place on both sides. -/

set_option autoImplicit false

namespace Andromeda.Folders

open Andromeda.Library

variable {β : Type} {world middle final : World β} {root folder ref : Ref} {entries : Entries}
  {visible : Ref → String → Prop} {name rootId : String}

theorem World.storedId_of_exists (exist : (world.heap ref).isPending = false) :
    world.storedId ref = some (world.heap ref).id := by
  rw [storedId, exist, if_neg Bool.false_ne_true]

theorem World.storedId_eq_some {id : String} (stored : world.storedId ref = some id) :
    (world.heap ref).isPending = false ∧ (world.heap ref).id = id := by
  unfold storedId at stored
  split at stored
  · cases stored
  · next exist => exact ⟨Bool.eq_false_of_not_eq_true exist, Option.some_inj.mp stored⟩

theorem World.storedId_congr {other : Ref}
    (isPending : (final.heap other).isPending = (world.heap ref).isPending)
    (id : (final.heap other).id = (world.heap ref).id) :
    final.storedId other = world.storedId ref := by
  rw [storedId, isPending, id, storedId]

namespace MirrorsAt

/-- An entry is visible, its owner exists on the backend. -/
theorem visible_of_entry (mirrors : MirrorsAt world root rootId entries visible)
    (alive : world.Alive root folder) (entry : world.owns folder name = some ref) :
    visible folder name := by
  by_contra hidden
  rw [mirrors.unseen folder name alive hidden] at entry
  cases entry

theorem owner_exists (mirrors : MirrorsAt world root rootId entries visible)
    (alive : world.Alive root folder) (entry : world.owns folder name = some ref) :
    (world.heap folder).isPending = false :=
  mirrors.owner folder name alive (mirrors.visible_of_entry alive entry)

/-- The backend has the entries of the items that exist. -/
theorem stored (mirrors : MirrorsAt world root rootId entries visible)
    (alive : world.Alive root folder) (entry : world.owns folder name = some ref)
    (exist : (world.heap ref).isPending = false) :
    entries (world.heap folder).id name = some (world.heap ref).id := by
  rw [mirrors.mirror folder name alive (mirrors.visible_of_entry alive entry), entry,
    Option.bind_some, World.storedId_of_exists exist]

/-- What the backend has is in the tree. -/
theorem found (mirrors : MirrorsAt world root rootId entries visible)
    (alive : world.Alive root folder) (seen : visible folder name) {id : String}
    (stored : entries (world.heap folder).id name = some id) :
    ∃ ref, world.owns folder name = some ref ∧ (world.heap ref).isPending = false ∧
      (world.heap ref).id = id := by
  rw [mirrors.mirror folder name alive seen, Option.bind_eq_some_iff] at stored
  obtain ⟨ref, entry, kept⟩ := stored
  exact ⟨ref, entry, World.storedId_eq_some kept⟩

/-- What is under an item in the tree is under its ID on the backend. -/
theorem push (mirrors : MirrorsAt world root rootId entries visible) {upper lower : Ref}
    (alive : world.Alive root upper) (below : world.owns.Under upper lower)
    (exist : (world.heap lower).isPending = false) :
    entries.Under (world.heap upper).id (world.heap lower).id := by
  induction below with
  | refl => exact .refl
  | tail above step ih =>
      obtain ⟨key, entry⟩ := step
      have here := alive.trans above
      exact (ih (mirrors.owner_exists here entry)).child (mirrors.stored here entry exist)

/-- The items are as they were, while entries may have changed on both sides. -/
theorem reshape (mirrors : MirrorsAt world root rootId entries visible) {entries' : Entries}
    (formed : WellFormed final root)
    (before : ∀ {ref}, final.Alive root ref → world.Alive root ref)
    (isPending : ∀ ref, (final.heap ref).isPending = (world.heap ref).isPending)
    (id : ∀ ref, (final.heap ref).id = (world.heap ref).id)
    (unborn : ∀ ref, final.Alive root ref → (world.heap ref).isPending = true →
      (final.heap ref).parent = some (final.heap ref).creator)
    (unseen : ∀ folder name, final.Alive root folder → ¬ visible folder name →
      final.owns folder name = none)
    (mirror : ∀ folder name, final.Alive root folder → visible folder name →
      entries' (world.heap folder).id name = (final.owns folder name).bind world.storedId) :
    MirrorsAt final root rootId entries' visible where
  formed := formed
  root_id := by rw [id, mirrors.root_id]
  root_exists := by rw [isPending, mirrors.root_exists]
  unseen := unseen
  mirror := by
    intro folder name above seen
    rw [id, mirror folder name above seen]
    exact Option.bind_congr fun ref _ => (World.storedId_congr (isPending ref) (id ref)).symm
  ids := by
    intro first second above above' exist exist' same
    rw [isPending] at exist exist'
    rw [id, id] at same
    exact mirrors.ids first second (before above) (before above') exist exist' same
  owner := by
    intro folder name above seen
    rw [isPending]
    exact mirrors.owner folder name (before above) seen
  pending := by
    intro ref above waiting
    rw [isPending] at waiting
    rw [id]
    exact ⟨(mirrors.pending ref (before above) waiting).1, unborn ref above waiting⟩

/-- Nothing is under a file that is not created yet. -/
theorem leaf (mirrors : MirrorsAt world root rootId entries visible) {lower : Ref}
    (alive : world.Alive root ref) (waiting : (world.heap ref).isPending = true)
    (below : world.owns.Under ref lower) : lower = ref := by
  refine below.eq_of_empty fun key => mirrors.unseen ref key alive fun shown => ?_
  rw [mirrors.owner ref key alive shown] at waiting
  cases waiting

/-- The names without an entry on the backend can be told to be loaded. -/
theorem reveal (mirrors : MirrorsAt world root rootId entries visible)
    {visible' : Ref → String → Prop} (shown : ∀ other key, visible other key → visible' other key)
    (exist : (world.heap folder).isPending = false)
    (new : ∀ other key, world.Alive root other → visible' other key → ¬ visible other key →
      other = folder ∧ entries (world.heap folder).id key = none) :
    MirrorsAt world root rootId entries visible' where
  formed := mirrors.formed
  root_id := mirrors.root_id
  root_exists := mirrors.root_exists
  unseen := fun other key above hidden =>
    mirrors.unseen other key above fun seen => hidden (shown other key seen)
  mirror := by
    intro other key above seen'
    by_cases seen : visible other key
    · exact mirrors.mirror other key above seen
    · obtain ⟨rfl, absent⟩ := new other key above seen' seen
      rw [absent, mirrors.unseen other key above seen, Option.bind_none]
  ids := mirrors.ids
  owner := by
    intro other key above seen'
    by_cases seen : visible other key
    · exact mirrors.owner other key above seen
    · rw [(new other key above seen' seen).1, exist]
  pending := mirrors.pending

end MirrorsAt

section

variable {calls : Calls β} {content : β → Entries}
  (directory : Directory calls rootId content) {outside : β}

include directory

/-- What an ID has under it on the backend belongs to items of the tree. -/
theorem MirrorsAt.lift (mirrors : MirrorsAt world root rootId (content outside) visible)
    {lower : Ref} (alive : world.Alive root lower) (exist : (world.heap lower).isPending = false)
    {id : String} (below : (content outside).Under id (world.heap lower).id) :
    ∃ upper, world.Alive root upper ∧ (world.heap upper).isPending = false ∧
      (world.heap upper).id = id ∧ world.owns.Under upper lower := by
  induction alive with
  | refl =>
      rcases below.has_owner with same | ⟨owner, key, -, entry⟩
      · exact ⟨root, .refl, exist, same, .refl⟩
      · rw [mirrors.root_id] at entry
        exact absurd entry (directory.root_free outside owner key)
  | @tail upper lower above step ih =>
      obtain ⟨key, entry⟩ := step
      rcases below.has_owner with same | ⟨owner, key', higher, entry'⟩
      · exact ⟨lower, Owners.Under.child above entry, exist, same, .refl⟩
      · have stored := mirrors.stored above entry exist
        obtain ⟨rfl, -⟩ := directory.single outside _ _ _ _ _ entry' stored
        obtain ⟨found, alive, exists', id, under⟩ := ih (mirrors.owner_exists above entry) higher
        exact ⟨found, alive, exists', id, under.child entry⟩

end

/-- Two worlds that differ in dates only. -/
structure Redated (world final : World β) : Prop where
  same : ∀ ref, SameItem (world.heap ref) (final.heap ref)
  name : ∀ ref, (final.heap ref).name = (world.heap ref).name
  id : ∀ ref, (final.heap ref).id = (world.heap ref).id
  next : final.next = world.next

theorem Redated.refl (world : World β) : Redated world world :=
  ⟨fun _ => .refl _, fun _ => rfl, fun _ => rfl, rfl⟩

theorem Redated.outside {outside : β} : Redated world { world with outside } :=
  ⟨fun _ => .refl _, fun _ => rfl, fun _ => rfl, rfl⟩

theorem SameItem.isPending {item changed : Item} (same : SameItem item changed) :
    changed.isPending = item.isPending := by
  simp only [Item.isPending, same.kind, same.backendExists]

theorem Redated.sameTree (redated : Redated world final) : SameTree world final :=
  ⟨fun ref => (redated.same ref).items, redated.name, fun ref => (redated.same ref).parent,
    redated.next⟩

theorem Redated.mirrorsAt (redated : Redated world final)
    (mirrors : MirrorsAt world root rootId entries visible) :
    MirrorsAt final root rootId entries visible := by
  have owns := redated.sameTree.owns
  have pending := fun ref => (redated.same ref).isPending
  have alive : ∀ {ref}, final.Alive root ref → world.Alive root ref := by
    intro ref above
    rw [World.Alive, owns] at above
    exact above
  refine mirrors.reshape (redated.sameTree.wellFormed mirrors.formed) alive pending redated.id
    (fun ref above unborn => ?_) (fun folder name above hidden => ?_)
    fun folder name above seen => ?_
  · rw [(redated.same ref).parent, (redated.same ref).creator]
    exact (mirrors.pending ref (alive above) unborn).2
  · rw [owns, mirrors.unseen folder name (alive above) hidden]
  · rw [mirrors.mirror folder name (alive above) seen, owns]

theorem Redated.mirrors (redated : Redated world final) (mirrors : Mirrors world root rootId entries) :
    Mirrors final root rootId entries := by
  have moved := redated.mirrorsAt mirrors
  simpa only [Mirrors, (redated.same _).haveItems] using moved

section

variable (fresh : Fresh world folder ref middle) (made : folder < world.next)

include fresh made

theorem Fresh.planted :
    Owners.Planted world.owns (entered middle folder name ref).owns folder name ref where
  placed := by rw [fresh.owns_entered made, if_pos ⟨rfl, rfl⟩]
  empty := fun key => by
    rw [fresh.owns_entered made, if_neg fun same => fresh.apart made same.1.symm, if_pos rfl]
  others := fun other key owned different entry => by
    rw [fresh.owns_entered made, if_neg fun same => different (Prod.ext same.1 same.2)] at entry
    split at entry
    · cases entry
    · exact entry

/-- The other items are as they were, besides the map of the folder. -/
theorem Fresh.others_entered {other : Ref} (different : other ≠ ref) :
    ((entered middle folder name ref).heap other).isPending = (world.heap other).isPending ∧
    ((entered middle folder name ref).heap other).id = (world.heap other).id ∧
    ((entered middle folder name ref).heap other).parent = (world.heap other).parent ∧
    ((entered middle folder name ref).heap other).creator = (world.heap other).creator ∧
    ((entered middle folder name ref).heap other).haveItems = (world.heap other).haveItems := by
  by_cases here : other = folder
  · subst here
    rw [entered, World.heap_setItem_self, fresh.others other different]
    exact ⟨rfl, rfl, rfl, rfl, rfl⟩
  · rw [entered, World.heap_setItem_of_ne _ _ _ _ here, fresh.others other different]
    exact ⟨rfl, rfl, rfl, rfl, rfl⟩

/-- A new item in the tree and, unless it is pending, under its ID on the backend. -/
theorem MirrorsAt.plant {entries' : Entries} {visible' : Ref → String → Prop}
    (mirrors : MirrorsAt world root rootId entries visible)
    (named : (middle.heap ref).name = name) (alive : world.Alive root folder)
    (free : world.owns folder name = none) (seen : visible' folder name)
    (others_seen : ∀ other key, other ≠ ref → (other, key) ≠ (folder, name) →
      (visible' other key ↔ visible other key))
    (leaf_hidden : ∀ key, ¬ visible' ref key) (exist : (world.heap folder).isPending = false)
    (entry : entries' (world.heap folder).id name = middle.storedId ref)
    (others : ∀ folderId key, (folderId, key) ≠ ((world.heap folder).id, name) →
      entries' folderId key = entries folderId key)
    (distinct : (middle.heap ref).isPending = false → ∀ other, world.Alive root other →
      (world.heap other).isPending = false → (world.heap other).id ≠ (middle.heap ref).id)
    (unborn : (middle.heap ref).isPending = true → (middle.heap ref).id = "" ∧
      (middle.heap ref).parent = some (middle.heap ref).creator) :
    MirrorsAt (entered middle folder name ref) root rootId entries' visible' := by
  have self : (entered middle folder name ref).heap ref = middle.heap ref :=
    fresh.heap_entered_self made
  have planted : Owners.Planted world.owns (entered middle folder name ref).owns folder name ref :=
    fresh.planted made
  have before : ∀ {other}, (entered middle folder name ref).Alive root other →
      world.Alive root other ∨ other = ref := fun above => planted.alive_before above
  have old : ∀ {other}, world.Alive root other → other ≠ ref := by
    intro other above
    rw [fresh.fresh]
    exact Nat.ne_of_lt (mirrors.formed.made above)
  have fields := fun other (different : other ≠ ref) =>
    @Fresh.others_entered β world middle folder ref name fresh made other different
  have root_old : root ≠ ref := old .refl
  have owns : ∀ other key, (entered middle folder name ref).owns other key =
      if other = folder ∧ key = name then some ref
      else if other = ref then none else world.owns other key := fresh.owns_entered made
  have inner : ∀ upper key, visible' upper key →
      (entered middle folder name ref).Alive root upper → world.Alive root upper ∧ upper ≠ ref := by
    intro upper key seen' above
    have apart : upper ≠ ref := fun same => leaf_hidden key (same ▸ seen')
    exact ⟨(before above).resolve_right apart, apart⟩
  refine
    { formed := fresh.wellFormed made mirrors.formed named
      root_id := by rw [(fields root root_old).2.1, mirrors.root_id]
      root_exists := by rw [(fields root root_old).1, mirrors.root_exists]
      unseen := fun upper key above hidden => ?_
      mirror := fun upper key above seen' => ?_
      ids := fun first second above above' exist exist' same => ?_
      owner := fun upper key above seen' => ?_
      pending := fun other above waiting => ?_ }
  · rw [owns]
    by_cases here : upper = folder ∧ key = name
    · obtain ⟨rfl, rfl⟩ := here
      exact absurd seen hidden
    · rw [if_neg here]
      by_cases leaf : upper = ref
      · rw [if_pos leaf]
      · rw [if_neg leaf]
        refine mirrors.unseen upper key ((before above).resolve_right leaf) fun shown => ?_
        exact hidden ((others_seen upper key leaf fun same =>
          here (Prod.mk.inj same)).mpr shown)
  · obtain ⟨alive', apart⟩ := inner upper key seen' above
    rw [(fields upper apart).2.1]
    by_cases here : (upper, key) = (folder, name)
    · obtain ⟨rfl, rfl⟩ := Prod.mk.inj here
      have placed : (entered middle upper key ref).owns upper key = some ref := planted.placed
      rw [entry, placed, Option.bind_some]
      exact World.storedId_congr (by rw [self]) (by rw [self])
    · have shown := (others_seen upper key apart here).mp seen'
      have elsewhere : ((world.heap upper).id, key) ≠ ((world.heap folder).id, name) := by
        intro same
        obtain ⟨ids, rfl⟩ := Prod.mk.inj same
        have upper_exists := mirrors.owner upper key alive' shown
        exact here (Prod.ext (mirrors.ids upper folder alive' alive upper_exists exist ids) rfl)
      rw [others _ _ elsewhere, mirrors.mirror upper key alive' shown, owns,
        if_neg fun same => here (Prod.ext same.1 same.2), if_neg apart]
      refine Option.bind_congr fun item owned => ?_
      have different := old (alive'.child owned)
      exact (World.storedId_congr (fields item different).1 (fields item different).2.1).symm
  · -- the ID of the new item is not that of an old one
    have apart : ∀ other, (entered middle folder name ref).Alive root other → other ≠ ref →
        ((entered middle folder name ref).heap other).isPending = false →
        (middle.heap ref).isPending = false →
        ((entered middle folder name ref).heap other).id ≠ (middle.heap ref).id := by
      intro other above different stored stored'
      rw [(fields other different).1] at stored
      rw [(fields other different).2.1]
      exact distinct stored' other ((before above).resolve_right different) stored
    by_cases one : first = ref
    · by_cases two : second = ref
      · exact one.trans two.symm
      · rw [one, self] at exist same
        exact absurd same.symm (apart second above' two exist' exist)
    · by_cases two : second = ref
      · rw [two, self] at exist' same
        exact absurd same (apart first above one exist exist')
      · rw [(fields first one).1] at exist
        rw [(fields second two).1] at exist'
        rw [(fields first one).2.1, (fields second two).2.1] at same
        exact mirrors.ids first second ((before above).resolve_right one)
          ((before above').resolve_right two) exist exist' same
  · obtain ⟨alive', apart⟩ := inner upper key seen' above
    rw [(fields upper apart).1]
    by_cases here : (upper, key) = (folder, name)
    · obtain ⟨rfl, rfl⟩ := Prod.mk.inj here
      exact exist
    · exact mirrors.owner upper key alive' ((others_seen upper key apart here).mp seen')
  · by_cases leaf : other = ref
    · subst leaf
      rw [self] at waiting ⊢
      exact unborn waiting
    · rw [(fields other leaf).1] at waiting
      rw [(fields other leaf).2.1, (fields other leaf).2.2.1, (fields other leaf).2.2.2.1]
      exact mirrors.pending other ((before above).resolve_right leaf) waiting

end

end Andromeda.Folders
