import Andromeda.Folders.LoadProperties
import Andromeda.Library.Run

/-! Every operation keeps the shape of the tree, and a rename or a move removes what it
replaces and nothing else. -/

set_option autoImplicit false

namespace Andromeda.Folders

open Andromeda.Library

variable {β : Type} {world middle final : World β} {root folder ref : Ref}

section

variable {Thrown : ItemError → World β → Prop} (calls : Calls β)

theorem checkReadOnlyFS_iff {Returned : Unit → World β → Prop} :
    Outcome (checkReadOnlyFS calls ref) world Returned Thrown ↔
      (isReadOnlyFS calls (world.heap ref) = true → Thrown .readOnlyFS world) ∧
        (¬ isReadOnlyFS calls (world.heap ref) = true → Returned () world) := by
  unfold checkReadOnlyFS
  rw [Outcome.bind_iff, getItem_iff, Outcome.ite_iff]
  rfl

theorem findItem_iff {name : String} {Returned : Ref → World β → Prop} :
    Outcome (findItem folder name) world Returned Thrown ↔
      (∀ ref, world.owns folder name = some ref → Returned ref world) ∧
        (world.owns folder name = none → Thrown .notFound world) := by
  unfold findItem
  rw [Outcome.bind_iff, getItem_iff]
  cases found : world.owns folder name with
  | none =>
      have missing : (world.heap folder).items.find? name = none := found
      rw [missing]
      simp
  | some ref =>
      have present : (world.heap folder).items.find? name = some ref := found
      rw [present]
      simp

theorem getParent_iff {Returned : Ref → World β → Prop} :
    Outcome (getParent ref) world Returned Thrown ↔
      (∀ parent, (world.heap ref).parent = some parent → Returned parent world) ∧
        ((world.heap ref).parent = none → Thrown .nullParent world) := by
  unfold getParent
  rw [Outcome.bind_iff, getItem_iff]
  cases (world.heap ref).parent with
  | none => simp
  | some parent => simp

end

private theorem call_sameTree {α : Type} (request : EStateM ItemError β α) (world : World β) :
    Outcome (call request) world (fun _ final => SameTree world final)
      (fun _ final => SameTree world final) := by
  rw [call_iff]
  exact (Outcome.ran _ _).mono (fun _ _ _ => sameTree_outside) fun _ _ _ => sameTree_outside

variable (calls : Calls β)

private theorem subDelete_sameTree (ref : Ref) (world : World β) :
    Outcome (subDelete calls ref) world (fun _ final => SameTree world final)
      (fun _ final => SameTree world final) := by
  unfold subDelete
  rw [Outcome.bind_iff, checkReadOnlyFS_iff]
  refine ⟨fun _ => .refl world, fun _ => ?_⟩
  rw [Outcome.bind_iff, getItem_iff]
  cases (world.heap ref).kind with
  | file =>
      rw [Outcome.ite_iff]
      exact ⟨fun _ => call_sameTree _ world, fun _ => .refl world⟩
  | folder => exact call_sameTree _ world

theorem subRename_sameTree (ref : Ref) (newName : String) (overwrite : Bool) (world : World β) :
    Outcome (subRename calls ref newName overwrite) world (fun _ final => SameTree world final)
      (fun _ final => SameTree world final) := by
  unfold subRename
  rw [Outcome.bind_iff, checkReadOnlyFS_iff]
  refine ⟨fun _ => .refl world, fun _ => ?_⟩
  rw [Outcome.bind_iff, getItem_iff]
  cases (world.heap ref).kind with
  | file =>
      rw [Outcome.ite_iff]
      exact ⟨fun _ => call_sameTree _ world, fun _ => .refl world⟩
  | folder => exact call_sameTree _ world

/-- The backend creates and uploads files under the names it is asked to. -/
structure Echoes (calls : Calls β) : Prop where
  createFile : ∀ folderId name outside data outside',
    calls.createFile folderId name outside = .ok data outside' → data.name = some name
  uploadFile : ∀ folderId name outside data outside',
    calls.uploadFile folderId name outside = .ok data outside' → data.name = some name

variable {calls}

private theorem flushCreate_sameTree (echoes : Echoes calls) (ref : Ref) (world : World β) :
    Outcome (flushCreate calls ref) world (fun _ final => SameTree world final)
      (fun _ final => SameTree world final) := by
  -- the refresh with the data of the new file
  have refreshed : ∀ (data : ItemData) (middle : World β), SameTree world middle →
      data.name = some (world.heap ref).name →
      Outcome (do
        refreshFile calls ref data
        setItem ref fun item => { item with backendExists := true } : Exec β Unit) middle
        (fun _ final => SameTree world final) (fun _ final => SameTree world final) := by
    intro data middle same named
    rw [Outcome.bind_iff]
    have kept : ∀ final, Refreshed middle ref data final → SameTree world final :=
      fun final refreshed => same.trans (refreshed.sameTree (by rw [named, same.name]))
    refine (refreshFile_spec calls middle ref data).mono (fun _ final result => ?_)
      fun _ final result => kept final result.1
    rw [setItem_iff]
    exact (kept final result.1).trans (@sameTree_setItem β final ref
      (fun item => { item with backendExists := true }) rfl rfl rfl)
  unfold flushCreate
  rw [Outcome.bind_iff, getItem_iff, Outcome.bind_iff, getItem_iff, Outcome.bind_iff]
  refine (call_sameTree _ world).mono ?_ fun _ _ => id
  intro first middle same
  cases first with
  | true =>
      rw [if_pos rfl, Outcome.bind_iff, call_iff]
      refine (Outcome.ran _ _).mono (fun data outside returned => ?_)
        fun _ _ _ => same.trans sameTree_outside
      exact refreshed data _ (same.trans sameTree_outside)
        (echoes.uploadFile _ _ _ _ _ returned)
  | false =>
      rw [if_neg Bool.false_ne_true, Outcome.bind_iff, call_iff]
      refine (Outcome.ran _ _).mono (fun data outside returned => ?_)
        fun _ _ _ => same.trans sameTree_outside
      exact refreshed data _ (same.trans sameTree_outside)
        (echoes.createFile _ _ _ _ _ returned)

theorem flushCache_sameTree (echoes : Echoes calls) (ref : Ref) (world : World β) :
    Outcome (flushCache calls ref) world (fun _ final => SameTree world final)
      (fun _ final => SameTree world final) := by
  have written : ∀ middle, SameTree world middle →
      Outcome (do call (calls.writeFile ref (← getItem ref).id) : Exec β Unit) middle
        (fun _ final => SameTree world final) (fun _ final => SameTree world final) := by
    intro middle same
    rw [Outcome.bind_iff, getItem_iff]
    exact (call_sameTree _ middle).mono (fun _ _ => same.trans) fun _ _ => same.trans
  unfold flushCache
  rw [Outcome.bind_iff, getItem_iff, Outcome.ite_iff]
  refine ⟨fun _ => ?_, fun _ => written world (.refl world)⟩
  rw [Outcome.bind_iff]
  exact (flushCreate_sameTree echoes ref world).mono (fun _ middle => written middle) fun _ _ => id

theorem subMove_sameTree (echoes : Echoes calls) (ref : Ref) (parentId : String)
    (overwrite : Bool) (world : World β) :
    Outcome (subMove calls ref parentId overwrite) world (fun _ final => SameTree world final)
      (fun _ final => SameTree world final) := by
  unfold subMove
  rw [Outcome.bind_iff, checkReadOnlyFS_iff]
  refine ⟨fun _ => .refl world, fun _ => ?_⟩
  rw [Outcome.bind_iff, getItem_iff]
  cases (world.heap ref).kind with
  | file =>
      have moved : ∀ middle, SameTree world middle →
          Outcome (do call (calls.moveFile (← getItem ref).id parentId overwrite) : Exec β Unit)
            middle (fun _ final => SameTree world final) (fun _ final => SameTree world final) := by
        intro middle same
        rw [Outcome.bind_iff, getItem_iff]
        exact (call_sameTree _ middle).mono (fun _ _ => same.trans) fun _ _ => same.trans
      rw [Outcome.bind_iff, getItem_iff, Outcome.ite_iff]
      refine ⟨fun _ => ?_, fun _ => moved world (.refl world)⟩
      rw [Outcome.bind_iff]
      exact (flushCache_sameTree echoes ref world).mono (fun _ middle => moved middle)
        fun _ _ => id
  | folder =>
      rw [Outcome.bind_iff, getItem_iff]
      exact call_sameTree _ world

variable (calls) in
/-- A file to be created later, that is in no map yet. -/
structure Awaited (world : World β) (folder : Ref) (name : String) (ref : Ref) (final : World β) :
    Prop where
  fresh : Fresh world folder ref final
  name : (final.heap ref).name = name
  isPending : (final.heap ref).isPending = true
  id : (final.heap ref).id = ""
  parent : (final.heap ref).parent = some (final.heap ref).creator
  haveItems : (final.heap ref).haveItems = false
  outside : final.outside = calls.openFile ref 0 world.outside

variable (calls) in
theorem newPendingFile_spec (name : String) (config : Option FSConfig) (world : World β) :
    Outcome (newPendingFile calls folder name config) world
      (fun ref final => Awaited calls world folder name ref final) (fun _ _ => False) := by
  unfold newPendingFile
  rw [Outcome.bind_iff, Outcome.get_iff, Outcome.bind_iff, allocate_iff, Outcome.bind_iff,
    notify_iff, Outcome.pure_iff]
  have made := fun item : Item => World.heap_allocate_next world item
  exact
    { fresh := ⟨rfl, rfl, fun other different => World.heap_allocate_of_ne _ other _ different,
        by rw [made], by rw [made]; rfl⟩
      name := by rw [made]
      isPending := by rw [made]; rfl
      id := by rw [made]; rfl
      parent := by rw [made]
      haveItems := by rw [made]; rfl
      outside := rfl }

private theorem enter_wellFormed (formed : WellFormed world root) (made : folder < world.next)
    (fresh : Fresh world folder ref middle) :
    Outcome (do setEntry folder (← getItem ref).name ref : Exec β Unit) middle
      (fun _ final => WellFormed final root) (fun _ final => WellFormed final root) := by
  rw [Outcome.bind_iff, getItem_iff, setEntry, setItem_iff]
  exact fresh.wellFormed made formed rfl

private theorem makeFile_fresh (name : String) (world : World β) :
    Outcome (makeFile calls folder name) world
      (fun ref final => ∃ middle, SameTree world middle ∧ Fresh middle folder ref final)
      (fun _ final => SameTree world final) := by
  unfold makeFile
  rw [Outcome.bind_iff, getItem_iff, Outcome.ite_iff]
  refine ⟨fun _ => ?_, fun _ => ?_⟩
  · rw [Outcome.bind_iff]
    refine (call_sameTree _ world).mono ?_ fun _ _ => id
    intro data middle same
    refine (newFile_spec calls middle folder data).mono
      (fun ref final made => ⟨middle, same, made.isFresh⟩) ?_
    rintro _ final ⟨heap, next⟩
    exact same.trans ⟨fun _ => by rw [heap], fun _ => by rw [heap], fun _ => by rw [heap], next⟩
  · exact (newPendingFile_spec calls name _ world).mono
      (fun ref final awaited => ⟨world, .refl world, awaited.fresh⟩) fun _ _ => False.elim

theorem subCreateFile_wellFormed (name : String) (formed : WellFormed world root)
    (made : folder < world.next) :
    Outcome (subCreateFile calls folder name) world (fun _ final => WellFormed final root)
      (fun _ final => WellFormed final root) := by
  unfold subCreateFile
  rw [Outcome.bind_iff, checkReadOnlyFS_iff]
  refine ⟨fun _ => formed, fun _ => ?_⟩
  rw [Outcome.bind_iff]
  refine (makeFile_fresh name world).mono ?_ fun _ _ same => same.wellFormed formed
  rintro ref final ⟨middle, same, fresh⟩
  exact enter_wellFormed (same.wellFormed formed) (same.next.symm ▸ made) fresh

theorem subCreateFolder_wellFormed (name : String) (formed : WellFormed world root)
    (made : folder < world.next) :
    Outcome (subCreateFolder calls folder name) world (fun _ final => WellFormed final root)
      (fun _ final => WellFormed final root) := by
  unfold subCreateFolder
  rw [Outcome.bind_iff, checkReadOnlyFS_iff]
  refine ⟨fun _ => formed, fun _ => ?_⟩
  rw [Outcome.bind_iff, getItem_iff, Outcome.bind_iff]
  refine (call_sameTree _ world).mono ?_ fun _ _ same => same.wellFormed formed
  intro data middle same
  have formed' := same.wellFormed formed
  rw [Outcome.bind_iff]
  refine (newFolder_spec calls middle folder data).mono ?_ ?_
  · exact fun ref final made' =>
      enter_wellFormed formed' (same.next.symm ▸ made) made'.isFresh
  · rintro _ final ⟨heap, next⟩
    exact SameTree.wellFormed ⟨fun _ => by rw [heap], fun _ => by rw [heap],
      fun _ => by rw [heap], next⟩ formed'

theorem createItem_wellFormed {subCreate : Ref → String → Exec β Unit} {name : String}
    (creates : ∀ middle : World β, WellFormed middle root → folder < middle.next →
      Outcome (subCreate folder name) middle (fun _ final => WellFormed final root)
        (fun _ final => WellFormed final root))
    (formed : WellFormed world root) (alive : world.Alive root folder) :
    Outcome (createItem calls subCreate folder name) world
      (fun _ final => WellFormed final root) (fun _ final => WellFormed final root) := by
  unfold createItem
  rw [Outcome.bind_iff, validateName_iff]
  refine ⟨fun _ => ?_, fun _ => formed⟩
  rw [Outcome.bind_iff]
  refine (loadItems_tree calls true formed alive).mono ?_ fun _ _ result => result.1
  rintro _ middle ⟨formed', loaded⟩
  rw [Outcome.bind_iff, getItem_iff, Outcome.ite_iff]
  exact ⟨fun _ => formed', fun _ =>
    creates middle formed' (Nat.lt_of_lt_of_le (formed.made alive) loaded.next)⟩

/-- An item leaves its map. -/
theorem eraseEntry_wellFormed (name : String) (formed : WellFormed world root) :
    WellFormed (world.setItem folder fun item =>
      { item with items := item.items.erase name }) root := by
  refine formed.fewer (Nat.le_refl _) (fun upper key owned entry => ?_) fun other _ => ?_
  · by_cases here : upper = folder
    · subst here
      simp only [World.owns, World.heap_setItem_self, KeyMap.find?_erase] at entry ⊢
      split at entry
      · cases entry
      · exact entry
    · simpa only [World.owns, World.heap_setItem_of_ne _ _ _ _ here] using entry
  · by_cases here : other = folder
    · subst here
      rw [World.heap_setItem_self]
      exact ⟨rfl, rfl⟩
    · rw [World.heap_setItem_of_ne _ _ _ _ here]
      exact ⟨rfl, rfl⟩

theorem delete_wellFormed (formed : WellFormed world root) (alive : world.Alive root ref) :
    Outcome (delete calls ref) world (fun _ final => WellFormed final root)
      (fun _ final => WellFormed final root) := by
  unfold delete
  rw [Outcome.bind_iff, getParent_iff]
  refine ⟨fun parent parented => ?_, fun _ => formed⟩
  rw [Outcome.bind_iff, getItem_iff]
  unfold deleteItem
  rw [Outcome.bind_iff, checkReadOnlyFS_iff]
  refine ⟨fun _ => formed, fun _ => ?_⟩
  rw [Outcome.bind_iff]
  refine (loadItems_tree calls true formed (formed.placed alive parented).1).mono ?_
    fun _ _ result => result.1
  rintro _ middle ⟨formed', -⟩
  rw [Outcome.bind_iff, findItem_iff]
  refine ⟨fun found _ => ?_, fun _ => formed'⟩
  rw [Outcome.bind_iff]
  refine (subDelete_sameTree calls found middle).mono ?_ fun _ _ same => same.wellFormed formed'
  intro _ final same
  rw [eraseEntry, setItem_iff]
  exact eraseEntry_wellFormed _ (same.wellFormed formed')

end Andromeda.Folders
