import Andromeda.Folders.LookupProperties
import Andromeda.Folders.PathLookup
import Andromeda.Folders.DirectoryRunProperties
import Andromeda.Text.PathProperties

/-! The functions that take a path find what the path leads to, and change no name. -/

set_option autoImplicit false

namespace Andromeda.Folders

open Andromeda.Library

variable {α β : Type} {world middle final : World β} {root folder ref : Ref} {rootId name : String}

@[simp] theorem onItems_iff {computation : Exec β α} {Returned : α → World β → Prop}
    {Thrown : FolderError → World β → Prop} :
    Outcome (onItems computation) world Returned Thrown ↔
      Outcome computation world Returned fun exception => Thrown (.item exception) := by
  unfold Outcome onItems
  cases computation world <;> rfl

/-- An exception of the backend, or of its answers. -/
def FolderError.Fault (exception : FolderError) : Prop :=
  ∃ fault : ItemError, exception = .item fault ∧ fault.Fault

private theorem FolderError.fault_iff {exception : FolderError} :
    exception.Fault ↔ exception = .item .json ∨ exception = .item .backend := by
  constructor
  · rintro ⟨_, rfl, rfl | rfl⟩
    · exact Or.inl rfl
    · exact Or.inr rfl
  · rintro (rfl | rfl)
    · exact ⟨_, rfl, Or.inl rfl⟩
    · exact ⟨_, rfl, Or.inr rfl⟩

instance (exception : FolderError) : Decidable exception.Fault :=
  decidable_of_iff _ FolderError.fault_iff.symm

theorem folderFault {exception : ItemError} (fault : exception.Fault) :
    (FolderError.item exception).Fault := ⟨exception, rfl, fault⟩

/-- Why nothing was found at a path: that is what the exception says. -/
structure PathFailed (world : World β) (root : Ref) (leads : List String → Option Node)
    (parts : List String) (exception : FolderError) : Prop where
  notFound : ∀ error, exception = .item error → error = .notFound ∧ leads parts = none
  /-- A file is on the way, or at the end. -/
  notFolder : exception = .notFolder → ∃ above file, above <+: parts ∧
    leads above = some (world.node file) ∧ world.Alive root file ∧ (world.heap file).kind = .file
  notFile : exception = .notFile → ∃ item, leads parts = some (world.node item) ∧
    world.Alive root item ∧ (world.heap item).kind = .folder

variable {calls : Calls β} {content : β → Entries} (directory : Directory calls rootId content)
  (faults : calls.Faults)

include directory faults

private theorem getItemIn_leads (parts : List String) (some_ : parts ≠ []) (world : World β)
    (folder : Ref)
    (mirrors : Mirrors world root rootId (content world.outside))
    (alive : world.Alive root folder) (exist : (world.heap folder).isPending = false) :
    Outcome (getItemIn calls folder parts) world
      (fun item final => Mirrors final root rootId (content final.outside) ∧
        Browsed content world root final ∧ final.Alive root item ∧
        (world.view root (content world.outside)).resolve (world.node folder) parts =
          some (final.node item))
      (fun exception final => exception.Fault ∨
        Mirrors final root rootId (content final.outside) ∧ Browsed content world root final ∧
        PathFailed final root
          ((world.view root (content world.outside)).resolve (world.node folder)) parts exception) := by
  induction parts generalizing world folder with
  | nil => exact absurd rfl some_
  | cons part rest ih =>
      unfold getItemIn
      rw [Outcome.bind_iff, onItems_iff]
      refine (loadItems_browsed directory faults true mirrors alive exist).mono ?_
        fun _ _ fault => Or.inl (folderFault fault)
      rintro _ loaded ⟨mirrors', shown, browsed⟩
      have made := mirrors.formed.made alive
      have alive' := browsed.kept.alive mirrors.formed alive
      have names : (world.view root (content world.outside)) (world.node folder) part =
          (loaded.owns folder part).map loaded.node := by
        rw [← browsed.view mirrors.formed, ← browsed.node made]
        exact mirrors'.view_loaded alive' shown
      have view := browsed.view mirrors.formed
      rw [Outcome.bind_iff, onItems_iff]
      unfold findItem
      rw [Outcome.bind_iff, getItem_iff]
      cases entry : loaded.owns folder part with
      | none =>
          have absent : (loaded.heap folder).items.find? part = none := entry
          rw [absent]
          rw [entry, Option.map_none] at names
          refine Or.inr ⟨mirrors', browsed, fun error same => ?_, by simp, by simp⟩
          cases same
          exact ⟨rfl, by rw [Owners.resolve, names, Option.bind_none]⟩
      | some item =>
          have present : (loaded.heap folder).items.find? part = some item := entry
          rw [present]
          rw [entry, Option.map_some] at names
          have below : loaded.Alive root item := alive'.child entry
          have onwards : (world.view root (content world.outside)).resolve (world.node folder)
              (part :: rest) = (loaded.view root (content loaded.outside)).resolve
                (loaded.node item) rest := by
            rw [Owners.resolve, names, Option.bind_some, view]
          rw [Outcome.pure_iff, Outcome.ite_iff]
          refine ⟨fun last => ?_, fun more => ?_⟩
          · rw [Outcome.pure_iff, onwards, last]
            exact ⟨mirrors', browsed, below, rfl⟩
          rw [Outcome.bind_iff, Outcome.get_iff, Outcome.ite_iff]
          refine ⟨fun file => ?_, fun isFolder => ?_⟩
          · refine Or.inr ⟨mirrors', browsed, by simp, fun _ => ?_, by simp⟩
            refine ⟨[part], item, ⟨rest, rfl⟩, ?_, below, ?_⟩
            · rw [Owners.resolve, names]
              rfl
            · cases kind : (loaded.heap item).kind with
              | file => rfl
              | folder => exact absurd kind file
          · rw [not_not] at isFolder
            refine (ih more loaded item mirrors' below (isPending_of_folder isFolder)).mono ?_ ?_
            · rintro found final ⟨mirrors'', browsed', alive'', leads⟩
              exact ⟨mirrors'', browsed.trans browsed', alive'', onwards.trans leads⟩
            · rintro exception final (fault | ⟨mirrors'', browsed', failed⟩)
              · exact Or.inl fault
              refine Or.inr ⟨mirrors'', browsed.trans browsed', fun error same => ?_,
                fun same => ?_, fun same => ?_⟩
              · obtain ⟨same', nowhere⟩ := failed.notFound error same
                exact ⟨same', onwards.trans nowhere⟩
              · obtain ⟨above, leaf, begins, leads, placed, kind⟩ := failed.notFolder same
                refine ⟨part :: above, leaf, List.cons_prefix_cons.mpr ⟨rfl, begins⟩, ?_, placed, kind⟩
                rw [Owners.resolve, names, Option.bind_some, ← view]
                exact leads
              · obtain ⟨other, leads, placed, kind⟩ := failed.notFile same
                exact ⟨other, onwards.trans leads, placed, kind⟩

omit directory faults in
private theorem pathParts_eq_nil_iff {path : List Char} :
    pathParts path = [] ↔ path.dropWhile (· == '/') = [] := by
  unfold pathParts
  rw [List.map_eq_nil_iff]
  constructor
  · intro none_
    by_contra filled
    rw [Text.explode, if_neg filled, dif_neg (List.cons_ne_nil _ _)] at none_
    exact (Text.explodeLoop_exploded _ 0 (List.cons_ne_nil _ _) (by decide)).2 none_
  · intro empty
    rw [empty]
    rfl

omit directory faults in
theorem MirrorsAt.node_root {entries : Entries} {visible : Ref → String → Prop}
    (mirrors : MirrorsAt world root rootId entries visible) : world.node root = .stored rootId := by
  rw [World.node_of_exists mirrors.root_exists, mirrors.root_id]

omit directory faults in
/-- The path of an item goes through its folder. -/
theorem MirrorsAt.parent_path {entries : Entries} {visible : Ref → String → Prop}
    {path : List String} (mirrors : MirrorsAt world root rootId entries visible)
    (sole : (world.view root entries).Sole (.stored rootId)) (alive : world.Alive root folder)
    (entry : world.owns folder name = some ref)
    (leads : world.paths root rootId entries path = some (world.node ref)) :
    ∃ above, path = above ++ [name] ∧
      world.paths root rootId entries above = some (world.node folder) := by
  have below := mirrors.view_under .refl alive
  rw [mirrors.node_root] at below
  obtain ⟨above, leads'⟩ := Owners.under_iff_resolve.mp below
  refine ⟨above, sole.resolve_inj leads ?_, leads'⟩
  rw [Owners.resolve_snoc, leads', Option.bind_some]
  exact mirrors.view_entry alive entry

omit directory faults in
/-- An item at the end of a path has the last name of it, and its folder is at the path before. -/
theorem MirrorsAt.place_of_path {entries : Entries} {visible : Ref → String → Prop}
    {path : List String} (mirrors : MirrorsAt world root rootId entries visible)
    (sole : (world.view root entries).Sole (.stored rootId)) (alive : world.Alive root ref)
    (leads : world.paths root rootId entries (path ++ [name]) = some (world.node ref)) :
    ∃ parent, (world.heap ref).parent = some parent ∧ (world.heap ref).name = name ∧
      world.Alive root parent ∧ world.owns parent name = some ref ∧
      world.paths root rootId entries path = some (world.node parent) := by
  rcases alive.has_owner with rfl | ⟨owner, key, higher, entry⟩
  · have start : world.paths ref rootId entries [] = some (world.node ref) := by
      rw [mirrors.node_root]
      rfl
    exact absurd (sole.resolve_inj leads start) (by simp)
  · obtain ⟨above, split, leads'⟩ := mirrors.parent_path sole higher entry leads
    obtain ⟨rfl, last⟩ := List.append_inj' split rfl
    obtain rfl := List.singleton_inj.mp last
    obtain ⟨named, parented, -⟩ := mirrors.formed.entry owner name ref higher entry
    exact ⟨owner, parented, named, higher, entry, leads'⟩

theorem getItemByPath_leads (path : List Char)
    (mirrors : Mirrors world root rootId (content world.outside)) :
    Outcome (getItemByPath calls root path) world
      (fun item final => Mirrors final root rootId (content final.outside) ∧
        Browsed content world root final ∧ final.Alive root item ∧
        world.paths root rootId (content world.outside) (pathParts path) = some (final.node item))
      (fun exception final => exception.Fault ∨
        Mirrors final root rootId (content final.outside) ∧ Browsed content world root final ∧
        PathFailed final root (world.paths root rootId (content world.outside)) (pathParts path)
          exception) := by
  unfold getItemByPath
  rw [Outcome.ite_iff]
  refine ⟨fun empty => ?_, fun filled => ?_⟩
  · rw [Outcome.pure_iff, pathParts_eq_nil_iff.mpr empty, mirrors.node_root]
    exact ⟨mirrors, .refl content world root, .refl, rfl⟩
  · have some_ := mt pathParts_eq_nil_iff.mp filled
    rw [World.paths, ← mirrors.node_root]
    exact getItemIn_leads directory faults _ some_ world root mirrors .refl mirrors.root_exists

theorem getFileByPath_leads (path : List Char)
    (mirrors : Mirrors world root rootId (content world.outside)) :
    Outcome (getFileByPath calls root path) world
      (fun item final => Mirrors final root rootId (content final.outside) ∧
        Browsed content world root final ∧ final.Alive root item ∧
        world.paths root rootId (content world.outside) (pathParts path) = some (final.node item) ∧
        (final.heap item).kind = .file)
      (fun exception final => exception.Fault ∨
        Mirrors final root rootId (content final.outside) ∧ Browsed content world root final ∧
        PathFailed final root (world.paths root rootId (content world.outside)) (pathParts path)
          exception) := by
  unfold getFileByPath
  rw [Outcome.bind_iff]
  refine (getItemByPath_leads directory faults path mirrors).mono ?_ fun _ _ => id
  rintro item final ⟨mirrors', browsed, alive, leads⟩
  rw [Outcome.bind_iff, Outcome.get_iff, Outcome.ite_iff]
  refine ⟨fun other => ?_, fun file => ⟨mirrors', browsed, alive, leads, not_not.mp file⟩⟩
  refine Or.inr ⟨mirrors', browsed, by simp, by simp, fun _ => ⟨item, leads, alive, ?_⟩⟩
  cases kind : (final.heap item).kind with
  | file => exact absurd kind other
  | folder => rfl

theorem getFolderByPath_leads (path : List Char)
    (mirrors : Mirrors world root rootId (content world.outside)) :
    Outcome (getFolderByPath calls root path) world
      (fun item final => Mirrors final root rootId (content final.outside) ∧
        Browsed content world root final ∧ final.Alive root item ∧
        world.paths root rootId (content world.outside) (pathParts path) = some (final.node item) ∧
        (final.heap item).kind = .folder)
      (fun exception final => exception.Fault ∨
        Mirrors final root rootId (content final.outside) ∧ Browsed content world root final ∧
        PathFailed final root (world.paths root rootId (content world.outside)) (pathParts path)
          exception) := by
  unfold getFolderByPath
  rw [Outcome.bind_iff]
  refine (getItemByPath_leads directory faults path mirrors).mono ?_ fun _ _ => id
  rintro item final ⟨mirrors', browsed, alive, leads⟩
  rw [Outcome.bind_iff, Outcome.get_iff, Outcome.ite_iff]
  refine ⟨fun other => ?_, fun isFolder => ⟨mirrors', browsed, alive, leads, not_not.mp isFolder⟩⟩
  refine Or.inr ⟨mirrors', browsed, by simp, fun _ => ⟨_, item, List.prefix_refl _, leads, alive, ?_⟩,
    by simp⟩
  cases kind : (final.heap item).kind with
  | file => rfl
  | folder => exact absurd kind other

/-- A lookup changes no path, and returns an item of the wanted kind that the path leads to, or
throws what says why it did not. -/
def Follows (content : β → Entries) (rootId : String) (root : Ref)
    (world : World β) (path : List Char) (wanted : Kind → Prop) (lookup : FolderExec β Ref) : Prop :=
  Outcome lookup world
    (fun item final => Mirrors final root rootId (content final.outside) ∧
      final.paths root rootId (content final.outside) =
        world.paths root rootId (content world.outside) ∧
      world.paths root rootId (content world.outside) (pathParts path) = some (final.node item) ∧
      final.Alive root item ∧ wanted (final.heap item).kind)
    (fun exception final => exception.Fault ∨ Mirrors final root rootId (content final.outside) ∧
      final.paths root rootId (content final.outside) =
        world.paths root rootId (content world.outside) ∧
      PathFailed final root (world.paths root rootId (content world.outside)) (pathParts path)
        exception)

theorem getItemByPath_follows (path : List Char)
    (mirrors : Mirrors world root rootId (content world.outside)) :
    Follows content rootId root world path (fun _ => True) (getItemByPath calls root path) := by
  refine (getItemByPath_leads directory faults path mirrors).mono ?_ ?_
  · rintro item final ⟨mirrors', browsed, alive, leads⟩
    exact ⟨mirrors', browsed.paths mirrors.formed, leads, alive, trivial⟩
  · rintro exception final (fault | ⟨mirrors', browsed, failed⟩)
    · exact Or.inl fault
    · exact Or.inr ⟨mirrors', browsed.paths mirrors.formed, failed⟩

theorem getFileByPath_follows (path : List Char)
    (mirrors : Mirrors world root rootId (content world.outside)) :
    Follows content rootId root world path (· = .file) (getFileByPath calls root path) := by
  refine (getFileByPath_leads directory faults path mirrors).mono ?_ ?_
  · rintro item final ⟨mirrors', browsed, alive, leads, file⟩
    exact ⟨mirrors', browsed.paths mirrors.formed, leads, alive, file⟩
  · rintro exception final (fault | ⟨mirrors', browsed, failed⟩)
    · exact Or.inl fault
    · exact Or.inr ⟨mirrors', browsed.paths mirrors.formed, failed⟩

theorem getFolderByPath_follows (path : List Char)
    (mirrors : Mirrors world root rootId (content world.outside)) :
    Follows content rootId root world path (· = .folder) (getFolderByPath calls root path) := by
  refine (getFolderByPath_leads directory faults path mirrors).mono ?_ ?_
  · rintro item final ⟨mirrors', browsed, alive, leads, isFolder⟩
    exact ⟨mirrors', browsed.paths mirrors.formed, leads, alive, isFolder⟩
  · rintro exception final (fault | ⟨mirrors', browsed, failed⟩)
    · exact Or.inl fault
    · exact Or.inr ⟨mirrors', browsed.paths mirrors.formed, failed⟩

omit directory faults in
/-- A tree that was just mounted has the paths of the backend. -/
theorem paths_opened (id : String) (config : Option FSConfig) (outside : β) (entries : Entries)
    (path : List String) :
    (World.opened id config outside).paths 0 rootId entries path =
      (entries.resolve rootId path).map .stored := by
  refine @Owners.resolve_map _ _ entries rootId path _ ((World.opened id config outside).view 0 entries)
    Node.stored fun node key => ?_
  rw [World.view, World.pick_eq_none]
  · cases entries node key <;> rfl
  · rintro ref ⟨folder, -, -, -, entry, -⟩
    cases entry

end Andromeda.Folders
