import Andromeda.Folders.CreationProperties
import Andromeda.Folders.RelocationProperties
import Andromeda.Folders.RemovalProperties
import Andromeda.Fuse.Namespace

/-! Every operation of a mounted tree does to its paths what it is meant to do, whichever folders
were loaded. -/

set_option autoImplicit false

namespace Andromeda.Fuse

open Andromeda.Folders Andromeda.Library
open Text (Component pathText splitPath splitPath_pathText explode_pathText)

variable {β : Type}

section

variable {path : Path}

private theorem Path.pathParts_text (path : Path) : pathParts path.text = path.names := by
  have shape : path.text.dropWhile (· == '/') = (pathText path.components).dropWhile (· == '/') := by
    unfold text
    split
    · next empty =>
        rw [List.isEmpty_iff.mp empty]
        rfl
    · rfl
  rw [pathParts, shape, explode_pathText path.fits, List.map_map]
  rfl

private theorem pathParts_pathText {parents : List Component} (fits : parents.length < sizeMax) :
    pathParts (pathText parents) = parents.map componentName := by
  rw [pathParts, explode_pathText fits, List.map_map]
  rfl

private theorem Path.splitPath_root (empty : path.components = []) :
    splitPath path.text = ([], []) := by
  have root : path.text = ['/'] := by
    unfold text
    rw [empty]
    rfl
  rw [root]
  simp [splitPath, Text.split, Text.explode]

private theorem Path.splitPath_text {parents : List Component} {name : Component}
    (ends : path.components = parents ++ [name]) :
    splitPath path.text = (pathText parents, name.text) ∧ parents.length < sizeMax ∧
      path.names = parents.map componentName ++ [componentName name] := by
  have whole : path.text = pathText (parents ++ [name]) ++ List.replicate 0 '/' := by
    unfold text
    rw [if_neg (by simp [ends]), ends]
    simp
  refine ⟨by rw [whole, splitPath_pathText], ?_, by rw [names, ends, List.map_append]; rfl⟩
  have fits := path.fits
  rw [ends, List.length_append] at fits
  exact Nat.lt_of_le_of_lt (Nat.le_add_right _ _) fits

private theorem Path.names_of_root (empty : path.components = []) : path.names = [] := by
  rw [names, empty, List.map_nil]

private theorem Path.names_of_split {other : Path}
    (parent : (splitPath path.text).1 = (splitPath other.text).1)
    (name : (splitPath path.text).2 = (splitPath other.text).2) : path.names = other.names := by
  rcases List.eq_nil_or_concat path.components with root | ⟨parents, last, ends⟩
  · rcases List.eq_nil_or_concat other.components with root' | ⟨parents', last', ends'⟩
    · rw [names, names, root, root']
    · rw [List.concat_eq_append] at ends'
      rw [path.splitPath_root root, (Path.splitPath_text ends').1] at name
      exact absurd name.symm last'.filled
  · rw [List.concat_eq_append] at ends
    rcases List.eq_nil_or_concat other.components with root' | ⟨parents', last', ends'⟩
    · rw [other.splitPath_root root', (Path.splitPath_text ends).1] at name
      exact absurd name last.filled
    · rw [List.concat_eq_append] at ends'
      rw [(Path.splitPath_text ends).1, (Path.splitPath_text ends').1] at name parent
      obtain rfl : parents = parents' := Text.pathText_injective parent
      obtain rfl : last = last' := Component.ext name
      rw [names, names, ends, ends']

private theorem componentName_injective : Function.Injective componentName := fun _ _ same =>
  Component.ext (String.ofList_injective same)

end

variable {calls : Calls β} {adapter : Adapter β} {content : β → Entries} {rootId : String}
  {world final : World β} {operation : Operation}

private theorem errno_of_check {exception : FolderError} (adapter : Adapter β) (outside : β)
    (check : ¬ exception.Fault) :
    ∃ number, errno (fuseException adapter outside exception) = some number ∧
      (number = .enoent → exception = .item .notFound) := by
  cases exception with
  | notFile => exact ⟨.eisdir, rfl, by simp⟩
  | notFolder => exact ⟨.enotdir, rfl, by simp⟩
  | item error =>
      cases error with
      | json => exact absurd (folderFault (Or.inl rfl)) check
      | backend => exact absurd (folderFault (Or.inr rfl)) check
      | invalidName => exact ⟨.eio, rfl, by simp⟩
      | duplicateItem => exact ⟨.eexist, rfl, by simp⟩
      | notFound => exact ⟨.enoent, rfl, fun _ => rfl⟩
      | readOnlyFS => exact ⟨.erofs, rfl, by simp⟩
      | modify => exact ⟨.enotsup, rfl, by simp⟩
      | nullParent => exact ⟨.enotsup, rfl, by simp⟩

variable (directory : Directory calls rootId content) (faults : calls.Faults)

private theorem failed_lookup {path : Path} {exception : FolderError}
    (unchanged : ∀ number : Errno, (number = .enoent →
        mounted adapter content rootId world path.names = none) →
      mounted adapter content rootId final = mounted adapter content rootId world →
      operation.Effect (mounted adapter content rootId world) (mounted adapter content rootId final)
        (.reply (.failure number)))
    (mirrors : Mounted adapter content rootId world)
    (failed : exception.Fault ∨ Mounted adapter content rootId final ∧
      Browsed content world adapter.rootFolder final ∧ PathFailed final adapter.rootFolder
        (mounted adapter content rootId world) path.names exception) :
    exception.Fault ∨ Mounted adapter content rootId final ∧
      ∀ number, (number = .enoent → exception = .item .notFound) →
        operation.Effect (mounted adapter content rootId world)
          (mounted adapter content rootId final) (.reply (.failure number)) := by
  rcases failed with fault | ⟨mirrors', browsed, failed⟩
  · exact Or.inl fault
  · exact Or.inr ⟨mirrors', fun number reason => unchanged number
      (fun same => (failed.notFound _ (reason same)).2) (browsed.paths mirrors.formed)⟩

include directory faults

private theorem item_found (path : Path) (mirrors : Mounted adapter content rootId world) :
    Outcome (getItemByPath calls adapter.rootFolder path.text) world
      (fun item final => Mounted adapter content rootId final ∧
        Browsed content world adapter.rootFolder final ∧ final.Alive adapter.rootFolder item ∧
        mounted adapter content rootId world path.names = some (final.node item))
      (fun exception final => exception.Fault ∨ Mounted adapter content rootId final ∧
        Browsed content world adapter.rootFolder final ∧ PathFailed final adapter.rootFolder
          (mounted adapter content rootId world) path.names exception) := by
  have found := getItemByPath_leads directory faults path.text mirrors
  rwa [path.pathParts_text] at found

private theorem file_found (path : Path) (mirrors : Mounted adapter content rootId world) :
    Outcome (getFileByPath calls adapter.rootFolder path.text) world
      (fun item final => Mounted adapter content rootId final ∧
        Browsed content world adapter.rootFolder final ∧ final.Alive adapter.rootFolder item ∧
        mounted adapter content rootId world path.names = some (final.node item) ∧
        (final.heap item).kind = .file)
      (fun exception final => exception.Fault ∨ Mounted adapter content rootId final ∧
        Browsed content world adapter.rootFolder final ∧ PathFailed final adapter.rootFolder
          (mounted adapter content rootId world) path.names exception) := by
  have found := getFileByPath_leads directory faults path.text mirrors
  rwa [path.pathParts_text] at found

private theorem folder_found (path : Path) (mirrors : Mounted adapter content rootId world) :
    Outcome (getFolderByPath calls adapter.rootFolder path.text) world
      (fun item final => Mounted adapter content rootId final ∧
        Browsed content world adapter.rootFolder final ∧ final.Alive adapter.rootFolder item ∧
        mounted adapter content rootId world path.names = some (final.node item) ∧
        (final.heap item).kind = .folder)
      (fun exception final => exception.Fault ∨ Mounted adapter content rootId final ∧
        Browsed content world adapter.rootFolder final ∧ PathFailed final adapter.rootFolder
          (mounted adapter content rootId world) path.names exception) := by
  have found := getFolderByPath_leads directory faults path.text mirrors
  rwa [path.pathParts_text] at found

private theorem parent_found (parents : Path) (mirrors : Mounted adapter content rootId world) :
    Outcome (getFolderByPath calls adapter.rootFolder (pathText parents.components)) world
      (fun item final => Mounted adapter content rootId final ∧
        Browsed content world adapter.rootFolder final ∧ final.Alive adapter.rootFolder item ∧
        mounted adapter content rootId world parents.names = some (final.node item) ∧
        (final.heap item).kind = .folder)
      (fun exception final => exception.Fault ∨ Mounted adapter content rootId final ∧
        Browsed content world adapter.rootFolder final ∧ PathFailed final adapter.rootFolder
          (mounted adapter content rootId world) parents.names exception) := by
  have found := getFolderByPath_leads directory faults (pathText parents.components) mirrors
  rwa [pathParts_pathText parents.fits] at found

private theorem getattr_works (path : Path) (mirrors : Mounted adapter content rootId world) :
    (Operation.getattr path).Works calls adapter content rootId world := by
  unfold Operation.Works
  change Outcome (getattr calls adapter path.text) _ _ _
  unfold getattr
  rw [Outcome.bind_iff]
  refine (item_found directory faults path mirrors).mono ?_ fun exception final failed =>
    failed_lookup (fun number absent same => ?_) mirrors failed
  · rintro item final ⟨mirrors', browsed, -, leads⟩
    rw [Outcome.bind_iff, Outcome.get_iff, Outcome.pure_iff]
    exact ⟨mirrors', browsed.paths mirrors.formed, Option.isSome_iff_exists.mpr ⟨_, leads⟩⟩
  · cases number with
    | enoent => exact ⟨same, absent rfl⟩
    | _ => exact same

private theorem openFile_works (path : Path) (writing : Bool)
    (mirrors : Mounted adapter content rootId world) :
    (Operation.openFile path writing).Works calls adapter content rootId world := by
  unfold Operation.Works
  change Outcome (openFile calls adapter path.text writing) _ _ _
  unfold openFile
  rw [Outcome.bind_iff]
  refine (file_found directory faults path mirrors).mono ?_ fun exception final failed =>
    failed_lookup (fun number absent same => same) mirrors failed
  rintro item final ⟨mirrors', browsed, -⟩
  rw [Outcome.bind_iff, Outcome.get_iff, Outcome.ite_iff]
  exact ⟨fun _ => ⟨mirrors', browsed.paths mirrors.formed⟩,
    fun _ => ⟨mirrors', browsed.paths mirrors.formed⟩⟩

private theorem opendir_works (path : Path) (writing : Bool)
    (mirrors : Mounted adapter content rootId world) :
    (Operation.opendir path writing).Works calls adapter content rootId world := by
  unfold Operation.Works
  change Outcome (opendir calls adapter path.text writing) _ _ _
  unfold opendir
  rw [Outcome.bind_iff]
  refine (folder_found directory faults path mirrors).mono ?_ fun exception final failed =>
    failed_lookup (fun number absent same => same) mirrors failed
  rintro item final ⟨mirrors', browsed, -⟩
  rw [Outcome.bind_iff, Outcome.get_iff, Outcome.ite_iff]
  exact ⟨fun _ => ⟨mirrors', browsed.paths mirrors.formed⟩,
    fun _ => ⟨mirrors', browsed.paths mirrors.formed⟩⟩

private theorem ignoreChange_works (fake : Bool) (path : Path)
    (mirrors : Mounted adapter content rootId world) :
    Outcome (ignoreChange calls adapter fake path.text) world
      (fun _ final => Mounted adapter content rootId final ∧
        mounted adapter content rootId final = mounted adapter content rootId world)
      (fun exception final => exception.Fault ∨ Mounted adapter content rootId final ∧
        mounted adapter content rootId final = mounted adapter content rootId world) := by
  unfold ignoreChange
  rw [Outcome.ite_iff]
  refine ⟨fun _ => ⟨mirrors, rfl⟩, fun _ => ?_⟩
  rw [Outcome.bind_iff]
  refine (item_found directory faults path mirrors).mono ?_ ?_
  · exact fun _ final found => ⟨found.1, found.2.1.paths mirrors.formed⟩
  · rintro exception final (fault | ⟨mirrors', browsed, -⟩)
    · exact Or.inl fault
    · exact Or.inr ⟨mirrors', browsed.paths mirrors.formed⟩

private theorem chmod_works (path : Path) (mirrors : Mounted adapter content rootId world) :
    (Operation.chmod path).Works calls adapter content rootId world :=
  (ignoreChange_works directory faults adapter.fakeChmod path mirrors).mono
    (fun _ _ => id) fun _ _ => Or.imp_right fun kept => ⟨kept.1, fun _ _ => kept.2⟩

private theorem chown_works (path : Path) (mirrors : Mounted adapter content rootId world) :
    (Operation.chown path).Works calls adapter content rootId world :=
  (ignoreChange_works directory faults adapter.fakeChown path mirrors).mono
    (fun _ _ => id) fun _ _ => Or.imp_right fun kept => ⟨kept.1, fun _ _ => kept.2⟩

private theorem readdir_works (path : Path) (mirrors : Mounted adapter content rootId world) :
    (Operation.readdir path).Works calls adapter content rootId world := by
  unfold Operation.Works
  change Outcome (readdir calls adapter path.text) _ _ _
  unfold readdir
  rw [Outcome.bind_iff]
  refine (folder_found directory faults path mirrors).mono ?_ fun exception final failed =>
    failed_lookup (fun number absent same => same) mirrors failed
  rintro parent middle ⟨mirrors', browsed, alive, leads, kind⟩
  rw [Outcome.bind_iff, onItems_iff]
  unfold getItems
  rw [Outcome.bind_iff]
  refine (loadItems_browsed directory faults true mirrors' alive (isPending_of_folder kind)).mono ?_
    fun _ _ fault => Or.inl (folderFault fault)
  rintro _ final ⟨mirrors'', shown, browsed'⟩
  have both := browsed.trans browsed'
  have alive' := browsed'.kept.alive mirrors'.formed alive
  rw [Outcome.bind_iff, getItem_iff, Outcome.pure_iff, Outcome.bind_iff, Outcome.get_iff,
    Outcome.pure_iff]
  have here : mounted adapter content rootId world path.names = some (final.node parent) := by
    rw [leads, browsed'.node (mirrors'.formed.made alive)]
  refine ⟨mirrors'', both.paths mirrors.formed, Option.isSome_iff_exists.mpr ⟨_, leads⟩, fun name => ?_⟩
  have below : mounted adapter content rootId world (path.names ++ [name]) =
      (final.owns parent name).map final.node := by
    unfold mounted World.paths
    rw [Owners.resolve_snoc]
    unfold mounted World.paths at here
    rw [here, Option.bind_some, ← both.view mirrors.formed]
    exact mirrors''.view_loaded alive' shown
  have listed : name ∈ (final.heap parent).items.entries.map (fun entry =>
      (final.heap entry.2).name) ↔ ∃ item, final.owns parent name = some item := by
    simp only [List.mem_map, Prod.exists]
    constructor
    · rintro ⟨key, item, member, rfl⟩
      have owned : final.owns parent key = some item := KeyMap.find?_eq_some_iff.mpr member
      exact ⟨item, by rw [(mirrors''.formed.entry parent key item alive' owned).1, owned]⟩
    · rintro ⟨item, owned⟩
      exact ⟨name, item, KeyMap.find?_eq_some_iff.mp owned,
        (mirrors''.formed.entry parent name item alive' owned).1⟩
  rw [List.mem_append, listed, below, Option.isSome_map, Option.isSome_iff_exists]
  simp only [List.mem_cons, List.not_mem_nil, or_false]
  rw [or_comm, or_assoc]

private theorem creation_works {subCreate : Ref → String → Exec β Unit}
    (creates : ∀ folder name (middle : World β), Mounted adapter content rootId middle →
      middle.Alive adapter.rootFolder folder → (middle.heap folder).haveItems = true →
      middle.owns folder name = none →
      Outcome (subCreate folder name) middle
        (fun _ final => AddsName content rootId middle adapter.rootFolder folder name final)
        (fun exception final => exception.Fault ∨ final = middle))
    (path : Path) (body : operation.body calls adapter = do
      let parent ← getFolderByPath calls adapter.rootFolder (splitPath path.text).1
      onItems (createItem calls subCreate parent (String.ofList (splitPath path.text).2))
      return .success)
    (added : ∀ before after node, PathAdded before after path.names node →
      operation.Effect before after .success)
    (refused : ∀ before number, operation.Effect before before (.reply (.failure number)))
    (mirrors : Mounted adapter content rootId world) :
    operation.Works calls adapter content rootId world := by
  have unchanged : ∀ final number, mounted adapter content rootId final =
      mounted adapter content rootId world → operation.Effect (mounted adapter content rootId world)
        (mounted adapter content rootId final) (.reply (.failure number)) := by
    intro final number same
    rw [same]
    exact refused _ number
  unfold Operation.Works
  rw [body]
  rcases List.eq_nil_or_concat path.components with empty | ⟨parents, name, ends⟩
  · rw [path.splitPath_root empty, Outcome.bind_iff]
    refine (parent_found directory faults ⟨[], by decide⟩ mirrors).mono ?_ ?_
    · rintro folder middle ⟨mirrors', browsed, alive, -, kind⟩
      rw [Outcome.bind_iff, onItems_iff]
      refine (createItem_unnamed directory faults mirrors' alive (isPending_of_folder kind)).mono
        (fun _ _ => False.elim) ?_
      rintro exception final (fault | ⟨mirrors'', browsed'⟩)
      · exact Or.inl (folderFault fault)
      · exact Or.inr ⟨mirrors'', fun number _ =>
          unchanged final number ((browsed.trans browsed').paths mirrors.formed)⟩
    · rintro exception final (fault | ⟨mirrors', browsed, -⟩)
      · exact Or.inl fault
      · exact Or.inr ⟨mirrors', fun number _ =>
          unchanged final number (browsed.paths mirrors.formed)⟩
  · rw [List.concat_eq_append] at ends
    obtain ⟨split, fits, names⟩ := Path.splitPath_text ends
    rw [split, Outcome.bind_iff]
    refine (parent_found directory faults ⟨parents, fits⟩ mirrors).mono ?_ ?_
    · rintro folder middle ⟨mirrors', browsed, alive, leads, kind⟩
      rw [Outcome.bind_iff, onItems_iff]
      refine (createItem_addsName directory faults (creates folder _) mirrors' alive
        (isPending_of_folder kind)).mono ?_ ?_
      · rintro _ final ⟨mirrors'', adds⟩
        rw [Outcome.pure_iff]
        have same : middle.paths adapter.rootFolder rootId (content middle.outside) =
            world.paths adapter.rootFolder rootId (content world.outside) :=
          browsed.paths mirrors.formed
        unfold mounted at leads
        rw [← same] at leads
        obtain ⟨node, new⟩ := adds _ leads
        rw [same] at new
        refine ⟨mirrors'', added _ _ node ?_⟩
        rw [names]
        exact new
      · rintro exception final (fault | ⟨mirrors'', browsed'⟩)
        · exact Or.inl (folderFault fault)
        · exact Or.inr ⟨mirrors'', fun number _ =>
            unchanged final number ((browsed.trans browsed').paths mirrors.formed)⟩
    · rintro exception final (fault | ⟨mirrors', browsed, -⟩)
      · exact Or.inl fault
      · exact Or.inr ⟨mirrors', fun number _ =>
          unchanged final number (browsed.paths mirrors.formed)⟩

private theorem create_works (path : Path) (mirrors : Mounted adapter content rootId world) :
    (Operation.create path).Works calls adapter content rootId world :=
  creation_works directory faults (fun _ _ _ mirrors' alive loaded free =>
    subCreateFile_addsName directory faults mirrors' alive loaded free) path rfl
    (fun _ _ node new => ⟨node, new⟩) (fun _ _ => rfl) mirrors

private theorem mkdir_works (path : Path) (mirrors : Mounted adapter content rootId world) :
    (Operation.mkdir path).Works calls adapter content rootId world :=
  creation_works directory faults (fun _ _ _ mirrors' alive loaded free =>
    subCreateFolder_addsName directory faults mirrors' alive loaded free) path rfl
    (fun _ _ node new => ⟨node, new⟩) (fun _ _ => rfl) mirrors

private theorem unlink_works (path : Path) (mirrors : Mounted adapter content rootId world) :
    (Operation.unlink path).Works calls adapter content rootId world := by
  unfold Operation.Works
  change Outcome (unlink calls adapter path.text) _ _ _
  unfold unlink
  rw [Outcome.bind_iff]
  refine (file_found directory faults path mirrors).mono ?_ fun exception final failed =>
    failed_lookup (fun number absent same => same) mirrors failed
  rintro file middle ⟨mirrors', browsed, alive, leads, -⟩
  have same : middle.paths adapter.rootFolder rootId (content middle.outside) =
      world.paths adapter.rootFolder rootId (content world.outside) :=
    browsed.paths mirrors.formed
  unfold mounted at leads
  rw [← same] at leads
  rw [Outcome.bind_iff, onItems_iff]
  refine (delete_removesName directory faults mirrors' alive leads).mono ?_ ?_
  · rintro _ final ⟨mirrors'', removed⟩
    rw [same] at removed
    exact ⟨mirrors'', removed⟩
  · rintro exception final (fault | ⟨mirrors'', browsed'⟩)
    · exact Or.inl (folderFault fault)
    · exact Or.inr ⟨mirrors'', fun _ _ => (browsed.trans browsed').paths mirrors.formed⟩

private theorem rmdir_works (path : Path) (mirrors : Mounted adapter content rootId world) :
    (Operation.rmdir path).Works calls adapter content rootId world := by
  unfold Operation.Works
  change Outcome (rmdir calls adapter path.text) _ _ _
  unfold rmdir
  rw [Outcome.bind_iff]
  refine (folder_found directory faults path mirrors).mono ?_ fun exception final failed =>
    failed_lookup (fun number absent same => same) mirrors failed
  rintro folder first ⟨mirrors', browsed, alive, leads, kind⟩
  rw [Outcome.bind_iff, onItems_iff]
  unfold countItems
  rw [Outcome.bind_iff]
  refine (loadItems_browsed directory faults true mirrors' alive (isPending_of_folder kind)).mono ?_
    fun _ _ fault => Or.inl (folderFault fault)
  rintro _ middle ⟨mirrors'', shown, browsed'⟩
  have both := browsed.trans browsed'
  have alive' := browsed'.kept.alive mirrors'.formed alive
  have same : middle.paths adapter.rootFolder rootId (content middle.outside) =
      world.paths adapter.rootFolder rootId (content world.outside) :=
    both.paths mirrors.formed
  rw [← browsed'.node (mirrors'.formed.made alive)] at leads
  unfold mounted at leads
  rw [← same] at leads
  rw [Outcome.bind_iff, getItem_iff, Outcome.pure_iff, Outcome.ite_iff]
  refine ⟨fun _ => ⟨mirrors'', same⟩, fun none_ => ?_⟩
  have empty : ∀ name, middle.owns folder name = none := by
    intro name
    rw [World.owns, KeyMap.find?_eq_none_iff, List.length_eq_zero_iff.mp (not_not.mp none_)]
    exact fun _ => List.not_mem_nil
  rw [Outcome.bind_iff, onItems_iff]
  refine (delete_removesName directory faults mirrors'' alive' leads).mono ?_ ?_
  · rintro _ final ⟨mirrored, removed⟩
    rw [same] at removed
    refine ⟨mirrored, removed, fun name => ?_⟩
    rw [mounted, ← same, World.paths, Owners.resolve_snoc]
    unfold World.paths at leads
    rw [leads, Option.bind_some, mirrors''.view_loaded alive' shown, empty, Option.map_none]
  · rintro exception final (fault | ⟨mirrored, browsed''⟩)
    · exact Or.inl (folderFault fault)
    · exact Or.inr ⟨mirrored, fun _ _ => (both.trans browsed'').paths mirrors.formed⟩

private theorem flush_works (path : Path) (mirrors : Mounted adapter content rootId world) :
    (Operation.flush path).Works calls adapter content rootId world := by
  unfold Operation.Works
  change Outcome (flush calls adapter path.text) _ _ _
  unfold flush
  rw [Outcome.bind_iff]
  refine (file_found directory faults path mirrors).mono ?_ fun exception final failed =>
    failed_lookup (fun number absent same => same) mirrors failed
  rintro file middle ⟨mirrors', browsed, alive, leads, kind⟩
  rw [Outcome.bind_iff, onItems_iff]
  refine (flushCache_settled directory faults mirrors' alive kind).mono ?_
    fun _ _ fault => Or.inl (folderFault fault)
  rintro _ final ⟨mirrors'', -, settled⟩
  rw [browsed.paths mirrors.formed] at settled
  exact ⟨mirrors'', _, leads, settled⟩

private theorem renamed_in_place (old new : Path) {parents : List Component}
    {oldName newName : Component}
    (oldEnds : old.components = parents ++ [oldName])
    (newEnds : new.components = parents ++ [newName]) (different : oldName.text ≠ newName.text)
    (clear : (Operation.rename old new).Clear (mounted adapter content rootId world))
    (mirrors : Mounted adapter content rootId world) :
    Outcome (do
        let item ← getItemByPath calls adapter.rootFolder old.text
        onItems (Folders.rename calls item (componentName newName) true)) world
      (fun _ final => Mounted adapter content rootId final ∧ ∃ node,
        mounted adapter content rootId world old.names = some node ∧
          PathMoved (mounted adapter content rootId world) (mounted adapter content rootId final)
            old.names new.names)
      (fun exception final => exception.Fault ∨ Mounted adapter content rootId final ∧
        mounted adapter content rootId final = mounted adapter content rootId world) := by
  obtain ⟨-, -, oldNames⟩ := Path.splitPath_text oldEnds
  obtain ⟨-, -, newNames⟩ := Path.splitPath_text newEnds
  rw [Outcome.bind_iff]
  refine (item_found directory faults old mirrors).mono ?_ ?_
  · rintro item middle ⟨mirrors', browsed, alive, leads⟩
    have same : middle.paths adapter.rootFolder rootId (content middle.outside) =
        world.paths adapter.rootFolder rootId (content world.outside) :=
      browsed.paths mirrors.formed
    have leads' := leads
    rw [mounted, ← same, oldNames] at leads'
    rw [onItems_iff]
    refine (rename_movesPath directory faults mirrors' alive leads'
      (fun equal => different (congrArg Component.text (componentName_injective equal)).symm)
      fun waiting id shown => ?_).mono ?_ ?_
    · rw [World.node_of_pending waiting] at leads
      rw [same] at shown
      refine clear ?_ item leads id (newNames ▸ shown)
      rw [oldNames, newNames, List.dropLast_concat, List.dropLast_concat]
    · rintro _ final ⟨mirrors'', moved⟩
      rw [same, ← oldNames, ← newNames] at moved
      exact ⟨mirrors'', _, leads, moved⟩
    · rintro exception final (fault | ⟨mirrors'', browsed'⟩)
      · exact Or.inl (folderFault fault)
      · exact Or.inr ⟨mirrors'', (browsed.trans browsed').paths mirrors.formed⟩
  · rintro exception final (fault | ⟨mirrors', browsed, -⟩)
    · exact Or.inl fault
    · exact Or.inr ⟨mirrors', browsed.paths mirrors.formed⟩

private theorem moved_elsewhere (old parents : Path) {oldParents : List Component}
    {name : Component}
    (oldEnds : old.components = oldParents ++ [name])
    (different : oldParents ≠ parents.components)
    (mirrors : Mounted adapter content rootId world) :
    Outcome (do
        let parent ← getFolderByPath calls adapter.rootFolder (pathText parents.components)
        let item ← getItemByPath calls adapter.rootFolder old.text
        onItems (move calls item parent true)) world
      (fun _ final => Mounted adapter content rootId final ∧ ∃ node middle,
        mounted adapter content rootId world old.names = some node ∧
          Settled (mounted adapter content rootId world) middle node ∧
          PathMoved middle (mounted adapter content rootId final) old.names
            (parents.names ++ [componentName name]))
      (fun exception final => exception.Fault ∨ Mounted adapter content rootId final ∧
        mounted adapter content rootId final = mounted adapter content rootId world) := by
  obtain ⟨-, -, oldNames⟩ := Path.splitPath_text oldEnds
  have elsewhere : oldParents.map componentName ≠ parents.names := fun same =>
    different (List.map_injective_iff.mpr componentName_injective same)
  rw [Outcome.bind_iff]
  refine (parent_found directory faults parents mirrors).mono ?_ ?_
  · rintro parent first ⟨mirrors', browsed, alive', leads', kind⟩
    rw [Outcome.bind_iff]
    have same : first.paths adapter.rootFolder rootId (content first.outside) =
        world.paths adapter.rootFolder rootId (content world.outside) :=
      browsed.paths mirrors.formed
    refine (item_found directory faults old mirrors').mono ?_ ?_
    · rintro item middle ⟨mirrors'', browsed', alive, leads⟩
      have both := browsed.trans browsed'
      have same' : middle.paths adapter.rootFolder rootId (content middle.outside) =
          world.paths adapter.rootFolder rootId (content world.outside) :=
        both.paths mirrors.formed
      have made := mirrors'.formed.made alive'
      rw [mounted, same] at leads
      have source := leads
      rw [← same', oldNames] at source
      rw [mounted, ← same', ← browsed'.node made] at leads'
      have exist := (browsed'.kept.isPending parent made).trans (isPending_of_folder kind)
      rw [onItems_iff]
      refine (move_movesPath directory faults mirrors'' alive
        (browsed'.kept.alive mirrors'.formed alive') exist source leads' elsewhere).mono ?_ ?_
      · rintro _ final ⟨mirrored, settled, created, moved⟩
        rw [same'] at created
        rw [← oldNames] at moved
        exact ⟨mirrored, _, settled, leads, created, moved⟩
      · rintro exception final (fault | ⟨mirrored, browsed''⟩)
        · exact Or.inl (folderFault fault)
        · exact Or.inr ⟨mirrored, (both.trans browsed'').paths mirrors.formed⟩
    · rintro exception final (fault | ⟨mirrors'', browsed', -⟩)
      · exact Or.inl fault
      · exact Or.inr ⟨mirrors'', (browsed.trans browsed').paths mirrors.formed⟩
  · rintro exception final (fault | ⟨mirrors', browsed, -⟩)
    · exact Or.inl fault
    · exact Or.inr ⟨mirrors', browsed.paths mirrors.formed⟩

private theorem renamed_root (old : Path) (newName : String)
    (root : old.names = [] ∨ newName = "" ∧ ∃ parents name, old.components = parents ++ [name])
    (mirrors : Mounted adapter content rootId world) :
    Outcome (do
        let item ← getItemByPath calls adapter.rootFolder old.text
        onItems (Folders.rename calls item newName true)) world
      (fun _ final => Mounted adapter content rootId final ∧ old.names = [] ∧
        mounted adapter content rootId final = mounted adapter content rootId world)
      (fun exception final => exception.Fault ∨ Mounted adapter content rootId final ∧
        mounted adapter content rootId final = mounted adapter content rootId world) := by
  have sole := fun middle (mirrors' : Mounted adapter content rootId middle) =>
    mirrors'.view_sole directory
  rw [Outcome.bind_iff]
  refine (item_found directory faults old mirrors).mono ?_ ?_
  · rintro item middle ⟨mirrors', browsed, alive, leads⟩
    have same : middle.paths adapter.rootFolder rootId (content middle.outside) =
        world.paths adapter.rootFolder rootId (content world.outside) :=
      browsed.paths mirrors.formed
    rw [mounted, ← same] at leads
    rw [onItems_iff]
    rcases root with noNames | ⟨rfl, parents, name, ends⟩
    · have isRoot : item = adapter.rootFolder := by
        rw [noNames] at leads
        have below := mirrors'.under_of_view directory alive .refl mirrors'.root_exists
        have node : middle.node item = .stored rootId := (Option.some_inj.mp leads).symm
        rw [node, mirrors'.node_root] at below
        exact mirrors'.formed.sole.root_above alive (below .refl)
      subst isRoot
      refine (rename_root mirrors').mono ?_ ?_
      · rintro _ final rfl
        exact ⟨mirrors', noNames, same⟩
      · rintro exception final rfl
        exact Or.inr ⟨mirrors', same⟩
    · obtain ⟨-, -, oldNames⟩ := Path.splitPath_text ends
      rw [oldNames] at leads
      obtain ⟨-, -, named, -⟩ := mirrors'.place_of_path (sole middle mirrors') alive leads
      have filled : (middle.heap item).name ≠ "" := by
        rw [named]
        intro empty
        exact name.filled (String.ofList_injective empty)
      refine (rename_unnamed directory faults mirrors' alive filled).mono
        (fun _ _ => False.elim) ?_
      rintro exception final (fault | ⟨mirrors'', browsed'⟩)
      · exact Or.inl (folderFault fault)
      · exact Or.inr ⟨mirrors'', (browsed.trans browsed').paths mirrors.formed⟩
  · rintro exception final (fault | ⟨mirrors', browsed, -⟩)
    · exact Or.inl fault
    · exact Or.inr ⟨mirrors', browsed.paths mirrors.formed⟩

private theorem rename_works (old new : Path)
    (clear : (Operation.rename old new).Clear (mounted adapter content rootId world))
    (mirrors : Mounted adapter content rootId world) :
    (Operation.rename old new).Works calls adapter content rootId world := by
  unfold Operation.Works
  change Outcome (rename calls adapter old.text new.text) _ _ _
  unfold rename
  simp only
  have threw : ∀ (exception : FolderError) final, (exception.Fault ∨
      Mounted adapter content rootId final ∧
        mounted adapter content rootId final = mounted adapter content rootId world) →
      exception.Fault ∨ Mounted adapter content rootId final ∧
        ∀ number, (number = .enoent → exception = .item .notFound) →
          (Operation.rename old new).Effect (mounted adapter content rootId world)
            (mounted adapter content rootId final) (.reply (.failure number)) :=
    fun _ _ => Or.imp_right fun kept => ⟨kept.1, fun _ _ => kept.2⟩
  rw [Outcome.ite_iff]
  refine ⟨fun _ => ⟨mirrors, rfl⟩, fun notBoth => ?_⟩
  rw [Outcome.ite_iff]
  refine ⟨fun parentsDiffer => ?_, fun sameParent => ?_⟩
  · have sameName := not_not.mp fun differ => notBoth ⟨parentsDiffer, differ⟩
    rw [Outcome.ite_iff]
    refine ⟨fun _ => ⟨mirrors, rfl⟩, fun _ => ?_⟩
    rcases List.eq_nil_or_concat old.components with oldRoot | ⟨oldParents, name, oldEnds⟩
    · -- the last name of the root is empty, and its parent as well
      exfalso
      rw [old.splitPath_root oldRoot] at parentsDiffer sameName
      rcases List.eq_nil_or_concat new.components with newRoot | ⟨newParents, newName, newEnds⟩
      · rw [new.splitPath_root newRoot] at parentsDiffer
        exact parentsDiffer rfl
      · rw [List.concat_eq_append] at newEnds
        rw [(Path.splitPath_text newEnds).1] at sameName
        exact newName.filled sameName.symm
    rw [List.concat_eq_append] at oldEnds
    have oldSplit := (Path.splitPath_text oldEnds).1
    rw [oldSplit] at parentsDiffer sameName
    rcases List.eq_nil_or_concat new.components with newRoot | ⟨newParents, newName, newEnds⟩
    · rw [new.splitPath_root newRoot] at sameName
      exact absurd sameName name.filled
    rw [List.concat_eq_append] at newEnds
    obtain ⟨newSplit, fits, newNames⟩ := Path.splitPath_text newEnds
    rw [newSplit] at parentsDiffer sameName ⊢
    obtain rfl : name = newName := Component.ext sameName
    have different : oldParents ≠ newParents := fun same => parentsDiffer (by rw [same])
    have moved := moved_elsewhere directory faults old ⟨newParents, fits⟩ oldEnds different mirrors
    simp only [Outcome.bind_iff] at moved ⊢
    refine moved.mono (fun parent first found => found.mono (fun item middle leads =>
      leads.mono ?_ threw) threw) threw
    rintro _ final ⟨mirrors', node, created, was, settled, moves⟩
    exact ⟨mirrors', Or.inr ⟨node, created, was, settled, by rw [newNames]; exact moves⟩⟩
  · rw [not_not] at sameParent
    rw [Outcome.ite_iff]
    refine ⟨fun namesDiffer => ?_, fun sameName => ?_⟩
    · rcases List.eq_nil_or_concat old.components with oldRoot | ⟨oldParents, name, oldEnds⟩
      · have root := renamed_root directory faults old (String.ofList (splitPath new.text).2)
          (Or.inl (old.names_of_root oldRoot)) mirrors
        rw [Outcome.bind_iff] at root ⊢
        refine root.mono (fun item middle found => ?_) threw
        rw [Outcome.bind_iff]
        exact found.mono (fun _ _ kept => ⟨kept.1, Or.inl ⟨Or.inr kept.2.1, kept.2.2⟩⟩) threw
      rw [List.concat_eq_append] at oldEnds
      have oldSplit := (Path.splitPath_text oldEnds).1
      rcases List.eq_nil_or_concat new.components with newRoot | ⟨newParents, newName, newEnds⟩
      · rw [new.splitPath_root newRoot]
        have root := renamed_root directory faults old "" (Or.inr ⟨rfl, oldParents, name, oldEnds⟩)
          mirrors
        rw [Outcome.bind_iff] at root ⊢
        refine root.mono (fun item middle found => ?_) threw
        rw [Outcome.bind_iff]
        exact found.mono (fun _ _ kept => ⟨kept.1, Or.inl ⟨Or.inr kept.2.1, kept.2.2⟩⟩) threw
      rw [List.concat_eq_append] at newEnds
      have newSplit := (Path.splitPath_text newEnds).1
      rw [oldSplit, newSplit] at sameParent namesDiffer
      obtain rfl : oldParents = newParents := Text.pathText_injective sameParent
      have moved := renamed_in_place directory faults old new oldEnds newEnds namesDiffer clear mirrors
      rw [newSplit]
      rw [Outcome.bind_iff] at moved ⊢
      refine moved.mono (fun item middle found => ?_) threw
      rw [Outcome.bind_iff]
      refine found.mono ?_ threw
      rintro _ final ⟨mirrors', node, was, moves⟩
      exact ⟨mirrors', Or.inr ⟨node, _, was, Or.inl rfl, moves⟩⟩
    · exact ⟨mirrors, Or.inl ⟨Or.inl (Path.names_of_split sameParent (not_not.mp sameName)), rfl⟩⟩

private theorem operation_works (operation : Operation)
    (clear : operation.Clear (mounted adapter content rootId world))
    (mirrors : Mounted adapter content rootId world) :
    operation.Works calls adapter content rootId world := by
  cases operation with
  | getattr path => exact getattr_works directory faults path mirrors
  | openFile path writing => exact openFile_works directory faults path writing mirrors
  | opendir path writing => exact opendir_works directory faults path writing mirrors
  | readdir path => exact readdir_works directory faults path mirrors
  | create path => exact create_works directory faults path mirrors
  | mkdir path => exact mkdir_works directory faults path mirrors
  | unlink path => exact unlink_works directory faults path mirrors
  | rmdir path => exact rmdir_works directory faults path mirrors
  | rename old new => exact rename_works directory faults old new clear mirrors
  | flush path => exact flush_works directory faults path mirrors
  | chmod path => exact chmod_works directory faults path mirrors
  | chown path => exact chown_works directory faults path mirrors

/-- An operation to which the backend has answered returns, with its effect. -/
theorem run_works (operation : Operation) (answered : operation.Answered calls adapter world)
    (clear : operation.Clear (mounted adapter content rootId world))
    (mirrors : Mounted adapter content rootId world) :
    Outcome (operation.run calls adapter) world
      (fun answer final => Mounted adapter content rootId final ∧
        operation.Effect (mounted adapter content rootId world) (mounted adapter content rootId final)
          answer)
      (fun _ _ => False) := by
  have works := operation_works directory faults operation clear mirrors
  unfold Operation.Works at works
  unfold Operation.Answered at answered
  cases result : operation.body calls adapter world with
  | ok answer final =>
      have ran : operation.run calls adapter world = .ok answer final := by
        simp only [Operation.run, catchAnswer, result]
      rw [Outcome, ran]
      exact works.of_ok result
  | error exception final =>
      rw [result] at answered
      have check : ¬ exception.Fault := answered
      obtain ⟨mirrors', effect⟩ := (works.of_error result).resolve_left check
      obtain ⟨number, told, reason⟩ := errno_of_check adapter final.outside check
      have ran : operation.run calls adapter world = .ok (.reply (.failure number)) final := by
        simp only [Operation.run, catchAnswer, result, told]
      rw [Outcome, ran]
      exact ⟨mirrors', effect number reason⟩

end Andromeda.Fuse
