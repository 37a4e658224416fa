import Andromeda.Folders.ListingProperties
import Andromeda.Folders.DirectoryProperties
import Andromeda.Library.Paths

/-! The names that a mounted tree has: those of the backend, and those of the files that are not
created on it yet. Which folders were loaded makes no difference. -/

set_option autoImplicit false

namespace Andromeda.Folders

open Andromeda.Library

variable {β : Type}

/-- What a name stands for. -/
inductive Node where
  | stored (id : String)
  /-- A file that the backend does not have yet. -/
  | awaited (ref : Ref)
  deriving DecidableEq

namespace World

/-- What an item is under its name. -/
def node (world : World β) (ref : Ref) : Node :=
  if (world.heap ref).isPending then .awaited ref else .stored (world.heap ref).id

/-- A file that is to be created in the folder of an ID. -/
def Awaits (world : World β) (root : Ref) (id name : String) (ref : Ref) : Prop :=
  ∃ folder, world.Alive root folder ∧ (world.heap folder).isPending = false ∧
    (world.heap folder).id = id ∧ world.owns folder name = some ref ∧
    (world.heap ref).isPending = true

open Classical in
/-- The file, if there is one. -/
noncomputable def pick (awaits : Ref → Prop) : Option Ref :=
  if some_ : ∃ ref, awaits ref then some some_.choose else none

/-- The names in each folder. -/
noncomputable def view (world : World β) (root : Ref) (entries : Entries) : Owners Node String
  | .stored id, name =>
    match entries id name with
    | some child => some (.stored child)
    | none => (pick (world.Awaits root id name)).map .awaited
  | .awaited _, _ => none

/-- What the paths of the mounted tree lead to. -/
noncomputable def paths (world : World β) (root : Ref) (rootId : String) (entries : Entries) :
    List String → Option Node :=
  (world.view root entries).resolve (.stored rootId)

end World

variable {world middle final : World β} {root folder ref : Ref} {entries entries' : Entries}
  {visible : Ref → String → Prop} {name rootId : String}

private theorem World.pick_eq_some {awaits : Ref → Prop} (found : pick awaits = some ref) :
    awaits ref := by
  unfold pick at found
  split at found
  · next some_ =>
      cases found
      exact some_.choose_spec
  · cases found

theorem World.pick_eq_none {awaits : Ref → Prop} (none_ : ∀ ref, ¬ awaits ref) :
    pick awaits = none := dif_neg fun ⟨ref, waits⟩ => none_ ref waits

private theorem World.pick_unique {awaits : Ref → Prop} (waits : awaits ref)
    (unique : ∀ other, awaits other → other = ref) : pick awaits = some ref := by
  have some_ : ∃ ref, awaits ref := ⟨ref, waits⟩
  rw [pick, dif_pos some_, unique _ some_.choose_spec]

@[simp] theorem World.view_awaited : world.view root entries (.awaited ref) name = none := rfl

theorem World.view_of_entry {id child : String} (entry : entries id name = some child) :
    world.view root entries (.stored id) name = some (.stored child) := by
  rw [view, entry]

theorem World.node_of_exists (exist : (world.heap ref).isPending = false) :
    world.node ref = .stored (world.heap ref).id := by
  rw [node, exist, if_neg Bool.false_ne_true]

theorem World.node_of_pending (waiting : (world.heap ref).isPending = true) :
    world.node ref = .awaited ref := by
  rw [node, if_pos waiting]

theorem World.node_congr (isPending : (final.heap ref).isPending = (world.heap ref).isPending)
    (id : (final.heap ref).id = (world.heap ref).id) : final.node ref = world.node ref := by
  rw [node, node, isPending, id]

/-- The names in a folder do not depend on anything else. -/
theorem World.view_congr {id : String} (same : entries' id name = entries id name)
    (awaits : ∀ ref, final.Awaits root id name ref ↔ world.Awaits root id name ref) :
    final.view root entries' (.stored id) name = world.view root entries (.stored id) name := by
  have predicate : final.Awaits root id name = world.Awaits root id name :=
    funext fun ref => propext (awaits ref)
  simp only [view, same, predicate]

/-- The same files are awaited in a folder whose entry has stayed. -/
theorem World.awaits_congr {id key : String}
    (isPending : ∀ ref, (final.heap ref).isPending = (world.heap ref).isPending)
    (same : ∀ ref, (final.heap ref).id = (world.heap ref).id)
    (entry : ∀ folder, (world.heap folder).isPending = false → (world.heap folder).id = id →
      (final.Alive root folder ∧ final.owns folder key = some ref ↔
        world.Alive root folder ∧ world.owns folder key = some ref)) :
    final.Awaits root id key ref ↔ world.Awaits root id key ref := by
  constructor
  · rintro ⟨folder, alive, exist, here, owned, waiting⟩
    rw [isPending] at exist waiting
    rw [same] at here
    obtain ⟨alive', owned'⟩ := (entry folder exist here).mp ⟨alive, owned⟩
    exact ⟨folder, alive', exist, here, owned', waiting⟩
  · rintro ⟨folder, alive, exist, here, owned, waiting⟩
    obtain ⟨alive', owned'⟩ := (entry folder exist here).mpr ⟨alive, owned⟩
    exact ⟨folder, alive', (isPending folder).trans exist, (same folder).trans here, owned',
      (isPending ref).trans waiting⟩

namespace MirrorsAt

private theorem awaits_iff (mirrors : MirrorsAt world root rootId entries visible)
    (alive : world.Alive root folder) (exist : (world.heap folder).isPending = false) :
    world.Awaits root (world.heap folder).id name ref ↔
      world.owns folder name = some ref ∧ (world.heap ref).isPending = true := by
  constructor
  · rintro ⟨other, above, exist', same, entry, waiting⟩
    obtain rfl := mirrors.ids other folder above alive exist' exist same
    exact ⟨entry, waiting⟩
  · rintro ⟨entry, waiting⟩
    exact ⟨folder, alive, exist, rfl, entry, waiting⟩

/-- The names in a folder that is loaded are those of its items. -/
theorem view_loaded (mirrors : MirrorsAt world root rootId entries visible)
    (alive : world.Alive root folder) (seen : visible folder name) :
    world.view root entries (world.node folder) name =
      (world.owns folder name).map world.node := by
  have exist := mirrors.owner folder name alive seen
  have awaits : ∀ ref, world.Awaits root (world.heap folder).id name ref ↔
      world.owns folder name = some ref ∧ (world.heap ref).isPending = true :=
    fun _ => mirrors.awaits_iff alive exist
  rw [World.node_of_exists exist, World.view, mirrors.mirror folder name alive seen]
  cases entry : world.owns folder name with
  | none =>
      rw [Option.bind_none, Option.map_none, World.pick_eq_none, Option.map_none]
      intro ref waits
      have owned := ((awaits ref).mp waits).1
      rw [entry] at owned
      cases owned
  | some ref =>
      rw [Option.bind_some, Option.map_some]
      cases waiting : (world.heap ref).isPending with
      | true =>
          rw [World.storedId, if_pos waiting, World.node_of_pending waiting]
          have picked : World.pick (world.Awaits root (world.heap folder).id name) = some ref := by
            refine World.pick_unique ((awaits ref).mpr ⟨entry, waiting⟩) fun other waits => ?_
            have owned := ((awaits other).mp waits).1
            exact (Option.some_inj.mp (entry.symm.trans owned)).symm
          rw [picked]
          rfl
      | false => rw [World.storedId_of_exists waiting, World.node_of_exists waiting]

theorem view_entry (mirrors : MirrorsAt world root rootId entries visible)
    (alive : world.Alive root folder) (entry : world.owns folder name = some ref) :
    world.view root entries (world.node folder) name = some (world.node ref) := by
  rw [mirrors.view_loaded alive (mirrors.visible_of_entry alive entry), entry, Option.map_some]

/-- The names in a folder that was never loaded are those of the backend. -/
theorem view_unloaded (mirrors : MirrorsAt world root rootId entries visible)
    (alive : world.Alive root folder) (exist : (world.heap folder).isPending = false)
    (hidden : ¬ visible folder name) :
    world.view root entries (world.node folder) name =
      (entries (world.heap folder).id name).map .stored := by
  have none_ : ∀ ref, ¬ world.Awaits root (world.heap folder).id name ref := by
    intro ref waits
    have entry := ((mirrors.awaits_iff alive exist).mp waits).1
    exact hidden (mirrors.visible_of_entry alive entry)
  rw [World.node_of_exists exist, World.view]
  cases entries (world.heap folder).id name with
  | some child => rfl
  | none =>
      rw [World.pick_eq_none none_]
      rfl

/-- What a name of the mounted tree stands for. -/
theorem of_view {id : String} {node : Node}
    (shown : world.view root entries (.stored id) name = some node) :
    (∃ child, node = .stored child ∧ entries id name = some child) ∨
      ∃ ref, node = .awaited ref ∧ world.Awaits root id name ref := by
  rw [World.view] at shown
  cases entry : entries id name with
  | some child =>
      rw [entry] at shown
      exact Or.inl ⟨child, (Option.some_inj.mp shown).symm, rfl⟩
  | none =>
      rw [entry] at shown
      obtain ⟨ref, picked, same⟩ := Option.map_eq_some_iff.mp shown
      exact Or.inr ⟨ref, same.symm, World.pick_eq_some picked⟩

/-- What is below an item in the tree is below it in the mounted one. -/
theorem view_under (mirrors : MirrorsAt world root rootId entries visible) {upper lower : Ref}
    (alive : world.Alive root upper) (below : world.owns.Under upper lower) :
    (world.view root entries).Under (world.node upper) (world.node lower) := by
  induction below with
  | refl => exact .refl
  | @tail middle lower above step ih =>
      obtain ⟨key, entry⟩ := step
      exact ih.child (mirrors.view_entry (Relation.ReflTransGen.trans alive above) entry)

end MirrorsAt

private theorem entries_under_of_view {upper : String} {node : Node}
    (below : (world.view root entries).Under (.stored upper) node) :
    (∃ lower, node = .stored lower ∧ entries.Under upper lower) ∨ ∃ ref, node = .awaited ref := by
  induction below with
  | refl => exact Or.inl ⟨upper, rfl, .refl⟩
  | tail _ step ih =>
      obtain ⟨key, entry⟩ := step
      rcases ih with ⟨lower, rfl, above⟩ | ⟨ref, rfl⟩
      · rcases MirrorsAt.of_view entry with ⟨child, rfl, stored⟩ | ⟨ref, rfl, -⟩
        · exact Or.inl ⟨child, rfl, above.child stored⟩
        · exact Or.inr ⟨ref, rfl⟩
      · cases entry

theorem view_under_of_entries {upper lower : String} (below : entries.Under upper lower) :
    (world.view root entries).Under (.stored upper) (.stored lower) := by
  induction below with
  | refl => exact .refl
  | tail _ step ih =>
      obtain ⟨key, entry⟩ := step
      exact ih.child (World.view_of_entry entry)

private theorem eq_of_under_awaited {node : Node}
    (below : (world.view root entries).Under (.awaited ref) node) : node = .awaited ref :=
  below.eq_of_empty fun _ => rfl

variable {calls : Calls β} {content : β → Entries} (directory : Directory calls rootId content)
  {outside : β}

include directory

/-- Every name of the mounted tree is in one place. -/
theorem MirrorsAt.view_sole (mirrors : MirrorsAt world root rootId (content outside) visible) :
    (world.view root (content outside)).Sole (.stored rootId) where
  place := by
    intro first second firstKey secondKey owned _ _ entry entry'
    cases first with
    | awaited => cases entry
    | stored firstId =>
        cases second with
        | awaited => cases entry'
        | stored secondId =>
            rcases MirrorsAt.of_view entry with ⟨child, rfl, stored⟩ | ⟨ref, rfl, awaits⟩
            · rcases MirrorsAt.of_view entry' with ⟨child', same, stored'⟩ | ⟨_, no, -⟩
              · cases same
                obtain ⟨rfl, rfl⟩ := directory.single _ _ _ _ _ _ stored stored'
                exact ⟨rfl, rfl⟩
              · cases no
            · rcases MirrorsAt.of_view entry' with ⟨_, no, -⟩ | ⟨ref', same, awaits'⟩
              · cases no
              · cases same
                obtain ⟨folder, alive, -, rfl, owned, -⟩ := awaits
                obtain ⟨folder', alive', -, rfl, owned', -⟩ := awaits'
                obtain ⟨rfl, rfl⟩ := mirrors.formed.sole.place _ _ _ _ _ alive alive' owned owned'
                exact ⟨rfl, rfl⟩
  root_free := by
    intro owner key _ entry
    cases owner with
    | awaited => cases entry
    | stored id =>
        rcases MirrorsAt.of_view entry with ⟨child, same, stored⟩ | ⟨_, no, -⟩
        · cases same
          exact directory.root_free _ _ _ stored
        · cases no

/-- What is not inside an item is not inside it in the mounted tree. -/
theorem MirrorsAt.under_of_view (mirrors : MirrorsAt world root rootId (content outside) visible)
    {upper lower : Ref} (alive : world.Alive root upper) (alive' : world.Alive root lower)
    (exist : (world.heap lower).isPending = false)
    (below : (world.view root (content outside)).Under (world.node upper) (world.node lower)) :
    world.owns.Under upper lower := by
  rw [World.node_of_exists exist] at below
  cases waiting : (world.heap upper).isPending with
  | true =>
      rw [World.node_of_pending waiting] at below
      cases eq_of_under_awaited below
  | false =>
      rw [World.node_of_exists waiting] at below
      rcases entries_under_of_view below with ⟨id, same, under⟩ | ⟨_, no⟩
      · cases same
        exact mirrors.apart directory alive waiting alive' exist under
      · cases no

end Andromeda.Folders
