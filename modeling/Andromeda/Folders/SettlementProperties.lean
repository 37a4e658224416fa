import Andromeda.Folders.PathLookupProperties

/-! The flush of a file that is not created yet: the same paths lead to it afterwards. -/

set_option autoImplicit false

namespace Andromeda.Folders

open Andromeda.Library

variable {β : Type} {world middle final : World β} {root folder ref : Ref} {rootId name : String}
  {entries entries' : Entries}

/-- What a node is once an awaited file has its ID. -/
def Node.settle (ref : Ref) (id : String) (node : Node) : Node :=
  if node = .awaited ref then .stored id else node

@[simp] theorem Node.settle_stored {id other : String} :
    Node.settle ref id (.stored other) = .stored other := if_neg (by simp)

/-- The paths lead where they led, but to an ID if the node is an awaited file that was created. -/
def Settled (before after : List String → Option Node) (node : Node) : Prop :=
  after = before ∨ ∃ ref id, node = .awaited ref ∧
    ∀ path, after path = (before path).map (Node.settle ref id)

private theorem Created.settled {data : ItemData} {parent : Ref} {id : String}
    (created : Created rootId entries (world.heap parent).id (world.heap ref).name data entries')
    (told : data.id = some id) (mirrors : Mirrors world root rootId entries)
    (mirrors' : Mirrors final root rootId entries') (flushed : Flushed world ref final)
    (alive : world.Alive root ref) (parented : (world.heap ref).parent = some parent)
    (waiting : (world.heap ref).isPending = true) (id' : (final.heap ref).id = id) :
    ∀ path, final.paths root rootId entries' path =
      (world.paths root rootId entries path).map (Node.settle ref id) := by
  obtain ⟨upper, entry⟩ := mirrors.formed.placed alive parented
  have exist := mirrors.owner_exists upper entry
  obtain ⟨-, empty, unused⟩ := created.fresh id told
  have unloaded : ¬ (world.heap ref).haveItems = true := by
    intro loaded
    rw [mirrors.owner ref "" alive loaded] at waiting
    cases waiting
  -- nothing is in the new file, and nothing was under its ID
  have after : ∀ key, final.view root entries' (.stored id) key = none := by
    intro key
    have hidden : final.view root entries' (final.node ref) key =
        (entries' (final.heap ref).id key).map .stored :=
      mirrors'.view_unloaded (flushed.tree.alive alive) flushed.isPending
        (by rw [flushed.haveItems]; exact unloaded)
    have apart := created.distinct told mirrors upper exist
    rw [World.node_of_exists flushed.isPending, id'] at hidden
    rw [hidden, created.entry, if_neg fun same => apart same.1.symm, empty, Option.map_none]
  have before : ∀ key, world.view root entries (.stored id) key = none := by
    intro key
    rw [World.view, empty, World.pick_eq_none, Option.map_none]
    rintro other ⟨owner, above, exist', same, -⟩
    exact created.distinct told mirrors above exist' same
  have awaits : ∀ owner key other, ¬ (owner = (world.heap parent).id ∧ key = (world.heap ref).name) →
      (final.Awaits root owner key other ↔ world.Awaits root owner key other) := by
    intro owner key other elsewhere
    have apart : ∀ {holder}, world.Alive root holder → (world.heap holder).id = owner →
        world.owns holder key = some other → other ≠ ref := by
      rintro holder above here owned rfl
      obtain ⟨rfl, rfl⟩ := mirrors.formed.sole.place _ _ _ _ _ above upper owned entry
      exact elsewhere ⟨here.symm, rfl⟩
    have same : ∀ {holder}, world.Alive root holder → world.owns holder key = some other →
        final.heap holder = world.heap holder := by
      intro holder above owned
      refine flushed.others holder fun equal => ?_
      rw [equal] at owned above
      have some_ := mirrors.owner_exists above owned
      rw [waiting] at some_
      cases some_
    constructor
    · rintro ⟨holder, above, stays, here, owned, still⟩
      rw [flushed.tree.owns] at owned
      rw [World.Alive, flushed.tree.owns] at above
      rw [same above owned] at stays here
      rw [flushed.others other (apart above here owned)] at still
      exact ⟨holder, above, stays, here, owned, still⟩
    · rintro ⟨holder, above, stays, here, owned, still⟩
      refine ⟨holder, flushed.tree.alive above, ?_, ?_, ?_, ?_⟩
      · rw [same above owned, stays]
      · rw [same above owned, here]
      · rw [flushed.tree.owns, owned]
      · rw [flushed.others other (apart above here owned), still]
  intro path
  refine @Owners.resolve_map _ _ (world.view root entries) (.stored rootId) path _
    (final.view root entries') (Node.settle ref id) fun node key => ?_
  cases node with
  | awaited other =>
      unfold Node.settle
      split
      · exact after key
      · rfl
  | stored owner =>
      rw [Node.settle_stored]
      by_cases here : owner = (world.heap parent).id ∧ key = (world.heap ref).name
      · obtain ⟨rfl, rfl⟩ := here
        have was := mirrors.view_entry upper entry
        rw [World.node_of_exists exist, World.node_of_pending waiting] at was
        rw [was, World.view_of_entry (by rw [created.entry, if_pos ⟨rfl, rfl⟩, told]),
          Option.map_some, Node.settle, if_pos rfl]
      · by_cases own : owner = id
        · rw [own, after, before, Option.map_none]
        · rw [World.view_congr (by rw [created.entry, if_neg here]) fun other =>
            awaits owner key other here]
          cases shown : world.view root entries (.stored owner) key with
          | none => rfl
          | some node =>
              rw [Option.map_some, Option.some_inj, Node.settle, if_neg]
              rintro rfl
              rcases MirrorsAt.of_view shown with ⟨_, no, -⟩ | ⟨other, same, holder, above, -, rfl, owned, -⟩
              · cases no
              · cases same
                obtain ⟨rfl, rfl⟩ := mirrors.formed.sole.place _ _ _ _ _ above upper owned entry
                exact here ⟨rfl, rfl⟩

variable {calls : Calls β} {content : β → Entries} (directory : Directory calls rootId content)
  (faults : calls.Faults)

include directory

private theorem flushCreate_created (mirrors : Mirrors world root rootId (content world.outside))
    (alive : world.Alive root ref) (waiting : (world.heap ref).isPending = true) :
    Outcome (flushCreate calls ref) world
      (fun _ final => ∃ parent data, (world.heap ref).parent = some parent ∧
        data.id = some (final.heap ref).id ∧
        Created rootId (content world.outside) (world.heap parent).id (world.heap ref).name data
          (content final.outside))
      (fun _ _ => True) := by
  obtain ⟨noId, parented⟩ := mirrors.pending ref alive waiting
  have entered : ∀ (data : ItemData) (outside : β),
      Created rootId (content world.outside) (world.heap (world.heap ref).creator).id
        (world.heap ref).name data (content outside) →
      Outcome (do
        refreshFile calls ref data
        setItem ref fun item => { item with backendExists := true } : Exec β Unit)
        { world with outside }
        (fun _ final => ∃ parent data, (world.heap ref).parent = some parent ∧
          data.id = some (final.heap ref).id ∧
          Created rootId (content world.outside) (world.heap parent).id (world.heap ref).name data
            (content final.outside))
        (fun _ _ => True) := by
    intro data outside created
    rw [Outcome.bind_iff]
    refine (refreshFile_spec calls { world with outside } ref data).mono ?_ fun _ _ _ => trivial
    rintro _ middle ⟨-, size, -, id⟩
    rw [if_pos noId] at id
    rw [setItem_iff, World.outside_setItem, content_of_sizeTold directory size]
    exact ⟨_, data, parented, by rw [World.heap_setItem_self]; exact id, created⟩
  unfold flushCreate
  rw [Outcome.bind_iff, getItem_iff, Outcome.bind_iff, getItem_iff, Outcome.bind_iff, call_iff]
  refine (Outcome.ran _ _).mono (fun first outside asked => ?_) fun _ _ _ => trivial
  have silent := directory.hasFirstPage _ _ _ _ asked
  rw [Outcome.ite_iff]
  refine ⟨fun _ => ?_, fun _ => ?_⟩
  · rw [Outcome.bind_iff, call_iff]
    refine (Outcome.ran _ _).mono (fun data outside' returned => ?_) fun _ _ _ => trivial
    have created := directory.uploadFile _ _ _ _ _ returned
    rw [silent] at created
    exact entered data outside' created
  · rw [Outcome.bind_iff, call_iff]
    refine (Outcome.ran _ _).mono (fun data outside' returned => ?_) fun _ _ _ => trivial
    have created := directory.createFile _ _ _ _ _ returned
    rw [silent] at created
    exact entered data outside' created

include faults

/-- A flush changes no path. -/
theorem flushCache_settled (mirrors : Mirrors world root rootId (content world.outside))
    (alive : world.Alive root ref) (file : (world.heap ref).kind = .file) :
    Outcome (flushCache calls ref) world
      (fun _ final => Mirrors final root rootId (content final.outside) ∧
        Flushed world ref final ∧
        Settled (world.paths root rootId (content world.outside))
          (final.paths root rootId (content final.outside)) (world.node ref))
      (fun exception _ => exception.Fault) := by
  have written : ∀ middle : World β, Settled (world.paths root rootId (content world.outside))
        (middle.paths root rootId (content middle.outside)) (world.node ref) →
      Outcome (do call (calls.writeFile ref (← getItem ref).id) : Exec β Unit) middle
        (fun _ final => Settled (world.paths root rootId (content world.outside))
          (final.paths root rootId (content final.outside)) (world.node ref)) (fun _ _ => True) := by
    intro middle settled
    rw [Outcome.bind_iff, getItem_iff, call_iff]
    refine (Outcome.ran _ _).mono (fun _ outside returned => ?_) fun _ _ _ => trivial
    have silent := directory.writeFile _ _ _ _ returned
    rw [silent]
    exact settled
  have settled : Outcome (flushCache calls ref) world
      (fun _ final => Settled (world.paths root rootId (content world.outside))
        (final.paths root rootId (content final.outside)) (world.node ref)) (fun _ _ => True) := by
    unfold flushCache
    rw [Outcome.bind_iff, getItem_iff, Outcome.ite_iff]
    refine ⟨fun missing => ?_, fun _ => written world (Or.inl rfl)⟩
    have waiting : (world.heap ref).isPending = true := by
      simp only [Item.isPending, file, decide_true, Bool.true_and]
      exact missing
    rw [Outcome.bind_iff]
    refine ((flushCreate_mirrors directory mirrors alive waiting).and
      (flushCreate_created directory mirrors alive waiting)).mono ?_ fun _ _ => And.right
    rintro _ middle ⟨⟨mirrors', flushed⟩, parent, data, parented, told, created⟩
    exact written middle (Or.inr ⟨ref, _, World.node_of_pending waiting,
      created.settled told mirrors mirrors' flushed alive parented waiting rfl⟩)
  refine ((flushCache_mirrors directory mirrors alive file).and
    (settled.and (faults.flushCache ref world))).mono ?_ fun _ _ threw => threw.2.2
  exact fun _ final result => ⟨result.1.1, result.1.2, result.2.1⟩

end Andromeda.Folders
