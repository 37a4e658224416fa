import Andromeda.Folders.SettlementProperties
import Andromeda.Folders.TransferProperties

/-! A rename and a move take the paths of an item, with those below it, to another place, and remove
what was there. -/

set_option autoImplicit false

namespace Andromeda.Folders

open Andromeda.Library

variable {β : Type} {world middle final : World β} {root folder ref source target : Ref}
  {rootId oldName newName : String} {entries entries' : Entries} {path above : List String}

/-- Away from the two places of an item, and from what was in the new one, the backend has not
changed. -/
def ElsewhereSame (world : World β) (root source target : Ref) (oldName newName : String)
    (entries entries' : Entries) : Prop :=
  ∀ id key, (∀ replaced,
      world.view root entries (.stored (world.heap target).id) newName = some replaced →
        ¬ (world.view root entries).Under replaced (.stored id)) →
    (id, key) ≠ ((world.heap source).id, oldName) → (id, key) ≠ ((world.heap target).id, newName) →
      entries' id key = entries id key

private theorem MirrorsAt.pathMoved {outside : β} {calls : Calls β} {content : β → Entries}
    (directory : Directory calls rootId content)
    (mirrors : Mirrors world root rootId (content outside))
    (rekeyed : Rekeyed world ref source target oldName newName middle)
    (heap : ∀ other, ∃ items, middle.heap other = { world.heap other with items })
    (allowed : Owners.Allowed world.owns root ref source target newName)
    (loaded : (world.heap target).haveItems = true) {change : Item → Item}
    (fields : ∀ item, ∃ name parent, change item = { item with name, parent })
    (mirrors' : Mirrors (middle.setItem ref change) root rootId entries')
    (elsewhere : ElsewhereSame world root source target oldName newName (content outside) entries')
    (leads : world.paths root rootId (content outside) path = some (world.node source))
    (leads' : world.paths root rootId (content outside) above = some (world.node target)) :
    PathMoved (world.paths root rootId (content outside))
      ((middle.setItem ref change).paths root rootId entries') (path ++ [oldName])
      (above ++ [newName]) := by
  have sole := mirrors.view_sole directory
  have relinked := rekeyed.relinked
  have same : ∀ other, ((middle.setItem ref change).heap other).isPending =
      (world.heap other).isPending ∧ ((middle.setItem ref change).heap other).id =
        (world.heap other).id ∧ ((middle.setItem ref change).heap other).haveItems =
          (world.heap other).haveItems ∧ ((middle.setItem ref change).heap other).items =
            (middle.heap other).items := by
    intro other
    obtain ⟨items, changed⟩ := heap other
    by_cases here : other = ref
    · subst here
      obtain ⟨name, parent, exchanged⟩ := fields (middle.heap other)
      rw [World.heap_setItem_self, exchanged, changed]
      exact ⟨rfl, rfl, rfl, rfl⟩
    · rw [World.heap_setItem_of_ne _ _ _ _ here, changed]
      exact ⟨rfl, rfl, rfl, rfl⟩
  have owns : (middle.setItem ref change).owns = middle.owns := by
    funext other key
    rw [World.owns, (same other).2.2.2, World.owns]
  have node : ∀ other, (middle.setItem ref change).node other = world.node other := fun other =>
    World.node_congr (same other).1 (same other).2.1
  have stays := mirrors.owner_exists allowed.source_alive relinked.entry
  have exist := mirrors.owner target newName allowed.target_alive loaded
  have replaced_node : ∀ replaced, world.view root (content outside) (world.node target) newName =
      some replaced → ∃ other, world.owns target newName = some other ∧
        replaced = world.node other := by
    intro replaced shown
    rw [mirrors.view_loaded allowed.target_alive loaded] at shown
    obtain ⟨other, owned, same⟩ := Option.map_eq_some_iff.mp shown
    exact ⟨other, owned, same.symm⟩
  have after : ∀ {other}, world.Alive root other →
      (∀ replaced, world.owns target newName = some replaced →
        ¬ world.owns.Under replaced other) → (middle.setItem ref change).Alive root other := by
    intro other higher kept
    rw [World.Alive, owns]
    exact relinked.alive_after allowed higher kept
  have source_after := after allowed.source_alive allowed.not_replaced
  have target_after := after allowed.target_alive fun replaced owned =>
    allowed.sole.acyclic allowed.target_alive owned
  refine Owners.pathMoved sole leads leads' (mirrors.view_entry allowed.source_alive relinked.entry)
    ?_ ?_ (fun below => ?_) (fun replaced shown below => ?_) ?_
  · have shown := (same source).2.2.1.trans
      (mirrors.visible_of_entry allowed.source_alive relinked.entry)
    rw [← node source, mirrors'.view_loaded source_after shown, owns, relinked.left, Option.map_none]
  · rw [← node target, ← node ref]
    exact mirrors'.view_entry target_after (by rw [owns]; exact relinked.placed)
  · exact allowed.not_inside (mirrors.under_of_view directory
      (allowed.source_alive.child relinked.entry) allowed.target_alive exist below)
  · obtain ⟨other, owned, rfl⟩ := replaced_node replaced shown
    exact allowed.not_replaced other owned (mirrors.under_of_view directory
      (allowed.target_alive.child owned) allowed.source_alive stays below)
  · intro other key _ kept old new
    cases other with
    | awaited => rfl
    | stored id =>
        rw [World.node_of_exists stays] at old
        rw [World.node_of_exists exist] at new kept
        refine World.view_congr (elsewhere id key kept (fun equal => old ?_) fun equal => new ?_)
          fun other => World.awaits_congr (fun other => (same other).1)
            (fun other => (same other).2.1) fun owner exist' here => ?_
        · obtain ⟨rfl, rfl⟩ := Prod.mk.inj equal
          rfl
        · obtain ⟨rfl, rfl⟩ := Prod.mk.inj equal
          rfl
        have old' : (owner, key) ≠ (source, oldName) := by
          intro equal
          obtain ⟨rfl, rfl⟩ := Prod.mk.inj equal
          exact old (by rw [here])
        have new' : (owner, key) ≠ (target, newName) := by
          intro equal
          obtain ⟨rfl, rfl⟩ := Prod.mk.inj equal
          exact new (by rw [here])
        rw [owns, relinked.others owner key old' new']
        refine and_congr_left fun _ => ⟨fun higher => ?_, fun higher =>
          after higher fun replaced owned below => ?_⟩
        · rw [World.Alive, owns] at higher
          exact (relinked.alive_before allowed higher).1
        · have shown := mirrors.view_entry allowed.target_alive owned
          have under := mirrors.view_under (allowed.target_alive.child owned) below
          rw [World.node_of_exists exist'] at under
          rw [World.node_of_exists exist] at shown
          rw [here] at under
          exact kept _ shown under

private theorem TookPlace.elsewhereSame {id sourceId targetId : String} {overwrite : Bool}
    (took : TookPlace entries id sourceId oldName targetId newName overwrite entries')
    (from_ : (world.heap source).id = sourceId) (into : (world.heap target).id = targetId) :
    ElsewhereSame world root source target oldName newName entries entries' := by
  subst from_ into
  intro other key kept old new
  rw [took.entry other (fun replaced stored _ below =>
    kept _ (World.view_of_entry stored) (view_under_of_entries below)),
    if_neg fun same => new (Prod.ext same.1 same.2), if_neg fun same => old (Prod.ext same.1 same.2)]

variable {calls : Calls β} {content : β → Entries} (directory : Directory calls rootId content)
  (faults : calls.Faults)

include directory faults

private theorem subRename_elsewhere {overwrite : Bool}
    (mirrors : Mirrors world root rootId (content world.outside)) (alive : world.Alive root folder)
    (entry : world.owns folder oldName = some ref) :
    Outcome (subRename calls ref newName overwrite) world
      (fun _ final => ElsewhereSame world root folder folder oldName newName (content world.outside)
        (content final.outside))
      (fun exception final => exception.Fault ∨ final = world) := by
  have renamed : ∀ outside, (world.heap ref).isPending = false →
      Renamed (content world.outside) (world.heap ref).id newName overwrite (content outside) →
      ElsewhereSame world root folder folder oldName newName (content world.outside)
        (content outside) := by
    rintro outside exist ⟨folderId, oldName', took⟩
    have stored := mirrors.stored alive entry exist
    obtain ⟨rfl, rfl⟩ := directory.single _ _ _ _ _ _ stored took.was
    exact took.elsewhereSame rfl rfl
  unfold subRename
  rw [Outcome.bind_iff, checkReadOnlyFS_iff]
  refine ⟨fun _ => Or.inr rfl, fun _ => ?_⟩
  rw [Outcome.bind_iff, getItem_iff]
  cases kind : (world.heap ref).kind with
  | file =>
      rw [Outcome.ite_iff]
      refine ⟨fun present => ?_, fun _ _ _ _ _ _ => rfl⟩
      have exist : (world.heap ref).isPending = false := by
        rw [Item.isPending, present, Bool.not_true, Bool.and_false]
      rw [call_iff]
      refine ((Outcome.ran _ _).and (faults.renameFile _ _ _ _)).mono ?_ fun _ _ threw =>
        Or.inl threw.2
      exact fun _ outside returned =>
        renamed outside exist (directory.renameFile _ _ _ _ _ returned.1)
  | folder =>
      rw [call_iff]
      refine ((Outcome.ran _ _).and (faults.renameFolder _ _ _ _)).mono ?_ fun _ _ threw =>
        Or.inl threw.2
      exact fun _ outside returned =>
        renamed outside (isPending_of_folder kind) (directory.renameFolder _ _ _ _ _ returned.1)

/-- A rename changes the last name of a path, or throws and changes no name. -/
theorem rename_movesPath {overwrite : Bool}
    (mirrors : Mirrors world root rootId (content world.outside)) (alive : world.Alive root ref)
    (leads : world.paths root rootId (content world.outside) (path ++ [oldName]) =
      some (world.node ref)) (different : newName ≠ oldName)
    (clear : (world.heap ref).isPending = true → ∀ id,
      world.paths root rootId (content world.outside) (path ++ [newName]) ≠ some (.stored id)) :
    Outcome (rename calls ref newName overwrite) world
      (fun _ final => Mirrors final root rootId (content final.outside) ∧
        PathMoved (world.paths root rootId (content world.outside))
          (final.paths root rootId (content final.outside)) (path ++ [oldName]) (path ++ [newName]))
      (fun exception final => exception.Fault ∨
        Mirrors final root rootId (content final.outside) ∧ Browsed content world root final) := by
  have sole := mirrors.view_sole directory
  have refl : Mirrors world root rootId (content world.outside) ∧
      Browsed content world root world := ⟨mirrors, .refl content world root⟩
  obtain ⟨parent, parented, rfl, higher, entry, leads'⟩ := mirrors.place_of_path sole alive leads
  unfold rename
  rw [Outcome.bind_iff, getItem_iff, Outcome.ite_iff]
  refine ⟨fun _ => ?_, fun equal => absurd different equal⟩
  · rw [Outcome.bind_iff, validateName_iff]
    refine ⟨fun _ => ?_, fun _ => Or.inr refl⟩
    rw [Outcome.bind_iff, getParent_iff]
    refine ⟨fun other parented' => ?_, fun _ => Or.inr refl⟩
    obtain rfl : parent = other := Option.some_inj.mp (parented.symm.trans parented')
    have placed := mirrors.formed.made higher
    have made := mirrors.formed.made alive
    rw [Outcome.bind_iff, getItem_iff, Outcome.bind_iff]
    unfold renameItem
    rw [Outcome.bind_iff, checkReadOnlyFS_iff]
    refine ⟨fun _ => Or.inr refl, fun _ => ?_⟩
    rw [Outcome.bind_iff]
    refine (loadItems_browsed directory faults true mirrors higher
      (mirrors.owner_exists higher entry)).mono ?_ fun _ _ => Or.inl
    rintro _ loaded ⟨mirrors', shown, browsed⟩
    rw [Outcome.bind_iff, findItem_iff]
    refine ⟨fun found present => ?_, fun _ => Or.inr ⟨mirrors', browsed⟩⟩
    have present' := browsed.kept.owns parent _ ref placed entry
    obtain rfl : found = ref := Option.some_inj.mp (present.symm.trans present')
    have higher' := browsed.kept.alive mirrors.formed higher
    rw [if_pos (Ne.symm different), Outcome.bind_iff, getItem_iff, Outcome.ite_iff]
    refine ⟨fun _ => Or.inr ⟨mirrors', browsed⟩, fun _ => ?_⟩
    rw [← browsed.paths mirrors.formed] at leads' clear ⊢
    rw [← browsed.node placed] at leads'
    have free : (loaded.heap found).isPending = true →
        content loaded.outside (loaded.heap parent).id newName = none := by
      intro waiting
      rw [browsed.kept.isPending found made] at waiting
      by_contra some_
      obtain ⟨id, stored⟩ := Option.ne_none_iff_exists'.mp some_
      refine clear waiting id ?_
      rw [World.paths] at leads' ⊢
      rw [Owners.resolve_snoc, leads', World.node_of_exists (mirrors'.owner_exists higher' present)]
      exact World.view_of_entry stored
    rw [Outcome.bind_iff]
    refine ((subRename_mirrors directory mirrors' higher' shown present free).and
      (subRename_elsewhere directory faults mirrors' higher' present)).mono ?_ ?_
    · rintro _ _ ⟨⟨⟨outside, rfl⟩, same⟩, elsewhere⟩
      have redated : Redated loaded { loaded with outside } := .outside
      have mirrors'' := redated.mirrors mirrors'
      have apart : (parent, (world.heap found).name) ≠ (parent, newName) := fun equal =>
        different (Prod.mk.inj equal).2.symm
      refine ((rekey_spec (by exact present) apart).and (rekey_heap _ _)).mono ?_
        fun _ _ no => no.1.elim
      rintro _ middle ⟨rekeyed, heap, silent⟩
      have sole := mirrors''.formed.sole
      have allowed : Owners.Allowed ({ loaded with outside } : World β).owns root found parent parent
          newName :=
        { sole := sole
          source_alive := higher'
          target_alive := higher'
          not_inside := sole.acyclic higher' present
          not_replaced := fun replaced entry => sole.acyclic higher' entry }
      have parent' : (middle.heap found).parent = some parent := by
        rw [rekeyed.parent, browsed.kept.parent found made, parented]
      rw [setItem_iff, World.outside_setItem, silent]
      have moved := @MirrorsAt.relinked β { loaded with outside } middle root found parent parent
        rootId _ _ _ _ mirrors'' rekeyed heap allowed shown (fun item => { item with name := newName })
        (fun item => ⟨newName, item.parent, rfl⟩) rfl parent' (fun _ => rfl) same
      exact ⟨moved, @MirrorsAt.pathMoved β { loaded with outside } middle root found parent parent
        rootId _ newName _ path path loaded.outside calls content directory mirrors'' rekeyed heap allowed
        shown (fun item => { item with name := newName }) (fun item => ⟨newName, item.parent, rfl⟩)
        moved elsewhere leads' leads'⟩
    · rintro exception final ⟨-, fault | rfl⟩
      · exact Or.inl fault
      · exact Or.inr ⟨mirrors', browsed⟩

omit directory faults in
/-- The root has no other name. -/
theorem rename_root {overwrite : Bool}
    (mirrors : Mirrors world root rootId (content world.outside)) :
    Outcome (rename calls root newName overwrite) world (fun _ final => final = world)
      (fun _ final => final = world) := by
  unfold rename
  rw [Outcome.bind_iff, getItem_iff, Outcome.ite_iff]
  refine ⟨fun _ => ?_, fun _ => rfl⟩
  rw [Outcome.bind_iff, validateName_iff]
  refine ⟨fun _ => ?_, fun _ => rfl⟩
  rw [Outcome.bind_iff, getParent_iff]
  refine ⟨fun parent parented => ?_, fun _ => rfl⟩
  rw [mirrors.formed.root_parent] at parented
  cases parented

/-- Nothing is left without a name. -/
theorem rename_unnamed {overwrite : Bool}
    (mirrors : Mirrors world root rootId (content world.outside)) (alive : world.Alive root ref)
    (named : (world.heap ref).name ≠ "") :
    Outcome (rename calls ref "" overwrite) world (fun _ _ => False)
      (fun exception final => exception.Fault ∨
        Mirrors final root rootId (content final.outside) ∧ Browsed content world root final) := by
  have refl : Mirrors world root rootId (content world.outside) ∧
      Browsed content world root world := ⟨mirrors, .refl content world root⟩
  unfold rename
  rw [Outcome.bind_iff, getItem_iff, Outcome.ite_iff]
  refine ⟨fun _ => ?_, fun equal => equal named.symm⟩
  rw [Outcome.bind_iff, validateName_iff]
  refine ⟨fun _ => ?_, fun _ => Or.inr refl⟩
  rw [Outcome.bind_iff, getParent_iff]
  refine ⟨fun parent parented => ?_, fun _ => Or.inr refl⟩
  obtain ⟨higher, entry⟩ := mirrors.formed.placed alive parented
  rw [Outcome.bind_iff, getItem_iff, Outcome.bind_iff]
  unfold renameItem
  rw [Outcome.bind_iff, checkReadOnlyFS_iff]
  refine ⟨fun _ => Or.inr refl, fun _ => ?_⟩
  rw [Outcome.bind_iff]
  refine (loadItems_browsed directory faults true mirrors higher
    (mirrors.owner_exists higher entry)).mono ?_ fun _ _ => Or.inl
  rintro _ loaded ⟨mirrors', -, browsed⟩
  rw [Outcome.bind_iff, findItem_iff]
  refine ⟨fun found present => ?_, fun _ => Or.inr ⟨mirrors', browsed⟩⟩
  rw [if_pos named, Outcome.bind_iff, getItem_iff, Outcome.ite_iff]
  exact ⟨fun _ => Or.inr ⟨mirrors', browsed⟩, fun free => absurd (by simp) free⟩

/-- What precedes a move on the backend: a pending file was created. -/
structure ReadyToMove (content : β → Entries) (rootId : String) (world : World β)
    (root ref target : Ref) (middle : World β) : Prop where
  mirrors : Mirrors middle root rootId (content middle.outside)
  tree : SameTree world middle
  exist : (middle.heap ref).isPending = false
  id : (middle.heap target).id = (world.heap target).id
  haveItems : (middle.heap target).haveItems = (world.heap target).haveItems
  node : ∀ other, other ≠ ref → middle.node other = world.node other
  settled : Settled (world.paths root rootId (content world.outside))
    (middle.paths root rootId (content middle.outside)) (world.node ref)

private theorem subMove_ready {overwrite : Bool}
    (mirrors : Mirrors world root rootId (content world.outside)) (alive : world.Alive root ref)
    (exist : (world.heap target).isPending = false) :
    Outcome (subMove calls ref (world.heap target).id overwrite) world
      (fun _ final => ∃ middle, ReadyToMove content rootId world root ref target middle ∧
        ∃ outside, final = { middle with outside } ∧
          Moved (content middle.outside) (middle.heap ref).id (world.heap target).id overwrite
            (content outside))
      (fun exception final => exception.Fault ∨ final = world) := by
  unfold subMove
  rw [Outcome.bind_iff, checkReadOnlyFS_iff]
  refine ⟨fun _ => Or.inr rfl, fun _ => ?_⟩
  rw [Outcome.bind_iff, getItem_iff]
  have ready : (world.heap ref).isPending = false →
      ReadyToMove content rootId world root ref target world := fun stays =>
    { mirrors
      tree := .refl world
      exist := stays
      id := rfl
      haveItems := rfl
      node := fun _ _ => rfl
      settled := Or.inl rfl }
  cases kind : (world.heap ref).kind with
  | file =>
      have moved : ∀ middle, ReadyToMove content rootId world root ref target middle →
          Outcome (do
            call (calls.moveFile (← getItem ref).id (world.heap target).id overwrite) :
              Exec β Unit) middle
            (fun _ final => ∃ middle, ReadyToMove content rootId world root ref target middle ∧
              ∃ outside, final = { middle with outside } ∧
                Moved (content middle.outside) (middle.heap ref).id (world.heap target).id overwrite
                  (content outside))
            (fun exception final => exception.Fault ∨ final = world) := by
        intro middle ready
        rw [Outcome.bind_iff, getItem_iff, call_iff]
        refine ((Outcome.ran _ _).and (faults.moveFile _ _ _ _)).mono ?_ fun _ _ threw =>
          Or.inl threw.2
        exact fun _ outside returned =>
          ⟨middle, ready, outside, rfl, directory.moveFile _ _ _ _ _ returned.1⟩
      rw [Outcome.bind_iff, getItem_iff, Outcome.ite_iff]
      refine ⟨fun missing => ?_, fun present => ?_⟩
      · have waiting : (world.heap ref).isPending = true := by
          simp only [Item.isPending, kind, decide_true, Bool.true_and]
          exact missing
        have apart : target ≠ ref := by
          rintro rfl
          rw [exist] at waiting
          cases waiting
        rw [Outcome.bind_iff]
        refine (flushCache_settled directory faults mirrors alive kind).mono ?_ fun _ _ => Or.inl
        rintro _ middle ⟨mirrors', flushed, settled⟩
        refine moved middle
          { mirrors := mirrors'
            tree := flushed.tree
            exist := flushed.isPending
            id := by rw [flushed.others target apart]
            haveItems := by rw [flushed.others target apart]
            node := fun other different => ?_
            settled }
        exact World.node_congr (by rw [flushed.others other different])
          (by rw [flushed.others other different])
      · refine moved world (ready ?_)
        simp only [Item.isPending, kind, decide_true, Bool.true_and]
        exact Bool.eq_false_of_not_eq_true present
  | folder =>
      rw [Outcome.bind_iff, getItem_iff, call_iff]
      refine ((Outcome.ran _ _).and (faults.moveFolder _ _ _ _)).mono ?_ fun _ _ threw =>
        Or.inl threw.2
      exact fun _ outside returned => ⟨world, ready (isPending_of_folder kind), outside, rfl,
        directory.moveFolder _ _ _ _ _ returned.1⟩

omit directory faults in
private theorem ReadyToMove.leads (ready : ReadyToMove content rootId world root ref target middle)
    {other : Ref} (different : other ≠ ref) (exist : (world.heap other).isPending = false)
    (leads : world.paths root rootId (content world.outside) path = some (world.node other)) :
    middle.paths root rootId (content middle.outside) path = some (middle.node other) := by
  rw [ready.node other different]
  rcases ready.settled with same | ⟨_, id, -, settled⟩
  · rw [same, leads]
  · rw [settled, leads, World.node_of_exists exist, Option.map_some, Node.settle_stored]

/-- A move takes a path to another folder, or throws and changes no name. A file that is not created
yet is created first. -/
theorem move_movesPath {overwrite : Bool} {newParent : Ref}
    (mirrors : Mirrors world root rootId (content world.outside)) (alive : world.Alive root ref)
    (alive' : world.Alive root newParent) (exist : (world.heap newParent).isPending = false)
    (leads : world.paths root rootId (content world.outside) (path ++ [oldName]) =
      some (world.node ref))
    (leads' : world.paths root rootId (content world.outside) above = some (world.node newParent))
    (different : path ≠ above) :
    Outcome (move calls ref newParent overwrite) world
      (fun _ final => Mirrors final root rootId (content final.outside) ∧
        ∃ middle,
          Settled (world.paths root rootId (content world.outside)) middle (world.node ref) ∧
          PathMoved middle (final.paths root rootId (content final.outside)) (path ++ [oldName])
            (above ++ [oldName]))
      (fun exception final => exception.Fault ∨
        Mirrors final root rootId (content final.outside) ∧ Browsed content world root final) := by
  have sole := mirrors.view_sole directory
  have refl : Mirrors world root rootId (content world.outside) ∧
      Browsed content world root world := ⟨mirrors, .refl content world root⟩
  unfold move
  rw [Outcome.bind_iff, getParent_iff]
  refine ⟨fun parent parented => ?_, fun _ => Or.inr refl⟩
  obtain ⟨higher, entry⟩ := mirrors.formed.placed alive parented
  obtain ⟨upper, split, upper_leads⟩ := mirrors.parent_path sole higher entry leads
  obtain ⟨rfl, last⟩ := List.append_inj' split rfl
  obtain rfl := (List.singleton_inj.mp last).symm
  have elsewhere : parent ≠ newParent := by
    rintro rfl
    exact different (sole.resolve_inj upper_leads leads')
  have owner := mirrors.owner_exists higher entry
  rw [Outcome.ite_iff]
  refine ⟨fun _ => ?_, fun equal => absurd elsewhere equal⟩
  rw [Outcome.bind_iff, getItem_iff, Outcome.bind_iff]
  unfold moveItem
  rw [Outcome.bind_iff, checkReadOnlyFS_iff]
  refine ⟨fun _ => Or.inr refl, fun _ => ?_⟩
  rw [Outcome.bind_iff]
  refine (loadItems_browsed directory faults false mirrors higher owner).mono ?_ fun _ _ => Or.inl
  rintro _ first ⟨mirrors', -, browsed⟩
  rw [Outcome.bind_iff, findItem_iff]
  refine ⟨fun found present => ?_, fun _ => Or.inr ⟨mirrors', browsed⟩⟩
  have present' := browsed.kept.owns parent _ ref (mirrors.formed.made higher) entry
  obtain rfl : found = ref := Option.some_inj.mp (present.symm.trans present')
  have placed := mirrors.formed.made alive'
  rw [Outcome.bind_iff]
  refine (loadItems_browsed directory faults false mirrors'
    (browsed.kept.alive mirrors.formed alive')
    ((browsed.kept.isPending newParent placed).trans exist)).mono ?_ fun _ _ => Or.inl
  rintro _ second ⟨mirrors'', shown, browsed'⟩
  have both := browsed.trans browsed'
  have threw : Mirrors second root rootId (content second.outside) ∧
      Browsed content world root second := ⟨mirrors'', both⟩
  have higher'' := both.kept.alive mirrors.formed higher
  have inside := both.kept.alive mirrors.formed alive'
  have entry'' := both.kept.owns parent _ found (mirrors.formed.made higher) entry
  have exist'' := (both.kept.isPending newParent placed).trans exist
  rw [Outcome.bind_iff, checkReadOnlyFS_iff]
  refine ⟨fun _ => Or.inr threw, fun _ => ?_⟩
  rw [Outcome.bind_iff, getItem_iff, Outcome.ite_iff]
  refine ⟨fun _ => Or.inr threw, fun _ => ?_⟩
  rw [Outcome.bind_iff, getItem_iff, Outcome.ite_iff]
  refine ⟨fun _ => Or.inr threw, fun _ => ?_⟩
  rw [Outcome.bind_iff, getItem_iff, Outcome.bind_iff]
  rw [← both.paths mirrors.formed] at upper_leads leads' ⊢
  rw [← both.node (mirrors.formed.made higher)] at upper_leads
  rw [← both.node placed] at leads'
  rw [← both.node (mirrors.formed.made alive)]
  refine (subMove_ready directory faults mirrors'' (both.kept.alive mirrors.formed alive)
    exist'').mono ?_ ?_
  · rintro _ _ ⟨third, ready, outside, rfl, moved⟩
    have mirrored := ready.mirrors
    rw [← ready.id] at moved
    have redated : Redated third { third with outside } := .outside
    have placed_entry : third.owns parent (world.heap found).name = some found := by
      rw [ready.tree.owns, entry'']
    have upper_alive := ready.tree.alive higher''
    have inside_alive := ready.tree.alive inside
    have target_loaded : (third.heap newParent).haveItems = true := ready.haveItems.trans shown
    have allowed := moved.allowed directory mirrored upper_alive placed_entry ready.exist inside_alive
      target_loaded elsewhere
    have not_upper : parent ≠ found := by
      rintro rfl
      exact mirrored.formed.sole.acyclic upper_alive placed_entry .refl
    have not_target : newParent ≠ found := by
      rintro rfl
      exact allowed.not_inside .refl
    have apart : (parent, (world.heap found).name) ≠ (newParent, (world.heap found).name) :=
      fun equal => elsewhere (Prod.mk.inj equal).1
    refine ((rekey_spec (by exact placed_entry) apart).and (rekey_heap _ _)).mono ?_
      fun _ _ no => no.1.elim
    rintro _ middle ⟨rekeyed, heap, silent⟩
    have named : (middle.heap found).name = (world.heap found).name := by
      rw [rekeyed.name]
      exact (mirrored.formed.entry parent _ found upper_alive placed_entry).1
    obtain ⟨-, folderId, name, took⟩ := moved
    have stored := mirrored.stored upper_alive placed_entry ready.exist
    obtain ⟨rfl, rfl⟩ := directory.single third.outside _ _ _ _ _ stored took.was
    rw [setItem_iff, World.outside_setItem, silent]
    have relinked : Mirrors (middle.setItem found fun item =>
        { item with parent := some newParent }) root rootId (content outside) := by
      refine @MirrorsAt.relinked β { third with outside } middle root found parent newParent rootId _ _
        _ (content outside) (redated.mirrors mirrored) rekeyed heap allowed target_loaded
        (fun item => { item with parent := some newParent }) (fun item => ⟨item.name, _, rfl⟩) named
        rfl (fun waiting => ?_) fun other key above shown kept => ?_
      · have no : (third.heap found).isPending = true := waiting
        rw [ready.exist] at no
        cases no
      · exact took.followed directory mirrored upper_alive placed_entry ready.exist inside_alive
          target_loaded rfl above shown kept
    refine ⟨relinked, _, ready.settled, ?_⟩
    exact @MirrorsAt.pathMoved β { third with outside } middle root found parent newParent rootId _ _
      _ path above third.outside calls content directory (redated.mirrors mirrored) rekeyed heap
      allowed target_loaded (fun item => { item with parent := some newParent })
      (fun item => ⟨item.name, _, rfl⟩) relinked (took.elsewhereSame rfl rfl)
      (ready.leads not_upper (mirrors''.owner_exists higher'' entry'') upper_leads)
      (ready.leads not_target exist'' leads')
  · rintro exception final (fault | rfl)
    · exact Or.inl fault
    · exact Or.inr threw

end Andromeda.Folders
