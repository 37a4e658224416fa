import Andromeda.Folders.DirectoryProperties

/-! Renaming and moving items against a backend directory: what is replaced on the backend is
replaced in the tree. -/

set_option autoImplicit false

namespace Andromeda.Folders

open Andromeda.Library

variable {β : Type} {world middle final : World β} {root folder ref source target : Ref}
  {rootId oldName newName : String} {entries entries' : Entries}

/-- The exchange of entries changes nothing else. -/
theorem rekey_heap (replaces : Bool) (world : World β) :
    Outcome (rekey ref source target oldName newName replaces) world
      (fun _ final => (∀ other, ∃ items, final.heap other = { world.heap other with items }) ∧
        final.outside = world.outside)
      (fun _ _ => False) := by
  have changed : ∀ (world : World β) (changed : Ref)
      (change : KeyMap String Ref → KeyMap String Ref) (other : Ref), ∃ items,
      (world.setItem changed fun item => { item with items := change item.items }).heap other =
        { world.heap other with items } := by
    intro world changed change other
    by_cases here : other = changed
    · exact ⟨change (world.heap changed).items, by rw [here, World.heap_setItem_self]⟩
    · exact ⟨(world.heap other).items, World.heap_setItem_of_ne _ _ _ _ here⟩
  have finish : ∀ middle : World β,
      (∀ other, ∃ items, middle.heap other = { world.heap other with items }) →
      middle.outside = world.outside →
      Outcome (do
        eraseEntry source oldName
        setEntry target newName ref : Exec β Unit) middle
        (fun _ final => (∀ other, ∃ items, final.heap other = { world.heap other with items }) ∧
          final.outside = world.outside) (fun _ _ => False) := by
    intro middle before outside
    rw [Outcome.bind_iff, eraseEntry, setItem_iff, setEntry, setItem_iff]
    refine ⟨fun other => ?_, outside⟩
    obtain ⟨first, one⟩ := before other
    obtain ⟨second, two⟩ := changed middle source (fun items => items.erase oldName) other
    obtain ⟨third, three⟩ := changed (middle.setItem source fun item =>
      { item with items := item.items.erase oldName }) target
        (fun items => items.insert newName ref) other
    exact ⟨third, by rw [three, two, one]⟩
  unfold rekey
  rw [Outcome.ite_iff]
  refine ⟨fun _ => ?_, fun _ => finish world (fun other => ⟨_, rfl⟩) rfl⟩
  rw [Outcome.bind_iff, eraseEntry, setItem_iff]
  exact finish _ (changed world target fun items => items.erase newName) rfl

/-- An item takes another place in the tree, and on the backend unless it is pending. -/
theorem MirrorsAt.relinked (mirrors : Mirrors world root rootId entries)
    (rekeyed : Rekeyed world ref source target oldName newName middle)
    (heap : ∀ other, ∃ items, middle.heap other = { world.heap other with items })
    (allowed : Owners.Allowed world.owns root ref source target newName)
    (loaded : (world.heap target).haveItems = true) {change : Item → Item}
    (fields : ∀ item, ∃ name parent, change item = { item with name, parent })
    (name : (change (middle.heap ref)).name = newName)
    (parent : (change (middle.heap ref)).parent = some target)
    (unborn : (world.heap ref).isPending = true → target = source)
    (same : ∀ other key, world.Alive root other → (world.heap other).haveItems = true →
      (∀ replaced, world.owns target newName = some replaced →
        ¬ world.owns.Under replaced other) →
      entries' (world.heap other).id key =
        if other = target ∧ key = newName then world.storedId ref
        else if other = source ∧ key = oldName then none
        else entries (world.heap other).id key) :
    Mirrors (middle.setItem ref change) root rootId entries' := by
  have all : ∀ other, ∃ items name parent, (middle.setItem ref change).heap other =
      { world.heap other with items, name, parent } := by
    intro other
    obtain ⟨items, before⟩ := heap other
    by_cases here : other = ref
    · obtain ⟨name, parent, after⟩ := fields (middle.heap ref)
      exact ⟨items, name, parent, by rw [here, World.heap_setItem_self, after, ← here, before]⟩
    · exact ⟨items, _, _, by rw [World.heap_setItem_of_ne _ _ _ _ here, before]⟩
  have items : (change (middle.heap ref)).items = (middle.heap ref).items := by
    obtain ⟨_, _, after⟩ := fields (middle.heap ref)
    rw [after]
  obtain ⟨formed, owns⟩ := rekeyed.wellFormed mirrors.formed allowed items name parent
  have before : ∀ {other}, (middle.setItem ref change).Alive root other →
      world.Alive root other ∧ ∀ replaced, world.owns target newName = some replaced →
        ¬ world.owns.Under replaced other := by
    intro other above
    rw [World.Alive, owns] at above
    exact rekeyed.relinked.alive_before allowed above
  have shown : (fun (other : Ref) (_ : String) =>
      ((middle.setItem ref change).heap other).haveItems = true) =
        fun other _ => (world.heap other).haveItems = true := by
    funext other _
    obtain ⟨_, _, _, changed⟩ := all other
    rw [changed]
  rw [Mirrors, shown]
  refine mirrors.reshape formed (fun above => (before above).1) (fun other => ?_) (fun other => ?_)
    (fun other above waiting => ?_) (fun other key above hidden => ?_) fun other key above seen => ?_
  · obtain ⟨_, _, _, changed⟩ := all other
    rw [changed]
    rfl
  · obtain ⟨_, _, _, changed⟩ := all other
    rw [changed]
  · have kept := (mirrors.pending other (before above).1 waiting).2
    by_cases here : other = ref
    · subst here
      have placed := (mirrors.formed.entry source oldName other allowed.source_alive
        rekeyed.relinked.entry).2.1
      rw [kept, Option.some_inj] at placed
      obtain ⟨_, _, _, changed⟩ := all other
      have creator : ((middle.setItem other change).heap other).creator =
          (world.heap other).creator := by rw [changed]
      rw [creator, World.heap_setItem_self, parent, unborn waiting, placed]
    · obtain ⟨items, changed⟩ := heap other
      have same := rekeyed.parent other
      rw [World.heap_setItem_of_ne _ _ _ _ here, same, kept, changed]
  · rw [owns]
    cases entry : middle.owns other key with
    | none => rfl
    | some owned =>
        exfalso
        rcases rekeyed.relinked.cases entry with ⟨rfl, -, -⟩ | ⟨-, -, earlier⟩
        · exact hidden loaded
        · exact hidden (mirrors.visible_of_entry (before above).1 earlier)
  · rw [same other key (before above).1 seen (before above).2, owns]
    by_cases new : other = target ∧ key = newName
    · obtain ⟨rfl, rfl⟩ := new
      rw [if_pos ⟨rfl, rfl⟩, rekeyed.relinked.placed, Option.bind_some]
    · by_cases old : other = source ∧ key = oldName
      · obtain ⟨rfl, rfl⟩ := old
        rw [if_neg new, if_pos ⟨rfl, rfl⟩, rekeyed.relinked.left, Option.bind_none]
      · rw [if_neg new, if_neg old, mirrors.mirror other key (before above).1 seen,
          rekeyed.relinked.others other key (fun same => old (Prod.mk.inj same))
            fun same => new (Prod.mk.inj same)]

variable {calls : Calls β} {content : β → Entries} (directory : Directory calls rootId content)

include directory

/-- What the backend has replaced. -/
theorem TookPlace.followed {outside : β} {folderId name targetId : String} {overwrite : Bool}
    (took : TookPlace (content outside) (world.heap ref).id folderId name targetId newName overwrite
      entries')
    (mirrors : Mirrors world root rootId (content outside)) (alive : world.Alive root source)
    (entry : world.owns source oldName = some ref) (exist : (world.heap ref).isPending = false)
    (alive' : world.Alive root target) (loaded : (world.heap target).haveItems = true)
    (same : (world.heap target).id = targetId) {other : Ref} {key : String}
    (above : world.Alive root other) (shown : (world.heap other).haveItems = true)
    (kept : ∀ replaced, world.owns target newName = some replaced →
      ¬ world.owns.Under replaced other) :
    entries' (world.heap other).id key =
      if other = target ∧ key = newName then world.storedId ref
      else if other = source ∧ key = oldName then none
      else content outside (world.heap other).id key := by
  have exists' := mirrors.owner other key above shown
  have stored := mirrors.stored alive entry exist
  obtain ⟨rfl, rfl⟩ := directory.single outside _ _ _ _ _ stored took.was
  subst same
  have sameId : ∀ {upper : Ref}, world.Alive root upper → (world.heap upper).isPending = false →
      ((world.heap other).id = (world.heap upper).id ↔ other = upper) := fun placed stays =>
    ⟨fun ids => mirrors.ids other _ above placed exists' stays ids, fun equal => by rw [equal]⟩
  rw [took.entry, World.storedId_of_exists exist]
  · exact if_congr (and_congr_left' (sameId alive' (mirrors.owner target key alive' loaded))) rfl
      (if_congr (and_congr_left' (sameId alive (mirrors.owner_exists alive entry))) rfl rfl)
  · intro replaced there _ below
    obtain ⟨dup, owned, dupExists, rfl⟩ := mirrors.found alive' loaded there
    exact kept dup owned (mirrors.apart directory (alive'.child owned) dupExists above exists' below)

/-- A rename on the backend, of an item that is there or in whose new place nothing is. -/
theorem subRename_mirrors {overwrite : Bool}
    (mirrors : Mirrors world root rootId (content world.outside)) (alive : world.Alive root folder)
    (loaded : (world.heap folder).haveItems = true) (entry : world.owns folder oldName = some ref)
    (clear : (world.heap ref).isPending = true →
      content world.outside (world.heap folder).id newName = none) :
    Outcome (subRename calls ref newName overwrite) world
      (fun _ final => (∃ outside, final = { world with outside }) ∧
        ∀ other key, world.Alive root other → (world.heap other).haveItems = true →
          (∀ replaced, world.owns folder newName = some replaced →
            ¬ world.owns.Under replaced other) →
          content final.outside (world.heap other).id key =
            if other = folder ∧ key = newName then world.storedId ref
            else if other = folder ∧ key = oldName then none
            else content world.outside (world.heap other).id key)
      (fun _ _ => True) := by
  -- the item was on the backend
  have renamed : ∀ outside, (world.heap ref).isPending = false →
      Renamed (content world.outside) (world.heap ref).id newName overwrite (content outside) →
      ∀ other key, world.Alive root other → (world.heap other).haveItems = true →
        (∀ replaced, world.owns folder newName = some replaced →
          ¬ world.owns.Under replaced other) →
        content outside (world.heap other).id key =
          if other = folder ∧ key = newName then world.storedId ref
          else if other = folder ∧ key = oldName then none
          else content world.outside (world.heap other).id key := by
    rintro outside exist ⟨folderId, name, took⟩ other key above shown kept
    have stored := mirrors.stored alive entry exist
    obtain ⟨same, -⟩ := directory.single world.outside _ _ _ _ _ stored took.was
    exact took.followed directory mirrors alive entry exist alive loaded same above shown kept
  unfold subRename
  rw [Outcome.bind_iff, checkReadOnlyFS_iff]
  refine ⟨fun _ => trivial, fun _ => ?_⟩
  rw [Outcome.bind_iff, getItem_iff]
  cases kind : (world.heap ref).kind with
  | file =>
      rw [Outcome.ite_iff]
      refine ⟨fun present => ?_, fun missing => ⟨⟨world.outside, rfl⟩, ?_⟩⟩
      · have exist : (world.heap ref).isPending = false := by
          rw [Item.isPending, present, Bool.not_true, Bool.and_false]
        rw [call_iff]
        refine (Outcome.ran _ _).mono (fun _ outside returned => ?_) fun _ _ _ => trivial
        exact ⟨⟨outside, rfl⟩, renamed outside exist (directory.renameFile _ _ _ _ _ returned)⟩
      · have waiting : (world.heap ref).isPending = true := by
          rw [Item.isPending, kind, Bool.eq_false_of_not_eq_true missing]
          rfl
        have nowhere : world.storedId ref = none := if_pos waiting
        intro other key above shown _
        split
        · next here => rw [here.1, here.2, clear waiting, nowhere]
        · split
          · next here =>
              rw [here.1, here.2, mirrors.mirror folder oldName alive loaded, entry,
                Option.bind_some, nowhere]
          · rfl
  | folder =>
      have exist : (world.heap ref).isPending = false := by
        rw [Item.isPending, kind]
        rfl
      rw [call_iff]
      refine (Outcome.ran _ _).mono (fun _ outside returned => ?_) fun _ _ _ => trivial
      exact ⟨⟨outside, rfl⟩, renamed outside exist (directory.renameFolder _ _ _ _ _ returned)⟩

/-- An item is renamed. -/
theorem rename_mirrors {newName : String} {overwrite : Bool}
    (mirrors : Mirrors world root rootId (content world.outside)) (alive : world.Alive root ref)
    (clear : (world.heap ref).isPending = true → ∀ parent,
      (world.heap ref).parent = some parent →
      content world.outside (world.heap parent).id newName = none) :
    Outcome (rename calls ref newName overwrite) world
      (fun _ final => Mirrors final root rootId (content final.outside)) (fun _ _ => True) := by
  unfold rename
  rw [Outcome.bind_iff, getItem_iff, Outcome.ite_iff]
  refine ⟨fun different => ?_, fun _ => mirrors⟩
  rw [Outcome.bind_iff, validateName_iff]
  refine ⟨fun _ => ?_, fun _ => trivial⟩
  rw [Outcome.bind_iff, getParent_iff]
  refine ⟨fun parent parented => ?_, fun _ => trivial⟩
  obtain ⟨above, entry⟩ := mirrors.formed.placed alive parented
  rw [Outcome.bind_iff, getItem_iff, Outcome.bind_iff]
  unfold renameItem
  rw [Outcome.bind_iff, checkReadOnlyFS_iff]
  refine ⟨fun _ => trivial, fun _ => ?_⟩
  rw [Outcome.bind_iff]
  refine (loadItems_mirrors directory true mirrors above
    (mirrors.owner_exists above entry)).mono ?_ fun _ _ => id
  rintro _ loaded ⟨mirrors', shown, kept, silent⟩
  rw [Outcome.bind_iff, findItem_iff]
  refine ⟨fun found present => ?_, fun _ => trivial⟩
  have placed := mirrors.formed.made above
  have present' := kept.owns parent _ ref placed entry
  have here : found = ref := Option.some_inj.mp (present.symm.trans present')
  subst here
  have above' := kept.alive mirrors.formed above
  have made := mirrors.formed.made alive
  rw [if_pos (Ne.symm different), Outcome.bind_iff, getItem_iff, Outcome.ite_iff]
  refine ⟨fun _ => trivial, fun _ => ?_⟩
  rw [Outcome.bind_iff]
  refine (subRename_mirrors directory mirrors' above' shown present fun waiting => ?_).mono ?_
    fun _ _ => id
  · rw [kept.isPending found made] at waiting
    rw [silent, kept.id parent placed]
    exact clear waiting parent parented
  rintro _ _ ⟨⟨outside, rfl⟩, same⟩
  have redated : Redated loaded { loaded with outside } := .outside
  have mirrors'' := redated.mirrors mirrors'
  have apart : (parent, (world.heap found).name) ≠ (parent, newName) := fun equal =>
    different (Prod.mk.inj equal).2.symm
  refine ((rekey_spec (by exact present) apart).and (rekey_heap _ _)).mono ?_
    fun _ _ no => no.1.elim
  rintro _ middle ⟨rekeyed, heap, silent'⟩
  have sole := mirrors''.formed.sole
  have allowed : Owners.Allowed ({ loaded with outside } : World β).owns root found parent parent
      newName :=
    { sole := sole
      source_alive := above'
      target_alive := above'
      not_inside := sole.acyclic above' present
      not_replaced := fun replaced entry => sole.acyclic above' entry }
  have parent' : (middle.heap found).parent = some parent := by
    rw [rekeyed.parent, kept.parent found made, parented]
  rw [setItem_iff, World.outside_setItem, silent']
  exact @MirrorsAt.relinked β { loaded with outside } middle root found parent parent rootId _ _ _ _
    mirrors'' rekeyed heap allowed shown (fun item => { item with name := newName })
    (fun item => ⟨newName, item.parent, rfl⟩) rfl parent' (fun _ => rfl) same

private theorem subMove_mirrors {overwrite : Bool}
    (mirrors : Mirrors world root rootId (content world.outside)) (alive : world.Alive root ref)
    (exist : (world.heap target).isPending = false) :
    Outcome (subMove calls ref (world.heap target).id overwrite) world
      (fun _ final => ∃ middle, Mirrors middle root rootId (content middle.outside) ∧
        SameTree world middle ∧ (middle.heap ref).isPending = false ∧
        (middle.heap target).id = (world.heap target).id ∧
        (middle.heap target).haveItems = (world.heap target).haveItems ∧
        ∃ outside, final = { middle with outside } ∧
          Moved (content middle.outside) (middle.heap ref).id (world.heap target).id overwrite
            (content outside))
      (fun _ _ => True) := by
  unfold subMove
  rw [Outcome.bind_iff, checkReadOnlyFS_iff]
  refine ⟨fun _ => trivial, fun _ => ?_⟩
  rw [Outcome.bind_iff, getItem_iff]
  cases kind : (world.heap ref).kind with
  | file =>
      have moved : ∀ middle : World β, Mirrors middle root rootId (content middle.outside) →
          SameTree world middle → (middle.heap ref).isPending = false →
          (middle.heap target).id = (world.heap target).id →
          (middle.heap target).haveItems = (world.heap target).haveItems →
          Outcome (do
            call (calls.moveFile (← getItem ref).id (world.heap target).id overwrite) :
              Exec β Unit) middle
            (fun _ final => ∃ middle, Mirrors middle root rootId (content middle.outside) ∧
              SameTree world middle ∧ (middle.heap ref).isPending = false ∧
              (middle.heap target).id = (world.heap target).id ∧
              (middle.heap target).haveItems = (world.heap target).haveItems ∧
              ∃ outside, final = { middle with outside } ∧
                Moved (content middle.outside) (middle.heap ref).id (world.heap target).id overwrite
                  (content outside))
            (fun _ _ => True) := by
        intro middle mirrors' tree exist' sameId loaded
        rw [Outcome.bind_iff, getItem_iff, call_iff]
        refine (Outcome.ran _ _).mono (fun _ outside returned => ?_) fun _ _ _ => trivial
        exact ⟨middle, mirrors', tree, exist', sameId, loaded, outside, rfl,
          directory.moveFile _ _ _ _ _ returned⟩
      rw [Outcome.bind_iff, getItem_iff, Outcome.ite_iff]
      refine ⟨fun missing => ?_, fun present => ?_⟩
      · have apart : target ≠ ref := by
          rintro rfl
          have waiting : (world.heap target).isPending = true := by
            simp only [Item.isPending, kind, decide_true, Bool.true_and]
            exact missing
          rw [exist] at waiting
          cases waiting
        rw [Outcome.bind_iff]
        refine (flushCache_mirrors directory mirrors alive kind).mono ?_ fun _ _ => id
        rintro _ middle ⟨mirrors', flushed⟩
        exact moved middle mirrors' flushed.tree flushed.isPending
          (by rw [flushed.others target apart]) (by rw [flushed.others target apart])
      · have stays : (world.heap ref).isPending = false := by
          simp only [Item.isPending, kind, decide_true, Bool.true_and]
          exact Bool.eq_false_of_not_eq_true present
        exact moved world mirrors (.refl world) stays rfl rfl
  | folder =>
      have stays : (world.heap ref).isPending = false := by
        rw [Item.isPending, kind]
        rfl
      rw [Outcome.bind_iff, getItem_iff, call_iff]
      refine (Outcome.ran _ _).mono (fun _ outside returned => ?_) fun _ _ _ => trivial
      exact ⟨world, mirrors, .refl world, stays, rfl, rfl, outside, rfl,
        directory.moveFolder _ _ _ _ _ returned⟩

/-- What the backend has moved may take its place in the tree. -/
theorem Moved.allowed {outside : β} {overwrite : Bool}
    (moved : Moved (content outside) (world.heap ref).id (world.heap target).id overwrite entries')
    (mirrors : Mirrors world root rootId (content outside)) (alive : world.Alive root source)
    (entry : world.owns source oldName = some ref) (exist : (world.heap ref).isPending = false)
    (alive' : world.Alive root target) (loaded : (world.heap target).haveItems = true)
    (different : source ≠ target) :
    Owners.Allowed world.owns root ref source target oldName := by
  obtain ⟨outsideOf, folderId, name, took⟩ := moved
  have exist' := mirrors.owner target oldName alive' loaded
  have owner := mirrors.owner_exists alive entry
  refine ⟨mirrors.formed.sole, alive, alive', fun below => ?_, fun replaced owned below => ?_⟩
  · exact outsideOf (mirrors.push (alive.child entry) below exist')
  · cases dup : (world.heap replaced).isPending with
    | true =>
        have same := mirrors.leaf (alive'.child owned) dup below
        rw [same, dup] at owner
        cases owner
    | false =>
        have stored := mirrors.stored alive entry exist
        obtain ⟨rfl, rfl⟩ := directory.single outside _ _ _ _ _ stored took.was
        refine (took.allowed _ (mirrors.stored alive' owned dup) fun same => ?_).2
          (mirrors.push (alive'.child owned) (below.child entry) exist)
        have equal := mirrors.ids replaced ref (alive'.child owned) (alive.child entry) dup exist same
        subst equal
        exact different (mirrors.formed.sole.place _ _ _ _ _ alive alive' entry owned).1

/-- An item is moved. -/
theorem move_mirrors {newParent : Ref} {overwrite : Bool}
    (mirrors : Mirrors world root rootId (content world.outside)) (alive : world.Alive root ref)
    (alive' : world.Alive root newParent) (exist : (world.heap newParent).isPending = false) :
    Outcome (move calls ref newParent overwrite) world
      (fun _ final => Mirrors final root rootId (content final.outside)) (fun _ _ => True) := by
  unfold move
  rw [Outcome.bind_iff, getParent_iff]
  refine ⟨fun parent parented => ?_, fun _ => trivial⟩
  rw [Outcome.ite_iff]
  refine ⟨fun different => ?_, fun _ => mirrors⟩
  obtain ⟨above, entry⟩ := mirrors.formed.placed alive parented
  rw [Outcome.bind_iff, getItem_iff, Outcome.bind_iff]
  unfold moveItem
  rw [Outcome.bind_iff, checkReadOnlyFS_iff]
  refine ⟨fun _ => trivial, fun _ => ?_⟩
  rw [Outcome.bind_iff]
  refine (loadItems_mirrors directory false mirrors above
    (mirrors.owner_exists above entry)).mono ?_ fun _ _ => id
  rintro _ first ⟨mirrors', -, kept, -⟩
  rw [Outcome.bind_iff, findItem_iff]
  refine ⟨fun found present => ?_, fun _ => trivial⟩
  have present' := kept.owns parent _ ref (mirrors.formed.made above) entry
  have here : found = ref := Option.some_inj.mp (present.symm.trans present')
  subst here
  have placed := mirrors.formed.made alive'
  rw [Outcome.bind_iff]
  refine (loadItems_mirrors directory false mirrors' (kept.alive mirrors.formed alive')
    ((kept.isPending newParent placed).trans exist)).mono ?_ fun _ _ => id
  rintro _ second ⟨mirrors'', shown, kept', -⟩
  have both := kept.trans kept'
  have above'' := both.alive mirrors.formed above
  have inside := both.alive mirrors.formed alive'
  have entry'' := both.owns parent _ found (mirrors.formed.made above) entry
  rw [Outcome.bind_iff, checkReadOnlyFS_iff]
  refine ⟨fun _ => trivial, fun _ => ?_⟩
  rw [Outcome.bind_iff, getItem_iff, Outcome.ite_iff]
  refine ⟨fun _ => trivial, fun _ => ?_⟩
  rw [Outcome.bind_iff, getItem_iff, Outcome.ite_iff]
  refine ⟨fun _ => trivial, fun _ => ?_⟩
  rw [Outcome.bind_iff, getItem_iff, Outcome.bind_iff]
  refine (subMove_mirrors directory mirrors'' (both.alive mirrors.formed alive)
    ((both.isPending newParent placed).trans exist)).mono ?_ fun _ _ => id
  rintro _ _ ⟨third, mirrored, tree, stays, sameId, loaded, outside, rfl, moved⟩
  rw [← sameId] at moved
  have redated : Redated third { third with outside } := .outside
  have placed_entry : third.owns parent (world.heap found).name = some found := by
    rw [tree.owns, entry'']
  have upper_alive := tree.alive above''
  have inside_alive := tree.alive inside
  have target_loaded : (third.heap newParent).haveItems = true := loaded.trans shown
  have allowed := moved.allowed directory mirrored upper_alive placed_entry stays inside_alive target_loaded
    different
  have apart : (parent, (world.heap found).name) ≠ (newParent, (world.heap found).name) :=
    fun equal => different (Prod.mk.inj equal).1
  refine ((rekey_spec (by exact placed_entry) apart).and (rekey_heap _ _)).mono ?_
    fun _ _ no => no.1.elim
  rintro _ middle ⟨rekeyed, heap, silent⟩
  have named : (middle.heap found).name = (world.heap found).name := by
    rw [rekeyed.name]
    exact (mirrored.formed.entry parent _ found upper_alive placed_entry).1
  rw [setItem_iff, World.outside_setItem, silent]
  refine @MirrorsAt.relinked β { third with outside } middle root found parent newParent rootId _ _
    _ (content outside) (redated.mirrors mirrored) rekeyed heap allowed target_loaded
    (fun item => { item with parent := some newParent }) (fun item => ⟨item.name, _, rfl⟩) named rfl
    (fun waiting => ?_) fun other key above shown kept => ?_
  · have no : (third.heap found).isPending = true := waiting
    rw [stays] at no
    cases no
  · obtain ⟨-, folderId, name, took⟩ := moved
    have stored := mirrored.stored upper_alive placed_entry stays
    obtain ⟨rfl, rfl⟩ := directory.single third.outside _ _ _ _ _ stored took.was
    exact took.followed directory mirrored upper_alive placed_entry stays inside_alive target_loaded rfl above
      shown kept

end Andromeda.Folders
