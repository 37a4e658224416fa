import Andromeda.Folders.Items

/-! What construction and refresh of items do to the tree. -/

set_option autoImplicit false

namespace Andromeda.Folders

open Andromeda.Library

variable {α β : Type}

namespace World

variable (world : World β) (ref other : Ref)

@[simp] theorem heap_setItem_self (change : Item → Item) :
    (world.setItem ref change).heap ref = change (world.heap ref) :=
  Function.update_self ref _ world.heap

theorem heap_setItem_of_ne (change : Item → Item) (different : other ≠ ref) :
    (world.setItem ref change).heap other = world.heap other :=
  Function.update_of_ne different _ world.heap

@[simp] theorem next_setItem (change : Item → Item) :
    (world.setItem ref change).next = world.next := rfl

@[simp] theorem outside_setItem (change : Item → Item) :
    (world.setItem ref change).outside = world.outside := rfl

@[simp] theorem setItem_setItem (first second : Item → Item) :
    (world.setItem ref first).setItem ref second =
      world.setItem ref fun item => second (first item) := by
  simp only [setItem, Function.update_self, Function.update_idem]

theorem setItem_self {change : Item → Item} (same : change (world.heap ref) = world.heap ref) :
    world.setItem ref change = world := by
  simp only [setItem, same, Function.update_eq_self]

@[simp] theorem heap_allocate_next (item : Item) :
    (world.allocate item).heap world.next = item :=
  Function.update_self world.next _ world.heap

theorem heap_allocate_of_ne (item : Item) (different : other ≠ world.next) :
    (world.allocate item).heap other = world.heap other :=
  Function.update_of_ne different _ world.heap

@[simp] theorem next_allocate (item : Item) :
    (world.allocate item).next = world.next + 1 := rfl

end World

section

variable {world : World β} {Returned : α → World β → Prop} {Thrown : ItemError → World β → Prop}

@[simp] theorem getItem_iff {ref : Ref} {Returned : Item → World β → Prop} :
    Outcome (getItem ref) world Returned Thrown ↔ Returned (world.heap ref) world := Iff.rfl

@[simp] theorem setItem_iff {ref : Ref} {change : Item → Item}
    {Returned : Unit → World β → Prop} :
    Outcome (setItem ref change) world Returned Thrown ↔
      Returned () (world.setItem ref change) := Iff.rfl

@[simp] theorem allocate_iff {item : Item} {Returned : Ref → World β → Prop} :
    Outcome (allocate item) world Returned Thrown ↔
      Returned world.next (world.allocate item) := Iff.rfl

@[simp] theorem call_iff {request : EStateM ItemError β α} :
    Outcome (call request) world Returned Thrown ↔
      Outcome request world.outside (fun value outside => Returned value { world with outside })
        fun exception outside => Thrown exception { world with outside } := by
  simp only [Outcome, call]
  cases request world.outside <;> rfl

@[simp] theorem notify_iff {change : β → β} {Returned : Unit → World β → Prop} :
    Outcome (notify change) world Returned Thrown ↔
      Returned () { world with outside := change world.outside } := Iff.rfl

@[simp] theorem field_iff {value : Option α} :
    Outcome (field value) world Returned Thrown ↔
      (∀ found, value = some found → Returned found world) ∧ (value = none → Thrown .json world) := by
  cases value with
  | none => simp [field]
  | some found => simp [field]

/-- A name the validation lets pass. -/
def ValidName (name : String) : Prop := ¬ (name = "." ∨ name = ".." ∨ '/' ∈ name.toList)

theorem validateName_iff {name : String} {backend : Bool} {Returned : Unit → World β → Prop} :
    Outcome (validateName name backend) world Returned Thrown ↔
      (ValidName name → Returned () world) ∧
        (¬ ValidName name → Thrown (if backend then .json else .invalidName) world) := by
  unfold validateName ValidName
  rw [Outcome.ite_iff, not_not]
  exact And.comm

end

/-- What a refresh leaves of an item. -/
structure SameItem (item final : Item) : Prop where
  kind : final.kind = item.kind
  parent : final.parent = item.parent
  config : final.config = item.config
  backendExists : final.backendExists = item.backendExists
  creator : final.creator = item.creator
  items : final.items = item.items
  haveItems : final.haveItems = item.haveItems

theorem SameItem.refl (item : Item) : SameItem item item := ⟨rfl, rfl, rfl, rfl, rfl, rfl, rfl⟩

private theorem SameItem.trans {first second third : Item} (left : SameItem first second)
    (right : SameItem second third) : SameItem first third :=
  ⟨right.kind.trans left.kind, right.parent.trans left.parent, right.config.trans left.config,
    right.backendExists.trans left.backendExists, right.creator.trans left.creator,
    right.items.trans left.items, right.haveItems.trans left.haveItems⟩

/-- Only one item changed, as a refresh changes it. -/
structure Refreshed (world : World β) (ref : Ref) (data : ItemData) (final : World β) : Prop where
  others : ∀ other, other ≠ ref → final.heap other = world.heap other
  same : SameItem (world.heap ref) (final.heap ref)
  name : (final.heap ref).name = (world.heap ref).name ∨ data.name = some (final.heap ref).name
  id : (final.heap ref).id = (world.heap ref).id ∨ (world.heap ref).id = ""
  next : final.next = world.next

variable {world middle final : World β} {ref : Ref} {data : ItemData}

private theorem Refreshed.refl (world : World β) (ref : Ref) (data : ItemData) :
    Refreshed world ref data world :=
  ⟨fun _ _ => rfl, .refl _, Or.inl rfl, Or.inl rfl, rfl⟩

private theorem Refreshed.setItem (refreshed : Refreshed world ref data middle)
    {change : Item → Item}
    (same : SameItem (middle.heap ref) (change (middle.heap ref)))
    (name : (change (middle.heap ref)).name = (middle.heap ref).name ∨
      data.name = some (change (middle.heap ref)).name)
    (id : (change (middle.heap ref)).id = (middle.heap ref).id ∨ (world.heap ref).id = "") :
    Refreshed world ref data (middle.setItem ref change) where
  others := fun other different =>
    (middle.heap_setItem_of_ne ref other change different).trans (refreshed.others other different)
  same := by
    rw [World.heap_setItem_self]
    exact refreshed.same.trans same
  name := by
    rw [World.heap_setItem_self]
    rcases name with kept | new
    · rw [kept]
      exact refreshed.name
    · exact Or.inr new
  id := by
    rw [World.heap_setItem_self]
    rcases id with kept | empty
    · rw [kept]
      exact refreshed.id
    · exact Or.inr empty
  next := refreshed.next

private theorem refreshItem_spec (world : World β) (ref : Ref) (data : ItemData) :
    Outcome (refreshItem ref data) world
      (fun _ final => Refreshed world ref data final ∧ final.outside = world.outside ∧
        data.name = some (final.heap ref).name ∧ (final.heap ref).id = (world.heap ref).id)
      (fun _ final => Refreshed world ref data final ∧ final.outside = world.outside) := by
  have start := Refreshed.refl world ref data
  unfold refreshItem
  rw [Outcome.bind_iff, field_iff]
  refine ⟨fun newName named => ?_, fun _ => ⟨start, rfl⟩⟩
  -- the dates, once the name is the new one
  have dates : ∀ middle, Refreshed world ref data middle →
      (middle.heap ref).name = newName →
      (middle.heap ref).id = (world.heap ref).id → middle.outside = world.outside →
      Outcome (do
        let newCreated ← field data.dateCreated
        setItem ref fun item => { item with created := newCreated }
        let newModified ← field data.dateModified
        setItem ref fun item => { item with modified := newModified.getD item.modified }
        let newAccessed ← field data.dateAccessed
        setItem ref fun item => { item with accessed := newAccessed.getD item.accessed } :
          Exec β Unit) middle
      (fun _ final => Refreshed world ref data final ∧ final.outside = world.outside ∧
        data.name = some (final.heap ref).name ∧ (final.heap ref).id = (world.heap ref).id)
      (fun _ final => Refreshed world ref data final ∧ final.outside = world.outside) := by
    intro middle refreshed name id outside
    have change : ∀ change : Item → Item, SameItem (middle.heap ref) (change (middle.heap ref)) →
        (change (middle.heap ref)).name = (middle.heap ref).name →
        (change (middle.heap ref)).id = (middle.heap ref).id →
        Refreshed world ref data (middle.setItem ref change) := fun change same kept keptId =>
      refreshed.setItem same (Or.inl kept) (Or.inl keptId)
    simp only [Outcome.bind_iff, field_iff, setItem_iff, World.setItem_setItem,
      World.heap_setItem_self]
    refine ⟨fun newCreated _ => ⟨fun newModified _ => ⟨fun newAccessed _ => ?_, fun _ => ?_⟩,
      fun _ => ?_⟩, fun _ => ⟨refreshed, outside⟩⟩
    · exact ⟨change _ ⟨rfl, rfl, rfl, rfl, rfl, rfl, rfl⟩ rfl rfl, outside, by rw [named, name], id⟩
    · exact ⟨change _ ⟨rfl, rfl, rfl, rfl, rfl, rfl, rfl⟩ rfl rfl, outside⟩
    · exact ⟨change _ ⟨rfl, rfl, rfl, rfl, rfl, rfl, rfl⟩ rfl rfl, outside⟩
  rw [Outcome.bind_iff, getItem_iff]
  by_cases renamed : newName ≠ (world.heap ref).name
  · rw [if_pos renamed, Outcome.bind_iff, validateName_iff]
    refine ⟨fun _ => ?_, fun _ => ⟨start, rfl⟩⟩
    rw [Outcome.bind_iff, setItem_iff]
    exact dates _ (start.setItem ⟨rfl, rfl, rfl, rfl, rfl, rfl, rfl⟩ (Or.inr named) (Or.inl rfl))
      (by rw [World.heap_setItem_self]) (by rw [World.heap_setItem_self]) rfl
  · rw [if_neg renamed]
    exact dates world start (not_not.mp renamed).symm rfl rfl

/-- The ID of an item that was refreshed: a file without one takes the server's. -/
def IdRefreshed (item : Item) (data : ItemData) (final : Item) : Prop :=
  if item.kind = .file ∧ item.id = "" then data.id = some final.id else final.id = item.id

variable (calls : Calls β)

/-- A refresh tells a file's page manager of a new size at most. -/
def SizeTold (world : World β) (ref : Ref) (final : World β) : Prop :=
  final.outside = world.outside ∨
    ∃ size, final.outside = calls.remoteChanged ref size world.outside

theorem refreshFile_spec (world : World β) (ref : Ref) (data : ItemData) :
    Outcome (refreshFile calls ref data) world
      (fun _ final => Refreshed world ref data final ∧ SizeTold calls world ref final ∧
        data.name = some (final.heap ref).name ∧
        if (world.heap ref).id = "" then data.id = some (final.heap ref).id
        else (final.heap ref).id = (world.heap ref).id)
      (fun _ final => Refreshed world ref data final ∧ SizeTold calls world ref final) := by
  unfold refreshFile
  rw [Outcome.bind_iff]
  refine (refreshItem_spec world ref data).mono ?_ fun _ _ thrown =>
    ⟨thrown.1, Or.inl thrown.2⟩
  rintro _ middle ⟨refreshed, outside, named, id⟩
  -- the size, once the ID is settled
  have size : ∀ middle, Refreshed world ref data middle →
      middle.outside = world.outside → data.name = some (middle.heap ref).name →
      (if (world.heap ref).id = "" then data.id = some (middle.heap ref).id
        else (middle.heap ref).id = (world.heap ref).id) →
      Outcome (do
        let newSize ← field data.size
        if newSize ≠ calls.backendSize ref (← get).outside then
          notify (calls.remoteChanged ref newSize) : Exec β Unit) middle
      (fun _ final => Refreshed world ref data final ∧ SizeTold calls world ref final ∧
        data.name = some (final.heap ref).name ∧
        if (world.heap ref).id = "" then data.id = some (final.heap ref).id
        else (final.heap ref).id = (world.heap ref).id)
      (fun _ final => Refreshed world ref data final ∧ SizeTold calls world ref final) := by
    intro middle refreshed outside named id
    rw [Outcome.bind_iff, field_iff]
    refine ⟨fun newSize _ => ?_, fun _ => ⟨refreshed, Or.inl outside⟩⟩
    rw [Outcome.bind_iff, Outcome.get_iff, Outcome.ite_iff, notify_iff]
    have told : Refreshed world ref data
        { middle with outside := calls.remoteChanged ref newSize middle.outside } :=
      ⟨refreshed.others, refreshed.same, refreshed.name, refreshed.id, refreshed.next⟩
    exact ⟨fun _ => ⟨told, Or.inr ⟨newSize, by rw [outside]⟩, named, id⟩,
      fun _ => ⟨refreshed, Or.inl outside, named, id⟩⟩
  rw [Outcome.bind_iff, getItem_iff, Outcome.ite_iff, id]
  refine ⟨fun empty => ?_, fun present => size middle refreshed outside named
    (by rw [if_neg present, id])⟩
  rw [Outcome.bind_iff, field_iff]
  refine ⟨fun newId found => ?_, fun _ => ⟨refreshed, Or.inl outside⟩⟩
  rw [Outcome.bind_iff, setItem_iff]
  refine size _ ?_ outside (by rw [World.heap_setItem_self]; exact named)
    (by rw [World.heap_setItem_self, if_pos empty]; exact found)
  exact refreshed.setItem ⟨rfl, rfl, rfl, rfl, rfl, rfl, rfl⟩ (Or.inl rfl) (Or.inr empty)

theorem refresh_spec (world : World β) (ref : Ref) (data : ItemData) :
    Outcome (refresh calls ref data) world
      (fun _ final => Refreshed world ref data final ∧ SizeTold calls world ref final ∧
        data.name = some (final.heap ref).name ∧ IdRefreshed (world.heap ref) data (final.heap ref))
      (fun _ final => Refreshed world ref data final ∧ SizeTold calls world ref final) := by
  unfold refresh
  rw [Outcome.bind_iff, getItem_iff]
  cases kind : (world.heap ref).kind with
  | file =>
      refine (refreshFile_spec calls world ref data).mono ?_ fun _ _ => id
      rintro _ final ⟨refreshed, told, named, idRefreshed⟩
      refine ⟨refreshed, told, named, ?_⟩
      simpa only [IdRefreshed, kind, true_and] using idRefreshed
  | folder =>
      refine (refreshItem_spec world ref data).mono ?_ fun _ _ thrown =>
        ⟨thrown.1, Or.inl thrown.2⟩
      rintro _ final ⟨refreshed, outside, named, id⟩
      refine ⟨refreshed, Or.inl outside, named, ?_⟩
      simpa only [IdRefreshed, kind, reduceCtorEq, false_and, if_false] using id

/-- A new item was made, and is not in a map yet. -/
structure Made (world : World β) (folder : Ref) (data : ItemData) (kind : Kind) (ref : Ref)
    (final : World β) : Prop where
  fresh : ref = world.next
  next : final.next = world.next + 1
  others : ∀ other, other ≠ ref → final.heap other = world.heap other
  exist : (final.heap ref).backendExists = decide (kind = .file)
  kind : (final.heap ref).kind = kind
  id : data.id = some (final.heap ref).id
  name : data.name = some (final.heap ref).name
  parent : (final.heap ref).parent = some folder
  items : (final.heap ref).items = .empty
  haveItems : (final.heap ref).haveItems = false

theorem itemFrom_spec (kind : Kind) (world : World β) (data : ItemData) :
    Outcome (itemFrom kind data) world
      (fun item final => world = final ∧ item.kind = kind ∧ data.id = some item.id ∧
        data.name = some item.name ∧ item.backendExists = false ∧ item.items = .empty ∧
        item.haveItems = false)
      (fun _ final => world = final) := by
  simp only [itemFrom, Outcome.bind_iff, field_iff, Outcome.pure_iff, implies_true, and_true]
  intro id foundId name foundName _ _ _ _ _ _
  exact ⟨trivial, rfl, foundId, foundName, rfl, rfl, rfl⟩

theorem newFile_spec (world : World β) (folder : Ref) (data : ItemData) :
    Outcome (newFile calls folder data) world
      (fun ref final => Made world folder data .file ref final)
      (fun _ final => final.heap = world.heap ∧ final.next = world.next) := by
  unfold newFile
  rw [Outcome.bind_iff]
  refine (itemFrom_spec .file world data).mono ?_ fun _ _ same => same ▸ ⟨rfl, rfl⟩
  rintro item _ ⟨rfl, kind, id, name, exist, items, haveItems⟩
  simp only [Outcome.bind_iff, field_iff, call_iff, allocate_iff, and_self, implies_true, and_true]
  intro size _ storage _
  refine (Outcome.ran _ _).mono (fun config outside _ => ?_) fun _ _ _ => trivial
  have made := fun item : Item =>
    World.heap_allocate_next ({ world with outside := outside } : World β) item
  exact
    { fresh := rfl
      next := rfl
      others := fun other different => World.heap_allocate_of_ne _ other _ different
      kind := by rw [made]; exact kind
      id := by rw [made]; exact id
      name := by rw [made]; exact name
      parent := by rw [made]
      exist := by rw [made]; rfl
      items := by rw [made]; exact items
      haveItems := by rw [made]; exact haveItems }

theorem newFolder_spec (world : World β) (folder : Ref) (data : ItemData) :
    Outcome (newFolder calls folder data) world
      (fun ref final => Made world folder data .folder ref final)
      (fun _ final => final.heap = world.heap ∧ final.next = world.next) := by
  unfold newFolder
  rw [Outcome.bind_iff]
  refine (itemFrom_spec .folder world data).mono ?_ fun _ _ same => same ▸ ⟨rfl, rfl⟩
  rintro item _ ⟨rfl, kind, id, name, exist, items, haveItems⟩
  simp only [Outcome.bind_iff, field_iff, call_iff, allocate_iff, and_self, implies_true, and_true]
  intro storage _
  refine (Outcome.ran _ _).mono (fun config outside _ => ?_) fun _ _ _ => trivial
  have made := fun item : Item =>
    World.heap_allocate_next ({ world with outside := outside } : World β) item
  exact
    { fresh := rfl
      next := rfl
      others := fun other different => World.heap_allocate_of_ne _ other _ different
      kind := by rw [made]; exact kind
      id := by rw [made]; exact id
      name := by rw [made]; exact name
      parent := by rw [made]
      exist := by rw [made]; exact exist
      items := by rw [made]; exact items
      haveItems := by rw [made]; exact haveItems }

theorem newItem_spec (world : World β) (folder : Ref) (data : ItemData) (kind : Kind) :
    Outcome (newItem calls folder data kind) world
      (fun ref final => Made world folder data kind ref final)
      (fun _ final => final.heap = world.heap ∧ final.next = world.next) := by
  cases kind with
  | file => exact newFile_spec calls world folder data
  | folder => exact newFolder_spec calls world folder data

theorem owns_withoutOthers {folder : Ref} (newItems : NewItemMap) (name : String) :
    (withoutOthers world folder newItems).owns folder name =
      (world.owns folder name).filter fun ref =>
        (newItems.find? name).isSome || (world.heap ref).isPending := by
  simp only [World.owns, withoutOthers, World.heap_setItem_self, KeyMap.find?_filter]

theorem heap_withoutOthers {folder : Ref} (newItems : NewItemMap) (ref : Ref) :
    ((withoutOthers world folder newItems).heap ref).kind = (world.heap ref).kind ∧
      ((withoutOthers world folder newItems).heap ref).id = (world.heap ref).id := by
  by_cases same : ref = folder
  · subst same
    rw [withoutOthers, World.heap_setItem_self]
    exact ⟨rfl, rfl⟩
  · rw [withoutOthers, World.heap_setItem_of_ne _ _ _ _ same]
    exact ⟨rfl, rfl⟩

end Andromeda.Folders
