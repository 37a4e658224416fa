import Andromeda.Database.IdentityMap
import Andromeda.Database.SessionProperties
import Mathlib.Data.List.Forall2
import Mathlib.Tactic.ByContra

/-! The containers of the object database: each object is in one of them, a load adds objects to
them and a deletion takes them out. -/

set_option autoImplicit false
set_option linter.unusedSectionVars false

namespace Andromeda.Database

open Andromeda.Library

section

variable {δ ω : Type} [DecidableEq δ] [Zero δ] {codec : Codec δ ω}
  {surroundings : Surroundings δ ω} {world : World δ ω}

/-- What keeps an object's key and its columns apart. -/
structure BaseObject.Proper (object : BaseObject δ ω) : Prop where
  plain : ':' ∉ object.className.toList
  named : object.Named
  identified : object.idField.realInitd = true → object.idField.realValue = object.id

/-- The containers next to the objects: each object is in one of them, and no two have the same
key. -/
structure Mapped (world : World δ ω) : Prop where
  held : ∀ pointer, (world.objects pointer).isSome = true ↔
    pointer ∈ world.created ∨ pointer ∈ world.loaded
  apart : ∀ pointer ∈ world.created, pointer ∉ world.loaded
  unique : ∀ pointer other object otherObject, world.objects pointer = some object →
    world.objects other = some otherObject → object.key = otherObject.key → pointer = other
  modified : ∀ pointer ∈ world.modified, (world.objects pointer).isSome = true
  proper : ∀ pointer object, world.objects pointer = some object → object.Proper
  createdNodup : world.created.Nodup

/-- Objects that were never saved have no rows. -/
def Unsaved (world : World δ ω) : Prop :=
  ∀ pointer ∈ world.created, ∀ object, world.objects pointer = some object →
    world.rows object.key = none

private theorem append_cons_inj {α : Type} {mark : α} {left left' right right' : List α}
    (clear : mark ∉ right) (clear' : mark ∉ right')
    (same : left ++ mark :: right = left' ++ mark :: right') : left = left' ∧ right = right' := by
  rcases List.append_eq_append_iff.mp same with ⟨middle, rfl, rest⟩ | ⟨middle, rfl, rest⟩
  · cases middle with
    | nil =>
        rw [List.nil_append, List.cons.injEq] at rest
        exact ⟨(List.append_nil left).symm, rest.2⟩
    | cons first others =>
        rw [List.cons_append, List.cons.injEq] at rest
        exact absurd (by rw [rest.2]; simp) clear
  · cases middle with
    | nil =>
        rw [List.nil_append, List.cons.injEq] at rest
        exact ⟨List.append_nil left', rest.2.symm⟩
    | cons first others =>
        rw [List.cons_append, List.cons.injEq] at rest
        exact absurd (by rw [rest.2]; simp) clear'

private theorem objkey_inj {id id' className className' : String} (plain : ':' ∉ className.toList)
    (plain' : ':' ∉ className'.toList) (same : objkey id className = objkey id' className') :
    id = id' ∧ className = className' := by
  have lists := congrArg String.toList same
  simp only [objkey, String.toList_append, List.append_assoc] at lists
  obtain ⟨ids, classes⟩ := append_cons_inj plain plain' lists
  exact ⟨String.toList_inj.mp ids, String.toList_inj.mp classes⟩

/-- An object has a key if its class and its ID are the key's. -/
theorem World.hasKey_iff {id className : String} {pointer : Nat} (plain : ':' ∉ className.toList)
    (plains : ∀ object, world.objects pointer = some object → ':' ∉ object.className.toList) :
    world.hasKey (objkey id className) pointer = true ↔
      ∃ object, world.objects pointer = some object ∧ object.key = (className, id) := by
  unfold World.hasKey
  cases found : world.objects pointer with
  | none => simp
  | some object =>
      simp only [decide_eq_true_eq, Option.some.injEq, exists_eq_left', BaseObject.key,
        Prod.mk.injEq]
      constructor
      · intro same
        obtain ⟨ids, classes⟩ := objkey_inj (plains object found) plain same
        exact ⟨classes, ids⟩
      · rintro ⟨rfl, rfl⟩
        rfl

namespace Mapped

/-- What `mObjects.find` finds. -/
theorem find_iff (mapped : Mapped world) {id className : String} (plain : ':' ∉ className.toList)
    (pointer : Nat) :
    world.find (objkey id className) = some pointer ↔
      pointer ∈ world.loaded ∧ ∃ object, world.objects pointer = some object ∧
        object.key = (className, id) := by
  have accepts (other : Nat) : world.hasKey (objkey id className) other = true ↔
      ∃ object, world.objects other = some object ∧ object.key = (className, id) :=
    World.hasKey_iff plain fun object found => (mapped.proper other object found).plain
  constructor
  · intro found
    exact ⟨List.mem_of_find?_eq_some found, (accepts pointer).mp (List.find?_some found)⟩
  · rintro ⟨member, object, there, key⟩
    cases found : world.find (objkey id className) with
    | none =>
        have never := List.find?_eq_none.mp found pointer member
        exact absurd ((accepts pointer).mpr ⟨object, there, key⟩) never
    | some other =>
        obtain ⟨otherObject, otherThere, otherKey⟩ := (accepts other).mp (List.find?_some found)
        rw [mapped.unique other pointer otherObject object otherThere there
          (otherKey.trans key.symm)]

/-- The containers after objects have been dropped, saved or changed in place. -/
theorem of_same (mapped : Mapped world) {final : World δ ω}
    (objects : ∀ pointer after, final.objects pointer = some after →
      ∃ object, world.objects pointer = some object ∧ object.key = after.key ∧
        (object.Proper → after.Proper))
    (held : ∀ pointer, (final.objects pointer).isSome = true ↔
      pointer ∈ final.created ∨ pointer ∈ final.loaded)
    (apart : ∀ pointer ∈ final.created, pointer ∉ final.loaded)
    (modified : ∀ pointer ∈ final.modified, (final.objects pointer).isSome = true)
    (createdNodup : final.created.Nodup) : Mapped final where
  held := held
  apart := apart
  modified := modified
  createdNodup := createdNodup
  unique pointer other after otherAfter found otherFound same := by
    obtain ⟨object, there, key, _⟩ := objects pointer after found
    obtain ⟨otherObject, otherThere, otherKey, _⟩ := objects other otherAfter otherFound
    exact mapped.unique pointer other object otherObject there otherThere
      (by rw [key, otherKey, same])
  proper pointer after found := by
    obtain ⟨object, there, _, proper⟩ := objects pointer after found
    exact proper (mapped.proper pointer object there)

/-- Rows and transactions are not in the containers. -/
theorem of_rows (mapped : Mapped world) (rows : Contents δ) (begun : Option (Contents δ)) :
    Mapped { world with rows := rows, begun := begun } :=
  { mapped with }

end Mapped

private theorem BaseObject.Proper.setUnmodified {object : BaseObject δ ω} (proper : object.Proper) :
    object.setUnmodified.Proper where
  plain := proper.plain
  named := BaseObject.named_setUnmodified proper.named
  identified := proper.identified

/-- An object that is marked as saved. -/
theorem objects_updateObjectRegister {saved pointer : Nat} {after : BaseObject δ ω}
    (found : (world.updateObjectRegister saved).objects pointer = some after) :
    ∃ object, world.objects pointer = some object ∧ object.key = after.key ∧
      (object.Proper → after.Proper) := by
  obtain ⟨own, others⟩ := modifyObject_objects world saved
  change (world.modifyObject saved BaseObject.setUnmodified).objects pointer = some after at found
  by_cases same : pointer = saved
  · subst same
    rw [own] at found
    obtain ⟨object, there, rfl⟩ := Option.map_eq_some_iff.mp found
    exact ⟨object, there, rfl, BaseObject.Proper.setUnmodified⟩
  · rw [others pointer same] at found
    exact ⟨after, found, rfl, id⟩

theorem isSome_updateObjectRegister (saved pointer : Nat) :
    ((world.updateObjectRegister saved).objects pointer).isSome =
      (world.objects pointer).isSome := by
  obtain ⟨own, others⟩ := modifyObject_objects world saved
  change ((world.modifyObject saved BaseObject.setUnmodified).objects pointer).isSome = _
  by_cases same : pointer = saved
  · subst same
    rw [own, Option.isSome_map]
  · rw [others pointer same]

theorem Mapped.updateObjectRegister (mapped : Mapped world) (saved : Nat) :
    Mapped (world.updateObjectRegister saved) := by
  apply mapped.of_same
  · intro pointer after found
    exact objects_updateObjectRegister found
  · intro pointer
    rw [isSome_updateObjectRegister]
    exact mapped.held pointer
  · exact mapped.apart
  · intro pointer member
    rw [isSome_updateObjectRegister]
    exact mapped.modified pointer (List.mem_filter.mp member).1
  · exact mapped.createdNodup

theorem Mapped.insertObjectRegister (mapped : Mapped world) {saved : Nat}
    (created : saved ∈ world.created) : Mapped (world.insertObjectRegister saved) := by
  apply mapped.of_same
  · intro pointer after found
    exact objects_updateObjectRegister found
  · intro pointer
    change ((world.updateObjectRegister saved).objects pointer).isSome = true ↔
      pointer ∈ world.created.filter (· ≠ saved) ∨ pointer ∈ world.loaded ++ [saved]
    rw [isSome_updateObjectRegister, mapped.held pointer]
    by_cases same : pointer = saved
    · subst same
      simp [created]
    · simp [same]
  · intro pointer member
    change pointer ∈ world.created.filter (· ≠ saved) at member
    change pointer ∉ world.loaded ++ [saved]
    obtain ⟨wasCreated, differs⟩ := List.mem_filter.mp member
    rw [List.mem_append, List.mem_singleton, not_or]
    exact ⟨mapped.apart pointer wasCreated, of_decide_eq_true differs⟩
  · intro pointer member
    change ((world.updateObjectRegister saved).objects pointer).isSome = true
    rw [isSome_updateObjectRegister]
    exact mapped.modified pointer (List.mem_filter.mp member).1
  · exact mapped.createdNodup.filter _

/-- An object that is placed where none was, under a key that no other has. -/
theorem Mapped.place (mapped : Mapped world) {final : World δ ω} {pointer : Nat}
    {object : BaseObject δ ω} (free : world.objects pointer = none) (proper : object.Proper)
    (fresh : ∀ other otherObject, world.objects other = some otherObject →
      otherObject.key ≠ object.key)
    (objects : final.objects = Function.update world.objects pointer (some object))
    (members : final.created = world.created ++ [pointer] ∧ final.loaded = world.loaded ∨
      final.created = world.created ∧ final.loaded = world.loaded ++ [pointer])
    (modified : ∀ other ∈ final.modified, other ∈ world.modified ∨ other = pointer) :
    Mapped final := by
  have own : final.objects pointer = some object := by
    rw [objects, Function.update_self]
  have others {other : Nat} (differs : other ≠ pointer) :
      final.objects other = world.objects other := by
    rw [objects, Function.update_of_ne differs]
  have unheld : pointer ∉ world.created ∧ pointer ∉ world.loaded := by
    rw [← not_or, ← mapped.held pointer, free]
    exact Bool.false_ne_true
  have inCreated (other : Nat) : other ∈ final.created →
      other ∈ world.created ∨ other = pointer ∧ final.loaded = world.loaded := by
    intro member
    rcases members with ⟨created, loaded⟩ | ⟨created, _⟩
    · rw [created, List.mem_append, List.mem_singleton] at member
      exact member.imp_right fun same => ⟨same, loaded⟩
    · rw [created] at member
      exact .inl member
  constructor
  · intro other
    by_cases same : other = pointer
    · subst same
      rw [own]
      rcases members with ⟨created, loaded⟩ | ⟨created, loaded⟩
      · simp [created]
      · simp [loaded]
    · rw [others same, mapped.held other]
      rcases members with ⟨created, loaded⟩ | ⟨created, loaded⟩
      · simp [created, loaded, same]
      · simp [created, loaded, same]
  · intro other member loaded
    rcases inCreated other member with old | ⟨rfl, unchanged⟩
    · rcases members with ⟨_, same⟩ | ⟨_, appended⟩
      · rw [same] at loaded
        exact mapped.apart other old loaded
      · rw [appended, List.mem_append, List.mem_singleton] at loaded
        rcases loaded with before | rfl
        · exact mapped.apart other old before
        · exact unheld.1 old
    · rw [unchanged] at loaded
      exact unheld.2 loaded
  · intro left right leftObject rightObject leftFound rightFound same
    by_cases leftNew : left = pointer
    · subst leftNew
      rw [own, Option.some.injEq] at leftFound
      by_cases rightNew : right = left
      · exact rightNew.symm
      · rw [others rightNew] at rightFound
        rw [← leftFound] at same
        exact absurd same.symm (fresh right rightObject rightFound)
    · rw [others leftNew] at leftFound
      by_cases rightNew : right = pointer
      · subst rightNew
        rw [own, Option.some.injEq] at rightFound
        rw [← rightFound] at same
        exact absurd same (fresh left leftObject leftFound)
      · rw [others rightNew] at rightFound
        exact mapped.unique left right leftObject rightObject leftFound rightFound same
  · intro other member
    by_cases same : other = pointer
    · subst same
      rw [own]
      rfl
    · rw [others same]
      exact mapped.modified other ((modified other member).resolve_right same)
  · intro other otherObject found
    by_cases same : other = pointer
    · subst same
      rw [own, Option.some.injEq] at found
      rw [← found]
      exact proper
    · rw [others same] at found
      exact mapped.proper other otherObject found
  · rcases members with ⟨created, _⟩ | ⟨created, _⟩
    · rw [created, List.nodup_append]
      refine ⟨mapped.createdNodup, List.pairwise_singleton _ _, ?_⟩
      rintro other member _ single rfl
      rw [List.mem_singleton.mp single] at member
      exact unheld.1 member
    · rw [created]
      exact mapped.createdNodup

/-- The objects and rows after a load: those before stay as they were, and new ones are
registered. -/
structure Grown (world final : World δ ω) : Prop where
  rows : final.rows = world.rows
  created : final.created = world.created
  begun : final.begun = world.begun
  kept : ∀ pointer, (world.objects pointer).isSome = true →
    final.objects pointer = world.objects pointer
  loaded : ∀ pointer, pointer ∈ final.loaded ↔ pointer ∈ world.loaded ∨
    world.objects pointer = none ∧ (final.objects pointer).isSome = true

theorem Grown.refl (world : World δ ω) : Grown world world where
  rows := rfl
  created := rfl
  begun := rfl
  kept _ _ := rfl
  loaded pointer := by
    constructor
    · exact .inl
    · rintro (loaded | ⟨none, some⟩)
      · exact loaded
      · rw [none] at some
        cases some

theorem Grown.trans {first second third : World δ ω} (left : Grown first second)
    (right : Grown second third) : Grown first third where
  rows := right.rows.trans left.rows
  created := right.created.trans left.created
  begun := right.begun.trans left.begun
  kept pointer there := by
    rw [right.kept pointer (by rw [left.kept pointer there]; exact there), left.kept pointer there]
  loaded pointer := by
    rw [right.loaded, left.loaded]
    cases before : first.objects pointer with
    | some object =>
        have still := left.kept pointer (by rw [before]; rfl)
        rw [before] at still
        simp [still]
    | none =>
        cases middle : second.objects pointer with
        | some object =>
            have still := right.kept pointer (by rw [middle]; rfl)
            rw [middle] at still
            simp [still]
        | none => simp

/-- A notification adds at most its object to the modified ones. -/
theorem noted_spec (world : World δ ω) (pointer : Nat) (notified : Bool) :
    let noted := if notified then world.notifyModified pointer else world
    noted.rows = world.rows ∧ noted.objects = world.objects ∧ noted.created = world.created ∧
      noted.loaded = world.loaded ∧ noted.begun = world.begun ∧
        ∀ other ∈ noted.modified, other ∈ world.modified ∨ other = pointer := by
  cases notified with
  | false => exact ⟨rfl, rfl, rfl, rfl, rfl, fun _ => .inl⟩
  | true =>
      obtain ⟨rows, objects, created, loaded, begun⟩ := notifyModified_same world pointer
      exact ⟨rows, objects, created, loaded, begun, fun other =>
        (notifyModified_modified world pointer other).mp⟩

theorem Unsaved.of_grown (unsaved : Unsaved world) (mapped : Mapped world) {final : World δ ω}
    (grown : Grown world final) : Unsaved final := by
  intro pointer member object found
  rw [grown.created] at member
  rw [grown.kept pointer ((mapped.held pointer).mpr (.inl member))] at found
  rw [grown.rows]
  exact unsaved pointer member object found

/-- A row that is found again has its object still; another gets one. -/
theorem constructObject_spec (mapped : Mapped world) (unsaved : Unsaved world)
    (objectClass : TableClass δ ω) {id : String} {row : Row δ}
    (there : world.rows (objectClass.name, id) = some row)
    (readable : ∃ fields, initFields codec row objectClass.fields = .ok fields) :
    Outcome (constructObject codec surroundings objectClass id row) world
      (fun pointer final => Mapped final ∧ Grown world final ∧ pointer ∈ final.loaded ∧
        ∃ object, final.objects pointer = some object ∧ object.key = (objectClass.name, id))
      (fun _ _ => False) := by
  unfold constructObject
  simp only [Outcome.bind_iff, Outcome.get_iff]
  cases found : world.find (objkey id objectClass.name) with
  | some pointer =>
      obtain ⟨member, object⟩ := (mapped.find_iff objectClass.plain pointer).mp found
      exact ⟨mapped, Grown.refl world, member, object⟩
  | none =>
      obtain ⟨fields, read⟩ := readable
      obtain ⟨notCreated, notLoaded⟩ := surroundings.unused world
      have free : world.objects (surroundings.address world) = none := by
        rw [← Option.not_isSome_iff_eq_none, mapped.held, not_or]
        exact ⟨notCreated, notLoaded⟩
      have fresh : ∀ other otherObject, world.objects other = some otherObject →
          otherObject.key ≠ (objectClass.name, id) := by
        intro other otherObject otherFound same
        rcases (mapped.held other).mp (by rw [otherFound]; rfl) with created | loaded
        · have none_ := unsaved other created otherObject otherFound
          rw [same, there] at none_
          cases none_
        · have again := (mapped.find_iff objectClass.plain other).mpr
            ⟨loaded, otherObject, otherFound, same⟩
          rw [found] at again
          cases again
      have notes := noted_spec world (surroundings.address world)
        (objectClass.fields.any fun field => field.2.construct.2)
      simp only [read, Outcome.bind_iff, Outcome.set_iff, Outcome.pure_iff]
      revert notes
      generalize (if (objectClass.fields.any fun field => field.2.construct.2) = true
        then world.notifyModified (surroundings.address world) else world) = noted
      rintro ⟨rows, objects, created, loaded, begun, modified⟩
      have proper : (⟨objectClass.name, ⟨true, id, true, id, 0⟩, fields⟩ :
          BaseObject δ ω).Proper := by
        refine ⟨objectClass.plain, ?_, fun _ => rfl⟩
        unfold BaseObject.Named BaseObject.allFields
        rw [List.map_cons, (initFields_spec read).1]
        exact objectClass.distinct
      refine ⟨?_, ⟨rows, created, begun, ?_, ?_⟩, ?_, ?_⟩
      · exact mapped.place free proper fresh rfl (.inr ⟨created, rfl⟩) modified
      · intro other some_
        apply Function.update_of_ne
        rintro rfl
        rw [free] at some_
        cases some_
      · intro other
        dsimp only
        rw [List.mem_append, List.mem_singleton]
        apply or_congr_right
        constructor
        · rintro rfl
          exact ⟨free, by rw [Function.update_self]; rfl⟩
        · rintro ⟨none_, some_⟩
          by_contra differs
          rw [Function.update_of_ne differs, none_] at some_
          cases some_
      · exact List.mem_append_right _ (List.mem_singleton_self _)
      · exact ⟨_, Function.update_self .., rfl⟩

/-- A registered object with a key. -/
def RegisteredAt (world : World δ ω) (key : RowKey) (pointer : Nat) : Prop :=
  pointer ∈ world.loaded ∧ ∃ object, world.objects pointer = some object ∧ object.key = key

theorem RegisteredAt.grown {key : RowKey} {pointer : Nat} {final : World δ ω}
    (registered : RegisteredAt world key pointer) (grown : Grown world final) :
    RegisteredAt final key pointer := by
  obtain ⟨loaded, object, found, same⟩ := registered
  refine ⟨(grown.loaded pointer).mpr (.inl loaded), object, ?_, same⟩
  rw [grown.kept pointer (by rw [found]; rfl), found]

/-- There is at most one registered object for a key. -/
theorem Mapped.at_unique (mapped : Mapped world) {key : RowKey} {pointer other : Nat}
    (left : RegisteredAt world key pointer) (right : RegisteredAt world key other) :
    pointer = other := by
  obtain ⟨_, object, found, same⟩ := left
  obtain ⟨_, otherObject, otherFound, otherSame⟩ := right
  exact mapped.unique pointer other object otherObject found otherFound
    (same.trans otherSame.symm)

/-- Rows of a table from which objects can be constructed. -/
def Constructible (codec : Codec δ ω) (world : World δ ω) (objectClass : TableClass δ ω)
    (rows : List (String × Row δ)) : Prop :=
  ∀ entry ∈ rows, world.rows (objectClass.name, entry.1) = some entry.2 ∧
    ∃ fields, initFields codec entry.2 objectClass.fields = .ok fields

private theorem constructObjects_spec (objectClass : TableClass δ ω) (rows : List (String × Row δ))
    {world : World δ ω} (mapped : Mapped world) (unsaved : Unsaved world)
    (constructible : Constructible codec world objectClass rows) :
    Outcome (constructObjects codec surroundings objectClass rows) world
      (fun pointers final => Mapped final ∧ Grown world final ∧
        List.Forall₂ (fun entry pointer =>
          RegisteredAt final (objectClass.name, entry.1) pointer) rows pointers)
      (fun _ _ => False) := by
  induction rows generalizing world with
  | nil => exact ⟨mapped, Grown.refl world, .nil⟩
  | cons entry rest ih =>
      obtain ⟨there, readable⟩ := constructible entry List.mem_cons_self
      unfold constructObjects
      simp only [Outcome.bind_iff, Outcome.pure_iff]
      apply (constructObject_spec mapped unsaved objectClass there readable).mono
      · rintro pointer middle ⟨middleMapped, grown, registered⟩
        have later : Constructible codec middle objectClass rest := by
          intro other member
          rw [grown.rows]
          exact constructible other (List.mem_cons_of_mem _ member)
        apply (ih middleMapped (unsaved.of_grown mapped grown) later).mono
        · rintro pointers final ⟨finalMapped, more, all⟩
          exact ⟨finalMapped, grown.trans more, .cons (RegisteredAt.grown registered more) all⟩
        · exact fun _ _ => id
      · exact fun _ _ => False.elim

theorem select_spec (world : World δ ω) (className : String) (selection : Selection)
    {entry : String × Row δ} (member : entry ∈ world.select className selection) :
    world.rows (className, entry.1) = some entry.2 := by
  obtain ⟨id, _, found⟩ := List.mem_filterMap.mp member
  obtain ⟨row, there, rfl⟩ := Option.map_eq_some_iff.mp found
  exact there

/-- The rows of a query can be made into objects. -/
def Readable (codec : Codec δ ω) (world : World δ ω) (objectClass : TableClass δ ω)
    (selection : Selection) : Prop :=
  ∀ entry ∈ world.select objectClass.name selection,
    ∃ fields, initFields codec entry.2 objectClass.fields = .ok fields

/-- `LoadObjectsByQuery` returns the registered objects of its rows, or throws and changes
nothing. -/
theorem loadObjectsByQuery_spec (mapped : Mapped world) (unsaved : Unsaved world)
    (objectClass : TableClass δ ω) (selection : Selection)
    (readable : Readable codec world objectClass selection) :
    Outcome (loadObjectsByQuery codec surroundings objectClass selection) world
      (fun pointers final => Mapped final ∧ Grown world final ∧
        List.Forall₂ (fun entry pointer =>
            RegisteredAt final (objectClass.name, entry.1) pointer)
          (world.select objectClass.name selection) pointers)
      (fun _ final => final = world) := by
  unfold loadObjectsByQuery
  simp only [Outcome.bind_iff, Outcome.get_iff, Outcome.ite_iff, Outcome.throw_iff]
  refine ⟨fun _ => trivial, fun _ => ?_⟩
  have constructible : Constructible codec world objectClass
      (world.select objectClass.name selection) := fun entry member =>
    ⟨select_spec world objectClass.name selection member, readable entry member⟩
  exact (constructObjects_spec objectClass _ mapped unsaved constructible).mono
    (fun _ _ => id) fun _ _ => False.elim

/-- The objects after deletions. -/
structure Shrunk (world final : World δ ω) : Prop where
  begun : final.begun = world.begun
  kept : ∀ pointer, (final.objects pointer).isSome = true →
    final.objects pointer = world.objects pointer
  created : ∀ pointer ∈ final.created, pointer ∈ world.created
  loaded : ∀ pointer, pointer ∈ final.loaded ↔
    pointer ∈ world.loaded ∧ (final.objects pointer).isSome = true
  rows : ∀ key, final.rows key = world.rows key ∨ final.rows key = none

theorem Shrunk.refl (mapped : Mapped world) : Shrunk world world where
  begun := rfl
  kept _ _ := rfl
  created _ := id
  loaded pointer :=
    ⟨fun loaded => ⟨loaded, (mapped.held pointer).mpr (.inr loaded)⟩, And.left⟩
  rows _ := .inl rfl

private theorem Shrunk.trans {first second third : World δ ω} (left : Shrunk first second)
    (right : Shrunk second third) : Shrunk first third where
  begun := right.begun.trans left.begun
  kept pointer there := by
    have middle := right.kept pointer there
    rw [middle]
    rw [middle] at there
    exact left.kept pointer there
  created pointer member := left.created pointer (right.created pointer member)
  loaded pointer := by
    rw [right.loaded, left.loaded]
    constructor
    · rintro ⟨⟨loaded, _⟩, there⟩
      exact ⟨loaded, there⟩
    · rintro ⟨loaded, there⟩
      refine ⟨⟨loaded, ?_⟩, there⟩
      rw [← right.kept pointer there]
      exact there
  rows key := by
    rcases right.rows key with same | none
    · rw [same]
      exact left.rows key
    · exact .inr none

theorem Unsaved.of_shrunk (unsaved : Unsaved world) {final : World δ ω}
    (shrunk : Shrunk world final) : Unsaved final := by
  intro pointer member object found
  have there : (final.objects pointer).isSome = true := by rw [found]; rfl
  have before := unsaved pointer (shrunk.created pointer member) object
    (by rw [← shrunk.kept pointer there, found])
  rcases shrunk.rows object.key with same | none
  · rw [same, before]
  · exact none

private theorem Mapped.drop (mapped : Mapped world) {final : World δ ω} {pointer : Nat}
    (objects : final.objects = Function.update world.objects pointer none)
    (created : ∀ other, other ∈ final.created ↔ other ∈ world.created ∧ other ≠ pointer)
    (loaded : ∀ other, other ∈ final.loaded ↔ other ∈ world.loaded ∧ other ≠ pointer)
    (modified : ∀ other ∈ final.modified, other ∈ world.modified ∧ other ≠ pointer)
    (nodup : final.created.Nodup) (begun : final.begun = world.begun)
    (rows : ∀ key, final.rows key = world.rows key ∨ final.rows key = none) :
    Mapped final ∧ Shrunk world final ∧ final.objects pointer = none := by
  have own : final.objects pointer = none := by rw [objects, Function.update_self]
  have others {other : Nat} (differs : other ≠ pointer) :
      final.objects other = world.objects other := by
    rw [objects, Function.update_of_ne differs]
  have differs {other : Nat} (there : (final.objects other).isSome = true) :
      other ≠ pointer := by
    rintro rfl
    rw [own] at there
    cases there
  refine ⟨mapped.of_same ?_ ?_ ?_ ?_ nodup, ⟨begun, ?_, ?_, ?_, rows⟩, own⟩
  · intro other after found
    rw [others (differs (by rw [found]; rfl))] at found
    exact ⟨after, found, rfl, id⟩
  · intro other
    rw [created, loaded]
    by_cases same : other = pointer
    · subst same
      simp [own]
    · rw [others same, mapped.held other]
      simp [same]
  · intro other member
    rw [loaded]
    exact fun both => mapped.apart other ((created other).mp member).1 both.1
  · intro other member
    obtain ⟨was, same⟩ := modified other member
    rw [others same]
    exact mapped.modified other was
  · exact fun other there => others (differs there)
  · exact fun other member => ((created other).mp member).1
  · intro other
    rw [loaded]
    apply and_congr_right
    intro was
    constructor
    · intro same
      rw [others same]
      exact (mapped.held other).mpr (.inr was)
    · exact differs

/-- The erasures of `DeleteObject` for a registered object whose row has been deleted. -/
theorem World.eraseLoaded_of_find {rows : Contents δ} {key : String} {pointer other : Nat}
    (found : world.find key = some pointer) :
    (({ world with rows := rows } : World δ ω).eraseModified other).eraseLoaded key =
      { world with
        rows := rows
        objects := Function.update world.objects pointer none
        modified := world.modified.filter (· ≠ other)
        loaded := world.loaded.filter (· ≠ pointer) } := by
  have same : (({ world with rows := rows } : World δ ω).eraseModified other).find key =
      some pointer := found
  unfold World.eraseLoaded
  rw [same]
  rfl

/-- `DeleteObject` drops an object, or throws and changes nothing. -/
theorem deleteObject_spec (mapped : Mapped world) (pointer : Nat) :
    Outcome (deleteObject surroundings pointer) world
      (fun _ final => Mapped final ∧ Shrunk world final ∧ final.objects pointer = none)
      (fun _ final => final = world) := by
  unfold deleteObject
  simp only [Outcome.bind_iff, Outcome.get_iff]
  cases found : world.objects pointer with
  | none => exact ⟨mapped, Shrunk.refl mapped, found⟩
  | some object =>
      dsimp only
      rw [Outcome.ite_iff]
      constructor
      · intro isCreated
        have created : pointer ∈ world.created := by simpa using isCreated
        apply mapped.drop rfl
        · intro other
          change other ∈ world.created.filter (· ≠ pointer) ↔ _
          simp
        · intro other
          refine ⟨fun loaded => ⟨loaded, ?_⟩, And.left⟩
          rintro rfl
          exact mapped.apart other created loaded
        · intro other member
          change other ∈ world.modified.filter (· ≠ pointer) at member
          simpa using member
        · exact mapped.createdNodup.filter _
        · rfl
        · exact fun key => .inl rfl
      · intro notCreated
        have absent : pointer ∉ world.created := by simpa using notCreated
        have loaded : pointer ∈ world.loaded :=
          ((mapped.held pointer).mp (by rw [found]; rfl)).resolve_left absent
        have there : world.find (objkey object.id object.className) = some pointer :=
          (mapped.find_iff (mapped.proper pointer object found).plain pointer).mpr
            ⟨loaded, object, found, rfl⟩
        simp only [deleteQuery, Outcome.bind_iff, Outcome.get_iff, Outcome.ite_iff,
          Outcome.throw_iff]
        refine ⟨fun _ => trivial, fun _ => ?_⟩
        cases row : world.rows object.key with
        | none =>
            rw [Outcome.pure_iff]
            exact ⟨fun _ => rfl, fun one => absurd Nat.zero_ne_one one⟩
        | some old =>
            simp only [Outcome.bind_iff, Outcome.set_iff, Outcome.pure_iff, Outcome.modify_iff]
            refine ⟨fun one => absurd rfl one, fun _ => ?_⟩
            rw [World.eraseLoaded_of_find there]
            apply mapped.drop rfl
            · intro other
              refine ⟨fun created => ⟨created, ?_⟩, And.left⟩
              rintro rfl
              exact absent created
            · intro other
              change other ∈ world.loaded.filter (· ≠ pointer) ↔ _
              simp
            · intro other member
              change other ∈ world.modified.filter (· ≠ pointer) at member
              simpa using member
            · exact mapped.createdNodup
            · rfl
            · intro key
              by_cases same : key = object.key
              · subst same
                exact .inr (Function.update_self ..)
              · exact .inl (Function.update_of_ne same ..)

theorem deleteObjects_spec (pointers : List Nat) {world : World δ ω} (mapped : Mapped world) :
    Outcome (forM pointers (deleteObject surroundings) : Exec δ ω PUnit) world
      (fun _ final => Mapped final ∧ Shrunk world final)
      (fun _ final => Mapped final ∧ Shrunk world final) := by
  induction pointers generalizing world with
  | nil => exact ⟨mapped, Shrunk.refl mapped⟩
  | cons pointer rest ih =>
      rw [List.forM_cons, Outcome.bind_iff]
      apply (deleteObject_spec mapped pointer).mono
      · rintro _ middle ⟨middleMapped, shrunk, _⟩
        apply (ih middleMapped).mono
        · rintro _ final ⟨finalMapped, more⟩
          exact ⟨finalMapped, shrunk.trans more⟩
        · rintro _ final ⟨finalMapped, more⟩
          exact ⟨finalMapped, shrunk.trans more⟩
      · rintro _ _ rfl
        exact ⟨mapped, Shrunk.refl mapped⟩

end

end Andromeda.Database
