import Andromeda.Database.IdentityProperties

/-! What no call of the object database breaks, whatever its rows and IDs: every object is in one of
the containers and keeps its class and its ID for as long as it is there. -/

set_option autoImplicit false
set_option linter.unusedSectionVars false

namespace Andromeda.Database

open Andromeda.Library

section

variable {δ ω : Type} [DecidableEq δ] [Zero δ] {codec : Codec δ ω}
  {surroundings : Surroundings δ ω} {world middle final : World δ ω}

/-- Every object is in one of the containers, and its class has a plain name. -/
structure Registry (world : World δ ω) : Prop where
  held : ∀ pointer, (world.objects pointer).isSome = true ↔
    pointer ∈ world.created ∨ pointer ∈ world.loaded
  apart : ∀ pointer ∈ world.created, pointer ∉ world.loaded
  plain : ∀ pointer object, world.objects pointer = some object → ':' ∉ object.className.toList

/-- The same containers and objects, saved or changed in their fields. -/
structure Renewed (world final : World δ ω) : Prop where
  registry : Registry final
  keys : ∀ pointer, (final.objects pointer).map BaseObject.key =
    (world.objects pointer).map BaseObject.key

/-- The objects that were there, and new ones. -/
structure Extended (world final : World δ ω) : Prop where
  registry : Registry final
  kept : ∀ pointer object, world.objects pointer = some object →
    final.objects pointer = some object

/-- The objects that were there, but for deleted ones. -/
structure Reduced (world final : World δ ω) : Prop where
  registry : Registry final
  kept : ∀ pointer object, final.objects pointer = some object →
    world.objects pointer = some object

/-- Every object that is still there has the key it had. -/
structure Carried (world final : World δ ω) : Prop where
  registry : Registry final
  keys : ∀ pointer before after, world.objects pointer = some before →
    final.objects pointer = some after → after.key = before.key

private theorem Renewed.carried (renewed : Renewed world final) : Carried world final where
  registry := renewed.registry
  keys pointer before after there found := by
    have same := renewed.keys pointer
    rw [there, found] at same
    exact Option.some.inj same

private theorem Extended.carried (extended : Extended world final) : Carried world final where
  registry := extended.registry
  keys pointer before after there found := by
    rw [extended.kept pointer before there] at found
    rw [Option.some.inj found]

private theorem Extended.reduced (extended : Extended world middle)
    (reduced : Reduced middle final) :
    Carried world final where
  registry := reduced.registry
  keys pointer before after there found := by
    have kept := reduced.kept pointer after found
    rw [extended.kept pointer before there] at kept
    rw [Option.some.inj kept]

private theorem Renewed.trans (first : Renewed world middle) (second : Renewed middle final) :
    Renewed world final :=
  ⟨second.registry, fun pointer => (second.keys pointer).trans (first.keys pointer)⟩

private theorem Extended.trans (first : Extended world middle) (second : Extended middle final) :
    Extended world final :=
  ⟨second.registry, fun pointer object found =>
    second.kept pointer object (first.kept pointer object found)⟩

private theorem Reduced.trans (first : Reduced world middle) (second : Reduced middle final) :
    Reduced world final :=
  ⟨second.registry, fun pointer object found =>
    first.kept pointer object (second.kept pointer object found)⟩

namespace Registry

theorem opened (rows : Contents δ) : Registry (World.opened rows : World δ ω) where
  held _ := by simp [World.opened]
  apart _ member := by cases member
  plain _ _ found := by cases found

private theorem of_same (registry : Registry world) (objects : final.objects = world.objects)
    (created : final.created = world.created) (loaded : final.loaded = world.loaded) :
    Registry final where
  held pointer := by
    rw [objects, created, loaded]
    exact registry.held pointer
  apart pointer := by
    rw [created, loaded]
    exact registry.apart pointer
  plain pointer object := by
    rw [objects]
    exact registry.plain pointer object

private theorem renewed_of_same (registry : Registry world)
    (objects : final.objects = world.objects)
    (created : final.created = world.created) (loaded : final.loaded = world.loaded) :
    Renewed world final :=
  ⟨registry.of_same objects created loaded, fun pointer => by rw [objects]⟩

private theorem renewed_refl (registry : Registry world) : Renewed world world :=
  registry.renewed_of_same rfl rfl rfl

private theorem renewed (registry : Registry world)
    (keys : ∀ pointer, (final.objects pointer).map BaseObject.key =
      (world.objects pointer).map BaseObject.key)
    (held : ∀ pointer, pointer ∈ final.created ∨ pointer ∈ final.loaded ↔
      pointer ∈ world.created ∨ pointer ∈ world.loaded)
    (apart : ∀ pointer ∈ final.created, pointer ∉ final.loaded) : Renewed world final where
  registry :=
    { held := fun pointer => by
        have same := congrArg Option.isSome (keys pointer)
        rw [Option.isSome_map, Option.isSome_map] at same
        rw [same, held pointer]
        exact registry.held pointer
      apart := apart
      plain := fun pointer after found => by
        have same := keys pointer
        rw [found, Option.map_some, eq_comm, Option.map_eq_some_iff] at same
        obtain ⟨before, there, equal⟩ := same
        have className : before.className = after.className := congrArg Prod.fst equal
        rw [← className]
        exact registry.plain pointer before there }
  keys := keys

private theorem updateObjectRegister (registry : Registry world) (saved : Nat) :
    Renewed world (world.updateObjectRegister saved) := by
  apply registry.renewed
  · intro pointer
    obtain ⟨own, others⟩ := modifyObject_objects world saved
    change ((world.modifyObject saved BaseObject.setUnmodified).objects pointer).map _ = _
    by_cases same : pointer = saved
    · rw [same, own]
      cases world.objects saved <;> rfl
    · rw [others pointer same]
  · exact fun _ => Iff.rfl
  · exact registry.apart

private theorem insertObjectRegister (registry : Registry world) {saved : Nat}
    (there : (world.objects saved).isSome = true) :
    Renewed world (world.insertObjectRegister saved) := by
  apply registry.renewed
  · exact (registry.updateObjectRegister saved).keys
  · intro pointer
    change pointer ∈ world.created.filter (· ≠ saved) ∨ pointer ∈ world.loaded ++ [saved] ↔ _
    by_cases same : pointer = saved
    · subst same
      simpa using (registry.held pointer).mp there
    · simp [same]
  · intro pointer member
    change pointer ∈ world.created.filter (· ≠ saved) at member
    change pointer ∉ world.loaded ++ [saved]
    obtain ⟨wasCreated, differs⟩ := List.mem_filter.mp member
    rw [List.mem_append, List.mem_singleton, not_or]
    exact ⟨registry.apart pointer wasCreated, of_decide_eq_true differs⟩

private theorem isSome_renewed (renewed : Renewed world final) (pointer : Nat) :
    (final.objects pointer).isSome = (world.objects pointer).isSome := by
  have same := congrArg Option.isSome (renewed.keys pointer)
  rwa [Option.isSome_map, Option.isSome_map] at same

private theorem updateObjectRegisters (registry : Registry world) (pointers : List Nat) :
    Renewed world (pointers.foldl World.updateObjectRegister world) := by
  induction pointers generalizing world with
  | nil => exact registry.renewed_refl
  | cons pointer rest ih =>
      have first := registry.updateObjectRegister pointer
      exact first.trans (ih first.registry)

private theorem insertObjectRegisters (registry : Registry world) (pointers : List Nat)
    (there : ∀ pointer ∈ pointers, (world.objects pointer).isSome = true) :
    Renewed world (pointers.foldl World.insertObjectRegister world) := by
  induction pointers generalizing world with
  | nil => exact registry.renewed_refl
  | cons pointer rest ih =>
      have first := registry.insertObjectRegister (there pointer List.mem_cons_self)
      apply first.trans
      apply ih first.registry
      intro other member
      rw [isSome_renewed first]
      exact there other (List.mem_cons_of_mem _ member)

end Registry

/-- Only the database is different. -/
structure Unmoved (world final : World δ ω) : Prop where
  objects : final.objects = world.objects
  created : final.created = world.created
  loaded : final.loaded = world.loaded

private theorem Unmoved.refl (world : World δ ω) : Unmoved world world := ⟨rfl, rfl, rfl⟩

private theorem Unmoved.of_rowsOnly (unmoved : Unmoved world middle)
    (rows : RowsOnly middle final) :
    Unmoved world final := by
  unfold RowsOnly at rows
  rw [rows]
  exact ⟨unmoved.objects, unmoved.created, unmoved.loaded⟩

theorem Registry.renewed_of_unmoved (registry : Registry world) (unmoved : Unmoved world final) :
    Renewed world final :=
  registry.renewed_of_same unmoved.objects unmoved.created unmoved.loaded

section

variable {env : Env δ ω}

private theorem keeps_query_unmoved (sent : Query δ) :
    Keeps (Unmoved world) (query codec env sent) := by
  intro start unmoved
  have rowQuery (notBegin : sent ≠ .begin) (notCommit : sent ≠ .commit) :
      Outcome (query codec env sent) start (fun _ => Unmoved world) fun _ => Unmoved world := by
    apply (rowQuery_spec notBegin notCommit).mono
    · intro _ final rows
      exact unmoved.of_rowsOnly rows
    · rintro _ final rfl
      exact unmoved
  cases sent with
  | begin =>
      simp only [query, Outcome.bind_iff, Outcome.get_iff, Outcome.ite_iff, Outcome.throw_iff,
        Outcome.set_iff, Outcome.pure_iff]
      exact ⟨fun _ => unmoved, fun _ => ⟨unmoved.objects, unmoved.created, unmoved.loaded⟩⟩
  | commit =>
      simp only [query, Outcome.bind_iff, Outcome.get_iff, Outcome.ite_iff, Outcome.throw_iff,
        Outcome.set_iff, Outcome.pure_iff]
      exact ⟨fun _ => unmoved, fun _ => ⟨unmoved.objects, unmoved.created, unmoved.loaded⟩⟩
  | update key sets => exact rowQuery (by simp) (by simp)
  | insert table columns => exact rowQuery (by simp) (by simp)

private theorem keeps_saveQuery_unmoved (pointer : Nat) :
    Keeps (Unmoved world) (saveQuery codec env pointer) := by
  intro start unmoved
  exact (saveQuery_rows pointer start).mono (fun _ _ => unmoved.of_rowsOnly)
    fun _ _ => unmoved.of_rowsOnly

private theorem keeps_saveAll_unmoved : Keeps (Unmoved world) (saveAll codec env) := by
  apply keeps_get_bind
  intro start _
  apply keeps_bind (keeps_forM keeps_saveQuery_unmoved)
  intro _
  apply keeps_get_bind
  intro middle _
  apply keeps_forM
  intro pointer
  apply keeps_get_bind
  intro later _
  exact keeps_ite (fun _ => keeps_saveQuery_unmoved pointer) fun _ => keeps_pure _

private theorem keeps_transaction_unmoved {func : Exec δ ω Unit}
    (keeps : Keeps (Unmoved world) func) :
    Keeps (Unmoved world) (transaction codec env func) := by
  apply keeps_get_bind
  intro start _
  apply keeps_ite
  · exact fun _ => keeps_throw _
  · intro _
    apply keeps_bind (keeps_query_unmoved _)
    intro _
    apply keeps_tryCatch
    · apply keeps_bind keeps
      intro _
      exact keeps_bind (keeps_query_unmoved _) fun _ => keeps_pure _
    · intro exception
      have rolledBack : Keeps (Unmoved world) (rollback : Exec δ ω Unit) :=
        keeps_modify fun _ unmoved => ⟨unmoved.objects, unmoved.created, unmoved.loaded⟩
      exact keeps_when (fun _ => rolledBack) (keeps_throw _)

private theorem save_renewed (registry : Registry world) (pointer : Nat) :
    Outcome (save codec env pointer) world (fun _ => Renewed world) fun _ => Renewed world := by
  rw [save, Outcome.bind_iff]
  apply (keeps_saveQuery_unmoved pointer world (Unmoved.refl world)).mono
  · intro _ middle unmoved
    have first := registry.renewed_of_unmoved unmoved
    rw [Outcome.modify_iff, saveRegister]
    apply first.trans
    split
    · next created =>
      apply first.registry.insertObjectRegister
      apply (first.registry.held pointer).mpr
      exact .inl (by simpa using created)
    · exact first.registry.updateObjectRegister pointer
  · intro _ final unmoved
    exact registry.renewed_of_unmoved unmoved

private theorem saveObjects_renewed (registry : Registry world) :
    Outcome (saveObjects codec env) world (fun _ => Renewed world) fun _ => Renewed world := by
  rw [saveObjects, Outcome.bind_iff]
  apply (keeps_transaction_unmoved keeps_saveAll_unmoved world (Unmoved.refl world)).mono
  · intro _ middle unmoved
    have first := registry.renewed_of_unmoved unmoved
    rw [Outcome.bind_iff, Outcome.modify_iff, Outcome.modify_iff]
    have inserted : Renewed middle (middle.created.foldl World.insertObjectRegister middle) := by
      apply first.registry.insertObjectRegisters
      intro pointer member
      exact (first.registry.held pointer).mpr (.inl member)
    exact first.trans (inserted.trans (inserted.registry.updateObjectRegisters _))
  · intro _ final unmoved
    exact registry.renewed_of_unmoved unmoved

end

section

variable {pointer : Nat} {object : BaseObject δ ω}

private theorem Registry.place (registry : Registry world) (free : world.objects pointer = none)
    (objects : final.objects = Function.update world.objects pointer (some object))
    (plain : ':' ∉ object.className.toList)
    (members : final.created = world.created ++ [pointer] ∧ final.loaded = world.loaded ∨
      final.created = world.created ∧ final.loaded = world.loaded ++ [pointer]) :
    Extended world final := by
  obtain ⟨notCreated, notLoaded⟩ : pointer ∉ world.created ∧ pointer ∉ world.loaded := by
    rw [← not_or, ← registry.held, free]
    simp
  have others (other : Nat) (differs : other ≠ pointer) :
      final.objects other = world.objects other := by
    rw [objects, Function.update_of_ne differs]
  have own : final.objects pointer = some object := by rw [objects, Function.update_self]
  refine ⟨⟨?_, ?_, ?_⟩, ?_⟩
  · intro other
    by_cases same : other = pointer
    · subst same
      rw [own]
      rcases members with ⟨created, loaded⟩ | ⟨created, loaded⟩
      · simp [created]
      · simp [loaded]
    · rw [others other same, registry.held]
      rcases members with ⟨created, loaded⟩ | ⟨created, loaded⟩
      · simp [created, loaded, same]
      · simp [created, loaded, same]
  · intro other created loaded
    rcases members with ⟨createdNow, loadedNow⟩ | ⟨createdNow, loadedNow⟩
    · rw [createdNow, List.mem_append, List.mem_singleton] at created
      rw [loadedNow] at loaded
      rcases created with created | rfl
      · exact registry.apart other created loaded
      · exact notLoaded loaded
    · rw [createdNow] at created
      rw [loadedNow, List.mem_append, List.mem_singleton] at loaded
      rcases loaded with loaded | rfl
      · exact registry.apart other created loaded
      · exact notCreated created
  · intro other found there
    by_cases same : other = pointer
    · subst same
      rw [own] at there
      cases there
      exact plain
    · rw [others other same] at there
      exact registry.plain other found there
  · intro other found there
    rw [others other ?_]
    · exact there
    · rintro rfl
      rw [free] at there
      cases there

private theorem Registry.drop (registry : Registry world)
    (objects : final.objects = Function.update world.objects pointer none)
    (created : ∀ other, other ∈ final.created ↔ other ∈ world.created ∧ other ≠ pointer)
    (loaded : ∀ other, other ∈ final.loaded ↔ other ∈ world.loaded ∧ other ≠ pointer) :
    Reduced world final := by
  have kept (other : Nat) (found : BaseObject δ ω) (there : final.objects other = some found) :
      world.objects other = some found := by
    rw [objects] at there
    rcases update_cases there with ⟨_, ⟨⟩⟩ | ⟨_, was⟩
    exact was
  refine ⟨⟨?_, ?_, ?_⟩, kept⟩
  · intro other
    rw [created, loaded, ← or_and_right, ← registry.held, objects]
    by_cases same : other = pointer
    · subst same
      simp
    · simp [same]
  · intro other isCreated isLoaded
    exact registry.apart other ((created other).mp isCreated).1 ((loaded other).mp isLoaded).1
  · intro other found there
    exact registry.plain other found (kept other found there)

/-- An object with a key. -/
def KeyedAt (world : World δ ω) (key : RowKey) (pointer : Nat) : Prop :=
  ∃ object, world.objects pointer = some object ∧ object.key = key

private theorem KeyedAt.extended {key : RowKey} (keyed : KeyedAt middle key pointer)
    (extended : Extended middle final) : KeyedAt final key pointer := by
  obtain ⟨object, found, same⟩ := keyed
  exact ⟨object, extended.kept pointer object found, same⟩

private theorem Registry.keyedAt (registry : Registry world) {id className : String}
    (plain : ':' ∉ className.toList) (found : world.find (objkey id className) = some pointer) :
    KeyedAt world (className, id) pointer :=
  (World.hasKey_iff plain (registry.plain pointer)).mp (List.find?_some found)

end

namespace Registry

private theorem address_free (registry : Registry world) (surroundings : Surroundings δ ω) :
    world.objects (surroundings.address world) = none := by
  rw [← Option.not_isSome_iff_eq_none, registry.held, not_or]
  exact surroundings.unused world

theorem extended_refl (registry : Registry world) : Extended world world :=
  ⟨registry, fun _ _ => id⟩

private theorem reduced_refl (registry : Registry world) : Reduced world world :=
  ⟨registry, fun _ _ => id⟩

private theorem createObject (registry : Registry world) (objectClass : TableClass δ ω)
    (id : String) :
    Extended world
      (world.createObject (surroundings.address world) objectClass.toObjectClass id) := by
  have free := registry.address_free surroundings
  have notes := notifyModified_same world (surroundings.address world)
  rw [createObject_free objectClass id free]
  apply registry.place free
  · rfl
  · exact objectClass.plain
  · exact .inl ⟨rfl, notes.2.2.2.1⟩

private theorem modify (registry : Registry world) (pointer : Nat) (name : String)
    (change : Change δ ω) : Renewed world (world.modify pointer name change) := by
  unfold World.modify
  cases found : world.objects pointer with
  | none => exact registry.renewed_refl
  | some object =>
      have notes := noted_spec world pointer (changeField name change object.fields).2
      revert notes
      dsimp only
      generalize (if (changeField name change object.fields).2 = true
        then world.notifyModified pointer else world) = noted
      rintro ⟨-, -, created, loaded, -, -⟩
      apply registry.renewed
      · intro other
        dsimp only
        by_cases same : other = pointer
        · subst same
          rw [Function.update_self, found]
          rfl
        · rw [Function.update_of_ne same]
      · intro other
        dsimp only
        rw [created, loaded]
      · dsimp only
        rw [created, loaded]
        exact registry.apart

private theorem constructObject (registry : Registry world) (objectClass : TableClass δ ω)
    (id : String)
    (row : Row δ) :
    Outcome (constructObject codec surroundings objectClass id row) world
      (fun pointer final => Extended world final ∧ KeyedAt final (objectClass.name, id) pointer)
      (fun _ final => Extended world final) := by
  unfold Database.constructObject
  simp only [Outcome.bind_iff, Outcome.get_iff]
  cases found : world.find (objkey id objectClass.name) with
  | some pointer => exact ⟨registry.extended_refl, registry.keyedAt objectClass.plain found⟩
  | none =>
      have free := registry.address_free surroundings
      have notes := noted_spec world (surroundings.address world)
        (objectClass.fields.any fun field => field.2.construct.2)
      revert notes
      dsimp only
      generalize (if (objectClass.fields.any fun field => field.2.construct.2) = true
        then world.notifyModified (surroundings.address world) else world) = noted
      rintro ⟨-, objects, created, loaded, -, -⟩
      cases read : initFields codec row objectClass.fields with
      | error exception =>
          simp only [Outcome.bind_iff, Outcome.set_iff, Outcome.throw_iff]
          refine ⟨registry.of_same objects created loaded, fun other object there => ?_⟩
          rw [objects]
          exact there
      | ok fields =>
          simp only [Outcome.bind_iff, Outcome.set_iff, Outcome.pure_iff]
          constructor
          · apply registry.place free
            · rfl
            · exact objectClass.plain
            · exact .inr ⟨created, rfl⟩
          · exact ⟨_, Function.update_self .., rfl⟩

private theorem constructObjects (objectClass : TableClass δ ω) (rows : List (String × Row δ))
    {world : World δ ω} (registry : Registry world) :
    Outcome (constructObjects codec surroundings objectClass rows) world
      (fun pointers final => Extended world final ∧
        List.Forall₂ (fun entry pointer => KeyedAt final (objectClass.name, entry.1) pointer)
          rows pointers)
      (fun _ final => Extended world final) := by
  induction rows generalizing world with
  | nil => exact ⟨registry.extended_refl, .nil⟩
  | cons entry rest ih =>
      unfold Database.constructObjects
      simp only [Outcome.bind_iff, Outcome.pure_iff]
      apply (registry.constructObject objectClass entry.1 entry.2).mono
      · rintro pointer middle ⟨first, keyed⟩
        apply (ih first.registry).mono
        · rintro pointers final ⟨more, all⟩
          exact ⟨first.trans more, .cons (keyed.extended more) all⟩
        · intro _ final more
          exact first.trans more
      · exact fun _ _ => id

private theorem loadObjectsByQuery (registry : Registry world) (objectClass : TableClass δ ω)
    (selection : Selection) :
    Outcome (loadObjectsByQuery codec surroundings objectClass selection) world
      (fun pointers final => Extended world final ∧
        List.Forall₂ (fun entry pointer => KeyedAt final (objectClass.name, entry.1) pointer)
          (world.select objectClass.name selection) pointers)
      (fun _ final => Extended world final) := by
  unfold Database.loadObjectsByQuery
  simp only [Outcome.bind_iff, Outcome.get_iff, Outcome.ite_iff, Outcome.throw_iff]
  exact ⟨fun _ => registry.extended_refl, fun _ => registry.constructObjects objectClass _⟩

/-- `TryLoadUniqueByQuery` of the row with an ID returns an object with that ID. -/
theorem tryLoadUniqueByQuery (registry : Registry world) (objectClass : TableClass δ ω)
    (selection : Selection) :
    Outcome (tryLoadUniqueByQuery codec surroundings objectClass selection) world
      (fun found final => Extended world final ∧ ∀ pointer, found = some pointer →
        ∃ id ∈ selection.ids, KeyedAt final (objectClass.name, id) pointer)
      (fun _ final => Extended world final) := by
  unfold Database.tryLoadUniqueByQuery
  rw [Outcome.bind_iff]
  apply (registry.loadObjectsByQuery objectClass selection).mono
  · rintro pointers final ⟨extended, all⟩
    simp only [Outcome.ite_iff, Outcome.throw_iff, Outcome.pure_iff]
    refine ⟨fun _ => extended, fun _ => ⟨extended, fun pointer first => ?_⟩⟩
    revert all
    generalize selected : world.select objectClass.name selection = entries
    intro all
    cases all with
    | nil => cases first
    | @cons entry _ entries _ keyed _ =>
        have member : entry ∈ world.select objectClass.name selection := by simp [selected]
        cases first
        obtain ⟨id, listed, found⟩ := List.mem_filterMap.mp member
        obtain ⟨_, _, rfl⟩ := Option.map_eq_some_iff.mp found
        exact ⟨id, listed, keyed⟩
  · exact fun _ _ => id

private theorem deleteObject (registry : Registry world) (pointer : Nat) :
    Outcome (deleteObject surroundings pointer) world (fun _ => Reduced world)
      (fun _ => Reduced world) := by
  unfold Database.deleteObject
  simp only [Outcome.bind_iff, Outcome.get_iff]
  cases found : world.objects pointer with
  | none => exact registry.reduced_refl
  | some object =>
      simp only [Outcome.ite_iff]
      constructor
      · intro isCreated
        have created : pointer ∈ world.created := by simpa using isCreated
        apply registry.drop rfl
        · intro other
          change other ∈ world.created.filter (· ≠ pointer) ↔ _
          simp
        · intro other
          refine ⟨fun loaded => ⟨loaded, ?_⟩, And.left⟩
          rintro rfl
          exact registry.apart other created loaded
      · intro _
        simp only [deleteQuery, Outcome.bind_iff, Outcome.get_iff, Outcome.ite_iff,
          Outcome.throw_iff]
        refine ⟨fun _ => registry.reduced_refl, fun _ => ?_⟩
        cases world.rows object.key with
        | none =>
            simp only [Outcome.pure_iff]
            exact ⟨fun _ => registry.reduced_refl, fun one => absurd Nat.zero_ne_one one⟩
        | some row =>
            simp only [Outcome.bind_iff, Outcome.set_iff, Outcome.pure_iff, Outcome.modify_iff]
            refine ⟨fun one => absurd rfl one, fun _ => ?_⟩
            cases there : world.find (objkey object.id object.className) with
            | none =>
                have same : (({ world with rows := Function.update world.rows object.key none } :
                    World δ ω).eraseModified pointer).find
                      (objkey object.id object.className) = none := there
                unfold World.eraseLoaded
                rw [same]
                exact ⟨registry.of_same rfl rfl rfl, fun _ _ => id⟩
            | some other =>
                have loaded : other ∈ world.loaded := List.mem_of_find?_eq_some there
                rw [World.eraseLoaded_of_find there]
                apply registry.drop rfl
                · intro third
                  refine ⟨fun created => ⟨created, ?_⟩, And.left⟩
                  rintro rfl
                  exact registry.apart third created loaded
                · intro third
                  change third ∈ world.loaded.filter (· ≠ other) ↔ _
                  simp

private theorem deleteObjects (pointers : List Nat) {world : World δ ω}
    (registry : Registry world) :
    Outcome (forM pointers (Database.deleteObject surroundings) : Exec δ ω PUnit) world
      (fun _ => Reduced world) (fun _ => Reduced world) := by
  apply Outcome.forM_invariant registry.reduced_refl
  intro pointer _ middle reduced
  apply (reduced.registry.deleteObject pointer).mono
  · exact fun _ _ => reduced.trans
  · exact fun _ _ => reduced.trans

private theorem deleteObjectsByQuery (registry : Registry world) (objectClass : TableClass δ ω)
    (selection : Selection) :
    Outcome (deleteObjectsByQuery codec surroundings objectClass selection) world
      (fun _ => Carried world) (fun _ => Carried world) := by
  unfold Database.deleteObjectsByQuery
  rw [Outcome.bind_iff]
  apply (registry.loadObjectsByQuery objectClass selection).mono
  · rintro pointers middle ⟨extended, -⟩
    simp only [Outcome.bind_iff, Outcome.pure_iff]
    apply (extended.registry.deleteObjects pointers).mono
    · exact fun _ _ => extended.reduced
    · exact fun _ _ => extended.reduced
  · exact fun _ _ => Extended.carried

end Registry

private theorem Reduced.carried (registry : Registry world) (reduced : Reduced world final) :
    Carried world final :=
  registry.extended_refl.reduced reduced

/-- What a call does, whether it returns or throws. -/
theorem Call.run_carried (registry : Registry world) (call : Call δ ω) :
    Carried world (exitWorld (call.run codec surroundings world)) := by
  apply exitWorld_of (Carried world)
  cases call with
  | createObject objectClass id => exact (registry.createObject objectClass id).carried
  | modifyField pointer name change => exact (registry.modify pointer name change).carried
  | save pointer =>
      exact (save_renewed registry pointer).mono (fun _ _ => Renewed.carried)
        fun _ _ => Renewed.carried
  | saveObjects =>
      exact (saveObjects_renewed registry).mono (fun _ _ => Renewed.carried)
        fun _ _ => Renewed.carried
  | loadObjectsByQuery objectClass selection =>
      unfold Call.run
      simp only [Outcome.bind_iff, Outcome.pure_iff]
      exact (registry.loadObjectsByQuery objectClass selection).mono
        (fun _ _ both => both.1.carried) fun _ _ => Extended.carried
  | tryLoadUniqueByQuery objectClass selection =>
      unfold Call.run
      simp only [Outcome.bind_iff, Outcome.pure_iff]
      exact (registry.tryLoadUniqueByQuery objectClass selection).mono
        (fun _ _ both => both.1.carried) fun _ _ => Extended.carried
  | deleteObject pointer =>
      exact (registry.deleteObject pointer).mono (fun _ _ => Reduced.carried registry)
        fun _ _ => Reduced.carried registry
  | deleteObjectsByQuery objectClass selection =>
      unfold Call.run
      simp only [Outcome.bind_iff, Outcome.pure_iff]
      exact registry.deleteObjectsByQuery objectClass selection
  | tryDeleteUniqueByQuery objectClass selection =>
      unfold Call.run Database.tryDeleteUniqueByQuery
      simp only [Outcome.bind_iff, Outcome.pure_iff, Outcome.ite_iff, Outcome.throw_iff]
      exact (registry.deleteObjectsByQuery objectClass selection).mono
        (fun _ _ carried => ⟨fun _ => carried, fun _ => carried⟩) fun _ _ => id

end

end Andromeda.Database
