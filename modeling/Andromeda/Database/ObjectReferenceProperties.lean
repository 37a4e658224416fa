import Andromeda.Database.ObjectReference
import Andromeda.Database.RegistryProperties

/-! A field reads as the live object with its ID for as long as nothing makes the kept pointer a wrong
one. -/

set_option autoImplicit false
set_option linter.unusedSectionVars false

namespace Andromeda.Database.ObjectReference

open Andromeda.Library

section

variable {δ ω : Type} [DecidableEq δ] [Zero δ] {codec : Codec δ ω}
  {surroundings : Surroundings δ ω} {world final : World δ ω} {field : RefField δ ω}

private theorem liveAt_of_keyedAt (registry : Registry world) {key : RowKey} {pointer : Nat}
    (keyed : KeyedAt world key pointer) : LiveAt world key pointer := by
  obtain ⟨object, found, same⟩ := keyed
  exact ⟨(registry.held pointer).mp (by rw [found]; rfl), object, found, same⟩

private theorem LiveAt.carried {key : RowKey} {pointer : Nat} (live : LiveAt world key pointer)
    (carried : Carried world final) (there : (final.objects pointer).isSome = true) :
    LiveAt final key pointer := by
  obtain ⟨_, before, found, same⟩ := live
  obtain ⟨after, foundAfter⟩ := Option.isSome_iff_exists.mp there
  apply liveAt_of_keyedAt carried.registry
  exact ⟨after, foundAfter, (carried.keys pointer before after found foundAfter).trans same⟩

private theorem LiveAt.of_unmoved {key : RowKey} {pointer : Nat} (live : LiveAt world key pointer)
    (unmoved : Unmoved world final) : LiveAt final key pointer := by
  obtain ⟨held, object, found, same⟩ := live
  refine ⟨?_, object, ?_, same⟩
  · rw [unmoved.created, unmoved.loaded]
    exact held
  · rw [unmoved.objects]
    exact found

/-- The pointer a field keeps, if any, is the one of the object with its ID. -/
def KeepsRight (world : World δ ω) (field : RefField δ ω) : Prop :=
  ∀ pointer, field.objPtr = some pointer → field.objId ≠ "" →
    LiveAt world (field.target.name, field.objId) pointer

private theorem KeepsRight.of_unmoved (right : KeepsRight world field)
    (unmoved : Unmoved world final) :
    KeepsRight final field :=
  fun pointer kept named => (right pointer kept named).of_unmoved unmoved

private theorem getObject_kept {pointer : Nat} (named : field.objId ≠ "")
    (kept : field.objPtr = some pointer) :
    getObject codec surroundings (world, field) = .ok (some pointer) (world, field) := by
  simp only [getObject, bind, EStateM.bind, run_get]
  rw [if_neg named, kept]
  rfl

/-- A field that was read, which has at most got a pointer. -/
structure Read (before after : State δ ω) : Prop where
  extended : Extended before.1 after.1
  target : after.2.target = before.2.target
  nullable : after.2.nullable = before.2.nullable
  objId : after.2.objId = before.2.objId
  right : KeepsRight after.1 after.2

private theorem getObject_read (registry : Registry world) (right : KeepsRight world field) :
    Outcome (getObject codec surroundings) (world, field)
      (fun found after => Read (world, field) after ∧
        match found with
        | none => field.nullable = true ∧ field.objId = ""
        | some pointer =>
          field.objId ≠ "" ∧ LiveAt after.1 (field.target.name, field.objId) pointer)
      (fun _ after => Read (world, field) after ∧ (field.nullable = true → field.objId ≠ "")) := by
  have same : Read (world, field) (world, field) :=
    ⟨registry.extended_refl, rfl, rfl, rfl, right⟩
  have later {middle : World δ ω} (extended : Extended world middle) :
      Read (world, field) (middle, field) := by
    refine ⟨extended, rfl, rfl, rfl, fun pointer kept named => ?_⟩
    obtain ⟨_, object, found, key⟩ := right pointer kept named
    exact liveAt_of_keyedAt extended.registry ⟨object, extended.kept pointer object found, key⟩
  unfold getObject
  simp only [Outcome.bind_iff, Outcome.get_iff, Outcome.ite_iff, Outcome.pure_iff,
    Outcome.throw_iff]
  constructor
  · intro empty
    exact ⟨fun nullable => ⟨same, nullable, empty⟩, fun notNull => ⟨same, fun yes =>
      absurd yes notNull⟩⟩
  · intro named
    cases kept : field.objPtr with
    | some pointer => exact ⟨same, named, right pointer kept named⟩
    | none =>
        simp only [Outcome.bind_iff, onFirst_iff]
        apply (registry.tryLoadUniqueByQuery field.target (selection field)).mono
        · rintro found middle ⟨extended, keyed⟩
          cases found with
          | none => exact ⟨later extended, fun _ => named⟩
          | some pointer =>
              obtain ⟨id, listed, keyedAt⟩ := keyed pointer rfl
              obtain rfl : id = field.objId := List.mem_singleton.mp listed
              have live := liveAt_of_keyedAt extended.registry keyedAt
              simp only [Outcome.bind_iff, Outcome.modify_iff, Outcome.pure_iff]
              refine ⟨⟨extended, rfl, rfl, rfl, fun other found _ => ?_⟩, named, live⟩
              cases found
              exact live
        · intro _ middle extended
          exact ⟨later extended, fun _ => named⟩

private theorem notifyModified_unmoved (world : World δ ω) (pointer : Nat) :
    Unmoved world (world.notifyModified pointer) := by
  obtain ⟨_, objects, created, loaded, _⟩ := notifyModified_same world pointer
  exact ⟨objects, created, loaded⟩

namespace Tracked

/-- The database's containers, the ID that is meant and a right pointer. -/
structure Good (tracked : Tracked δ ω) : Prop where
  registry : Registry tracked.state.1
  named : tracked.state.2.objId = tracked.meant
  right : KeepsRight tracked.state.1 tracked.state.2

private theorem opened_good (rows : Contents δ) (target : TableClass δ ω) (nullable : Bool)
    (parent : Nat) : (opened rows target nullable parent).Good where
  registry := Registry.opened rows
  named := rfl
  right _ kept := by cases kept

private theorem Good.valid {tracked : Tracked δ ω} (good : tracked.Good) : tracked.Valid codec := by
  obtain ⟨⟨world, field⟩, meant⟩ := tracked
  obtain ⟨registry, named, right⟩ := good
  dsimp only at registry named right
  subst named
  intro surroundings
  have reading : Outcome (ObjectReference.getObject codec surroundings) (world, field) _ _ :=
    getObject_read registry right
  dsimp only
  cases read : ObjectReference.getObject codec surroundings (world, field) with
  | ok found after =>
      have returned := (reading.of_ok read).2
      cases found with
      | none => exact returned
      | some pointer => exact returned
  | error exception after => exact (reading.of_error read).2

private theorem Good.step {tracked : Tracked δ ω} (good : tracked.Good)
    (action : Action δ ω × Surroundings δ ω) (safe : tracked.Safe codec action) :
    (tracked.step codec action).Good := by
  obtain ⟨⟨world, field⟩, meant⟩ := tracked
  obtain ⟨registry, named, right⟩ := good
  dsimp only at registry named right
  subst named
  obtain ⟨action, surroundings⟩ := action
  cases action with
  | call call =>
      have carried : Carried world (exitWorld (call.run codec surroundings world)) :=
        call.run_carried registry
      exact ⟨carried.registry, rfl, fun pointer kept empty =>
        (right pointer kept empty).carried carried (safe pointer kept empty)⟩
  | getObject =>
      have reading : Outcome (ObjectReference.getObject codec surroundings) (world, field) _ _ :=
        getObject_read registry right
      have read : Read (world, field)
          (exitState (ObjectReference.getObject codec surroundings (world, field))) := by
        unfold exitState
        cases ran : ObjectReference.getObject codec surroundings (world, field) with
        | ok found after => exact (reading.of_ok ran).1
        | error exception after => exact (reading.of_error ran).1
      exact ⟨read.extended.registry, read.objId, read.right⟩
  | setObject pointer =>
      unfold Tracked.step ObjectReference.setObject
      dsimp only
      cases found : world.objects pointer with
      | none => exact ⟨registry, rfl, right⟩
      | some object =>
          dsimp only
          by_cases sameClass : object.className = field.target.name
          · have live : LiveAt world (field.target.name, object.id) pointer := by
              apply liveAt_of_keyedAt registry
              exact ⟨object, found, by rw [← sameClass]; rfl⟩
            rw [if_neg (not_not.mpr sameClass), if_pos sameClass]
            by_cases sameId : field.objId = object.id
            · rw [if_pos sameId]
              refine ⟨registry, sameId, fun other kept _ => ?_⟩
              cases kept
              rw [← sameId] at live
              exact live
            · rw [if_neg sameId]
              have unmoved := notifyModified_unmoved world field.parent
              refine ⟨(registry.renewed_of_unmoved unmoved).registry, rfl, fun other kept _ => ?_⟩
              cases kept
              exact live.of_unmoved unmoved
          · rw [if_pos sameClass, if_neg sameClass]
            exact ⟨registry, rfl, right⟩
  | setNull =>
      unfold Tracked.step ObjectReference.setNull
      dsimp only
      cases nullable : field.nullable with
      | false => exact ⟨registry, rfl, right⟩
      | true =>
          by_cases empty : field.objId = ""
          · rw [if_pos (.inr empty), if_pos rfl]
            exact ⟨registry, empty, right⟩
          · rw [if_neg (by simp [empty]), if_pos rfl]
            have unmoved := notifyModified_unmoved world field.parent
            exact ⟨(registry.renewed_of_unmoved unmoved).registry, rfl, fun _ kept => by cases kept⟩
  | initDBValue value =>
      unfold Tracked.step ObjectReference.initDBValue
      unfold Safe at safe
      dsimp only at safe ⊢
      cases null : value.isNull with
      | true =>
          rw [null, if_pos rfl] at safe
          rw [if_pos rfl, if_pos rfl]
          cases nullable : field.nullable with
          | false => exact ⟨registry, rfl, right⟩
          | true => exact ⟨registry, safe nullable, right⟩
      | false =>
          rw [null, if_neg Bool.false_ne_true] at safe
          rw [if_neg Bool.false_ne_true, if_neg Bool.false_ne_true]
          exact ⟨registry, rfl, safe⟩

private theorem Good.safe {tracked : Tracked δ ω} (good : tracked.Good)
    (action : Action δ ω × Surroundings δ ω) (valid : (tracked.step codec action).Valid codec) :
    tracked.Safe codec action := by
  obtain ⟨⟨world, field⟩, meant⟩ := tracked
  obtain ⟨registry, named, right⟩ := good
  dsimp only at registry named right
  subst named
  obtain ⟨action, surroundings⟩ := action
  specialize valid surroundings
  cases action with
  | call call =>
      intro pointer kept empty
      unfold Tracked.step at valid
      dsimp only at valid
      rw [getObject_kept empty kept] at valid
      obtain ⟨-, -, object, found, -⟩ := valid
      exact Option.isSome_of_mem found
  | getObject => trivial
  | setObject pointer => trivial
  | setNull => trivial
  | initDBValue value =>
      unfold Tracked.step ObjectReference.initDBValue at valid
      unfold Safe
      dsimp only at valid ⊢
      cases null : value.isNull with
      | true =>
          rw [if_pos rfl]
          intro nullable
          rw [null, if_pos rfl, if_pos rfl, if_pos nullable, if_pos nullable] at valid
          have reading : Outcome (ObjectReference.getObject codec surroundings)
              (world, { field with delta := 0 }) _ _ := getObject_read registry right
          revert valid
          cases read : ObjectReference.getObject codec surroundings
              (world, { field with delta := 0 }) with
          | ok found after =>
              have returned := (reading.of_ok read).2
              cases found with
              | none => exact fun _ => returned.2
              | some pointer => exact fun valid => absurd rfl valid.1
          | error exception after => exact fun valid => absurd rfl (valid nullable)
      | false =>
          rw [if_neg Bool.false_ne_true]
          intro pointer kept empty
          rw [null, if_neg Bool.false_ne_true, if_neg Bool.false_ne_true] at valid
          have read : ObjectReference.getObject codec surroundings
              (world, { field with objId := codec.toText value, delta := 0 }) =
                .ok (some pointer)
                  (world, { field with objId := codec.toText value, delta := 0 }) :=
            getObject_kept empty kept
          rw [read] at valid
          exact valid.2

/-- A field reads as the live object with its ID, or as null if it is null, after every step of a run
exactly if no step deletes the object whose pointer is kept, initialises the field with another ID
while a pointer is kept, or initialises it with null while it has an ID. -/
theorem getObject_valid_iff (codec : Codec δ ω) (rows : Contents δ) (target : TableClass δ ω)
    (nullable : Bool) (parent : Nat) (actions : List (Action δ ω × Surroundings δ ω)) :
    EachStep (step codec) (fun tracked action => (tracked.step codec action).Valid codec)
        (opened rows target nullable parent) actions ↔
      EachStep (step codec) (Safe codec) (opened rows target nullable parent) actions := by
  symm
  apply EachStep.iff_of_invariant
  · intro tracked action good
    exact ⟨fun safe => (Good.step good action safe).valid, good.safe action⟩
  · exact fun tracked action good safe => Good.step good action safe
  · exact opened_good rows target nullable parent

end Tracked

end

section

open Scenario

/-- A table with one row. -/
def oneRow : Contents Int := fun key => if key = ("settings", "a") then some fun _ => .null else none

/-- A field is read, and then the object that it refers to is deleted. -/
def readThenDelete : List (Action Int Json × Surroundings Int Json) :=
  [(.initDBValue (.text "a"), calm), (.getObject, calm), (.call (.deleteObject 1), calm)]

/-- What a field reads as, and whether there is such an object. -/
def reading (tracked : Tracked Int Json) : Option (Option Nat × Bool) :=
  match getObject codec calm tracked.state with
  | .ok found final => some (found, found.any fun pointer => (final.1.objects pointer).isSome)
  | .error _ _ => none

private theorem present_of_valid {tracked : Tracked Int Json} {pointer : Nat} {present : Bool}
    (valid : tracked.Valid codec) (read : reading tracked = some (some pointer, present)) :
    present = true := by
  have right := valid calm
  unfold reading at read
  cases ran : getObject codec calm tracked.state with
  | error exception final =>
      rw [ran] at read
      cases read
  | ok found final =>
      rw [ran] at read right
      cases read
      obtain ⟨-, -, object, there, -⟩ := right
      exact Option.isSome_of_mem there

/-- The field still gives the pointer to the deleted object. -/
theorem deleted_still_read :
    reading (readThenDelete.foldl (Tracked.step codec) (Tracked.opened oneRow table true 0)) =
        some (some 1, false) ∧
      ¬ EachStep (Tracked.step codec)
        (fun tracked action => (tracked.step codec action).Valid codec)
        (Tracked.opened oneRow table true 0) readThenDelete := by
  have read : reading (readThenDelete.foldl (Tracked.step codec)
      (Tracked.opened oneRow table true 0)) = some (some 1, false) := by
    decide +kernel
  refine ⟨read, fun each => ?_⟩
  have valid : Tracked.Valid codec (readThenDelete.foldl (Tracked.step codec)
      (Tracked.opened oneRow table true 0)) := each.2.2.1
  exact Bool.false_ne_true (present_of_valid valid read)

end

end Andromeda.Database.ObjectReference
