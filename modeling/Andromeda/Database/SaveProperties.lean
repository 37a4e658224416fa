import Andromeda.Database.FieldProperties
import Andromeda.Database.TransactionProperties
import Andromeda.Library.Lookup

/-! Saves leave every row reading as its object shows, in sessions whose changes are all
recorded. -/

set_option autoImplicit false
set_option linter.unusedSectionVars false

namespace Andromeda.Database

open Andromeda.Library

section

variable {δ ω : Type} [DecidableEq δ] [Zero δ] {codec : Codec δ ω} {env : Env δ ω}

theorem dbValues_spec {fields : List (String × Field δ ω)}
    {values : List (String × Field δ ω × Value δ)} (converted : dbValues codec fields = .ok values) :
    values.map (fun entry => (entry.1, entry.2.1)) = fields ∧
      ∀ entry ∈ values, entry.2.1.getDBValue codec = .ok entry.2.2 := by
  induction fields generalizing values with
  | nil =>
      cases converted
      exact ⟨rfl, fun _ member => by cases member⟩
  | cons head rest ih =>
      obtain ⟨name, field⟩ := head
      simp only [dbValues] at converted
      split at converted
      · cases converted
      · next value own =>
          split at converted
          · cases converted
          · next others found =>
              cases converted
              obtain ⟨same, each⟩ := ih found
              refine ⟨by rw [List.map_cons, same], fun entry member => ?_⟩
              rcases List.mem_cons.mp member with rfl | later
              · exact own
              · exact each entry later

namespace BaseObject

/-- The fields of an object next to its row. -/
def Tracks (codec : Codec δ ω) (row : Row δ) (object : BaseObject δ ω) : Prop :=
  ∀ name field, (name, field) ∈ object.allFields → field.Tracks codec (row name)

/-- Reading the row again gives what the object shows. -/
def Reads (codec : Codec δ ω) (row : Row δ) (object : BaseObject δ ω) : Prop :=
  ∀ name field, (name, field) ∈ object.allFields →
    field.reread codec (row name) = field.shown

/-- The columns of an object have different names. -/
def Named (object : BaseObject δ ω) : Prop := (object.allFields.map Prod.fst).Nodup

/-- All fields have values, those to be written are storable, and no counter went down. -/
def Writable (codec : Codec δ ω) (object : BaseObject δ ω) : Prop :=
  ∀ name field, (name, field) ∈ object.allFields → field.Writable codec

/-- All fields have values. -/
def Initialized (object : BaseObject δ ω) : Prop :=
  ∀ name field, (name, field) ∈ object.allFields → field.isInitialized = true

private theorem Writable.initialized {object : BaseObject δ ω} {row : Row δ}
    (writable : object.Writable codec) (tracks : object.Tracks codec row) : object.Initialized :=
  fun name field member => (writable name field member).isInitialized
    (tracks name field member).wellformed

/-- The value of a modified field is among those converted, the others' are not. -/
theorem converted_spec {object : BaseObject δ ω} (named : object.Named)
    {values : List (String × Field δ ω × Value δ)}
    (converted : dbValues codec object.modifiedFields = .ok values) {name : String}
    {field : Field δ ω} (member : (name, field) ∈ object.allFields) :
    (values.map Prod.fst).Nodup ∧
      ((field.isModified = false ∧ name ∉ values.map Prod.fst) ∨
        (0 < field.delta ∧ ∃ value, (name, field, value) ∈ values ∧
          field.getDBValue codec = .ok value)) := by
  obtain ⟨same, each⟩ := dbValues_spec converted
  have names : values.map Prod.fst = object.modifiedFields.map Prod.fst := by
    rw [← same, List.map_map]
    rfl
  have sublist : (object.modifiedFields.map Prod.fst).Sublist (object.allFields.map Prod.fst) :=
    List.filter_sublist.map Prod.fst
  refine ⟨by rw [names]; exact named.sublist sublist, ?_⟩
  cases modified : field.isModified with
  | false =>
      refine .inl ⟨rfl, fun written => ?_⟩
      rw [names] at written
      obtain ⟨⟨otherName, other⟩, included, rfl⟩ := List.mem_map.mp written
      obtain ⟨there, isModified⟩ := List.mem_filter.mp included
      have sameField : some field = some other :=
        (lookup_of_mem named member).symm.trans (lookup_of_mem named there)
      cases sameField
      rw [modified] at isModified
      cases isModified
  | true =>
      have included : (name, field) ∈ object.modifiedFields :=
        List.mem_filter.mpr ⟨member, modified⟩
      rw [← same] at included
      obtain ⟨⟨entryName, entryField, value⟩, there, equal⟩ := List.mem_map.mp included
      cases equal
      exact .inr ⟨of_decide_eq_true modified, value, there, each _ there⟩

private theorem Tracks.updated (lawful : Lawful codec) {object : BaseObject δ ω} {row : Row δ}
    (tracks : object.Tracks codec row) (named : object.Named) (writable : object.Writable codec)
    (increasable : ∀ name field, (name, field) ∈ object.allFields →
      field.Increasable (row name))
    {values : List (String × Field δ ω × Value δ)}
    (converted : dbValues codec object.modifiedFields = .ok values) :
    object.Reads codec (updateRow codec row
      (values.map fun entry => (entry.1, setterOf entry.2.1 entry.2.2))) := by
  intro name field member
  have own := tracks name field member
  obtain ⟨names, cases⟩ := converted_spec named converted member
  rcases cases with ⟨notModified, absent⟩ | ⟨modified, value, written, valueOf⟩
  · rw [updateRow, lookup_map_of_not_mem absent]
    exact own.unmodified (own.delta_eq_zero (writable name field member) notModified)
  · rw [updateRow, lookup_map_of_mem names (name, field, value) written]
    exact own.updated lawful (writable name field member) (increasable name field member)
      modified valueOf

private theorem Tracks.inserted (lawful : Lawful codec) {object : BaseObject δ ω}
    (tracks : object.Tracks codec fun _ => .null) (named : object.Named)
    (writable : object.Writable codec) {values : List (String × Field δ ω × Value δ)}
    (converted : dbValues codec object.modifiedFields = .ok values) :
    object.Reads codec (insertRow codec (values.map fun entry => (entry.1, entry.2.2))) := by
  intro name field member
  have own := tracks name field member
  obtain ⟨names, cases⟩ := converted_spec named converted member
  rcases cases with ⟨notModified, absent⟩ | ⟨modified, value, written, valueOf⟩
  · rw [insertRow, lookup_map_of_not_mem absent]
    exact own.unmodified (own.delta_eq_zero (writable name field member) notModified)
  · rw [insertRow, lookup_map_of_mem names (name, field, value) written]
    exact own.inserted lawful (writable name field member) modified valueOf

/-- What tracks a row that reads as it shows tracks it with nothing recorded, once marked. -/
theorem Tracks.setUnmodified {object : BaseObject δ ω} {row tracked : Row δ}
    (tracks : object.Tracks codec tracked) (reads : object.Reads codec row) :
    object.setUnmodified.Tracks codec row := by
  intro name field member
  rcases List.mem_cons.mp member with idField | later
  · cases idField
    exact Field.Tracks.setUnmodified (tracks "id" _ List.mem_cons_self).wellformed
      (reads "id" _ List.mem_cons_self)
  · obtain ⟨⟨otherName, other⟩, included, equal⟩ := List.mem_map.mp later
    cases equal
    have there : (otherName, other) ∈ object.allFields := List.mem_cons_of_mem _ included
    exact Field.Tracks.setUnmodified (tracks otherName other there).wellformed
      (reads otherName other there)

theorem Initialized.setUnmodified {object : BaseObject δ ω} (initialized : object.Initialized) :
    object.setUnmodified.Initialized := by
  intro name field member
  rcases List.mem_cons.mp member with idField | later
  · cases idField
    exact initialized "id" (.scalar .text object.idField) List.mem_cons_self
  · obtain ⟨⟨otherName, other⟩, included, equal⟩ := List.mem_map.mp later
    cases equal
    rw [Field.isInitialized_setUnmodified]
    exact initialized otherName other (List.mem_cons_of_mem _ included)

theorem setUnmodified_delta {object : BaseObject δ ω} {name : String} {field : Field δ ω}
    (member : (name, field) ∈ object.setUnmodified.allFields) : field.delta = 0 := by
  rcases List.mem_cons.mp member with idField | later
  · cases idField
    rfl
  · obtain ⟨other, _, equal⟩ := List.mem_map.mp later
    cases equal
    exact Field.delta_setUnmodified _

@[simp] theorem key_setUnmodified (object : BaseObject δ ω) :
    object.setUnmodified.key = object.key := rfl

theorem named_setUnmodified {object : BaseObject δ ω} (named : object.Named) :
    object.setUnmodified.Named := by
  have names : object.setUnmodified.allFields.map Prod.fst = object.allFields.map Prod.fst := by
    simp only [setUnmodified, allFields, List.map_cons, List.map_map]
    rfl
  rw [Named, names]
  exact named

end BaseObject

/-- A row written at a key. -/
def World.setRow (world : World δ ω) (key : RowKey) (row : Row δ) : World δ ω :=
  { world with rows := Function.update world.rows key (some row) }

@[simp] theorem World.setRow_self (world : World δ ω) (key : RowKey) (row : Row δ) :
    (world.setRow key row).rows key = some row := Function.update_self ..

theorem World.setRow_of_ne (world : World δ ω) {key other : RowKey} (row : Row δ)
    (differs : other ≠ key) : (world.setRow key row).rows other = world.rows other :=
  Function.update_of_ne differs ..

private theorem update_spec (world : World δ ω) (key : RowKey) (sets : List (String × Setter δ)) :
    Outcome (query codec env (.update key sets)) world
      (fun changed final => (changed ≠ 1 → final = world) ∧
        (changed = 1 → ∃ row, world.rows key = some row ∧
          final = world.setRow key (updateRow codec row sets)))
      (fun _ final => final = world) := by
  simp only [query, Outcome.bind_iff, Outcome.get_iff, Outcome.ite_iff, Outcome.throw_iff,
    implies_true, true_and]
  intro _
  cases found : world.rows key with
  | none => exact ⟨fun _ => rfl, fun zero => absurd zero (by decide)⟩
  | some row => exact ⟨fun one => absurd rfl one, fun _ => ⟨row, rfl, rfl⟩⟩

private theorem insert_spec (world : World δ ω) (table : String)
    (columns : List (String × Value δ)) :
    Outcome (query codec env (.insert table columns)) world
      (fun changed final => changed = 1 ∧ ∃ id, columns.lookup "id" = some (.text id) ∧
        world.rows (table, id) = none ∧ final = world.setRow (table, id) (insertRow codec columns))
      (fun _ final => final = world) := by
  simp only [query, Outcome.bind_iff, Outcome.get_iff, Outcome.ite_iff, Outcome.throw_iff,
    implies_true, true_and]
  intro _
  split
  · next id given =>
      simp only [Outcome.ite_iff, Outcome.throw_iff, implies_true, true_and]
      intro free
      exact ⟨rfl, id, given, by simpa using free, rfl⟩
  · exact rfl

/-- What the query of a save does to the rows. -/
inductive Written (codec : Codec δ ω) (world : World δ ω) (pointer : Nat)
    (object : BaseObject δ ω) (values : List (String × Field δ ω × Value δ)) :
    World δ ω → Prop where
  | inserted (created : pointer ∈ world.created) (id : String)
      (given : (values.map fun entry => (entry.1, entry.2.2)).lookup "id" = some (.text id))
      (free : world.rows (object.className, id) = none) :
      Written codec world pointer object values (world.setRow (object.className, id)
        (insertRow codec (values.map fun entry => (entry.1, entry.2.2))))
  | updated (notCreated : pointer ∉ world.created) (row : Row δ)
      (found : world.rows object.key = some row) :
      Written codec world pointer object values (world.setRow object.key (updateRow codec row
        (values.map fun entry => (entry.1, setterOf entry.2.1 entry.2.2))))
  | nothing (notCreated : pointer ∉ world.created) (empty : values = []) :
      Written codec world pointer object values world

/-- The query of a save writes the values of the modified fields, or throws and changes
nothing. -/
theorem saveQuery_written (pointer : Nat) (world : World δ ω) :
    Outcome (saveQuery codec env pointer) world
      (fun _ final => (world.objects pointer = none → final = world) ∧
        ∀ object, world.objects pointer = some object → ∃ values,
          dbValues codec object.modifiedFields = .ok values ∧
            Written codec world pointer object values final)
      (fun _ final => final = world) := by
  simp only [saveQuery, Outcome.bind_iff, Outcome.get_iff]
  cases found : world.objects pointer with
  | none => exact ⟨fun _ => rfl, fun _ none => by cases none⟩
  | some object =>
      dsimp only
      rw [Outcome.ite_iff]
      cases converted : dbValues codec object.modifiedFields with
      | error exception =>
          simp only [insertObjectQuery, updateObjectQuery, converted, orThrow,
            Outcome.bind_iff, Outcome.throw_iff, implies_true, and_self]
      | ok values =>
          simp only [insertObjectQuery, updateObjectQuery, converted, orThrow, Outcome.bind_iff,
            Outcome.pure_iff, Outcome.ite_iff]
          refine ⟨fun isCreated => ?_, fun notCreated => ⟨fun empty => ?_, fun _ => ?_⟩⟩
          · have created : pointer ∈ world.created := by simpa using isCreated
            refine (insert_spec world _ _).mono ?_ fun _ _ => id
            rintro changed final ⟨one, id, given, free, rfl⟩
            refine ⟨fun notOne => absurd one notOne, fun _ => ?_⟩
            refine ⟨by rintro ⟨⟩, ?_⟩
            rintro _ ⟨⟩
            exact ⟨values, converted, .inserted created id given free⟩
          · have notCreated : pointer ∉ world.created := by simpa using notCreated
            refine ⟨by rintro ⟨⟩, ?_⟩
            rintro _ ⟨⟩
            exact ⟨values, converted, .nothing notCreated (by simpa using empty)⟩
          · have notCreated : pointer ∉ world.created := by simpa using notCreated
            refine (update_spec world object.key _).mono ?_ fun _ _ => id
            rintro changed final ⟨notOne, one⟩
            refine ⟨fun differs => notOne differs, fun same => ?_⟩
            obtain ⟨row, there, rfl⟩ := one (not_not.mp same)
            refine ⟨by rintro ⟨⟩, ?_⟩
            rintro _ ⟨⟩
            exact ⟨values, converted, .updated notCreated row there⟩

/-- The database next to the objects. Staged objects are those whose row a save has written
and that are not marked unmodified yet. -/
structure Consistent (codec : Codec δ ω) (staged : Nat → Prop) (world : World δ ω) : Prop where
  keyed : ∀ key row, world.rows key = some row → row "id" = .text key.2
  known : ∀ pointer, (world.objects pointer).isSome = true ↔
    pointer ∈ world.created ∨ pointer ∈ world.loaded
  named : ∀ pointer object, world.objects pointer = some object → object.Named
  apart : ∀ pointer ∈ world.created, pointer ∉ world.loaded
  fresh : ∀ pointer ∈ world.created, ¬ staged pointer → ∀ object,
    world.objects pointer = some object →
      object.Tracks codec (fun _ => .null) ∧ 0 < object.idField.delta
  stored : ∀ pointer ∈ world.loaded, ¬ staged pointer → ∀ object,
    world.objects pointer = some object →
      ∃ row, world.rows object.key = some row ∧ object.Tracks codec row
  saved : ∀ pointer, staged pointer → ∀ object, world.objects pointer = some object →
    ∃ row tracked, world.rows object.key = some row ∧ object.Reads codec row ∧
      object.Tracks codec tracked
  initialized : ∀ pointer, pointer ∈ world.loaded ∨ staged pointer → ∀ object,
    world.objects pointer = some object → object.Initialized
  unique : ∀ pointer other, pointer ∈ world.loaded ∨ staged pointer →
    other ∈ world.loaded ∨ staged other → ∀ object otherObject,
      world.objects pointer = some object → world.objects other = some otherObject →
      object.key = otherObject.key → pointer = other
  marked : ∀ pointer ∈ world.loaded, pointer ∉ world.modified → ∀ object,
    world.objects pointer = some object →
      ∀ name field, (name, field) ∈ object.allFields → field.delta = 0
  createdNodup : world.created.Nodup
  modifiedNodup : world.modified.Nodup

/-- At the save of an object every field has a value, those to be written are storable, no counter
went down since the last save, and those that went up have a number in their column. -/
def Saveable (codec : Codec δ ω) (world : World δ ω) (pointer : Nat) : Prop :=
  ∀ object, world.objects pointer = some object → object.Writable codec ∧
    (pointer ∉ world.created → ∀ row, world.rows object.key = some row →
      ∀ name field, (name, field) ∈ object.allFields → field.Increasable (row name))

private theorem Consistent.stage {staged : Nat → Prop} {world : World δ ω}
    (consistent : Consistent codec staged world) {pointer : Nat} {object : BaseObject δ ω}
    (found : world.objects pointer = some object) {row tracked : Row δ}
    (keyed : row "id" = .text object.key.2) (reads : object.Reads codec row)
    (tracks : object.Tracks codec tracked) (initialized : object.Initialized)
    (alone : ∀ other, other ≠ pointer → other ∈ world.loaded ∨ staged other → ∀ otherObject,
      world.objects other = some otherObject → otherObject.key ≠ object.key) :
    Consistent codec (fun other => other = pointer ∨ staged other)
      (world.setRow object.key row) where
  keyed key other there := by
    by_cases same : key = object.key
    · subst same
      rw [World.setRow_self] at there
      cases there
      exact keyed
    · rw [World.setRow_of_ne world row same] at there
      exact consistent.keyed key other there
  known := consistent.known
  named := consistent.named
  apart := consistent.apart
  fresh other created notStaged := consistent.fresh other created fun staged => notStaged (.inr staged)
  stored other loaded notStaged otherObject otherFound := by
    have differs : otherObject.key ≠ object.key :=
      alone other (fun same => notStaged (.inl same)) (.inl loaded) otherObject otherFound
    obtain ⟨otherRow, there, otherTracks⟩ :=
      consistent.stored other loaded (fun staged => notStaged (.inr staged)) otherObject otherFound
    exact ⟨otherRow, by rw [World.setRow_of_ne world row differs]; exact there, otherTracks⟩
  saved other isStaged otherObject otherFound := by
    by_cases same : other = pointer
    · subst same
      obtain rfl : object = otherObject := Option.some.inj (found.symm.trans otherFound)
      exact ⟨row, tracked, world.setRow_self _ row, reads, tracks⟩
    · have wasStaged := isStaged.resolve_left same
      have differs : otherObject.key ≠ object.key :=
        alone other same (.inr wasStaged) otherObject otherFound
      obtain ⟨otherRow, otherTracked, there, rest⟩ :=
        consistent.saved other wasStaged otherObject otherFound
      exact ⟨otherRow, otherTracked, by rw [World.setRow_of_ne world row differs]; exact there, rest⟩
  initialized other has otherObject otherFound := by
    by_cases same : other = pointer
    · subst same
      obtain rfl : object = otherObject := Option.some.inj (found.symm.trans otherFound)
      exact initialized
    · exact consistent.initialized other (has.imp_right fun cases => cases.resolve_left same)
        otherObject otherFound
  unique left right leftHas rightHas leftObject rightObject leftFound rightFound sameKey := by
    have before {other : Nat} (has : other ∈ world.loaded ∨ other = pointer ∨ staged other)
        (differs : other ≠ pointer) : other ∈ world.loaded ∨ staged other :=
      has.imp_right fun cases => cases.resolve_left differs
    by_cases leftSame : left = pointer
    · by_cases rightSame : right = pointer
      · rw [leftSame, rightSame]
      · subst leftSame
        obtain rfl : object = leftObject := Option.some.inj (found.symm.trans leftFound)
        exact absurd sameKey.symm
          (alone right rightSame (before rightHas rightSame) rightObject rightFound)
    · by_cases rightSame : right = pointer
      · subst rightSame
        obtain rfl : object = rightObject := Option.some.inj (found.symm.trans rightFound)
        exact absurd sameKey (alone left leftSame (before leftHas leftSame) leftObject leftFound)
      · exact consistent.unique left right (before leftHas leftSame) (before rightHas rightSame)
          leftObject rightObject leftFound rightFound sameKey
  marked := consistent.marked
  createdNodup := consistent.createdNodup
  modifiedNodup := consistent.modifiedNodup

end

end Andromeda.Database
