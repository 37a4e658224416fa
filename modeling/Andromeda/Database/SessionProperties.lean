import Andromeda.Database.SaveProperties

/-! Sessions that record every change: after `SaveObjects` returns, every row reads as its
object shows and nothing is left to save. -/

set_option autoImplicit false
set_option linter.unusedSectionVars false

namespace Andromeda.Database

open Andromeda.Library

section

variable {δ ω : Type} [DecidableEq δ] [Zero δ] {codec : Codec δ ω} {env : Env δ ω}

private theorem Consistent.congr {staged same : Nat → Prop} {world : World δ ω}
    (consistent : Consistent codec staged world) (iff : ∀ pointer, staged pointer ↔ same pointer) :
    Consistent codec same world := by
  have equal : staged = same := funext fun pointer => propext (iff pointer)
  rw [← equal]
  exact consistent

/-- The objects and sets after an object was registered as saved. -/
structure Registered (pointer : Nat) (before after : World δ ω) : Prop where
  rows : after.rows = before.rows
  own : after.objects pointer = (before.objects pointer).map BaseObject.setUnmodified
  others : ∀ other, other ≠ pointer → after.objects other = before.objects other
  created : after.created = before.created.filter (· ≠ pointer)
  modified : after.modified = before.modified.filter (· ≠ pointer)
  begun : after.begun = before.begun

private theorem Consistent.register {staged : Nat → Prop} {world final : World δ ω}
    (consistent : Consistent codec staged world) {pointer : Nat} (isStaged : staged pointer)
    (registered : Registered pointer world final)
    (loaded : ∀ other, other ∈ final.loaded ↔
      other ∈ world.loaded ∨ other = pointer ∧ pointer ∈ world.created) :
    Consistent codec (fun other => other ≠ pointer ∧ staged other) final := by
  have created (other : Nat) : other ∈ final.created ↔ other ∈ world.created ∧ other ≠ pointer := by
    rw [registered.created]
    simp
  -- every object was one before, with the same key
  have origin {other : Nat} {object : BaseObject δ ω} (found : final.objects other = some object) :
      ∃ before, world.objects other = some before ∧ before.key = object.key ∧
        (other ≠ pointer → before = object) := by
    by_cases same : other = pointer
    · subst same
      rw [registered.own] at found
      obtain ⟨before, there, rfl⟩ := Option.map_eq_some_iff.mp found
      exact ⟨before, there, rfl, fun differs => absurd rfl differs⟩
    · rw [registered.others other same] at found
      exact ⟨object, found, rfl, fun _ => rfl⟩
  have has {other : Nat} (loadedOrStaged : other ∈ final.loaded ∨ other ≠ pointer ∧ staged other) :
      other ∈ world.loaded ∨ staged other := by
    rcases loadedOrStaged with now | ⟨_, was⟩
    · rcases (loaded other).mp now with was | ⟨rfl, _⟩
      · exact .inl was
      · exact .inr isStaged
    · exact .inr was
  refine {
    keyed := ?_, known := ?_, named := ?_, apart := ?_, fresh := ?_, stored := ?_, saved := ?_
    initialized := ?_, unique := ?_, marked := ?_, createdNodup := ?_, modifiedNodup := ?_ }
  · rw [registered.rows]
    exact consistent.keyed
  · intro other
    rw [created, loaded]
    by_cases same : other = pointer
    · subst same
      rw [registered.own, Option.isSome_map, consistent.known]
      simp only [ne_eq, not_true_eq_false, and_false, false_or, true_and]
      exact Or.comm
    · rw [registered.others other same, consistent.known]
      simp only [ne_eq, same, not_false_eq_true, and_true, false_and, or_false]
  · intro other object found
    by_cases same : other = pointer
    · subst same
      rw [registered.own] at found
      obtain ⟨before, there, rfl⟩ := Option.map_eq_some_iff.mp found
      exact BaseObject.named_setUnmodified (consistent.named other before there)
    · rw [registered.others other same] at found
      exact consistent.named other object found
  · intro other isCreated isLoaded
    obtain ⟨wasCreated, differs⟩ := (created other).mp isCreated
    rcases (loaded other).mp isLoaded with wasLoaded | ⟨same, _⟩
    · exact consistent.apart other wasCreated wasLoaded
    · exact differs same
  · intro other isCreated notStaged object found
    obtain ⟨wasCreated, differs⟩ := (created other).mp isCreated
    rw [registered.others other differs] at found
    exact consistent.fresh other wasCreated (fun was => notStaged ⟨differs, was⟩) object found
  · intro other isLoaded notStaged object found
    rw [registered.rows]
    by_cases same : other = pointer
    · subst same
      rw [registered.own] at found
      obtain ⟨before, there, rfl⟩ := Option.map_eq_some_iff.mp found
      obtain ⟨row, tracked, rowThere, reads, tracks⟩ :=
        consistent.saved other isStaged before there
      exact ⟨row, rowThere, tracks.setUnmodified reads⟩
    · rw [registered.others other same] at found
      have wasLoaded := ((loaded other).mp isLoaded).resolve_right fun cases => same cases.1
      exact consistent.stored other wasLoaded (fun was => notStaged ⟨same, was⟩) object found
  · rintro other ⟨differs, was⟩ object found
    rw [registered.others other differs] at found
    rw [registered.rows]
    exact consistent.saved other was object found
  · intro other now object found
    by_cases same : other = pointer
    · subst same
      rw [registered.own] at found
      obtain ⟨before, there, rfl⟩ := Option.map_eq_some_iff.mp found
      exact (consistent.initialized other (.inr isStaged) before there).setUnmodified
    · rw [registered.others other same] at found
      exact consistent.initialized other (has now) object found
  · intro left right leftHas rightHas leftObject rightObject leftFound rightFound sameKey
    obtain ⟨leftBefore, leftThere, leftKey, _⟩ := origin leftFound
    obtain ⟨rightBefore, rightThere, rightKey, _⟩ := origin rightFound
    exact consistent.unique left right (has leftHas) (has rightHas) leftBefore rightBefore
      leftThere rightThere (by rw [leftKey, rightKey, sameKey])
  · intro other isLoaded notModified object found name field member
    by_cases same : other = pointer
    · subst same
      rw [registered.own] at found
      obtain ⟨before, there, rfl⟩ := Option.map_eq_some_iff.mp found
      exact BaseObject.setUnmodified_delta member
    · rw [registered.others other same] at found
      have wasLoaded := ((loaded other).mp isLoaded).resolve_right fun cases => same cases.1
      have wasNotModified : other ∉ world.modified := by
        rw [registered.modified] at notModified
        simpa [same] using notModified
      exact consistent.marked other wasLoaded wasNotModified object found name field member
  · rw [registered.created]
    exact consistent.createdNodup.filter _
  · rw [registered.modified]
    exact consistent.modifiedNodup.filter _

theorem modifyObject_objects (world : World δ ω) (pointer : Nat) :
    (world.modifyObject pointer BaseObject.setUnmodified).objects pointer =
        (world.objects pointer).map BaseObject.setUnmodified ∧
      ∀ other, other ≠ pointer →
        (world.modifyObject pointer BaseObject.setUnmodified).objects other =
          world.objects other :=
  ⟨Function.update_self .., fun _ differs => Function.update_of_ne differs ..⟩

private theorem insertObjectRegister_consistent {staged : Nat → Prop} {world : World δ ω}
    (consistent : Consistent codec staged world) {pointer : Nat} (isStaged : staged pointer)
    (created : pointer ∈ world.created) :
    Consistent codec (fun other => other ≠ pointer ∧ staged other)
      (world.insertObjectRegister pointer) := by
  obtain ⟨own, others⟩ := modifyObject_objects world pointer
  refine consistent.register isStaged ⟨rfl, own, others, rfl, rfl, rfl⟩ fun other => ?_
  show other ∈ world.loaded ++ [pointer] ↔ _
  rw [List.mem_append, List.mem_singleton]
  exact or_congr_right ⟨fun same => ⟨same, created⟩, And.left⟩

private theorem updateObjectRegister_consistent {staged : Nat → Prop} {world : World δ ω}
    (consistent : Consistent codec staged world) {pointer : Nat} (isStaged : staged pointer)
    (notCreated : pointer ∉ world.created) :
    Consistent codec (fun other => other ≠ pointer ∧ staged other)
      (world.updateObjectRegister pointer) := by
  obtain ⟨own, others⟩ := modifyObject_objects world pointer
  refine consistent.register isStaged ⟨rfl, own, others, ?_, rfl, rfl⟩ fun other => ?_
  · refine (List.filter_eq_self.mpr fun other member => ?_).symm
    have differs : other ≠ pointer := by
      rintro rfl
      exact notCreated member
    simpa using differs
  · exact ⟨.inl, fun cases => cases.resolve_right fun both => notCreated both.2⟩

private theorem registerCreated (pointers : List Nat) {staged : Nat → Prop} {world : World δ ω}
    (consistent : Consistent codec staged world) (created : world.created = pointers)
    (each : ∀ pointer ∈ pointers, staged pointer) :
    Consistent codec (fun other => other ∉ pointers ∧ staged other)
        (pointers.foldl World.insertObjectRegister world) ∧
      (pointers.foldl World.insertObjectRegister world).created = [] ∧
      (pointers.foldl World.insertObjectRegister world).begun = world.begun ∧
      (pointers.foldl World.insertObjectRegister world).modified =
        world.modified.filter (· ∉ pointers) := by
  induction pointers generalizing staged world with
  | nil =>
      exact ⟨consistent.congr fun _ => by simp, created, rfl,
        (List.filter_eq_self.mpr (by simp)).symm⟩
  | cons pointer rest ih =>
      have nodup := consistent.createdNodup
      rw [created, List.nodup_cons] at nodup
      have next := insertObjectRegister_consistent consistent (each pointer List.mem_cons_self)
        (by rw [created]; exact List.mem_cons_self)
      have remaining : (world.insertObjectRegister pointer).created = rest := by
        show world.created.filter (· ≠ pointer) = rest
        rw [created, List.filter_cons_of_neg (by simp)]
        refine List.filter_eq_self.mpr fun other member => ?_
        have differs : other ≠ pointer := by
          rintro rfl
          exact nodup.1 member
        simpa using differs
      obtain ⟨kept, empty, begun, modified⟩ := ih next remaining fun other member =>
        ⟨fun same => nodup.1 (same ▸ member), each other (List.mem_cons_of_mem _ member)⟩
      refine ⟨kept.congr fun other => ?_, empty, begun, modified.trans ?_⟩
      · simp only [List.mem_cons, not_or]
        constructor
        · rintro ⟨notRest, differs, was⟩
          exact ⟨⟨differs, notRest⟩, was⟩
        · rintro ⟨⟨differs, notRest⟩, was⟩
          exact ⟨notRest, differs, was⟩
      · show (world.modified.filter (· ≠ pointer)).filter (· ∉ rest) = _
        rw [List.filter_filter]
        refine List.filter_congr fun other _ => ?_
        simp only [List.mem_cons, not_or, ne_eq, decide_not, Bool.decide_and]
        exact Bool.and_comm _ _

private theorem registerModified (pointers : List Nat) {staged : Nat → Prop} {world : World δ ω}
    (consistent : Consistent codec staged world) (created : world.created = [])
    (modified : world.modified = pointers) (each : ∀ pointer ∈ pointers, staged pointer) :
    Consistent codec (fun other => other ∉ pointers ∧ staged other)
        (pointers.foldl World.updateObjectRegister world) ∧
      (pointers.foldl World.updateObjectRegister world).created = [] ∧
      (pointers.foldl World.updateObjectRegister world).modified = [] := by
  induction pointers generalizing staged world with
  | nil => exact ⟨consistent.congr fun _ => by simp, created, modified⟩
  | cons pointer rest ih =>
      have nodup := consistent.modifiedNodup
      rw [modified, List.nodup_cons] at nodup
      have next := updateObjectRegister_consistent consistent (each pointer List.mem_cons_self)
        (by rw [created]; exact List.not_mem_nil)
      have remaining : (world.updateObjectRegister pointer).modified = rest := by
        show world.modified.filter (· ≠ pointer) = rest
        rw [modified, List.filter_cons_of_neg (by simp)]
        refine List.filter_eq_self.mpr fun other member => ?_
        have differs : other ≠ pointer := by
          rintro rfl
          exact nodup.1 member
        simpa using differs
      obtain ⟨kept, noCreated, noModified⟩ := ih next created remaining fun other member =>
        ⟨fun same => nodup.1 (same ▸ member), each other (List.mem_cons_of_mem _ member)⟩
      refine ⟨kept.congr fun other => ?_, noCreated, noModified⟩
      simp only [List.mem_cons, not_or]
      constructor
      · rintro ⟨notRest, differs, was⟩
        exact ⟨⟨differs, notRest⟩, was⟩
      · rintro ⟨⟨differs, notRest⟩, was⟩
        exact ⟨notRest, differs, was⟩

/-- Nothing is staged between the operations of a session. -/
def Settled (codec : Codec δ ω) (world : World δ ω) : Prop :=
  Consistent codec (fun _ => False) world

theorem notifyModified_modified (world : World δ ω) (pointer other : Nat) :
    other ∈ (world.notifyModified pointer).modified ↔ other ∈ world.modified ∨ other = pointer := by
  unfold World.notifyModified
  split
  · next there =>
      refine ⟨.inl, fun cases => cases.elim id ?_⟩
      rintro rfl
      simpa using there
  · simp only [List.mem_append, List.mem_singleton]

theorem notifyModified_same (world : World δ ω) (pointer : Nat) :
    (world.notifyModified pointer).rows = world.rows ∧
      (world.notifyModified pointer).objects = world.objects ∧
      (world.notifyModified pointer).created = world.created ∧
      (world.notifyModified pointer).loaded = world.loaded ∧
      (world.notifyModified pointer).begun = world.begun := by
  unfold World.notifyModified
  split <;> exact ⟨rfl, rfl, rfl, rfl, rfl⟩

/-- A world with a pointer noted as modified, if it was notified of it. -/
structure Noted (world : World δ ω) (pointer : Nat) (notified : Bool) (noted : World δ ω) :
    Prop where
  rows : noted.rows = world.rows
  objects : noted.objects = world.objects
  created : noted.created = world.created
  loaded : noted.loaded = world.loaded
  nodup : noted.modified.Nodup
  kept : ∀ other, other ∈ world.modified → other ∈ noted.modified
  marked : notified = true → pointer ∈ noted.modified

/-- What a session has to avoid for all its changes to be recorded and written. -/
def Recordable (codec : Codec δ ω) (world : World δ ω) (action : Op δ ω × Env δ ω) : Prop :=
  match action.1 with
  | .create _ objectClass _ _ => ∀ name spec, (name, spec) ∈ objectClass.fields → spec.Recordable
  | .load _ objectClass id _ => ∀ row, world.rows (objectClass.name, id) = some row →
    (initFields codec row objectClass.fields).isOk = true ∨
      ∀ name spec, (name, spec) ∈ objectClass.fields → spec.construct.2 = false
  | .modify pointer name change => ∀ object, world.objects pointer = some object →
    ∀ field, (name, field) ∈ object.fields → change.Recordable field
  | .save pointer => Saveable codec world pointer
  | .saveObjects => ∀ pointer ∈ world.saveOrder, Saveable codec world pointer

private theorem Settled.unknown {world : World δ ω} (settled : Settled codec world) (pointer : Nat)
    (absent : world.objects pointer = none) :
    pointer ∉ world.created ∧ pointer ∉ world.loaded := by
  have unknown : ¬ (pointer ∈ world.created ∨ pointer ∈ world.loaded) := by
    rw [← settled.known pointer, absent]
    simp
  exact not_or.mp unknown

/-- Fields initialised from a row track it, with nothing recorded. -/
theorem initFields_spec {row : Row δ} {specs : List (String × FieldSpec δ ω)}
    {fields : List (String × Field δ ω)} (read : initFields codec row specs = .ok fields) :
    fields.map Prod.fst = specs.map Prod.fst ∧ ∀ name field, (name, field) ∈ fields →
      field.Tracks codec (row name) ∧ field.delta = 0 := by
  induction specs generalizing fields with
  | nil =>
      cases read
      exact ⟨rfl, fun _ _ member => by cases member⟩
  | cons head rest ih =>
      obtain ⟨headName, spec⟩ := head
      simp only [initFields] at read
      split at read
      · cases read
      · next own initialised =>
          split at read
          · cases read
          · next others found =>
              cases read
              obtain ⟨names, each⟩ := ih found
              refine ⟨by rw [List.map_cons, List.map_cons, names], fun name field member => ?_⟩
              rcases List.mem_cons.mp member with same | later
              · cases same
                exact FieldSpec.initDBValue_tracks initialised
              · exact each name field later

/-- An object that shows its row, with nothing recorded. -/
structure BaseObject.Shows (codec : Codec δ ω) (object : BaseObject δ ω) (row : Row δ) : Prop where
  named : object.Named
  tracks : object.Tracks codec row
  initialized : object.Initialized
  unchanged : ∀ name field, (name, field) ∈ object.allFields → field.delta = 0

/-- An object that shows its row is loaded, if there is none at its key. -/
private theorem Settled.loaded {world noted : World δ ω} {pointer : Nat} {notified : Bool}
    {object : BaseObject δ ω} {row : Row δ} (settled : Settled codec world)
    (noting : Noted world pointer notified noted) (absent : world.objects pointer = none)
    (there : world.rows object.key = some row) (shows : object.Shows codec row)
    (alone : ∀ other ∈ world.loaded, ∀ otherObject, world.objects other = some otherObject →
      otherObject.key ≠ object.key) :
    Settled codec { noted with
      objects := Function.update world.objects pointer (some object)
      loaded := world.loaded ++ [pointer] } := by
  obtain ⟨rows, objects, created, loaded, nodup, keptModified, -⟩ := noting
  obtain ⟨notCreated, -⟩ := settled.unknown pointer absent
  have wasLoaded {other : Nat} (differs : other ≠ pointer)
      (isLoaded : other ∈ world.loaded ++ [pointer]) : other ∈ world.loaded := by
    simpa [differs] using isLoaded
  refine {
    keyed := ?_, known := ?_, named := ?_, apart := ?_, fresh := ?_, stored := ?_
    saved := fun _ => False.elim, initialized := ?_, unique := ?_, marked := ?_
    createdNodup := ?_, modifiedNodup := nodup } <;> dsimp only
  · rw [rows]
    exact settled.keyed
  · intro other
    rw [created, List.mem_append, List.mem_singleton]
    by_cases same : other = pointer
    · subst same
      rw [Function.update_self]
      exact ⟨fun _ => .inr (.inr rfl), fun _ => rfl⟩
    · rw [Function.update_of_ne same, settled.known]
      simp only [same, or_false]
  · intro other otherObject found
    rcases update_cases found with ⟨rfl, ⟨⟩⟩ | ⟨_, was⟩
    · exact shows.named
    · exact settled.named other otherObject was
  · rw [created]
    intro other isCreated isLoaded
    rcases List.mem_append.mp isLoaded with was | same
    · exact settled.apart other isCreated was
    · rw [List.mem_singleton.mp same] at isCreated
      exact notCreated isCreated
  · rw [created]
    intro other isCreated _ otherObject found
    have same : other ≠ pointer := by
      rintro rfl
      exact notCreated isCreated
    rw [Function.update_of_ne same] at found
    exact settled.fresh other isCreated not_false otherObject found
  · rw [rows]
    intro other isLoaded _ otherObject found
    rcases update_cases found with ⟨rfl, ⟨⟩⟩ | ⟨same, was⟩
    · exact ⟨row, there, shows.tracks⟩
    · exact settled.stored other (wasLoaded same isLoaded) not_false otherObject was
  · intro other has otherObject found
    rcases update_cases found with ⟨rfl, ⟨⟩⟩ | ⟨same, was⟩
    · exact shows.initialized
    · exact settled.initialized other (.inl (wasLoaded same (has.resolve_right not_false)))
        otherObject was
  · intro left right leftHas rightHas leftObject rightObject leftFound rightFound sameKey
    have leftLoaded := leftHas.resolve_right not_false
    have rightLoaded := rightHas.resolve_right not_false
    rcases update_cases leftFound with ⟨rfl, ⟨⟩⟩ | ⟨leftOther, leftWas⟩
    · rcases update_cases rightFound with ⟨rfl, _⟩ | ⟨rightOther, rightWas⟩
      · rfl
      · exact absurd sameKey.symm
          (alone right (wasLoaded rightOther rightLoaded) rightObject rightWas)
    · have left' := wasLoaded leftOther leftLoaded
      rcases update_cases rightFound with ⟨rfl, ⟨⟩⟩ | ⟨rightOther, rightWas⟩
      · exact absurd sameKey (alone left left' leftObject leftWas)
      · exact settled.unique left right (.inl left') (.inl (wasLoaded rightOther rightLoaded))
          leftObject rightObject leftWas rightWas sameKey
  · intro other isLoaded notModified otherObject found
    rcases update_cases found with ⟨rfl, ⟨⟩⟩ | ⟨same, was⟩
    · exact shows.unchanged
    · exact settled.marked other (wasLoaded same isLoaded)
        (fun modified => notModified (keptModified other modified)) otherObject was
  · rw [created]
    exact settled.createdNodup

/-- A change of one field, recorded next to any columns the fields tracked. -/
theorem changeField_spec (name : String) (change : Change δ ω) (fields : List (String × Field δ ω)) :
    (changeField name change fields).1.map Prod.fst = fields.map Prod.fst ∧
      ∀ fieldName field, (fieldName, field) ∈ (changeField name change fields).1 →
        ∃ old, (fieldName, old) ∈ fields ∧ (field = old ∨
          fieldName = name ∧ field = (change.apply old).1 ∧
            ((changeField name change fields).2 = false → (change.apply old).2 = false)) := by
  induction fields with
  | nil => exact ⟨rfl, fun _ _ member => by cases member⟩
  | cons head rest ih =>
      obtain ⟨headName, head⟩ := head
      simp only [changeField]
      split
      · next same =>
          subst same
          refine ⟨rfl, fun fieldName field member => ?_⟩
          rcases List.mem_cons.mp member with equal | later
          · cases equal
            exact ⟨head, List.mem_cons_self, .inr ⟨rfl, rfl, id⟩⟩
          · exact ⟨field, List.mem_cons_of_mem _ later, .inl rfl⟩
      · refine ⟨by rw [List.map_cons, List.map_cons, ih.1], fun fieldName field member => ?_⟩
        rcases List.mem_cons.mp member with equal | later
        · cases equal
          exact ⟨head, List.mem_cons_self, .inl rfl⟩
        · obtain ⟨old, included, cases⟩ := ih.2 fieldName field later
          exact ⟨old, List.mem_cons_of_mem _ included, cases⟩

/-- An object with one of its fields changed. -/
def BaseObject.changed (object : BaseObject δ ω) (name : String) (change : Change δ ω) :
    BaseObject δ ω :=
  { object with fields := (changeField name change object.fields).1 }

section Changed

variable {object : BaseObject δ ω} {name : String} {change : Change δ ω} {row : Row δ}

private theorem BaseObject.Tracks.changed (tracks : object.Tracks codec row)
    (recordable : ∀ field, (name, field) ∈ object.fields → change.Recordable field) :
    (object.changed name change).Tracks codec row := by
  intro fieldName field member
  rcases List.mem_cons.mp member with isId | later
  · cases isId
    exact tracks "id" _ List.mem_cons_self
  · obtain ⟨old, included, cases⟩ :=
      (changeField_spec name change object.fields).2 fieldName field later
    have oldTracks := tracks fieldName old (List.mem_cons_of_mem _ included)
    rcases cases with rfl | ⟨rfl, rfl, _⟩
    · exact oldTracks
    · exact (Change.apply_tracks oldTracks (recordable old included)).1

private theorem BaseObject.Initialized.changed (initialized : object.Initialized) :
    (object.changed name change).Initialized := by
  intro fieldName field member
  rcases List.mem_cons.mp member with isId | later
  · cases isId
    exact initialized "id" (.scalar .text object.idField) List.mem_cons_self
  · obtain ⟨old, included, cases⟩ :=
      (changeField_spec name change object.fields).2 fieldName field later
    have oldInitialized := initialized fieldName old (List.mem_cons_of_mem _ included)
    rcases cases with rfl | ⟨rfl, rfl, _⟩
    · exact oldInitialized
    · exact Change.apply_isInitialized oldInitialized

private theorem BaseObject.Named.changed (named : object.Named) :
    (object.changed name change).Named := by
  rw [BaseObject.Named, BaseObject.allFields, List.map_cons] at named ⊢
  rw [BaseObject.changed, (changeField_spec name change object.fields).1]
  exact named

end Changed

theorem exitWorld_of {computation : Exec δ ω Unit} {world : World δ ω}
    (Invariant : World δ ω → Prop)
    (outcome : Outcome computation world (fun _ => Invariant) (fun _ => Invariant)) :
    Invariant (exitWorld (computation world)) := by
  unfold Outcome at outcome
  unfold exitWorld
  cases ran : computation world with
  | ok value final => simpa only [ran] using outcome
  | error exception final => simpa only [ran] using outcome

end

namespace Scenario

private theorem integer_text (value : Int) : toString value ≠ "" := by
  cases value with
  | ofNat value =>
      show value.repr ≠ ""
      simp [Nat.repr]
  | negSucc value =>
      show "-" ++ _ ≠ ""
      simp

private theorem lawful : Lawful codec where
  stored_null := rfl
  stored_integer _ := rfl
  toText_text _ := rfl
  toText_ne value notNull := by
    cases value with
    | null => cases notNull
    | text data => simpa [codec, Value.isNull] using notNull
    | integer value => exact integer_text value
    | real value => simp [codec]
  toInteger_integer _ := rfl
  toReal_real _ := rfl
  toInteger_null := rfl
  add_integer _ _ := rfl
  dump_parse value data _ dumped := by
    cases value with
    | five =>
        cases dumped
        decide
    | invalidText => cases dumped

end Scenario

end Andromeda.Database
