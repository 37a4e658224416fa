import Andromeda.Database.ContainerProperties

/-! Every row has at most one object, and the objects that have been inserted or loaded and not
deleted are those that are registered. -/

set_option autoImplicit false
set_option linter.unusedSectionVars false

namespace Andromeda.Database

open Andromeda.Library

section

variable {δ ω : Type} [DecidableEq δ] [Zero δ] {codec : Codec δ ω}
  {surroundings : Surroundings δ ω} {world : World δ ω}

/-- What a call does to the registered objects: those that remain have been there, inserted or
loaded. -/
def Enters (world final : World δ ω) (entered : Nat → Prop) : Prop :=
  ∀ pointer, pointer ∈ final.loaded ↔
    (final.objects pointer).isSome = true ∧ (pointer ∈ world.loaded ∨ entered pointer)

private theorem enters_of_loaded {final : World δ ω}
    (loaded : final.loaded = world.loaded)
    (held : ∀ pointer ∈ final.loaded, (final.objects pointer).isSome = true) :
    Enters world final (fun _ => False) := by
  intro pointer
  constructor
  · intro member
    exact ⟨held pointer member, .inl (loaded ▸ member)⟩
  · rintro ⟨_, before | never⟩
    · rw [loaded]
      exact before
    · exact never.elim

private theorem enters_of_shrunk {middle final : World δ ω}
    (grown : Grown world middle) (shrunk : Shrunk middle final) :
    Enters world final (fun pointer => world.objects pointer = none) := by
  intro pointer
  rw [shrunk.loaded, grown.loaded]
  constructor
  · rintro ⟨before | ⟨none_, _⟩, there⟩
    · exact ⟨there, .inl before⟩
    · exact ⟨there, .inr none_⟩
  · rintro ⟨there, before | none_⟩
    · exact ⟨.inl before, there⟩
    · refine ⟨.inr ⟨none_, ?_⟩, there⟩
      rw [← shrunk.kept pointer there]
      exact there

/-- The state of the identity map between calls. -/
structure Identified (world : World δ ω) : Prop where
  mapped : Mapped world
  unsaved : Unsaved world
  begun : world.begun = none

private theorem Identified.grown (identified : Identified world) {final : World δ ω}
    (mapped : Mapped final) (grown : Grown world final) : Identified final where
  mapped := mapped
  unsaved := identified.unsaved.of_grown identified.mapped grown
  begun := grown.begun.trans identified.begun

private theorem Identified.shrunk (identified : Identified world) {final : World δ ω}
    (mapped : Mapped final) (shrunk : Shrunk world final) : Identified final where
  mapped := mapped
  unsaved := identified.unsaved.of_shrunk shrunk
  begun := shrunk.begun.trans identified.begun

private theorem deleteObjectsByQuery_spec (identified : Identified world)
    (objectClass : TableClass δ ω) (selection : Selection)
    (readable : Readable codec world objectClass selection) :
    Outcome (deleteObjectsByQuery codec surroundings objectClass selection) world
      (fun _ final => Identified final ∧
        Enters world final (fun pointer => world.objects pointer = none))
      (fun _ final => Identified final ∧
        Enters world final (fun pointer => world.objects pointer = none)) := by
  have mapped := identified.mapped
  unfold deleteObjectsByQuery
  simp only [Outcome.bind_iff, Outcome.pure_iff]
  apply (loadObjectsByQuery_spec mapped identified.unsaved objectClass selection readable).mono
  · rintro pointers middle ⟨middleMapped, grown, _⟩
    have done {final : World δ ω} (both : Mapped final ∧ Shrunk middle final) :
        Identified final ∧ Enters world final (fun pointer => world.objects pointer = none) :=
      ⟨(identified.grown middleMapped grown).shrunk both.1 both.2,
        enters_of_shrunk grown both.2⟩
    exact (deleteObjects_spec pointers middleMapped).mono (fun _ _ => done) fun _ _ => done
  · rintro _ _ rfl
    exact ⟨identified, enters_of_shrunk (Grown.refl _) (Shrunk.refl mapped)⟩

/-- An ID that no row and no object of the class has. -/
def Fresh (world : World δ ω) (key : RowKey) : Prop :=
  world.rows key = none ∧
    ∀ pointer object, world.objects pointer = some object → object.key ≠ key

/-- The object that `CreateObject` makes. -/
def TableClass.newObject (objectClass : TableClass δ ω) (id : String) : BaseObject δ ω where
  className := objectClass.name
  idField := ((ScalarType.construct "" none).1.setValue id false).1
  fields := objectClass.fields.map fun field => (field.1, field.2.construct.1)

private theorem TableClass.newObject_proper (objectClass : TableClass δ ω) (id : String) :
    (objectClass.newObject id).Proper := by
  refine ⟨objectClass.plain, ?_, fun _ => rfl⟩
  unfold BaseObject.Named BaseObject.allFields TableClass.newObject
  rw [List.map_cons, List.map_map]
  exact objectClass.distinct

theorem createObject_free (objectClass : TableClass δ ω) (id : String) {pointer : Nat}
    (free : world.objects pointer = none) :
    world.createObject pointer objectClass.toObjectClass id =
      { world.notifyModified pointer with
        objects := Function.update world.objects pointer (some (objectClass.newObject id))
        created := world.created ++ [pointer] } := by
  unfold World.createObject
  rw [if_neg (by rw [free]; exact Bool.false_ne_true)]
  rfl

private theorem createObject_spec (identified : Identified world) (objectClass : TableClass δ ω)
    {id : String} (fresh : Fresh world (objectClass.name, id)) :
    let final := world.createObject (surroundings.address world) objectClass.toObjectClass id
    Identified final ∧ Enters world final (fun _ => False) := by
  obtain ⟨mapped, unsaved, begun⟩ := identified
  obtain ⟨notCreated, notLoaded⟩ := surroundings.unused world
  have free : world.objects (surroundings.address world) = none := by
    rw [← Option.not_isSome_iff_eq_none, mapped.held, not_or]
    exact ⟨notCreated, notLoaded⟩
  obtain ⟨rows, _, _, loaded, sameBegun⟩ :=
    notifyModified_same world (surroundings.address world)
  rw [createObject_free objectClass id free]
  have finalMapped : Mapped { world.notifyModified (surroundings.address world) with
      objects := Function.update world.objects (surroundings.address world)
        (some (objectClass.newObject id))
      created := world.created ++ [surroundings.address world] } :=
    mapped.place free (objectClass.newObject_proper id) fresh.2 rfl (.inl ⟨rfl, loaded⟩)
      fun other => (notifyModified_modified world _ other).mp
  refine ⟨⟨finalMapped, ?_, sameBegun.trans begun⟩, ?_⟩
  · intro pointer member after found
    change (world.notifyModified _).rows after.key = none
    rw [rows]
    dsimp only at member found
    rcases update_cases found with ⟨_, ⟨⟩⟩ | ⟨differs, was⟩
    · exact fresh.1
    · rw [List.mem_append, List.mem_singleton] at member
      exact unsaved pointer (member.resolve_right differs) after was
  · exact enters_of_loaded loaded fun pointer member =>
      (finalMapped.held pointer).mpr (.inr member)

private theorem modify_spec (identified : Identified world) (pointer : Nat) (name : String)
    (change : Change δ ω) :
    Identified (world.modify pointer name change) ∧
      Enters world (world.modify pointer name change) (fun _ => False) := by
  obtain ⟨mapped, unsaved, begun⟩ := identified
  unfold World.modify
  cases found : world.objects pointer with
  | none => exact ⟨⟨mapped, unsaved, begun⟩, enters_of_loaded rfl fun other member =>
      (mapped.held other).mpr (.inr member)⟩
  | some object =>
      have notes := noted_spec world pointer (changeField name change object.fields).2
      have names := (changeField_spec name change object.fields).1
      revert notes names
      dsimp only
      generalize (if (changeField name change object.fields).2 = true
        then world.notifyModified pointer else world) = noted
      generalize (changeField name change object.fields).1 = fields
      rintro ⟨rows, _, created, loaded, sameBegun, modified⟩ names
      have objects {other : Nat} {after : BaseObject δ ω}
          (afterFound : Function.update world.objects pointer (some { object with fields := fields })
            other = some after) :
          ∃ before, world.objects other = some before ∧ before.key = after.key ∧
            (before.Proper → after.Proper) := by
        rcases update_cases afterFound with ⟨rfl, ⟨⟩⟩ | ⟨_, was⟩
        · refine ⟨object, found, rfl, fun proper => ⟨proper.plain, ?_, proper.identified⟩⟩
          unfold BaseObject.Named BaseObject.allFields
          rw [List.map_cons, names]
          exact proper.named
        · exact ⟨after, was, rfl, id⟩
      have held (other : Nat) :
          (Function.update world.objects pointer (some { object with fields := fields })
            other).isSome = true ↔ other ∈ world.created ∨ other ∈ world.loaded := by
        rw [← mapped.held]
        by_cases same : other = pointer
        · subst same
          rw [Function.update_self, found]
          rfl
        · rw [Function.update_of_ne same]
      have finalMapped : Mapped { noted with
          objects := Function.update world.objects pointer (some { object with fields := fields }) } := by
        apply mapped.of_same
        · exact fun other after => objects
        · intro other
          dsimp only
          rw [held, created, loaded]
        · intro other member
          dsimp only at member ⊢
          rw [created] at member
          rw [loaded]
          exact mapped.apart other member
        · intro other member
          dsimp only
          rw [held, ← mapped.held]
          rcases modified other member with before | rfl
          · exact mapped.modified other before
          · rw [found]
            rfl
        · dsimp only
          rw [created]
          exact mapped.createdNodup
      refine ⟨⟨finalMapped, ?_, sameBegun.trans begun⟩, ?_⟩
      · intro other member after afterFound
        dsimp only at member ⊢
        rw [created] at member
        obtain ⟨before, beforeFound, key, _⟩ := objects afterFound
        rw [rows, ← key]
        exact unsaved other member before beforeFound
      · exact enters_of_loaded loaded fun other member =>
          (finalMapped.held other).mpr (.inr member)

private theorem written_id {object : BaseObject δ ω} (proper : object.Proper)
    {values : List (String × Field δ ω × Value δ)}
    (converted : dbValues codec object.modifiedFields = .ok values) {id : String}
    (given : (values.map fun entry => (entry.1, entry.2.2)).lookup "id" = some (.text id)) :
    id = object.id := by
  have first : ("id", Field.scalar .text object.idField) ∈ object.allFields := List.mem_cons_self
  obtain ⟨nodup, cases⟩ := BaseObject.converted_spec proper.named converted first
  rcases cases with ⟨_, absent⟩ | ⟨_, value, member, own⟩
  · rw [lookup_map_of_not_mem absent] at given
    cases given
  · have found : (values.map fun entry => (entry.1, entry.2.2)).lookup "id" = some value :=
      lookup_map_of_mem nodup _ member
    rw [found, Option.some.injEq] at given
    subst given
    simp only [Field.getDBValue] at own
    split at own
    · next initd =>
      rw [Except.ok.injEq, Kind.toValue, Value.text.injEq] at own
      rw [← own]
      exact proper.identified initd
    · cases own

private theorem Written.others {pointer other : Nat} {object otherObject : BaseObject δ ω}
    {values : List (String × Field δ ω × Value δ)} {final : World δ ω} (mapped : Mapped world)
    (written : Written codec world pointer object values final)
    (converted : dbValues codec object.modifiedFields = .ok values)
    (found : world.objects pointer = some object)
    (otherFound : world.objects other = some otherObject) (differs : other ≠ pointer) :
    final.rows otherObject.key = world.rows otherObject.key := by
  have keys : otherObject.key ≠ object.key := fun same =>
    differs (mapped.unique other pointer otherObject object otherFound found same)
  cases written with
  | inserted created id given free =>
      rw [written_id (mapped.proper pointer object found) converted given]
      exact world.setRow_of_ne _ keys
  | updated notCreated row there => exact world.setRow_of_ne _ keys
  | nothing => rfl

private theorem save_spec (identified : Identified world) (pointer : Nat) (env : Env δ ω) :
    Outcome (save codec env pointer) world
      (fun _ final => Identified final ∧ Enters world final (fun other => other = pointer))
      (fun _ final => final = world) := by
  obtain ⟨mapped, unsaved, begun⟩ := identified
  unfold save
  simp only [Outcome.bind_iff, Outcome.modify_iff]
  apply ((saveQuery_written pointer world).and (saveQuery_rows pointer world)).mono
  · rintro _ middle ⟨⟨absent, written⟩, rowsOnly⟩
    have middleMapped : Mapped middle := by
      rw [rowsOnly]
      exact mapped.of_rows middle.rows world.begun
    have same : middle.created = world.created ∧ middle.loaded = world.loaded ∧
        middle.objects = world.objects ∧ middle.begun = world.begun := by
      rw [rowsOnly]
      exact ⟨rfl, rfl, rfl, rfl⟩
    obtain ⟨sameCreated, sameLoaded, sameObjects, sameBegun⟩ := same
    have rows {other : Nat} (created : other ∈ world.created) (differs : other ≠ pointer)
        {object : BaseObject δ ω} (found : world.objects other = some object) :
        middle.rows object.key = none := by
      cases own : world.objects pointer with
      | none =>
          rw [absent own]
          exact unsaved other created object found
      | some saved =>
          obtain ⟨values, converted, wrote⟩ := written saved own
          rw [wrote.others mapped converted own found differs]
          exact unsaved other created object found
    unfold saveRegister
    split
    · next isCreated =>
      have created : pointer ∈ middle.created := by simpa using isCreated
      refine ⟨⟨middleMapped.insertObjectRegister created, ?_, sameBegun.trans begun⟩, ?_⟩
      · intro other member after afterFound
        change other ∈ middle.created.filter (· ≠ pointer) at member
        obtain ⟨otherCreated, differs⟩ := List.mem_filter.mp member
        rw [sameCreated] at otherCreated
        obtain ⟨object, found, key, _⟩ := objects_updateObjectRegister afterFound
        rw [sameObjects] at found
        rw [← key]
        exact rows otherCreated (of_decide_eq_true differs) found
      · intro other
        change other ∈ middle.loaded ++ [pointer] ↔
          ((middle.updateObjectRegister pointer).objects other).isSome = true ∧ _
        rw [isSome_updateObjectRegister, List.mem_append, List.mem_singleton, sameLoaded,
          sameObjects, iff_and_self]
        rintro (loaded | rfl)
        · exact (mapped.held other).mpr (.inr loaded)
        · exact (mapped.held other).mpr (.inl (sameCreated ▸ created))
    · next notCreated =>
      have absentCreated : pointer ∉ middle.created := by simpa using notCreated
      refine ⟨⟨middleMapped.updateObjectRegister pointer, ?_, sameBegun.trans begun⟩, ?_⟩
      · intro other member after afterFound
        change other ∈ middle.created at member
        have differs : other ≠ pointer := by
          rintro rfl
          exact absentCreated member
        rw [sameCreated] at member
        obtain ⟨object, found, key, _⟩ := objects_updateObjectRegister afterFound
        rw [sameObjects] at found
        rw [← key]
        exact rows member differs found
      · intro other
        change other ∈ middle.loaded ↔
          ((middle.updateObjectRegister pointer).objects other).isSome = true ∧ _
        rw [isSome_updateObjectRegister, sameLoaded, sameObjects, mapped.held other]
        constructor
        · exact fun loaded => ⟨.inr loaded, .inl loaded⟩
        · rintro ⟨created | loaded, loaded' | rfl⟩
          · exact loaded'
          · exact absurd (sameCreated ▸ created) absentCreated
          · exact loaded
          · exact loaded
  · exact fun _ _ both => both.1

private theorem Mapped.registerCreated (pointers : List Nat) {world : World δ ω}
    (mapped : Mapped world)
    (created : world.created = pointers) :
    let final := pointers.foldl World.insertObjectRegister world
    Mapped final ∧ final.created = [] ∧ final.loaded = world.loaded ++ pointers ∧
      final.begun = world.begun ∧
        ∀ pointer, (final.objects pointer).isSome = (world.objects pointer).isSome := by
  induction pointers generalizing world with
  | nil => exact ⟨mapped, created, (List.append_nil _).symm, rfl, fun _ => rfl⟩
  | cons pointer rest ih =>
      have nodup := mapped.createdNodup
      rw [created, List.nodup_cons] at nodup
      have here : pointer ∈ world.created := by simp [created]
      have next := mapped.insertObjectRegister here
      have remaining : (world.insertObjectRegister pointer).created = rest := by
        change world.created.filter (· ≠ pointer) = rest
        rw [created, List.filter_cons_of_neg (by simp), List.filter_eq_self]
        intro other member
        have differs : other ≠ pointer := by
          rintro rfl
          exact nodup.1 member
        simpa using differs
      obtain ⟨kept, empty, loaded, begun, objects⟩ := ih next remaining
      refine ⟨kept, empty, loaded.trans ?_, begun, fun other => (objects other).trans ?_⟩
      · change (world.loaded ++ [pointer]) ++ rest = _
        rw [List.append_assoc, List.singleton_append]
      · exact isSome_updateObjectRegister pointer other

private theorem Mapped.registerModified (pointers : List Nat) {world : World δ ω}
    (mapped : Mapped world) :
    let final := pointers.foldl World.updateObjectRegister world
    Mapped final ∧ final.created = world.created ∧ final.loaded = world.loaded ∧
      final.begun = world.begun ∧
        ∀ pointer, (final.objects pointer).isSome = (world.objects pointer).isSome := by
  induction pointers generalizing world with
  | nil => exact ⟨mapped, rfl, rfl, rfl, fun _ => rfl⟩
  | cons pointer rest ih =>
      obtain ⟨kept, created, loaded, begun, objects⟩ := ih (mapped.updateObjectRegister pointer)
      exact ⟨kept, created, loaded, begun, fun other =>
        (objects other).trans (isSome_updateObjectRegister pointer other)⟩

private theorem transaction_returned (world : World δ ω) (env : Env δ ω) :
    Outcome (transaction codec env (saveAll codec env)) world
      (fun _ final => ∃ rows, final = { world with rows := rows, begun := none })
      (fun _ _ => True) := by
  rw [transaction, Outcome.bind_iff, Outcome.get_iff, Outcome.ite_iff]
  refine ⟨fun _ => trivial, fun _ => ?_⟩
  rw [Outcome.bind_iff]
  simp only [query, Outcome.bind_iff, Outcome.get_iff, Outcome.ite_iff, Outcome.throw_iff,
    implies_true, true_and, Outcome.set_iff, Outcome.pure_iff]
  intro _
  rw [Outcome.tryCatch_iff]
  change Outcome (transactionBody codec env) world.inTransaction _ _
  apply (transactionBody_spec world.inTransaction).mono
  · intro _ final same
    exact ⟨final.rows, same⟩
  · intro exception middle _
    rw [Outcome.ite_iff]
    simp only [Outcome.bind_iff, rollback, Outcome.modify_iff, Outcome.throw_iff, implies_true,
      and_self]

/-- `SaveObjects` registers every created object, or throws and changes nothing if no other
library throws on the way. -/
private theorem saveObjects_spec (identified : Identified world) (env : Env δ ω)
    (safe : ConversionsSafe codec env world) :
    Outcome (saveObjects codec env) world
      (fun _ final => Identified final ∧
        Enters world final (fun pointer => pointer ∈ world.created))
      (fun _ final => final = world) := by
  have returned : Outcome (saveObjects codec env) world
      (fun _ final => Identified final ∧
        Enters world final (fun pointer => pointer ∈ world.created)) (fun _ _ => True) := by
    unfold saveObjects
    simp only [Outcome.bind_iff, Outcome.modify_iff]
    apply (transaction_returned world env).mono
    · rintro _ middle ⟨rows, rfl⟩
      obtain ⟨mapped, empty, loaded, begun, objects⟩ :=
        (identified.mapped.of_rows rows none).registerCreated world.created rfl
      obtain ⟨finalMapped, finalCreated, finalLoaded, finalBegun, finalObjects⟩ :=
        mapped.registerModified _
      refine ⟨⟨finalMapped, ?_, finalBegun.trans begun⟩, ?_⟩
      · intro pointer member
        rw [finalCreated, empty] at member
        cases member
      · intro pointer
        rw [finalLoaded, loaded, List.mem_append, finalObjects, objects, iff_and_self]
        exact fun either => (identified.mapped.held pointer).mpr either.symm
    · exact fun _ _ => id
  apply (returned.and (saveObjects_thrown codec env world)).mono
  · exact fun _ _ both => both.1
  · exact fun _ _ both => (both.2.1.mpr safe).1

/-- What a session is assumed to do: the IDs of new objects are fresh, and rows can be read. -/
def Assumed (codec : Codec δ ω) (tracked : Tracked δ ω)
    (action : Call δ ω × Surroundings δ ω) : Prop :=
  match action.1 with
  | .createObject objectClass id => Fresh tracked.world (objectClass.name, id)
  | .loadObjectsByQuery objectClass selection => Readable codec tracked.world objectClass selection
  | .tryLoadUniqueByQuery objectClass selection =>
    Readable codec tracked.world objectClass selection
  | .deleteObjectsByQuery objectClass selection =>
    Readable codec tracked.world objectClass selection
  | .tryDeleteUniqueByQuery objectClass selection =>
    Readable codec tracked.world objectClass selection
  | _ => True

/-- No `SaveObjects` reaches a field whose conversion makes another library throw. -/
def SavesSafe (codec : Codec δ ω) (tracked : Tracked δ ω)
    (action : Call δ ω × Surroundings δ ω) : Prop :=
  match action.1 with
  | .saveObjects => ConversionsSafe codec action.2.toEnv tracked.world
  | _ => True

/-- The identity map is right, and the registered objects are those that have entered it. -/
structure Tracked.Right (tracked : Tracked δ ω) : Prop where
  identified : Identified tracked.world
  registered : ∀ pointer, pointer ∈ tracked.world.loaded ↔ tracked.entered pointer

private theorem Enters.congr {final : World δ ω} {entered same : Nat → Prop}
    (enters : Enters world final entered)
    (iff : ∀ pointer, (final.objects pointer).isSome = true → (entered pointer ↔ same pointer)) :
    Enters world final same := by
  intro pointer
  rw [enters pointer]
  exact and_congr_right fun there => or_congr_right (iff pointer there)

private theorem Identified.enters (identified : Identified world) {entered : Nat → Prop}
    (absent : ∀ pointer, entered pointer → world.objects pointer = none) :
    Enters world world entered := by
  have start : Enters world world (fun _ => False) := enters_of_loaded rfl fun pointer member =>
    (identified.mapped.held pointer).mpr (.inr member)
  apply start.congr
  intro pointer there
  constructor
  · exact False.elim
  · intro was
    rw [absent pointer was] at there
    cases there

/-- What a call has to do to keep the identity map right. -/
def Call.Keeps (call : Call δ ω) (world : World δ ω) (computation : Exec δ ω Unit) : Prop :=
  Outcome computation world
    (fun _ final => Identified final ∧ Enters world final (fun pointer =>
      call.Inserts world pointer ∨ call.Loads ∧ world.objects pointer = none))
    (fun _ final => Identified final ∧ Enters world final (fun pointer =>
      call.Loads ∧ world.objects pointer = none))

private theorem Call.keeps_of_loads {call : Call δ ω} {computation : Exec δ ω Unit}
    (loads : call.Loads) (inserts : ∀ pointer, ¬ call.Inserts world pointer)
    (outcome : Outcome computation world
      (fun _ final => Identified final ∧
        Enters world final (fun pointer => world.objects pointer = none))
      (fun _ final => Identified final ∧
        Enters world final (fun pointer => world.objects pointer = none))) :
    call.Keeps world computation := by
  apply outcome.mono
  · rintro _ final ⟨identified, enters⟩
    refine ⟨identified, enters.congr fun pointer _ => ?_⟩
    rw [or_iff_right (inserts pointer), and_iff_right loads]
  · rintro _ final ⟨identified, enters⟩
    refine ⟨identified, enters.congr fun pointer _ => ?_⟩
    rw [and_iff_right loads]

private theorem Call.keeps_of_changes (identified : Identified world) {call : Call δ ω}
    {computation : Exec δ ω Unit} (loads : ¬ call.Loads)
    (outcome : Outcome computation world
      (fun _ final => Identified final ∧ Enters world final (call.Inserts world))
      (fun _ final => final = world)) : call.Keeps world computation := by
  apply outcome.mono
  · rintro _ final ⟨finalIdentified, enters⟩
    refine ⟨finalIdentified, enters.congr fun pointer _ => ?_⟩
    exact (or_iff_left fun both => loads both.1).symm
  · rintro _ _ rfl
    exact ⟨identified, identified.enters fun pointer both => both.2⟩

private theorem Call.run_keeps {tracked : Tracked δ ω} (identified : Identified tracked.world)
    (action : Call δ ω × Surroundings δ ω) (assumed : Assumed codec tracked action)
    (safe : SavesSafe codec tracked action) :
    action.1.Keeps tracked.world (action.1.run codec action.2) := by
  obtain ⟨call, surroundings⟩ := action
  have loaded {objectClass : TableClass δ ω} {selection : Selection}
      (readable : Readable codec tracked.world objectClass selection) :
      Outcome (Database.loadObjectsByQuery codec surroundings objectClass selection) tracked.world
        (fun _ final => Identified final ∧
          Enters tracked.world final (fun pointer => tracked.world.objects pointer = none))
        (fun _ final => Identified final ∧
          Enters tracked.world final (fun pointer => tracked.world.objects pointer = none)) := by
    apply (loadObjectsByQuery_spec identified.mapped identified.unsaved objectClass selection
      readable).mono
    · rintro _ final ⟨mapped, grown, _⟩
      exact ⟨identified.grown mapped grown, enters_of_shrunk grown (Shrunk.refl mapped)⟩
    · rintro _ _ rfl
      exact ⟨identified, identified.enters fun _ => id⟩
  cases call with
  | createObject objectClass id =>
      exact Call.keeps_of_changes identified not_false
        (createObject_spec identified objectClass assumed)
  | modifyField pointer name change =>
      exact Call.keeps_of_changes identified not_false
        (modify_spec identified pointer name change)
  | save pointer =>
      exact Call.keeps_of_changes identified not_false
        (save_spec identified pointer surroundings.toEnv)
  | saveObjects =>
      exact Call.keeps_of_changes identified not_false
        (saveObjects_spec identified surroundings.toEnv safe)
  | loadObjectsByQuery objectClass selection =>
      refine Call.keeps_of_loads (by exact trivial) (fun _ => by exact id) ?_
      simp only [Call.run, Outcome.bind_iff, Outcome.pure_iff]
      exact loaded assumed
  | tryLoadUniqueByQuery objectClass selection =>
      refine Call.keeps_of_loads (by exact trivial) (fun _ => by exact id) ?_
      simp only [Call.run, Database.tryLoadUniqueByQuery, Outcome.bind_iff, Outcome.ite_iff,
        Outcome.throw_iff, Outcome.pure_iff]
      exact (loaded assumed).mono (fun _ _ kept => ⟨fun _ => kept, fun _ => kept⟩) fun _ _ => id
  | deleteObject pointer =>
      refine Call.keeps_of_changes identified (by exact not_false) ?_
      apply (deleteObject_spec identified.mapped pointer).mono
      · rintro _ final ⟨mapped, shrunk, _⟩
        refine ⟨identified.shrunk mapped shrunk, ?_⟩
        apply (enters_of_shrunk (Grown.refl tracked.world) shrunk).congr
        intro other there
        refine iff_of_false (fun none_ => ?_) id
        rw [shrunk.kept other there, none_] at there
        cases there
      · exact fun _ _ => id
  | deleteObjectsByQuery objectClass selection =>
      refine Call.keeps_of_loads (by exact trivial) (fun _ => by exact id) ?_
      simp only [Call.run, Outcome.bind_iff, Outcome.pure_iff]
      exact deleteObjectsByQuery_spec identified objectClass selection assumed
  | tryDeleteUniqueByQuery objectClass selection =>
      refine Call.keeps_of_loads (by exact trivial) (fun _ => by exact id) ?_
      simp only [Call.run, Database.tryDeleteUniqueByQuery, Outcome.bind_iff, Outcome.ite_iff,
        Outcome.throw_iff, Outcome.pure_iff]
      exact (deleteObjectsByQuery_spec identified objectClass selection assumed).mono
        (fun _ _ kept => ⟨fun _ => kept, fun _ => kept⟩) fun _ _ => id

private theorem Tracked.Right.step {tracked : Tracked δ ω} (right : tracked.Right)
    (action : Call δ ω × Surroundings δ ω) (assumed : Assumed codec tracked action)
    (safe : SavesSafe codec tracked action) : (tracked.step codec action).Right := by
  have kept := Call.run_keeps right.identified action assumed safe
  unfold Call.Keeps Outcome at kept
  unfold Tracked.step
  split at kept
  · next result =>
    rw [result]
    refine ⟨kept.1, fun pointer => (kept.2 pointer).trans ?_⟩
    rw [right.registered pointer]
  · next result =>
    rw [result]
    refine ⟨kept.1, fun pointer => (kept.2 pointer).trans ?_⟩
    rw [right.registered pointer]

theorem Tracked.opened_right (rows : Contents δ) : (Tracked.opened rows : Tracked δ ω).Right where
  identified :=
    { mapped :=
        { held := fun _ => by simp [Tracked.opened, World.opened]
          apart := fun _ member => by cases member
          unique := fun _ _ _ _ found => by cases found
          modified := fun _ member => by cases member
          proper := fun _ _ found => by cases found
          createdNodup := List.nodup_nil }
      unsaved := fun _ member => by cases member
      begun := rfl }
  registered _ := List.mem_nil_iff _

/-- A class and an ID have at most one object, the containers hold no other objects, and a query
returns the objects that are registered, as they are. -/
structure IdentityMap (codec : Codec δ ω) (world : World δ ω) : Prop where
  unique : ∀ pointer other object otherObject, world.objects pointer = some object →
    world.objects other = some otherObject → object.key = otherObject.key → pointer = other
  undeleted : ∀ pointer, pointer ∈ world.created ∨ pointer ∈ world.modified ∨
    pointer ∈ world.loaded → (world.objects pointer).isSome = true
  loads : ∀ surroundings objectClass selection, Readable codec world objectClass selection →
    Outcome (loadObjectsByQuery codec surroundings objectClass selection) world
      (fun pointers final =>
        List.Forall₂ (fun entry pointer =>
            RegisteredAt final (objectClass.name, entry.1) pointer ∧
              ∀ registered, RegisteredAt world (objectClass.name, entry.1) registered →
                pointer = registered)
          (world.select objectClass.name selection) pointers ∧
        ∀ pointer, (world.objects pointer).isSome = true →
          final.objects pointer = world.objects pointer)
      (fun _ final => final = world)

private theorem Identified.identityMap (identified : Identified world) :
    IdentityMap codec world where
  unique := identified.mapped.unique
  undeleted pointer := by
    rintro (created | modified | loaded)
    · exact (identified.mapped.held pointer).mpr (.inl created)
    · exact identified.mapped.modified pointer modified
    · exact (identified.mapped.held pointer).mpr (.inr loaded)
  loads surroundings objectClass selection readable := by
    apply (loadObjectsByQuery_spec identified.mapped identified.unsaved objectClass selection
      readable).mono
    · rintro pointers final ⟨mapped, grown, all⟩
      refine ⟨all.imp fun entry pointer registered => ⟨registered, fun other was => ?_⟩, grown.kept⟩
      exact mapped.at_unique registered (RegisteredAt.grown was grown)
    · exact fun _ _ => id

/-- At the end of a session whose saves reach no field whose conversion makes another library
throw, the identity map is right, and the registered objects are those that have been inserted or
loaded and not been deleted. -/
theorem run_identity (codec : Codec δ ω) (rows : Contents δ)
    (actions : List (Call δ ω × Surroundings δ ω))
    (assumed : EachStep (Tracked.step codec) (Assumed codec) (Tracked.opened rows) actions)
    (safe : EachStep (Tracked.step codec) (SavesSafe codec) (Tracked.opened rows) actions) :
    let final := actions.foldl (Tracked.step codec) (Tracked.opened rows)
    IdentityMap codec final.world ∧
      ∀ pointer, pointer ∈ final.world.loaded ↔ final.entered pointer := by
  have keep (tracked : Tracked δ ω) (action : Call δ ω × Surroundings δ ω)
      (both : Assumed codec tracked action ∧ SavesSafe codec tracked action)
      (right : tracked.Right) : (tracked.step codec action).Right :=
    right.step action both.1 both.2
  have right := run_preserves keep (Tracked.opened_right rows) (assumed.and safe)
  exact ⟨right.identified.identityMap, right.registered⟩

end

namespace Scenario

/-- Nothing throws, and new objects are placed behind all others. -/
def calm : Surroundings Int Json where
  fault _ _ := false
  selectFault _ _ := false
  deleteFault _ _ := false
  address world := (world.created ++ world.loaded).foldr max 0 + 1
  unused world := by
    have behind (pointers : List Nat) : ∀ pointer ∈ pointers, pointer ≤ pointers.foldr max 0 := by
      induction pointers with
      | nil => exact fun _ member => absurd member List.not_mem_nil
      | cons first rest ih =>
          intro pointer member
          rw [List.foldr_cons]
          rcases List.mem_cons.mp member with rfl | later
          · exact Nat.le_max_left _ _
          · exact Nat.le_trans (ih pointer later) (Nat.le_max_right _ _)
    constructor
    · intro member
      have small := behind _ _ (List.mem_append_left world.loaded member)
      omega
    · intro member
      have small := behind _ _ (List.mem_append_right world.created member)
      omega

def table : TableClass Int Json where
  toObjectClass := settings
  plain := by decide

/-- A new object is deleted before it is saved. -/
theorem deleted_identity :
    let actions : List (Call Int Json × Surroundings Int Json) :=
      [(.createObject table "a", calm), (.deleteObject 1, calm)]
    let final := actions.foldl (Tracked.step codec) (Tracked.opened fun _ => none)
    IdentityMap codec final.world ∧
      ∀ pointer, pointer ∈ final.world.loaded ↔ final.entered pointer := by
  have fresh : Fresh (World.opened fun _ => none : World Int Json) ("settings", "a") :=
    ⟨rfl, fun _ _ found => by cases found⟩
  exact run_identity codec (fun _ => none)
    [(.createObject table "a", calm), (.deleteObject 1, calm)] ⟨fresh, trivial, trivial⟩
    ⟨trivial, trivial, trivial⟩

/-- After a save was aborted by a JSON value that is not UTF-8, the row of a new object is loaded
as a second object. -/
theorem aborted_duplicate :
    let actions : List (Call Int Json × Surroundings Int Json) :=
      [(.createObject table "a", calm), (.createObject table "b", calm),
        (.modifyField 2 "value" (.setJson (some .invalidText)), calm), (.saveObjects, calm),
        (.loadObjectsByQuery table ⟨["a"], by decide⟩, calm)]
    let final := actions.foldl (Tracked.step codec) (Tracked.opened fun _ => none)
    (final.world.objects 1).map BaseObject.key = some ("settings", "a") ∧
      (final.world.objects 3).map BaseObject.key = some ("settings", "a") := by
  decide +kernel

end Scenario

end Andromeda.Database
