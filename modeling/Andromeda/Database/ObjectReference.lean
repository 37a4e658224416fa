import Andromeda.Database.IdentityMap
import Andromeda.Library.Run

/-! Fields that refer to an object by its ID and keep a pointer to it once it has been found, next to
everything else that is done with the database. -/

set_option autoImplicit false

namespace Andromeda.Database.ObjectReference

open Andromeda.Library

variable {δ ω : Type} [DecidableEq δ] [Zero δ]

/-- `ObjectRef` and `NullObjectRef`: the class of the objects, whether the field may be null, the
object that it belongs to, and `mObjId`, `mObjPtr` and `mDelta`. -/
structure RefField (δ ω : Type) where
  target : TableClass δ ω
  nullable : Bool
  parent : Nat
  objId : String
  objPtr : Option Nat
  delta : Int

/-- The database with a field. -/
abbrev State (δ ω : Type) := World δ ω × RefField δ ω

/-- The query of a field: the row with its ID. -/
def selection (field : RefField δ ω) : Selection := ⟨[field.objId], by simp⟩

/-- A live object: registered, of a class and with an ID. -/
def LiveAt (world : World δ ω) (key : RowKey) (pointer : Nat) : Prop :=
  (pointer ∈ world.created ∨ pointer ∈ world.loaded) ∧
    ∃ object, world.objects pointer = some object ∧ object.key = key

section

variable (codec : Codec δ ω) (surroundings : Surroundings δ ω)

/-- `TryGetObject`, and `GetObject` of a field that may not be null. -/
def getObject : EStateM Exception (State δ ω) (Option Nat) := do
  let (_, field) ← get
  if field.objId = "" then
    if field.nullable then pure none else throw .database
  else
    match field.objPtr with
    | some pointer => pure (some pointer)
    | none => do
      let found ← onFirst (tryLoadUniqueByQuery codec surroundings field.target (selection field))
      match found with
      | none => throw .database
      | some pointer => do
        modify fun state => (state.1, { state.2 with objPtr := some pointer })
        pure (some pointer)

/-- `SetObject` of an object, which is there and of the field's class. -/
def setObject (state : State δ ω) (pointer : Nat) : State δ ω :=
  let (world, field) := state
  match world.objects pointer with
  | none => state
  | some object =>
    if object.className ≠ field.target.name then state
    else if field.objId = object.id then (world, { field with objPtr := some pointer })
    else (world.notifyModified field.parent,
      { field with objId := object.id, objPtr := some pointer, delta := field.delta + 1 })

/-- `SetObject` of null, which only a field that may be null has. -/
def setNull (state : State δ ω) : State δ ω :=
  let (world, field) := state
  if field.nullable = false ∨ field.objId = "" then state
  else (world.notifyModified field.parent,
    { field with objId := "", objPtr := none, delta := field.delta + 1 })

/-- `InitDBValue`; a field that may not be null throws at a null value. -/
def initDBValue (state : State δ ω) (value : Value δ) : State δ ω :=
  let (world, field) := state
  if value.isNull then
    if field.nullable then (world, { field with delta := 0 }) else state
  else (world, { field with objId := codec.toText value, delta := 0 })

end

/-- Something done with the database, or with the field. -/
inductive Action (δ ω : Type) where
  | call (call : Call δ ω)
  | getObject
  | setObject (pointer : Nat)
  | setNull
  | initDBValue (value : Value δ)

/-- The database with a field and the ID that the field is meant to have, which is empty for
null. -/
structure Tracked (δ ω : Type) where
  state : State δ ω
  meant : String

/-- The state at either exit. -/
def exitState {α : Type} (result : EStateM.Result Exception (State δ ω) α) : State δ ω :=
  match result with
  | .ok _ state => state
  | .error _ state => state

namespace Tracked

/-- An action, in its surroundings. -/
def step (codec : Codec δ ω) (tracked : Tracked δ ω) (action : Action δ ω × Surroundings δ ω) :
    Tracked δ ω :=
  let (world, field) := tracked.state
  match action.1 with
  | .call call =>
    { tracked with state := (exitWorld (call.run codec action.2 world), field) }
  | .getObject =>
    { tracked with state := exitState (ObjectReference.getObject codec action.2 tracked.state) }
  | .setObject pointer =>
    { state := ObjectReference.setObject tracked.state pointer
      meant :=
        match world.objects pointer with
        | none => tracked.meant
        | some object => if object.className = field.target.name then object.id else tracked.meant }
  | .setNull =>
    { state := ObjectReference.setNull tracked.state
      meant := if field.nullable then "" else tracked.meant }
  | .initDBValue value =>
    { state := ObjectReference.initDBValue codec tracked.state value
      meant :=
        if value.isNull then if field.nullable then "" else tracked.meant
        else codec.toText value }

/-- A database just opened, with a new field. -/
def opened (rows : Contents δ) (target : TableClass δ ω) (nullable : Bool) (parent : Nat) :
    Tracked δ ω :=
  ⟨(World.opened rows, ⟨target, nullable, parent, "", none, 0⟩), ""⟩

/-- What reading the field gives: a live object with the ID that is meant, or null if that is meant,
or an exception. -/
def Valid (codec : Codec δ ω) (tracked : Tracked δ ω) : Prop :=
  ∀ surroundings : Surroundings δ ω,
    match ObjectReference.getObject codec surroundings tracked.state with
    | .ok (some pointer) final =>
      tracked.meant ≠ "" ∧ LiveAt final.1 (tracked.state.2.target.name, tracked.meant) pointer
    | .ok none _ => tracked.state.2.nullable = true ∧ tracked.meant = ""
    | .error _ _ => tracked.state.2.nullable = true → tracked.meant ≠ ""

/-- A step that leaves the kept pointer right: it does not delete the object, does not initialise the
field with the ID of another one while a pointer is kept, nor with null while it has an ID. -/
def Safe (codec : Codec δ ω) (tracked : Tracked δ ω) (action : Action δ ω × Surroundings δ ω) :
    Prop :=
  let (world, field) := tracked.state
  match action.1 with
  | .call call => ∀ pointer, field.objPtr = some pointer → field.objId ≠ "" →
    ((exitWorld (call.run codec action.2 world)).objects pointer).isSome = true
  | .initDBValue value =>
    if value.isNull then field.nullable = true → field.objId = ""
    else ∀ pointer, field.objPtr = some pointer → codec.toText value ≠ "" →
      LiveAt world (field.target.name, codec.toText value) pointer
  | _ => True

end Tracked

end Andromeda.Database.ObjectReference
