import Andromeda.Database.ObjectDatabase
import Andromeda.Library.Run

/-! Sessions: objects are created, loaded, modified and saved, in any order. -/

set_option autoImplicit false

namespace Andromeda.Database

open Andromeda.Library

variable {δ ω : Type} [DecidableEq δ] [Zero δ]

/-- One step of a session. Pointers name the objects. -/
inductive Op (δ ω : Type) where
  /-- The new object is given a random ID. -/
  | create (pointer : Nat) (objectClass : ObjectClass δ ω) (id : String) (named : id ≠ "")
  | load (pointer : Nat) (objectClass : ObjectClass δ ω) (id : String) (named : id ≠ "")
  | modify (pointer : Nat) (name : String) (change : Change δ ω)
  | save (pointer : Nat)
  | saveObjects

/-- A change of one field, and whether the database was notified. -/
def changeField (name : String) (change : Change δ ω) :
    List (String × Field δ ω) → List (String × Field δ ω) × Bool
  | [] => ([], false)
  | (fieldName, field) :: rest =>
    if fieldName = name then
      let (field, notified) := change.apply field
      ((fieldName, field) :: rest, notified)
    else
      let (rest, notified) := changeField name change rest
      ((fieldName, field) :: rest, notified)

/-- `InitDBValue` of all fields of a class from a row. -/
def initFields (codec : Codec δ ω) (row : Row δ) :
    List (String × FieldSpec δ ω) → Except Exception (List (String × Field δ ω))
  | [] => .ok []
  | (name, spec) :: rest =>
    match spec.construct.1.initDBValue codec (row name) with
    | .error exception => .error exception
    | .ok field =>
      match initFields codec row rest with
      | .error exception => .error exception
      | .ok fields => .ok ((name, field) :: fields)

namespace World

/-- Whether an object with this key is registered. -/
def isLoaded (world : World δ ω) (key : RowKey) : Bool :=
  world.loaded.any fun pointer =>
    match world.objects pointer with
    | none => false
    | some object => decide (object.key = key)

/-- `CreateObject`: the ID is set last, which notifies the database. -/
def createObject (world : World δ ω) (pointer : Nat) (objectClass : ObjectClass δ ω)
    (id : String) : World δ ω :=
  if (world.objects pointer).isSome then world -- pointers are new
  else
    { world.notifyModified pointer with
      objects := Function.update world.objects pointer (some
        { className := objectClass.name
          idField := ((ScalarType.construct "" none).1.setValue id false).1
          fields := objectClass.fields.map fun field => (field.1, field.2.construct.1) })
      created := world.created ++ [pointer] }

/-- `ConstructObject` of the row found under an ID. An object already loaded is not
constructed again. The constructors of the fields may notify the database, also of an object whose
row is then refused. -/
def loadObject (codec : Codec δ ω) (world : World δ ω) (pointer : Nat)
    (objectClass : ObjectClass δ ω) (id : String) : World δ ω :=
  match world.rows (objectClass.name, id) with
  | none => world
  | some row =>
    if (world.objects pointer).isSome || world.isLoaded (objectClass.name, id) then world
    else
      let notified := objectClass.fields.any fun field => field.2.construct.2
      let noted := if notified then world.notifyModified pointer else world
      match initFields codec row objectClass.fields with
      | .error _ => noted
      | .ok fields =>
        { noted with
          objects := Function.update world.objects pointer (some
            { className := objectClass.name
              idField := ⟨true, id, true, id, 0⟩
              fields })
          loaded := world.loaded ++ [pointer] }

/-- A modification of a field. -/
def modify (world : World δ ω) (pointer : Nat) (name : String) (change : Change δ ω) :
    World δ ω :=
  match world.objects pointer with
  | none => world
  | some object =>
    let (fields, notified) := changeField name change object.fields
    let noted := if notified then world.notifyModified pointer else world
    { noted with
      objects := Function.update world.objects pointer (some { object with fields }) }

end World

/-- The state at either exit. -/
def exitWorld (result : EStateM.Result Exception (World δ ω) Unit) : World δ ω :=
  match result with
  | .ok _ world => world
  | .error _ world => world

/-- A step of a session, in its environment. -/
def step (codec : Codec δ ω) (world : World δ ω) (action : Op δ ω × Env δ ω) : World δ ω :=
  match action.1 with
  | .create pointer objectClass id _ => world.createObject pointer objectClass id
  | .load pointer objectClass id _ => world.loadObject codec pointer objectClass id
  | .modify pointer name change => world.modify pointer name change
  | .save pointer => exitWorld (save codec action.2 pointer world)
  | .saveObjects => exitWorld (saveObjects codec action.2 world)

/-- A database just opened. -/
def World.opened (rows : Contents δ) : World δ ω where
  rows
  begun := none
  objects _ := none
  created := []
  modified := []
  loaded := []

end Andromeda.Database
