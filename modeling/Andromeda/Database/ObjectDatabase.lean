import Andromeda.Database.Fields
import Andromeda.Library.Outcome
import Mathlib.Logic.Function.Basic

/-! The object database over SQLite: objects with fields, the sets of created and modified
objects, the queries they are saved with and the transaction around all of them. -/

set_option autoImplicit false

namespace Andromeda.Database

/-- A class of objects: the table and the fields its constructor registers. -/
structure ObjectClass (δ ω : Type) where
  name : String
  fields : List (String × FieldSpec δ ω)
  distinct : ("id" :: fields.map Prod.fst).Nodup

/-- An object. -/
structure BaseObject (δ ω : Type) where
  className : String
  idField : ScalarType String
  fields : List (String × Field δ ω)

/-- A table row, by column. -/
abbrev Row (δ : Type) := String → Value δ

/-- A row's place: its table and its ID. -/
abbrev RowKey := String × String

/-- The contents of the database. -/
abbrev Contents (δ : Type) := RowKey → Option (Row δ)

/-- The database connection and the object database. `begun` holds what a rollback goes back
to; `loaded` are the pointers registered by ID. -/
structure World (δ ω : Type) where
  rows : Contents δ
  begun : Option (Contents δ)
  objects : Nat → Option (BaseObject δ ω)
  created : List Nat
  modified : List Nat
  loaded : List Nat

/-- A column of an UPDATE. -/
inductive Setter (δ : Type) where
  | assign (value : Value δ)
  | increment (value : Value δ)

/-- The queries of a save. -/
inductive Query (δ : Type) where
  | begin
  | commit
  | update (key : RowKey) (sets : List (String × Setter δ))
  | insert (table : String) (columns : List (String × Value δ))

/-- Where SQLite makes a query throw. -/
structure Env (δ ω : Type) where
  fault : World δ ω → Query δ → Bool

abbrev Exec (δ ω : Type) := EStateM Exception (World δ ω)

variable {δ ω : Type} [DecidableEq δ] [Zero δ]

namespace BaseObject

/-- The registered fields. -/
def allFields (object : BaseObject δ ω) : List (String × Field δ ω) :=
  ("id", .scalar .text object.idField) :: object.fields

/-- `ID`, of an object whose ID is set. -/
def id (object : BaseObject δ ω) : String := object.idField.tempValue

def key (object : BaseObject δ ω) : RowKey := (object.className, object.id)

/-- `SetUnmodified`. -/
def setUnmodified (object : BaseObject δ ω) : BaseObject δ ω :=
  { object with
    idField := { object.idField with delta := 0 }
    fields := object.fields.map fun field => (field.1, field.2.setUnmodified) }

/-- The fields `Save` passes on. -/
def modifiedFields (object : BaseObject δ ω) : List (String × Field δ ω) :=
  object.allFields.filter fun field => field.2.isModified

end BaseObject

section Queries

variable (codec : Codec δ ω) (env : Env δ ω)

/-- The value a column has after an UPDATE. -/
def Setter.apply (old : Value δ) : Setter δ → Value δ
  | .assign value => codec.stored value
  | .increment (.integer delta) => codec.add old delta
  | .increment _ => .null

/-- The row after an UPDATE. -/
def updateRow (row : Row δ) (sets : List (String × Setter δ)) : Row δ := fun column =>
  match sets.lookup column with
  | none => row column
  | some setter => setter.apply codec (row column)

/-- The row of an INSERT. A column not given is null. -/
def insertRow (columns : List (String × Value δ)) : Row δ := fun column =>
  match columns.lookup column with
  | none => .null
  | some value => codec.stored value

/-- `SqliteDatabase::query`: the number of rows changed. -/
def query (query : Query δ) : Exec δ ω Nat := do
  let world ← get
  if env.fault world query then throw .database
  else match query with
    | .begin =>
      set { world with begun := some world.rows }
      return 0
    | .commit =>
      set { world with begun := none }
      return 0
    | .update key sets =>
      match world.rows key with
      | none => return 0
      | some row =>
        set { world with
          rows := Function.update world.rows key (some (updateRow codec row sets)) }
        return 1
    | .insert table columns =>
      match columns.lookup "id" with
      | some (.text id) =>
        if (world.rows (table, id)).isSome then throw .database -- the key is taken
        else
          set { world with
            rows := Function.update world.rows (table, id) (some (insertRow codec columns)) }
          return 1
      | _ => throw .database -- no key

/-- The rollback of a transaction. -/
def rollback : Exec δ ω Unit :=
  modify fun world => { world with rows := world.begun.getD world.rows, begun := none }

/-- `SqliteDatabase::transaction`. Only the database's own exceptions are handled. -/
def transaction (func : Exec δ ω Unit) : Exec δ ω Unit := do
  if (← get).begun.isSome then throw .database
  else
    let _ ← query codec env .begin
    tryCatch (do
        func
        let _ ← query codec env .commit)
      fun exception => do
        if exception = .database then rollback
        throw exception

/-- The column a field is updated with: null is assigned, a counter adds its delta. -/
def setterOf (field : Field δ ω) (value : Value δ) : Setter δ :=
  if value = .null then .assign .null
  else if field.useDBIncrement then .increment value
  else .assign value

/-- The database values of a list of fields. -/
def dbValues : List (String × Field δ ω) → Except Exception (List (String × Field δ ω × Value δ))
  | [] => .ok []
  | (name, field) :: rest =>
    match field.getDBValue codec with
    | .error exception => .error exception
    | .ok value =>
      match dbValues rest with
      | .error exception => .error exception
      | .ok values => .ok ((name, field, value) :: values)

/-- Let a result throw. -/
def orThrow {α : Type} : Except Exception α → Exec δ ω α
  | .ok value => pure value
  | .error exception => throw exception

/-- `UpdateObject_Query`. -/
def updateObjectQuery (object : BaseObject δ ω) (fields : List (String × Field δ ω)) :
    Exec δ ω Unit := do
  let values ← orThrow (dbValues codec fields)
  if values.isEmpty then pure ()
  else
    let changed ← query codec env (.update object.key
      (values.map fun entry => (entry.1, setterOf entry.2.1 entry.2.2)))
    if changed ≠ 1 then throw .database

/-- `InsertObject_Query`. -/
def insertObjectQuery (object : BaseObject δ ω) (fields : List (String × Field δ ω)) :
    Exec δ ω Unit := do
  let values ← orThrow (dbValues codec fields)
  let changed ← query codec env (.insert object.className
    (values.map fun entry => (entry.1, entry.2.2)))
  if changed ≠ 1 then throw .database

end Queries

namespace World

/-- Apply a change to an object. -/
def modifyObject (world : World δ ω) (pointer : Nat)
    (change : BaseObject δ ω → BaseObject δ ω) : World δ ω :=
  { world with
    objects := Function.update world.objects pointer ((world.objects pointer).map change) }

/-- `notifyModified`. -/
def notifyModified (world : World δ ω) (pointer : Nat) : World δ ω :=
  if world.modified.contains pointer then world
  else { world with modified := world.modified ++ [pointer] }

/-- `UpdateObject_Register`. -/
def updateObjectRegister (world : World δ ω) (pointer : Nat) : World δ ω :=
  { world.modifyObject pointer BaseObject.setUnmodified with
    modified := world.modified.filter (· ≠ pointer) }

/-- `InsertObject_Register`. -/
def insertObjectRegister (world : World δ ω) (pointer : Nat) : World δ ω :=
  { world.updateObjectRegister pointer with
    created := world.created.filter (· ≠ pointer)
    loaded := world.loaded ++ [pointer] }

end World

section Saves

variable (codec : Codec δ ω) (env : Env δ ω)

/-- The query of `SaveObject`, for the fields `Save` passes on. -/
def saveQuery (pointer : Nat) : Exec δ ω Unit := do
  let world ← get
  match world.objects pointer with
  | none => pure ()
  | some object =>
    if world.created.contains pointer then
      insertObjectQuery codec env object object.modifiedFields
    else updateObjectQuery codec env object object.modifiedFields

/-- The registration of `SaveObject`. -/
def saveRegister (world : World δ ω) (pointer : Nat) : World δ ω :=
  if world.created.contains pointer then world.insertObjectRegister pointer
  else world.updateObjectRegister pointer

/-- `BaseObject::Save` of a single object. -/
def save (pointer : Nat) : Exec δ ω Unit := do
  saveQuery codec env pointer
  modify fun world => saveRegister world pointer

/-- The saves of `SaveObjects`: new objects first, for foreign keys. -/
def saveAll : Exec δ ω Unit := do
  forM (← get).created fun pointer => saveQuery codec env pointer
  forM (← get).modified fun pointer => do
    if !(← get).created.contains pointer then saveQuery codec env pointer

/-- `SaveObjects`. All queries are done before the data structures are updated. -/
def saveObjects : Exec δ ω Unit := do
  transaction codec env (saveAll codec env)
  modify fun world => world.created.foldl World.insertObjectRegister world
  modify fun world => world.modified.foldl World.updateObjectRegister world

end Saves

end Andromeda.Database
