import Andromeda.Database.TransactionProperties

/-! The identity map of the object database: objects that are created, loaded by queries, modified,
saved and deleted, and the containers that hold them. -/

set_option autoImplicit false

namespace Andromeda.Database

variable {δ ω : Type} [DecidableEq δ] [Zero δ]

/-- A class of objects; class names have no colon. -/
structure TableClass (δ ω : Type) extends ObjectClass δ ω where
  plain : ':' ∉ name.toList

/-- The rows of a table that a query matches, by their IDs. -/
structure Selection where
  ids : List String
  distinct : ids.Nodup

/-- Where SQLite makes a query throw, and where a new object is placed: not at the address of one
that the database holds. -/
structure Surroundings (δ ω : Type) extends Env δ ω where
  selectFault : World δ ω → String → Bool
  deleteFault : World δ ω → RowKey → Bool
  address : World δ ω → Nat
  unused : ∀ world, address world ∉ world.created ∧ address world ∉ world.loaded

/-- The key of `mObjects`. -/
def objkey (id className : String) : String := id ++ ":" ++ className

namespace World

/-- Whether an object has a key. -/
def hasKey (world : World δ ω) (key : String) (pointer : Nat) : Bool :=
  match world.objects pointer with
  | none => false
  | some object => decide (objkey object.id object.className = key)

/-- `mObjects.find`. -/
def find (world : World δ ω) (key : String) : Option Nat := world.loaded.find? (world.hasKey key)

/-- The rows a SELECT returns. -/
def select (world : World δ ω) (className : String) (selection : Selection) :
    List (String × Row δ) :=
  selection.ids.filterMap fun id => (world.rows (className, id)).map fun row => (id, row)

/-- The erasures of `DeleteObject` for an object that was never saved. -/
def eraseCreated (world : World δ ω) (pointer : Nat) : World δ ω :=
  { world with
    objects := Function.update world.objects pointer none
    modified := world.modified.filter (· ≠ pointer)
    created := world.created.filter (· ≠ pointer) }

/-- `mObjects.erase`. -/
def eraseLoaded (world : World δ ω) (key : String) : World δ ω :=
  match world.find key with
  | none => world
  | some pointer =>
    { world with
      objects := Function.update world.objects pointer none
      loaded := world.loaded.filter (· ≠ pointer) }

/-- `mModified.erase`. -/
def eraseModified (world : World δ ω) (pointer : Nat) : World δ ω :=
  { world with modified := world.modified.filter (· ≠ pointer) }

end World

section

variable (codec : Codec δ ω) (surroundings : Surroundings δ ω)

/-- `ConstructObject`. The constructors of the fields may notify the database before a row is
refused. -/
def constructObject (objectClass : TableClass δ ω) (id : String) (row : Row δ) : Exec δ ω Nat := do
  let world ← get
  match world.find (objkey id objectClass.name) with
  | some pointer => pure pointer -- already loaded
  | none =>
    let pointer := surroundings.address world
    let notified := objectClass.fields.any fun field => field.2.construct.2
    let noted := if notified then world.notifyModified pointer else world
    match initFields codec row objectClass.fields with
    | .error exception => do
      set noted
      throw exception
    | .ok fields => do
      set { noted with
        objects := Function.update world.objects pointer (some
          { className := objectClass.name
            idField := ⟨true, id, true, id, 0⟩
            fields })
        loaded := world.loaded ++ [pointer] }
      pure pointer

/-- The loop over the rows of a SELECT. -/
def constructObjects (objectClass : TableClass δ ω) : List (String × Row δ) → Exec δ ω (List Nat)
  | [] => pure []
  | (id, row) :: rest => do
    let pointer ← constructObject codec surroundings objectClass id row
    let pointers ← constructObjects objectClass rest
    pure (pointer :: pointers)

/-- `LoadObjectsByQuery`. -/
def loadObjectsByQuery (objectClass : TableClass δ ω) (selection : Selection) :
    Exec δ ω (List Nat) := do
  let world ← get
  if surroundings.selectFault world objectClass.name then throw .database
  else constructObjects codec surroundings objectClass (world.select objectClass.name selection)

/-- `TryLoadUniqueByQuery`. -/
def tryLoadUniqueByQuery (objectClass : TableClass δ ω) (selection : Selection) :
    Exec δ ω (Option Nat) := do
  let pointers ← loadObjectsByQuery codec surroundings objectClass selection
  if pointers.length > 1 then throw .database else pure pointers.head?

/-- The DELETE of a row. -/
def deleteQuery (key : RowKey) : Exec δ ω Nat := do
  let world ← get
  if surroundings.deleteFault world key then throw .database
  else
    match world.rows key with
    | none => pure 0
    | some _ => do
      set { world with rows := Function.update world.rows key none }
      pure 1

/-- `DeleteObject`. -/
def deleteObject (pointer : Nat) : Exec δ ω Unit := do
  let world ← get
  match world.objects pointer with
  | none => pure ()
  | some object =>
    if world.created.contains pointer then set (world.eraseCreated pointer)
    else do
      let changed ← deleteQuery surroundings object.key
      if changed ≠ 1 then throw .database
      else modify fun world =>
        (world.eraseModified pointer).eraseLoaded (objkey object.id object.className)

/-- `DeleteObjectsByQuery`. -/
def deleteObjectsByQuery (objectClass : TableClass δ ω) (selection : Selection) :
    Exec δ ω Nat := do
  let pointers ← loadObjectsByQuery codec surroundings objectClass selection
  forM pointers (deleteObject surroundings)
  pure pointers.length

/-- `TryDeleteUniqueByQuery`. -/
def tryDeleteUniqueByQuery (objectClass : TableClass δ ω) (selection : Selection) :
    Exec δ ω Bool := do
  let count ← deleteObjectsByQuery codec surroundings objectClass selection
  if count > 1 then throw .database else pure (count != 0)

end

/-- A call of the object database, or a modification of an object's field. A new object gets a
random ID, which is not empty. -/
inductive Call (δ ω : Type) where
  | createObject (objectClass : TableClass δ ω) (id : String)
  | modifyField (pointer : Nat) (name : String) (change : Change δ ω)
  | save (pointer : Nat)
  | saveObjects
  | loadObjectsByQuery (objectClass : TableClass δ ω) (selection : Selection)
  | tryLoadUniqueByQuery (objectClass : TableClass δ ω) (selection : Selection)
  | deleteObject (pointer : Nat)
  | deleteObjectsByQuery (objectClass : TableClass δ ω) (selection : Selection)
  | tryDeleteUniqueByQuery (objectClass : TableClass δ ω) (selection : Selection)

namespace Call

/-- What a call does. -/
def run (codec : Codec δ ω) (surroundings : Surroundings δ ω) : Call δ ω → Exec δ ω Unit
  | .createObject objectClass id =>
    modify fun world =>
      world.createObject (surroundings.address world) objectClass.toObjectClass id
  | .modifyField pointer name change => modify fun world => world.modify pointer name change
  | .save pointer => Database.save codec surroundings.toEnv pointer
  | .saveObjects => Database.saveObjects codec surroundings.toEnv
  | .loadObjectsByQuery objectClass selection => do
    let _ ← Database.loadObjectsByQuery codec surroundings objectClass selection
  | .tryLoadUniqueByQuery objectClass selection => do
    let _ ← Database.tryLoadUniqueByQuery codec surroundings objectClass selection
  | .deleteObject pointer => Database.deleteObject surroundings pointer
  | .deleteObjectsByQuery objectClass selection => do
    let _ ← Database.deleteObjectsByQuery codec surroundings objectClass selection
  | .tryDeleteUniqueByQuery objectClass selection => do
    let _ ← Database.tryDeleteUniqueByQuery codec surroundings objectClass selection

/-- The objects a call that returns has inserted. -/
def Inserts (world : World δ ω) : Call δ ω → Nat → Prop
  | .save saved, pointer => pointer = saved
  | .saveObjects, pointer => pointer ∈ world.created
  | _, _ => False

/-- Whether a call loads the objects that are there only after it. -/
def Loads : Call δ ω → Prop
  | .loadObjectsByQuery _ _ => True
  | .tryLoadUniqueByQuery _ _ => True
  | .deleteObjectsByQuery _ _ => True
  | .tryDeleteUniqueByQuery _ _ => True
  | _ => False

end Call

/-- A session with the objects that have been inserted or loaded, and not been deleted. -/
structure Tracked (δ ω : Type) where
  world : World δ ω
  entered : Nat → Prop

namespace Tracked

/-- A call in a session. A deleted object is there no longer. -/
def step (codec : Codec δ ω) (tracked : Tracked δ ω) (action : Call δ ω × Surroundings δ ω) :
    Tracked δ ω :=
  match action.1.run codec action.2 tracked.world with
  | .ok _ final => ⟨final, fun pointer => (final.objects pointer).isSome = true ∧
      (tracked.entered pointer ∨ action.1.Inserts tracked.world pointer ∨
        action.1.Loads ∧ tracked.world.objects pointer = none)⟩
  | .error _ final => ⟨final, fun pointer => (final.objects pointer).isSome = true ∧
      (tracked.entered pointer ∨ action.1.Loads ∧ tracked.world.objects pointer = none)⟩

/-- A database just opened. -/
def opened (rows : Contents δ) : Tracked δ ω := ⟨World.opened rows, fun _ => False⟩

end Tracked

end Andromeda.Database
