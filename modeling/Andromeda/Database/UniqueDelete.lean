import Andromeda.Database.IdentityMap

/-! Deletions with the notifications that the deleted objects get, and a deletion of the one object
that a query matches. -/

set_option autoImplicit false

namespace Andromeda.Database.Notified

open Andromeda.Library

variable {δ ω : Type} [DecidableEq δ] [Zero δ]

/-- A notification of an object. -/
inductive Notification where
  | preDeleted (pointer : Nat)
  | postDeleted (pointer : Nat)
  deriving DecidableEq

/-- The database with the notifications that have been run. -/
abbrev State (δ ω : Type) := World δ ω × List Notification

abbrev Exec (δ ω : Type) := EStateM Exception (State δ ω)

/-- A notification is run. -/
def notify (notification : Notification) : Exec δ ω Unit :=
  modify fun state => (state.1, state.2 ++ [notification])

variable (codec : Codec δ ω) (surroundings : Surroundings δ ω)

/-- `DeleteObject`. -/
def deleteObject (pointer : Nat) : Exec δ ω Unit := do
  let state ← get
  match state.1.objects pointer with
  | none => pure ()
  | some object => do
    notify (.preDeleted pointer)
    if state.1.created.contains pointer then do
      notify (.postDeleted pointer)
      onFirst (set (state.1.eraseCreated pointer))
    else do
      let changed ← onFirst (deleteQuery surroundings object.key)
      if changed ≠ 1 then throw .database
      else do
        notify (.postDeleted pointer)
        onFirst (modify fun world =>
          (world.eraseModified pointer).eraseLoaded (objkey object.id object.className))

/-- `DeleteObjectsByQuery`. -/
def deleteObjectsByQuery (objectClass : TableClass δ ω) (selection : Selection) :
    Exec δ ω Nat := do
  let pointers ← onFirst (loadObjectsByQuery codec surroundings objectClass selection)
  forM pointers (deleteObject surroundings)
  pure pointers.length

/-- `TryDeleteUniqueByQuery`. -/
def tryDeleteUniqueByQuery (objectClass : TableClass δ ω) (selection : Selection) :
    Exec δ ω Bool := do
  let count ← deleteObjectsByQuery codec surroundings objectClass selection
  if count > 1 then throw .database else pure (count != 0)

/-- What a deletion that throws is meant to leave: the rows, the objects and the containers they are
in, and no notification. -/
structure Untouched (before after : State δ ω) : Prop where
  rows : after.1.rows = before.1.rows
  objects : ∀ pointer, (before.1.objects pointer).isSome = true →
    after.1.objects pointer = before.1.objects pointer
  created : ∀ pointer ∈ before.1.created, pointer ∈ after.1.created
  loaded : ∀ pointer ∈ before.1.loaded, pointer ∈ after.1.loaded
  notified : after.2 = before.2

/-- A deletion that is done as a whole or not at all: it finds the only row that matches, which is
gone then, or none. -/
def Atomic (objectClass : TableClass δ ω) (selection : Selection) (state : State δ ω) : Prop :=
  Outcome (tryDeleteUniqueByQuery codec surroundings objectClass selection) state
    (fun found final =>
      (found = true ↔ (state.1.select objectClass.name selection).length = 1) ∧
        ∀ entry ∈ state.1.select objectClass.name selection,
          final.1.rows (objectClass.name, entry.1) = none)
    (fun _ final => Untouched state final)

/-- The rows that match cannot be loaded, or there is at most one and it can be deleted. -/
def Deletable (objectClass : TableClass δ ω) (selection : Selection) (world : World δ ω) : Prop :=
  Outcome (loadObjectsByQuery codec surroundings objectClass selection) world
    (fun _ loaded =>
      (world.select objectClass.name selection).length ≤ 1 ∧
        ∀ entry ∈ world.select objectClass.name selection,
          surroundings.deleteFault loaded (objectClass.name, entry.1) = false)
    (fun _ _ => True)

end Andromeda.Database.Notified
