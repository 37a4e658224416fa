import Andromeda.Text.StringUtil

/-! `FuseOperations::rename`, over the functions of items and folders that it calls. -/

set_option autoImplicit false

namespace Andromeda.Fuse

open Text

/-- The exceptions that `CatchAsErrno` tells apart; `other` is none of `BaseException`. -/
inductive FuseException where
  | notFile
  | notFolder
  | notFound
  | duplicateItem
  | modify
  | writeType
  | readOnlyFS
  | nullParent
  | memory
  | backendUnsupported
  | backendReadOnlyFS
  | backendDenied
  | backendNotFound
  | backendWriteSize
  | connection
  | base
  | other
  deriving DecidableEq

/-- Error numbers. -/
inductive Errno where
  | eisdir
  | enotdir
  | enoent
  | eexist
  | enotsup
  | erofs
  | enomem
  | eacces
  | ehostdown
  | eio
  | einval
  deriving DecidableEq

/-- What an operation returns: `FUSE_SUCCESS`, or a negative error number. -/
inductive Reply where
  | success
  | failure (errno : Errno)
  deriving DecidableEq

variable {σ : Type}

/-- The error number of an exception that is caught. -/
def errno : FuseException → Option Errno
  | .notFile => some .eisdir
  | .notFolder => some .enotdir
  | .notFound => some .enoent
  | .duplicateItem => some .eexist
  | .modify => some .enotsup
  | .writeType => some .enotsup
  | .readOnlyFS => some .erofs
  | .nullParent => some .enotsup
  | .memory => some .enomem
  | .backendUnsupported => some .enotsup
  | .backendReadOnlyFS => some .erofs
  | .backendDenied => some .eacces
  | .backendNotFound => some .enoent
  | .backendWriteSize => some .enotsup
  | .connection => some .ehostdown
  | .base => some .eio
  | .other => none

/-- `CatchAsErrno`. -/
def catchAsErrno (func : EStateM FuseException σ Reply) : EStateM FuseException σ Reply :=
  fun state =>
    match func state with
    | .ok reply state => .ok reply state
    | .error exception state =>
      match errno exception with
      | some errno => .ok (.failure errno) state
      | none => .error exception state

/-- An object that is released at the end of its scope. -/
def inScope {α β : Type} (acquire : EStateM FuseException σ α) (release : α → σ → σ)
    (body : α → EStateM FuseException σ β) : EStateM FuseException σ β := fun state =>
  match acquire state with
  | .error exception state => .error exception state
  | .ok object state =>
    match body object state with
    | .error exception state => .error exception (release object state)
    | .ok value state => .ok value (release object state)

/-- The functions that the operation calls, with references to items of some type: those that lock
and unlock an item, and those that change it. -/
structure Items (σ Ref : Type) where
  getFolderByPath : List Char → EStateM FuseException σ Ref
  getItemByPath : List Char → EStateM FuseException σ Ref
  unlockScope : Ref → σ → σ
  getWriteLock : Ref → EStateM FuseException σ Unit
  unlockWrite : Ref → σ → σ
  move (item newParent : Ref) (overwrite : Bool) : EStateM FuseException σ Unit
  rename (item : Ref) (newName : List Char) (overwrite : Bool) : EStateM FuseException σ Unit

namespace Items

variable {Ref : Type} (items : Items σ Ref)

/-- An item with its write lock. -/
def withItem (path : List Char) (body : Ref → EStateM FuseException σ Unit) :
    EStateM FuseException σ Unit :=
  inScope (items.getItemByPath path) items.unlockScope fun item =>
    inScope (items.getWriteLock item) (fun _ => items.unlockWrite item) fun _ => body item

/-- The move of an item to another parent, which is locked first. -/
def moveTo (oldpath newParent : List Char) : EStateM FuseException σ Reply := do
  inScope (items.getFolderByPath newParent) items.unlockScope fun parent =>
    items.withItem oldpath fun item => items.move item parent true
  pure .success

/-- `FuseOperations::rename`. -/
def renamePath (oldpath newpath : List Char) : EStateM FuseException σ Reply :=
  let (oldParent, oldName) := splitPath oldpath
  let (newParent, newName) := splitPath newpath
  catchAsErrno <|
    if oldParent ≠ newParent ∧ oldName ≠ newName then pure (.failure .eio)
    else if oldParent ≠ newParent then
      if startsWith newParent (oldParent ++ ['/'] ++ oldName ++ ['/']) then
        pure (.failure .einval)
      else items.moveTo oldpath newParent
    else if oldName ≠ newName then do
      items.withItem oldpath fun item => items.rename item newName true
      pure .success
    else pure .success

end Items

end Andromeda.Fuse
