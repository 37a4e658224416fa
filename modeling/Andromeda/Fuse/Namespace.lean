import Andromeda.Folders.PathLookupProperties
import Andromeda.Folders.SettlementProperties
import Andromeda.Fuse.Operations

/-! The operations with the paths that they are asked for, and what they are meant to do to the paths
of the mounted tree. -/

set_option autoImplicit false

namespace Andromeda.Fuse

open Andromeda.Folders Andromeda.Library
open Text (Component pathText)

/-- A path that the kernel asks for. -/
structure Path where
  components : List Component
  fits : components.length < sizeMax

def componentName (component : Component) : String := String.ofList component.text

namespace Path

/-- The text of a path: that of the root is a slash. -/
def text (path : Path) : List Char :=
  if path.components.isEmpty then ['/'] else pathText path.components

def names (path : Path) : List String := path.components.map componentName

end Path

/-- An operation, with its arguments. -/
inductive Operation where
  | getattr (path : Path)
  | openFile (path : Path) (writing : Bool)
  | opendir (path : Path) (writing : Bool)
  | readdir (path : Path)
  | create (path : Path)
  | mkdir (path : Path)
  | unlink (path : Path)
  | rmdir (path : Path)
  | rename (old new : Path)
  | flush (path : Path)
  | chmod (path : Path)
  | chown (path : Path)

variable {β : Type}

/-- The body of an operation. -/
def Operation.body (calls : Calls β) (adapter : Adapter β) : Operation → FolderExec β Answer
  | .getattr path => Fuse.getattr calls adapter path.text
  | .openFile path writing => Fuse.openFile calls adapter path.text writing
  | .opendir path writing => Fuse.opendir calls adapter path.text writing
  | .readdir path => Fuse.readdir calls adapter path.text
  | .create path => Fuse.create calls adapter path.text
  | .mkdir path => Fuse.mkdir calls adapter path.text
  | .unlink path => Fuse.unlink calls adapter path.text
  | .rmdir path => Fuse.rmdir calls adapter path.text
  | .rename old new => Fuse.rename calls adapter old.text new.text
  | .flush path => Fuse.flush calls adapter path.text
  | .chmod path => Fuse.chmod calls adapter path.text
  | .chown path => Fuse.chown calls adapter path.text

def Operation.run (calls : Calls β) (adapter : Adapter β) (operation : Operation) :
    EStateM FuseException (World β) Answer :=
  catchAnswer adapter (operation.body calls adapter)

/-- What an operation is meant to do to the paths of the mounted tree, and to answer. -/
def Operation.Effect (before after : List String → Option Node) : Operation → Answer → Prop
  | .create path, .reply .success => ∃ node, PathAdded before after path.names node
  | .mkdir path, .reply .success => ∃ node, PathAdded before after path.names node
  | .unlink path, .reply .success => PathRemoved before after path.names
  | .rmdir path, .reply .success =>
    PathRemoved before after path.names ∧ ∀ name, before (path.names ++ [name]) = none
  | .rename old new, .reply .success => (old.names = new.names ∨ old.names = []) ∧ after = before ∨
    ∃ node middle, before old.names = some node ∧ Settled before middle node ∧
      PathMoved middle after old.names new.names
  | .flush path, .reply .success =>
    ∃ node, before path.names = some node ∧ Settled before after node
  | .getattr path, .stat _ => after = before ∧ (before path.names).isSome = true
  | .getattr path, .reply (.failure .enoent) => after = before ∧ before path.names = none
  | .readdir path, .listed names => after = before ∧ (before path.names).isSome = true ∧
    ∀ name, name ∈ names ↔ name = "." ∨ name = ".." ∨
      (before (path.names ++ [name])).isSome = true
  | _, _ => after = before

/-- What was thrown, if anything, was a check of the items. -/
def Unfailing : EStateM.Result FolderError (World β) Answer → Prop
  | .ok _ _ => True
  | .error exception _ => ¬ exception.Fault

instance : ∀ result : EStateM.Result FolderError (World β) Answer, Decidable (Unfailing result)
  | .ok _ _ => inferInstanceAs (Decidable True)
  | .error _ _ => inferInstanceAs (Decidable (¬ _))

/-- The backend has answered, and as it should. -/
def Operation.Answered (calls : Calls β) (adapter : Adapter β) (world : World β)
    (operation : Operation) : Prop :=
  Unfailing (operation.body calls adapter world)

instance (calls : Calls β) (adapter : Adapter β) (world : World β) (operation : Operation) :
    Decidable (operation.Answered calls adapter world) :=
  inferInstanceAs (Decidable (Unfailing _))

/-- No file that is still awaited takes the name of one that the backend has. -/
def Operation.Clear (before : List String → Option Node) : Operation → Prop
  | .rename old new => old.names.dropLast = new.names.dropLast → ∀ file,
    before old.names = some (.awaited file) → ∀ id, before new.names ≠ some (.stored id)
  | _ => True

/-- What the paths of the mounted tree lead to. -/
noncomputable abbrev mounted (adapter : Adapter β) (content : β → Entries) (rootId : String)
    (world : World β) : List String → Option Node :=
  world.paths adapter.rootFolder rootId (content world.outside)

/-- The mounted tree mirrors the backend. -/
abbrev Mounted (adapter : Adapter β) (content : β → Entries) (rootId : String) (world : World β) :
    Prop :=
  Mirrors world adapter.rootFolder rootId (content world.outside)

/-- An operation has its effect when it returns, and when it throws what is not a fault. -/
def Operation.Works (calls : Calls β) (adapter : Adapter β) (content : β → Entries)
    (rootId : String) (world : World β) (operation : Operation) : Prop :=
  Outcome (operation.body calls adapter) world
    (fun answer final => Mounted adapter content rootId final ∧
      operation.Effect (mounted adapter content rootId world) (mounted adapter content rootId final)
        answer)
    (fun exception final => exception.Fault ∨ Mounted adapter content rootId final ∧
      ∀ number, (number = .enoent → exception = .item .notFound) →
        operation.Effect (mounted adapter content rootId world)
          (mounted adapter content rootId final) (.reply (.failure number)))

/-- A history of operations, each with its answer, and what it has done to the paths. -/
inductive Traced : (List String → Option Node) → List (Operation × Option Answer) →
    (List String → Option Node) → Prop where
  | nil {names} : Traced names [] names
  | cons {before middle after operation answer rest} :
      operation.Effect before middle answer → Traced middle rest after →
        Traced before ((operation, some answer) :: rest) after

section

variable (calls : Calls β) (adapter : Adapter β)

/-- The world that an operation leaves. -/
def Operation.step (world : World β) (operation : Operation) : World β :=
  match operation.run calls adapter world with
  | .ok _ final => final
  | .error _ final => final

/-- What an operation answers, unless its exception is not caught. -/
def Operation.answer (world : World β) (operation : Operation) : Option Answer :=
  match operation.run calls adapter world with
  | .ok answer _ => some answer
  | .error _ _ => none

/-- The operations of a run, each with its answer. -/
def history : World β → List Operation → List (Operation × Option Answer)
  | _, [] => []
  | world, operation :: rest =>
    (operation, operation.answer calls adapter world) ::
      history (operation.step calls adapter world) rest

end

end Andromeda.Fuse
