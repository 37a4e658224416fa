import Mathlib.Logic.Basic

/-! The life of an adapter, with libfuse 3, that is started once and whose FUSE loop has a thread of
its own: `StartFuse` waits for it, and the destructor ends it. What happens under the mutex of the
initialization is one step. A step that is not to be had yet does nothing. -/

set_option autoImplicit false

namespace Andromeda.Fuse

/-- Where the thread of `FuseMain` is: in a call that may fail, or in a destructor, with whether an
exception is on its way. -/
inductive FusePlace where
  | notStarted
  /-- In `FuseArguments`. -/
  | arguments
  /-- In `fuse_new`. -/
  | context
  /-- In `fuse_mount`. -/
  | mount
  /-- At the end of the constructor of `FuseMount`. -/
  | register
  /-- In `fuse_loop` or `fuse_loop_mt`. -/
  | loop
  /-- In `~FuseMount`, before `mFuseMount` is cleared. -/
  | unregister (thrown : Bool)
  /-- In `fuse_unmount`. -/
  | unmount (thrown : Bool)
  /-- In `fuse_destroy`. -/
  | destroy (thrown : Bool)
  | caught
  /-- Before the last `SignalInit`. -/
  | signal
  | finished
  deriving DecidableEq

/-- Where the thread that owns the adapter is. -/
inductive OwnerPlace where
  /-- Before `StartFuse`. -/
  | constructed
  /-- At the condition of the wait. -/
  | checking
  | waiting
  /-- After the wait. -/
  | checkError
  /-- In the join before the exception is thrown again. -/
  | joinError
  | returned
  | thrown
  /-- In `~FuseAdapter`, before it looks at `mFuseMount`. -/
  | destructor
  /-- In `TriggerUnmount` of the mount that was there, before `fuse_exit`. -/
  | trigger
  /-- In `TriggerUnmount`, before `TrySystemUnmount`. -/
  | systemUnmount
  | join
  /-- In `FlushCache`. -/
  | flush
  | gone
  deriving DecidableEq

/-- The fields of an adapter that its threads share, and what they have of the FUSE library. -/
structure FuseAdapter where
  owner : OwnerPlace
  fuse : FusePlace
  initialized : Bool
  initError : Bool
  /-- Whether `mFuseMount` is set. -/
  fuseMount : Bool
  /-- Whether there is a `FuseContext`. -/
  context : Bool
  /-- Whether there is a `FuseMount`. -/
  mounted : Bool
  /-- The operations that the loop is running. -/
  operations : Nat
  /-- Whether `fuse_exit` told the loop to stop. -/
  exit : Bool
  /-- Whether an operation has ended since then: only there the loop looks. -/
  woken : Bool
  /-- Whether the file system is not mounted any more, so that the loop reads no further. -/
  unmounted : Bool
  /-- Whether the system unmount failed. -/
  unmountFailed : Bool
  /-- Whether `TriggerUnmount` was called when `mFuseMount` was not set any more. -/
  danglingExit : Bool
  /-- Whether `TriggerUnmount` has read the adapter and the path of a mount that was gone. -/
  danglingUnmount : Bool
  deriving DecidableEq

namespace FuseAdapter

inductive Action where
  /-- The next step of the owner, and whether the system unmount it makes fails. -/
  | owner (fails : Bool)
  /-- The owner wakes up without a notification. -/
  | wake
  /-- The next step of the FUSE thread, and whether the call it is in fails. -/
  | fuse (fails : Bool)
  /-- The `init` operation, up to its end. -/
  | init
  | beginOperation
  | endOperation
  /-- Someone else unmounts the file system. -/
  | unmounted
  deriving DecidableEq

def init : FuseAdapter where
  owner := .constructed
  fuse := .notStarted
  initialized := false
  initError := false
  fuseMount := false
  context := false
  mounted := false
  operations := 0
  exit := false
  woken := false
  unmounted := false
  unmountFailed := false
  danglingExit := false
  danglingUnmount := false

variable (adapter : FuseAdapter)

/-- `SignalInit`. -/
def signalInit : FuseAdapter :=
  { adapter with
    initialized := true
    owner := if adapter.owner = .waiting then .checking else adapter.owner }

/-- A step of `FuseMain`. -/
def fuseStep (fails : Bool) : FuseAdapter :=
  match adapter.fuse with
  | .notStarted => adapter
  | .arguments => { adapter with fuse := if fails then .caught else .context }
  | .context =>
    if fails then { adapter with fuse := .caught }
    else { adapter with fuse := .mount, context := true }
  | .mount =>
    if fails then { adapter with fuse := .destroy true }
    else { adapter with fuse := .register, mounted := true }
  | .register => { adapter with fuse := .loop, fuseMount := true }
  | .loop =>
    -- without an event the loop stays in its read
    if adapter.operations = 0 ∧ (fails ∨ adapter.unmounted ∨ adapter.woken) then
      { adapter with fuse := .unregister fails }
    else adapter
  | .unregister thrown => { adapter with fuse := .unmount thrown, fuseMount := false }
  | .unmount thrown => { adapter with fuse := .destroy thrown, mounted := false }
  | .destroy thrown =>
    { adapter with fuse := if thrown then .caught else .signal, context := false }
  | .caught => { adapter with fuse := .signal, initError := true }
  | .signal => { adapter.signalInit with fuse := .finished }
  | .finished => adapter

/-- A step of `StartFuse`, and then of `~FuseAdapter`. -/
def ownerStep (fails : Bool) : FuseAdapter :=
  match adapter.owner with
  | .constructed => { adapter with owner := .checking, fuse := .arguments }
  | .checking => { adapter with owner := if adapter.initialized then .checkError else .waiting }
  | .waiting => adapter
  | .checkError => { adapter with owner := if adapter.initError then .joinError else .returned }
  | .joinError => if adapter.fuse = .finished then { adapter with owner := .thrown } else adapter
  | .returned => { adapter with owner := .destructor }
  | .thrown => { adapter with owner := .destructor }
  | .destructor => { adapter with owner := if adapter.fuseMount then .trigger else .join }
  | .trigger =>
    -- `mFuseMount` is read once more for the call
    if adapter.fuseMount then { adapter with owner := .systemUnmount, exit := true }
    else { adapter with owner := .systemUnmount, danglingExit := true }
  | .systemUnmount =>
    if !adapter.mounted then { adapter with owner := .join, danglingUnmount := true }
    else if fails then { adapter with owner := .join, unmountFailed := true }
    else { adapter with owner := .join, unmounted := true }
  | .join => if adapter.fuse = .finished then { adapter with owner := .flush } else adapter
  | .flush => { adapter with owner := .gone }
  | .gone => adapter

def step : Action → FuseAdapter
  | .owner fails => adapter.ownerStep fails
  | .wake => if adapter.owner = .waiting then { adapter with owner := .checking } else adapter
  | .fuse fails => adapter.fuseStep fails
  | .init =>
    if adapter.fuse = .loop then
      { adapter.signalInit with operations := adapter.operations + 1 }
    else adapter
  | .beginOperation =>
    if adapter.fuse = .loop then { adapter with operations := adapter.operations + 1 } else adapter
  | .endOperation =>
    if adapter.operations = 0 then adapter
    else { adapter with
      operations := adapter.operations - 1
      woken := adapter.exit }
  | .unmounted => if adapter.mounted then { adapter with unmounted := true } else adapter

/-- Any interleaving of the steps. -/
def run (actions : List Action) : FuseAdapter := actions.foldl step adapter

end FuseAdapter

end Andromeda.Fuse
