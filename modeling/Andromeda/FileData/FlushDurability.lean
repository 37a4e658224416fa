import Andromeda.FileData.OperationProperties
import Andromeda.FileData.Scenario

/-! Durability across failures: as long as a call only throws where the file's state can
be brought back, a later flush that returns has written everything. -/

set_option autoImplicit false

namespace Andromeda.FileData

open Andromeda.Library
open Andromeda.Library.Bytes (byteAt resize overwrite slice)

/-- A write, truncation, eviction or flush of this file. The upload limit and the other
files' queue entries may change in between. -/
def Op.isLocalChange : Op → Bool
  | .writeBytes _ _ | .truncate _ | .flushCache | .evictPage _ | .flushPage _
  | .setUploadMaxBytes _ | .otherManagers _ _ => true
  | _ => false

/-- A local change in which calls throw only where nothing is lost: never while a file
just created still has to be extended, in a write never while an earlier page is
stretched past the file's end, and in a truncation never once the size has changed. -/
structure RecoverableStep (config : Config) (world : World) (action : Op × Env) : Prop where
  localChange : action.1.isLocalChange = true
  settled : SettledFaults config action.2
  write {buffer offset} : action.1 = .writeBytes buffer offset → Guarded config action.2
  truncate {newSize} : action.1 = .truncate newSize → Steady action.2 world

/-- What recoverable steps keep: everything a flush needs to finish the job. -/
structure Durable (config : Config) (world : World) : Prop where
  sound : Sound config world
  agrees : Agrees config world
  settled : Settled config world
  uncached : config.cacheType = .none → Uncached world

section

variable {config : Config} {env : Env} {world after : World} {exception : Exception}

private theorem Changed.durable {content : Bytes} (changed : Changed config content world after)
    (durable : Durable config world) (uncached : config.cacheType = .none → Uncached after) :
    Durable config after :=
  ⟨changed.sound, changed.agrees durable.agrees, changed.settled durable.settled, uncached⟩

private theorem Failed.durable (failed : Failed config env world exception after)
    (faults : SettledFaults config env) (durable : Durable config world)
    (uncached : config.cacheType = .none → Uncached after) : Durable config after :=
  ⟨failed.sound, failed.agrees durable.agrees, failed.settled faults durable.settled, uncached⟩

private theorem durable_flush {concerned : Option Nat} {writes : Bool}
    {computation : Exec Unit} (durable : Durable config world)
    (faults : SettledFaults config env)
    (outcome : Outcome computation world
      (fun _ => Flushed config concerned writes world)
      (Stopped config env concerned writes world)) :
    Outcome computation world (fun _ => Durable config) (fun _ => Durable config) := by
  refine outcome.mono ?_ ?_
  · intro _ final flushed
    exact (flushed.moved.changed (flushed.steps.live durable.sound.live) durable.sound).durable
      durable fun none => (durable.uncached none).steps flushed.steps.file
  · intro exception final stopped
    exact (stopped.threw.failed (stopped.steps.live durable.sound.live) durable.sound).durable
      faults durable fun none => (durable.uncached none).steps stopped.steps.file

private theorem durable_writeBytes (notAppend : config.getWriteMode ≠ .append) {buffer : Bytes}
    {offset : Nat} (durable : Durable config world) (faults : SettledFaults config env)
    (guarded : Guarded config env) :
    Outcome (File.writeBytes config env buffer offset) world (fun _ => Durable config)
      (fun _ => Durable config) := by
  cases cached : config.cacheType with
  | none =>
      refine (File.writeBytes_uncached cached durable.sound (durable.uncached cached)).mono ?_ ?_
      · intro _ final wrote
        exact ⟨wrote.sound, (wrote.content durable.agrees durable.settled).1, wrote.settled,
          fun _ => wrote.uncached⟩
      · rintro exception final ⟨failed, uncached⟩
        exact failed.durable faults durable fun _ => uncached
  | normal =>
      have notNone (none : config.cacheType = .none) (final : World) : Uncached final := by
        rw [cached] at none
        cases none
      refine (File.writeBytes_spec cached durable.sound (fun mode => absurd mode notAppend)
        (fun mode => absurd mode notAppend)).mono ?_ ?_
      · rintro _ final ⟨content, changed, _⟩
        exact changed.durable durable fun none => notNone none final
      · intro exception final threw
        exact (threw.failed guarded).durable faults durable fun none => notNone none final

private theorem durable_truncate {newSize : Nat} (durable : Durable config world)
    (faults : SettledFaults config env) (steady : Steady env world) :
    Outcome (File.truncate config env newSize) world (fun _ => Durable config)
      (fun _ => Durable config) := by
  cases cached : config.cacheType with
  | none =>
      refine ((File.truncate_spec durable.sound newSize).and
        (File.truncate_uncached newSize (durable.uncached cached))).mono ?_ ?_
      · rintro _ final ⟨changed, uncached⟩
        exact changed.durable durable fun _ => uncached
      · rintro exception final ⟨failed, uncached⟩
        exact (failed steady).durable faults durable fun _ => uncached
  | normal =>
      have notNone (none : config.cacheType = .none) (final : World) : Uncached final := by
        rw [cached] at none
        cases none
      refine (File.truncate_spec durable.sound newSize).mono ?_ ?_
      · intro _ final changed
        exact changed.durable durable fun none => notNone none final
      · intro exception final failed
        exact (failed steady).durable faults durable fun none => notNone none final

/-- One step keeps the file durable. -/
theorem durable_step (notAppend : config.getWriteMode ≠ .append) (action : Op × Env)
    (recoverable : RecoverableStep config world action) (durable : Durable config world) :
    Durable config (step config world action) := by
  obtain ⟨op, env⟩ := action
  have faults := recoverable.settled
  apply exitState_of_outcome
  cases op with
  | writeBytes buffer offset =>
      exact outcome_then_pure (durable_writeBytes notAppend durable faults (recoverable.write rfl))
  | truncate newSize =>
      exact outcome_then_pure (durable_truncate durable faults (recoverable.truncate rfl))
  | flushCache =>
      refine outcome_then_pure (@durable_flush config env world none true _ durable faults ?_)
      exact (PageManager.flushPages_spec config env world).mono (fun _ _ result => result.1)
        fun _ _ => id
  | evictPage index =>
      refine outcome_then_pure (@durable_flush config env world none config.randWrite _ durable
        faults ?_)
      exact (@PageManager.evictPage_spec config env world none config.randWrite index id
        (by simp)).mono (fun _ _ result => result.1) fun _ _ => id
  | flushPage index =>
      refine outcome_then_pure (@durable_flush config env world none config.randWrite _ durable
        faults ?_)
      exact (@CacheManager.flushPage_spec config env world index none).mono
        (fun _ _ result => result.1) fun _ _ => id
  | setUploadMaxBytes limit =>
      refine outcome_then_pure (@durable_flush config env world none true _ durable faults ?_)
      exact .of_step (.environment limit world.cacheManager.dirtyLimit world.trace.calls) rfl
  | otherManagers pageQueue dirtyQueue =>
      refine outcome_then_pure (@durable_flush config env world none true _ durable faults ?_)
      exact .of_step (.otherManagers pageQueue dirtyQueue) rfl
  | _ => cases recoverable.localChange

/-- The backend's copy is the file as its readers see it. -/
structure StoredWhole (config : Config) (world : World) : Prop where
  clean : PageManager.Clean world
  existing : world.pageBackend.backendExists = true
  size : world.pageBackend.backendSize = world.pageManager.fileSize
  remote : world.remote = some (world.content config)

theorem Durable.storedWhole {flushed : World} (durable : Durable config world)
    (returned : PageManager.flushPages config env world = .ok () flushed) :
    StoredWhole config flushed := by
  obtain ⟨changed, clean, existing⟩ :=
    (PageManager.flushPages_changed durable.sound).of_ok returned
  obtain ⟨size, remote⟩ := stored_eq_content changed.sound (changed.agrees durable.agrees)
    (changed.settled durable.settled) clean existing
  exact ⟨clean, existing, size, remote⟩

theorem Durable.initial (initial : Initial config world) : Durable config world := by
  obtain ⟨sound, agrees, settled, uncached⟩ := initial.sound
  exact ⟨sound, agrees, settled, uncached⟩

/-- A flush that returns after a recoverable session has made the backend's copy the
file's content. -/
theorem flushPages_storedWhole (config : Config) (notAppend : config.getWriteMode ≠ .append)
    (start : World) (initial : Initial config start) (actions : List (Op × Env))
    (recoverable : EachStep config (RecoverableStep config) start actions) (env : Env)
    (flushed : World)
    (returned : PageManager.flushPages config env (session config start actions) =
      .ok () flushed) : StoredWhole config flushed := by
  have durable : Durable config (session config start actions) :=
    session_preserves (fun _ action => durable_step notAppend action) (.initial initial) recoverable
  exact durable.storedWhole returned

end

namespace Scenario

instance (config : Config) (world : World) : Decidable (Settled config world) :=
  inferInstanceAs (Decidable (_ → _))

/-- A flush whose write fails, after which the next flush writes everything. -/
def failedWrite : List (Op × Env) :=
  [(.writeBytes (bytes 12) 9, env),
    (.flushCache, failing fun world _ => decide (Settled (config .random) world))]

theorem failedWrite_storedWhole :
    StoredWhole (config .random) (exitState (PageManager.flushPages (config .random) env
      (session (config .random) (.existing (bytes 15) (cache 100) 0) failedWrite))) :=
  flushPages_storedWhole (config .random) (by decide) _ (.existing (cache_fresh 100)) failedWrite
    ⟨⟨rfl, fun _ _ fault => (by cases fault), fun _ _ _ fault => (by cases fault),
        fun same => (by cases same)⟩,
      ⟨rfl, fun _ _ fault => of_decide_eq_true fault, fun same => (by cases same),
        fun same => (by cases same)⟩, trivial⟩ env _ (eq_ok (by decide +kernel))

/-- A file truncated before it exists, whose creation succeeds but whose truncation on
the backend fails. -/
def failedExtension : List (Op × Env) :=
  [(.truncate 100, env),
    (.flushCache, failing fun _ call => match call with
      | .truncateFile _ => true
      | _ => false)]

theorem failedExtension_not_storedWhole :
    Initial (config .random) (.pending (cache 100) 0) ∧
      (∀ action ∈ failedExtension, action.1.isLocalChange = true) ∧
      ∃ flushed, PageManager.flushPages (config .random) env
          (session (config .random) (.pending (cache 100) 0) failedExtension) = .ok () flushed ∧
        ¬ StoredWhole (config .random) flushed := by
  refine ⟨.pending (cache_fresh 100) rfl, by decide, _, eq_ok (by decide +kernel), fun whole => ?_⟩
  exact absurd whole.size (by decide +kernel)

end Scenario

end Andromeda.FileData
