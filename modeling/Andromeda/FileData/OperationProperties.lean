import Andromeda.FileData.Session
import Andromeda.FileData.WriteBytesProperties

/-! The operations of a session: what each does to the content and the invariants, and
what they keep when they throw. -/

set_option autoImplicit false

namespace Andromeda.FileData

open Andromeda.Library
open Andromeda.Library.Bytes (byteAt resize overwrite slice)

/-- A condition that holds of every step of a session, in the state it is taken in. -/
def EachStep (config : Config) (Condition : World → Op × Env → Prop) :
    World → List (Op × Env) → Prop
  | _, [] => True
  | world, action :: rest =>
    Condition world action ∧ EachStep config Condition (step config world action) rest

/-- What every step keeps under a condition, a session that meets it keeps. -/
theorem session_preserves {config : Config} {Condition : World → Op × Env → Prop}
    {Invariant : World → Prop} (keep : ∀ world action, Condition world action →
      Invariant world → Invariant (step config world action))
    {world : World} {actions : List (Op × Env)} (start : Invariant world)
    (each : EachStep config Condition world actions) :
    Invariant (session config world actions) := by
  induction actions generalizing world with
  | nil => exact start
  | cons action rest ih => exact ih (keep world action each.1 start) each.2

/-- The state at either exit. -/
theorem exitState_of_outcome {α : Type} {computation : Exec α} {world : World}
    {Property : World → Prop}
    (outcome : Outcome computation world (fun _ => Property) (fun _ => Property)) :
    Property (exitState (computation world)) := by
  unfold Outcome at outcome
  cases result : computation world with
  | ok _ final => simpa only [result, exitState] using outcome
  | error _ final => simpa only [result, exitState] using outcome

/-- Running an operation for its effect. -/
theorem outcome_then_pure {computation : Exec Unit} {world : World} {Returned : World → Prop}
    {Thrown : Exception → World → Prop}
    (outcome : Outcome computation world (fun _ => Returned) Thrown) :
    Outcome (do
      computation
      return ([] : Bytes)) world (fun _ => Returned) Thrown := by
  rw [Outcome.bind_iff]
  exact outcome.mono (fun _ _ => id) fun _ _ => id

section

variable {config : Config} {env : Env} {world : World}

namespace PageManager

theorem evictPage_changed (sound : Sound config world) (index : Nat) :
    Outcome (evictPage config env index) world
      (fun _ => Changed config (world.content config) world) (Failed config env world) := by
  refine (@evictPage_spec config env world none config.randWrite index id (by simp)).mono ?_ ?_
  · rintro _ final ⟨flushed, _⟩
    exact flushed.moved.changed (flushed.steps.live sound.live) sound
  · intro exception final stopped
    exact stopped.threw.failed (stopped.steps.live sound.live) sound

/-- After `FlushPages` the file exists and no page is dirty. -/
theorem flushPages_changed (sound : Sound config world) :
    Outcome (flushPages config env) world
      (fun _ final => Changed config (world.content config) world final ∧ Clean final ∧
        final.pageBackend.backendExists = true)
      (Failed config env world) := by
  refine (flushPages_spec config env world).mono ?_ ?_
  · rintro _ final ⟨flushed, clean, existing, _⟩
    exact ⟨flushed.moved.changed (flushed.steps.live sound.live) sound, clean, existing⟩
  · intro exception final stopped
    exact stopped.threw.failed (stopped.steps.live sound.live) sound

end PageManager

theorem CacheManager.flushPage_changed (sound : Sound config world) (index : Nat) :
    Outcome (CacheManager.flushPage config env index) world
      (fun _ => Changed config (world.content config) world) (Failed config env world) := by
  refine (@CacheManager.flushPage_spec config env world index none).mono ?_ ?_
  · rintro _ final ⟨flushed, _⟩
    exact flushed.moved.changed (flushed.steps.live sound.live) sound
  · intro exception final stopped
    exact stopped.threw.failed (stopped.steps.live sound.live) sound

theorem File.truncate_spec (sound : Sound config world) (newSize : Nat) :
    Outcome (File.truncate config env newSize) world
      (fun _ => Changed config (resize (world.content config) newSize) world)
      (fun exception final => Steady env world → Failed config env world exception final) := by
  simp only [File.truncate, Outcome.ite_iff, Outcome.throw_iff]
  refine ⟨fun _ _ => Failed.unchanged sound rfl, fun _ => ⟨fun _ _ =>
    Failed.unchanged sound rfl, fun _ => ?_⟩⟩
  exact (PageManager.truncate_spec newSize sound).mono (fun _ _ => id)
    fun _ _ threw => threw.failed

end

/-- A flushed file is stored as its readers see it. -/
theorem stored_eq_content {config : Config} {world : World} (sound : Sound config world)
    (agrees : Agrees config world) (settled : Settled config world) (clean : PageManager.Clean world)
    (existing : world.pageBackend.backendExists = true) :
    world.pageBackend.backendSize = world.pageManager.fileSize ∧
      world.remote = some (world.content config) := by
  have nothingDirty : PageManager.maxDirty config world.pageManager.pages ≤ 0 := by
    refine PageManager.maxDirty_le_iff.mpr fun index page found dirty => ?_
    rw [clean index page found] at dirty
    cases dirty
  have size : world.pageBackend.backendSize = world.pageManager.fileSize := by
    have reached := settled existing
    have inside := sound.shaped.backend
    omega
  refine ⟨size, ?_⟩
  have isSome := agrees.exists_eq
  rw [existing] at isSome
  obtain ⟨data, remote⟩ := Option.isSome_iff_exists.mp isSome.symm
  have stored : world.stored = data := by rw [World.stored, remote, Option.getD_some]
  rw [remote, ← stored]
  congr 1
  refine Bytes.ext_byteAt ?_ fun position => ?_
  · rw [World.length_content, ← agrees.size_eq, size]
  · rw [agrees.byteAt_content sound]
    obtain ⟨index, place, onPage, rfl⟩ := config.exists_page position
    rw [World.byte_page onPage]
    cases found : world.pageManager.pages.find? index with
    | none => rw [World.cell_uncached found]
    | some page =>
        rw [World.cell_cached found]
        exact ((agrees.page found).clean (clean index page found) (by simp) onPage).symm

/-- An uncached file is on the backend and has no pages. -/
structure Uncached (world : World) : Prop where
  existing : world.pageBackend.backendExists = true
  noPages : ∀ index, world.pageManager.pages.find? index = none

private theorem sound_noPages {config : Config} {world : World}
    (noPages : ∀ index, world.pageManager.pages.find? index = none)
    (ownPages : CacheManager.own world.cacheManager.pageQueue = [])
    (ownDirty : CacheManager.own world.cacheManager.dirtyQueue = [])
    (backend : world.pageBackend.backendSize ≤ world.pageManager.fileSize)
    (pending : world.pageBackend.backendExists = false → world.pageBackend.backendSize = 0) :
    Sound config world where
  shaped := by
    refine ⟨fun found => ?_, backend, pending⟩
    rw [noPages] at found
    cases found
  live := by
    have none {queue : List PageInfo} (empty : CacheManager.own queue = []) {info : PageInfo}
        (member : info ∈ queue) (isOwn : info.manager = ownManager) : False := by
      have own : info ∈ CacheManager.own queue := CacheManager.mem_own.mpr ⟨member, isOwn⟩
      rw [empty] at own
      cases own
    exact ⟨⟨fun member isOwn => (none ownPages member isOwn).elim,
      fun member isOwn => (none ownPages member isOwn).elim⟩,
      ⟨fun member isOwn => (none ownDirty member isOwn).elim,
        fun member isOwn => (none ownDirty member isOwn).elim⟩⟩
  queued _ index page found := by
    rw [noPages] at found
    cases found

/-- A file begins sound, agrees with the backend and has nothing to be extended. -/
theorem Initial.sound {config : Config} {world : World} (initial : Initial config world) :
    Sound config world ∧ Agrees config world ∧ Settled config world ∧
      (config.cacheType = .none → Uncached world) := by
  have empty (index : Nat) : (KeyMap.empty : PageMap).find? index = none := rfl
  cases initial with
  | existing fresh =>
      refine ⟨sound_noPages empty fresh.ownPages fresh.ownDirty (Nat.le_refl _) (by
        intro missing; cases missing), ⟨rfl, rfl, fun found => ?_⟩, fun _ => Nat.le_max_left _ _,
        fun _ => ⟨rfl, empty⟩⟩
      cases found
  | pending fresh normal =>
      refine ⟨sound_noPages empty fresh.ownPages fresh.ownDirty (Nat.le_refl _) fun _ => rfl,
        ⟨rfl, rfl, fun found => ?_⟩, fun existing => ?_, fun uncached => ?_⟩
      · cases found
      · cases existing
      · rw [normal] at uncached
        cases uncached

section

variable {config : Config} {env : Env} {world after : World}

/-- Without a page nothing is queued or flushed, so a file stays uncached. -/
theorem Uncached.steps {concerned : Option Nat} (uncached : Uncached world)
    (steps : FileSteps config concerned world after) : Uncached after where
  existing := steps.exists_mono uncached.existing
  noPages index := by
    cases found : after.pageManager.pages.find? index with
    | none => rfl
    | some page =>
        obtain ⟨old, foundOld, _⟩ := steps.pagesShrink _ _ found
        rw [uncached.noPages] at foundOld
        cases foundOld

private theorem Uncached.entries (uncached : Uncached world) :
    world.pageManager.pages.entries = [] := by
  refine List.eq_nil_iff_forall_not_mem.mpr fun entry member => ?_
  exact KeyMap.find?_eq_none_iff.mp (uncached.noPages entry.1) entry.2 member

private theorem Uncached.live {stale : Option Nat} (uncached : Uncached world)
    (live : Live config stale world)
    (cacheManager : after.cacheManager = world.cacheManager) : Live config none after := by
  have kept {queue : List PageInfo} (live : QueueLive config stale queue world.pageManager.pages) :
      QueueLive config none queue after.pageManager.pages := by
    refine ⟨live.cacheMgr, fun member isOwn => ?_⟩
    obtain ⟨page, found, _⟩ := live.cached member isOwn
    rw [uncached.noPages] at found
    cases found
  exact ⟨cacheManager ▸ kept live.pageQueue, cacheManager ▸ kept live.dirtyQueue⟩

/-- What an uncached write leaves. -/
structure WroteThrough (config : Config) (buffer : Bytes) (offset : Nat) (before after : World) :
    Prop where
  sound : Sound config after
  uncached : Uncached after
  threads : SameThreads before after
  settled : Settled config after
  fileSize : after.pageManager.fileSize =
    max before.pageManager.fileSize (offset + buffer.length)
  content : Agrees config before → Settled config before → Agrees config after ∧
    after.content config = overwrite (before.content config) offset buffer

namespace File

private theorem content_uncached (uncached : Uncached world) (sound : Sound config world)
    (agrees : Agrees config world) (settled : Settled config world) :
    world.pageBackend.backendSize = world.pageManager.fileSize ∧
      world.content config = world.stored := by
  have clean : PageManager.Clean world := by
    intro index page found
    rw [uncached.noPages] at found
    cases found
  obtain ⟨size, remote⟩ := stored_eq_content sound agrees settled clean uncached.existing
  exact ⟨size, by rw [World.stored, remote, Option.getD_some]⟩

private theorem remoteChanged_uncached (uncached : Uncached world) (backendSize : Nat) :
    Outcome (PageManager.remoteChanged config backendSize) world
      (fun _ final => final = { world with
        pageManager := { world.pageManager with
          pages := world.pageManager.pages.filter fun _ page => page.dirty
          fileSize := backendSize }
        pageBackend := { world.pageBackend with backendSize } })
      (fun _ _ => False) := by
  have entries := uncached.entries
  simp only [PageManager.remoteChanged, Outcome.bind_iff, Outcome.get_iff, uncached.existing,
    if_true, Outcome.set_iff, entries, List.filter_nil, List.map_nil, List.foldl_nil]
  simp [PageManager.maxDirty, KeyMap.filter, entries]

private theorem writeThrough_spec {buffer : Bytes} {offset : Nat} (sound : Sound config world)
    (uncached : Uncached world) :
    Outcome (writeThrough config env buffer offset) world
      (fun _ => WroteThrough config buffer offset world)
      (fun exception final => Failed config env world exception final ∧ Uncached final) := by
  simp only [writeThrough, Outcome.bind_iff, Outcome.get_iff, Outcome.ite_iff, Outcome.throw_iff]
  refine ⟨fun _ => ⟨Failed.unchanged sound rfl, uncached⟩, fun _ => ?_⟩
  refine (Backend.writeFile_spec offset buffer).mono ?_ ?_
  · rintro _ written rfl
    have stays : Uncached { (world.arrived (env.uploadLimit world)).request
        (.writeFile offset buffer world.stored.length) with
          remote := some (overwrite world.stored offset buffer) } :=
      ⟨uncached.existing, uncached.noPages⟩
    refine (remoteChanged_uncached stays _).mono ?_ fun _ _ => False.elim
    rintro _ final same
    have noPages : ∀ index, final.pageManager.pages.find? index = none := by
      intro index
      rw [same]
      refine KeyMap.find?_eq_none_iff.mpr fun page member => ?_
      have member : (index, page) ∈ world.pageManager.pages.entries :=
        (List.mem_filter.mp member).1
      rw [uncached.entries] at member
      cases member
    have existing : final.pageBackend.backendExists = true := by rw [same]; exact uncached.existing
    have fileSize : final.pageManager.fileSize =
        max world.pageManager.fileSize (offset + buffer.length) := by rw [same]
    have backendSize : final.pageBackend.backendSize = final.pageManager.fileSize := by rw [same]
    have remote : final.remote = some (overwrite world.stored offset buffer) := by rw [same]
    have stored : final.stored = overwrite world.stored offset buffer := by
      rw [World.stored, remote, Option.getD_some]
    have live : Live config none final := uncached.live sound.live (by rw [same]; exact rfl)
    have soundFinal : Sound config final := by
      refine ⟨⟨fun found => ?_, Nat.le_of_eq backendSize, fun missing => ?_⟩, live,
        fun _ index page found => ?_⟩
      · rw [noPages] at found
        cases found
      · rw [existing] at missing
        cases missing
      · rw [noPages] at found
        cases found
    have settled : Settled config final := by
      intro _
      rw [backendSize]
      exact Nat.le_max_left _ _
    refine ⟨soundFinal, ⟨existing, noPages⟩, by rw [same]; exact ⟨rfl, rfl, rfl, rfl⟩, settled,
      fileSize, fun agrees settledBefore => ?_⟩
    obtain ⟨sizeBefore, contentBefore⟩ := content_uncached uncached sound agrees settledBefore
    have agreesFinal : Agrees config final := by
      refine ⟨by rw [existing, remote]; rfl, ?_, fun found => ?_⟩
      · rw [backendSize, stored, fileSize, Bytes.length_overwrite, ← agrees.size_eq, sizeBefore,
          Nat.max_comm]
      · rw [noPages] at found
        cases found
    refine ⟨agreesFinal, ?_⟩
    rw [(content_uncached ⟨existing, noPages⟩ soundFinal agreesFinal settled).2, stored,
      contentBefore]
  · rintro exception final ⟨rfl, arrived, stop, call, fault, stopped⟩
    have moved : Moved config none world (world.arrived (env.uploadLimit world)) :=
      (Flushed.of_step (@FlushStep.arrived config none true world _) rfl).moved
    rw [← arrived] at moved
    have live : Live config none final := by
      rw [arrived]
      exact ⟨sound.live.pageQueue, sound.live.dirtyQueue⟩
    exact ⟨Threw.failed ⟨rfl, moved.steps, stop, call, fault, stopped⟩ live sound,
      uncached.steps moved.steps⟩

theorem writeBytes_uncached {buffer : Bytes} {offset : Nat} (none : config.cacheType = .none)
    (sound : Sound config world) (uncached : Uncached world) :
    Outcome (writeBytes config env buffer offset) world
      (fun _ => WroteThrough config buffer offset world)
      (fun exception final => Failed config env world exception final ∧ Uncached final) := by
  rw [writeBytes, writeBytesAt]
  simp only [Outcome.ite_iff, Outcome.throw_iff]
  exact ⟨fun _ => ⟨Failed.unchanged sound rfl, uncached⟩, fun _ =>
    ⟨fun _ => writeThrough_spec sound uncached, fun cached => absurd none cached⟩⟩

theorem truncate_uncached (newSize : Nat) (uncached : Uncached world) :
    Outcome (truncate config env newSize) world (fun _ => Uncached) (fun _ => Uncached) := by
  simp only [truncate, Outcome.ite_iff, Outcome.throw_iff]
  refine ⟨fun _ => uncached, fun _ => ⟨fun _ => uncached, fun _ => ?_⟩⟩
  simp only [PageManager.truncate, Outcome.bind_iff, Outcome.get_iff, Outcome.modify_iff]
  refine (@PageManager.recut_spec config _ _ newSize).mono ?_ ?_
  · intro _ middle recut
    have noPages : ∀ index, (middle.sized newSize).pageManager.pages.find? index = none := by
      rw [recut.pages]
      exact uncached.noPages
    have entries : (middle.sized newSize).pageManager.pages.entriesFrom 0 = [] :=
      List.eq_nil_iff_forall_not_mem.mpr fun entry member => by
        have found := (KeyMap.mem_entriesFrom.mp member).2
        rw [noPages] at found
        cases found
    refine (PageManager.truncateLoop_done _ entries).mono ?_ fun _ _ => False.elim
    rintro _ final rfl
    exact ⟨recut.exists_eq.trans uncached.existing, noPages⟩
  · rintro exception final ⟨_, rfl, _⟩
    exact ⟨uncached.existing, uncached.noPages⟩

end File

end

end Andromeda.FileData
