import Andromeda.FileData.GetPageWriteProperties

/-! The logical content of a file, byte by byte, and what an operation of the file
does to it. -/

set_option autoImplicit false

namespace Andromeda.FileData

open Andromeda.Library
open Andromeda.Library.Bytes (byteAt resize overwrite slice)

/-- The byte a reader sees at a position of the file. -/
def World.byte (config : Config) (world : World) (position : Nat) : UInt8 :=
  world.cell config (position / config.pageSize) (position % config.pageSize)

/-- The stored bytes are what the client takes them for, and the pages agree. -/
abbrev Agrees (config : Config) (world : World) : Prop :=
  Stored config world.pageManager.fileSize none world

/-- What holds of an open file between its operations. -/
structure Sound (config : Config) (world : World) : Prop where
  shaped : Shaped config world.pageManager.fileSize world
  live : Live config none world
  queued : Queued config world.pageManager.fileSize world

section

variable {config : Config} {world : World}

theorem World.byte_page {index place : Nat} (onPage : place < config.pageSize) :
    world.byte config (index * config.pageSize + place) = world.cell config index place := by
  have divided : (index * config.pageSize + place) / config.pageSize = index := by
    rw [Nat.mul_comm, Nat.mul_add_div config.pageSize_pos, Nat.div_eq_of_lt onPage, Nat.add_zero]
  have remainder : (index * config.pageSize + place) % config.pageSize = place := by
    rw [Nat.mul_comm, Nat.mul_add_mod, Nat.mod_eq_of_lt onPage]
  rw [World.byte, divided, remainder]

/-- A position is a place of a page. -/
theorem Config.exists_page (config : Config) (position : Nat) :
    ∃ index place, place < config.pageSize ∧ position = index * config.pageSize + place :=
  ⟨_, _, Nat.mod_lt position config.pageSize_pos, (Nat.div_add_mod' position _).symm⟩

/-- Past the end of the file there is nothing. -/
theorem World.byte_past {bound : Nat} {exempt : Option Nat}
    (stored : Stored config bound exempt world) (backend : world.pageBackend.backendSize ≤ bound)
    {position : Nat} (past : bound ≤ position) : world.byte config position = 0 := by
  obtain ⟨index, place, onPage, rfl⟩ := config.exists_page position
  rw [World.byte_page onPage]
  cases found : world.pageManager.pages.find? index with
  | some page =>
      rw [World.cell_cached found]
      exact (stored.page found).tail past
  | none =>
      rw [World.cell_uncached found]
      apply Bytes.byteAt_of_length_le
      rw [← stored.size_eq]
      exact Nat.le_trans backend past

theorem Agrees.byteAt_content (agrees : Agrees config world) (sound : Sound config world)
    (position : Nat) : byteAt (world.content config) position = world.byte config position := by
  rw [World.byteAt_content]
  split
  · rfl
  · next past => exact (World.byte_past agrees sound.shaped.backend (Nat.le_of_not_lt past)).symm

end

/-- The fetches and what is known of them stay as they are. -/
structure SameThreads (before after : World) : Prop where
  fetchSize : after.pageManager.fetchSize = before.pageManager.fetchSize
  pendingPages : after.pageManager.pendingPages = before.pageManager.pendingPages
  failedPages : after.pageManager.failedPages = before.pageManager.failedPages
  fetchThreads : after.fetchThreads = before.fetchThreads

/-- An operation that returned, and the content it left. -/
structure Changed (config : Config) (content : Bytes) (before after : World) : Prop where
  sound : Sound config after
  threads : SameThreads before after
  fileSize : after.pageManager.fileSize = content.length
  agrees : Agrees config before → Agrees config after
  content : Agrees config before → after.content config = content
  settled : Settled config before → Settled config after

/-- The environment throws only where nothing is left to extend the file. -/
def SettledFaults (config : Config) (env : Env) : Prop :=
  ∀ world call, env.fault world call = true → Settled config world

/-- An operation that threw. -/
structure Failed (config : Config) (env : Env) (before : World) (exception : Exception)
    (after : World) : Prop where
  thrown : exception.isThrown = true
  threads : SameThreads before after
  sound : Sound config after
  agrees : Agrees config before → Agrees config after
  settled : SettledFaults config env → Settled config before → Settled config after

section

variable {config : Config} {env : Env} {before middle after : World} {exception : Exception}

theorem SameFetches.threads (fetches : SameFetches before after) : SameThreads before after :=
  ⟨fetches.fetchSize, fetches.pendingPages, fetches.failedPages, fetches.fetchThreads⟩

theorem SameThreads.refl (world : World) : SameThreads world world := ⟨rfl, rfl, rfl, rfl⟩

theorem SameThreads.trans (left : SameThreads before middle) (right : SameThreads middle after) :
    SameThreads before after :=
  ⟨right.fetchSize.trans left.fetchSize, right.pendingPages.trans left.pendingPages,
    right.failedPages.trans left.failedPages, right.fetchThreads.trans left.fetchThreads⟩

theorem Changed.refl (sound : Sound config before) :
    Changed config (before.content config) before before :=
  ⟨sound, .refl _, by simp, id, fun _ => rfl, id⟩

/-- Two changes, the second of the content the first one left. -/
theorem Changed.trans {content : Bytes} {change : Bytes → Bytes}
    (left : Changed config content before middle)
    (right : Changed config (change (middle.content config)) middle after)
    (length : ∀ old : Bytes, old.length = content.length →
      (change old).length = (change content).length) :
    Changed config (change content) before after where
  sound := right.sound
  threads := left.threads.trans right.threads
  fileSize := right.fileSize.trans (length _ (by simp [left.fileSize]))
  agrees agrees := right.agrees (left.agrees agrees)
  content agrees := by rw [right.content (left.agrees agrees), left.content agrees]
  settled settled := right.settled (left.settled settled)

theorem Changed.then_failed {content : Bytes} (left : Changed config content before middle)
    (right : Failed config env middle exception after) :
    Failed config env before exception after :=
  ⟨right.thrown, left.threads.trans right.threads, right.sound,
    fun agrees => right.agrees (left.agrees agrees),
    fun faults settled => right.settled faults (left.settled settled)⟩

/-- What a flush or an eviction leaves of an open file. -/
theorem FileSteps.sound {concerned : Option Nat} (steps : FileSteps config concerned before after)
    (live : Live config none after) (sound : Sound config before) : Sound config after := by
  have shaped := steps.shaped sound.shaped (Nat.le_refl _)
  have queued := steps.queued sound.shaped (Nat.le_refl _) sound.queued
  rw [← steps.fileSize] at shaped queued
  exact ⟨shaped, live, queued⟩

theorem FileSteps.agrees {concerned : Option Nat} (steps : FileSteps config concerned before after)
    (sound : Sound config before) (agrees : Agrees config before) : Agrees config after := by
  have stored := steps.stored sound.shaped (Nat.le_refl _) agrees
  rwa [← steps.fileSize] at stored

theorem FileSteps.content {concerned : Option Nat} (steps : FileSteps config concerned before after)
    (sound : Sound config before) (agrees : Agrees config before) :
    after.content config = before.content config := by
  unfold World.content
  rw [steps.fileSize]
  refine List.map_congr_left fun position _ => ?_
  exact steps.cell sound.shaped (Nat.le_refl _) agrees (fun _ _ => by simp)
    (Nat.mod_lt _ config.pageSize_pos)

/-- A flush or an eviction changes no content. -/
theorem Moved.changed {concerned : Option Nat} (moved : Moved config concerned before after)
    (live : Live config none after) (sound : Sound config before) :
    Changed config (before.content config) before after where
  sound := moved.steps.sound live sound
  threads := moved.steps.sameFetches.threads
  fileSize := by simp [moved.steps.fileSize]
  agrees := moved.steps.agrees sound
  content := moved.steps.content sound
  settled settled := moved.settled sound.shaped (Nat.le_refl _) settled

/-- A flush or an eviction that threw. -/
theorem Threw.failed {concerned : Option Nat}
    (threw : Threw config env concerned before exception after) (live : Live config none after)
    (sound : Sound config before) : Failed config env before exception after where
  thrown := threw.thrown
  threads := threw.steps.sameFetches.threads
  sound := threw.steps.sound live sound
  agrees := threw.steps.agrees sound
  settled faults _ := by
    obtain ⟨stop, call, fault, rfl⟩ := threw.fault
    exact faults stop call fault

theorem Undone.failed (undone : Undone config env before after)
    (thrown : exception.isThrown = true) : Failed config env before exception after where
  thrown := thrown
  threads := undone.fetches.threads
  sound := by
    have shaped := undone.shaped
    have queued := undone.queued
    rw [← undone.fetches.fileSize] at shaped queued
    exact ⟨shaped, undone.live, queued⟩
  agrees agrees := by
    have stored := undone.stored agrees
    rwa [← undone.fetches.fileSize] at stored
  settled := undone.settled

/-- An operation that threw, where a write may have to be undone. -/
structure Interrupted (config : Config) (env : Env) (before : World) (exception : Exception)
    (after : World) : Prop where
  fault : Agrees config before → ∃ world call, env.fault world call = true
  failed : Guarded config env → Failed config env before exception after

theorem Changed.then_interrupted {content : Bytes} (left : Changed config content before middle)
    (right : Interrupted config env middle exception after) :
    Interrupted config env before exception after :=
  ⟨fun agrees => right.fault (left.agrees agrees),
    fun guarded => left.then_failed (right.failed guarded)⟩

theorem PageWriteThrew.interrupted (threw : PageWriteThrew config env before exception after)
    (sound : Sound config before) : Interrupted config env before exception after where
  fault agrees := by
    rcases threw.fault with fault | short
    · exact fault
    · rw [← agrees.size_eq] at short
      exact absurd short (Nat.lt_irrefl _)
  failed guarded := (threw.undone guarded sound.queued).failed threw.thrown

end

end Andromeda.FileData
