import Andromeda.FileData.ReportProperties
import Andromeda.FileData.WriteBytesProperties

/-! `FixPageAlignment`: in append mode a write through to the backend comes before the
pages, if the backend does not end at a page boundary. -/

set_option autoImplicit false

namespace Andromeda.FileData

open Andromeda.Library
open Andromeda.Library.Bytes (byteAt resize overwrite slice)

/-- The bytes `FixPageAlignment` writes through, with the zeros of a hole first. -/
def alignmentSize (config : Config) (backendSize offset length : Nat) : Nat :=
  min (offset + length - backendSize) (config.pageSize - backendSize % config.pageSize)

/-- The zeros among them. -/
def alignmentZeros (config : Config) (backendSize offset length : Nat) : Nat :=
  min (offset - backendSize) (alignmentSize config backendSize offset length)

/-- The buffer bytes among them. -/
def alignmentUsed (config : Config) (backendSize offset length : Nat) : Nat :=
  if alignmentZeros config backendSize offset length <
      alignmentSize config backendSize offset length then
    alignmentSize config backendSize offset length -
      alignmentZeros config backendSize offset length
  else 0

/-- The bytes written through. -/
def alignmentData (config : Config) (backendSize offset : Nat) (buffer : Bytes) : Bytes :=
  List.replicate (alignmentZeros config backendSize offset buffer.length) 0 ++
    buffer.take (alignmentUsed config backendSize offset buffer.length)

/-- The write has reached the backend. -/
def World.wroteThrough (world : World) (env : Env) (offset : Nat) (data : Bytes) : World :=
  { (world.arrived (env.uploadLimit world)).request
      (.writeFile offset data world.stored.length) with
    remote := some (overwrite world.stored offset data) }

section

variable {config : Config} {env : Env} {world : World} {buffer : Bytes} {offset : Nat}

private theorem alignmentUsed_eq (config : Config) (backendSize offset length : Nat) :
    alignmentUsed config backendSize offset length =
      alignmentSize config backendSize offset length -
        alignmentZeros config backendSize offset length := by
  unfold alignmentUsed
  split <;> omega

namespace File

private theorem fixPageAlignment_eq (config : Config) (env : Env) (buffer : Bytes) (offset : Nat) :
    fixPageAlignment config env buffer offset = (do
      let backendSize := (← get).pageBackend.backendSize
      if backendSize % config.pageSize = 0 then return 0
      else
        Backend.writeFile env backendSize (alignmentData config backendSize offset buffer)
        PageManager.remoteChanged config
          (backendSize + alignmentSize config backendSize offset buffer.length)
        return alignmentUsed config backendSize offset buffer.length) := rfl

private theorem fixPageAlignment_spec (existing : world.pageBackend.backendExists = true)
    (unaligned : world.pageBackend.backendSize % config.pageSize ≠ 0) :
    Outcome (fixPageAlignment config env buffer offset) world
      (fun used final =>
        used = alignmentUsed config world.pageBackend.backendSize offset buffer.length ∧
        PageManager.Reported config (world.pageBackend.backendSize +
            alignmentSize config world.pageBackend.backendSize offset buffer.length)
          (world.wroteThrough env world.pageBackend.backendSize
            (alignmentData config world.pageBackend.backendSize offset buffer)) final)
      (fun exception final => exception = .backend ∧
        final = world.arrived (env.uploadLimit world) ∧
        ∃ stop call, env.fault stop call = true ∧ final = stop.called) := by
  simp only [fixPageAlignment_eq, Outcome.bind_iff, Outcome.get_iff, unaligned, if_false,
    Outcome.pure_iff]
  refine (Backend.writeFile_spec _ _).mono ?_ fun _ _ => id
  rintro _ _ rfl
  exact (@PageManager.remoteChanged_spec config (world.wroteThrough env _ _) _ existing).mono
    (fun _ _ reported => ⟨trivial, reported⟩) fun _ _ => False.elim

end File

private theorem aligned_end {backendSize length : Nat} (_after : backendSize ≤ offset)
    (size : alignmentSize config backendSize offset length =
      config.pageSize - backendSize % config.pageSize) :
    (backendSize + alignmentSize config backendSize offset length) % config.pageSize = 0 := by
  have parts := Nat.div_add_mod backendSize config.pageSize
  have small := Nat.mod_lt backendSize config.pageSize_pos
  have ended : backendSize + alignmentSize config backendSize offset length =
      config.pageSize * (backendSize / config.pageSize) + config.pageSize := by omega
  rw [ended, Nat.add_mod_right, Nat.mul_mod_right]

private theorem Sound.wroteThrough (sound : Sound config world) {data : Bytes} :
    Sound config (world.wroteThrough env offset data) :=
  ⟨⟨sound.shaped.page, sound.shaped.backend, sound.shaped.pending⟩,
    ⟨sound.live.pageQueue, sound.live.dirtyQueue⟩, sound.queued⟩

/-- The file is sound, and its fetches are as before. -/
structure Held (config : Config) (before after : World) : Prop where
  sound : Sound config after
  threads : SameThreads before after

/-- A write through for alignment leaves no dirty page short. -/
def AlignmentCovers (config : Config) (world : World) (offset length : Nat) : Prop :=
  config.getWriteMode = .append → world.pageBackend.backendExists = true →
    world.pageBackend.backendSize % config.pageSize ≠ 0 →
    Covers config world (world.pageBackend.backendSize +
      alignmentSize config world.pageBackend.backendSize offset length)

namespace File

private theorem alignedRest_held {middle : World} (normal : config.cacheType = .normal)
    (guarded : Guarded config env) (after : world.pageBackend.backendSize ≤ offset)
    (sound : Sound config middle) (threads : SameThreads world middle)
    (backend : middle.pageBackend.backendSize = world.pageBackend.backendSize +
      alignmentSize config world.pageBackend.backendSize offset buffer.length) :
    Outcome (do
        if !config.randWrite then
          fillWriteHole config (writeBytesAt config env 1) (offset +
            alignmentUsed config world.pageBackend.backendSize offset buffer.length)
        writeLoop config env
          (buffer.drop (alignmentUsed config world.pageBackend.backendSize offset
            buffer.length)).length
          (offset + alignmentUsed config world.pageBackend.backendSize offset buffer.length)
          (buffer.drop (alignmentUsed config world.pageBackend.backendSize offset buffer.length)))
      middle (fun _ => Held config world) (fun _ => Held config world) := by
  by_cases size : alignmentSize config world.pageBackend.backendSize offset buffer.length =
      config.pageSize - world.pageBackend.backendSize % config.pageSize
  · have aligned : Aligned config middle.pageBackend := by
      intro _ _
      rw [backend]
      exact aligned_end after size
    refine (writeRest_spec 0 normal sound aligned).mono ?_ ?_
    · rintro _ final ⟨content, changed, _⟩
      exact ⟨changed.sound, threads.trans changed.threads⟩
    · intro _ final threw
      have failed := threw.failed guarded
      exact ⟨failed.sound, threads.trans failed.threads⟩
  · -- the whole buffer has been written through
    have short : alignmentSize config world.pageBackend.backendSize offset buffer.length =
        offset + buffer.length - world.pageBackend.backendSize := by
      unfold alignmentSize at *
      omega
    have used : alignmentUsed config world.pageBackend.backendSize offset buffer.length =
        buffer.length := by
      rw [alignmentUsed_eq, alignmentZeros, short]
      omega
    have noHole : ¬ middle.pageManager.fileSize < offset + buffer.length := by
      have inside := sound.shaped.backend
      omega
    simp only [used, List.drop_length, List.length_nil, writeLoop, fillWriteHole, noHole,
      Outcome.bind_iff, Outcome.ite_iff, Outcome.get_iff, Outcome.pure_iff]
    have held : Held config world middle := ⟨sound, threads⟩
    exact ⟨fun _ => ⟨False.elim, fun _ => held⟩, fun _ => held⟩

private theorem prepareWrite_append {Returned : Nat → World → Prop}
    {Thrown : Exception → World → Prop}
    (mode : config.getWriteMode = .append) (existing : world.pageBackend.backendExists = true) :
    Outcome (prepareWrite config env buffer offset) world Returned Thrown ↔
      if offset < world.pageBackend.backendSize then Thrown .writeType world
      else Outcome (fixPageAlignment config env buffer offset) world Returned Thrown := by
  rw [prepareWrite, Outcome.bind_iff, Outcome.get_iff]
  simp only [mode, existing, if_true]
  split
  · rw [Outcome.throw_iff]
  · rfl

/-- A `WriteBytes` that covers the dirty pages keeps the file sound. -/
theorem writeBytes_held (normal : config.cacheType = .normal) (sound : Sound config world)
    (guarded : Guarded config env)
    (covers : AlignmentCovers config world offset buffer.length) :
    Outcome (writeBytes config env buffer offset) world (fun _ => Held config world)
      (fun _ => Held config world) := by
  have unchanged : Held config world world := ⟨sound, .refl _⟩
  by_cases appends : Appends config world.pageBackend offset
  · by_cases aligned : Aligned config world.pageBackend
    · refine (writeBytes_spec normal sound aligned appends).mono ?_ ?_
      · rintro _ final ⟨content, changed, _⟩
        exact ⟨changed.sound, changed.threads⟩
      · intro _ final threw
        exact ⟨(threw.failed guarded).sound, (threw.failed guarded).threads⟩
    · simp only [Aligned, Classical.not_imp] at aligned
      obtain ⟨mode, existing, unaligned⟩ := aligned
      have after := appends mode existing
      rw [writeBytes, writeBytesAt]
      simp only [Outcome.ite_iff, Outcome.throw_iff]
      refine ⟨fun _ => unchanged, fun _ => ⟨fun none => ?_, fun _ => ?_⟩⟩
      · rw [normal] at none
        cases none
      · rw [Outcome.bind_iff, prepareWrite_append mode existing, if_neg (Nat.not_lt.mpr after)]
        refine (fixPageAlignment_spec existing unaligned).mono ?_ ?_
        · rintro used middle ⟨rfl, reported⟩
          have soundMiddle : Sound config middle := reported.sound sound.wroteThrough existing
            (covers mode existing unaligned)
          have threads : SameThreads world middle :=
            ⟨reported.threads.fetchSize, reported.threads.pendingPages,
              reported.threads.failedPages, reported.threads.fetchThreads⟩
          refine alignedRest_held normal guarded after soundMiddle threads ?_
          rw [reported.pageBackend]
        · rintro _ final ⟨_, rfl, _⟩
          exact ⟨⟨⟨sound.shaped.page, sound.shaped.backend, sound.shaped.pending⟩,
            ⟨sound.live.pageQueue, sound.live.dirtyQueue⟩, sound.queued⟩, ⟨rfl, rfl, rfl, rfl⟩⟩
  · simp only [Appends, Classical.not_imp] at appends
    obtain ⟨mode, existing, inside⟩ := appends
    rw [writeBytes, writeBytesAt]
    simp only [Outcome.ite_iff, Outcome.throw_iff]
    refine ⟨fun _ => unchanged, fun _ => ⟨fun none => ?_, fun _ => ?_⟩⟩
    · rw [normal] at none
      cases none
    · rw [Outcome.bind_iff, prepareWrite_append mode existing, if_pos (Nat.lt_of_not_le inside)]
      exact unchanged

end File

end

end Andromeda.FileData
