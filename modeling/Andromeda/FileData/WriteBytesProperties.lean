import Andromeda.FileData.FrameProperties
import Andromeda.FileData.TruncateProperties

/-! `WriteBytes` with its hole filling, where the backend ends at a page boundary or
page alignment does not matter. -/

set_option autoImplicit false

namespace Andromeda.FileData

open Andromeda.Library
open Andromeda.Library.Bytes (byteAt resize overwrite slice)

/-- No write through to the backend is needed before a write. -/
def Aligned (config : Config) (backend : PageBackend) : Prop :=
  config.getWriteMode = .append → backend.backendExists = true →
    backend.backendSize % config.pageSize = 0

/-- An appended write does not begin inside the backend's file. -/
def Appends (config : Config) (backend : PageBackend) (offset : Nat) : Prop :=
  config.getWriteMode = .append → backend.backendExists = true → backend.backendSize ≤ offset

/-- A `WriteBytes` that threw. Without upload checks a call of the environment did. -/
structure WriteThrew (config : Config) (env : Env) (before : World) (exception : Exception)
    (after : World) : Prop where
  fault : config.readOnlyFS = false → config.getWriteMode ≠ .upload → Agrees config before →
    ∃ world call, env.fault world call = true
  failed : Guarded config env → Failed config env before exception after

section

variable {config : Config} {env : Env} {before middle after : World} {exception : Exception}

/-- A refusal changes nothing. -/
theorem Failed.unchanged (sound : Sound config before) (thrown : exception.isThrown = true) :
    Failed config env before exception before :=
  ⟨thrown, .refl _, sound, id, fun _ => id⟩

private theorem Changed.then_writeThrew {content : Bytes}
    (left : Changed config content before middle)
    (right : WriteThrew config env middle exception after) :
    WriteThrew config env before exception after :=
  ⟨fun writable notUpload agrees => right.fault writable notUpload (left.agrees agrees),
    fun guarded => left.then_failed (right.failed guarded)⟩

private theorem Interrupted.writeThrew
    (interrupted : Interrupted config env before exception after) :
    WriteThrew config env before exception after :=
  ⟨fun _ _ => interrupted.fault, interrupted.failed⟩

end

namespace File

variable {config : Config} {env : Env} {world : World} {buffer : Bytes} {offset : Nat}

private theorem prepareWrite_spec (aligned : Aligned config world.pageBackend)
    (appends : Appends config world.pageBackend offset) :
    Outcome (prepareWrite config env buffer offset) world
      (fun used final => used = 0 ∧ final = world)
      (fun exception final => final = world ∧ exception.isThrown = true ∧
        config.getWriteMode = .upload) := by
  simp only [prepareWrite, Outcome.bind_iff, Outcome.get_iff]
  cases mode : config.getWriteMode with
  | random => exact ⟨rfl, rfl⟩
  | upload =>
      simp only [Outcome.ite_iff, Outcome.throw_iff, Outcome.pure_iff]
      exact ⟨fun _ => ⟨trivial, rfl, trivial⟩, fun _ => ⟨fun _ => ⟨trivial, rfl, trivial⟩,
        fun _ => ⟨trivial, trivial⟩⟩⟩
  | append =>
      simp only [Outcome.ite_iff, Outcome.throw_iff, Outcome.pure_iff, fixPageAlignment,
        Outcome.bind_iff, Outcome.get_iff]
      refine ⟨fun existing => ⟨fun inside => ?_, fun _ => ⟨fun _ => ⟨trivial, trivial⟩,
        fun unaligned => absurd (aligned mode existing) unaligned⟩⟩, fun _ => ⟨trivial, trivial⟩⟩
      exact absurd (appends mode existing) (Nat.not_le.mpr inside)

private theorem writeFlat_spec (depth : Nat) (normal : config.cacheType = .normal)
    (sound : Sound config world) (noHole : offset ≤ world.pageManager.fileSize)
    (aligned : Aligned config world.pageBackend)
    (appends : Appends config world.pageBackend offset) :
    Outcome (writeBytesAt config env (depth + 1) buffer offset) world
      (fun _ => Changed config (writeContent (world.content config) offset buffer) world)
      (WriteThrew config env world) := by
  simp only [writeBytesAt, Outcome.ite_iff, Outcome.throw_iff, Outcome.bind_iff]
  refine ⟨fun readOnly => ?_, fun writable => ⟨fun uncached => ?_, fun _ => ?_⟩⟩
  · refine ⟨fun writable => ?_, fun _ => Failed.unchanged sound rfl⟩
    rw [readOnly] at writable
    cases writable
  · rw [normal] at uncached
    cases uncached
  · refine (prepareWrite_spec aligned appends).mono ?_ ?_
    · rintro used final ⟨rfl, same⟩
      rw [same]
      have write : Outcome (writeLoop config env buffer.length offset buffer) world
          (fun _ => Changed config (writeContent (world.content config) offset buffer) world)
          (WriteThrew config env world) :=
        (writeLoop_spec _ (Nat.le_refl _) sound).mono (fun _ _ => id)
          fun _ _ threw => threw.writeThrew
      simp only [List.drop_zero, Nat.add_zero, fillWriteHole, Outcome.bind_iff, Outcome.get_iff,
        Outcome.ite_iff, Outcome.pure_iff]
      exact ⟨fun _ => ⟨fun hole => absurd noHole (Nat.not_le.mpr hole), fun _ => write⟩,
        fun _ => write⟩
    · rintro exception _ ⟨rfl, thrown, mode⟩
      exact ⟨fun _ notUpload => absurd mode notUpload, fun _ => Failed.unchanged sound thrown⟩

private theorem writeFlat_backend (depth : Nat) (normal : config.cacheType = .normal)
    (noRandom : config.randWrite = false) (noHole : offset ≤ world.pageManager.fileSize)
    (aligned : Aligned config world.pageBackend)
    (appends : Appends config world.pageBackend offset) {Invariant : World → Prop}
    (framed : Framed Invariant) (kept : Invariant world) :
    Outcome (writeBytesAt config env (depth + 1) buffer offset) world
      (fun _ => Invariant) (fun _ => Invariant) := by
  have flush : FlushKeeps config env Invariant := by simp [FlushKeeps, noRandom]
  have write (fuel byte : Nat) (rest : Bytes) :
      Keeps Invariant (writeLoop config env fuel byte rest) :=
    keeps_writeLoop (framed.closed config) flush fuel byte rest
  simp only [writeBytesAt, Outcome.ite_iff, Outcome.throw_iff, Outcome.bind_iff]
  refine ⟨fun _ => kept, fun _ => ⟨fun uncached => ?_, fun _ => ?_⟩⟩
  · rw [normal] at uncached
    cases uncached
  · refine (prepareWrite_spec aligned appends).mono ?_ ?_
    · rintro used final ⟨rfl, same⟩
      rw [same]
      simp only [List.drop_zero, Nat.add_zero, fillWriteHole, Outcome.bind_iff, Outcome.get_iff,
        Outcome.ite_iff, Outcome.pure_iff]
      exact ⟨fun _ => ⟨fun hole => absurd noHole (Nat.not_le.mpr hole), fun _ =>
        write _ _ _ world kept⟩, fun _ => write _ _ _ world kept⟩
    · rintro exception final ⟨same, _⟩
      rw [same]
      exact kept

private theorem framed_pageBackend (backend : PageBackend) :
    Framed fun world => world.pageBackend = backend := by
  intro before after untouched same
  rw [untouched.pageBackend, same]

private theorem overwrite_zeros (content : Bytes) {size more : Nat}
    (length : content.length = size) :
    overwrite content size (List.replicate more 0) = resize content (size + more) := by
  refine Bytes.ext_byteAt ?_ fun position => ?_
  · rw [Bytes.length_overwrite, Bytes.length_resize, List.length_replicate]
    omega
  · rw [Bytes.byteAt_overwrite, Bytes.byteAt_resize, List.length_replicate]
    by_cases hole : size ≤ position ∧ position < size + more
    · rw [if_pos hole, if_pos hole.2, Bytes.byteAt_replicate, Bytes.byteAt_of_length_le]
      omega
    · rw [if_neg hole]
      split
      · rfl
      · exact Bytes.byteAt_of_length_le (by omega)

private theorem resize_resize (content : Bytes) {small large : Nat}
    (inside : content.length ≤ small) :
    resize (resize content small) large = resize content large := by
  refine Bytes.ext_byteAt (by simp) fun position => ?_
  rw [Bytes.byteAt_resize, Bytes.byteAt_resize, Bytes.byteAt_resize]
  by_cases before : position < small
  · rw [if_pos before]
  · rw [if_neg before, Bytes.byteAt_of_length_le (by omega)]

private theorem holeLoop_spec (depth fuel : Nat) (normal : config.cacheType = .normal)
    (noRandom : config.randWrite = false) {start : Nat} (sound : Sound config world)
    (aligned : Aligned config world.pageBackend)
    (here : min start offset = world.pageManager.fileSize) (enough : offset - start ≤ fuel) :
    Outcome (holeLoop config (writeBytesAt config env (depth + 1)) offset fuel start) world
      (fun _ after => Changed config (resize (world.content config) offset) world after ∧
        after.pageBackend = world.pageBackend)
      (WriteThrew config env world) := by
  induction fuel generalizing start world with
  | zero =>
      have same : resize (world.content config) offset = world.content config :=
        Bytes.resize_of_length_eq (by rw [World.length_content]; omega)
      exact ⟨same.symm ▸ .refl sound, rfl⟩
  | succ fuel ih =>
      have positive := config.pageSize_pos
      simp only [holeLoop, Outcome.ite_iff, Outcome.pure_iff, Outcome.bind_iff]
      refine ⟨fun ended => ?_, fun more => ?_⟩
      · have same : resize (world.content config) offset = world.content config :=
          Bytes.resize_of_length_eq (by rw [World.length_content]; omega)
        exact ⟨same.symm ▸ .refl sound, trivial⟩
      · have atEnd : start = world.pageManager.fileSize := by omega
        have appends : Appends config world.pageBackend start :=
          fun _ _ => atEnd ▸ sound.shaped.backend
        have written : Outcome (writeBytesAt config env (depth + 1)
            (List.replicate (min (offset - start) config.pageSize) 0) start) world _ _ :=
          (writeFlat_spec depth normal sound (Nat.le_of_eq atEnd) aligned appends).and
            (writeFlat_backend depth normal noRandom (Nat.le_of_eq atEnd) aligned appends
              (framed_pageBackend world.pageBackend) rfl)
        refine written.mono ?_ fun _ _ threw => threw.1
        rintro _ middle ⟨changed, backend⟩
        have nonempty : (List.replicate (min (offset - start) config.pageSize)
            (0 : UInt8)).isEmpty = false := by
          simp
          omega
        rw [writeContent, nonempty, if_neg Bool.false_ne_true,
          overwrite_zeros _ (by rw [World.length_content, atEnd])] at changed
        have size := changed.fileSize
        rw [Bytes.length_resize] at size
        refine (ih changed.sound (backend ▸ aligned) (by omega) (by omega)).mono ?_
          fun _ _ => changed.then_writeThrew
        rintro _ final ⟨filled, sameBackend⟩
        have both := @Changed.trans config _ _ _ _ (resize · offset) changed filled
          fun _ _ => by rw [Bytes.length_resize, Bytes.length_resize]
        rw [resize_resize _ (by rw [World.length_content]; omega)] at both
        exact ⟨both, sameBackend.trans backend⟩

/-- The content after `WriteBytes`, if the write has any bytes: the hole is zero. -/
def Written (config : Config) (buffer : Bytes) (offset : Nat) (before after : World) : Prop :=
  ∃ content, Changed config content before after ∧
    (buffer ≠ [] → content = overwrite (before.content config) offset buffer) ∧
    (config.randWrite = true → content = writeContent (before.content config) offset buffer)

private theorem overwrite_resize (content : Bytes) (inside : content.length ≤ offset) :
    overwrite (resize content offset) offset buffer = overwrite content offset buffer := by
  refine Bytes.ext_byteAt ?_ fun position => ?_
  · rw [Bytes.length_overwrite, Bytes.length_overwrite, Bytes.length_resize]
    omega
  · rw [Bytes.byteAt_overwrite, Bytes.byteAt_overwrite, Bytes.byteAt_resize]
    by_cases before : position < offset
    · rw [if_pos before]
    · rw [if_neg before, @Bytes.byteAt_of_length_le _ _ content position (by omega)]

/-- `WriteBytes` past its checks. -/
theorem writeRest_spec (depth : Nat) (normal : config.cacheType = .normal)
    (sound : Sound config world) (aligned : Aligned config world.pageBackend) :
    Outcome (do
        if !config.randWrite then fillWriteHole config (writeBytesAt config env (depth + 1)) offset
        writeLoop config env buffer.length offset buffer) world
      (fun _ => Written config buffer offset world) (WriteThrew config env world) := by
  have write (middle : World) (soundMiddle : Sound config middle) :
      Outcome (writeLoop config env buffer.length offset buffer) middle
        (fun _ => Changed config (writeContent (middle.content config) offset buffer) middle)
        (WriteThrew config env middle) :=
    (writeLoop_spec _ (Nat.le_refl _) soundMiddle).mono (fun _ _ => id)
      fun _ _ threw => threw.writeThrew
  have direct : Outcome (writeLoop config env buffer.length offset buffer) world
      (fun _ => Written config buffer offset world) (WriteThrew config env world) := by
    refine (write world sound).mono (fun _ after changed => ⟨_, changed, ?_, fun _ => rfl⟩)
      fun _ _ => id
    intro nonempty
    simp [writeContent, nonempty]
  simp only [Outcome.ite_iff, Outcome.bind_iff, fillWriteHole, Outcome.get_iff, Outcome.pure_iff,
    Bool.not_eq_true']
  refine ⟨fun noRandom => ⟨fun hole => ?_, fun _ => direct⟩, fun _ => direct⟩
  refine (holeLoop_spec depth _ normal noRandom sound aligned
    (Nat.min_eq_left (Nat.le_of_lt hole)) (Nat.le_refl _)).mono ?_ fun _ _ => id
  rintro _ middle ⟨filled, _⟩
  refine (write middle filled.sound).mono (fun _ after changed => ?_)
    fun _ _ => filled.then_writeThrew
  have both := filled.trans changed fun _ same => length_writeContent same _ _
  refine ⟨_, both, fun nonempty => ?_, fun random => ?_⟩
  · have some : buffer.isEmpty = false := by simpa using nonempty
    rw [writeContent, some, if_neg Bool.false_ne_true, overwrite_resize]
    rw [World.length_content]
    exact Nat.le_of_lt hole
  · rw [noRandom] at random
    cases random

/-- `WriteBytes`, where no page alignment is to be fixed. -/
theorem writeBytes_spec (normal : config.cacheType = .normal) (sound : Sound config world)
    (aligned : Aligned config world.pageBackend)
    (appends : Appends config world.pageBackend offset) :
    Outcome (writeBytes config env buffer offset) world
      (fun _ => Written config buffer offset world) (WriteThrew config env world) := by
  rw [writeBytes, writeBytesAt]
  simp only [Outcome.ite_iff, Outcome.throw_iff]
  refine ⟨fun readOnly => ?_, fun writable => ⟨fun uncached => ?_, fun _ => ?_⟩⟩
  · refine ⟨fun writable => ?_, fun _ => Failed.unchanged sound rfl⟩
    rw [readOnly] at writable
    cases writable
  · rw [normal] at uncached
    cases uncached
  · rw [Outcome.bind_iff]
    refine (prepareWrite_spec aligned appends).mono ?_ ?_
    · rintro used final ⟨rfl, same⟩
      rw [same, List.drop_zero, Nat.add_zero]
      exact writeRest_spec 0 normal sound aligned
    · rintro exception _ ⟨rfl, thrown, mode⟩
      exact ⟨fun _ notUpload => absurd mode notUpload, fun _ => Failed.unchanged sound thrown⟩

end File

end Andromeda.FileData
