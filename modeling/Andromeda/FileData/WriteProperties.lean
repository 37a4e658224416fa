import Andromeda.FileData.ContentProperties
import Andromeda.FileData.File

/-! Writing pages: a completed write overwrites the content, one that threw leaves the
file sound. -/

set_option autoImplicit false

namespace Andromeda.FileData

open Andromeda.Library
open Andromeda.Library.Bytes (byteAt resize overwrite slice)

/-- The content after a write; a write of no bytes fills no hole. -/
def writeContent (content : Bytes) (offset : Nat) (buffer : Bytes) : Bytes :=
  if buffer.isEmpty then content else overwrite content offset buffer

/-- The file has another size. -/
def World.sized (world : World) (fileSize : Nat) : World :=
  { world with pageManager := { world.pageManager with fileSize } }

namespace PageManager

variable {config : Config} {env : Env} {world prepared : World} {index : Nat}

private theorem live_sameSize {old page : Page} {after : World} (live : Live config none world)
    (found : world.pageManager.pages.find? index = some old)
    (changed : PageChanged index page world after) (size : page.size = old.size) :
    Live config none after := by
  have kept {queue : List PageInfo} (live : QueueLive config none queue world.pageManager.pages) :
      QueueLive config none queue after.pageManager.pages := by
    refine ⟨live.cacheMgr, fun {info} member isOwn => ?_⟩
    obtain ⟨cached, foundCached, entrySize⟩ := live.cached member isOwn
    by_cases same : info.index = index
    · rw [same, found] at foundCached
      cases foundCached
      refine ⟨page, same ▸ changed.found, fun _ => ?_⟩
      rw [entrySize (by simp), Config.capacity, Config.capacity, size]
    · exact ⟨cached, by rw [changed.others _ same]; exact foundCached, entrySize⟩
  refine ⟨?_, ?_⟩
  · rw [changed.cacheManager]
    exact kept live.pageQueue
  · rw [changed.cacheManager]
    exact kept live.dirtyQueue

/-- The range a write of a page covers. -/
structure PageRange (config : Config) (fileSize index offset length : Nat) : Prop where
  nonempty : 0 < length
  onPage : offset + length ≤ config.pageSize

private theorem PageRange.target {fileSize offset length : Nat}
    (range : PageRange config fileSize index offset length) :
    Target config fileSize index (max fileSize (index * config.pageSize + offset + length)) := by
  obtain ⟨nonempty, onPage⟩ := range
  refine ⟨Nat.le_max_left _ _, ?_, ?_⟩
  · omega
  · rw [Nat.succ_mul]
    omega

/-- The end of a page's write: the prepared page takes the bytes and becomes dirty, and
the file its new size. -/
structure Finished (config : Config) (index offset : Nat) (buffer : Bytes) (newFileSize : Nat)
    (page : Page) (world prepared after : World) : Prop where
  range : PageRange config world.pageManager.fileSize index offset buffer.length
  size : newFileSize =
    max world.pageManager.fileSize (index * config.pageSize + offset + buffer.length)
  found : prepared.pageManager.pages.find? index = some page
  pageSize : page.size = config.lengthAt newFileSize index
  changed : PageChanged index ((page.setDirty true).copyIn offset buffer)
    (prepared.sized newFileSize) after

namespace Finished

variable {buffer : Bytes} {offset newFileSize : Nat} {page : Page} {after : World}
  {isPartial : Bool}

private theorem target
    (finished : Finished config index offset buffer newFileSize page world prepared after) :
    Target config world.pageManager.fileSize index newFileSize :=
  finished.size ▸ finished.range.target

private theorem fileSize
    (finished : Finished config index offset buffer newFileSize page world prepared after) :
    after.pageManager.fileSize = newFileSize :=
  finished.changed.fetches.fileSize

private theorem newSize
    (finished : Finished config index offset buffer newFileSize page world prepared after) :
    ((page.setDirty true).copyIn offset buffer).size = page.size := by
  have onPage := finished.range.onPage
  have size := finished.size
  have pageSize := finished.pageSize
  show (overwrite page.data offset buffer).length = page.data.length
  rw [Bytes.length_overwrite]
  refine Nat.max_eq_right ?_
  show offset + buffer.length ≤ page.size
  rw [pageSize]
  unfold Config.lengthAt
  omega

private theorem sound
    (finished : Finished config index offset buffer newFileSize page world prepared after)
    (ready : Prepared config index (config.lengthAt newFileSize index) newFileSize isPartial world
      prepared)
    (live : Live config none prepared) (sound : Sound config world) : Sound config after := by
  have changed := finished.changed
  have newSize := finished.newSize
  have pageSize := finished.pageSize
  have liveSized : Live config none (prepared.sized newFileSize) :=
    ⟨live.pageQueue, live.dirtyQueue⟩
  refine ⟨?_, live_sameSize liveSized finished.found changed newSize, ?_⟩
  · rw [finished.fileSize]
    have shaped : Shaped config newFileSize (prepared.sized newFileSize) :=
      ⟨ready.shaped.page, ready.shaped.backend, ready.shaped.pending⟩
    refine shaped.update changed.others ?_
      (fun other otherPage _ foundOther => ⟨shaped.inside foundOther, rfl⟩)
      changed.pageBackend shaped.backend
    rw [changed.found]
    rintro _ ⟨⟩
    rw [pageSize] at newSize
    exact ⟨finished.target.inside, newSize ▸ config.lengthAt_le _ _, Nat.le_of_eq newSize.symm,
      fun _ => newSize⟩
  · rw [finished.fileSize]
    intro cacheMgr other otherPage foundOther oversized
    rw [changed.hasEntry]
    by_cases same : other = index
    · subst same
      rw [changed.found] at foundOther
      cases foundOther
      rw [newSize, pageSize] at oversized
      exact absurd oversized (Nat.lt_irrefl _)
    · rw [changed.others other same] at foundOther
      exact ready.queued sound.queued cacheMgr other otherPage foundOther oversized

private theorem agrees
    (finished : Finished config index offset buffer newFileSize page world prepared after)
    (ready : Prepared config index (config.lengthAt newFileSize index) newFileSize isPartial world
      prepared)
    (agrees : Agrees config world) : Agrees config after := by
  have changed := finished.changed
  have stored := ready.stored agrees
  have storedReady : Stored config newFileSize (some index) (prepared.sized newFileSize) :=
    ⟨stored.exists_eq, stored.size_eq, stored.page⟩
  rw [Agrees, finished.fileSize]
  refine storedReady.update (Nat.le_refl _) changed.remote changed.pageBackend changed.others
    ?_ (fun other different _ => by simpa using different.symm)
  rw [changed.found]
  rintro _ ⟨⟩
  refine ⟨fun {place} past => Bytes.byteAt_of_length_le ?_, by simp [Page.copyIn, Page.setDirty]⟩
  show ((page.setDirty true).copyIn offset buffer).size ≤ place
  rw [finished.newSize, finished.pageSize]
  unfold Config.lengthAt
  omega

private theorem byte
    (finished : Finished config index offset buffer newFileSize page world prepared after)
    (ready : Prepared config index (config.lengthAt newFileSize index) newFileSize isPartial world
      prepared)
    (old : ∀ place, place < config.pageSize →
      ¬ (offset ≤ place ∧ place < offset + buffer.length) →
      byteAt page.data place = world.cell config index place)
    (agrees : Agrees config world) (position : Nat) :
    after.byte config position =
      if index * config.pageSize + offset ≤ position ∧
          position < index * config.pageSize + offset + buffer.length then
        byteAt buffer (position - (index * config.pageSize + offset))
      else world.byte config position := by
  have onPage := finished.range.onPage
  obtain ⟨other, place, placeOnPage, rfl⟩ := config.exists_page position
  rw [World.byte_page placeOnPage, World.byte_page placeOnPage]
  by_cases same : other = index
  · subst same
    rw [World.cell_cached finished.changed.found, Page.copyIn, Bytes.byteAt_overwrite]
    by_cases covered : offset ≤ place ∧ place < offset + buffer.length
    · rw [if_pos covered, if_pos (by omega)]
      congr 1
      omega
    · rw [if_neg covered, if_neg (by omega)]
      exact old place placeOnPage covered
  · rw [finished.changed.cell_other same, if_neg]
    · exact ready.cell agrees other place same placeOnPage
    · rintro ⟨low, high⟩
      rcases Nat.lt_or_gt_of_ne same with less | greater
      · have := Nat.mul_le_mul_right config.pageSize (Nat.succ_le_of_lt less)
        rw [Nat.succ_mul] at this
        omega
      · have := Nat.mul_le_mul_right config.pageSize (Nat.succ_le_of_lt greater)
        rw [Nat.succ_mul] at this
        omega

private theorem settled
    (finished : Finished config index offset buffer newFileSize page world prepared after)
    (ready : Prepared config index (config.lengthAt newFileSize index) newFileSize isPartial world
      prepared)
    (settled : Settled config world) : Settled config after := by
  have changed := finished.changed
  have newSize := finished.newSize
  by_cases reached : newFileSize ≤ index * config.pageSize + page.size
  · intro _
    rw [finished.fileSize]
    refine Nat.le_trans (Nat.le_trans ?_ (PageManager.le_maxDirty changed.found rfl))
      (Nat.le_max_right _ _)
    rw [newSize]
    exact reached
  · have unchanged : newFileSize = prepared.pageManager.fileSize := by
      have near := finished.target.near
      have grows := finished.target.grows
      rw [finished.pageSize] at reached
      rw [ready.fetches.fileSize]
      rw [Nat.succ_mul] at near
      unfold Config.lengthAt at reached
      omega
    refine changed.settled (fun old foundOld _ => ⟨rfl, .inl ?_⟩) fun existing => ?_
    · have same : page = old := Option.some.inj (finished.found.symm.trans foundOld)
      rw [newSize, same]
    · show newFileSize ≤ _
      rw [unchanged]
      exact ready.settled settled existing

private theorem completed
    (finished : Finished config index offset buffer newFileSize page world prepared after)
    (ready : Prepared config index (config.lengthAt newFileSize index) newFileSize isPartial world
      prepared)
    (live : Live config none prepared) (sound : Sound config world)
    (old : Agrees config world → ∀ place, place < config.pageSize →
      ¬ (offset ≤ place ∧ place < offset + buffer.length) →
      byteAt page.data place = world.cell config index place) :
    Changed config
      (overwrite (world.content config) (index * config.pageSize + offset) buffer) world
      after where
  sound := finished.sound ready live sound
  threads := ready.fetches.threads.trans
    ⟨finished.changed.fetches.fetchSize, finished.changed.fetches.pendingPages,
      finished.changed.fetches.failedPages, finished.changed.fetches.fetchThreads⟩
  fileSize := by
    rw [finished.fileSize, finished.size, Bytes.length_overwrite, World.length_content,
      Nat.max_comm]
  agrees := finished.agrees ready
  content agrees := by
    refine Bytes.ext_byteAt ?_ fun position => ?_
    · rw [World.length_content, finished.fileSize, finished.size, Bytes.length_overwrite,
        World.length_content, Nat.max_comm]
    · rw [(finished.agrees ready agrees).byteAt_content (finished.sound ready live sound),
        Bytes.byteAt_overwrite, agrees.byteAt_content sound]
      exact finished.byte ready (old agrees) agrees position
  settled := finished.settled ready

end Finished

private theorem old_bytes {buffer : Bytes} {offset newFileSize : Nat} {isPartial : Bool}
    {page : Page}
    (sound : Sound config world) (grows : world.pageManager.fileSize ≤ newFileSize)
    (partly : isPartial =
      (decide (0 < offset) || decide (buffer.length < config.lengthAt newFileSize index)))
    (pageSize : page.size = config.lengthAt newFileSize index)
    (bytes : isPartial = true → Agrees config world → ∀ place, place < config.pageSize →
      byteAt page.data place = world.cell config index place)
    (agrees : Agrees config world) {place : Nat} (onPage : place < config.pageSize)
    (outside : ¬ (offset ≤ place ∧ place < offset + buffer.length)) :
    byteAt page.data place = world.cell config index place := by
  by_cases isPart : isPartial = true
  · exact bytes isPart agrees place onPage
  · rw [partly, Bool.or_eq_true, decide_eq_true_eq, decide_eq_true_eq] at isPart
    have past : page.size ≤ place := by omega
    rw [Bytes.byteAt_of_length_le past, ← World.byte_page onPage]
    refine (World.byte_past agrees sound.shaped.backend ?_).symm
    rw [pageSize] at past
    unfold Config.lengthAt at past
    omega

theorem writePage_spec {buffer : Bytes} {offset : Nat}
    (range : PageRange config world.pageManager.fileSize index offset buffer.length)
    (sound : Sound config world) :
    Outcome (writePage config env buffer index offset) world
      (fun _ => Changed config
        (overwrite (world.content config) (index * config.pageSize + offset) buffer) world)
      (PageWriteThrew config env world) := by
  simp only [writePage, Outcome.bind_iff, Outcome.get_iff, Outcome.modify_iff]
  refine (getPageWrite_spec _ range.target sound.shaped sound.live).mono ?_ fun _ _ => id
  rintro _ prepared ⟨ready, live⟩
  obtain ⟨page, found, pageSize, bytes⟩ := ready.page
  generalize newSize : max world.pageManager.fileSize
    (index * config.pageSize + offset + buffer.length) = newFileSize at *
  have foundSized : (prepared.sized newFileSize).pageManager.pages.find? index = some page := found
  have finished : Finished config index offset buffer newFileSize page world prepared
      (changePage (prepared.sized newFileSize) index fun page =>
        (page.setDirty true).copyIn offset buffer) :=
    ⟨range, newSize.symm, found, pageSize, changePage_changed foundSized fun page =>
      (page.setDirty true).copyIn offset buffer⟩
  refine finished.completed ready live sound fun agrees place onPage outside => ?_
  exact old_bytes sound finished.target.grows rfl pageSize bytes agrees onPage outside

end PageManager

namespace File

variable {config : Config} {env : Env} {world : World}

theorem length_writeContent {left right : Bytes} (same : left.length = right.length)
    (offset : Nat) (buffer : Bytes) :
    (writeContent left offset buffer).length = (writeContent right offset buffer).length := by
  unfold writeContent
  split
  · exact same
  · rw [Bytes.length_overwrite, Bytes.length_overwrite, same]

private theorem writeContent_append {first : Bytes} (nonempty : first ≠ []) (content : Bytes)
    (offset : Nat) (second : Bytes) :
    writeContent (overwrite content offset first) (offset + first.length) second =
      writeContent content offset (first ++ second) := by
  have whole : (first ++ second).isEmpty = false := by simp [nonempty]
  cases second with
  | nil => simp [writeContent, nonempty]
  | cons byte rest =>
      simp only [writeContent, whole, List.isEmpty_cons, Bool.false_eq_true, if_false]
      exact Bytes.overwrite_append _ _ _ _

private theorem firstPage_range {byte length : Nat} (fileSize : Nat) (some : 0 < length) :
    PageManager.PageRange config fileSize (byte / config.pageSize)
      (byte - byte / config.pageSize * config.pageSize)
      (min length (config.pageSize - (byte - byte / config.pageSize * config.pageSize))) := by
  have split := Nat.div_add_mod' byte config.pageSize
  have small := Nat.mod_lt byte config.pageSize_pos
  exact ⟨by omega, by omega⟩

theorem writeLoop_spec (fuel : Nat) {byte : Nat} {buffer : Bytes}
    (enough : buffer.length ≤ fuel) (sound : Sound config world) :
    Outcome (writeLoop config env fuel byte buffer) world
      (fun _ => Changed config (writeContent (world.content config) byte buffer) world)
      (Interrupted config env world) := by
  induction fuel generalizing byte buffer world with
  | zero =>
      have nothing : buffer = [] := List.eq_nil_of_length_eq_zero (Nat.le_zero.mp enough)
      subst nothing
      exact .refl sound
  | succ fuel ih =>
      cases buffer with
      | nil => exact .refl sound
      | cons head tail =>
          simp only [writeLoop, Outcome.bind_iff]
          have range := @firstPage_range config byte _ world.pageManager.fileSize
            (List.length_pos_iff.mpr (List.cons_ne_nil head tail))
          generalize head :: tail = buffer at *
          have lengthTake : (buffer.take (min buffer.length (config.pageSize -
              (byte - byte / config.pageSize * config.pageSize)))).length =
              min buffer.length (config.pageSize -
                (byte - byte / config.pageSize * config.pageSize)) :=
            List.length_take_of_le (Nat.min_le_left _ _)
          have start : byte / config.pageSize * config.pageSize +
              (byte - byte / config.pageSize * config.pageSize) = byte :=
            Nat.add_sub_cancel' (Nat.div_mul_le_self _ _)
          have nonempty := range.nonempty
          generalize min buffer.length (config.pageSize -
            (byte - byte / config.pageSize * config.pageSize)) = pLength at *
          rw [← lengthTake] at range
          refine (PageManager.writePage_spec range sound).mono ?_
            fun _ _ threw => threw.interrupted sound
          intro _ middle written
          rw [start] at written
          have rest : (buffer.drop pLength).length ≤ fuel := by
            rw [List.length_drop]
            omega
          refine (ih rest written.sound).mono (fun _ after remaining => ?_)
            fun _ _ => written.then_interrupted
          have both := written.trans remaining fun old same => length_writeContent same _ _
          have some : buffer.take pLength ≠ [] := by
            intro none
            rw [none] at lengthTake
            exact absurd lengthTake.symm (Nat.ne_of_gt nonempty)
          have whole := writeContent_append some (world.content config) byte (buffer.drop pLength)
          rw [lengthTake, List.take_append_drop] at whole
          rwa [whole] at both

end File

end Andromeda.FileData
