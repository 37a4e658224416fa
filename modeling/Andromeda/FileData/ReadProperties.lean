import Andromeda.FileData.FrameProperties
import Andromeda.FileData.OperationProperties

/-! Reads and fetches change no content, and a read returns it. -/

set_option autoImplicit false

namespace Andromeda.FileData

open Andromeda.Library
open Andromeda.Library.Bytes (byteAt resize overwrite slice)

/-- No waiting fetch begins past the end of the backend's file. -/
def FetchesInside (config : Config) (world : World) : Prop :=
  ∀ range ∈ world.fetchThreads, range.1 * config.pageSize ≤ world.pageBackend.backendSize

/-- What a reader or a fetch thread starts from. -/
structure Ready (config : Config) (world : World) : Prop where
  sound : Sound config world
  fetchSize : 0 < world.pageManager.fetchSize
  fetches : FetchesInside config world ∨ Agrees config world

/-- What reading and fetching keep. -/
structure Kept (config : Config) (env : Env) (before after : World) : Prop where
  ready : Ready config after
  fileSize : after.pageManager.fileSize = before.pageManager.fileSize
  agrees : Agrees config before → Agrees config after
  content : Agrees config before → after.content config = before.content config
  settled : SettledFaults config env → Settled config before → Settled config after

/-- What the file is seen as: all but the fetches and the trace. -/
structure SameView (before after : World) : Prop where
  remote : after.remote = before.remote
  pageBackend : after.pageBackend = before.pageBackend
  fileSize : after.pageManager.fileSize = before.pageManager.fileSize
  pages : after.pageManager.pages = before.pageManager.pages
  cacheManager : after.cacheManager = before.cacheManager

section

variable {config : Config} {env : Env} {before middle after : World}

private theorem Kept.refl (ready : Ready config before) : Kept config env before before :=
  ⟨ready, rfl, id, fun _ => rfl, fun _ => id⟩

private theorem Kept.trans (left : Kept config env before middle)
    (right : Kept config env middle after) :
    Kept config env before after :=
  ⟨right.ready, right.fileSize.trans left.fileSize, fun agrees => right.agrees (left.agrees agrees),
    fun agrees => (right.content (left.agrees agrees)).trans (left.content agrees),
    fun faults settled => right.settled faults (left.settled faults settled)⟩

theorem SameView.sound (same : SameView before after) (sound : Sound config before) :
    Sound config after where
  shaped := by
    refine ⟨fun found => ?_, ?_, ?_⟩
    · rw [same.pages] at found
      rw [same.fileSize]
      exact sound.shaped.page found
    · rw [same.pageBackend, same.fileSize]
      exact sound.shaped.backend
    · rw [same.pageBackend]
      exact sound.shaped.pending
  live := by
    refine ⟨?_, ?_⟩
    · rw [same.pages, same.cacheManager]
      exact sound.live.pageQueue
    · rw [same.pages, same.cacheManager]
      exact sound.live.dirtyQueue
  queued cacheMgr index page found oversized := by
    rw [same.pages] at found
    rw [same.fileSize] at oversized
    rw [HasEntry, same.cacheManager]
    exact sound.queued cacheMgr index page found oversized

private theorem SameView.stored (same : SameView before after) : after.stored = before.stored := by
  rw [World.stored, World.stored, same.remote]

theorem SameView.cell (same : SameView before after) (index place : Nat) :
    after.cell config index place = before.cell config index place := by
  rw [World.cell, World.cell, same.pages, same.stored]

theorem SameView.agrees (same : SameView before after) (agrees : Agrees config before) :
    Agrees config after := by
  refine ⟨?_, ?_, fun found => ?_⟩
  · rw [same.pageBackend, same.remote]
    exact agrees.exists_eq
  · rw [same.pageBackend, same.stored]
    exact agrees.size_eq
  · rw [same.pages] at found
    rw [same.stored, same.fileSize]
    exact agrees.page found

private theorem SameView.kept (same : SameView before after) (ready : Ready config before)
    (fetchSize : 0 < after.pageManager.fetchSize)
    (fetches : FetchesInside config before → FetchesInside config after) :
    Kept config env before after where
  ready := ⟨same.sound ready.sound, fetchSize, ready.fetches.imp fetches same.agrees⟩
  fileSize := same.fileSize
  agrees := same.agrees
  content _ := by
    unfold World.content
    rw [same.fileSize]
    exact List.map_congr_left fun _ _ => same.cell _ _
  settled _ settled := by
    rw [Settled, same.pageBackend, same.fileSize, same.pages]
    exact settled

private theorem FetchesInside.mono (inside : FetchesInside config before)
    (threads : after.fetchThreads = before.fetchThreads)
    (grows : before.pageBackend.backendSize ≤ after.pageBackend.backendSize) :
    FetchesInside config after := by
  intro range member
  rw [threads] at member
  exact Nat.le_trans (inside range member) grows

private theorem FileSteps.ready {concerned : Option Nat}
    (steps : FileSteps config concerned before after)
    (live : Live config none after) (ready : Ready config before) : Ready config after where
  sound := steps.sound live ready.sound
  fetchSize := steps.sameFetches.fetchSize ▸ ready.fetchSize
  fetches := ready.fetches.imp
    (fun inside => inside.mono steps.sameFetches.fetchThreads steps.backend_mono)
    (steps.agrees ready.sound)

private theorem Moved.kept {concerned : Option Nat} (moved : Moved config concerned before after)
    (live : Live config none after) (ready : Ready config before) :
    Kept config env before after where
  ready := moved.steps.ready live ready
  fileSize := moved.steps.fileSize
  agrees := moved.steps.agrees ready.sound
  content := moved.steps.content ready.sound
  settled _ settled := moved.settled ready.sound.shaped (Nat.le_refl _) settled

private theorem Threw.kept {concerned : Option Nat} {exception : Exception}
    (threw : Threw config env concerned before exception after) (live : Live config none after)
    (ready : Ready config before) : Kept config env before after where
  ready := threw.steps.ready live ready
  fileSize := threw.steps.fileSize
  agrees := threw.steps.agrees ready.sound
  content := threw.steps.content ready.sound
  settled faults _ := by
    obtain ⟨stop, call, fault, rfl⟩ := threw.fault
    exact faults stop call fault

end

/-- A clean page of the backend's bytes, or of the zeros past them, for a page not
cached yet. -/
structure ReadIn (config : Config) (world : World) (index : Nat) (page : Page) : Prop where
  missing : world.pageManager.pages.find? index = none
  clean : page.dirty = false
  shape : PageShaped config world.pageManager.fileSize index page
  stored : Agrees config world →
    PageStored config world.pageManager.fileSize none world.stored index page

/-- The cache manager has been told of a page, if there is one. -/
def entered (config : Config) (world : World) (index : Nat) (page : Page) (dirty : Bool) : World :=
  if config.cacheMgr then CacheManager.enqueued config world index page dirty else world

section

variable {config : Config} {env : Env} {before middle after : World} {index : Nat} {page : Page}

private theorem entered_eq (config : Config) (world : World) (index : Nat) (page : Page)
    (dirty : Bool) :
    entered config world index page dirty =
      { world with cacheManager := (entered config world index page dirty).cacheManager } := by
  unfold entered
  split <;> rfl

private theorem live_entered {dirty : Bool} (live : Live config (some index) middle)
    (found : middle.pageManager.pages.find? index = some page) :
    Live config none (entered config middle index page dirty) := by
  unfold entered
  split
  · next cacheMgr => exact CacheManager.live_enqueued live cacheMgr found dirty
  · next none => exact live.of_no_cacheMgr none

private theorem hasEntry_entered {other : Nat} {dirty : Bool} (entry : HasEntry middle other) :
    HasEntry (entered config middle index page dirty) other := by
  unfold entered
  split
  · exact CacheManager.hasEntry_enqueued entry
  · exact entry

private theorem hasEntry_self {dirty : Bool} (cacheMgr : config.cacheMgr = true) :
    HasEntry (entered config middle index page dirty) index := by
  rw [entered, if_pos cacheMgr]
  refine ⟨⟨ownManager, index, config.capacity page⟩, ?_, rfl, rfl⟩
  rw [CacheManager.enqueued, CacheManager.enqueuePage_pageQueue]
  exact List.mem_cons_self

private theorem ReadIn.kept (readIn : ReadIn config before index page)
    (changed : PageChanged index page before middle) (ready : Ready config before) :
    Kept config env before (entered config middle index page false) := by
  have same := entered_eq config middle index page false
  have pages : (entered config middle index page false).pageManager.pages =
      middle.pageManager.pages := by rw [same]
  have found : (entered config middle index page false).pageManager.pages.find? index =
      some page := by
    rw [pages]
    exact changed.found
  have others (other : Nat) (different : other ≠ index) :
      (entered config middle index page false).pageManager.pages.find? other =
        before.pageManager.pages.find? other := by
    rw [pages]
    exact changed.others other different
  have fileSize : (entered config middle index page false).pageManager.fileSize =
      before.pageManager.fileSize := by rw [same]; exact changed.fetches.fileSize
  have pageBackend : (entered config middle index page false).pageBackend =
      before.pageBackend := by rw [same]; exact changed.pageBackend
  have remote : (entered config middle index page false).remote = before.remote := by
    rw [same]; exact changed.remote
  have shaped := ready.sound.shaped
  have agreesAfter (agrees : Agrees config before) :
      Agrees config (entered config middle index page false) := by
    rw [Agrees, fileSize]
    refine agrees.update (Nat.le_refl _) remote pageBackend others (fun other foundOther => ?_)
      fun _ _ => id
    rw [found] at foundOther
    cases foundOther
    exact readIn.stored agrees
  refine ⟨⟨⟨?_, ?_, ?_⟩, ?_, ?_⟩, fileSize, agreesAfter, fun agrees => ?_, fun _ settled => ?_⟩
  · rw [fileSize]
    refine shaped.update others (fun other foundOther => ?_) (fun other _ _ foundOther =>
      ⟨shaped.inside foundOther, rfl⟩) pageBackend shaped.backend
    rw [found] at foundOther
    cases foundOther
    exact readIn.shape
  · exact live_entered (changed.live ready.sound.live.weaken) changed.found
  · intro cacheMgr other cached foundOther oversized
    rw [fileSize] at oversized
    by_cases isIndex : other = index
    · rw [isIndex]
      exact hasEntry_self cacheMgr
    · rw [others other isIndex] at foundOther
      exact hasEntry_entered (changed.hasEntry.mpr
        (ready.sound.queued cacheMgr other cached foundOther oversized))
  · rw [same]
    exact changed.fetches.fetchSize ▸ ready.fetchSize
  · refine ready.fetches.imp (fun inside => inside.mono ?_ ?_) agreesAfter
    · rw [same]
      exact changed.fetches.fetchThreads
    · rw [pageBackend]
  · unfold World.content
    rw [fileSize]
    refine List.map_congr_left fun position _ => ?_
    by_cases isIndex : position / config.pageSize = index
    · rw [isIndex, World.cell_cached found, World.cell_uncached readIn.missing]
      exact (readIn.stored agrees).clean readIn.clean (by simp)
        (Nat.mod_lt _ config.pageSize_pos)
    · rw [World.cell, World.cell, others _ isIndex, World.stored, remote]
      rfl
  · have kept : Settled config middle := changed.settled (fun old foundOld => by
      rw [readIn.missing] at foundOld
      cases foundOld) settled
    rw [Settled, pages, pageBackend, fileSize]
    rw [Settled, changed.pageBackend, changed.fetches.fileSize] at kept
    exact kept

namespace CacheManager

private theorem informPage_noWait (found : middle.pageManager.pages.find? index = some page)
    (dirty mgrLock : Bool) :
    Outcome (informPage config env index dirty false mgrLock) middle
      (fun _ final => final = enqueued config middle index page dirty) (fun _ _ => False) := by
  have handleMemory (world : World) : Outcome (handleMemory config env index false mgrLock) world
      (fun _ final => final = world) (fun _ _ => False) := by
    simp only [CacheManager.handleMemory, awaitWhile, Bool.and_false, Bool.false_and,
      Bool.false_eq_true, if_false, Outcome.bind_iff, Outcome.get_iff, Outcome.pure_iff]
  have handleDirtyMemory (world : World) :
      Outcome (handleDirtyMemory config env index false mgrLock) world
        (fun _ final => final = world) (fun _ _ => False) := by
    simp only [CacheManager.handleDirtyMemory, awaitWhile, Bool.and_false, Bool.false_and,
      Bool.false_eq_true, if_false, Outcome.bind_iff, Outcome.get_iff, Outcome.pure_iff]
  simp only [informPage, Outcome.bind_iff, Outcome.get_iff, found, Outcome.set_iff,
    Outcome.ite_iff, Outcome.pure_iff]
  refine ⟨fun _ => ?_, fun _ => rfl⟩
  refine (handleMemory _).mono ?_ fun _ _ => id
  rintro _ _ rfl
  exact ⟨fun _ => handleDirtyMemory _, fun _ => rfl⟩

private theorem informPage_kept (ready : Ready config before) (cacheMgr : config.cacheMgr = true)
    (found : before.pageManager.pages.find? index = some page) (dirty canWait mgrLock : Bool) :
    Outcome (informPage config env index dirty canWait mgrLock) before
      (fun _ final => Kept config env before final ∧
        (final.pageManager.pages.find? index).isSome = true)
      (fun _ => Kept config env before) := by
  refine (informPage_moved ready.sound.live.weaken cacheMgr found dirty canWait mgrLock).mono ?_ ?_
  · rintro _ final ⟨moved, live⟩
    obtain ⟨kept, foundKept, _⟩ := moved.steps.concerned_kept found
    exact ⟨moved.kept live ready, by rw [foundKept]; rfl⟩
  · rintro _ final ⟨threw, live⟩
    exact threw.kept live ready

end CacheManager

namespace PageManager

private theorem informNewPageRead_kept (ready : Ready config before)
    (readIn : ReadIn config before index page) (changed : PageChanged index page before middle)
    (canWait : Bool) :
    Outcome (informNewPageRead config env index false canWait) middle
      (fun _ final => Kept config env before final ∧
        (final.pageManager.pages.find? index).isSome = true)
      (fun _ => Kept config env before) := by
  have kept : Kept config env before (entered config middle index page false) :=
    readIn.kept changed ready
  rw [informNewPageRead, Outcome.ite_iff]
  constructor
  · intro cacheMgr
    rw [entered, if_pos cacheMgr] at kept
    have live := CacheManager.live_enqueued (changed.live ready.sound.live.weaken) cacheMgr
      changed.found false
    rw [onThrow_iff]
    refine (CacheManager.informPage_spec (changed.live ready.sound.live.weaken) cacheMgr
      changed.found false canWait false).mono ?_ ?_
    · intro _ final flushed
      obtain ⟨cached, found, _⟩ := flushed.moved.steps.concerned_kept changed.found
      exact ⟨kept.trans (flushed.moved.kept (flushed.steps.live live) kept.ready),
        by rw [found]; rfl⟩
    · intro exception thrown stopped
      have keptThrown : Kept config env _ thrown := kept.trans
        (stopped.threw.kept (stopped.steps.live live) kept.ready)
      refine ⟨fun _ => ?_, fun notThrown => by rw [stopped.thrown] at notThrown; cases notThrown⟩
      obtain ⟨cached, found, _⟩ := stopped.threw.steps.concerned_kept changed.found
      obtain ⟨old, foundOld, _, dirty⟩ := stopped.threw.steps.pagesShrink _ _ found
      have sameOld : old = page := Option.some.inj (foundOld.symm.trans changed.found)
      have clean : cached.dirty = false := by
        cases isDirty : cached.dirty with
        | false => rfl
        | true =>
            have oldDirty := dirty isDirty
            rw [sameOld, readIn.clean] at oldDirty
            cases oldDirty
      rw [Outcome.modify_iff]
      have evicted : Flushed config none true thrown _ := evict_step found clean (by simp)
      exact keptThrown.trans
        (evicted.moved.kept (evicted.steps.live keptThrown.ready.sound.live) keptThrown.ready)
  · intro none
    rw [entered, if_neg none] at kept
    exact ⟨kept, by rw [changed.found]; rfl⟩

private theorem informNewPageRead_noWait (found : middle.pageManager.pages.find? index = some page)
    (dirty : Bool) :
    Outcome (informNewPageRead config env index dirty false) middle
      (fun _ final => final = entered config middle index page dirty) (fun _ _ => False) := by
  rw [informNewPageRead, Outcome.ite_iff]
  constructor
  · intro cacheMgr
    rw [onThrow_iff, entered, if_pos cacheMgr]
    exact (CacheManager.informPage_noWait found dirty false).mono (fun _ _ => id)
      fun _ _ => False.elim
  · intro none
    rw [entered, if_neg none]
    exact rfl

private theorem entered_kept (ready : Ready config before)
    (found : before.pageManager.pages.find? index = some page) (dirty : Bool) :
    Kept config env before (entered config before index page dirty) := by
  have moved : Moved config none before (entered config before index page dirty) := by
    rw [entered_eq]
    refine .cache _ _ fun other entry => ?_
    rw [← entered_eq]
    exact hasEntry_entered entry
  exact moved.kept (live_entered ready.sound.live.weaken found) ready

/-- The pending ranges after a page of a fetch. -/
def pendingAfter (pendingPages : List (Nat × Nat)) (index : Nat) : List (Nat × Nat) :=
  (removePending index true pendingPages).getD pendingPages

/-- What a fetch thread does not change of the file, and what it does to the fetches. -/
structure Fetching (config : Config) (env : Env) (before after : World)
    (pendingPages : List (Nat × Nat)) : Prop where
  kept : Kept config env before after
  remote : after.remote = before.remote
  pageBackend : after.pageBackend = before.pageBackend
  stays : ∀ other, (before.pageManager.pages.find? other).isSome = true →
    (after.pageManager.pages.find? other).isSome = true
  failedPages : after.pageManager.failedPages = before.pageManager.failedPages
  fetchThreads : after.fetchThreads = before.fetchThreads
  pendingPages : after.pageManager.pendingPages = pendingPages

private theorem Fetching.trans {first second : List (Nat × Nat)}
    (left : Fetching config env before middle first)
    (right : Fetching config env middle after second) :
    Fetching config env before after second :=
  ⟨left.kept.trans right.kept, right.remote.trans left.remote,
    right.pageBackend.trans left.pageBackend, fun other cached => right.stays other
      (left.stays other cached), right.failedPages.trans left.failedPages,
    right.fetchThreads.trans left.fetchThreads, right.pendingPages⟩

private theorem removePendingFetch_spec (ready : Ready config before) (idxOnly : Bool) :
    Outcome (removePendingFetch index idxOnly) before
      (fun _ final => Fetching config env before final
          ((removePending index idxOnly before.pageManager.pendingPages).getD
            before.pageManager.pendingPages) ∧
        final.pageManager.pages = before.pageManager.pages)
      (fun _ _ => False) := by
  simp only [removePendingFetch, Outcome.bind_iff, Outcome.get_iff]
  cases removePending index idxOnly before.pageManager.pendingPages with
  | none =>
      have same : SameView before (before.logged .notPending) := ⟨rfl, rfl, rfl, rfl, rfl⟩
      exact ⟨⟨same.kept ready ready.fetchSize id, rfl, rfl, fun _ => id, rfl, rfl, rfl⟩, rfl⟩
  | some pendingPages =>
      have same : SameView before { before with
          pageManager := { before.pageManager with pendingPages } } := ⟨rfl, rfl, rfl, rfl, rfl⟩
      exact ⟨⟨same.kept ready ready.fetchSize id, rfl, rfl, fun _ => id, rfl, rfl, rfl⟩, rfl⟩

private theorem fetched_entered (ready : Ready config before) (readIn :
      before.pageManager.pages.find? index = none → ReadIn config before index page) :
    Outcome (informNewPageRead config env index false false) (emplacePage before index page)
      (fun _ final => Fetching config env before final before.pageManager.pendingPages ∧
        (final.pageManager.pages.find? index).isSome = true)
      (fun _ _ => False) := by
  cases cached : before.pageManager.pages.find? index with
  | none =>
      have changed := emplacePage_changed cached page
      refine (informNewPageRead_noWait changed.found false).mono ?_ fun _ _ => id
      rintro _ final rfl
      have same := entered_eq config (emplacePage before index page) index page false
      have stays (other : Nat) (isCached : (before.pageManager.pages.find? other).isSome = true) :
          ((emplacePage before index page).pageManager.pages.find? other).isSome = true := by
        by_cases isIndex : other = index
        · rw [isIndex, changed.found]
          rfl
        · rwa [changed.others other isIndex]
      refine ⟨⟨(readIn cached).kept changed ready, ?_, ?_, fun other isCached => ?_, ?_, ?_, ?_⟩, ?_⟩
      · rw [same]; exact changed.remote
      · rw [same]; exact changed.pageBackend
      · rw [same]; exact stays other isCached
      · rw [same]; exact changed.fetches.failedPages
      · rw [same]; exact changed.fetches.fetchThreads
      · rw [same]; exact changed.fetches.pendingPages
      · rw [same, changed.found]; rfl
  | some old =>
      have unchanged : emplacePage before index page = before := by
        simp [emplacePage, KeyMap.emplace, cached]
      rw [unchanged]
      refine (informNewPageRead_noWait cached false).mono ?_ fun _ _ => id
      rintro _ final rfl
      have same := entered_eq config before index old false
      refine ⟨⟨entered_kept ready cached false, ?_, ?_, fun other isCached => ?_, ?_, ?_, ?_⟩, ?_⟩
      all_goals rw [same]
      · exact isCached
      · rw [cached]; rfl

/-- A page as a fetch of a range hands it over. -/
structure HandedOver (config : Config) (world : World) (start : Nat) (read : Nat × Bytes) :
    Prop where
  after : start ≤ read.1
  inside : read.1 * config.pageSize < world.pageBackend.backendSize
  length : read.2.length = config.lengthAt world.pageBackend.backendSize read.1
  bytes : ∀ place, place < read.2.length →
    byteAt read.2 place = byteAt world.stored (read.1 * config.pageSize + place)

private theorem HandedOver.readIn {start : Nat} {read : Nat × Bytes}
    (handed : HandedOver config before start read) (sound : Sound config before)
    (missing : before.pageManager.pages.find? read.1 = none) {realSize : Nat}
    (size : realSize = config.lengthAt before.pageManager.fileSize start) :
    ReadIn config before read.1
      (if read.2.length < realSize then Page.resizeTo ⟨read.2, false⟩ realSize
        else ⟨read.2, false⟩) := by
  have backend := sound.shaped.backend
  have inside := handed.inside
  have length := handed.length
  have before' : start * config.pageSize ≤ read.1 * config.pageSize :=
    Nat.mul_le_mul_right _ handed.after
  have enough : config.lengthAt before.pageManager.fileSize read.1 ≤ realSize := by
    rw [size]
    unfold Config.lengthAt
    omega
  have fits := config.lengthAt_le before.pageManager.fileSize start
  have short := config.lengthAt_le before.pageBackend.backendSize read.1
  have stored (agrees : Agrees config before) : PageStored config before.pageManager.fileSize none
      before.stored read.1 ⟨read.2, false⟩ :=
    pageStored_fetched agrees sound.shaped (Nat.le_refl _) inside length handed.bytes
  split
  · next grows =>
    have tail (place : Nat) (past : realSize ≤ place) : byteAt read.2 place = 0 :=
      Bytes.byteAt_of_length_le (by omega)
    refine ⟨missing, rfl, ⟨by omega, ?_, ?_, fun dirty => by cases dirty⟩, fun agrees =>
      ⟨fun past => ?_, fun _ other onPage => ?_⟩⟩
    · rw [Page.size_resizeTo]
      omega
    · rw [Page.size_resizeTo]
      exact enough
    · rw [Page.byteAt_resizeTo tail]
      exact (stored agrees).tail past
    · rw [Page.byteAt_resizeTo tail]
      exact (stored agrees).clean rfl other onPage
  · next large =>
    refine ⟨missing, rfl, ⟨by omega, ?_, ?_, fun dirty => by cases dirty⟩, stored⟩
    · show read.2.length ≤ config.pageSize
      omega
    · exact Nat.le_trans enough (Nat.le_of_not_lt large)

private theorem handleFetched_spec {start : Nat} {read : Nat × Bytes} (ready : Ready config before)
    (handed : HandedOver config before start read) :
    Outcome (handleFetched config env start read) before
      (fun _ final => Fetching config env before final
          (pendingAfter before.pageManager.pendingPages read.1) ∧
        (final.pageManager.pages.find? read.1).isSome = true)
      (fun _ _ => False) := by
  have ordered : start * config.pageSize ≤ before.pageManager.fileSize := by
    have := Nat.mul_le_mul_right config.pageSize handed.after
    have := handed.inside
    have := ready.sound.shaped.backend
    omega
  simp only [handleFetched, Outcome.bind_iff, Outcome.get_iff, Outcome.modify_iff]
  refine (fetched_entered ready fun missing =>
    handed.readIn ready.sound missing (by rw [sub64_of_le ordered]; rfl)).mono ?_ fun _ _ => id
  rintro _ middle ⟨entered, cached⟩
  refine (@removePendingFetch_spec config env _ read.1 entered.kept.ready true).mono ?_
    fun _ _ => id
  rintro _ final ⟨removed, pages⟩
  rw [entered.pendingPages] at removed
  exact ⟨entered.trans removed, by rw [pages]; exact cached⟩

private theorem handleFetched_loop {start : Nat} {pages : List (Nat × Bytes)}
    (ready : Ready config before)
    (handed : ∀ read ∈ pages, HandedOver config before start read) :
    Outcome (forM pages fun read => handleFetched config env start read) before
      (fun _ final => Fetching config env before final
          ((pages.map Prod.fst).foldl pendingAfter before.pageManager.pendingPages) ∧
        ∀ read ∈ pages, (final.pageManager.pages.find? read.1).isSome = true)
      (fun _ _ => False) := by
  induction pages generalizing before with
  | nil =>
      exact ⟨⟨.refl ready, rfl, rfl, fun _ => id, rfl, rfl, rfl⟩, by simp⟩
  | cons read rest ih =>
      rw [List.forM_cons, Outcome.bind_iff]
      refine (handleFetched_spec ready (handed read List.mem_cons_self)).mono ?_ fun _ _ => id
      rintro _ middle ⟨first, cached⟩
      have restHanded (later : Nat × Bytes) (member : later ∈ rest) :
          HandedOver config middle start later := by
        have handed := handed later (List.mem_cons_of_mem _ member)
        refine ⟨handed.after, ?_, ?_, ?_⟩
        · rw [first.pageBackend]
          exact handed.inside
        · rw [first.pageBackend]
          exact handed.length
        · rw [World.stored, first.remote]
          exact handed.bytes
      refine (ih first.kept.ready restHanded).mono ?_ fun _ _ => id
      rintro _ final ⟨others, cachedRest⟩
      rw [first.pendingPages] at others
      refine ⟨first.trans others, fun later member => ?_⟩
      rcases List.mem_cons.mp member with rfl | member
      · exact others.stays _ cached
      · exact cachedRest later member

private theorem Fetched.handedOver {start : Nat} {pages : List (Nat × Bytes)}
    (fetched : Fetched config before.pageBackend.backendSize before.stored start pages)
    (read : Nat × Bytes) (member : read ∈ pages) : HandedOver config before start read := by
  refine ⟨?_, fetched.inside read member, fetched.length read member, fetched.bytes read member⟩
  have inRange : read.1 ∈ pages.map Prod.fst := List.mem_map_of_mem member
  rw [fetched.indices, List.mem_range'] at inRange
  omega

/-- A fetch that begins inside the backend's file, or of a file that is stored as the client
takes it to be. -/
private theorem fetchPages_kept {start count : Nat} (ready : Ready config before)
    (bounded : start * config.pageSize ≤ before.pageBackend.backendSize ∨
      before.stored.length ≤ before.pageBackend.backendSize) :
    Outcome (fetchPages config env start count) before
      (fun _ => Kept config env before) (fun _ => Kept config env before) := by
  rw [fetchPages, Outcome.bind_iff]
  refine (PageBackend.fetchPages_handed bounded).mono ?_ fun _ _ => False.elim
  rintro ⟨pages, failed⟩ called ⟨⟨trace, rfl⟩, fetched⟩
  have calledKept : Kept config env before { before with trace } :=
    SameView.kept ⟨rfl, rfl, rfl, rfl, rfl⟩ ready ready.fetchSize id
  have handed (read : Nat × Bytes) (member : read ∈ pages) :
      HandedOver config { before with trace } start read :=
    have read := Fetched.handedOver fetched read member
    ⟨read.after, read.inside, read.length, read.bytes⟩
  simp only [Outcome.bind_iff]
  refine (handleFetched_loop calledKept.ready handed).mono ?_ fun _ _ => False.elim
  rintro _ middle ⟨loop, _⟩
  have kept := calledKept.trans loop.kept
  rw [Outcome.ite_iff]
  refine ⟨fun _ => ?_, fun _ => ?_⟩
  · rw [fetchFailed]
    simp only [Outcome.bind_iff, Outcome.modify_iff]
    have noted : Kept config env middle { middle with pageManager := { middle.pageManager with
        failedPages := middle.pageManager.failedPages ++
          (List.range' (start + pages.length) (start + count - (start + pages.length))).filter
            fun failed => !middle.pageManager.failedPages.contains failed } } :=
      SameView.kept ⟨rfl, rfl, rfl, rfl, rfl⟩ kept.ready kept.ready.fetchSize id
    have keptNoted := kept.trans noted
    rw [Outcome.ite_iff]
    refine ⟨fun _ => ?_, fun _ => keptNoted⟩
    exact (removePendingFetch_spec keptNoted.ready false).mono
      (fun _ _ removed => keptNoted.trans removed.1.kept) fun _ _ => False.elim
  · rw [Outcome.modify_iff]
    refine kept.trans (SameView.kept ⟨rfl, rfl, rfl, rfl, rfl⟩ kept.ready ?_ id)
    show 0 < max 1 _
    omega

/-- A fetch thread runs. -/
theorem runFetch_kept (ready : Ready config before) (thread : Nat) :
    Outcome (runFetch config env thread) before (fun _ => Kept config env before)
      (fun _ => Kept config env before) := by
  simp only [runFetch, Outcome.bind_iff, Outcome.get_iff]
  cases selected : before.fetchThreads[thread]? with
  | none => exact .refl ready
  | some range =>
      obtain ⟨start, count⟩ := range
      have kept : Kept config env before
          { before with fetchThreads := before.fetchThreads.eraseIdx thread } :=
        SameView.kept ⟨rfl, rfl, rfl, rfl, rfl⟩ ready ready.fetchSize fun inside range member =>
          inside range (List.mem_of_mem_eraseIdx member)
      have bounded : start * config.pageSize ≤ before.pageBackend.backendSize ∨
          before.stored.length ≤ before.pageBackend.backendSize := by
        refine ready.fetches.imp (fun inside => ?_) fun agrees => Nat.le_of_eq agrees.size_eq.symm
        exact inside _ (List.mem_of_getElem? selected)
      exact (fetchPages_kept kept.ready bounded).mono (fun _ _ => kept.trans)
        fun _ _ => kept.trans

/-- The page a reader waits for is there. -/
def Shown (config : Config) (env : Env) (index : Nat) (before after : World) : Prop :=
  Kept config env before after ∧ (after.pageManager.pages.find? index).isSome = true

private theorem awaitPage_spec (fuel : Nat) (ready : Ready config before) :
    Outcome (awaitPage config env index fuel) before (fun _ => Shown config env index before)
      (fun _ => Kept config env before) := by
  induction fuel generalizing before with
  | zero => exact .refl ready
  | succ fuel ih =>
      simp only [awaitPage, Outcome.bind_iff, Outcome.get_iff, Outcome.ite_iff, Outcome.pure_iff,
        Outcome.throw_iff]
      refine ⟨fun cached => ⟨.refl ready, cached⟩, fun _ => ⟨fun _ => .refl ready,
        fun _ => ⟨fun _ => .refl ready, fun _ => ?_⟩⟩⟩
      refine (runFetch_kept ready _).mono ?_ fun _ _ => id
      intro _ middle kept
      exact (ih kept.ready).mono (fun _ _ shown => ⟨kept.trans shown.1, shown.2⟩)
        fun _ _ => kept.trans

private theorem Shown.informRead (shown : Shown config env index before middle) :
    Outcome (informRead config env index) middle (fun _ => Shown config env index before)
      (fun _ => Kept config env before) := by
  obtain ⟨kept, cached⟩ := shown
  obtain ⟨page, found⟩ := Option.isSome_iff_exists.mp cached
  simp only [PageManager.informRead, Outcome.bind_iff, Outcome.get_iff, found, Outcome.ite_iff,
    Outcome.pure_iff]
  refine ⟨fun cacheMgr => ?_, fun _ => ⟨kept, cached⟩⟩
  exact (CacheManager.informPage_kept kept.ready cacheMgr found _ _ _).mono
    (fun _ _ informed => ⟨kept.trans informed.1, informed.2⟩) fun _ _ => kept.trans

end PageManager

private theorem SameView.refl (world : World) : SameView world world := ⟨rfl, rfl, rfl, rfl, rfl⟩

theorem SameView.trans (left : SameView before middle) (right : SameView middle after) :
    SameView before after :=
  ⟨right.remote.trans left.remote, right.pageBackend.trans left.pageBackend,
    right.fileSize.trans left.fileSize, right.pages.trans left.pages,
    right.cacheManager.trans left.cacheManager⟩

namespace PageManager

/-- Inside the file `GetFetchSize` only computes. -/
theorem getFetchSize_inside (inside : index * config.pageSize < before.pageManager.fileSize) :
    Outcome (getFetchSize config index) before
      (fun result final => final = before ∧
        result = fetchSizeAt config before.pageBackend.backendSize before.pageManager index)
      (fun _ _ => False) := by
  simp only [getFetchSize, Outcome.bind_iff, Outcome.get_iff, Nat.not_le.mpr inside, if_false,
    Outcome.pure_iff]
  trivial

private theorem fetchSizeAt_inside {backendSize : Nat} {manager : PageManager}
    (some : fetchSizeAt config backendSize manager index ≠ 0) :
    index * config.pageSize < backendSize := by
  unfold fetchSizeAt at some
  by_cases empty : backendSize = 0
  · exact absurd (if_pos empty) some
  · rw [if_neg empty] at some
    by_cases past : (backendSize - 1) / config.pageSize < index
    · exact absurd (if_pos past) some
    · have := (Nat.le_div_iff_mul_le config.pageSize_pos).mp (Nat.le_of_not_lt past)
      omega

private theorem startFetch_view (world : World) (index readCount : Nat) :
    SameView world (startFetch world index readCount) := ⟨rfl, rfl, rfl, rfl, rfl⟩

private theorem startFetch_inside {readCount : Nat} (inside : FetchesInside config before)
    (some : fetchSizeAt config before.pageBackend.backendSize before.pageManager index ≠ 0) :
    FetchesInside config (startFetch before index readCount) := by
  intro range member
  rcases List.mem_append.mp member with waiting | started
  · exact inside range waiting
  · obtain rfl := List.mem_singleton.mp started
    exact Nat.le_of_lt (fetchSizeAt_inside some)

private theorem advanceReadLoop_view (remaining nextIdx : Nat) :
    Outcome (advanceReadLoop config remaining nextIdx) before
      (fun _ final => SameView before final ∧
        final.pageManager.fetchSize = before.pageManager.fetchSize ∧
        (FetchesInside config before → FetchesInside config final))
      (fun _ _ => False) := by
  induction remaining generalizing nextIdx with
  | zero => exact ⟨.refl _, rfl, id⟩
  | succ remaining ih =>
      simp only [advanceReadLoop, Outcome.bind_iff, Outcome.get_iff, Outcome.ite_iff,
        Outcome.pure_iff, Outcome.modify_iff]
      refine ⟨fun _ => ⟨.refl _, trivial, id⟩, fun inside => ?_⟩
      refine (getFetchSize_inside (Nat.lt_of_not_le inside)).mono ?_ fun _ _ => id
      rintro _ _ ⟨rfl, rfl⟩
      exact ⟨fun some => ⟨startFetch_view _ _ _, rfl, fun inside => startFetch_inside inside some⟩,
        fun _ => ih _⟩

private theorem doAdvanceRead_view (index : Nat) :
    Outcome (doAdvanceRead config index) before
      (fun _ final => SameView before final ∧
        final.pageManager.fetchSize = before.pageManager.fetchSize ∧
        (FetchesInside config before → FetchesInside config final))
      (fun _ _ => False) := by
  rw [doAdvanceRead, Outcome.ite_iff]
  exact ⟨fun _ => ⟨.refl _, rfl, id⟩, fun _ => advanceReadLoop_view _ _⟩

private theorem countBeforePending_pos {manager : PageManager} {readCount : Nat}
    (notPending : isFetchPending manager index = false) (positive : 0 < readCount) :
    0 < countBeforePending manager index readCount := by
  cases readCount with
  | zero => cases positive
  | succ readCount =>
      simp only [countBeforePending, notPending, Bool.false_eq_true, if_false]
      exact Nat.succ_pos _

/-- Nothing is fetched for a page only past the backend's end. -/
theorem fetchSizeAt_zero {backendSize : Nat} {manager : PageManager}
    (missing : manager.pages.find? index = none)
    (notPending : isFetchPending manager index = false) (fetchSize : 0 < manager.fetchSize)
    (zero : fetchSizeAt config backendSize manager index = 0) :
    backendSize ≤ index * config.pageSize := by
  simp only [fetchSizeAt, missing, Option.isSome_none, Bool.false_eq_true, if_false] at zero
  split at zero
  · omega
  · split at zero
    · next past =>
      have := Nat.lt_mul_of_div_lt past config.pageSize_pos
      omega
    · next positive inside =>
      have some : 0 < (if 0 < index then
          min ((backendSize - 1) / config.pageSize - index + 1) manager.fetchSize else 1) := by
        split
        · omega
        · exact Nat.one_pos
      exfalso
      revert zero
      cases next : (manager.pages.entriesFrom (index + 1)).head? with
      | none =>
          exact Nat.ne_of_gt (countBeforePending_pos notPending some)
      | some entry =>
          have later := (KeyMap.mem_entriesFrom.mp (List.mem_of_mem_head? next)).1
          exact Nat.ne_of_gt (countBeforePending_pos notPending (Nat.lt_min.mpr ⟨by omega, some⟩))

private theorem readIn_zeros (missing : before.pageManager.pages.find? index = none)
    (inside : index * config.pageSize < before.pageManager.fileSize)
    (backend : before.pageBackend.backendSize ≤ index * config.pageSize) :
    ReadIn config before index ⟨List.replicate config.pageSize 0, false⟩ := by
  refine ⟨missing, rfl, ⟨inside, ?_, ?_, fun dirty => by cases dirty⟩, fun agrees =>
    ⟨fun _ => Bytes.byteAt_replicate _ _, fun _ _ _ => ?_⟩⟩
  · exact Nat.le_of_eq List.length_replicate
  · show _ ≤ (List.replicate config.pageSize (0 : UInt8)).length
    rw [List.length_replicate]
    exact config.lengthAt_le _ _
  · rw [Bytes.byteAt_replicate, Bytes.byteAt_of_length_le]
    rw [← agrees.size_eq]
    omega

private theorem awaitPage_shown (kept : Kept config env before middle) (fuel : Nat) :
    Outcome (do
        awaitPage config env index fuel
        informRead config env index) middle (fun _ => Shown config env index before)
      (fun _ => Kept config env before) := by
  rw [Outcome.bind_iff]
  refine (awaitPage_spec fuel kept.ready).mono ?_ fun _ _ => kept.trans
  intro _ final shown
  exact Shown.informRead ⟨kept.trans shown.1, shown.2⟩

private theorem getPageRead_spec (ready : Ready config before)
    (inside : index * config.pageSize < before.pageManager.fileSize) :
    Outcome (getPageRead config env index) before (fun _ => Shown config env index before)
      (fun _ => Kept config env before) := by
  rw [getPageRead, Outcome.bind_iff, Outcome.get_iff, if_neg (Nat.not_le.mpr inside)]
  cases cached : (before.pageManager.pages.find? index).isSome with
  | true =>
      rw [if_pos rfl, Outcome.bind_iff]
      refine (doAdvanceRead_view index).mono ?_ fun _ _ => False.elim
      rintro _ middle ⟨same, fetchSize, fetches⟩
      refine Shown.informRead ⟨same.kept ready (fetchSize ▸ ready.fetchSize) fetches, ?_⟩
      rw [same.pages]
      exact cached
  | false =>
      have missing : before.pageManager.pages.find? index = none := by simpa using cached
      rw [if_neg (by simp)]
      cases pending : isFetchPending before.pageManager index with
      | true =>
          simp only [if_true, Outcome.bind_iff, Outcome.pure_iff, Outcome.get_iff, reduceCtorEq,
            if_false]
          exact Outcome.bind_iff.mp (awaitPage_shown (.refl ready) _)
      | false =>
          simp only [Bool.false_eq_true, if_false, Outcome.bind_iff, Outcome.map_iff]
          refine (getFetchSize_inside inside).mono ?_ fun _ _ => False.elim
          rintro fetchSize final ⟨same, size⟩
          obtain rfl := same.symm
          by_cases zero : fetchSize = 0
          · simp only [zero, if_true, Outcome.bind_iff, Outcome.modify_iff]
            have backend := fetchSizeAt_zero missing pending ready.fetchSize (size.symm.trans zero)
            exact informNewPageRead_kept ready (readIn_zeros missing inside backend)
              (emplacePage_changed missing _) true
          · have same := startFetch_view before index fetchSize
            have kept : Kept config env before (startFetch before index fetchSize) :=
              same.kept ready ready.fetchSize fun inside =>
                startFetch_inside inside (size ▸ zero)
            simp only [Option.some.injEq, zero, if_false, Outcome.bind_iff, Outcome.modify_iff,
              Outcome.get_iff]
            exact Outcome.bind_iff.mp (awaitPage_shown kept _)

/-- A read of part of a page, and what it returns. -/
structure ReadOf (config : Config) (env : Env) (before : World) (offset length : Nat)
    (data : Bytes) (after : World) : Prop where
  kept : Kept config env before after
  size : data.length = length
  bytes : Agrees config before → data = slice (before.content config) offset length

theorem readPage_spec {offset length : Nat} (ready : Ready config before)
    (onPage : offset + length ≤ config.pageSize) (some : 0 < length)
    (inside : index * config.pageSize + offset + length ≤ before.pageManager.fileSize) :
    Outcome (readPage config env index offset length) before
      (ReadOf config env before (index * config.pageSize + offset) length)
      (fun _ => Kept config env before) := by
  rw [readPage, Outcome.bind_iff, Outcome.get_iff, if_neg (Nat.not_lt.mpr inside),
    Outcome.bind_iff]
  refine (getPageRead_spec ready (by omega)).mono ?_ fun _ _ => id
  rintro _ final ⟨kept, cached⟩
  obtain ⟨page, found⟩ := Option.isSome_iff_exists.mp cached
  simp only [Outcome.bind_iff, Outcome.get_iff, found, Outcome.pure_iff]
  have filled := kept.ready.sound.shaped.filled found
  rw [kept.fileSize] at filled
  unfold Config.lengthAt at filled
  have enough : offset + length ≤ page.data.length := by
    show offset + length ≤ page.size
    omega
  refine ⟨kept, by rw [Bytes.length_slice]; omega, fun agrees => ?_⟩
  rw [← kept.content agrees]
  apply Bytes.ext_byteAt
  · rw [Bytes.length_slice, Bytes.length_slice, World.length_content, kept.fileSize]
    omega
  · intro position
    rw [Bytes.byteAt_slice, Bytes.byteAt_slice]
    split
    · next within =>
      rw [(kept.agrees agrees).byteAt_content kept.ready.sound, Nat.add_assoc,
        World.byte_page (by omega), World.cell_cached found]
    · rfl

end PageManager

namespace File

open PageManager

private theorem readLoop_spec (fuel : Nat) {byte length : Nat} (ready : Ready config before)
    (enough : length ≤ fuel) (inside : byte + length ≤ before.pageManager.fileSize) :
    Outcome (readLoop config env fuel byte length) before
      (ReadOf config env before byte length) (fun _ => Kept config env before) := by
  induction fuel generalizing before byte length with
  | zero =>
      obtain rfl : length = 0 := by omega
      exact ⟨.refl ready, rfl, fun _ => rfl⟩
  | succ fuel ih =>
      cases length with
      | zero => exact ⟨.refl ready, rfl, fun _ => rfl⟩
      | succ length =>
          have split : byte / config.pageSize * config.pageSize + byte % config.pageSize = byte :=
            Nat.div_add_mod' byte config.pageSize
          have onPage := Nat.mod_lt byte config.pageSize_pos
          rw [readLoop]
          rotate_left
          · exact Nat.succ_ne_zero length
          generalize place : byte - byte / config.pageSize * config.pageSize = pOffset
          generalize size : min (length + 1) (config.pageSize - pOffset) = pLength
          have start : byte / config.pageSize * config.pageSize + pOffset = byte := by omega
          rw [Outcome.bind_iff]
          refine (readPage_spec ready (by omega) (by omega) (by omega)).mono ?_ fun _ _ => id
          rw [start]
          rintro data middle ⟨kept, dataLength, first⟩
          rw [Outcome.bind_iff]
          refine (ih kept.ready (by omega) (by rw [kept.fileSize]; omega)).mono ?_
            fun _ _ => kept.trans
          rintro rest final ⟨keptRest, restLength, second⟩
          refine ⟨kept.trans keptRest, ?_, fun agrees => ?_⟩
          · rw [List.length_append]
            omega
          · rw [first agrees, second (kept.agrees agrees), kept.content agrees,
              ← Bytes.slice_append _ _ _ _ (by rw [World.length_content]; omega)]
            congr 1
            omega

/-- A cached read inside the file. -/
theorem readBytes_spec {offset length : Nat} (normal : config.cacheType = .normal)
    (ready : Ready config before) (inside : offset + length ≤ before.pageManager.fileSize) :
    Outcome (readBytes config env offset length) before
      (ReadOf config env before offset length) (fun _ => Kept config env before) := by
  rw [readBytes, Outcome.bind_iff, Outcome.get_iff, if_neg (Nat.not_lt.mpr inside),
    if_neg (by rw [normal]; simp)]
  exact readLoop_spec length ready (Nat.le_refl _) inside

/-- A read changes nothing of the file, whatever its range and the cache type. -/
theorem readBytes_kept (ready : Ready config before) (offset length : Nat) :
    Outcome (readBytes config env offset length) before (fun _ => Kept config env before)
      (fun _ => Kept config env before) := by
  rw [readBytes, Outcome.bind_iff, Outcome.get_iff]
  simp only [Outcome.ite_iff, Outcome.throw_iff]
  refine ⟨fun _ => .refl ready, fun inside => ⟨fun none => ⟨fun _ => ?_, fun _ => ?_⟩,
    fun cached => ?_⟩⟩
  · simp only [logError, Outcome.bind_iff, Outcome.modify_iff, Outcome.pure_iff]
    exact SameView.kept ⟨rfl, rfl, rfl, rfl, rfl⟩ ready ready.fetchSize id
  · rw [Outcome.bind_iff]
    refine (PageBackend.readFile_spec offset length).mono ?_ fun _ _ => False.elim
    rintro ⟨data, failed⟩ _ ⟨rfl, _⟩
    have kept : Kept config env before before.called :=
      SameView.kept ⟨rfl, rfl, rfl, rfl, rfl⟩ ready ready.fetchSize id
    simp only [Outcome.ite_iff, Outcome.throw_iff, Outcome.pure_iff, Outcome.bind_iff]
    exact ⟨fun _ => kept, fun _ => kept⟩
  · exact (readLoop_spec length ready (Nat.le_refl _) (Nat.le_of_not_lt inside)).mono
      (fun _ _ => ReadOf.kept) fun _ _ => id

end File

end

end Andromeda.FileData
