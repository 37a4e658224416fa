import Andromeda.FileData.CacheLimitsProperties
import Andromeda.FileData.PageAccess

/-! Writing one page: while the page is prepared, the invariants hold for the size
the file is about to have; a throw brings them back to its old size. -/

set_option autoImplicit false

namespace Andromeda.FileData

open Andromeda.Library
open Andromeda.Library.Bytes (byteAt resize overwrite slice)

/-- Extending a page inside its data's zero tail changes no byte of it. -/
theorem Page.byteAt_resizeTo {page : Page} {size : Nat}
    (tail : ∀ place, size ≤ place → byteAt page.data place = 0) (place : Nat) :
    byteAt (page.resizeTo size).data place = byteAt page.data place := by
  rw [Page.resizeTo, Bytes.byteAt_resize]
  split
  · rfl
  · next past => exact (tail place (Nat.le_of_not_lt past)).symm

@[simp] theorem Page.size_resizeTo (page : Page) (size : Nat) :
    (page.resizeTo size).size = size := Bytes.length_resize _ _

@[simp] theorem Page.dirty_resizeTo (page : Page) (size : Nat) :
    (page.resizeTo size).dirty = page.dirty := rfl

theorem Config.capacity_mono (config : Config) {left right : Page}
    (le : left.size ≤ right.size) : config.capacity left ≤ config.capacity right := by
  unfold Config.capacity
  apply Nat.mul_le_mul_right
  split
  · exact Nat.zero_le _
  · rw [if_neg (by omega)]
    exact Nat.succ_le_succ (Nat.div_le_div_right (by omega))

section

variable {config : Config} {bound bound' index : Nat} {exempt exempt' : Option Nat}
  {world after : World}

/-- Change one page and the bound. -/
theorem Shaped.update (shaped : Shaped config bound world)
    (pages : ∀ other, other ≠ index → after.pageManager.pages.find? other =
      world.pageManager.pages.find? other)
    (changed : ∀ page, after.pageManager.pages.find? index = some page →
      PageShaped config bound' index page)
    (others : ∀ other page, other ≠ index →
      world.pageManager.pages.find? other = some page →
      other * config.pageSize < bound' ∧
        config.lengthAt bound' other = config.lengthAt bound other)
    (pageBackend : after.pageBackend = world.pageBackend)
    (backend : world.pageBackend.backendSize ≤ bound') : Shaped config bound' after where
  page {other page} found := by
    by_cases same : other = index
    · subst same
      exact changed page found
    · rw [pages other same] at found
      obtain ⟨inside, sameLength⟩ := others other page same found
      exact (shaped.page found).rebound inside sameLength
  backend := pageBackend ▸ backend
  pending missing := by
    rw [pageBackend] at missing ⊢
    exact shaped.pending missing

/-- Change one page, raise the bound. -/
theorem Stored.update (stored : Stored config bound exempt world) (raised : bound ≤ bound')
    (remote : after.remote = world.remote) (pageBackend : after.pageBackend = world.pageBackend)
    (pages : ∀ other, other ≠ index → after.pageManager.pages.find? other =
      world.pageManager.pages.find? other)
    (changed : ∀ page, after.pageManager.pages.find? index = some page →
      PageStored config bound' exempt' world.stored index page)
    (exempted : ∀ other, other ≠ index → exempt' ≠ some other → exempt ≠ some other) :
    Stored config bound' exempt' after where
  exists_eq := by rw [pageBackend, remote]; exact stored.exists_eq
  size_eq := by rw [pageBackend, World.stored, remote]; exact stored.size_eq
  page {other page} found := by
    have sameStored : after.stored = world.stored := by rw [World.stored, remote]; rfl
    rw [sameStored]
    by_cases same : other = index
    · subst same
      exact changed page found
    · rw [pages other same] at found
      exact ⟨fun past => (stored.page found).tail (Nat.le_trans raised past),
        fun clean other' => (stored.page found).clean clean (exempted other same other')⟩

/-- The fetches and the file size stay as they are. -/
structure SameFetches (before after : World) : Prop where
  fileSize : after.pageManager.fileSize = before.pageManager.fileSize
  fetchSize : after.pageManager.fetchSize = before.pageManager.fetchSize
  pendingPages : after.pageManager.pendingPages = before.pageManager.pendingPages
  failedPages : after.pageManager.failedPages = before.pageManager.failedPages
  fetchThreads : after.fetchThreads = before.fetchThreads

theorem SameFetches.refl (world : World) : SameFetches world world := ⟨rfl, rfl, rfl, rfl, rfl⟩

theorem SameFetches.trans {first second third : World} (left : SameFetches first second)
    (right : SameFetches second third) : SameFetches first third :=
  ⟨right.fileSize.trans left.fileSize, right.fetchSize.trans left.fetchSize,
    right.pendingPages.trans left.pendingPages, right.failedPages.trans left.failedPages,
    right.fetchThreads.trans left.fetchThreads⟩

theorem FileSteps.sameFetches {concerned : Option Nat}
    (steps : FileSteps config concerned world after) : SameFetches world after := by
  obtain ⟨manager, threads⟩ := steps.frame
  exact ⟨by rw [manager], by rw [manager], by rw [manager], by rw [manager], threads⟩

end

/-- The state is one a throw inside a write must not leave: the backend reaches
past the file, or a page past its end is cached while an earlier one is stretched
and will be written so or is unknown to the cache manager. -/
def Stretched (config : Config) (world : World) : Prop :=
  world.pageManager.fileSize < world.pageBackend.backendSize ∨
    (∃ index page, world.pageManager.pages.find? index = some page ∧
      world.pageManager.fileSize ≤ index * config.pageSize) ∧
    ∃ index page, world.pageManager.pages.find? index = some page ∧
      index * config.pageSize < world.pageManager.fileSize ∧
      config.lengthAt world.pageManager.fileSize index < page.size ∧
      (page.dirty = true ∨ ¬ HasEntry world index)

/-- A read handed over a page that is too short for the file. -/
def ReadShort (config : Config) (env : Env) (world : World) : Call → Prop
  | .readFile offset length => length ≤ env.delivered world ∧
      length < config.lengthAt world.pageManager.fileSize (offset / config.pageSize)
  | _ => False

/-- No call throws where a write could not be undone. -/
def Guarded (config : Config) (env : Env) : Prop :=
  ∀ world call, env.fault world call = true →
    ¬ Stretched config world ∧ ¬ ReadShort config env world call

/-- What holds of a page that is being prepared for a write, for the size the file
will have. -/
structure Prepared (config : Config) (index pageSize newFileSize : Nat) (isPartial : Bool)
    (before after : World) : Prop where
  fetches : SameFetches before after
  shaped : Shaped config newFileSize after
  page : ∃ page, after.pageManager.pages.find? index = some page ∧ page.size = pageSize ∧
    (isPartial = true → Stored config before.pageManager.fileSize none before →
      ∀ place, place < config.pageSize →
        byteAt page.data place = before.cell config index place)
  stored : Stored config before.pageManager.fileSize none before →
    Stored config newFileSize (some index) after
  cell : Stored config before.pageManager.fileSize none before → ∀ other place,
    other ≠ index → place < config.pageSize →
    after.cell config other place = before.cell config other place
  settled : Settled config before → Settled config after
  queued : Queued config before.pageManager.fileSize before → Queued config newFileSize after

/-- What a write of a page that threw leaves. -/
structure Undone (config : Config) (env : Env) (before after : World) : Prop where
  fetches : SameFetches before after
  shaped : Shaped config before.pageManager.fileSize after
  live : Live config none after
  stored : Stored config before.pageManager.fileSize none before →
    Stored config before.pageManager.fileSize none after
  settled : (∀ world call, env.fault world call = true → Settled config world) →
    Settled config before → Settled config after
  queued : Queued config before.pageManager.fileSize after
  cell : Stored config before.pageManager.fileSize none before → ∀ index place,
    place < config.pageSize → after.cell config index place = before.cell config index place

/-- A prepared page stays prepared while the limits are enforced. -/
theorem Prepared.moved {config : Config} {index pageSize newFileSize : Nat} {isPartial : Bool}
    {before middle after : World}
    (prepared : Prepared config index pageSize newFileSize isPartial before middle)
    (grows : before.pageManager.fileSize ≤ newFileSize)
    (moved : Moved config (some index) middle after) :
    Prepared config index pageSize newFileSize isPartial before after := by
  have size : middle.pageManager.fileSize ≤ newFileSize := prepared.fetches.fileSize ▸ grows
  obtain ⟨page, found, pageSizeEq, bytes⟩ := prepared.page
  obtain ⟨page', found', data⟩ := moved.steps.concerned_kept found
  refine ⟨prepared.fetches.trans moved.steps.sameFetches, moved.steps.shaped prepared.shaped size,
    ⟨page', found', ?_, ?_⟩, ?_, ?_, ?_, ?_⟩
  · rw [Page.size, data]
    exact pageSizeEq
  · rw [data]
    exact bytes
  · exact fun stored => moved.steps.stored prepared.shaped size (prepared.stored stored)
  · intro stored other place different onPage
    rw [moved.steps.cell prepared.shaped size (prepared.stored stored) (fun _ => id) onPage]
    exact prepared.cell stored other place different onPage
  · exact fun settled => moved.settled prepared.shaped size (prepared.settled settled)
  · exact fun queued => moved.steps.queued prepared.shaped size (prepared.queued queued)

/-- One page of the map is replaced, and nothing else changes. -/
structure PageChanged (index : Nat) (page : Page) (before after : World) : Prop where
  found : after.pageManager.pages.find? index = some page
  others : ∀ other, other ≠ index →
    after.pageManager.pages.find? other = before.pageManager.pages.find? other
  rest : after = { before with
    pageManager := { before.pageManager with pages := after.pageManager.pages } }

namespace PageChanged

variable {config : Config} {index : Nat} {page : Page} {before after : World}

theorem remote (changed : PageChanged index page before after) :
    after.remote = before.remote := by rw [changed.rest]

theorem pageBackend (changed : PageChanged index page before after) :
    after.pageBackend = before.pageBackend := by rw [changed.rest]

theorem cacheManager (changed : PageChanged index page before after) :
    after.cacheManager = before.cacheManager := by rw [changed.rest]

theorem fetches (changed : PageChanged index page before after) : SameFetches before after := by
  rw [changed.rest]
  exact ⟨rfl, rfl, rfl, rfl, rfl⟩

theorem hasEntry (changed : PageChanged index page before after) {other : Nat} :
    HasEntry after other ↔ HasEntry before other := by
  rw [HasEntry, HasEntry, changed.cacheManager]

theorem stored_eq (changed : PageChanged index page before after) :
    after.stored = before.stored := by rw [World.stored, changed.remote]; rfl

/-- The other pages' cells stay. -/
theorem cell_other (changed : PageChanged index page before after) {other place : Nat}
    (different : other ≠ index) :
    after.cell config other place = before.cell config other place := by
  rw [World.cell, World.cell, changed.others other different, changed.stored_eq]

private theorem queueLive (changed : PageChanged index page before after) {queue : List PageInfo}
    (live : QueueLive config (some index) queue before.pageManager.pages) :
    QueueLive config (some index) queue after.pageManager.pages where
  cacheMgr := live.cacheMgr
  cached {info} member isOwn := by
    by_cases same : info.index = index
    · exact ⟨page, by rw [same]; exact changed.found, fun other => absurd (by rw [same]) other⟩
    · obtain ⟨cached, found, size⟩ := live.cached member isOwn
      exact ⟨cached, by rw [changed.others _ same]; exact found,
        fun _ => size (by simpa [eq_comm] using same)⟩

/-- A file stays settled if a dirty page grows, or still reaches the file's end. -/
theorem settled (changed : PageChanged index page before after)
    (dirtyPage : ∀ old, before.pageManager.pages.find? index = some old → old.dirty = true →
      page.dirty = true ∧ (old.size ≤ page.size ∨
        before.pageManager.fileSize ≤ index * config.pageSize + page.size))
    (settled : Settled config before) : Settled config after := by
  intro existing
  rw [changed.pageBackend] at existing ⊢
  rw [changed.fetches.fileSize]
  have reached := settled existing
  by_cases ended : before.pageManager.fileSize ≤
      max before.pageBackend.backendSize (PageManager.maxDirty config after.pageManager.pages)
  · exact ended
  · refine Nat.le_trans reached (Nat.max_le.mpr ⟨Nat.le_max_left _ _, ?_⟩)
    refine Nat.le_trans (PageManager.maxDirty_le_iff.mpr ?_) (Nat.le_max_right _ _)
    intro other old found dirty
    by_cases same : other = index
    · subst same
      obtain ⟨stillDirty, larger | toEnd⟩ := dirtyPage old found dirty
      · exact Nat.le_trans (Nat.add_le_add_left larger _)
          (PageManager.le_maxDirty changed.found stillDirty)
      · exact absurd (Nat.le_trans (Nat.le_trans toEnd
          (PageManager.le_maxDirty changed.found stillDirty)) (Nat.le_max_right _ _)) ended
    · exact PageManager.le_maxDirty ((changed.others _ same).trans found) dirty

/-- Only the entries of the page may be stale. -/
theorem live (changed : PageChanged index page before after) (live : Live config (some index) before) :
    Live config (some index) after := by
  refine ⟨?_, ?_⟩
  · rw [changed.cacheManager]
    exact changed.queueLive live.pageQueue
  · rw [changed.cacheManager]
    exact changed.queueLive live.dirtyQueue

/-- A page new to the map has no entries. -/
theorem live_added {stale : Option Nat} (changed : PageChanged index page before after)
    (missing : before.pageManager.pages.find? index = none) (live : Live config stale before) :
    Live config stale after := by
  have added {queue : List PageInfo}
      (live : QueueLive config stale queue before.pageManager.pages) :
      QueueLive config stale queue after.pageManager.pages := by
    refine ⟨live.cacheMgr, fun {info} member isOwn => ?_⟩
    obtain ⟨cached, found, size⟩ := live.cached member isOwn
    refine ⟨cached, ?_, size⟩
    rw [changed.others, found]
    rintro same
    rw [same, missing] at found
    cases found
  refine ⟨?_, ?_⟩
  · rw [changed.cacheManager]
    exact added live.pageQueue
  · rw [changed.cacheManager]
    exact added live.dirtyQueue

end PageChanged

/-- The same page replaced twice. -/
theorem PageChanged.trans {index : Nat} {first second : Page} {before middle after : World}
    (left : PageChanged index first before middle)
    (right : PageChanged index second middle after) : PageChanged index second before after where
  found := right.found
  others other different := (right.others other different).trans (left.others other different)
  rest := by rw [right.rest, left.rest]

namespace PageManager

variable {config : Config} {env : Env} {world : World} {index : Nat} {page : Page}

theorem changePage_changed (found : world.pageManager.pages.find? index = some page)
    (change : Page → Page) : PageChanged index (change page) world (changePage world index change) := by
  refine ⟨?_, fun other different => ?_, rfl⟩
  · simp [changePage, KeyMap.find?_update, found]
  · simp [changePage, KeyMap.find?_update, different]

theorem emplacePage_changed (missing : world.pageManager.pages.find? index = none)
    (page : Page) : PageChanged index page world (emplacePage world index page) := by
  refine ⟨?_, fun other different => ?_, rfl⟩
  · simp [emplacePage, KeyMap.find?_emplace, missing]
  · simp [emplacePage, KeyMap.find?_emplace, different]

/-- `ResizePage` without the cache manager. -/
theorem resizePage_plain (found : world.pageManager.pages.find? index = some page)
    (pageSize : Nat) :
    Outcome (resizePage config env index pageSize false) world
      (fun _ final => PageChanged index (page.resizeTo pageSize) world final)
      (fun _ _ => False) := by
  simp only [resizePage, Outcome.bind_iff, Outcome.get_iff, found]
  by_cases same : page.size = pageSize
  · rw [if_pos same, Outcome.pure_iff]
    refine ⟨?_, fun _ _ => rfl, rfl⟩
    rw [found, Page.resizeTo, Bytes.resize_of_length_eq same]
  · rw [if_neg same, Outcome.bind_iff, Outcome.modify_iff, Bool.false_and,
      if_neg Bool.false_ne_true, Outcome.pure_iff]
    exact changePage_changed found fun page => page.resizeTo pageSize

end PageManager

/-- The size a file is about to have when a page of it is written. -/
structure Target (config : Config) (fileSize index newFileSize : Nat) : Prop where
  grows : fileSize ≤ newFileSize
  inside : index * config.pageSize < newFileSize
  near : newFileSize ≤ fileSize ∨ newFileSize ≤ (index + 1) * config.pageSize

section

variable {config : Config} {env : Env} {world before middle after : World}
  {index fileSize newFileSize bound : Nat} {page : Page}

/-- No other cached page is concerned if the file reaches the page written. -/
theorem Target.others (target : Target config fileSize index newFileSize)
    (shaped : Shaped config fileSize world) (reached : index * config.pageSize ≤ fileSize)
    {other : Nat} (different : other ≠ index)
    (found : world.pageManager.pages.find? other = some page) :
    other * config.pageSize < newFileSize ∧
      config.lengthAt newFileSize other = config.lengthAt fileSize other := by
  have inside := shaped.inside found
  refine ⟨Nat.lt_of_lt_of_le inside target.grows, ?_⟩
  rcases target.near with same | near
  · rw [Nat.le_antisymm same target.grows]
  · rcases Nat.lt_or_gt_of_ne different with less | greater
    · have ended : (other + 1) * config.pageSize ≤ index * config.pageSize :=
        Nat.mul_le_mul_right _ less
      rw [config.lengthAt_full (Nat.le_trans ended reached),
        config.lengthAt_full (Nat.le_trans (Nat.le_trans ended reached) target.grows)]
    · have after : (index + 1) * config.pageSize ≤ other * config.pageSize :=
        Nat.mul_le_mul_right _ greater
      have same : newFileSize = fileSize := by have := target.grows; omega
      rw [same]

/-- Growing a cached page prepares it. -/
theorem prepared_resize (target : Target config world.pageManager.fileSize index newFileSize)
    (shaped : Shaped config world.pageManager.fileSize world)
    (found : world.pageManager.pages.find? index = some page)
    (changed : PageChanged index (page.resizeTo (config.lengthAt newFileSize index)) world after)
    (isPartial : Bool) :
    Prepared config index (config.lengthAt newFileSize index) newFileSize isPartial
      world after ∧
    (Stored config world.pageManager.fileSize none world →
      Stored config newFileSize none after) := by
  have reached := Nat.le_of_lt (shaped.inside found)
  have tail (stored : Stored config world.pageManager.fileSize none world) (place : Nat)
      (past : config.lengthAt newFileSize index ≤ place) : byteAt page.data place = 0 := by
    by_cases onPage : place < config.pageSize
    · apply (stored.page found).tail
      have := target.grows
      unfold Config.lengthAt at past
      omega
    · have fits := shaped.fits found
      exact Bytes.byteAt_of_length_le (Nat.le_trans fits (Nat.le_of_not_lt onPage))
  have storedNone (stored : Stored config world.pageManager.fileSize none world) :
      Stored config newFileSize none after := by
    refine stored.update target.grows changed.remote changed.pageBackend changed.others ?_
      (fun _ _ _ => by simp)
    rw [changed.found]
    rintro _ ⟨⟩
    refine ⟨fun past => ?_, fun clean _ onPage => ?_⟩
    · rw [Page.byteAt_resizeTo (tail stored)]
      exact (stored.page found).tail (Nat.le_trans target.grows past)
    · rw [Page.byteAt_resizeTo (tail stored)]
      exact (stored.page found).clean clean (by simp) onPage
  refine ⟨⟨changed.fetches, ?_, ⟨_, changed.found, Page.size_resizeTo _ _, ?_⟩, ?_, ?_, ?_, ?_⟩,
    storedNone⟩
  · refine shaped.update changed.others ?_ (fun _ _ => target.others shaped reached)
      changed.pageBackend (Nat.le_trans shaped.backend target.grows)
    rw [changed.found]
    rintro _ ⟨⟩
    exact ⟨target.inside, by simp [config.lengthAt_le], by simp, by simp⟩
  · intro _ stored place _
    rw [Page.byteAt_resizeTo (tail stored), World.cell_cached found]
  · intro stored
    have all := storedNone stored
    exact ⟨all.exists_eq, all.size_eq, fun found => ⟨(all.page found).tail,
      fun clean _ => (all.page found).clean clean (by simp)⟩⟩
  · exact fun _ _ _ different _ => changed.cell_other different
  · refine changed.settled fun old foundOld dirty => ?_
    rw [found] at foundOld
    cases foundOld
    refine ⟨dirty, .inl ?_⟩
    rw [Page.size_resizeTo, shaped.dirtySize found dirty]
    exact config.lengthAt_mono _ target.grows
  · intro queued cacheMgr other otherPage foundOther oversized
    rw [changed.hasEntry]
    by_cases same : other = index
    · subst same
      rw [changed.found] at foundOther
      cases foundOther
      rw [Page.size_resizeTo] at oversized
      exact absurd oversized (Nat.lt_irrefl _)
    · rw [changed.others _ same] at foundOther
      rw [(target.others shaped reached same foundOther).2] at oversized
      exact queued cacheMgr other otherPage foundOther oversized

/-- A page that was grown when a limit's enforcement threw is brought back to its
size: `middle` is the state of the throw, `restored` has the page cut back, and in
`after` the cache manager knows. -/
private theorem undone_resize {size : Nat} {exception : Exception} {middlePage : Page}
    {grown middle restored : World}
    (shaped : Shaped config world.pageManager.fileSize world)
    (queued : Queued config world.pageManager.fileSize world)
    (found : world.pageManager.pages.find? index = some page) (grows : page.size ≤ size)
    (reach : page.dirty = true → page.size = size ∨
      world.pageManager.fileSize ≤ index * config.pageSize + page.size)
    (changed : PageChanged index (page.resizeTo size) world grown)
    (bounds : world.pageManager.fileSize ≤ bound)
    (shapedGrown : Shaped config bound grown)
    (queuedGrown : Queued config bound grown)
    (storedGrown : Stored config world.pageManager.fileSize none world →
      Stored config bound none grown)
    (others : ∀ other page, other ≠ index →
      world.pageManager.pages.find? other = some page →
      config.lengthAt world.pageManager.fileSize other = config.lengthAt bound other)
    (threw : Threw config env (some index) grown exception middle)
    (notStretched : middle.pageBackend.backendSize ≤ world.pageManager.fileSize)
    (foundMiddle : middle.pageManager.pages.find? index = some middlePage)
    (restore : PageChanged index (middlePage.resizeTo page.size) middle restored)
    (moved : Moved config (some index) restored after)
    (live : Live config none after) : Undone config env world after := by
  have sizeGrown : grown.pageManager.fileSize ≤ bound := changed.fetches.fileSize ▸ bounds
  have shapedMiddle := threw.steps.shaped shapedGrown sizeGrown
  obtain ⟨grownPage, foundGrown, sameData, wasDirty⟩ := threw.steps.pagesShrink _ _ foundMiddle
  rw [changed.found] at foundGrown
  cases foundGrown
  have bytes (place : Nat) : byteAt (middlePage.resizeTo page.size).data place =
      byteAt page.data place := by
    rw [Page.resizeTo, Bytes.byteAt_resize, sameData, Page.resizeTo, Bytes.byteAt_resize]
    by_cases inside : place < page.size
    · rw [if_pos inside, if_pos (by omega)]
    · rw [if_neg inside, Bytes.byteAt_of_length_le (Nat.le_of_not_lt inside)]
  have fromWorld {other : Nat} {otherPage : Page} (different : other ≠ index)
      (foundOther : middle.pageManager.pages.find? other = some otherPage) :
      ∃ old, world.pageManager.pages.find? other = some old ∧ otherPage.data = old.data := by
    obtain ⟨old, foundOld, data, _⟩ := threw.steps.pagesShrink _ _ foundOther
    rw [changed.others _ different] at foundOld
    exact ⟨old, foundOld, data⟩
  have fetches : SameFetches world restored :=
    (changed.fetches.trans threw.steps.sameFetches).trans restore.fetches
  have shapedRestored : Shaped config world.pageManager.fileSize restored := by
    refine shapedMiddle.update restore.others ?_ ?_ restore.pageBackend notStretched
    · rw [restore.found]
      rintro _ ⟨⟩
      have shape := shaped.page found
      exact ⟨shape.inside, by simpa using shape.fits, by simpa using shape.filled,
        fun dirty => by simpa using shape.dirtySize (wasDirty dirty)⟩
    · intro other otherPage different foundOther
      obtain ⟨old, foundOld, _⟩ := fromWorld different foundOther
      exact ⟨shaped.inside foundOld, others other old different foundOld⟩
  have queuedRestored : Queued config world.pageManager.fileSize restored := by
    intro cacheMgr other otherPage foundOther oversized
    rw [restore.hasEntry]
    by_cases atIndex : other = index
    · subst atIndex
      rw [restore.found] at foundOther
      cases foundOther
      rw [Page.size_resizeTo] at oversized
      exact threw.steps.concerned_entry changed.found
        (changed.hasEntry.mpr (queued cacheMgr other page found oversized))
    · rw [restore.others _ atIndex] at foundOther
      obtain ⟨old, foundOld, _⟩ := fromWorld atIndex foundOther
      rw [others other old atIndex foundOld] at oversized
      exact threw.steps.queued shapedGrown sizeGrown queuedGrown cacheMgr other otherPage
        foundOther oversized
  have size : restored.pageManager.fileSize ≤ world.pageManager.fileSize :=
    Nat.le_of_eq fetches.fileSize
  have storedRestored : Stored config world.pageManager.fileSize none world →
      Stored config world.pageManager.fileSize none restored := by
    intro stored
    have storedMiddle := threw.steps.stored shapedGrown sizeGrown (storedGrown stored)
    refine ⟨?_, ?_, ?_⟩
    · rw [restore.pageBackend, restore.remote]
      exact storedMiddle.exists_eq
    · rw [restore.pageBackend, restore.stored_eq]
      exact storedMiddle.size_eq
    · intro other otherPage foundOther
      rw [restore.stored_eq]
      by_cases atIndex : other = index
      · subst atIndex
        rw [restore.found] at foundOther
        cases foundOther
        refine ⟨fun past => ?_, fun clean _ onPage => ?_⟩
        · rw [bytes]
          exact (stored.page found).tail past
        · have agrees := (storedMiddle.page foundMiddle).clean clean (by simp) onPage
          rw [bytes, ← agrees, sameData, Page.resizeTo, Bytes.byteAt_resize]
          split
          · rfl
          · next past => exact Bytes.byteAt_of_length_le (by unfold Page.size at grows; omega)
      · rw [restore.others _ atIndex] at foundOther
        obtain ⟨old, foundOld, data⟩ := fromWorld atIndex foundOther
        refine ⟨fun past => ?_, (storedMiddle.page foundOther).clean⟩
        rw [data]
        exact (stored.page foundOld).tail past
  refine ⟨fetches.trans moved.steps.sameFetches, moved.steps.shaped shapedRestored size, live,
    fun stored => moved.steps.stored shapedRestored size (storedRestored stored), fun faults _ => ?_,
    moved.steps.queued shapedRestored size queuedRestored, fun stored other place onPage => ?_⟩
  · obtain ⟨stop, call, fault, rfl⟩ := threw.fault
    have settledStop : Settled config stop := faults stop call fault
    refine moved.settled shapedRestored size (restore.settled ?_ settledStop)
    intro old foundOld dirty
    have : middlePage = old := Option.some.inj (foundMiddle.symm.trans foundOld)
    subst this
    refine ⟨dirty, ?_⟩
    rw [Page.size_resizeTo, ← restore.fetches.fileSize, fetches.fileSize]
    rcases reach (wasDirty dirty) with sameSize | ended
    · refine .inl (Nat.le_of_eq ?_)
      rw [sameSize, Page.size, sameData]
      exact Page.size_resizeTo _ _
    · exact .inr ended
  · rw [moved.steps.cell shapedRestored size (storedRestored stored) (by simp) onPage]
    by_cases atIndex : other = index
    · rw [atIndex, World.cell_cached restore.found, World.cell_cached found, bytes]
    · rw [restore.cell_other atIndex,
        threw.steps.cell shapedGrown sizeGrown (storedGrown stored) (by simp) onPage,
        changed.cell_other atIndex]

/-- A write of a page that threw. -/
structure PageWriteThrew (config : Config) (env : Env) (before : World) (exception : Exception)
    (after : World) : Prop where
  thrown : exception.isThrown = true
  fault : (∃ world call, env.fault world call = true) ∨
    before.stored.length < before.pageBackend.backendSize
  undone : Guarded config env → Queued config before.pageManager.fileSize before →
    Undone config env before after

end

namespace PageManager

variable {config : Config} {env : Env} {world : World} {index newFileSize : Nat} {page : Page}

theorem onThrow_iff {computation undo : Exec Unit} {Returned : Unit → World → Prop}
    {Thrown : Exception → World → Prop} :
    Outcome (onThrow computation undo) world Returned Thrown ↔
      Outcome computation world Returned fun exception middle =>
        (exception.isThrown = true →
          Outcome undo middle (fun _ final => Thrown exception final) Thrown) ∧
        (exception.isThrown = false → Thrown exception middle) := by
  simp only [onThrow, Outcome.tryCatch_iff, Outcome.bind_iff, Outcome.ite_iff,
    Outcome.throw_iff, Bool.not_eq_true]

end PageManager

namespace CacheManager

variable {config : Config} {env : Env} {world : World} {index : Nat} {page : Page}

private theorem informPage_quiet (found : world.pageManager.pages.find? index = some page)
    (entries : EntriesAtLeast index (config.capacity page) world) (entry : HasEntry world index)
    (dirty canWait mgrLock : Bool) :
    Outcome (informPage config env index dirty canWait mgrLock) world (fun _ _ => True)
      (fun _ _ => False) := by
  obtain ⟨info, member, isOwn, same⟩ := entry
  have queued : config.capacity page ≤ world.cacheManager.queuedSize ownManager index := by
    obtain ⟨first, firstFound⟩ := lookup_isSome member
    rw [isOwn, same] at firstFound
    obtain ⟨firstMember, firstOwn, firstSame⟩ := lookup_eq_some firstFound
    rw [queuedSize, firstFound]
    exact entries first (.inl firstMember) firstOwn firstSame
  simp only [informPage, Outcome.bind_iff, Outcome.get_iff, found, Outcome.set_iff]
  rw [if_neg (Nat.not_lt.mpr queued)]
  trivial

/-- The entries of a live page that has not grown since are large enough. -/
theorem Live.entriesAtLeast (live : Live config none world)
    (found : world.pageManager.pages.find? index = some page) {size : Nat}
    (small : size ≤ config.capacity page) : EntriesAtLeast index size world := by
  intro info member isOwn same
  rcases member with member | member
  · obtain ⟨cached, foundCached, entrySize⟩ := live.pageQueue.cached member isOwn
    rw [same, found] at foundCached
    cases foundCached
    rwa [entrySize (by simp)]
  · obtain ⟨cached, foundCached, entrySize⟩ := live.dirtyQueue.cached member isOwn
    rw [same, found] at foundCached
    cases foundCached
    rwa [entrySize (by simp)]

theorem EntriesAtLeast.changed {after : World} {size : Nat}
    (entries : EntriesAtLeast index size world) {other : Nat}
    (changed : PageChanged other page world after) : EntriesAtLeast index size after := by
  intro info member
  rw [changed.cacheManager] at member
  exact entries info member

end CacheManager

namespace PageManager

variable {config : Config} {env : Env} {world : World} {index newFileSize : Nat} {page : Page}

private theorem restorePage_spec {middle : World} {middlePage : Page} {size : Nat}
    (found : middle.pageManager.pages.find? index = some middlePage)
    (live : Live config (some index) middle)
    (entries : CacheManager.EntriesAtLeast index (config.capacity (middlePage.resizeTo size))
      middle) :
    Outcome (do
        resizePage config env index size false
        CacheManager.resizePage config env index) middle
      (fun _ final => ∃ restored, PageChanged index (middlePage.resizeTo size) middle restored ∧
        Moved config (some index) restored final ∧ Live config none final)
      (fun _ _ => False) := by
  rw [Outcome.bind_iff]
  refine (resizePage_plain found size).mono ?_ fun _ _ => False.elim
  intro _ restored changed
  refine (CacheManager.shrink_moved (changed.live live) changed.found
    (entries.changed changed)).mono ?_ fun _ _ => id
  rintro _ final ⟨moved, live, _⟩
  exact ⟨restored, changed, moved, live⟩

/-- A page that was grown, and brought back after a throw. -/
structure ResizeUndone (config : Config) (env : Env) (index size : Nat) (page : Page)
    (before grown middle : World) (middlePage : Page) (restored : World) (exception : Exception)
    (after : World) : Prop where
  grows : page.size ≤ size
  changed : PageChanged index (page.resizeTo size) before grown
  threw : Threw config env (some index) grown exception middle
  found : middle.pageManager.pages.find? index = some middlePage
  restore : PageChanged index (middlePage.resizeTo page.size) middle restored
  moved : Moved config (some index) restored after
  live : Live config none after

/-- A page brought back leaves the file as it was before the write. -/
theorem ResizeUndone.threw_write {grown middle restored final : World} {middlePage : Page}
    {exception : Exception}
    (undone : ResizeUndone config env index (config.lengthAt newFileSize index) page world grown
      middle middlePage restored exception final)
    (target : Target config world.pageManager.fileSize index newFileSize)
    (shaped : Shaped config world.pageManager.fileSize world)
    (found : world.pageManager.pages.find? index = some page) :
    PageWriteThrew config env world exception final := by
  obtain ⟨stop, call, fault, stopped⟩ := undone.threw.fault
  refine ⟨undone.threw.thrown, .inl ⟨stop, call, fault⟩, fun guarded queued => ?_⟩
  obtain ⟨prepared, storedGrown⟩ := prepared_resize target shaped found undone.changed true
  have reach : page.dirty = true → page.size = config.lengthAt newFileSize index ∨
      world.pageManager.fileSize ≤ index * config.pageSize + page.size := by
    intro dirty
    have exactSize := shaped.dirtySize found dirty
    have inside := shaped.inside found
    have grown := target.grows
    have near := target.near
    rw [Nat.succ_mul] at near
    unfold Config.lengthAt at *
    omega
  refine undone_resize shaped queued found undone.grows reach undone.changed target.grows
    prepared.shaped (prepared.queued queued) storedGrown
    (fun other otherPage different foundOther =>
      ((target.others shaped (Nat.le_of_lt (shaped.inside found)) different foundOther).2).symm)
    undone.threw ?_ undone.found undone.restore undone.moved undone.live
  have fileSize : middle.pageManager.fileSize = world.pageManager.fileSize :=
    (undone.changed.fetches.trans undone.threw.steps.sameFetches).fileSize
  have notStretched := (guarded stop call fault).1
  subst stopped
  by_contra past
  exact notStretched (.inl (lt_of_eq_of_lt fileSize (Nat.lt_of_not_le past)))

/-- `InformResizePage`. -/
theorem informResizePage_spec
    (target : Target config world.pageManager.fileSize index newFileSize)
    (shaped : Shaped config world.pageManager.fileSize world) (live : Live config none world)
    (found : world.pageManager.pages.find? index = some page) (isPartial : Bool) :
    Outcome (informResizePage config env index true (config.lengthAt newFileSize index)) world
      (fun _ final => Prepared config index (config.lengthAt newFileSize index) newFileSize
        isPartial world final ∧ Live config none final)
      (PageWriteThrew config env world) := by
  simp only [informResizePage, Outcome.bind_iff, Outcome.get_iff, found]
  refine (resizePage_plain found _).mono ?_ fun _ _ => False.elim
  intro _ grown changed
  obtain ⟨prepared, storedGrown⟩ := prepared_resize target shaped found changed isPartial
  have liveGrown := changed.live live.weaken
  rw [Outcome.ite_iff, onThrow_iff]
  refine ⟨fun cacheMgr => ?_, fun noCacheMgr => ⟨prepared, ?_⟩⟩
  · have informed : Outcome (CacheManager.informPage config env index true true true) grown _ _ :=
      CacheManager.informPage_moved liveGrown cacheMgr changed.found true true true
    by_cases quiet : Queued config world.pageManager.fileSize world ∧
        config.lengthAt newFileSize index < page.size
    · obtain ⟨queued, shrinks⟩ := quiet
      have oversized : config.lengthAt world.pageManager.fileSize index < page.size :=
        Nat.lt_of_le_of_lt (config.lengthAt_mono _ target.grows) shrinks
      have smaller : config.capacity (page.resizeTo (config.lengthAt newFileSize index)) ≤
          config.capacity page := config.capacity_mono (by simpa using Nat.le_of_lt shrinks)
      refine (informed.and (CacheManager.informPage_quiet changed.found
        ((CacheManager.Live.entriesAtLeast live found smaller).changed changed)
        (changed.hasEntry.mpr (queued cacheMgr index page found oversized)) true true true)).mono
          ?_ fun _ _ both => both.2.elim
      rintro _ final ⟨⟨moved, liveFinal⟩, _⟩
      exact ⟨prepared.moved target.grows moved, liveFinal⟩
    · refine informed.mono ?_ ?_
      · rintro _ final ⟨moved, liveFinal⟩
        exact ⟨prepared.moved target.grows moved, liveFinal⟩
      · rintro exception middle ⟨threw, liveMiddle⟩
        obtain ⟨middlePage, foundMiddle, data⟩ := threw.steps.concerned_kept changed.found
        have faulted : (∃ world call, env.fault world call = true) ∨
            world.stored.length < world.pageBackend.backendSize := by
          obtain ⟨stop, call, fault, _⟩ := threw.fault
          exact .inl ⟨stop, call, fault⟩
        have sizes : middlePage.size = config.lengthAt newFileSize index := by
          rw [Page.size, data]
          exact Page.size_resizeTo _ _
        refine ⟨fun thrown => ?_, fun notThrown => ?_⟩
        · by_cases grows : page.size ≤ config.lengthAt newFileSize index
          · have smaller : config.capacity (middlePage.resizeTo page.size) ≤
                config.capacity middlePage := config.capacity_mono (by simpa [sizes] using grows)
            refine (restorePage_spec foundMiddle liveMiddle.weaken
              (CacheManager.Live.entriesAtLeast liveMiddle foundMiddle smaller)).mono ?_
                fun _ _ => False.elim
            rintro _ final ⟨restored, restore, moved, liveFinal⟩
            have undone : ResizeUndone config env index (config.lengthAt newFileSize index) page
                world grown middle middlePage restored exception final :=
              ⟨grows, changed, threw, foundMiddle, restore, moved, liveFinal⟩
            exact undone.threw_write target shaped found
          · have notQueued : ¬ Queued config world.pageManager.fileSize world :=
              fun queued => quiet ⟨queued, Nat.lt_of_not_le grows⟩
            rw [Outcome.bind_iff]
            refine (resizePage_plain foundMiddle page.size).mono ?_ fun _ _ => False.elim
            intro _ restored restore
            refine (CacheManager.resizePage_spec (restore.live liveMiddle.weaken)
              restore.found).mono ?_ ?_
            · exact fun _ _ _ => ⟨thrown, faulted, fun _ queued => absurd queued notQueued⟩
            · exact fun _ _ stopped => ⟨stopped.1.threw.thrown, faulted,
                fun _ queued => absurd queued notQueued⟩
        · rw [threw.thrown] at notThrown
          cases notThrown
  · exact liveGrown.of_no_cacheMgr noCacheMgr

end PageManager

end Andromeda.FileData
