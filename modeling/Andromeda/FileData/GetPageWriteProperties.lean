import Andromeda.FileData.FetchProperties
import Andromeda.FileData.PageWriteProperties

/-! `GetPageWrite` prepares a page for a write, whichever way the page comes about. -/

set_option autoImplicit false

namespace Andromeda.FileData

open Andromeda.Library
open Andromeda.Library.Bytes (byteAt resize overwrite slice)

namespace PageManager

variable {config : Config} {env : Env} {world : World} {index newFileSize : Nat} {page : Page}

/-- `ResizePage` that keeps the cache manager informed. -/
theorem resizePage_spec (live : Live config none world)
    (found : world.pageManager.pages.find? index = some page) (size : Nat) :
    Outcome (resizePage config env index size true) world
      (fun _ final => ∃ grown, PageChanged index (page.resizeTo size) world grown ∧
        Moved config (some index) grown final ∧ Live config none final)
      (fun exception final => ∃ grown middle middlePage restored,
        ResizeUndone config env index size page world grown middle middlePage restored
          exception final) := by
  simp only [resizePage, Outcome.bind_iff, Outcome.get_iff, found]
  by_cases same : page.size = size
  · rw [if_pos same, Outcome.pure_iff]
    refine ⟨world, ⟨?_, fun _ _ => rfl, rfl⟩, ⟨.refl world, fun _ _ => id⟩, live⟩
    rw [found, Page.resizeTo, Bytes.resize_of_length_eq same]
  · have changed : PageChanged index (page.resizeTo size) world
        (changePage world index fun page => page.resizeTo size) :=
      changePage_changed found fun page => page.resizeTo size
    have liveGrown := changed.live live.weaken
    rw [if_neg same, Outcome.bind_iff, Outcome.modify_iff, Outcome.ite_iff, Outcome.pure_iff,
      onThrow_iff]
    refine ⟨fun _ => ?_, fun noCacheMgr => ⟨_, changed, ⟨.refl _, fun _ _ => id⟩, ?_⟩⟩
    · by_cases grows : page.size ≤ size
      · refine (CacheManager.resizePage_spec liveGrown changed.found).mono ?_ ?_
        · rintro _ final ⟨resized, liveFinal⟩
          exact ⟨_, changed, resized.moved, liveFinal⟩
        · rintro exception middle ⟨stopped, liveMiddle⟩
          have threw := stopped.threw
          obtain ⟨middlePage, foundMiddle, data⟩ := threw.steps.concerned_kept changed.found
          refine ⟨fun _ => ?_, fun notThrown => ?_⟩
          · rw [Outcome.bind_iff, Outcome.modify_iff]
            have restore : PageChanged index (middlePage.resizeTo page.size) middle
                (changePage middle index fun old => old.resizeTo page.size) :=
              changePage_changed foundMiddle fun old => old.resizeTo page.size
            have sameCapacity : config.capacity (middlePage.resizeTo page.size) =
                config.capacity page := by
              simp only [Config.capacity, Page.size_resizeTo]
            have entries : CacheManager.EntriesAtLeast index
                (config.capacity (middlePage.resizeTo page.size)) middle := by
              rw [sameCapacity]
              refine CacheManager.ResizeStopped.entriesAtLeast stopped
                ((CacheManager.Live.entriesAtLeast live found (Nat.le_refl _)).changed changed)
                (config.capacity_mono (by simpa using grows))
            refine (CacheManager.shrink_moved (restore.live liveMiddle) restore.found
              (entries.changed restore)).mono ?_ fun _ _ => False.elim
            rintro _ final ⟨moved, liveFinal, _⟩
            exact ⟨_, middle, middlePage, _, grows, changed, threw, foundMiddle, restore, moved,
              liveFinal⟩
          · rw [threw.thrown] at notThrown
            cases notThrown
      · have smaller : config.capacity (page.resizeTo size) ≤ config.capacity page :=
          config.capacity_mono (by simpa using Nat.le_of_lt (Nat.lt_of_not_le grows))
        refine (CacheManager.shrink_moved liveGrown changed.found
          ((CacheManager.Live.entriesAtLeast live found smaller).changed changed)).mono ?_
            fun _ _ => False.elim
        rintro _ final ⟨moved, liveFinal, _⟩
        exact ⟨_, changed, moved, liveFinal⟩
    · refine liveGrown.of_no_cacheMgr fun cacheMgr => noCacheMgr ?_
      simpa using cacheMgr

/-- The old last page extended to its end, if the page written starts past it. -/
structure Extended (config : Config) (index newFileSize bound : Nat) (before after : World) :
    Prop where
  fetches : SameFetches before after
  lower : before.pageManager.fileSize ≤ bound
  upper : bound ≤ newFileSize
  shaped : Shaped config bound after
  stored : Stored config before.pageManager.fileSize none before → Stored config bound none after
  cell : Stored config before.pageManager.fileSize none before → ∀ other place,
    place < config.pageSize → after.cell config other place = before.cell config other place
  settled : Settled config before → Settled config after
  queued : Queued config before.pageManager.fileSize before → Queued config bound after
  wide {other page} : other ≠ index → after.pageManager.pages.find? other = some page →
    config.lengthAt newFileSize other = config.lengthAt bound other
  missing : after.pageManager.pages.find? index = none
  kept {other page} : after.pageManager.pages.find? other = some page →
    ∃ old, before.pageManager.pages.find? other = some old

private theorem Extended.refl (target : Target config world.pageManager.fileSize index newFileSize)
    (shaped : Shaped config world.pageManager.fileSize world)
    (missing : world.pageManager.pages.find? index = none)
    (wide : ∀ other page, other ≠ index → world.pageManager.pages.find? other = some page →
      config.lengthAt newFileSize other = config.lengthAt world.pageManager.fileSize other) :
    Extended config index newFileSize world.pageManager.fileSize world world :=
  ⟨.refl world, Nat.le_refl _, target.grows, shaped, id, fun _ _ _ _ => rfl, id, id,
    wide _ _, missing, fun found => ⟨_, found⟩⟩

/-- The last page of a file reaches its end. -/
theorem lastPage_bounds (config : Config) {fileSize : Nat} (positive : 0 < fileSize) :
    (fileSize - 1) / config.pageSize * config.pageSize < fileSize ∧
      fileSize ≤ ((fileSize - 1) / config.pageSize + 1) * config.pageSize := by
  have split := Nat.div_add_mod' (fileSize - 1) config.pageSize
  have small := Nat.mod_lt (fileSize - 1) config.pageSize_pos
  rw [Nat.succ_mul]
  omega

private theorem cached_le_last (shaped : Shaped config world.pageManager.fileSize world)
    (found : world.pageManager.pages.find? index = some page) :
    index ≤ (world.pageManager.fileSize - 1) / config.pageSize := by
  have inside := shaped.inside found
  rw [Nat.le_div_iff_mul_le config.pageSize_pos]
  omega

private theorem extended_grown {grown : World}
    (target : Target config world.pageManager.fileSize index newFileSize)
    (shaped : Shaped config world.pageManager.fileSize world)
    (missing : world.pageManager.pages.find? index = none)
    {last : Nat} (isLast : last = (world.pageManager.fileSize - 1) / config.pageSize)
    (positive : 0 < world.pageManager.fileSize)
    (before : world.pageManager.fileSize < index * config.pageSize)
    (found : world.pageManager.pages.find? last = some page)
    (changed : PageChanged last (page.resizeTo config.pageSize) world grown) :
    Extended config index newFileSize ((last + 1) * config.pageSize) world grown := by
  obtain ⟨inside, ended⟩ := lastPage_bounds config positive
  rw [← isLast] at inside ended
  have lastTarget : Target config world.pageManager.fileSize last
      ((last + 1) * config.pageSize) :=
    ⟨ended, Nat.lt_of_lt_of_le inside ended, .inr (Nat.le_refl _)⟩
  have full : config.lengthAt ((last + 1) * config.pageSize) last = config.pageSize :=
    config.lengthAt_full (Nat.le_refl _)
  obtain ⟨prepared, stored⟩ := prepared_resize lastTarget shaped found (full ▸ changed) true
  have upper : (last + 1) * config.pageSize ≤ newFileSize := by
    have lastBefore : last < index :=
      Nat.lt_of_mul_lt_mul_right (Nat.lt_trans inside before)
    exact Nat.le_trans (Nat.mul_le_mul_right _ lastBefore) (Nat.le_of_lt target.inside)
  have kept {other : Nat} {otherPage : Page}
      (foundOther : grown.pageManager.pages.find? other = some otherPage) :
      ∃ old, world.pageManager.pages.find? other = some old := by
    by_cases same : other = last
    · exact ⟨page, same ▸ found⟩
    · exact ⟨otherPage, (changed.others other same) ▸ foundOther⟩
  refine ⟨changed.fetches, ended, upper, prepared.shaped, stored, ?_, prepared.settled,
    prepared.queued, ?_, ?_, kept⟩
  · intro isStored other place onPage
    by_cases same : other = last
    · subst same
      obtain ⟨lastPage, foundLast, _, bytes⟩ := prepared.page
      rw [World.cell_cached foundLast]
      exact bytes rfl isStored place onPage
    · exact prepared.cell isStored other place same onPage
  · intro other otherPage _ foundOther
    obtain ⟨old, foundOld⟩ := kept foundOther
    have notPast := cached_le_last shaped foundOld
    rw [← isLast] at notPast
    have pageEnd : (other + 1) * config.pageSize ≤ (last + 1) * config.pageSize :=
      Nat.mul_le_mul_right _ (Nat.succ_le_succ notPast)
    rw [config.lengthAt_full pageEnd, config.lengthAt_full (Nat.le_trans pageEnd upper)]
  · cases foundIndex : grown.pageManager.pages.find? index with
    | none => rfl
    | some otherPage =>
        obtain ⟨old, foundOld⟩ := kept foundIndex
        rw [missing] at foundOld
        cases foundOld

private theorem Extended.moved {bound last : Nat} {middle after : World}
    (extended : Extended config index newFileSize bound world middle)
    (moved : Moved config (some last) middle after) :
    Extended config index newFileSize bound world after := by
  have size : middle.pageManager.fileSize ≤ bound := extended.fetches.fileSize ▸ extended.lower
  have kept {other : Nat} {page : Page}
      (found : after.pageManager.pages.find? other = some page) :
      ∃ old, middle.pageManager.pages.find? other = some old := by
    obtain ⟨old, foundOld, _⟩ := moved.steps.pagesShrink _ _ found
    exact ⟨old, foundOld⟩
  refine ⟨extended.fetches.trans moved.steps.sameFetches, extended.lower, extended.upper,
    moved.steps.shaped extended.shaped size, ?_, ?_, ?_, ?_, ?_, ?_, ?_⟩
  · exact fun stored => moved.steps.stored extended.shaped size (extended.stored stored)
  · intro stored other place onPage
    rw [moved.steps.cell extended.shaped size (extended.stored stored) (by simp) onPage]
    exact extended.cell stored other place onPage
  · exact fun settled => moved.settled extended.shaped size (extended.settled settled)
  · exact fun queued => moved.steps.queued extended.shaped size (extended.queued queued)
  · intro other page different found
    obtain ⟨old, foundOld⟩ := kept found
    exact extended.wide different foundOld
  · cases found : after.pageManager.pages.find? index with
    | none => rfl
    | some page =>
        obtain ⟨old, foundOld⟩ := kept found
        rw [extended.missing] at foundOld
        cases foundOld
  · intro other page found
    obtain ⟨old, foundOld⟩ := kept found
    exact extended.kept foundOld

private theorem extendLastPage_spec
    (target : Target config world.pageManager.fileSize index newFileSize)
    (shaped : Shaped config world.pageManager.fileSize world) (live : Live config none world)
    (missing : world.pageManager.pages.find? index = none) :
    Outcome (extendLastPage config env (index * config.pageSize)) world
      (fun _ final => (∃ bound, Extended config index newFileSize bound world final) ∧
        Live config none final)
      (PageWriteThrew config env world) := by
  simp only [extendLastPage, Outcome.bind_iff, Outcome.get_iff, Outcome.ite_iff,
    Outcome.pure_iff]
  refine ⟨?_, fun reached => ⟨⟨_, .refl target shaped missing ?_⟩, live⟩⟩
  · rintro ⟨before, positive⟩
    generalize isLast : (world.pageManager.fileSize - 1) / config.pageSize = last
    cases found : world.pageManager.pages.find? last with
    | none =>
        simp only [resizePage, Outcome.bind_iff, Outcome.get_iff, found]
        refine ⟨⟨_, .refl target shaped missing fun other otherPage _ foundOther => ?_⟩, live⟩
        have notPast := cached_le_last shaped foundOther
        rw [isLast] at notPast
        have notLast : other ≠ last := by
          rintro rfl
          rw [found] at foundOther
          cases foundOther
        have pageEnd : (other + 1) * config.pageSize ≤ world.pageManager.fileSize := by
          have := (lastPage_bounds config positive).1
          have := Nat.mul_le_mul_right config.pageSize
            (show other + 1 ≤ last by omega)
          rw [isLast] at *
          omega
        rw [config.lengthAt_full pageEnd, config.lengthAt_full (Nat.le_trans pageEnd target.grows)]
    | some page =>
        refine (resizePage_spec live found config.pageSize).mono ?_ ?_
        · rintro _ final ⟨grown, changed, moved, liveFinal⟩
          exact ⟨⟨_, (extended_grown target shaped missing isLast.symm positive before found
            changed).moved moved⟩, liveFinal⟩
        · rintro exception final ⟨grown, middle, middlePage, restored, undone⟩
          obtain ⟨inside, ended⟩ := lastPage_bounds config positive
          rw [isLast] at inside ended
          have full : config.lengthAt ((last + 1) * config.pageSize) last = config.pageSize :=
            config.lengthAt_full (Nat.le_refl _)
          rw [← full] at undone
          exact undone.threw_write
            ⟨ended, Nat.lt_of_lt_of_le inside ended, .inr (Nat.le_refl _)⟩ shaped found
  · intro other page different found
    rcases Nat.lt_or_ge world.pageManager.fileSize (index * config.pageSize) with before | enough
    · have inside := shaped.inside found
      omega
    · exact (target.others shaped enough different found).2

private theorem threw_erase {pageSize : Nat} {isPartial : Bool} {ready middle : World}
    {exception : Exception}
    (target : Target config world.pageManager.fileSize index newFileSize)
    (shaped : Shaped config world.pageManager.fileSize world)
    (prepared : Prepared config index pageSize newFileSize isPartial world ready)
    (kept : ∀ other page, other ≠ index → ready.pageManager.pages.find? other = some page →
      ∃ old, world.pageManager.pages.find? other = some old)
    (clean : ∀ page, ready.pageManager.pages.find? index = some page → page.dirty = false)
    (region : Stored config world.pageManager.fileSize none world → ∀ place,
      place < config.pageSize → byteAt ready.stored (index * config.pageSize + place) =
        world.cell config index place)
    (threw : Threw config env (some index) ready exception middle)
    (live : Live config none middle) :
    PageWriteThrew config env world exception
      (erasePage (forgetPage config middle index) index) := by
  obtain ⟨stop, call, fault, stopped⟩ := threw.fault
  refine ⟨threw.thrown, .inl ⟨stop, call, fault⟩, fun guarded queued => ?_⟩
  obtain ⟨readyPage, foundReady, _⟩ := prepared.page
  obtain ⟨newPage, foundNew, _⟩ := threw.steps.concerned_kept foundReady
  have cleanNew : newPage.dirty = false := by
    obtain ⟨old, foundOld, _, dirty⟩ := threw.steps.pagesShrink _ _ foundNew
    have notDirty := clean old foundOld
    cases isDirty : newPage.dirty with
    | false => rfl
    | true => rw [dirty isDirty] at notDirty; cases notDirty
  have step : FlushStep config none true middle
      (erasePage (forgetPage config middle index) index) := .evict foundNew cleanNew (by simp)
  have fetches : SameFetches world middle := prepared.fetches.trans threw.steps.sameFetches
  have sizeReady : ready.pageManager.fileSize ≤ newFileSize :=
    prepared.fetches.fileSize ▸ target.grows
  have sizeMiddle : middle.pageManager.fileSize ≤ newFileSize := fetches.fileSize ▸ target.grows
  have shapedMiddle := threw.steps.shaped prepared.shaped sizeReady
  have queuedMiddle := threw.steps.queued prepared.shaped sizeReady (prepared.queued queued)
  have notStretched : ¬ Stretched config middle := by
    have := (guarded stop call fault).1
    subst stopped
    exact this
  have keptMiddle (other : Nat) (page : Page) (different : other ≠ index)
      (found : middle.pageManager.pages.find? other = some page) :
      ∃ old, world.pageManager.pages.find? other = some old := by
    obtain ⟨old, foundOld, _⟩ := threw.steps.pagesShrink _ _ found
    exact kept other old different foundOld
  have remains {other : Nat} {page : Page} (found :
      (erasePage (forgetPage config middle index) index).pageManager.pages.find? other =
        some page) :
      other ≠ index ∧ middle.pageManager.pages.find? other = some page := by
    simp only [erasePage, forgetPage, KeyMap.find?_erase] at found
    split at found
    · cases found
    · next different => exact ⟨different, found⟩
  -- a page with more bytes than before either has the same share or is harmless
  have oversizedPage {other : Nat} {page : Page} (different : other ≠ index)
      (found : middle.pageManager.pages.find? other = some page)
      (oversized : config.lengthAt world.pageManager.fileSize other < page.size) :
      config.lengthAt newFileSize other = config.lengthAt world.pageManager.fileSize other ∨
        page.dirty = false ∧ HasEntry middle other := by
    obtain ⟨old, foundOld⟩ := keptMiddle other page different found
    rcases Nat.le_total (index * config.pageSize) world.pageManager.fileSize with inside | past
    · exact .inl (target.others shaped inside different foundOld).2
    · refine .inr ?_
      by_contra harmful
      refine notStretched (.inr ⟨⟨index, newPage, foundNew, ?_⟩, other, page, found, ?_, ?_, ?_⟩)
      · rw [fetches.fileSize]
        exact past
      · rw [fetches.fileSize]
        exact shaped.inside foundOld
      · rw [fetches.fileSize]
        exact oversized
      · by_contra both
        simp only [not_or, Bool.not_eq_true, not_not] at both
        exact harmful both
  refine ⟨?_, ⟨?_, ?_, shapedMiddle.pending⟩, ⟨step.live_pageQueue live.pageQueue,
    step.live_dirtyQueue live.dirtyQueue⟩, fun stored => ?_, fun faults settled => ?_, ?_,
    fun stored other place onPage => ?_⟩
  · exact fetches.trans (@FileSteps.sameFetches config _ _ none
      ⟨.single step.move⟩)
  · intro other page found
    obtain ⟨different, foundMiddle⟩ := remains found
    obtain ⟨old, foundOld⟩ := keptMiddle other page different foundMiddle
    have shape := shapedMiddle.page foundMiddle
    have enough := Nat.le_trans (config.lengthAt_mono other target.grows) shape.filled
    refine ⟨shaped.inside foundOld, shape.fits, enough, fun dirty => ?_⟩
    refine Nat.le_antisymm (Nat.le_of_not_lt fun oversized => ?_) enough
    rcases oversizedPage different foundMiddle oversized with same | ⟨notDirty, _⟩
    · rw [shape.dirtySize dirty, same] at oversized
      exact Nat.lt_irrefl _ oversized
    · rw [dirty] at notDirty
      cases notDirty
  · by_contra past
    exact notStretched (.inl (by rw [fetches.fileSize]; exact Nat.lt_of_not_le past))
  · have storedMiddle := threw.steps.stored prepared.shaped sizeReady (prepared.stored stored)
    refine ⟨storedMiddle.exists_eq, storedMiddle.size_eq, fun {other page} found => ?_⟩
    obtain ⟨different, foundMiddle⟩ := remains found
    obtain ⟨old, foundOld⟩ := keptMiddle other page different foundMiddle
    refine ⟨fun {place} past => ?_, fun notDirty _ onPage =>
      (storedMiddle.page foundMiddle).clean notDirty (by simpa [eq_comm] using different) onPage⟩
    by_cases onPage : place < config.pageSize
    · have seen := (threw.steps.cell prepared.shaped sizeReady (prepared.stored stored)
        (fun _ => id) onPage).trans (prepared.cell stored other place different onPage)
      rw [World.cell_cached foundMiddle, World.cell_cached foundOld] at seen
      rw [seen]
      exact (stored.page foundOld).tail past
    · exact Bytes.byteAt_of_length_le
        (Nat.le_trans (shapedMiddle.page foundMiddle).fits (Nat.le_of_not_lt onPage))
  · have settledMiddle : Settled config middle := by
      subst stopped
      exact faults stop call fault
    exact step.move.settled shapedMiddle settledMiddle rfl
  · intro cacheMgr other page found oversized
    obtain ⟨different, foundMiddle⟩ := remains found
    refine hasEntry_forgetPage different ?_
    rcases oversizedPage different foundMiddle oversized with same | ⟨_, entry⟩
    · rw [← same] at oversized
      exact queuedMiddle cacheMgr other page foundMiddle oversized
    · exact entry
  · by_cases atIndex : other = index
    · rw [atIndex, World.cell_uncached (by
        simp only [erasePage, forgetPage, KeyMap.find?_erase, if_true])]
      have same := threw.steps.region prepared.shaped sizeReady (prepared.stored stored) clean onPage
      exact same.trans (region stored place onPage)
    · have erased : (erasePage (forgetPage config middle index) index).cell config other place =
          middle.cell config other place := by
        simp only [World.cell, erasePage, forgetPage, KeyMap.find?_erase, atIndex, if_false]
        rfl
      rw [erased, threw.steps.cell prepared.shaped sizeReady (prepared.stored stored)
        (fun _ => id) onPage]
      exact prepared.cell stored other place atIndex onPage

private theorem informNewPageWrite_spec {pageSize : Nat} {isPartial : Bool} {ready : World}
    (target : Target config world.pageManager.fileSize index newFileSize)
    (shaped : Shaped config world.pageManager.fileSize world)
    (prepared : Prepared config index pageSize newFileSize isPartial world ready)
    (kept : ∀ other page, other ≠ index → ready.pageManager.pages.find? other = some page →
      ∃ old, world.pageManager.pages.find? other = some old)
    (clean : ∀ page, ready.pageManager.pages.find? index = some page → page.dirty = false)
    (region : Stored config world.pageManager.fileSize none world → ∀ place,
      place < config.pageSize → byteAt ready.stored (index * config.pageSize + place) =
        world.cell config index place)
    (live : Live config (some index) ready) :
    Outcome (informNewPageWrite config env index true) ready
      (fun _ final => Prepared config index pageSize newFileSize isPartial world final ∧
        Live config none final)
      (PageWriteThrew config env world) := by
  rw [informNewPageWrite, Outcome.ite_iff, Outcome.pure_iff, onThrow_iff]
  refine ⟨fun cacheMgr => ?_, fun noCacheMgr => ⟨prepared, live.of_no_cacheMgr noCacheMgr⟩⟩
  obtain ⟨readyPage, foundReady, _⟩ := prepared.page
  refine (CacheManager.informPage_moved live cacheMgr foundReady true true true).mono ?_ ?_
  · rintro _ final ⟨moved, liveFinal⟩
    exact ⟨prepared.moved target.grows moved, liveFinal⟩
  · rintro exception middle ⟨threw, liveMiddle⟩
    refine ⟨fun _ => ?_, fun notThrown => ?_⟩
    · rw [Outcome.modify_iff]
      exact threw_erase target shaped prepared kept clean region threw liveMiddle
    · rw [threw.thrown] at notThrown
      cases notThrown

private theorem prepared_new {bound : Nat} {isPartial : Bool} {extended ready : World}
    (target : Target config world.pageManager.fileSize index newFileSize)
    (extension : Extended config index newFileSize bound world extended)
    (changed : PageChanged index page extended ready)
    (size : page.size = config.lengthAt newFileSize index) (clean : page.dirty = false)
    (tail : ∀ place, newFileSize ≤ index * config.pageSize + place →
      byteAt page.data place = 0)
    (bytes : isPartial = true → Stored config world.pageManager.fileSize none world →
      ∀ place, place < config.pageSize →
        byteAt page.data place = world.cell config index place) :
    Prepared config index (config.lengthAt newFileSize index) newFileSize isPartial
      world ready := by
  refine ⟨extension.fetches.trans changed.fetches, ?_, ⟨page, changed.found, size, bytes⟩,
    fun stored => ?_, fun stored other place different onPage => ?_, fun settled => ?_, ?_⟩
  · refine extension.shaped.update changed.others ?_ ?_ changed.pageBackend
      (Nat.le_trans extension.shaped.backend extension.upper)
    · rw [changed.found]
      rintro _ ⟨⟩
      refine ⟨target.inside, size ▸ config.lengthAt_le _ _, Nat.le_of_eq size.symm, ?_⟩
      simp [clean]
    · intro other otherPage different found
      exact ⟨Nat.lt_of_lt_of_le (extension.shaped.inside found) extension.upper,
        extension.wide different found⟩
  · refine (extension.stored stored).update extension.upper changed.remote changed.pageBackend
      changed.others ?_ (fun _ _ _ => by simp)
    rw [changed.found]
    rintro _ ⟨⟩
    exact ⟨fun past => tail _ past, fun _ notExempt => absurd rfl notExempt⟩
  · rw [changed.cell_other different]
    exact extension.cell stored other place onPage
  · refine changed.settled (fun old found => ?_) (extension.settled settled)
    rw [extension.missing] at found
    cases found
  · intro queued cacheMgr other otherPage found oversized
    rw [changed.hasEntry]
    by_cases same : other = index
    · subst same
      rw [changed.found] at found
      cases found
      rw [size] at oversized
      exact absurd oversized (Nat.lt_irrefl _)
    · rw [changed.others _ same] at found
      rw [extension.wide same found] at oversized
      exact extension.queued queued cacheMgr other otherPage found oversized

private theorem newPageWrite_spec {isPartial : Bool}
    (target : Target config world.pageManager.fileSize index newFileSize)
    (shaped : Shaped config world.pageManager.fileSize world) (live : Live config none world)
    (missing : world.pageManager.pages.find? index = none)
    (past : isPartial = true → world.pageBackend.backendSize ≤ index * config.pageSize) :
    Outcome (newPageWrite config env index (config.lengthAt newFileSize index)) world
      (fun _ final => Prepared config index (config.lengthAt newFileSize index) newFileSize
        isPartial world final ∧ Live config none final)
      (PageWriteThrew config env world) := by
  rw [newPageWrite, Outcome.bind_iff]
  refine (extendLastPage_spec target shaped live missing).mono ?_ fun _ _ => id
  rintro _ extended ⟨⟨bound, extension⟩, liveExtended⟩
  have changed := emplacePage_changed extension.missing
    (⟨List.replicate (config.lengthAt newFileSize index) 0, false⟩ : Page)
  rw [Outcome.bind_iff, Outcome.modify_iff]
  generalize emplacePage extended index _ = ready at changed ⊢
  have prepared : Prepared config index (config.lengthAt newFileSize index) newFileSize isPartial
      world ready := by
    refine prepared_new target extension changed (List.length_replicate ..) rfl
      (fun place _ => Bytes.byteAt_replicate _ _) fun partly stored place _ => ?_
    rw [Bytes.byteAt_replicate, World.cell_uncached missing, Bytes.byteAt_of_length_le]
    rw [← stored.size_eq]
    exact Nat.le_trans (past partly) (Nat.le_add_right _ _)
  refine informNewPageWrite_spec target shaped prepared ?_ ?_ ?_ (changed.live liveExtended.weaken)
  · intro other page different found
    rw [changed.others other different] at found
    exact extension.kept found
  · intro page found
    rw [changed.found] at found
    cases found
    rfl
  · intro stored place onPage
    rw [changed.stored_eq, ← extension.cell stored index place onPage,
      World.cell_uncached extension.missing]

private theorem called_moved (config : Config) (concerned : Option Nat) (world : World) :
    Moved config concerned world world.called := by
  have step : FlushStep config concerned true world world.called :=
    .environment world.uploadMaxBytes world.cacheManager.dirtyLimit (world.trace.calls + 1)
  exact (Flushed.of_step step rfl).moved

private theorem live_called (live : Live config none world) : Live config none world.called :=
  ⟨live.pageQueue, live.dirtyQueue⟩

private theorem undone_called (shaped : Shaped config world.pageManager.fileSize world)
    (live : Live config none world)
    (queued : Queued config world.pageManager.fileSize world) :
    Undone config env world world.called := by
  have moved := called_moved config none world
  exact ⟨moved.steps.sameFetches, moved.steps.shaped shaped (Nat.le_refl _), live_called live,
    fun stored => moved.steps.stored shaped (Nat.le_refl _) stored,
    fun _ settled => moved.settled shaped (Nat.le_refl _) settled,
    moved.steps.queued shaped (Nat.le_refl _) queued,
    fun stored _ _ onPage => moved.steps.cell shaped (Nat.le_refl _) stored (by simp) onPage⟩

/-- A page read whole from the backend holds its stored bytes. -/
theorem pageStored_fetched {data : Bytes} {bound : Nat}
    (stored : Stored config world.pageManager.fileSize none world)
    (shaped : Shaped config world.pageManager.fileSize world)
    (raised : world.pageManager.fileSize ≤ bound)
    (inside : index * config.pageSize < world.pageBackend.backendSize)
    (length : data.length = config.lengthAt world.pageBackend.backendSize index)
    (bytes : ∀ place, place < data.length →
      byteAt data place = byteAt world.stored (index * config.pageSize + place)) :
    PageStored config bound none world.stored index ⟨data, false⟩ := by
  have backend := shaped.backend
  unfold Config.lengthAt at length
  refine ⟨fun {place} past => ?_, fun {place} _ _ onPage => ?_⟩
  · exact Bytes.byteAt_of_length_le (show data.length ≤ place by omega)
  · by_cases within : place < data.length
    · exact bytes place within
    · rw [Bytes.byteAt_of_length_le (Nat.le_of_not_lt within), Bytes.byteAt_of_length_le]
      rw [← stored.size_eq]
      omega

private theorem undone_emplaced {data : Bytes} {emplaced : World}
    (shaped : Shaped config world.pageManager.fileSize world) (live : Live config none world)
    (missing : world.pageManager.pages.find? index = none)
    (inside : index * config.pageSize < world.pageBackend.backendSize)
    (length : data.length = config.lengthAt world.pageBackend.backendSize index)
    (bytes : ∀ place, place < data.length →
      byteAt data place = byteAt world.stored (index * config.pageSize + place))
    (enough : config.lengthAt world.pageManager.fileSize index ≤ data.length)
    (changed : PageChanged index ⟨data, false⟩ world.called emplaced)
    (queued : Queued config world.pageManager.fileSize world) :
    Undone config env world emplaced := by
  have missingCalled : world.called.pageManager.pages.find? index = none := missing
  have called : Undone config env world world.called := undone_called shaped live queued
  refine ⟨called.fetches.trans changed.fetches, ?_,
    changed.live_added missingCalled called.live, fun stored => ?_, fun faults settled => ?_,
    ?_, fun stored other place onPage => ?_⟩
  · refine called.shaped.update changed.others ?_ (fun _ _ _ found =>
      ⟨called.shaped.inside found, rfl⟩) changed.pageBackend called.shaped.backend
    rw [changed.found]
    rintro _ ⟨⟩
    refine ⟨Nat.lt_of_lt_of_le inside shaped.backend, ?_, enough, by simp⟩
    rw [Page.size, length]
    exact config.lengthAt_le _ _
  · refine (called.stored stored).update (Nat.le_refl _) changed.remote changed.pageBackend
      changed.others ?_ (fun _ _ _ => by simp)
    rw [changed.found]
    rintro _ ⟨⟩
    have page : PageStored config world.pageManager.fileSize none world.stored index
        ⟨data, false⟩ :=
      pageStored_fetched stored shaped (Nat.le_refl _) inside length bytes
    exact page
  · refine changed.settled (fun old found => ?_) (called.settled faults settled)
    rw [missingCalled] at found
    cases found
  · intro cacheMgr other page found oversized
    rw [changed.hasEntry]
    by_cases same : other = index
    · subst same
      rw [changed.found] at found
      cases found
      rw [Page.size, length] at oversized
      exact absurd oversized (Nat.not_lt.mpr (config.lengthAt_mono _ shaped.backend))
    · rw [changed.others _ same] at found
      exact called.queued cacheMgr other page found oversized
  · by_cases same : other = index
    · have page : PageStored config world.pageManager.fileSize none world.stored index
          ⟨data, false⟩ :=
        pageStored_fetched stored shaped (Nat.le_refl _) inside length bytes
      rw [same, World.cell_cached changed.found, World.cell_uncached missing]
      exact page.clean rfl (by simp) onPage
    · rw [changed.cell_other same]
      exact called.cell stored other place onPage

private theorem fetchPageWrite_spec
    (target : Target config world.pageManager.fileSize index newFileSize)
    (shaped : Shaped config world.pageManager.fileSize world) (live : Live config none world)
    (missing : world.pageManager.pages.find? index = none)
    (inside : index * config.pageSize < world.pageBackend.backendSize) :
    Outcome (fetchPageWrite config env index (config.lengthAt newFileSize index)) world
      (fun _ final => Prepared config index (config.lengthAt newFileSize index) newFileSize
        true world final ∧ Live config none final)
      (PageWriteThrew config env world) := by
  have range : InRange config world.pageBackend.backendSize index 1 :=
    ⟨Nat.one_ne_zero, by simpa using inside⟩
  simp only [fetchPageWrite, Outcome.bind_iff]
  refine (PageBackend.fetchPages_spec range).mono ?_ fun _ _ => False.elim
  rintro ⟨pages, failed⟩ _ ⟨rfl, few, fetched, whole, fell⟩
  have readSize : PageBackend.readSize config world.pageBackend.backendSize index 1 =
      config.lengthAt world.pageBackend.backendSize index := by
    simp [PageBackend.readSize, Config.lengthAt]
  have reason (isFailed : failed = true) : (∃ world call, env.fault world call = true) ∨
      world.stored.length < world.pageBackend.backendSize := by
    obtain ⟨data, _, ⟨fault, _⟩ | ⟨_, stored⟩⟩ := fell isFailed
    · exact .inl ⟨_, _, fault⟩
    · rw [readSize] at stored
      unfold Config.lengthAt at stored
      exact .inr (by omega)
  cases pages with
  | nil =>
      cases failed with
      | false => exact absurd (whole rfl).1 (by simp)
      | true =>
          simp only [List.forM_nil, Outcome.pure_iff, if_true, Outcome.bind_iff,
            Outcome.throw_iff]
          exact ⟨rfl, reason rfl, fun _ => undone_called shaped live⟩
  | cons read rest =>
      obtain rfl : rest = [] := by
        simpa using few
      obtain ⟨first, data⟩ := read
      obtain rfl : first = index := by simpa using fetched.indices
      have length : data.length = config.lengthAt world.pageBackend.backendSize first := by
        simpa using fetched.length
      have bytes : ∀ place, place < data.length →
          byteAt data place = byteAt world.stored (first * config.pageSize + place) := by
        simpa using fetched.bytes
      have missingCalled : world.called.pageManager.pages.find? first = none := missing
      have changed := emplacePage_changed missingCalled (⟨data, false⟩ : Page)
      simp only [List.forM_cons, List.forM_nil, Outcome.bind_iff, Outcome.modify_iff,
        Outcome.pure_iff]
      generalize emplacePage world.called first _ = emplaced at changed ⊢
      cases failed with
      | true =>
          simp only [if_true, Outcome.bind_iff, Outcome.throw_iff]
          refine ⟨rfl, reason rfl, fun guarded queued => ?_⟩
          have enough : config.lengthAt world.pageManager.fileSize first ≤ data.length := by
            obtain ⟨whole, cut, fell⟩ := fell rfl
            have handed : config.lengthAt world.pageBackend.backendSize first ≤ whole.length :=
              PageBackend.splitPages_enough inside (by rw [← cut]; simp)
            rw [readSize] at fell
            rcases fell with ⟨fault, delivered⟩ | ⟨short, _⟩
            · have notShort := (guarded world _ fault).2
              simp only [ReadShort, Nat.mul_div_cancel _ config.pageSize_pos, not_and,
                Nat.not_lt] at notShort
              exact length ▸ notShort (Nat.le_trans handed delivered)
            · omega
          exact undone_emplaced shaped live missing inside length bytes enough changed queued
      | false =>
          simp only [Bool.false_eq_true, if_false, Outcome.bind_iff]
          refine (resizePage_plain changed.found _).mono ?_ fun _ _ => False.elim
          intro _ ready resized
          have reached : first * config.pageSize ≤ world.pageManager.fileSize :=
            Nat.le_trans (Nat.le_of_lt inside) shaped.backend
          have extension : Extended config first newFileSize world.pageManager.fileSize world
              world.called :=
            (Extended.refl target shaped missing fun other page different found =>
              (target.others shaped reached different found).2).moved
                (called_moved config (some 0) world)
          have whole := changed.trans resized
          have tail : ∀ place, config.lengthAt newFileSize first ≤ place →
              byteAt data place = 0 := by
            intro place past
            have backend := shaped.backend
            have grows := target.grows
            unfold Config.lengthAt at *
            exact Bytes.byteAt_of_length_le (by omega)
          have prepared : Prepared config first (config.lengthAt newFileSize first) newFileSize
              true world ready := by
            refine prepared_new target extension whole (Page.size_resizeTo _ _) rfl
              (fun place past => ?_) fun _ stored place onPage => ?_
            · rw [Page.byteAt_resizeTo tail]
              apply tail
              unfold Config.lengthAt
              omega
            · rw [Page.byteAt_resizeTo tail, World.cell_uncached missing]
              exact (pageStored_fetched stored shaped (Nat.le_refl _) inside length bytes).clean
                rfl (by simp) onPage
          refine informNewPageWrite_spec target shaped prepared ?_ ?_ ?_
            (whole.live (live_called live).weaken)
          · intro other page different found
            rw [whole.others other different] at found
            exact ⟨page, found⟩
          · intro page found
            rw [whole.found] at found
            cases found
            rfl
          · intro _ place _
            rw [whole.stored_eq, World.cell_uncached missing]
            rfl

/-- `GetPageWrite`. -/
theorem getPageWrite_spec (isPartial : Bool)
    (target : Target config world.pageManager.fileSize index newFileSize)
    (shaped : Shaped config world.pageManager.fileSize world) (live : Live config none world) :
    Outcome (getPageWrite config env index (config.lengthAt newFileSize index) isPartial) world
      (fun _ final => Prepared config index (config.lengthAt newFileSize index) newFileSize
        isPartial world final ∧ Live config none final)
      (PageWriteThrew config env world) := by
  simp only [getPageWrite, Outcome.bind_iff, Outcome.get_iff]
  cases found : world.pageManager.pages.find? index with
  | some page => exact informResizePage_spec target shaped live found isPartial
  | none =>
      simp only [Outcome.ite_iff]
      refine ⟨fun reason => newPageWrite_spec target shaped live found fun partly => ?_,
        fun notNew => ?_⟩
      · simpa [partly] using reason
      · simp only [not_or, Nat.not_le, Bool.not_eq_true', Bool.not_eq_false] at notNew
        rw [notNew.2]
        exact fetchPageWrite_spec target shaped live found notNew.1

end PageManager

end Andromeda.FileData
