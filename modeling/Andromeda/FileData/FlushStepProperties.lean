import Andromeda.FileData.FlushStep

/-! What no step of a write-back changes: the content of the file, the shape of
its pages and the life of its queue entries. -/

set_option autoImplicit false

namespace Andromeda.FileData

open Andromeda.Library
open Andromeda.Library.Bytes (byteAt resize overwrite slice)

namespace World

/-- The page map after a run has been written. -/
def cleanedPages (pages : PageMap) (indices : List Nat) : PageMap :=
  indices.foldl (fun pages index => pages.update index (·.setDirty false)) pages

/-- The cache manager after a run has been written. -/
def cleanedCache (config : Config) (cache : CacheManager) (indices : List Nat) : CacheManager :=
  if config.cacheMgr then
    indices.foldl (fun cache index => cache.removeDirty ownManager index) cache
  else cache

theorem cleaned_eq (config : Config) (world : World) (run : List (Nat × Page)) :
    world.cleaned config run = { world with
      pageManager := { world.pageManager with
        pages := cleanedPages world.pageManager.pages (run.map Prod.fst) }
      cacheManager := cleanedCache config world.cacheManager (run.map Prod.fst) } := by
  unfold cleaned
  generalize run.map Prod.fst = indices
  induction indices generalizing world with
  | nil =>
      unfold cleanedCache
      split <;> rfl
  | cons index rest ih =>
      rw [List.foldl_cons, ih]
      unfold PageManager.cleanPage cleanedCache cleanedPages
      split <;> rfl

theorem find?_cleanedPages (pages : PageMap) (indices : List Nat) (index : Nat) :
    (cleanedPages pages indices).find? index =
      if index ∈ indices then (pages.find? index).map (·.setDirty false)
      else pages.find? index := by
  unfold cleanedPages
  induction indices generalizing pages with
  | nil => rfl
  | cons head rest ih =>
      rw [List.foldl_cons, ih, KeyMap.find?_update]
      by_cases same : index = head
      · subst same
        simp [Page.setDirty, Function.comp_def]
      · simp [same]

private theorem cleanedCache_pageQueue (config : Config) (cache : CacheManager)
    (indices : List Nat) :
    (cleanedCache config cache indices).pageQueue = cache.pageQueue := by
  unfold cleanedCache
  split
  · induction indices generalizing cache with
    | nil => rfl
    | cons index rest ih => rw [List.foldl_cons, ih, CacheManager.removeDirty_pageQueue]
  · rfl

theorem mem_cleanedCache_dirtyQueue {config : Config} (cacheMgr : config.cacheMgr = true)
    {cache : CacheManager} {indices : List Nat} {info : PageInfo} :
    info ∈ (cleanedCache config cache indices).dirtyQueue ↔
      info ∈ cache.dirtyQueue ∧ ¬ (info.manager = ownManager ∧ info.index ∈ indices) := by
  unfold cleanedCache
  rw [if_pos cacheMgr]
  induction indices generalizing cache with
  | nil => simp
  | cons index rest ih =>
      rw [List.foldl_cons, ih, CacheManager.removeDirty_dirtyQueue, CacheManager.mem_erase,
        List.mem_cons]
      grind

/-- Every page of `after` was there before with the same data, and dirty if it is. -/
def PagesShrink (before after : PageMap) : Prop :=
  ∀ index page, after.find? index = some page → ∃ old, before.find? index = some old ∧
    page.data = old.data ∧ (page.dirty = true → old.dirty = true)

private theorem PagesShrink.refl (pages : PageMap) : PagesShrink pages pages :=
  fun _ page found => ⟨page, found, rfl, id⟩

private theorem PagesShrink.trans {first second third : PageMap} (left : PagesShrink first second)
    (right : PagesShrink second third) : PagesShrink first third := by
  intro index page found
  obtain ⟨middle, foundMiddle, data, dirty⟩ := right index page found
  obtain ⟨old, foundOld, oldData, oldDirty⟩ := left index middle foundMiddle
  exact ⟨old, foundOld, data.trans oldData, fun isDirty => oldDirty (dirty isDirty)⟩

private theorem pagesShrink_cleanedPages (pages : PageMap) (indices : List Nat) :
    PagesShrink pages (cleanedPages pages indices) := by
  intro index page found
  rw [find?_cleanedPages] at found
  split at found
  · obtain ⟨old, foundOld, rfl⟩ := Option.map_eq_some_iff.mp found
    exact ⟨old, foundOld, rfl, by simp [Page.setDirty]⟩
  · exact ⟨page, found, rfl, id⟩

private theorem pagesShrink_erase (pages : PageMap) (index : Nat) :
    PagesShrink pages (pages.erase index) := by
  intro other page found
  rw [KeyMap.find?_erase] at found
  split at found
  · cases found
  · exact ⟨page, found, rfl, id⟩

end World

namespace WriteRun

variable {config : Config} {world : World} {first : Nat} {run : List (Nat × Page)}

private theorem page_at (writeRun : WriteRun first run)
    (cached : ∀ entry ∈ run, world.pageManager.pages.find? entry.1 = some entry.2) {place : Nat}
    (bound : place < run.length) :
    world.pageManager.pages.find? (first + place) = some run[place].2 := by
  rw [← writeRun.getElem_fst bound]
  exact cached _ (List.getElem_mem bound)

/-- No page of a run but the last is short. -/
theorem sendable (writeRun : WriteRun first run)
    (cached : ∀ entry ∈ run, world.pageManager.pages.find? entry.1 = some entry.2) {bound : Nat}
    (shaped : Shaped config bound world) : Sendable config (run.map Prod.snd) where
  full place inside := by
    have here : place < run.length := by simp at inside; omega
    have next : place + 1 < run.length := by simpa using inside
    have full := shaped.full (writeRun.page_at cached here) (writeRun.page_at cached next)
      (by omega)
    simpa [here, Page.size] using full
  fits place inside := by
    have here : place < run.length := by simpa using inside
    have fits := shaped.fits (writeRun.page_at cached here)
    simpa [here, Page.size] using fits

end WriteRun

namespace RunAt

variable {config : Config} {world : World} {first : Nat} {run : List (Nat × Page)}

private theorem page_at (runAt : RunAt config world first run) {place : Nat}
    (bound : place < run.length) :
    world.pageManager.pages.find? (first + place) = some run[place].2 ∧
      run[place].2.dirty = true := by
  have member := List.getElem_mem bound
  exact ⟨runAt.writeRun.page_at runAt.cached bound, runAt.writeRun.dirty _ member⟩

theorem mem_indices (runAt : RunAt config world first run) {index : Nat} :
    index ∈ run.map Prod.fst ↔ first ≤ index ∧ index < first + run.length := by
  rw [runAt.writeRun.indices, List.mem_range'_1]

/-- The block of the run's data that belongs to a page index. -/
def block (first : Nat) (run : List (Nat × Page)) (index : Nat) : Bytes :=
  ((run.map Prod.snd).map Page.data).getD (index - first) []

private theorem block_inside (runAt : RunAt config world first run) {index : Nat}
    (inside : index ∈ run.map Prod.fst) :
    ∃ page, world.pageManager.pages.find? index = some page ∧ page.dirty = true ∧
      first ≤ index ∧ block first run index = page.data := by
  obtain ⟨after, before⟩ := runAt.mem_indices.mp inside
  have bound : index - first < run.length := by omega
  obtain ⟨found, dirty⟩ := runAt.page_at bound
  rw [Nat.add_sub_cancel' after] at found
  exact ⟨_, found, dirty, after, by simp [block, bound]⟩

private theorem block_outside (runAt : RunAt config world first run) {index : Nat}
    (outside : index ∉ run.map Prod.fst) (after : first ≤ index) :
    block first run index = [] := by
  have past : ¬ index - first < run.length := by
    rw [runAt.mem_indices] at outside
    omega
  simp [block, past]

variable {bound : Nat}

private theorem sendable (runAt : RunAt config world first run)
    (shaped : Shaped config bound world) :
    Sendable config (run.map Prod.snd) := runAt.writeRun.sendable runAt.cached shaped

private theorem runData_eq (runAt : RunAt config world first run)
    (shaped : Shaped config bound world) :
    World.runData config run = ((run.map Prod.snd).map Page.data).flatten :=
  PageBackend.pageListData_eq (runAt.sendable shaped)

private theorem length_runData (runAt : RunAt config world first run)
    (shaped : Shaped config bound world) :
    (World.runData config run).length = World.runSize run := by
  rw [runAt.runData_eq shaped, World.runSize, PageBackend.totalSize_eq]

private theorem end_le (runAt : RunAt config world first run) (shaped : Shaped config bound world) :
    first * config.pageSize + World.runSize run ≤ bound := by
  have nonempty : 0 < run.length := List.length_pos_iff.mpr runAt.nonempty
  have firstInside : first * config.pageSize < bound :=
    shaped.inside (runAt.page_at nonempty).1
  by_contra past
  have covered : (bound - first * config.pageSize) / config.pageSize * config.pageSize +
      (bound - first * config.pageSize) % config.pageSize <
        ((run.map Prod.snd).map Page.data).flatten.length := by
    rw [Nat.div_add_mod', ← PageBackend.totalSize_eq]
    unfold World.runSize at past
    omega
  have sendable := runAt.sendable shaped
  rw [Bytes.lt_length_flatten_iff _ (by simpa using sendable.full) (by simpa using sendable.fits)
    (Nat.mod_lt _ config.pageSize_pos)] at covered
  by_cases onRun : (bound - first * config.pageSize) / config.pageSize < run.length
  · obtain ⟨found, dirty⟩ := runAt.page_at onRun
    have pageEnd := shaped.dirty_le found dirty
    have split := Nat.div_add_mod' (bound - first * config.pageSize) config.pageSize
    simp only [List.getD_eq_getElem?_getD, List.getElem?_map, List.getElem?_eq_getElem onRun,
      Option.map_some, Option.getD_some] at covered
    rw [Nat.add_mul] at pageEnd
    unfold Page.size at pageEnd
    omega
  · simp [onRun] at covered

private theorem page_end_le (runAt : RunAt config world first run)
    (shaped : Shaped config bound world)
    {index : Nat} {page : Page} (found : world.pageManager.pages.find? index = some page)
    (inside : index ∈ run.map Prod.fst) :
    index * config.pageSize + page.size ≤ first * config.pageSize + World.runSize run := by
  obtain ⟨written, foundWritten, _, firstLe, sameData⟩ := runAt.block_inside inside
  rw [found] at foundWritten
  cases foundWritten
  have sendable := runAt.sendable shaped
  have fits := shaped.fits found
  have positive := shaped.size_pos found
  have last : page.size - 1 < page.data.length := by unfold Page.size at *; omega
  have covered : (index - first) * config.pageSize + (page.size - 1) <
        ((run.map Prod.snd).map Page.data).flatten.length ↔
      page.size - 1 < (block first run index).length :=
    Bytes.lt_length_flatten_iff _ (by simpa using sendable.full) (by simpa using sendable.fits)
      (by omega)
  rw [sameData] at covered
  have reached := covered.mpr last
  rw [← PageBackend.totalSize_eq] at reached
  have position : index * config.pageSize =
      first * config.pageSize + (index - first) * config.pageSize := by
    rw [← Nat.add_mul, Nat.add_sub_cancel' firstLe]
  unfold World.runSize
  omega

/-- The stored bytes after a run has been written: its pages' data, and the old
bytes elsewhere. -/
private theorem byteAt_written (runAt : RunAt config world first run)
    (shaped : Shaped config bound world) (data : Bytes) {index place : Nat}
    (onPage : place < config.pageSize) :
    byteAt (overwrite data (first * config.pageSize) (World.runData config run))
        (index * config.pageSize + place) =
      if first ≤ index ∧ place < (block first run index).length then
        byteAt (block first run index) place
      else byteAt data (index * config.pageSize + place) := by
  have sendable := runAt.sendable shaped
  rw [runAt.runData_eq shaped]
  exact Bytes.byteAt_overwrite_flatten data (by simpa using sendable.full)
    (by simpa using sendable.fits) onPage

private theorem byteAt_written_outside (runAt : RunAt config world first run)
    (shaped : Shaped config bound world) (data : Bytes) {index place : Nat}
    (outside : index ∉ run.map Prod.fst) (onPage : place < config.pageSize) :
    byteAt (overwrite data (first * config.pageSize) (World.runData config run))
        (index * config.pageSize + place) =
      byteAt data (index * config.pageSize + place) := by
  rw [runAt.byteAt_written shaped data onPage]
  apply if_neg
  rintro ⟨after, covered⟩
  rw [runAt.block_outside outside after] at covered
  cases covered

end RunAt

/-- The part of the state a failing call leaves as it is. -/
structure SameFile (before after : World) : Prop where
  remote : after.remote = before.remote
  pageBackend : after.pageBackend = before.pageBackend
  fileSize : after.pageManager.fileSize = before.pageManager.fileSize
  pages : after.pageManager.pages = before.pageManager.pages

/-- What a step does to the file. -/
inductive FileStep (config : Config) (concerned : Option Nat) (before after : World) : Prop
  | same : SameFile before after → FileStep config concerned before after
  | create : before.pageBackend.backendExists = false → after.remote = some [] →
      after.pageBackend = { before.pageBackend with backendExists := true } →
      after.pageManager.pages = before.pageManager.pages →
      FileStep config concerned before after
  | run {first run} : RunAt config before first run →
      after.remote = some (overwrite
        (if before.pageBackend.backendExists then before.stored else [])
        (first * config.pageSize) (World.runData config run)) →
      after.pageBackend = ⟨max before.pageBackend.backendSize
        (first * config.pageSize + World.runSize run), true⟩ →
      after.pageManager.pages =
        World.cleanedPages before.pageManager.pages (run.map Prod.fst) →
      FileStep config concerned before after
  | extend : before.pageBackend.backendExists = true →
      before.pageBackend.backendSize < before.pageManager.fileSize →
      after.remote = some (resize before.stored before.pageManager.fileSize) →
      after.pageBackend = { before.pageBackend with
        backendSize := before.pageManager.fileSize } →
      after.pageManager.pages = before.pageManager.pages →
      FileStep config concerned before after
  | evict {index page} : before.pageManager.pages.find? index = some page →
      page.dirty = false → concerned ≠ some index → after.remote = before.remote →
      after.pageBackend = before.pageBackend →
      after.pageManager.pages = before.pageManager.pages.erase index →
      FileStep config concerned before after

namespace FlushStep

variable {config : Config} {concerned : Option Nat} {writes : Bool} {before after : World}

private theorem file (step : FlushStep config concerned writes before after) :
    FileStep config concerned before after := by
  cases step with
  | environment => exact .same ⟨rfl, rfl, rfl, rfl⟩
  | otherManagers => exact .same ⟨rfl, rfl, rfl, rfl⟩
  | log => exact .same ⟨rfl, rfl, rfl, rfl⟩
  | create _ missing => exact .create missing rfl rfl rfl
  | write _ runAt existing =>
      rw [World.cleaned_eq]
      refine .run runAt ?_ ?_ rfl
      · simp [World.written, existing]
      · simp [World.written, existing]
  | upload _ runAt missing =>
      rw [World.cleaned_eq]
      refine .run runAt ?_ rfl rfl
      simp [World.uploaded, missing]
  | extend _ existing lagging =>
      exact .extend existing (Nat.lt_of_le_of_lt (Nat.le_max_left _ _) lagging) rfl rfl rfl
  | evict found clean other => exact .evict found clean other rfl rfl rfl
  | defer => exact .same ⟨rfl, rfl, rfl, rfl⟩
  | undirty => exact .same ⟨rfl, rfl, rfl, rfl⟩
  | clearDeferred => exact .same ⟨rfl, rfl, rfl, rfl⟩

private theorem frame (step : FlushStep config concerned writes before after) :
    after.pageManager = { before.pageManager with
      pages := after.pageManager.pages
      deferredEvicts := after.pageManager.deferredEvicts } ∧
    after.fetchThreads = before.fetchThreads := by
  cases step with
  | write =>
      rw [World.cleaned_eq]
      exact ⟨rfl, rfl⟩
  | upload =>
      rw [World.cleaned_eq]
      exact ⟨rfl, rfl⟩
  | _ => exact ⟨rfl, rfl⟩

end FlushStep

namespace FileStep

variable {config : Config} {concerned : Option Nat} {before after : World}

private theorem pagesShrink (step : FileStep config concerned before after) :
    World.PagesShrink before.pageManager.pages after.pageManager.pages := by
  cases step with
  | same same => rw [same.pages]; exact .refl _
  | create _ _ _ pages => rw [pages]; exact .refl _
  | run _ _ _ pages => rw [pages]; exact World.pagesShrink_cleanedPages _ _
  | extend _ _ _ _ pages => rw [pages]; exact .refl _
  | evict _ _ _ _ _ pages => rw [pages]; exact World.pagesShrink_erase _ _

private theorem removed (step : FileStep config concerned before after) {index : Nat} {page : Page}
    (found : before.pageManager.pages.find? index = some page)
    (gone : after.pageManager.pages.find? index = none) :
    page.dirty = false ∧ concerned ≠ some index := by
  have kept : after.pageManager.pages = before.pageManager.pages → False := by
    intro same
    rw [same, found] at gone
    cases gone
  cases step with
  | same same => exact (kept same.pages).elim
  | create _ _ _ pages => exact (kept pages).elim
  | run _ _ _ pages =>
      rw [pages, World.find?_cleanedPages, found] at gone
      split at gone <;> cases gone
  | extend _ _ _ _ pages => exact (kept pages).elim
  | evict evicted clean other _ _ pages =>
      rw [pages, KeyMap.find?_erase] at gone
      split at gone
      · next same =>
        subst same
        rw [found] at evicted
        cases evicted
        exact ⟨clean, other⟩
      · rw [found] at gone
        cases gone

private theorem exists_mono (step : FileStep config concerned before after)
    (existing : before.pageBackend.backendExists = true) :
    after.pageBackend.backendExists = true := by
  cases step with
  | same same => rw [same.pageBackend]; exact existing
  | create _ _ backend _ => rw [backend]
  | run _ _ backend _ => rw [backend]
  | extend _ _ _ backend _ => rw [backend]; exact existing
  | evict _ _ _ _ backend _ => rw [backend]; exact existing

private theorem backend_mono (step : FileStep config concerned before after) :
    before.pageBackend.backendSize ≤ after.pageBackend.backendSize := by
  cases step with
  | same same => rw [same.pageBackend]
  | create _ _ backend _ => rw [backend]
  | run _ _ backend _ =>
      rw [backend]
      exact Nat.le_max_left _ _
  | extend _ shorter _ backend _ =>
      rw [backend]
      exact Nat.le_of_lt shorter
  | evict _ _ _ _ backend _ => rw [backend]

variable {bound : Nat} {exempt : Option Nat}

private theorem backend_le (step : FileStep config concerned before after)
    (shaped : Shaped config bound before) (size : before.pageManager.fileSize ≤ bound) :
    after.pageBackend.backendSize ≤ bound := by
  cases step with
  | same same => rw [same.pageBackend]; exact shaped.backend
  | create _ _ backend _ => rw [backend]; exact shaped.backend
  | run runAt _ backend _ =>
      rw [backend]
      exact Nat.max_le.mpr ⟨shaped.backend, runAt.end_le shaped⟩
  | extend _ _ _ backend _ => rw [backend]; exact size
  | evict _ _ _ _ backend _ => rw [backend]; exact shaped.backend

private theorem shaped (step : FileStep config concerned before after)
    (shaped : Shaped config bound before) (size : before.pageManager.fileSize ≤ bound) :
    Shaped config bound after where
  page found := by
    obtain ⟨old, foundOld, data, dirty⟩ := step.pagesShrink _ _ found
    exact (shaped.page foundOld).congr data dirty
  backend := step.backend_le shaped size
  pending missing := by
    cases step with
    | same same => rw [same.pageBackend] at missing ⊢; exact shaped.pending missing
    | create _ _ backend _ => rw [backend] at missing; cases missing
    | run _ _ backend _ => rw [backend] at missing; cases missing
    | extend existing _ _ backend _ => rw [backend] at missing; simp [existing] at missing
    | evict _ _ _ _ backend _ => rw [backend] at missing ⊢; exact shaped.pending missing

private theorem region (step : FileStep config concerned before after)
    (shaped : Shaped config bound before) (stored : Stored config bound exempt before)
    {index place : Nat} (notDirty : ∀ page,
      before.pageManager.pages.find? index = some page → page.dirty = false)
    (onPage : place < config.pageSize) :
    byteAt after.stored (index * config.pageSize + place) =
      byteAt before.stored (index * config.pageSize + place) := by
  cases step with
  | same same => rw [World.stored, same.remote]; rfl
  | create missing remote _ _ =>
      have none : before.remote = none := by
        simpa [stored.exists_eq] using missing
      simp [World.stored, remote, none]
  | @run first run runAt remote _ _ =>
      have outside : index ∉ run.map Prod.fst := by
        intro inside
        obtain ⟨page, found, dirty, _⟩ := runAt.block_inside inside
        simp [notDirty page found] at dirty
      rw [World.stored, remote, Option.getD_some,
        runAt.byteAt_written_outside shaped _ outside onPage]
      cases existing : before.pageBackend.backendExists with
      | true => rfl
      | false =>
          have none : before.remote = none := by simpa [stored.exists_eq] using existing
          simp [World.stored, none]
  | extend _ growing remote _ _ =>
      rw [World.stored, remote, Option.getD_some, Bytes.byteAt_resize]
      split
      · rfl
      · rw [Bytes.byteAt_of_length_le]
        rw [← stored.size_eq]
        omega
  | evict _ _ _ remote _ _ => rw [World.stored, remote]; rfl

private theorem written (step : FileStep config concerned before after)
    (shaped : Shaped config bound before) (stored : Stored config bound exempt before)
    {index place : Nat} {old page : Page}
    (foundOld : before.pageManager.pages.find? index = some old) (dirty : old.dirty = true)
    (found : after.pageManager.pages.find? index = some page) (clean : page.dirty = false)
    (onPage : place < config.pageSize) :
    byteAt after.stored (index * config.pageSize + place) = byteAt old.data place := by
  have unchanged : after.pageManager.pages = before.pageManager.pages → False := by
    intro same
    rw [same, foundOld] at found
    cases found
    simp [dirty] at clean
  cases step with
  | same same => exact (unchanged same.pages).elim
  | create _ _ _ pages => exact (unchanged pages).elim
  | @run first run runAt remote _ pages =>
      have inside : index ∈ run.map Prod.fst := by
        by_contra outside
        rw [pages, World.find?_cleanedPages, if_neg outside, foundOld] at found
        cases found
        simp [dirty] at clean
      obtain ⟨written, foundWritten, _, firstLe, block⟩ := runAt.block_inside inside
      rw [foundOld] at foundWritten
      cases foundWritten
      rw [World.stored, remote, Option.getD_some, runAt.byteAt_written shaped _ onPage, block]
      by_cases covered : place < old.data.length
      · rw [if_pos ⟨firstLe, covered⟩]
      · rw [if_neg fun both => covered both.2,
          @Bytes.byteAt_of_length_le _ _ old.data _ (Nat.le_of_not_lt covered)]
        split
        · exact stored.stored_past shaped foundOld (Nat.le_of_not_lt covered) onPage
        · rfl
  | extend _ _ _ _ pages => exact (unchanged pages).elim
  | evict evicted _ _ _ _ pages =>
      rw [pages, KeyMap.find?_erase] at found
      split at found
      · cases found
      · rw [foundOld] at found
        cases found
        simp [dirty] at clean

private theorem stored (step : FileStep config concerned before after)
    (shaped : Shaped config bound before) (stored : Stored config bound exempt before) :
    Stored config bound exempt after where
  exists_eq := by
    cases step with
    | same same => rw [same.pageBackend, same.remote]; exact stored.exists_eq
    | create _ remote backend _ => rw [backend, remote]; rfl
    | run _ remote backend _ => rw [backend, remote]; rfl
    | extend existing _ remote backend _ => rw [backend, remote]; exact existing
    | evict _ _ _ remote backend _ => rw [backend, remote]; exact stored.exists_eq
  size_eq := by
    cases step with
    | same same => rw [same.pageBackend, World.stored, same.remote]; exact stored.size_eq
    | create missing remote backend _ =>
        have none : before.remote = none := by simpa [stored.exists_eq] using missing
        rw [backend, World.stored, remote]
        simpa [World.stored, none] using stored.size_eq
    | run runAt remote backend _ =>
        rw [backend, World.stored, remote, Option.getD_some, Bytes.length_overwrite,
          runAt.length_runData shaped, Nat.max_comm, stored.size_eq]
        cases existing : before.pageBackend.backendExists with
        | true => rfl
        | false =>
            have none : before.remote = none := by simpa [stored.exists_eq] using existing
            simp [World.stored, none]
    | extend _ _ remote backend _ =>
        rw [backend, World.stored, remote, Option.getD_some, Bytes.length_resize]
    | evict _ _ _ remote backend _ =>
        rw [backend, World.stored, remote]; exact stored.size_eq
  page {index page} found := by
    obtain ⟨old, foundOld, data, _⟩ := step.pagesShrink _ _ found
    refine ⟨fun past => ?_, fun isClean other onPage => ?_⟩
    · rw [data]
      exact (stored.page foundOld).tail past
    · rw [data]
      cases wasDirty : old.dirty with
      | true => exact (step.written shaped stored foundOld wasDirty found isClean onPage).symm
      | false =>
          rw [step.region shaped stored (by rw [foundOld]; rintro _ ⟨⟩; exact wasDirty) onPage]
          exact (stored.page foundOld).clean wasDirty other onPage

private theorem cell (step : FileStep config concerned before after)
    (shaped : Shaped config bound before) (stored : Stored config bound exempt before)
    (spared : ∀ index, concerned ≠ some index → exempt ≠ some index)
    {index place : Nat} (onPage : place < config.pageSize) :
    after.cell config index place = before.cell config index place := by
  cases found : after.pageManager.pages.find? index with
  | some page =>
      obtain ⟨old, foundOld, data, _⟩ := step.pagesShrink _ _ found
      rw [World.cell_cached found, World.cell_cached foundOld, data]
  | none =>
      rw [World.cell_uncached found]
      cases foundOld : before.pageManager.pages.find? index with
      | none =>
          rw [World.cell_uncached foundOld,
            step.region shaped stored (by simp [foundOld]) onPage]
      | some old =>
          obtain ⟨clean, other⟩ := step.removed foundOld found
          rw [World.cell_cached foundOld, (stored.page foundOld).clean clean (spared index other) onPage,
            step.region shaped stored (by rw [foundOld]; rintro _ ⟨⟩; exact clean) onPage]

end FileStep

theorem Config.capacity_congr (config : Config) {left right : Page} (same : left.data = right.data) :
    config.capacity left = config.capacity right := by
  have sizes : left.size = right.size := congrArg List.length same
  simp only [Config.capacity, sizes]

/-- Queue entries stay live if none is added and their pages stay. -/
theorem QueueLive.mono {config : Config} {stale : Option Nat} {queue queue' : List PageInfo}
    {pages pages' : PageMap} (live : QueueLive config stale queue pages)
    (subset : ∀ info ∈ queue', info.manager = ownManager → info ∈ queue)
    (kept : ∀ info ∈ queue', info.manager = ownManager → ∀ page,
      pages.find? info.index = some page → ∃ page', pages'.find? info.index = some page' ∧
        page'.data = page.data) :
    QueueLive config stale queue' pages' where
  cacheMgr member isOwn := live.cacheMgr (subset _ member isOwn) isOwn
  cached member isOwn := by
    obtain ⟨page, found, size⟩ := live.cached (subset _ member isOwn) isOwn
    obtain ⟨page', found', data⟩ := kept _ member isOwn page found
    refine ⟨page', found', fun fresh => ?_⟩
    rw [config.capacity_congr data]
    exact size fresh

namespace World

private theorem cleanedPages_kept {pages : PageMap} {indices : List Nat} {index : Nat} {page : Page}
    (found : pages.find? index = some page) :
    ∃ page', (cleanedPages pages indices).find? index = some page' ∧ page'.data = page.data := by
  rw [find?_cleanedPages, found]
  split
  · exact ⟨_, rfl, rfl⟩
  · exact ⟨_, rfl, rfl⟩

private theorem cleanedCache_dirtyQueue_sublist (config : Config) (cache : CacheManager)
    (indices : List Nat) :
    (cleanedCache config cache indices).dirtyQueue.Sublist cache.dirtyQueue := by
  unfold cleanedCache
  split
  · induction indices generalizing cache with
    | nil => exact List.Sublist.refl _
    | cons index rest ih =>
        rw [List.foldl_cons]
        refine (ih _).trans ?_
        rw [CacheManager.removeDirty_dirtyQueue]
        exact CacheManager.erase_sublist _ _ _
  · exact List.Sublist.refl _

end World

namespace FlushStep

variable {config : Config} {concerned stale : Option Nat} {writes : Bool} {before after : World}

private theorem own_sublist (step : FlushStep config concerned writes before after) :
    (CacheManager.own after.cacheManager.pageQueue).Sublist
        (CacheManager.own before.cacheManager.pageQueue) ∧
      (CacheManager.own after.cacheManager.dirtyQueue).Sublist
        (CacheManager.own before.cacheManager.dirtyQueue) := by
  have forgotten (world : World) (index : Nat) :
      (CacheManager.own (PageManager.forgetPage config world index).cacheManager.pageQueue).Sublist
          (CacheManager.own world.cacheManager.pageQueue) ∧
        (CacheManager.own
            (PageManager.forgetPage config world index).cacheManager.dirtyQueue).Sublist
          (CacheManager.own world.cacheManager.dirtyQueue) := by
    unfold PageManager.forgetPage
    split
    · rw [CacheManager.removePage_pageQueue, CacheManager.removePage_dirtyQueue]
      exact ⟨(CacheManager.erase_sublist _ _ _).filter _,
        (CacheManager.erase_sublist _ _ _).filter _⟩
    · exact ⟨List.Sublist.refl _, List.Sublist.refl _⟩
  cases step with
  | otherManagers pageQueue dirtyQueue =>
      obtain ⟨pages, dirty⟩ := before.cacheManager.own_otherManagers pageQueue dirtyQueue
      exact ⟨pages ▸ List.Sublist.refl _, dirty ▸ List.Sublist.refl _⟩
  | write =>
      rw [World.cleaned_eq]
      refine ⟨?_, (World.cleanedCache_dirtyQueue_sublist _ _ _).filter _⟩
      simp only [World.cleanedCache_pageQueue]
      exact List.Sublist.refl _
  | upload =>
      rw [World.cleaned_eq]
      refine ⟨?_, (World.cleanedCache_dirtyQueue_sublist _ _ _).filter _⟩
      simp only [World.cleanedCache_pageQueue]
      exact List.Sublist.refl _
  | evict => exact forgotten _ _
  | defer => exact forgotten _ _
  | undirty =>
      refine ⟨?_, ?_⟩
      · simp only [World.undirtied, CacheManager.removeDirty_pageQueue]
        exact List.Sublist.refl _
      · simp only [World.undirtied, CacheManager.removeDirty_dirtyQueue]
        exact (CacheManager.erase_sublist _ _ _).filter _
  | _ => exact ⟨List.Sublist.refl _, List.Sublist.refl _⟩

private theorem pageQueue_subset (step : FlushStep config concerned writes before after)
    {info : PageInfo} (member : info ∈ after.cacheManager.pageQueue)
    (isOwn : info.manager = ownManager) : info ∈ before.cacheManager.pageQueue :=
  (CacheManager.mem_own.mp
    (step.own_sublist.1.subset (CacheManager.mem_own.mpr ⟨member, isOwn⟩))).1

private theorem dirtyQueue_subset (step : FlushStep config concerned writes before after)
    {info : PageInfo} (member : info ∈ after.cacheManager.dirtyQueue)
    (isOwn : info.manager = ownManager) : info ∈ before.cacheManager.dirtyQueue :=
  (CacheManager.mem_own.mp
    (step.own_sublist.2.subset (CacheManager.mem_own.mpr ⟨member, isOwn⟩))).1

private theorem kept (step : FlushStep config concerned writes before after)
    (cacheMgr : config.cacheMgr = true) {info : PageInfo} (isOwn : info.manager = ownManager)
    (member : info ∈ after.cacheManager.pageQueue ∨ info ∈ after.cacheManager.dirtyQueue)
    {page : Page} (found : before.pageManager.pages.find? info.index = some page) :
    ∃ page', after.pageManager.pages.find? info.index = some page' ∧ page'.data = page.data := by
  cases step with
  | write => rw [World.cleaned_eq]; exact World.cleanedPages_kept found
  | upload => rw [World.cleaned_eq]; exact World.cleanedPages_kept found
  | @evict index _ _ _ _ =>
      refine ⟨page, ?_, rfl⟩
      have other : info.index ≠ index := by
        intro same
        simp [PageManager.erasePage, PageManager.forgetPage, cacheMgr, CacheManager.mem_erase,
          isOwn, same] at member
      simp [PageManager.erasePage, PageManager.forgetPage, KeyMap.find?_erase, other, found]
  | _ => exact ⟨page, found, rfl⟩

theorem live_pageQueue (step : FlushStep config concerned writes before after)
    (live : QueueLive config stale before.cacheManager.pageQueue before.pageManager.pages) :
    QueueLive config stale after.cacheManager.pageQueue after.pageManager.pages :=
  live.mono (fun _ => step.pageQueue_subset) fun _ member isOwn _ =>
    step.kept (live.cacheMgr (step.pageQueue_subset member isOwn) isOwn) isOwn (.inl member)

theorem live_dirtyQueue (step : FlushStep config concerned writes before after)
    (live : QueueLive config stale before.cacheManager.dirtyQueue before.pageManager.pages) :
    QueueLive config stale after.cacheManager.dirtyQueue after.pageManager.pages :=
  live.mono (fun _ => step.dirtyQueue_subset) fun _ member isOwn _ =>
    step.kept (live.cacheMgr (step.dirtyQueue_subset member isOwn) isOwn) isOwn (.inr member)

end FlushStep

/-- A step seen from the file: it leaves the file's size and the fetches alone, and
takes a page that stays cached out of the page queue only if it is dirty and not the
page concerned. -/
structure FileMove (config : Config) (concerned : Option Nat) (before after : World) : Prop where
  file : FileStep config concerned before after
  frame : after.pageManager = { before.pageManager with
    pages := after.pageManager.pages
    deferredEvicts := after.pageManager.deferredEvicts }
  fetchThreads : after.fetchThreads = before.fetchThreads
  entry {index} : HasEntry before index → HasEntry after index ∨
    after.pageManager.pages.find? index = none ∨ concerned ≠ some index ∧
      ∃ page, before.pageManager.pages.find? index = some page ∧ page.dirty = true

private theorem hasEntry_of_own {before after : World} {index : Nat}
    (same : CacheManager.own after.cacheManager.pageQueue =
      CacheManager.own before.cacheManager.pageQueue)
    (entry : HasEntry before index) : HasEntry after index := by
  obtain ⟨info, member, isOwn, sameIndex⟩ := entry
  have stays : info ∈ CacheManager.own after.cacheManager.pageQueue := by
    rw [same]
    exact CacheManager.mem_own.mpr ⟨member, isOwn⟩
  exact ⟨info, (CacheManager.mem_own.mp stays).1, isOwn, sameIndex⟩

theorem hasEntry_forgetPage {config : Config} {world : World} {index other : Nat}
    (different : other ≠ index) (entry : HasEntry world other) :
    HasEntry (PageManager.forgetPage config world index) other := by
  obtain ⟨info, member, isOwn, rfl⟩ := entry
  refine ⟨info, ?_, isOwn, rfl⟩
  unfold PageManager.forgetPage
  split
  · simp [CacheManager.mem_erase, member, different]
  · exact member

private theorem FlushStep.entry {config : Config} {concerned : Option Nat} {writes : Bool}
    {before after : World} (step : FlushStep config concerned writes before after) {index : Nat}
    (entry : HasEntry before index) : HasEntry after index ∨
      after.pageManager.pages.find? index = none ∨ concerned ≠ some index ∧
        ∃ page, before.pageManager.pages.find? index = some page ∧ page.dirty = true := by
  cases step with
  | otherManagers pageQueue dirtyQueue =>
      exact .inl (hasEntry_of_own (before.cacheManager.own_otherManagers _ _).1 entry)
  | write =>
      refine .inl (hasEntry_of_own ?_ entry)
      simp only [World.cleaned_eq, World.cleanedCache_pageQueue]
      rfl
  | upload =>
      refine .inl (hasEntry_of_own ?_ entry)
      simp only [World.cleaned_eq, World.cleanedCache_pageQueue]
      rfl
  | @evict evicted _ _ _ _ =>
      by_cases same : index = evicted
      · refine .inr (.inl ?_)
        simp [PageManager.erasePage, PageManager.forgetPage, KeyMap.find?_erase, same]
      · obtain ⟨info, member, found⟩ := @hasEntry_forgetPage config _ _ _ same entry
        exact .inl ⟨info, member, found⟩
  | @defer deferred page found dirty _ other =>
      by_cases same : index = deferred
      · subst same
        exact .inr (.inr ⟨other, page, found, dirty⟩)
      · obtain ⟨info, member, found⟩ := @hasEntry_forgetPage config _ _ _ same entry
        exact .inl ⟨info, member, found⟩
  | undirty =>
      refine .inl (hasEntry_of_own ?_ entry)
      simp only [World.undirtied, CacheManager.removeDirty_pageQueue]
  | _ => exact .inl entry

theorem FlushStep.move {config : Config} {concerned : Option Nat} {writes : Bool}
    {before after : World} (step : FlushStep config concerned writes before after) :
    FileMove config concerned before after :=
  ⟨step.file, step.frame.1, step.frame.2, step.entry⟩

namespace FileMove

variable {config : Config} {concerned : Option Nat} {before after : World} {bound : Nat}

private theorem fileSize (step : FileMove config concerned before after) :
    after.pageManager.fileSize = before.pageManager.fileSize := by
  rw [step.frame]

/-- A step on a file that exists, or that leaves it pending, does not unsettle it. -/
theorem settled (step : FileMove config concerned before after)
    (shaped : Shaped config bound before) (settled : Settled config before)
    (existing : after.pageBackend.backendExists = before.pageBackend.backendExists) :
    Settled config after := by
  intro existsAfter
  have reached := settled (existing ▸ existsAfter)
  rw [step.fileSize]
  cases step.file with
  | same same => rw [same.pageBackend, same.pages]; exact reached
  | create missing _ backend _ => rw [existing, missing] at existsAfter; cases existsAfter
  | @run first run runAt _ backend pages =>
      rw [backend, pages]
      refine Nat.le_trans reached (Nat.max_le.mpr ⟨?_, PageManager.maxDirty_le_iff.mpr ?_⟩)
      · exact Nat.le_trans (Nat.le_max_left _ _) (Nat.le_max_left _ _)
      · intro index page found dirty
        by_cases inside : index ∈ run.map Prod.fst
        · refine Nat.le_trans ?_ (Nat.le_max_left _ _)
          refine Nat.le_trans ?_ (Nat.le_max_right _ _)
          exact runAt.page_end_le shaped found inside
        · refine Nat.le_trans ?_ (Nat.le_max_right _ _)
          apply PageManager.le_maxDirty _ dirty
          rw [World.find?_cleanedPages, if_neg inside, found]
  | extend _ _ _ backend _ => rw [backend]; exact Nat.le_max_left _ _
  | evict evicted clean _ _ backend pages =>
      rw [backend, pages]
      refine Nat.le_trans reached (Nat.max_le.mpr ⟨Nat.le_max_left _ _, ?_⟩)
      refine Nat.le_trans (PageManager.maxDirty_le_iff.mpr ?_) (Nat.le_max_right _ _)
      intro index page found dirty
      apply PageManager.le_maxDirty _ dirty
      rw [KeyMap.find?_erase, if_neg _, found]
      rintro rfl
      rw [found] at evicted
      cases evicted
      simp [dirty] at clean

end FileMove

/-- Any number of such steps. -/
structure FileSteps (config : Config) (concerned : Option Nat) (before after : World) : Prop where
  chain : Relation.ReflTransGen (FileMove config concerned) before after

namespace FileSteps

variable {config : Config} {concerned stale : Option Nat} {before middle after : World}

theorem refl (world : World) : FileSteps config concerned world world := ⟨.refl⟩

theorem trans (left : FileSteps config concerned before middle)
    (right : FileSteps config concerned middle after) : FileSteps config concerned before after :=
  ⟨left.chain.trans right.chain⟩

/-- A change of the queues alone. -/
theorem cache (world : World) (cacheManager : CacheManager)
    (entries : ∀ index, HasEntry world index → HasEntry { world with cacheManager } index) :
    FileSteps config concerned world { world with cacheManager } :=
  ⟨.single ⟨.same ⟨rfl, rfl, rfl, rfl⟩, rfl, rfl, fun entry => .inl (entries _ entry)⟩⟩

private theorem preserves (steps : FileSteps config concerned before after)
    (Property : World → Prop)
    (keep : ∀ before after, FileMove config concerned before after → Property before →
      Property after) (start : Property before) : Property after := by
  obtain ⟨chain⟩ := steps
  induction chain with
  | refl => exact start
  | tail _ step ih => exact keep _ _ step ih

theorem frame (steps : FileSteps config concerned before after) :
    after.pageManager = { before.pageManager with
      pages := after.pageManager.pages
      deferredEvicts := after.pageManager.deferredEvicts } ∧
    after.fetchThreads = before.fetchThreads := by
  refine steps.preserves (fun world => world.pageManager = { before.pageManager with
      pages := world.pageManager.pages
      deferredEvicts := world.pageManager.deferredEvicts } ∧
    world.fetchThreads = before.fetchThreads) (fun middle last step ih => ?_) ⟨rfl, rfl⟩
  exact ⟨by rw [step.frame, ih.1], by rw [step.fetchThreads, ih.2]⟩

theorem fileSize (steps : FileSteps config concerned before after) :
    after.pageManager.fileSize = before.pageManager.fileSize := by
  rw [steps.frame.1]

theorem pagesShrink (steps : FileSteps config concerned before after) :
    World.PagesShrink before.pageManager.pages after.pageManager.pages :=
  steps.preserves
    (fun world => World.PagesShrink before.pageManager.pages world.pageManager.pages)
    (fun _ _ step ih => ih.trans step.file.pagesShrink) (.refl _)

/-- The page concerned stays in the map. -/
theorem concerned_kept {index : Nat} {page : Page}
    (steps : FileSteps config (some index) before after)
    (found : before.pageManager.pages.find? index = some page) :
    ∃ page', after.pageManager.pages.find? index = some page' ∧ page'.data = page.data := by
  refine steps.preserves (fun world => ∃ page',
    world.pageManager.pages.find? index = some page' ∧ page'.data = page.data)
    (fun middle last step ih => ?_) ⟨page, found, rfl⟩
  obtain ⟨page', found', data⟩ := ih
  cases foundLast : last.pageManager.pages.find? index with
  | none => exact absurd rfl (step.file.removed found' foundLast).2
  | some page'' =>
      obtain ⟨old, foundOld, sameData, _⟩ := step.file.pagesShrink _ _ foundLast
      rw [found'] at foundOld
      cases foundOld
      exact ⟨page'', rfl, sameData.trans data⟩

theorem exists_mono (steps : FileSteps config concerned before after)
    (existing : before.pageBackend.backendExists = true) :
    after.pageBackend.backendExists = true :=
  steps.preserves (fun world => world.pageBackend.backendExists = true)
    (fun _ _ step => step.file.exists_mono) existing

theorem backend_mono (steps : FileSteps config concerned before after) :
    before.pageBackend.backendSize ≤ after.pageBackend.backendSize :=
  steps.preserves
    (fun world => before.pageBackend.backendSize ≤ world.pageBackend.backendSize)
    (fun _ _ step grown => Nat.le_trans grown step.file.backend_mono) (Nat.le_refl _)

variable {bound : Nat} {exempt : Option Nat}

theorem shaped (steps : FileSteps config concerned before after)
    (shaped : Shaped config bound before) (size : before.pageManager.fileSize ≤ bound) :
    Shaped config bound after :=
  (steps.preserves
    (fun world => Shaped config bound world ∧ world.pageManager.fileSize ≤ bound)
    (fun _ _ step ih => ⟨step.file.shaped ih.1 ih.2, step.fileSize ▸ ih.2⟩)
    ⟨shaped, size⟩).1

private theorem both (steps : FileSteps config concerned before after)
    (shaped : Shaped config bound before) (size : before.pageManager.fileSize ≤ bound)
    (stored : Stored config bound exempt before) (Property : World → Prop)
    (keep : ∀ middle last, FileMove config concerned middle last → Shaped config bound middle →
      Stored config bound exempt middle → Property middle → Property last)
    (start : Property before) : Stored config bound exempt after ∧ Property after := by
  have all := steps.preserves
    (fun world => Shaped config bound world ∧ world.pageManager.fileSize ≤ bound ∧
      Stored config bound exempt world ∧ Property world)
    (fun middle last step ih => ⟨step.file.shaped ih.1 ih.2.1, step.fileSize ▸ ih.2.1,
      step.file.stored ih.1 ih.2.2.1, keep middle last step ih.1 ih.2.2.1 ih.2.2.2⟩)
    ⟨shaped, size, stored, start⟩
  exact all.2.2

theorem stored (steps : FileSteps config concerned before after)
    (shaped : Shaped config bound before) (size : before.pageManager.fileSize ≤ bound)
    (stored : Stored config bound exempt before) : Stored config bound exempt after :=
  (steps.both shaped size stored (fun _ => True) (fun _ _ _ _ _ => id) trivial).1

theorem settled (steps : FileSteps config concerned before after)
    (shaped : Shaped config bound before) (size : before.pageManager.fileSize ≤ bound)
    (existing : before.pageBackend.backendExists = true) (settled : Settled config before) :
    Settled config after := by
  have all := steps.preserves
    (fun world => Shaped config bound world ∧ world.pageManager.fileSize ≤ bound ∧
      world.pageBackend.backendExists = true ∧ Settled config world)
    (fun middle last step ih => by
      obtain ⟨shaped, size, existed, settled⟩ := ih
      have exists' := step.file.exists_mono existed
      exact ⟨step.file.shaped shaped size, step.fileSize ▸ size, exists',
        step.settled shaped settled (exists'.trans existed.symm)⟩)
    ⟨shaped, size, existing, settled⟩
  exact all.2.2.2

theorem queued (steps : FileSteps config concerned before after)
    (shaped : Shaped config bound before) (size : before.pageManager.fileSize ≤ bound)
    (queued : Queued config bound before) : Queued config bound after := by
  have all := steps.preserves
    (fun world => Shaped config bound world ∧ world.pageManager.fileSize ≤ bound ∧
      Queued config bound world)
    (fun middle last step ih => by
      obtain ⟨shaped, size, queued⟩ := ih
      refine ⟨step.file.shaped shaped size, step.fileSize ▸ size, ?_⟩
      intro cacheMgr index page found oversized
      obtain ⟨old, foundOld, data, _⟩ := step.file.pagesShrink _ _ found
      rw [Page.size, data] at oversized
      rcases step.entry (queued cacheMgr index old foundOld oversized) with
        entry | gone | ⟨_, other, foundOther, dirty⟩
      · exact entry
      · rw [gone] at found
        cases found
      · rw [foundOld] at foundOther
        cases foundOther
        have exact := shaped.dirtySize foundOld dirty
        unfold Page.size at exact
        omega)
    ⟨shaped, size, queued⟩
  exact all.2.2

/-- No flush or eviction changes what a reader sees. -/
theorem cell (steps : FileSteps config concerned before after)
    (shaped : Shaped config bound before) (size : before.pageManager.fileSize ≤ bound)
    (stored : Stored config bound exempt before)
    (spared : ∀ index, concerned ≠ some index → exempt ≠ some index) {index place : Nat}
    (onPage : place < config.pageSize) :
    after.cell config index place = before.cell config index place :=
  (steps.both shaped size stored
    (fun world => world.cell config index place = before.cell config index place)
    (fun _ _ step shaped stored ih => (step.file.cell shaped stored spared onPage).trans ih) rfl).2

theorem region (steps : FileSteps config concerned before after)
    (shaped : Shaped config bound before) (size : before.pageManager.fileSize ≤ bound)
    (stored : Stored config bound exempt before) {index place : Nat}
    (notDirty : ∀ page, before.pageManager.pages.find? index = some page → page.dirty = false)
    (onPage : place < config.pageSize) :
    byteAt after.stored (index * config.pageSize + place) =
      byteAt before.stored (index * config.pageSize + place) := by
  have all := steps.both shaped size stored
    (fun world => (∀ page, world.pageManager.pages.find? index = some page →
        page.dirty = false) ∧
      byteAt world.stored (index * config.pageSize + place) =
        byteAt before.stored (index * config.pageSize + place))
    (fun middle last step shaped stored ih => by
      refine ⟨fun page found => ?_, (step.file.region shaped stored ih.1 onPage).trans ih.2⟩
      obtain ⟨old, foundOld, _, dirty⟩ := step.file.pagesShrink _ _ found
      have clean := ih.1 old foundOld
      cases isDirty : page.dirty with
      | false => rfl
      | true => rw [dirty isDirty] at clean; cases clean)
    ⟨notDirty, rfl⟩
  exact all.2.2

/-- The entry of the page concerned stays in the page queue. -/
theorem concerned_entry {index : Nat} {page : Page}
    (steps : FileSteps config (some index) before after)
    (found : before.pageManager.pages.find? index = some page)
    (entry : HasEntry before index) : HasEntry after index := by
  have all := steps.preserves
    (fun world => (∃ page, world.pageManager.pages.find? index = some page) ∧
      HasEntry world index)
    (fun middle last step ih => by
      obtain ⟨⟨page, found⟩, entry⟩ := ih
      have stays : ∃ page, last.pageManager.pages.find? index = some page := by
        cases foundLast : last.pageManager.pages.find? index with
        | none => exact absurd rfl (step.file.removed found foundLast).2
        | some page' => exact ⟨page', rfl⟩
      refine ⟨stays, ?_⟩
      rcases step.entry entry with entry | gone | ⟨other, _⟩
      · exact entry
      · obtain ⟨page', found'⟩ := stays
        rw [gone] at found'
        cases found'
      · exact absurd rfl other)
    ⟨⟨page, found⟩, entry⟩
  exact all.2

end FileSteps

namespace FlushSteps

variable {config : Config} {concerned stale : Option Nat} {writes : Bool} {before after : World}

theorem file (steps : FlushSteps config concerned writes before after) :
    FileSteps config concerned before after :=
  ⟨Relation.ReflTransGen.lift id (fun _ _ step => FlushStep.move step) _ _ steps⟩

theorem own_sublist (steps : FlushSteps config concerned writes before after) :
    (CacheManager.own after.cacheManager.pageQueue).Sublist
        (CacheManager.own before.cacheManager.pageQueue) ∧
      (CacheManager.own after.cacheManager.dirtyQueue).Sublist
        (CacheManager.own before.cacheManager.dirtyQueue) := by
  induction steps with
  | refl => exact ⟨List.Sublist.refl _, List.Sublist.refl _⟩
  | tail _ step ih => exact ⟨step.own_sublist.1.trans ih.1, step.own_sublist.2.trans ih.2⟩

theorem live_pageQueue (steps : FlushSteps config concerned writes before after)
    (live : QueueLive config stale before.cacheManager.pageQueue before.pageManager.pages) :
    QueueLive config stale after.cacheManager.pageQueue after.pageManager.pages := by
  induction steps with
  | refl => exact live
  | tail _ step ih => exact step.live_pageQueue ih

private theorem live_dirtyQueue (steps : FlushSteps config concerned writes before after)
    (live : QueueLive config stale before.cacheManager.dirtyQueue before.pageManager.pages) :
    QueueLive config stale after.cacheManager.dirtyQueue after.pageManager.pages := by
  induction steps with
  | refl => exact live
  | tail _ step ih => exact step.live_dirtyQueue ih

theorem live (steps : FlushSteps config concerned writes before after)
    (live : Live config stale before) : Live config stale after :=
  ⟨FlushSteps.live_pageQueue steps live.pageQueue,
    FlushSteps.live_dirtyQueue steps live.dirtyQueue⟩

end FlushSteps

end Andromeda.FileData
