import Andromeda.FileData.CacheQueueProperties
import Andromeda.FileData.PageFlush

/-! The logical content of a file and the invariants of its pages: their sizes,
their agreement with the stored bytes, and the queue entries that stand for them. -/

set_option autoImplicit false

namespace Andromeda.FileData

open Andromeda.Library
open Andromeda.Library.Bytes (byteAt resize overwrite slice)

/-- The bytes the backend stores. -/
def World.stored (world : World) : Bytes := world.remote.getD []

/-- The byte a reader sees at a place of a page: the cached page's, or else the
stored one. -/
def World.cell (config : Config) (world : World) (index place : Nat) : UInt8 :=
  match world.pageManager.pages.find? index with
  | some page => byteAt page.data place
  | none => byteAt world.stored (index * config.pageSize + place)

/-- The logical content of the file. -/
def World.content (config : Config) (world : World) : Bytes :=
  (List.range world.pageManager.fileSize).map fun position =>
    world.cell config (position / config.pageSize) (position % config.pageSize)

/-- The bytes a file of this size has in a page. -/
def Config.lengthAt (config : Config) (size index : Nat) : Nat :=
  min (size - index * config.pageSize) config.pageSize

/-- A cached page lies inside the bound and holds all the bytes the bound gives it;
a dirty page holds exactly these. -/
structure PageShaped (config : Config) (bound index : Nat) (page : Page) : Prop where
  inside : index * config.pageSize < bound
  fits : page.size ≤ config.pageSize
  filled : config.lengthAt bound index ≤ page.size
  dirtySize : page.dirty = true → page.size = config.lengthAt bound index

/-- Every cached page has its shape, and the backend does not reach past the bound. -/
structure Shaped (config : Config) (bound : Nat) (world : World) : Prop where
  page {index page} : world.pageManager.pages.find? index = some page →
    PageShaped config bound index page
  backend : world.pageBackend.backendSize ≤ bound
  pending : world.pageBackend.backendExists = false → world.pageBackend.backendSize = 0

/-- A cached page holds no data past the bound, and a clean one that is not exempt
holds the stored bytes. -/
structure PageStored (config : Config) (bound : Nat) (exempt : Option Nat) (stored : Bytes)
    (index : Nat) (page : Page) : Prop where
  tail {place} : bound ≤ index * config.pageSize + place → byteAt page.data place = 0
  clean {place} : page.dirty = false → exempt ≠ some index → place < config.pageSize →
    byteAt page.data place = byteAt stored (index * config.pageSize + place)

/-- The client's view of the backend is right, and the pages agree with it. -/
structure Stored (config : Config) (bound : Nat) (exempt : Option Nat) (world : World) :
    Prop where
  exists_eq : world.pageBackend.backendExists = world.remote.isSome
  size_eq : world.pageBackend.backendSize = world.stored.length
  page {index page} : world.pageManager.pages.find? index = some page →
    PageStored config bound exempt world.stored index page

/-- A file on the backend that its dirty pages and the backend do not reach the end
of: nothing is left to extend it. -/
def Settled (config : Config) (world : World) : Prop :=
  world.pageBackend.backendExists = true → world.pageManager.fileSize ≤
    max world.pageBackend.backendSize (PageManager.maxDirty config world.pageManager.pages)

/-- Every own queue entry stands for a cached page, and has its capacity unless it
is about to be given it. -/
structure QueueLive (config : Config) (stale : Option Nat) (queue : List PageInfo)
    (pages : PageMap) : Prop where
  cacheMgr {info} : info ∈ queue → info.manager = ownManager → config.cacheMgr = true
  cached {info} : info ∈ queue → info.manager = ownManager →
    ∃ page, pages.find? info.index = some page ∧
      (stale ≠ some info.index → info.pageSize = config.capacity page)

/-- Both queues. -/
structure Live (config : Config) (stale : Option Nat) (world : World) : Prop where
  pageQueue : QueueLive config stale world.cacheManager.pageQueue world.pageManager.pages
  dirtyQueue : QueueLive config stale world.cacheManager.dirtyQueue world.pageManager.pages

/-- A page has an own entry in the page queue. -/
def HasEntry (world : World) (index : Nat) : Prop :=
  ∃ info ∈ world.cacheManager.pageQueue, info.manager = ownManager ∧ info.index = index

/-- Every page with more bytes than the bound gives it is in the page queue. -/
def Queued (config : Config) (bound : Nat) (world : World) : Prop :=
  config.cacheMgr = true → ∀ index page, world.pageManager.pages.find? index = some page →
    config.lengthAt bound index < page.size → HasEntry world index

theorem World.cell_cached {config : Config} {world : World} {index place : Nat} {page : Page}
    (found : world.pageManager.pages.find? index = some page) :
    world.cell config index place = byteAt page.data place := by
  simp [World.cell, found]

theorem World.cell_uncached {config : Config} {world : World} {index place : Nat}
    (missing : world.pageManager.pages.find? index = none) :
    world.cell config index place = byteAt world.stored (index * config.pageSize + place) := by
  simp [World.cell, missing]

@[simp] theorem World.length_content (config : Config) (world : World) :
    (world.content config).length = world.pageManager.fileSize := by
  simp [World.content]

theorem World.byteAt_content (config : Config) (world : World) (position : Nat) :
    byteAt (world.content config) position =
      if position < world.pageManager.fileSize then
        world.cell config (position / config.pageSize) (position % config.pageSize)
      else 0 := by
  unfold byteAt World.content
  by_cases inside : position < world.pageManager.fileSize
  · simp [inside]
  · simp [inside]

/-- The data decides the shape, and a page that is no longer dirty keeps it. -/
theorem PageShaped.congr {config : Config} {bound index : Nat} {old page : Page}
    (shape : PageShaped config bound index old) (data : page.data = old.data)
    (dirty : page.dirty = true → old.dirty = true) : PageShaped config bound index page := by
  have sameSize : page.size = old.size := congrArg List.length data
  refine ⟨shape.inside, ?_, ?_, fun isDirty => ?_⟩
  · exact sameSize ▸ shape.fits
  · exact sameSize ▸ shape.filled
  · exact sameSize ▸ shape.dirtySize (dirty isDirty)

/-- Between two bounds that give the page the same bytes. -/
theorem PageShaped.rebound {config : Config} {bound bound' index : Nat} {page : Page}
    (shape : PageShaped config bound index page) (inside : index * config.pageSize < bound')
    (same : config.lengthAt bound' index = config.lengthAt bound index) :
    PageShaped config bound' index page :=
  ⟨inside, shape.fits, same ▸ shape.filled, fun dirty => same ▸ shape.dirtySize dirty⟩

theorem Config.lengthAt_le (config : Config) (size index : Nat) :
    config.lengthAt size index ≤ config.pageSize := Nat.min_le_right _ _

theorem Config.lengthAt_mono (config : Config) {small large : Nat} (index : Nat)
    (le : small ≤ large) : config.lengthAt small index ≤ config.lengthAt large index := by
  unfold Config.lengthAt
  omega

/-- A page that ends inside the file is full. -/
theorem Config.lengthAt_full (config : Config) {size index : Nat}
    (inside : (index + 1) * config.pageSize ≤ size) :
    config.lengthAt size index = config.pageSize := by
  rw [Nat.succ_mul] at inside
  unfold Config.lengthAt
  omega

namespace Shaped

variable {config : Config} {bound : Nat} {world : World}

theorem inside (shaped : Shaped config bound world) {index : Nat} {page : Page}
    (found : world.pageManager.pages.find? index = some page) :
    index * config.pageSize < bound := (shaped.page found).inside

theorem fits (shaped : Shaped config bound world) {index : Nat} {page : Page}
    (found : world.pageManager.pages.find? index = some page) :
    page.size ≤ config.pageSize := (shaped.page found).fits

theorem filled (shaped : Shaped config bound world) {index : Nat} {page : Page}
    (found : world.pageManager.pages.find? index = some page) :
    config.lengthAt bound index ≤ page.size := (shaped.page found).filled

theorem dirtySize (shaped : Shaped config bound world) {index : Nat} {page : Page}
    (found : world.pageManager.pages.find? index = some page) (dirty : page.dirty = true) :
    page.size = config.lengthAt bound index := (shaped.page found).dirtySize dirty

/-- A page before another cached page is full. -/
theorem full (shaped : Shaped config bound world) {index later : Nat} {page other : Page}
    (found : world.pageManager.pages.find? index = some page)
    (foundLater : world.pageManager.pages.find? later = some other) (before : index < later) :
    page.size = config.pageSize := by
  have laterInside := shaped.inside foundLater
  have step : (index + 1) * config.pageSize ≤ later * config.pageSize :=
    Nat.mul_le_mul_right _ before
  rw [Nat.succ_mul] at step
  have enough := shaped.filled found
  have fits := shaped.fits found
  unfold Config.lengthAt at enough
  omega

/-- The data of a dirty page ends inside the bound. -/
theorem dirty_le (shaped : Shaped config bound world) {index : Nat} {page : Page}
    (found : world.pageManager.pages.find? index = some page) (dirty : page.dirty = true) :
    index * config.pageSize + page.size ≤ bound := by
  have inside := shaped.inside found
  have size := shaped.dirtySize found dirty
  unfold Config.lengthAt at size
  omega

theorem size_pos (shaped : Shaped config bound world) {index : Nat} {page : Page}
    (found : world.pageManager.pages.find? index = some page) : 0 < page.size := by
  have inside := shaped.inside found
  have enough := shaped.filled found
  have := config.pageSize_pos
  unfold Config.lengthAt at enough
  omega

end Shaped

/-- Past the end of a cached page there is nothing stored. -/
theorem Stored.stored_past {config : Config} {bound : Nat} {exempt : Option Nat}
    {world : World} (stored : Stored config bound exempt world)
    (shaped : Shaped config bound world) {index place : Nat} {page : Page}
    (found : world.pageManager.pages.find? index = some page) (past : page.size ≤ place)
    (onPage : place < config.pageSize) :
    byteAt world.stored (index * config.pageSize + place) = 0 := by
  apply Bytes.byteAt_of_length_le
  rw [← stored.size_eq]
  have inside := shaped.inside found
  have enough := shaped.filled found
  have backend := shaped.backend
  unfold Config.lengthAt at enough
  omega

namespace PageManager

private theorem foldl_max_le {α : Type} (test : α → Bool) (measure : α → Nat) (entries : List α)
    (start bound : Nat) :
    entries.foldl (fun largest entry =>
        if test entry then max largest (measure entry) else largest) start ≤ bound ↔
      start ≤ bound ∧ ∀ entry ∈ entries, test entry = true → measure entry ≤ bound := by
  induction entries generalizing start with
  | nil => simp
  | cons entry rest ih =>
      rw [List.foldl_cons, ih]
      by_cases tested : test entry = true
      · simp [tested, and_assoc]
      · simp [tested]

theorem maxDirty_le_iff {config : Config} {pages : PageMap} {bound : Nat} :
    maxDirty config pages ≤ bound ↔ ∀ index page, pages.find? index = some page →
      page.dirty = true → index * config.pageSize + page.size ≤ bound := by
  rw [maxDirty, foldl_max_le (fun entry : Nat × Page => entry.2.dirty)
    (fun entry => entry.1 * config.pageSize + entry.2.size)]
  simp only [Nat.zero_le, true_and, Prod.forall, KeyMap.find?_eq_some_iff]

theorem le_maxDirty {config : Config} {pages : PageMap} {index : Nat} {page : Page}
    (found : pages.find? index = some page) (dirty : page.dirty = true) :
    index * config.pageSize + page.size ≤ maxDirty config pages :=
  maxDirty_le_iff.mp (Nat.le_refl _) index page found dirty

end PageManager

end Andromeda.FileData
