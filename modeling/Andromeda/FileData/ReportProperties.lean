import Andromeda.FileData.FrameProperties
import Andromeda.FileData.TruncateProperties

/-! `RemoteChanged`: what a report of a new size on the backend leaves of the pages. -/

set_option autoImplicit false

namespace Andromeda.FileData

open Andromeda.Library
open Andromeda.Library.Bytes (byteAt resize overwrite slice)

/-- No dirty page is short in the file as it is on the backend now. -/
def Covers (config : Config) (world : World) (backendSize : Nat) : Prop :=
  ∀ index page, world.pageManager.pages.find? index = some page → page.dirty = true →
    page.size = config.pageSize ∨ backendSize ≤ index * config.pageSize + page.size

section

variable {config : Config} {world before after : World}

namespace PageManager

private theorem forgetPages_frame (config : Config) (indices : List Nat) (world : World) :
    ∃ cacheManager, indices.foldl (forgetPage config) world = { world with cacheManager } := by
  induction indices generalizing world with
  | nil => exact ⟨world.cacheManager, rfl⟩
  | cons index rest ih =>
      obtain ⟨cacheManager, same⟩ := ih (forgetPage config world index)
      exact ⟨cacheManager, same⟩

/-- The dirty pages are left, and the file ends where the last of them or the backend
does. -/
structure Reported (config : Config) (backendSize : Nat) (before after : World) : Prop where
  remote : after.remote = before.remote
  pageBackend : after.pageBackend = ⟨backendSize, before.pageBackend.backendExists⟩
  threads : SameThreads before after
  fileSize : after.pageManager.fileSize =
    max backendSize (maxDirty config after.pageManager.pages)
  pages : ∀ index, after.pageManager.pages.find? index =
    (before.pageManager.pages.filter fun _ page => page.dirty).find? index
  live : Live config none before → Live config none after

theorem remoteChanged_spec {backendSize : Nat}
    (existing : world.pageBackend.backendExists = true) :
    Outcome (remoteChanged config backendSize) world
      (fun _ => Reported config backendSize world) (fun _ _ => False) := by
  simp only [remoteChanged, Outcome.bind_iff, Outcome.get_iff, existing, if_true, Outcome.set_iff]
  obtain ⟨dropped, gaveUp, cacheManager, _, pages⟩ :=
    @gaveUp_clean (Live config none) config world
  obtain ⟨emptied, forgotten⟩ :=
    forgetPages_frame config (cleanPages world.pageManager.pages) world
  rw [cleanPages] at forgotten
  rw [forgotten]
  refine ⟨rfl, rfl, ⟨rfl, rfl, rfl, rfl⟩, rfl, fun _ => rfl, fun live => ?_⟩
  have liveDropped := gaveUp (fun _ index live => live_giveUp live index) live
  rw [cleanPages, forgotten] at cacheManager
  have kept {queue : List PageInfo}
      (live : QueueLive config none queue dropped.pageManager.pages) :
      QueueLive config none queue (world.pageManager.pages.filter fun _ page => page.dirty) :=
    ⟨live.cacheMgr, fun member isOwn => by
      rw [← pages]
      exact live.cached member isOwn⟩
  refine ⟨?_, ?_⟩
  · rw [← cacheManager]
    exact kept liveDropped.pageQueue
  · rw [← cacheManager]
    exact kept liveDropped.dirtyQueue

namespace Reported

variable {backendSize : Nat}

private theorem page (reported : Reported config backendSize before after) {index : Nat}
    {page : Page}
    (found : after.pageManager.pages.find? index = some page) :
    before.pageManager.pages.find? index = some page ∧ page.dirty = true := by
  rw [reported.pages, KeyMap.find?_filter] at found
  exact Option.filter_eq_some_iff.mp found

private theorem reaches (reported : Reported config backendSize before after) {index : Nat}
    {page : Page}
    (found : after.pageManager.pages.find? index = some page) :
    index * config.pageSize + page.size ≤ after.pageManager.fileSize := by
  rw [reported.fileSize]
  exact Nat.le_trans (le_maxDirty found (reported.page found).2) (Nat.le_max_right _ _)

private theorem size_eq (reported : Reported config backendSize before after)
    (sound : Sound config before) (covers : Covers config before backendSize) {index : Nat}
    {page : Page} (found : after.pageManager.pages.find? index = some page) :
    page.size = config.lengthAt after.pageManager.fileSize index := by
  obtain ⟨foundBefore, dirty⟩ := reported.page found
  have reach := reported.reaches found
  have fits := sound.shaped.fits foundBefore
  rcases covers index page foundBefore dirty with full | beyond
  · unfold Config.lengthAt
    omega
  · by_cases full : page.size = config.pageSize
    · unfold Config.lengthAt
      omega
    · have last : maxDirty config after.pageManager.pages ≤
          index * config.pageSize + page.size := by
        refine maxDirty_le_iff.mpr fun other otherPage foundOther _ => ?_
        obtain ⟨otherBefore, _⟩ := reported.page foundOther
        have otherFits := sound.shaped.fits otherBefore
        rcases Nat.lt_trichotomy other index with less | same | greater
        · have := Nat.mul_le_mul_right config.pageSize (Nat.succ_le_of_lt less)
          rw [Nat.succ_mul] at this
          omega
        · subst same
          rw [foundBefore] at otherBefore
          cases otherBefore
          exact Nat.le_refl _
        · exact absurd (sound.shaped.full foundBefore otherBefore greater) full
      have size := reported.fileSize
      unfold Config.lengthAt
      omega

theorem sound (reported : Reported config backendSize before after) (sound : Sound config before)
    (existing : before.pageBackend.backendExists = true)
    (covers : Covers config before backendSize) : Sound config after where
  shaped := by
    refine ⟨fun {index page} found => ?_, ?_, fun missing => ?_⟩
    · have size := reported.size_eq sound covers found
      obtain ⟨foundBefore, _⟩ := reported.page found
      have positive := sound.shaped.size_pos foundBefore
      have reach := reported.reaches found
      exact ⟨by omega, sound.shaped.fits foundBefore, Nat.le_of_eq size.symm, fun _ => size⟩
    · rw [reported.pageBackend, reported.fileSize]
      exact Nat.le_max_left _ _
    · rw [reported.pageBackend, existing] at missing
      cases missing
  live := reported.live sound.live
  queued _ index page found oversized := by
    rw [← reported.size_eq sound covers found] at oversized
    exact absurd oversized (Nat.lt_irrefl _)

theorem agrees {data : Bytes} (reported : Reported config data.length before after)
    (existing : before.pageBackend.backendExists = true) (remote : before.remote = some data) :
    Agrees config after where
  exists_eq := by
    rw [reported.pageBackend, reported.remote, remote, existing]
    rfl
  size_eq := by
    rw [reported.pageBackend, World.stored, reported.remote, remote]
    rfl
  page found := by
    refine ⟨fun past => Bytes.byteAt_of_length_le ?_, fun clean => ?_⟩
    · have reach := reported.reaches found
      unfold Page.size at reach
      omega
    · rw [(reported.page found).2] at clean
      cases clean

end Reported

end PageManager

end

end Andromeda.FileData
