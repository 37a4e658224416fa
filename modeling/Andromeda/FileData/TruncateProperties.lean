import Andromeda.FileData.WriteProperties

/-! `Truncate` cuts or extends the content, and leaves every cached page with exactly
the bytes the new size gives it. -/

set_option autoImplicit false

namespace Andromeda.FileData

open Andromeda.Library
open Andromeda.Library.Bytes (byteAt resize overwrite slice)

/-- What a page becomes when the file is cut or extended. -/
def cutPage (config : Config) (newSize index : Nat) (page : Page) : Option Page :=
  if index * config.pageSize < newSize then
    some (page.resizeTo (config.lengthAt newSize index))
  else none

/-- The file cut or extended on the backend and in the cache. -/
structure Truncated (config : Config) (newSize : Nat) (before after : World) : Prop where
  remote : Agrees config before → after.remote = before.remote.map (resize · newSize)
  exists_eq : after.pageBackend.backendExists = before.pageBackend.backendExists
  size : after.pageBackend.backendSize =
    if before.pageBackend.backendExists then newSize else before.pageBackend.backendSize
  fileSize : after.pageManager.fileSize = newSize
  threads : SameThreads before after
  pages : ∀ index, after.pageManager.pages.find? index =
    (before.pageManager.pages.find? index).bind (cutPage config newSize index)

namespace Truncated

variable {config : Config} {newSize : Nat} {before middle after : World}

private theorem page (truncated : Truncated config newSize before after) {index : Nat} {page : Page}
    (found : after.pageManager.pages.find? index = some page) :
    ∃ old, before.pageManager.pages.find? index = some old ∧
      index * config.pageSize < newSize ∧
      page = old.resizeTo (config.lengthAt newSize index) := by
  rw [truncated.pages] at found
  obtain ⟨old, foundOld, cut⟩ := Option.bind_eq_some_iff.mp found
  unfold cutPage at cut
  split at cut
  · next inside =>
    cases cut
    exact ⟨old, foundOld, inside, rfl⟩
  · cases cut

private theorem shaped (truncated : Truncated config newSize before after) {bound : Nat}
    (shaped : Shaped config bound before) : Shaped config newSize after where
  page found := by
    obtain ⟨old, _, inside, rfl⟩ := truncated.page found
    exact ⟨inside, by simp [config.lengthAt_le], by simp, by simp⟩
  backend := by
    rw [truncated.size]
    split
    · exact Nat.le_refl _
    · next missing =>
      rw [shaped.pending (by simpa using missing)]
      exact Nat.zero_le _
  pending missing := by
    rw [truncated.exists_eq] at missing
    rw [truncated.size, missing]
    exact shaped.pending missing

private theorem queued (truncated : Truncated config newSize before after) :
    Queued config newSize after := by
  intro _ index page found oversized
  obtain ⟨old, _, _, rfl⟩ := truncated.page found
  rw [Page.size_resizeTo] at oversized
  exact absurd oversized (Nat.lt_irrefl _)

private theorem byteAt_stored (truncated : Truncated config newSize before after)
    (agrees : Agrees config before) (position : Nat) :
    byteAt after.stored position =
      if position < newSize then byteAt before.stored position else 0 := by
  unfold World.stored
  rw [truncated.remote agrees]
  cases before.remote with
  | none => simp
  | some data => exact Bytes.byteAt_resize _ _ _

private theorem stored (truncated : Truncated config newSize before after)
    (agrees : Agrees config before) : Stored config newSize none after where
  exists_eq := by
    rw [truncated.exists_eq, truncated.remote agrees, agrees.exists_eq, Option.isSome_map]
  size_eq := by
    have existing := agrees.exists_eq
    have size := agrees.size_eq
    unfold World.stored at *
    rw [truncated.size, truncated.remote agrees, existing, size]
    cases before.remote with
    | none => rfl
    | some data => simp
  page {index page} found := by
    obtain ⟨old, foundOld, inside, rfl⟩ := truncated.page found
    refine ⟨fun {place} past => ?_, fun {place} clean _ onPage => ?_⟩
    · refine Bytes.byteAt_of_length_le ?_
      show (old.resizeTo (config.lengthAt newSize index)).size ≤ place
      rw [Page.size_resizeTo]
      unfold Config.lengthAt
      omega
    · have same : place < config.lengthAt newSize index ↔
          index * config.pageSize + place < newSize := by
        unfold Config.lengthAt
        omega
      rw [Page.resizeTo, Bytes.byteAt_resize, truncated.byteAt_stored agrees, if_congr same rfl rfl]
      rw [(agrees.page foundOld).clean clean (by simp) onPage]

private theorem cell (truncated : Truncated config newSize before after)
    (agrees : Agrees config before)
    {index place : Nat} (onPage : place < config.pageSize) :
    after.cell config index place =
      if index * config.pageSize + place < newSize then before.cell config index place
      else 0 := by
  cases found : before.pageManager.pages.find? index with
  | none =>
      have missing : after.pageManager.pages.find? index = none := by
        rw [truncated.pages, found]
        rfl
      rw [World.cell_uncached missing, World.cell_uncached found, truncated.byteAt_stored agrees]
  | some old =>
      by_cases inside : index * config.pageSize < newSize
      · have cached : after.pageManager.pages.find? index =
            some (old.resizeTo (config.lengthAt newSize index)) := by
          rw [truncated.pages, found, Option.bind_some, cutPage, if_pos inside]
        have same : place < config.lengthAt newSize index ↔
            index * config.pageSize + place < newSize := by
          unfold Config.lengthAt
          omega
        rw [World.cell_cached cached, World.cell_cached found, Page.resizeTo,
          Bytes.byteAt_resize, if_congr same rfl rfl]
      · have missing : after.pageManager.pages.find? index = none := by
          rw [truncated.pages, found, Option.bind_some, cutPage, if_neg inside]
        rw [World.cell_uncached missing, truncated.byteAt_stored agrees, if_neg (by omega),
          if_neg (by omega)]

private theorem settled (truncated : Truncated config newSize before after) :
    Settled config after := by
  intro existing
  rw [truncated.exists_eq] at existing
  rw [truncated.fileSize, truncated.size, if_pos existing]
  exact Nat.le_max_left _ _

private theorem changed (truncated : Truncated config newSize before middle)
    (sound : Sound config before)
    {concerned : Option Nat} (moved : Moved config concerned middle after)
    (live : Live config none after) :
    Changed config (resize (before.content config) newSize) before after := by
  have size : middle.pageManager.fileSize ≤ newSize := Nat.le_of_eq truncated.fileSize
  have shapedMiddle := truncated.shaped sound.shaped
  have fileSize := moved.steps.fileSize.trans truncated.fileSize
  have soundAfter : Sound config after := by
    have shaped := moved.steps.shaped shapedMiddle size
    have queued := moved.steps.queued shapedMiddle size truncated.queued
    rw [← fileSize] at shaped queued
    exact ⟨shaped, live, queued⟩
  have agreesAfter (agrees : Agrees config before) : Agrees config after := by
    have stored := moved.steps.stored shapedMiddle size (truncated.stored agrees)
    rwa [← fileSize] at stored
  refine ⟨soundAfter, truncated.threads.trans moved.steps.sameFetches.threads, ?_, agreesAfter,
    fun agrees => ?_, fun _ => moved.settled shapedMiddle size truncated.settled⟩
  · rw [Bytes.length_resize, fileSize]
  · refine Bytes.ext_byteAt ?_ fun position => ?_
    · rw [World.length_content, Bytes.length_resize, fileSize]
    · rw [Bytes.byteAt_resize, agrees.byteAt_content sound,
        (agreesAfter agrees).byteAt_content soundAfter]
      obtain ⟨index, place, onPage, rfl⟩ := config.exists_page position
      rw [World.byte_page onPage, World.byte_page onPage,
        moved.steps.cell shapedMiddle size (truncated.stored agrees) (fun _ _ => by simp) onPage]
      exact truncated.cell agrees onPage

end Truncated

/-- The file before the loop of `Truncate`: the sizes are the new ones, the pages the
old ones. -/
structure Recut (config : Config) (newSize : Nat) (before after : World) : Prop where
  remote : Agrees config before → after.remote = before.remote.map (resize · newSize)
  exists_eq : after.pageBackend.backendExists = before.pageBackend.backendExists
  size : after.pageBackend.backendSize =
    if before.pageBackend.backendExists then newSize else before.pageBackend.backendSize
  fileSize : after.pageManager.fileSize = newSize
  threads : SameThreads before after
  pages : after.pageManager.pages = before.pageManager.pages
  cacheManager : after.cacheManager = before.cacheManager

/-- Only pages and queues have changed. -/
structure PagesOnly (before after : World) : Prop where
  remote : after.remote = before.remote
  pageBackend : after.pageBackend = before.pageBackend
  fetches : SameFetches before after

private theorem PagesOnly.refl (world : World) : PagesOnly world world := ⟨rfl, rfl, .refl world⟩

private theorem PagesOnly.trans {first second third : World} (left : PagesOnly first second)
    (right : PagesOnly second third) : PagesOnly first third :=
  ⟨right.remote.trans left.remote, right.pageBackend.trans left.pageBackend,
    left.fetches.trans right.fetches⟩

private theorem Recut.truncated {config : Config} {newSize : Nat} {before base after : World}
    (recut : Recut config newSize before base) (rest : PagesOnly base after)
    (pages : ∀ index, after.pageManager.pages.find? index =
      (base.pageManager.pages.find? index).bind (cutPage config newSize index)) :
    Truncated config newSize before after where
  remote agrees := rest.remote.trans (recut.remote agrees)
  exists_eq := by rw [rest.pageBackend, recut.exists_eq]
  size := by rw [rest.pageBackend, recut.size]
  fileSize := rest.fetches.fileSize.trans recut.fileSize
  threads := recut.threads.trans rest.fetches.threads
  pages index := by rw [pages, recut.pages]

/-- A throw while the file still has its old size. -/
def Steady (env : Env) (world : World) : Prop :=
  ∀ stop call, env.fault stop call = true →
    stop.pageManager.fileSize = world.pageManager.fileSize

/-- A `Truncate` that threw. -/
structure TruncateThrew (config : Config) (env : Env) (before : World) (exception : Exception)
    (after : World) : Prop where
  fault : ∃ stop call, env.fault stop call = true
  failed : Steady env before → Failed config env before exception after
  arrived : Steady env before → after = before.arrived before.uploadMaxBytes

namespace PageManager

variable {config : Config} {env : Env} {world base old : World} {index newSize oldSize : Nat}
  {page : Page}

private theorem resizePage_down (live : Live config none world)
    (found : world.pageManager.pages.find? index = some page) {size : Nat}
    (smaller : size ≤ page.size) :
    Outcome (resizePage config env index size true) world
      (fun _ final => PagesOnly world final ∧ Live config none final ∧ ∀ other,
        final.pageManager.pages.find? other =
          if other = index then some (page.resizeTo size)
          else world.pageManager.pages.find? other)
      (fun _ _ => False) := by
  have pagesOf {after : World} (changed : PageChanged index (page.resizeTo size) world after)
      (other : Nat) : after.pageManager.pages.find? other =
        if other = index then some (page.resizeTo size)
        else world.pageManager.pages.find? other := by
    split
    · next same => rw [same, changed.found]
    · next different => exact changed.others other different
  simp only [resizePage, Outcome.bind_iff, Outcome.get_iff, found, Outcome.ite_iff,
    Outcome.pure_iff, Outcome.modify_iff]
  refine ⟨fun same => ⟨.refl world, live, fun other => ?_⟩, fun _ => ?_⟩
  · split
    · next here => rw [here, found, Page.resizeTo, Bytes.resize_of_length_eq same]
    · rfl
  · have changed : PageChanged index (page.resizeTo size) world
        (changePage world index fun page => page.resizeTo size) :=
      changePage_changed found fun page => page.resizeTo size
    have liveChanged := changed.live live.weaken
    refine ⟨fun _ => ?_, fun noCacheMgr => ⟨⟨rfl, rfl, changed.fetches⟩, ?_, pagesOf changed⟩⟩
    · rw [onThrow_iff]
      have small : config.capacity (page.resizeTo size) ≤ config.capacity page :=
        config.capacity_mono (by simpa using smaller)
      refine (CacheManager.shrink_moved liveChanged changed.found
        ((CacheManager.Live.entriesAtLeast live found small).changed changed)).mono ?_
          fun _ _ => False.elim
      rintro _ final ⟨moved, liveFinal, same⟩
      refine ⟨⟨same.remote, same.pageBackend, changed.fetches.trans moved.steps.sameFetches⟩,
        liveFinal, fun other => ?_⟩
      rw [same.pages]
      exact pagesOf changed other
    · refine liveChanged.of_no_cacheMgr fun cacheMgr => noCacheMgr ?_
      simpa using cacheMgr

/-- A page given up leaves the queues with the map. -/
theorem live_giveUp {stale : Option Nat} (live : Live config stale world) (index : Nat) :
    Live config stale (erasePage (forgetPage config world index) index) := by
  have kept {queue queue' : List PageInfo}
      (live : QueueLive config stale queue world.pageManager.pages)
      (same : queue' = if config.cacheMgr then CacheManager.erase queue ownManager index
        else queue) :
      QueueLive config stale queue' (world.pageManager.pages.erase index) := by
    have subset : ∀ info ∈ queue', info.manager = ownManager →
        info ∈ queue ∧ info.index ≠ index := by
      intro info member isOwn
      rw [same] at member
      split at member
      · obtain ⟨member, other⟩ := CacheManager.mem_erase.mp member
        exact ⟨member, fun sameIndex => other ⟨isOwn, sameIndex⟩⟩
      · next none => exact absurd (live.cacheMgr member isOwn) none
    refine live.mono (fun info member isOwn => (subset info member isOwn).1)
      fun info member isOwn cached found => ⟨cached, ?_, rfl⟩
    rw [KeyMap.find?_erase, if_neg (subset info member isOwn).2]
    exact found
  refine ⟨kept live.pageQueue ?_, kept live.dirtyQueue ?_⟩
  · unfold erasePage forgetPage
    split
    · rw [CacheManager.removePage_pageQueue]
    · rfl
  · unfold erasePage forgetPage
    split
    · rw [CacheManager.removePage_dirtyQueue]
    · rfl

/-- The pages before `next` have been cut, the others are the old ones. -/
structure Shrinking (config : Config) (newSize next : Nat) (base world : World) : Prop where
  rest : PagesOnly base world
  live : Live config none world
  pages : ∀ index, world.pageManager.pages.find? index =
    if index < next then (base.pageManager.pages.find? index).bind (cutPage config newSize index)
    else base.pageManager.pages.find? index

private theorem Shrinking.step {next : Nat} {after : World}
    (shrinking : Shrinking config newSize next base world)
    {tail : List (Nat × Page)}
    (entries : world.pageManager.pages.entriesFrom next = (index, page) :: tail)
    (rest : PagesOnly world after) (live : Live config none after)
    (pages : ∀ other, after.pageManager.pages.find? other =
      if other = index then cutPage config newSize index page
      else world.pageManager.pages.find? other) :
    Shrinking config newSize (index + 1) base after where
  rest := shrinking.rest.trans rest
  live := live
  pages other := by
    have first : next ≤ index ∧ world.pageManager.pages.find? index = some page :=
      KeyMap.mem_entriesFrom.mp (entries ▸ List.mem_cons_self)
    have foundBase : base.pageManager.pages.find? index = some page := by
      have := shrinking.pages index
      rw [if_neg (Nat.not_lt.mpr first.1), first.2] at this
      exact this.symm
    rw [pages]
    by_cases same : other = index
    · rw [if_pos same, if_pos (by omega), same, foundBase, Option.bind_some]
    · rw [if_neg same, shrinking.pages]
      by_cases before : other < next
      · rw [if_pos before, if_pos (by omega)]
      · rw [if_neg before]
        split
        · next between =>
          cases foundOther : base.pageManager.pages.find? other with
          | none => rfl
          | some otherPage =>
              have present : world.pageManager.pages.find? other = some otherPage := by
                rw [shrinking.pages, if_neg before, foundOther]
              have member : (other, otherPage) ∈ world.pageManager.pages.entriesFrom next :=
                KeyMap.mem_entriesFrom.mpr ⟨Nat.le_of_not_lt before, present⟩
              have sorted := world.pageManager.pages.sorted_entriesFrom next
              rw [entries] at member sorted
              rcases List.mem_cons.mp member with here | later
              · exact absurd (congrArg Prod.fst here) same
              · have := (List.pairwise_cons.mp sorted).1 _ later
                simp only at this
                omega
        · rfl

private theorem past_iff {config : Config} {newSize index : Nat} :
    (newSize = 0 ∨ (newSize - 1) / config.pageSize < index) ↔
      ¬ index * config.pageSize < newSize := by
  rw [Nat.div_lt_iff_lt_mul config.pageSize_pos]
  omega

private theorem entriesFrom_after {after : World} {next : Nat} {tail : List (Nat × Page)}
    (entries : world.pageManager.pages.entriesFrom next = (index, page) :: tail)
    (others : ∀ other, other ≠ index →
      after.pageManager.pages.find? other = world.pageManager.pages.find? other) :
    after.pageManager.pages.entriesFrom (index + 1) = tail := by
  rw [KeyMap.entriesFrom_congr fun other above => others other (Nat.ne_of_gt above)]
  exact KeyMap.entriesFrom_tail entries fun _ => Nat.lt_iff_add_one_le

/-- Every page has been cut, and no limit enforced. -/
structure Shrunk (config : Config) (newSize : Nat) (base after : World) : Prop where
  rest : PagesOnly base after
  live : Live config none after
  pages : ∀ index, after.pageManager.pages.find? index =
    (base.pageManager.pages.find? index).bind (cutPage config newSize index)

private theorem truncateLoop_shrink (fuel : Nat) {next : Nat} (shaped : Shaped config oldSize old)
    (same : base.pageManager.pages = old.pageManager.pages) (shrinks : newSize ≤ oldSize)
    (shrinking : Shrinking config newSize next base world)
    (enough : (world.pageManager.pages.entriesFrom next).length < fuel) :
    Outcome (truncateLoop config env newSize fuel next) world
      (fun _ => Shrunk config newSize base) (fun _ _ => False) := by
  induction fuel generalizing next world with
  | zero => cases enough
  | succ fuel ih =>
      simp only [truncateLoop, Outcome.bind_iff, Outcome.get_iff]
      cases entries : world.pageManager.pages.entriesFrom next with
      | nil =>
          refine ⟨shrinking.rest, shrinking.live, fun index => ?_⟩
          rw [shrinking.pages]
          split
          · rfl
          · next later =>
            cases found : base.pageManager.pages.find? index with
            | none => rfl
            | some page =>
                have present : (index, page) ∈ world.pageManager.pages.entriesFrom next := by
                  rw [KeyMap.mem_entriesFrom, shrinking.pages, if_neg later]
                  exact ⟨Nat.le_of_not_lt later, found⟩
                rw [entries] at present
                cases present
      | cons entry tail =>
          obtain ⟨index, page⟩ := entry
          have first : next ≤ index ∧ world.pageManager.pages.find? index = some page :=
            KeyMap.mem_entriesFrom.mp (entries ▸ List.mem_cons_self)
          have foundBase : base.pageManager.pages.find? index = some page := by
            have := shrinking.pages index
            rw [if_neg (Nat.not_lt.mpr first.1), first.2] at this
            exact this.symm
          have continued (after : World) (rest : PagesOnly world after)
              (live : Live config none after) (pages : ∀ other,
                after.pageManager.pages.find? other =
                  if other = index then cutPage config newSize index page
                  else world.pageManager.pages.find? other) :
              Outcome (truncateLoop config env newSize fuel (index + 1)) after
                (fun _ => Shrunk config newSize base) (fun _ _ => False) := by
            refine ih (shrinking.step entries rest live pages) ?_
            rw [entriesFrom_after entries fun other different => by
              rw [pages, if_neg different]]
            rw [entries, List.length_cons] at enough
            omega
          have resized (size : Nat) (smaller : size ≤ page.size)
              (cut : cutPage config newSize index page = some (page.resizeTo size)) :
              Outcome (resizePage config env index size true) world
                (fun _ after => Outcome (truncateLoop config env newSize fuel (index + 1)) after
                  (fun _ => Shrunk config newSize base) (fun _ _ => False))
                (fun _ _ => False) :=
            (resizePage_down shrinking.live first.2 smaller).mono
              (fun _ after result => continued after result.1 result.2.1 (cut ▸ result.2.2))
              fun _ _ => False.elim
          have enoughBytes := shaped.filled (same ▸ foundBase)
          have fits := shaped.fits (same ▸ foundBase)
          have shorter := config.lengthAt_mono index shrinks
          simp only [List.head?_cons, Outcome.ite_iff, Outcome.bind_iff, Outcome.modify_iff,
            past_iff, not_not]
          refine ⟨fun past => ?_, fun inside => ⟨fun last => ?_, fun notLast =>
            ⟨fun short => ?_, fun full => ?_⟩⟩⟩
          · refine continued _ ⟨rfl, rfl, ⟨rfl, rfl, rfl, rfl, rfl⟩⟩
              (live_giveUp shrinking.live index) fun other => ?_
            rw [cutPage, if_neg past]
            exact KeyMap.find?_erase _ _ _
          · have size : newSize - index * config.pageSize = config.lengthAt newSize index := by
              have := (lastPage_bounds config (Nat.lt_of_le_of_lt (Nat.zero_le _) inside)).2
              rw [← last, Nat.succ_mul] at this
              unfold Config.lengthAt
              omega
            rw [size]
            refine resized _ (Nat.le_trans shorter enoughBytes) ?_
            rw [cutPage, if_pos inside]
          all_goals
            have before : index < (newSize - 1) / config.pageSize := by
              have : index ≤ (newSize - 1) / config.pageSize := by
                rw [Nat.le_div_iff_mul_le config.pageSize_pos]
                omega
              omega
            have ended : (index + 1) * config.pageSize ≤ newSize := by
              have := Nat.mul_le_mul_right config.pageSize before
              have := (lastPage_bounds config (Nat.lt_of_le_of_lt (Nat.zero_le _) inside)).1
              rw [Nat.succ_eq_add_one] at *
              omega
            have whole := config.lengthAt_full ended
          · omega
          · refine continued world (.refl world) shrinking.live fun other => ?_
            split
            · next here =>
              have size : page.size = config.pageSize := by simpa using full
              rw [cutPage, if_pos inside, whole, Page.resizeTo, Bytes.resize_of_length_eq size, here]
              exact first.2
            · rfl

/-- A loop without pages left. -/
theorem truncateLoop_done (fuel : Nat) {next : Nat}
    (none : world.pageManager.pages.entriesFrom next = []) :
    Outcome (truncateLoop config env newSize fuel next) world (fun _ final => final = world)
      (fun _ _ => False) := by
  cases fuel with
  | zero => rfl
  | succ fuel =>
      simp only [truncateLoop, Outcome.bind_iff, Outcome.get_iff, none]
      rfl

private theorem cutPage_same (inside : index * config.pageSize < newSize)
    (size : page.size = config.lengthAt newSize index) :
    cutPage config newSize index page = some page := by
  rw [cutPage, if_pos inside, ← size, Page.resizeTo, Bytes.resize_of_length_eq]
  rfl

private theorem resize_target (inside : index * config.pageSize < newSize) :
    (index = (newSize - 1) / config.pageSize →
      newSize - index * config.pageSize = config.lengthAt newSize index) ∧
    (index ≠ (newSize - 1) / config.pageSize → config.pageSize = config.lengthAt newSize index) := by
  obtain ⟨low, high⟩ := lastPage_bounds config (Nat.lt_of_le_of_lt (Nat.zero_le _) inside)
  refine ⟨fun last => ?_, fun notLast => ?_⟩
  · rw [← last, Nat.succ_mul] at high
    unfold Config.lengthAt
    omega
  · have le : index ≤ (newSize - 1) / config.pageSize := by
      rw [Nat.le_div_iff_mul_le config.pageSize_pos]
      omega
    refine (config.lengthAt_full ?_).symm
    have := Nat.mul_le_mul_right config.pageSize
      (show index + 1 ≤ (newSize - 1) / config.pageSize by omega)
    omega

/-- A `Truncate` to a larger size: the pages, with the old last page grown. -/
structure Grown (config : Config) (newSize : Nat) (base after : World) : Prop where
  moved : ∃ cut concerned, PagesOnly base cut ∧ (∀ index, cut.pageManager.pages.find? index =
      (base.pageManager.pages.find? index).bind (cutPage config newSize index)) ∧
    Moved config concerned cut after
  live : Live config none after

/-- A limit's enforcement threw while the old last page was grown. -/
def GrowThrew (env : Env) (oldSize newSize : Nat) (base : World) (exception : Exception) : Prop :=
  exception.isThrown = true ∧ oldSize < newSize ∧ ∃ stop call, env.fault stop call = true ∧
    stop.pageManager.fileSize = base.pageManager.fileSize

private theorem growPage_spec (fuel : Nat) {next : Nat} (shaped : Shaped config oldSize old)
    (same : world.pageManager.pages = old.pageManager.pages) (live : Live config none world)
    (grows : oldSize ≤ newSize)
    (found : world.pageManager.pages.find? index = some page)
    (size : page.size ≠ config.lengthAt newSize index)
    (cut : ∀ other otherPage, other < next → world.pageManager.pages.find? other = some otherPage →
      otherPage.size = config.lengthAt newSize other)
    {tail : List (Nat × Page)}
    (entries : world.pageManager.pages.entriesFrom next = (index, page) :: tail) :
    Outcome (do
        resizePage config env index (config.lengthAt newSize index) true
        truncateLoop config env newSize fuel (index + 1)) world
      (fun _ => Grown config newSize world)
      (fun exception _ => GrowThrew env oldSize newSize world exception) := by
  have others (other : Nat) (otherPage : Page) (different : other ≠ index)
      (foundOther : world.pageManager.pages.find? other = some otherPage) :
      other < next := by
    by_contra later
    have member : (other, otherPage) ∈ world.pageManager.pages.entriesFrom next :=
      KeyMap.mem_entriesFrom.mpr ⟨Nat.le_of_not_lt later, foundOther⟩
    have sorted := world.pageManager.pages.sorted_entriesFrom next
    rw [entries] at member sorted
    rcases List.mem_cons.mp member with here | inTail
    · exact different (congrArg Prod.fst here)
    · have after : index < other := (List.pairwise_cons.mp sorted).1 _ inTail
      have full := shaped.full (same ▸ found) (same ▸ foundOther) after
      have inside := shaped.inside (same ▸ foundOther)
      have step := Nat.mul_le_mul_right config.pageSize (Nat.succ_le_of_lt after)
      rw [config.lengthAt_full (by rw [Nat.succ_eq_add_one] at step; omega)] at size
      exact size full
  rw [Outcome.bind_iff]
  refine (resizePage_spec live found _).mono ?_ ?_
  · rintro _ final ⟨grown, changed, moved, liveFinal⟩
    have done : final.pageManager.pages.entriesFrom (index + 1) = [] := by
      refine List.eq_nil_iff_forall_not_mem.mpr fun entry member => ?_
      obtain ⟨after, foundEntry⟩ := KeyMap.mem_entriesFrom.mp member
      obtain ⟨oldPage, foundOld, _⟩ := moved.steps.pagesShrink _ _ foundEntry
      rw [changed.others _ (by omega)] at foundOld
      have early := others _ oldPage (by omega) foundOld
      have first : next ≤ index :=
        (KeyMap.mem_entriesFrom.mp (entries ▸ List.mem_cons_self)).1
      omega
    refine (truncateLoop_done fuel done).mono ?_ fun _ _ => False.elim
    rintro _ _ rfl
    refine ⟨⟨grown, _, ⟨changed.remote, changed.pageBackend, changed.fetches⟩, fun other => ?_,
      moved⟩, liveFinal⟩
    by_cases here : other = index
    · rw [here, changed.found, found, Option.bind_some, cutPage,
        if_pos (Nat.lt_of_lt_of_le (shaped.inside (same ▸ found)) grows)]
    · rw [changed.others other here]
      cases foundOther : world.pageManager.pages.find? other with
      | none => rfl
      | some otherPage =>
          rw [Option.bind_some, cutPage_same
            (Nat.lt_of_lt_of_le (shaped.inside (same ▸ foundOther)) grows)
            (cut other otherPage (others other otherPage here foundOther) foundOther)]
  · rintro exception final ⟨grown, middle, middlePage, restored, undone⟩
    obtain ⟨stop, call, fault, stopped⟩ := undone.threw.fault
    refine ⟨undone.threw.thrown, ?_, stop, call, fault, ?_⟩
    · by_contra notLess
      have equal : newSize = oldSize := by omega
      have enough := shaped.filled (same ▸ found)
      have smaller := undone.grows
      rw [equal] at size smaller
      omega
    · have sizes := undone.threw.steps.fileSize.trans undone.changed.fetches.fileSize
      rw [stopped] at sizes
      exact sizes

private theorem truncateLoop_grow (fuel : Nat) {next : Nat} (shaped : Shaped config oldSize old)
    (same : world.pageManager.pages = old.pageManager.pages) (live : Live config none world)
    (grows : oldSize ≤ newSize)
    (cut : ∀ index page, index < next → world.pageManager.pages.find? index = some page →
      page.size = config.lengthAt newSize index)
    (enough : (world.pageManager.pages.entriesFrom next).length < fuel) :
    Outcome (truncateLoop config env newSize fuel next) world
      (fun _ => Grown config newSize world)
      (fun exception _ => GrowThrew env oldSize newSize world exception) := by
  induction fuel generalizing next with
  | zero => cases enough
  | succ fuel ih =>
      simp only [truncateLoop, Outcome.bind_iff, Outcome.get_iff]
      cases entries : world.pageManager.pages.entriesFrom next with
      | nil =>
          refine ⟨⟨world, none, .refl world, fun index => ?_, .refl world, fun _ _ => id⟩, live⟩
          cases found : world.pageManager.pages.find? index with
          | none => rfl
          | some page =>
              have before : index < next := by
                by_contra later
                have member : (index, page) ∈ world.pageManager.pages.entriesFrom next :=
                  KeyMap.mem_entriesFrom.mpr ⟨Nat.le_of_not_lt later, found⟩
                rw [entries] at member
                cases member
              rw [Option.bind_some, cutPage_same
                (Nat.lt_of_lt_of_le (shaped.inside (same ▸ found)) grows) (cut index page before found)]
      | cons entry tail =>
          obtain ⟨index, page⟩ := entry
          obtain ⟨first, found⟩ : next ≤ index ∧
              world.pageManager.pages.find? index = some page :=
            KeyMap.mem_entriesFrom.mp (entries ▸ List.mem_cons_self)
          have inside := Nat.lt_of_lt_of_le (shaped.inside (same ▸ found)) grows
          obtain ⟨lastTarget, fullTarget⟩ := resize_target inside
          simp only [List.head?_cons, Outcome.ite_iff, Outcome.bind_iff, Outcome.modify_iff,
            past_iff, not_not]
          refine ⟨fun past => absurd inside past, fun _ => ?_⟩
          by_cases size : page.size = config.lengthAt newSize index
          · have skip : Outcome (truncateLoop config env newSize fuel (index + 1)) world
                (fun _ => Grown config newSize world)
                (fun exception _ => GrowThrew env oldSize newSize world exception) := by
              refine ih (fun other otherPage before foundOther => ?_) ?_
              · by_cases here : other = index
                · subst here
                  rw [found] at foundOther
                  cases foundOther
                  exact size
                · by_cases early : other < next
                  · exact cut other otherPage early foundOther
                  · have member : (other, otherPage) ∈
                        world.pageManager.pages.entriesFrom next :=
                      KeyMap.mem_entriesFrom.mpr ⟨Nat.le_of_not_lt early, foundOther⟩
                    have sorted := world.pageManager.pages.sorted_entriesFrom next
                    rw [entries] at member sorted
                    rcases List.mem_cons.mp member with head | inTail
                    · exact absurd (congrArg Prod.fst head) here
                    · have after : index < other := (List.pairwise_cons.mp sorted).1 _ inTail
                      omega
              · rw [entriesFrom_after entries fun _ _ => rfl]
                rw [entries, List.length_cons] at enough
                omega
            refine ⟨fun last => ?_, fun notLast => ⟨fun short => ?_, fun _ => skip⟩⟩
            · simp only [resizePage, Outcome.bind_iff, Outcome.get_iff, found, Outcome.ite_iff]
              refine ⟨fun _ => skip, fun different => absurd ?_ different⟩
              rw [size, lastTarget last]
            · exact absurd (size.trans (fullTarget notLast).symm) short
          · have grow := @growPage_spec config env world old index newSize oldSize page fuel next
              shaped same live grows found size cut tail entries
            rw [Outcome.bind_iff] at grow
            refine ⟨fun last => ?_, fun notLast => ⟨fun _ => ?_, fun full => absurd ?_ size⟩⟩
            · rw [lastTarget last]
              exact grow
            · rw [← fullTarget notLast] at grow
              exact grow
            · rw [← fullTarget notLast]
              simpa using full

/-- `PageBackend::Truncate`, and the new size of the file. -/
theorem recut_spec (newSize : Nat) :
    Outcome (PageBackend.truncate env newSize) world
      (fun _ final => Recut config newSize world (final.sized newSize))
      (fun exception final => exception.isThrown = true ∧
        final = world.arrived world.uploadMaxBytes ∧
        ∃ stop call, env.fault stop call = true ∧ final = stop.called) := by
  simp only [PageBackend.truncate, Outcome.bind_iff, Outcome.get_iff, Outcome.ite_iff,
    Outcome.pure_iff, Outcome.modify_iff]
  constructor
  · rintro ⟨existing, different⟩
    refine (Backend.truncateFile_spec newSize).mono ?_ ?_
    · rintro _ _ rfl
      refine ⟨fun agrees => ?_, rfl, by rw [if_pos existing]; rfl, rfl, ⟨rfl, rfl, rfl, rfl⟩, rfl,
        rfl⟩
      have isSome := agrees.exists_eq
      rw [existing] at isSome
      obtain ⟨data, remote⟩ := Option.isSome_iff_exists.mp isSome.symm
      simp [World.sized, World.stored, remote]
    · rintro _ _ ⟨rfl, arrived, fault⟩
      exact ⟨rfl, arrived, fault⟩
  · intro same
    refine ⟨fun agrees => ?_, rfl, ?_, rfl, ⟨rfl, rfl, rfl, rfl⟩, rfl, rfl⟩
    · cases remote : world.remote with
      | none => simp [World.sized, remote]
      | some data =>
          have size := agrees.size_eq
          have existing := agrees.exists_eq
          rw [remote, Option.isSome_some] at existing
          simp only [World.stored, remote, Option.getD_some] at size
          have length : data.length = newSize := by
            rw [← size]
            by_contra different
            exact same ⟨existing, different⟩
          simp [World.sized, remote, Bytes.resize_of_length_eq length]
    · split
      · next existing =>
        by_contra different
        exact same ⟨existing, different⟩
      · rfl

theorem truncate_spec (newSize : Nat) (sound : Sound config world) :
    Outcome (truncate config env newSize) world
      (fun _ => Changed config (resize (world.content config) newSize) world)
      (TruncateThrew config env world) := by
  simp only [truncate, Outcome.bind_iff, Outcome.get_iff, Outcome.modify_iff]
  refine (@recut_spec config _ _ newSize).mono ?_ ?_
  · intro _ middle recut
    have live : Live config none (middle.sized newSize) := by
      refine ⟨?_, ?_⟩
      · rw [recut.cacheManager, recut.pages]
        exact sound.live.pageQueue
      · rw [recut.cacheManager, recut.pages]
        exact sound.live.dirtyQueue
    have enough : ((middle.sized newSize).pageManager.pages.entriesFrom 0).length <
        (middle.sized newSize).pageManager.pages.entries.length + 1 :=
      Nat.lt_succ_of_le (List.length_filter_le _ _)
    rcases Nat.le_total newSize world.pageManager.fileSize with shrinks | grows
    · refine (truncateLoop_shrink _ sound.shaped recut.pages shrinks
        ⟨.refl _, live, fun index => ?_⟩ enough).mono ?_ fun _ _ => False.elim
      · rw [if_neg (Nat.not_lt_zero _)]
      · intro _ final shrunk
        exact (recut.truncated shrunk.rest shrunk.pages).changed sound
          (⟨.refl _, fun _ _ => id⟩ : Moved config none _ _) shrunk.live
    · refine (truncateLoop_grow _ sound.shaped recut.pages live grows
        (fun index page before => absurd before (Nat.not_lt_zero _)) enough).mono ?_ ?_
      · rintro _ final ⟨⟨cut, concerned, rest, pages, moved⟩, liveFinal⟩
        exact (recut.truncated rest pages).changed sound moved liveFinal
      · rintro exception final ⟨thrown, larger, stop, call, fault, size⟩
        have shaken : ¬ Steady env world := by
          intro steady
          have unchanged := steady stop call fault
          rw [size, recut.fileSize] at unchanged
          omega
        exact ⟨⟨stop, call, fault⟩, fun steady => absurd steady shaken,
          fun steady => absurd steady shaken⟩
  · rintro exception final ⟨thrown, rfl, stop, call, fault, stopped⟩
    refine ⟨⟨stop, call, fault⟩, fun _ => ?_, fun _ => rfl⟩
    have moved : Moved config none world (world.arrived world.uploadMaxBytes) :=
      (Flushed.of_step (@FlushStep.arrived config none true world _) rfl).moved
    exact Threw.failed ⟨thrown, moved.steps, stop, call, fault, stopped⟩
      ⟨sound.live.pageQueue, sound.live.dirtyQueue⟩ sound

end PageManager

end Andromeda.FileData
