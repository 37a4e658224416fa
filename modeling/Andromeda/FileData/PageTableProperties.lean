import Andromeda.FileData.PageTable
import Andromeda.FileData.Scenario

/-! Every call of a file's page manager is a sequence of moves, and a move keeps every entry of
the queues with its page. A failed eviction keeps them where the noted page is still the one
enqueued. -/

set_option autoImplicit false

namespace Andromeda.FileData

open Andromeda.Library

namespace PageTable

variable {table after : PageTable} {manager index page : Nat} {entry : QueueEntry}
  {queue : List QueueEntry}

private theorem mem_eraseEntry :
    entry ∈ eraseEntry queue page ↔ entry ∈ queue ∧ entry.page ≠ page := by
  simp [eraseEntry]

private theorem mem_setSize {newSize : Nat} (member : entry ∈ setSize queue page newSize) :
    ∃ old ∈ queue, entry.page = old.page ∧ entry.info.manager = old.info.manager ∧
      entry.info.index = old.info.index := by
  obtain ⟨old, oldMember, rfl⟩ := List.mem_map.mp member
  refine ⟨old, oldMember, ?_⟩
  split
  · exact ⟨rfl, rfl, rfl⟩
  · exact ⟨rfl, rfl, rfl⟩

private theorem removedSize_ne_zero (some : table.removedSize page ≠ 0) :
    ∃ entry ∈ table.pageQueue, entry.page = page := by
  unfold removedSize at some
  split at some
  · exact absurd rfl some
  · next entry found => exact ⟨entry, List.mem_of_find?_eq_some found, by simpa using List.find?_some found⟩

private theorem exists_free (table : PageTable) :
    ∃ page, ∀ other otherIndex, table.pages other otherIndex ≠ some page := by
  obtain ⟨limit, below⟩ := table.bounded
  exact ⟨limit, fun other otherIndex found => absurd (below other otherIndex limit found) (Nat.lt_irrefl _)⟩

private theorem same_page_iff (designated : ∀ entry ∈ queue, table.Designated entry)
    (held : table.pages manager index = some page) (member : entry ∈ queue) :
    entry.page = page ↔ entry.info.manager = manager ∧ entry.info.index = index := by
  constructor
  · rintro rfl
    exact table.apart (designated entry member) held
  · rintro ⟨rfl, rfl⟩
    exact Option.some.inj ((designated entry member).symm.trans held)

private theorem infos_eraseEntry (designated : ∀ entry ∈ queue, table.Designated entry)
    (held : table.pages manager index = some page) :
    infos (eraseEntry queue page) = CacheManager.erase (infos queue) manager index := by
  rw [infos, eraseEntry, CacheManager.erase, infos, List.filter_map]
  refine congrArg _ (List.filter_congr fun entry member => ?_)
  have same := same_page_iff designated held member
  by_cases here : entry.page = page
  · have isFor : entry.info.isFor manager index = true := PageInfo.isFor_iff.mpr (same.mp here)
    simp [here, isFor]
  · have notFor : ¬ entry.info.isFor manager index = true := fun isFor =>
      here (same.mpr (PageInfo.isFor_iff.mp isFor))
    simp [here, notFor]

private theorem infos_setSize (designated : ∀ entry ∈ queue, table.Designated entry)
    (held : table.pages manager index = some page) (newSize : Nat) :
    infos (setSize queue page newSize) =
      CacheManager.setSize (infos queue) manager index newSize := by
  rw [infos, setSize, CacheManager.setSize, infos, List.map_map, List.map_map]
  refine List.map_congr_left fun entry member => ?_
  have same := same_page_iff designated held member
  by_cases here : entry.page = page
  · simp [here, same.mp here]
  · have other := mt same.mpr here
    simp [here, PageInfo.isFor_iff, other]

/-! ### A move keeps the entries live -/

private theorem Live.eraseEntries (live : table.Live) (page : Nat) :
    (table.removePage page).Live where
  pageQueue _ member := live.pageQueue _ (mem_eraseEntry.mp member).1
  dirtyQueue _ member := live.dirtyQueue _ (mem_eraseEntry.mp member).1

private theorem Live.enqueued (live : table.Live) (held : table.pages manager index = some page)
    (newSize : Nat) (dirty : Bool) :
    (table.enqueuePage page ⟨manager, index, newSize⟩ dirty).Live where
  pageQueue entry member := by
    rcases List.mem_cons.mp member with rfl | kept
    · exact held
    · exact (live.eraseEntries page).pageQueue entry kept
  dirtyQueue entry member := by
    have kept := (live.eraseEntries page).dirtyQueue entry
    simp only [enqueuePage] at member
    split at member
    · rcases List.mem_cons.mp member with rfl | before
      · exact held
      · exact kept before
    · exact kept member

private theorem Move.live (move : table.Move after) (live : table.Live) : after.Live := by
  cases move with
  | @emplaced manager index page missing free =>
      have kept (entry : QueueEntry) (designated : table.Designated entry) :
          (table.emplacePage manager index page free).Designated entry := by
        show (if _ then _ else _) = _
        rw [if_neg]
        · exact designated
        · rintro ⟨sameManager, sameIndex⟩
          rw [Designated, sameManager, sameIndex, missing] at designated
          cases designated
      exact ⟨fun entry member => kept entry (live.pageQueue entry member),
        fun entry member => kept entry (live.dirtyQueue entry member)⟩
  | enqueued held newSize dirty => exact live.enqueued held newSize dirty
  | resizedQueued held newSize =>
      refine ⟨fun entry member => ?_, live.dirtyQueue⟩
      obtain ⟨old, oldMember, samePage, sameManager, sameIndex⟩ := mem_setSize member
      rw [Designated, samePage, sameManager, sameIndex]
      exact live.pageQueue old oldMember
  | resizedDirty held newSize =>
      refine ⟨live.pageQueue, fun entry member => ?_⟩
      obtain ⟨old, oldMember, samePage, sameManager, sameIndex⟩ := mem_setSize member
      rw [Designated, samePage, sameManager, sameIndex]
      exact live.dirtyQueue old oldMember
  | removedDirty held =>
      exact ⟨live.pageQueue, fun entry member => live.dirtyQueue entry (mem_eraseEntry.mp member).1⟩
  | removed held => exact live.eraseEntries _
  | @gaveUp manager index page held =>
      have kept (entry : QueueEntry) (differs : entry.page ≠ page)
          (designated : table.Designated entry) :
          ((table.removePage page).erasePage manager index).Designated entry := by
        show (if _ then _ else _) = _
        rw [if_neg]
        · exact designated
        · rintro ⟨sameManager, sameIndex⟩
          rw [Designated, sameManager, sameIndex, held] at designated
          exact differs (Option.some.inj designated).symm
      refine ⟨fun entry member => ?_, fun entry member => ?_⟩
      · obtain ⟨before, differs⟩ := mem_eraseEntry.mp member
        exact kept entry differs (live.pageQueue entry before)
      · obtain ⟨before, differs⟩ := mem_eraseEntry.mp member
        exact kept entry differs (live.dirtyQueue entry before)

private theorem Moves.live (moves : table.Moves after) (live : table.Live) : after.Live := by
  induction moves with
  | refl => exact live
  | tail _ move ih => exact move.live ih

end PageTable

namespace CacheManager

private theorem own_erase (queue : List PageInfo) (manager index : Nat) :
    own (erase queue manager index) = erase (own queue) manager index :=
  List.filter_comm ..

private theorem own_setSize (queue : List PageInfo) (manager index newSize : Nat) :
    own (setSize queue manager index newSize) = setSize (own queue) manager index newSize := by
  rw [own, setSize, own, setSize, List.filter_map]
  refine congrArg _ (List.filter_congr fun info _ => ?_)
  simp only [Function.comp_apply]
  split <;> rfl

end CacheManager

/-! ### A call is a sequence of moves -/

section

variable {config : Config} {world : World} {table after : PageTable} {index page : Nat}

private theorem Tracked.forgetPage_queues (tracked : Tracked config world) (index : Nat) :
    (PageManager.forgetPage config world index).cacheManager.pageQueue =
        CacheManager.erase world.cacheManager.pageQueue ownManager index ∧
      (PageManager.forgetPage config world index).cacheManager.dirtyQueue =
        CacheManager.erase world.cacheManager.dirtyQueue ownManager index := by
  obtain ⟨page, dirty⟩ := Andromeda.FileData.forgetPage_queues config world index
  have same (queue : List PageInfo)
      (designates : Designates config queue world.pageManager.pages) :
      (if config.cacheMgr then CacheManager.erase queue ownManager index else queue) =
        CacheManager.erase queue ownManager index := by
    split
    · rfl
    · next noCacheMgr =>
        refine (CacheManager.erase_of_lookup_none (CacheManager.lookup_eq_none.mpr ?_)).symm
        exact fun info member isFor => noCacheMgr (designates info member isFor.1).1
  exact ⟨page.trans (same _ tracked.pageQueue), dirty.trans (same _ tracked.dirtyQueue)⟩

private theorem Designates.untouched {queue : List PageInfo} {pages : PageMap}
    (designates : Designates config queue pages) (missing : pages.find? index = none) :
    CacheManager.erase queue ownManager index = queue ∧
      ∀ newSize, CacheManager.setSize queue ownManager index newSize = queue := by
  have absent : CacheManager.lookup queue ownManager index = none :=
    CacheManager.lookup_eq_none.mpr (designates.unqueued missing)
  exact ⟨CacheManager.erase_of_lookup_none absent,
    fun _ => CacheManager.setSize_of_lookup_none absent⟩

private theorem Represents.queues {next : World} (represents : Represents world after)
    (pageQueue : CacheManager.own next.cacheManager.pageQueue =
      CacheManager.own world.cacheManager.pageQueue)
    (dirtyQueue : CacheManager.own next.cacheManager.dirtyQueue =
      CacheManager.own world.cacheManager.dirtyQueue)
    (cached : ∀ index, (next.pageManager.pages.find? index).isSome =
      (world.pageManager.pages.find? index).isSome) : Represents next after where
  pageQueue := represents.pageQueue.trans pageQueue.symm
  dirtyQueue := represents.dirtyQueue.trans dirtyQueue.symm
  cached index := (represents.cached index).trans (cached index).symm

/-- A table that moves reach and that has the pages and entries of the world. -/
structure Reached (config : Config) (table : PageTable) (world : World) (after : PageTable) :
    Prop where
  moves : table.Moves after
  represents : Represents world after
  live : after.Live
  tracked : Tracked config world

private theorem Reached.unmoved {next : World} (reached : Reached config table world after)
    (tracked : Tracked config next)
    (pageQueue : CacheManager.own next.cacheManager.pageQueue =
      CacheManager.own world.cacheManager.pageQueue)
    (dirtyQueue : CacheManager.own next.cacheManager.dirtyQueue =
      CacheManager.own world.cacheManager.dirtyQueue)
    (cached : ∀ index, (next.pageManager.pages.find? index).isSome =
      (world.pageManager.pages.find? index).isSome) : Reached config table next after where
  moves := reached.moves
  represents := reached.represents.queues pageQueue dirtyQueue cached
  live := reached.live
  tracked := tracked

private theorem Reached.move {next : World} {last : PageTable}
    (reached : Reached config table world after) (move : after.Move last)
    (tracked : Tracked config next) (represents : Represents next last) :
    Reached config table next last where
  moves := reached.moves.tail move
  represents := represents
  live := move.live reached.live
  tracked := tracked

private theorem Represents.held (represents : Represents world after)
    (cached : (world.pageManager.pages.find? index).isSome = true) :
    ∃ page, after.pages ownManager index = some page := by
  rw [← represents.cached] at cached
  exact Option.isSome_iff_exists.mp cached

private theorem Represents.held_of_found (represents : Represents world after) {stored : Page}
    (found : world.pageManager.pages.find? index = some stored) :
    ∃ page, after.pages ownManager index = some page :=
  represents.held (by rw [found, Option.isSome_some])

private theorem own_eraseEntry {queue : List QueueEntry} {infos : List PageInfo}
    (designated : ∀ entry ∈ queue, after.Designated entry)
    (held : after.pages ownManager index = some page)
    (same : CacheManager.own (PageTable.infos queue) = CacheManager.own infos) :
    CacheManager.own (PageTable.infos (PageTable.eraseEntry queue page)) =
      CacheManager.own (CacheManager.erase infos ownManager index) := by
  rw [PageTable.infos_eraseEntry designated held, CacheManager.own_erase, same,
    CacheManager.own_erase]

private theorem own_setSizeEntry {queue : List QueueEntry} {infos : List PageInfo}
    (designated : ∀ entry ∈ queue, after.Designated entry)
    (held : after.pages ownManager index = some page)
    (same : CacheManager.own (PageTable.infos queue) = CacheManager.own infos) (newSize : Nat) :
    CacheManager.own (PageTable.infos (PageTable.setSize queue page newSize)) =
      CacheManager.own (CacheManager.setSize infos ownManager index newSize) := by
  rw [PageTable.infos_setSize designated held, CacheManager.own_setSize, same,
    CacheManager.own_setSize]

private theorem own_cons {queue other : List PageInfo} (info : PageInfo)
    (same : CacheManager.own queue = CacheManager.own other) :
    CacheManager.own (info :: queue) = CacheManager.own (info :: other) := by
  simp only [CacheManager.own, List.filter_cons]
  split
  · exact congrArg _ same
  · exact same

private theorem outward_reached (config : Config) (table : PageTable) :
    Outward fun world => ∃ after, Reached config table world after := by
  rintro before world sent ⟨after, reached⟩
  have tracked := outward_tracked config before world sent reached.tracked
  refine ⟨after, reached.unmoved tracked ?_ ?_ sent.sameCache.cached⟩
  · rw [sent.sameCache.cacheManager]
  · rw [sent.sameCache.cacheManager]

private theorem Reached.enqueued (reached : Reached config table world after)
    (held : after.pages ownManager index = some page) (newSize : Nat) (dirty : Bool) :
    Represents { world with
        cacheManager := world.cacheManager.enqueuePage ownManager index newSize dirty }
      (after.enqueuePage page ⟨ownManager, index, newSize⟩ dirty) := by
  have pageQueue := own_eraseEntry reached.live.pageQueue held reached.represents.pageQueue
  have dirtyQueue := own_eraseEntry reached.live.dirtyQueue held reached.represents.dirtyQueue
  refine ⟨?_, ?_, reached.represents.cached⟩
  · rw [CacheManager.enqueuePage_pageQueue]
    exact own_cons _ pageQueue
  · rw [CacheManager.enqueuePage_dirtyQueue]
    cases dirty with
    | true => exact own_cons _ dirtyQueue
    | false => exact dirtyQueue

private theorem Reached.gaveUp (reached : Reached config table world after)
    (held : after.pages ownManager index = some page) :
    Represents (PageManager.erasePage (PageManager.forgetPage config world index) index)
      ((after.removePage page).erasePage ownManager index) := by
  obtain ⟨pageQueue, dirtyQueue⟩ := reached.tracked.forgetPage_queues index
  refine ⟨?_, ?_, fun other => ?_⟩
  · show _ = CacheManager.own (PageManager.forgetPage config world index).cacheManager.pageQueue
    rw [pageQueue]
    exact own_eraseEntry reached.live.pageQueue held reached.represents.pageQueue
  · show _ = CacheManager.own (PageManager.forgetPage config world index).cacheManager.dirtyQueue
    rw [dirtyQueue]
    exact own_eraseEntry reached.live.dirtyQueue held reached.represents.dirtyQueue
  · show (if ownManager = ownManager ∧ other = index then none
        else after.pages ownManager other).isSome =
      ((world.pageManager.pages.erase index).find? other).isSome
    rw [KeyMap.find?_erase]
    by_cases same : other = index
    · simp [same]
    · simpa [same] using reached.represents.cached other

private theorem closed_reached (config : Config) (table : PageTable) :
    Closed config fun world => ∃ after, Reached config table world after where
  still := (outward_reached config table).still
  enqueued {world index} newSize dirty cacheMgr cached := by
    rintro ⟨after, reached⟩
    obtain ⟨page, held⟩ := reached.represents.held cached
    exact ⟨_, reached.move (.enqueued held newSize dirty)
      ((closed_tracked config).enqueued newSize dirty cacheMgr cached reached.tracked)
      (reached.enqueued held newSize dirty)⟩
  resizeQueued {world} index newSize := by
    rintro ⟨after, reached⟩
    have tracked := (closed_tracked config).resizeQueued index newSize reached.tracked
    cases found : world.pageManager.pages.find? index with
    | none =>
        refine ⟨after, reached.unmoved tracked ?_ ?_ fun _ => rfl⟩
        · rw [CacheManager.resizeQueued_pageQueue, (reached.tracked.pageQueue.untouched found).2]
        · rw [CacheManager.resizeQueued_dirtyQueue]
    | some stored =>
        obtain ⟨page, held⟩ := reached.represents.held_of_found found
        refine ⟨_, reached.move (.resizedQueued held newSize) tracked
          ⟨?_, ?_, reached.represents.cached⟩⟩
        · rw [CacheManager.resizeQueued_pageQueue]
          exact own_setSizeEntry reached.live.pageQueue held reached.represents.pageQueue newSize
        · rw [CacheManager.resizeQueued_dirtyQueue]
          exact reached.represents.dirtyQueue
  resizeDirty {world} index newSize := by
    rintro ⟨after, reached⟩
    have tracked := (closed_tracked config).resizeDirty index newSize reached.tracked
    cases found : world.pageManager.pages.find? index with
    | none =>
        refine ⟨after, reached.unmoved tracked ?_ ?_ fun _ => rfl⟩
        · rw [CacheManager.resizeDirty_pageQueue]
        · rw [CacheManager.resizeDirty_dirtyQueue, (reached.tracked.dirtyQueue.untouched found).2]
    | some stored =>
        obtain ⟨page, held⟩ := reached.represents.held_of_found found
        refine ⟨_, reached.move (.resizedDirty held newSize) tracked
          ⟨?_, ?_, reached.represents.cached⟩⟩
        · rw [CacheManager.resizeDirty_pageQueue]
          exact reached.represents.pageQueue
        · rw [CacheManager.resizeDirty_dirtyQueue]
          exact own_setSizeEntry reached.live.dirtyQueue held reached.represents.dirtyQueue newSize
  removeDirty {world} index := by
    rintro ⟨after, reached⟩
    have tracked := (closed_tracked config).removeDirty index reached.tracked
    cases found : world.pageManager.pages.find? index with
    | none =>
        refine ⟨after, reached.unmoved tracked ?_ ?_ fun _ => rfl⟩
        · rw [CacheManager.removeDirty_pageQueue]
        · rw [CacheManager.removeDirty_dirtyQueue, (reached.tracked.dirtyQueue.untouched found).1]
    | some stored =>
        obtain ⟨page, held⟩ := reached.represents.held_of_found found
        refine ⟨_, reached.move (.removedDirty held) tracked ⟨?_, ?_, reached.represents.cached⟩⟩
        · rw [CacheManager.removeDirty_pageQueue]
          exact reached.represents.pageQueue
        · rw [CacheManager.removeDirty_dirtyQueue]
          exact own_eraseEntry reached.live.dirtyQueue held reached.represents.dirtyQueue
  dirtyLimit {world} limit := by
    rintro ⟨after, reached⟩
    exact ⟨after, reached.unmoved ((closed_tracked config).dirtyLimit limit reached.tracked) rfl rfl
      fun _ => rfl⟩
  otherManagers {world} pageQueue dirtyQueue := by
    rintro ⟨after, reached⟩
    obtain ⟨samePage, sameDirty⟩ :=
      CacheManager.own_otherManagers world.cacheManager pageQueue dirtyQueue
    have tracked := (closed_tracked config).otherManagers pageQueue dirtyQueue reached.tracked
    exact ⟨after, reached.unmoved tracked samePage sameDirty fun _ => rfl⟩
  forgotten {world} index := by
    rintro ⟨after, reached⟩
    have tracked := (closed_tracked config).forgotten index reached.tracked
    obtain ⟨pageQueue, dirtyQueue⟩ := reached.tracked.forgetPage_queues index
    cases found : world.pageManager.pages.find? index with
    | none =>
        refine ⟨after, reached.unmoved tracked ?_ ?_ fun _ => rfl⟩
        · rw [pageQueue, (reached.tracked.pageQueue.untouched found).1]
        · rw [dirtyQueue, (reached.tracked.dirtyQueue.untouched found).1]
    | some stored =>
        obtain ⟨page, held⟩ := reached.represents.held_of_found found
        refine ⟨_, reached.move (.removed held) tracked ⟨?_, ?_, reached.represents.cached⟩⟩
        · rw [pageQueue]
          exact own_eraseEntry reached.live.pageQueue held reached.represents.pageQueue
        · rw [dirtyQueue]
          exact own_eraseEntry reached.live.dirtyQueue held reached.represents.dirtyQueue
  gaveUp {world} index := by
    rintro ⟨after, reached⟩
    have tracked := (closed_tracked config).gaveUp index reached.tracked
    obtain ⟨pageQueue, dirtyQueue⟩ := reached.tracked.forgetPage_queues index
    cases found : world.pageManager.pages.find? index with
    | none =>
        refine ⟨after, reached.unmoved tracked ?_ ?_ fun other => ?_⟩
        · exact congrArg _ (pageQueue.trans (reached.tracked.pageQueue.untouched found).1)
        · exact congrArg _ (dirtyQueue.trans (reached.tracked.dirtyQueue.untouched found).1)
        · show ((world.pageManager.pages.erase index).find? other).isSome = _
          rw [KeyMap.find?_erase]
          split
          · next same => rw [same, found]
          · rfl
    | some stored =>
        obtain ⟨page, held⟩ := reached.represents.held_of_found found
        exact ⟨_, reached.move (.gaveUp held) tracked (reached.gaveUp held)⟩
  emplaced {world} index fresh := by
    rintro ⟨after, reached⟩
    have tracked := (closed_tracked config).emplaced index fresh reached.tracked
    cases found : after.pages ownManager index with
    | some page =>
        refine ⟨after, reached.unmoved tracked rfl rfl fun other => ?_⟩
        show ((world.pageManager.pages.emplace index fresh).find? other).isSome = _
        rw [KeyMap.find?_emplace]
        split
        · next same => rw [same, ← reached.represents.cached, found]; rfl
        · rfl
    | none =>
        obtain ⟨page, free⟩ := after.exists_free
        refine ⟨_, reached.move (.emplaced found free) tracked
          ⟨reached.represents.pageQueue, reached.represents.dirtyQueue, fun other => ?_⟩⟩
        show (if ownManager = ownManager ∧ other = index then some page
            else after.pages ownManager other).isSome =
          ((world.pageManager.pages.emplace index fresh).find? other).isSome
        rw [KeyMap.find?_emplace]
        by_cases same : other = index
        · simp [same]
        · simpa [same] using reached.represents.cached other

end

/-! ### The destructor -/

section

variable {config : Config} {world : World} {table after : PageTable}

private theorem gaveUp_pages (config : Config) (indices : List Nat) (world : World) :
    let dropped := indices.foldl
      (fun world index => PageManager.erasePage (PageManager.forgetPage config world index) index)
      world
    ∀ index, (dropped.pageManager.pages.find? index).isSome = true →
      (world.pageManager.pages.find? index).isSome = true ∧ index ∉ indices := by
  induction indices generalizing world with
  | nil => exact fun index cached => ⟨cached, List.not_mem_nil⟩
  | cons first rest ih =>
      intro dropped index cached
      obtain ⟨before, notInRest⟩ := ih _ index cached
      rw [show (PageManager.erasePage (PageManager.forgetPage config world first)
        first).pageManager.pages = world.pageManager.pages.erase first from rfl,
        KeyMap.find?_erase] at before
      split at before
      · cases before
      · next differs => exact ⟨before, by simp [differs, notInRest]⟩

private theorem Reached.destroyed (reached : Reached config table world after) :
    ∃ last, table.Moves last ∧ ∀ index, last.pages ownManager index = none := by
  let indices := world.pageManager.pages.entries.map Prod.fst
  obtain ⟨last, dropped⟩ := indices.foldlRecOn
    (motive := fun world => ∃ after, Reached config table world after)
    (fun world index => PageManager.erasePage (PageManager.forgetPage config world index) index)
    ⟨after, reached⟩ fun world kept index _ => (closed_reached config table).gaveUp index kept
  refine ⟨last, dropped.moves, fun index => ?_⟩
  cases held : last.pages ownManager index with
  | none => rfl
  | some page =>
      have cached := (dropped.represents.cached index).symm.trans (by rw [held, Option.isSome_some])
      obtain ⟨before, notListed⟩ := gaveUp_pages config indices world index cached
      obtain ⟨page, found⟩ := Option.isSome_iff_exists.mp before
      exact absurd (List.mem_map.mpr ⟨(index, page), KeyMap.find?_eq_some_iff.mp found, rfl⟩) notListed

end

/-! ### Runs -/

section

variable {config : Config} {world : World} {system final : System} {event : Event}

/-- What every run keeps. -/
structure System.Sound (config : Config) (system : System) : Prop where
  live : system.table.Live
  coherent : system.Coherent
  tracked : ∀ world, system.file = some world → Tracked config world

private theorem Represents.mem_pageQueue {table : PageTable} (represents : Represents world table)
    {entry : QueueEntry} (member : entry ∈ table.pageQueue)
    (isOwn : entry.info.manager = ownManager) : entry.info ∈ world.cacheManager.pageQueue := by
  have inOwn : entry.info ∈ CacheManager.own (PageTable.infos table.pageQueue) :=
    CacheManager.mem_own.mpr ⟨List.mem_map_of_mem member, isOwn⟩
  rw [represents.pageQueue] at inOwn
  exact (CacheManager.mem_own.mp inOwn).1

private theorem Represents.mem_dirtyQueue {table : PageTable} (represents : Represents world table)
    {entry : QueueEntry} (member : entry ∈ table.dirtyQueue)
    (isOwn : entry.info.manager = ownManager) : entry.info ∈ world.cacheManager.dirtyQueue := by
  have inOwn : entry.info ∈ CacheManager.own (PageTable.infos table.dirtyQueue) :=
    CacheManager.mem_own.mpr ⟨List.mem_map_of_mem member, isOwn⟩
  rw [represents.dirtyQueue] at inOwn
  exact (CacheManager.mem_own.mp inOwn).1

private theorem Represents.cacheMgr {table : PageTable} (represents : Represents world table)
    (tracked : Tracked config world) {entry : QueueEntry}
    (member : entry ∈ table.pageQueue ++ table.dirtyQueue)
    (isOwn : entry.info.manager = ownManager) : config.cacheMgr = true := by
  rcases List.mem_append.mp member with queued | dirty
  · exact (tracked.pageQueue _ (represents.mem_pageQueue queued isOwn) isOwn).1
  · exact (tracked.dirtyQueue _ (represents.mem_dirtyQueue dirty isOwn) isOwn).1

private theorem Initial.systemSound (initial : Initial config world) :
    (System.start world).Sound config where
  live := ⟨fun _ member => absurd member List.not_mem_nil,
    fun _ member => absurd member List.not_mem_nil⟩
  coherent := by
    cases initial with
    | existing fresh => exact ⟨fresh.ownPages.symm, fresh.ownDirty.symm, fun _ => rfl⟩
    | pending fresh _ => exact ⟨fresh.ownPages.symm, fresh.ownDirty.symm, fun _ => rfl⟩
  tracked other same := by
    cases same
    exact initial.tracked

namespace PageTable

variable {table : PageTable} {noted : QueueEntry} {newSize : Nat} {dirty : Bool}

private theorem evictFailed_pages (table : PageTable) (noted : QueueEntry) (newSize : Nat)
    (dirty : Bool) :
    (table.evictFailed noted newSize dirty).pages = table.pages := by
  unfold evictFailed
  split <;> rfl

private theorem Live.evictFailed (live : table.Live)
    (placed : (∃ entry ∈ table.pageQueue ++ table.dirtyQueue, entry.page = noted.page) →
      table.Designated noted) : (table.evictFailed noted newSize dirty).Live := by
  unfold PageTable.evictFailed
  split
  · exact live.eraseEntries noted.page
  · next queued =>
      obtain ⟨entry, member, same⟩ := removedSize_ne_zero queued
      have held : table.Designated noted := placed ⟨entry, List.mem_append_left _ member, same⟩
      exact (live.eraseEntries noted.page).enqueued held newSize dirty

private theorem Live.evictFailed_manager (live : table.Live)
    (placed : (∃ entry ∈ table.pageQueue ++ table.dirtyQueue, entry.page = noted.page) →
      table.Designated noted) {entry : QueueEntry}
    (member : entry ∈ (table.evictFailed noted newSize dirty).pageQueue ++
      (table.evictFailed noted newSize dirty).dirtyQueue) :
    ∃ before ∈ table.pageQueue ++ table.dirtyQueue, before.info.manager = entry.info.manager := by
  have kept (member : entry ∈ (table.removePage noted.page).pageQueue ++
      (table.removePage noted.page).dirtyQueue) : entry ∈ table.pageQueue ++ table.dirtyQueue := by
    rcases List.mem_append.mp member with queued | dirty
    · exact List.mem_append_left _ (mem_eraseEntry.mp queued).1
    · exact List.mem_append_right _ (mem_eraseEntry.mp dirty).1
  unfold PageTable.evictFailed at member
  split at member
  · exact ⟨entry, kept member, rfl⟩
  · next queued =>
      obtain ⟨before, beforeMember, same⟩ := removedSize_ne_zero queued
      have held : table.Designated noted := placed ⟨before, List.mem_append_left _ beforeMember, same⟩
      have sameManager : before.info.manager = noted.info.manager :=
        (table.apart ((live.pageQueue before beforeMember).trans (congrArg some same)) held).1
      by_cases requeued : entry.info.manager = noted.info.manager
      · exact ⟨before, List.mem_append_left _ beforeMember, sameManager.trans requeued.symm⟩
      · refine ⟨entry, kept ?_, rfl⟩
        have differs : entry ≠ ⟨noted.page, { noted.info with pageSize := newSize }⟩ := by
          rintro rfl
          exact requeued rfl
        have removed {queue : List QueueEntry} (left : entry ∈ eraseEntry (eraseEntry queue noted.page) noted.page) :
            entry ∈ eraseEntry queue noted.page := (mem_eraseEntry.mp left).1
        rcases List.mem_append.mp member with inPages | inDirty
        · exact List.mem_append_left _ (removed ((List.mem_cons.mp inPages).resolve_left differs))
        · refine List.mem_append_right _ (removed ?_)
          simp only [enqueuePage] at inDirty
          split at inDirty
          · exact (List.mem_cons.mp inDirty).resolve_left differs
          · exact inDirty

end PageTable

private theorem System.Sound.evictFailed (sound : system.Sound config) {noted : QueueEntry}
    {newSize : Nat}
    {dirty : Bool} (placed : StillPlaced system (.evictFailed noted newSize dirty)) :
    System.Sound config
      ⟨system.file.map fun world => world.withQueues (system.table.evictFailed noted newSize dirty),
        system.table.evictFailed noted newSize dirty, []⟩ := by
  have live : (system.table.evictFailed noted newSize dirty).Live := sound.live.evictFailed placed
  have samePages := PageTable.evictFailed_pages system.table noted newSize dirty
  have coherent := sound.coherent
  cases found : system.file with
  | none =>
      rw [System.Coherent, found] at coherent
      refine ⟨live, fun index => ?_, fun world same => by cases same⟩
      rw [samePages]
      exact coherent index
  | some world =>
      rw [System.Coherent, found] at coherent
      have represents : Represents (world.withQueues (system.table.evictFailed noted newSize dirty))
          (system.table.evictFailed noted newSize dirty) := by
        refine ⟨rfl, rfl, fun index => ?_⟩
        rw [samePages]
        exact coherent.cached index
      have designates (queue : List QueueEntry)
          (designated : ∀ entry ∈ queue,
            (system.table.evictFailed noted newSize dirty).Designated entry)
          (known : ∀ entry ∈ queue, entry ∈ (system.table.evictFailed noted newSize dirty).pageQueue ++
            (system.table.evictFailed noted newSize dirty).dirtyQueue) :
          Designates config (PageTable.infos queue) world.pageManager.pages := by
        intro info member isOwn
        obtain ⟨entry, entryMember, rfl⟩ := List.mem_map.mp member
        obtain ⟨before, beforeMember, same⟩ :=
          sound.live.evictFailed_manager placed (known entry entryMember)
        refine ⟨coherent.cacheMgr (sound.tracked world found) beforeMember (same.trans isOwn), ?_⟩
        have held := designated entry entryMember
        rw [PageTable.Designated, isOwn] at held
        exact (represents.cached entry.info.index).symm.trans (by rw [held, Option.isSome_some])
      refine ⟨live, represents, fun other same => ?_⟩
      cases same
      exact ⟨designates _ live.pageQueue fun _ => List.mem_append_left _,
        designates _ live.dirtyQueue fun _ => List.mem_append_right _⟩

private theorem SystemStep.sound (step : SystemStep config system event final)
    (placed : StillPlaced system event) (sound : system.Sound config) : final.Sound config := by
  cases step with
  | evictFailed member newSize dirty => exact sound.evictFailed placed
  | call isCall released before noted rest coherent =>
      refine ⟨rest.live (before.live sound.live), coherent, fun world same => ?_⟩
      cases event with
      | operation action =>
          obtain ⟨previous, found, rfl⟩ := Option.map_eq_some_iff.mp same
          exact exitState_of_outcome (keeps_run (closed_tracked config) (outward_tracked config)
            action.1 previous (sound.tracked previous found))
      | others => exact sound.tracked world same
      | destroyed => cases same
      | evictFailed other newSize dirty => exact absurd rfl (isCall other newSize dirty)

private theorem System.Sound.call (sound : system.Sound config) (event : Event)
    (isCall : ∀ noted newSize dirty, event ≠ .evictFailed noted newSize dirty)
    (released : event = .destroyed → ∀ noted ∈ system.evicting, noted.info.manager ≠ ownManager) :
    ∃ final, SystemStep config system event final := by
  have coherent := sound.coherent
  suffices reachable : ∃ after, system.table.Moves after ∧
      System.Coherent ⟨event.file config system.file, after, []⟩ by
    obtain ⟨after, moves, coherent⟩ := reachable
    refine ⟨_, .call isCall (fun isDestroyed noted member => ?_) .refl
      (fun _ member => absurd member List.not_mem_nil) moves coherent⟩
    exact released isDestroyed noted (by simpa using member)
  cases found : system.file with
  | none =>
      rw [System.Coherent, found] at coherent
      refine ⟨system.table, .refl, ?_⟩
      cases event with
      | evictFailed other newSize dirty => exact absurd rfl (isCall other newSize dirty)
      | operation action => exact coherent
      | others => exact coherent
      | destroyed => exact coherent
  | some world =>
      rw [System.Coherent, found] at coherent
      have reached : Reached config system.table world system.table :=
        ⟨.refl, coherent, sound.live, sound.tracked world found⟩
      cases event with
      | evictFailed other newSize dirty => exact absurd rfl (isCall other newSize dirty)
      | others => exact ⟨system.table, .refl, coherent⟩
      | destroyed => exact reached.destroyed
      | operation action =>
          obtain ⟨after, arrived⟩ := exitState_of_outcome (keeps_run
            (closed_reached config system.table) (outward_reached config system.table)
            action.1 world ⟨_, reached⟩)
          exact ⟨after, arrived.moves, arrived.represents⟩

private theorem System.Sound.entriesDesignate (sound : system.Sound config) :
    EntriesDesignate config system where
  live := sound.live
  coherent := sound.coherent
  file world found := (sound.tracked world found).entriesLive
  evictPage world found entry _ _ _ :=
    (evictPage_removes (sound.tracked world found) entry.info.index).mono
      (fun _ _ removed _ represents left member isEntry =>
        removed.2 left.info (represents.mem_pageQueue member isEntry.1) isEntry)
      fun _ _ => And.right
  flushPage world found entry _ _ _ :=
    (flushPage_removes (sound.tracked world found) entry.info.index).mono
      (fun _ _ removed _ represents left member isEntry =>
        removed.2 left.info (represents.mem_dirtyQueue member isEntry.1) isEntry)
      fun _ _ => And.right
  continues event isCall := sound.call event isCall

/-- In every run where each failed eviction finds the noted page still in its place, every entry
of the queues designates a live page manager that has exactly this page at the index, and an
eviction or a flush of an entry removes it or throws. -/
theorem run_entriesDesignate (config : Config) (start : World) (initial : Initial config start)
    (run : SystemRun config StillPlaced (.start start) final) : EntriesDesignate config final := by
  refine System.Sound.entriesDesignate ?_
  induction run with
  | refl => exact initial.systemSound
  | tail _ last ih =>
      obtain ⟨event, placed, stepped⟩ := last
      exact stepped.sound placed ih

end

namespace Scenario

private theorem isSome_find? {α : Type} (map : KeyMap Nat α) (index : Nat) :
    (map.find? index).isSome = decide (index ∈ map.entries.map Prod.fst) := by
  rw [Bool.eq_iff_iff, decide_eq_true_iff, Option.isSome_iff_exists, List.mem_map]
  constructor
  · rintro ⟨value, found⟩
    exact ⟨(index, value), KeyMap.find?_eq_some_iff.mp found, rfl⟩
  · rintro ⟨⟨_, value⟩, member, rfl⟩
    exact ⟨value, KeyMap.find?_eq_some_iff.mpr member⟩

private theorem represents {world : World} {table : PageTable} (indices : List Nat)
    (cached : world.pageManager.pages.entries.map Prod.fst = indices)
    (held : ∀ index, (table.pages ownManager index).isSome = decide (index ∈ indices))
    (pageQueue : PageTable.infos table.pageQueue = world.cacheManager.pageQueue)
    (dirtyQueue : PageTable.infos table.dirtyQueue = world.cacheManager.dirtyQueue) :
    Represents world table where
  pageQueue := congrArg _ pageQueue
  dirtyQueue := congrArg _ dirtyQueue
  cached index := by rw [held, isSome_find?, cached]

private theorem called {system : System} {event : Event} {after : PageTable}
    {evicting : List QueueEntry}
    {config : Config} (isCall : ∀ noted newSize dirty, event ≠ .evictFailed noted newSize dirty)
    (alive : event ≠ .destroyed)
    (noted : ∀ entry ∈ evicting, entry ∈ system.evicting ∨ entry ∈ system.table.pageQueue)
    (moves : system.table.Moves after)
    (coherent : System.Coherent ⟨event.file config system.file, after, evicting⟩) :
    SystemStep config system event ⟨event.file config system.file, after, evicting⟩ :=
  .call isCall (fun isDestroyed => absurd isDestroyed alive) .refl noted moves coherent

/-- A page of one manager is created and enqueued. -/
def newPage (table : PageTable) (index page newSize : Nat)
    (free : ∀ other otherIndex, table.pages other otherIndex ≠ some page) : PageTable :=
  (table.emplacePage ownManager index page free).enqueuePage page ⟨ownManager, index, newSize⟩ true

private theorem newPage_moves {table : PageTable} {index page : Nat} (newSize : Nat)
    (missing : table.pages ownManager index = none)
    (free : ∀ other otherIndex, table.pages other otherIndex ≠ some page) :
    table.Moves (newPage table index page newSize free) :=
  .tail (.single (.emplaced missing free)) (.enqueued (if_pos ⟨rfl, rfl⟩) newSize true)

/-- The first page of a file is written, at the address 100. -/
def written : World := step (config .random) (.existing (bytes 15) (cache 100) 0)
  (.writeBytes (bytes 10) 0, env)

def writtenTable : PageTable := newPage .empty 0 100 10 (fun _ _ found => by cases found)

/-- The file is truncated to nothing. -/
def truncated : World := step (config .random) written (.truncate 0, env)

def truncatedTable : PageTable := (writtenTable.removePage 100).erasePage ownManager 0

private theorem truncatedTable_pages (manager index : Nat) :
    truncatedTable.pages manager index = none := by
  show (if manager = ownManager ∧ index = 0 then none
    else if manager = ownManager ∧ index = 0 then some 100 else none) = none
  split <;> rfl

/-- Two pages are written, and the second is where the first one was. -/
def rewritten : World := step (config .random) truncated (.writeBytes (bytes 15) 0, env)

def firstTable : PageTable := newPage truncatedTable 0 200 10 (fun manager index found => by
  rw [truncatedTable_pages] at found
  cases found)

private theorem firstTable_pages (manager index : Nat) : firstTable.pages manager index =
    if manager = ownManager ∧ index = 0 then some 200 else none := by
  show (if manager = ownManager ∧ index = 0 then some 200
    else truncatedTable.pages manager index) = _
  rw [truncatedTable_pages]

def rewrittenTable : PageTable := newPage firstTable 1 100 5 (fun manager index found => by
  rw [firstTable_pages] at found
  split at found <;> cases found)

private theorem rewrittenTable_pages (manager index : Nat) : rewrittenTable.pages manager index =
    if manager = ownManager ∧ index = 1 then some 100
    else if manager = ownManager ∧ index = 0 then some 200 else none := by
  show (if manager = ownManager ∧ index = 1 then some 100 else firstTable.pages manager index) = _
  rw [firstTable_pages]

/-- The backend does not take what is written to it. -/
def refused : Env := failing fun _ call =>
  match call with
  | .writeFile _ => true
  | _ => false

def kept : World := step (config .random) rewritten (.evictPage 0, refused)

/-- The cleanup thread notes the page before the truncation. -/
def noted : QueueEntry := ⟨100, ⟨ownManager, 0, 10⟩⟩

private theorem written_represents : Represents written writtenTable := by
  refine represents [0] (by decide) (fun index => ?_) (by decide) (by decide)
  show (if ownManager = ownManager ∧ index = 0 then some 100 else none).isSome = _
  by_cases first : index = 0
  · simp [first]
  · simp [first]

private theorem truncated_represents : Represents truncated truncatedTable := by
  refine represents [] (by decide) (fun index => ?_) (by decide) (by decide)
  rw [truncatedTable_pages]
  rfl

private theorem rewrittenTable_held (index : Nat) :
    (rewrittenTable.pages ownManager index).isSome = decide (index ∈ [0, 1]) := by
  rw [rewrittenTable_pages]
  by_cases second : index = 1
  · simp [second]
  · by_cases first : index = 0
    · simp [first]
    · simp [first, second]

private theorem rewritten_represents : Represents rewritten rewrittenTable :=
  represents [0, 1] (by decide) rewrittenTable_held (by decide) (by decide)

private theorem kept_represents : Represents kept rewrittenTable :=
  represents [0, 1] (by decide) rewrittenTable_held (by decide) (by decide)

private theorem rewritten_reached {Condition : System → Event → Prop}
    (meets : ∀ system action, Condition system (.operation action)) :
    SystemRun (config .random) Condition (.start (.existing (bytes 15) (cache 100) 0))
      ⟨some rewritten, rewrittenTable, [noted]⟩ := by
  have write : SystemStep (config .random) (.start (.existing (bytes 15) (cache 100) 0))
      (.operation (.writeBytes (bytes 10) 0, env)) ⟨some written, writtenTable, []⟩ :=
    called nofun nofun (fun _ member => absurd member List.not_mem_nil)
      (newPage_moves 10 rfl _) written_represents
  have truncate : SystemStep (config .random) ⟨some written, writtenTable, []⟩
      (.operation (.truncate 0, env)) ⟨some truncated, truncatedTable, [noted]⟩ := by
    refine called nofun nofun (fun entry member => .inr ?_)
      (.single (.gaveUp (show writtenTable.pages ownManager 0 = some 100 from rfl))) truncated_represents
    rw [List.mem_singleton.mp member]
    decide
  have rewrite : SystemStep (config .random) ⟨some truncated, truncatedTable, [noted]⟩
      (.operation (.writeBytes (bytes 15) 0, env)) ⟨some rewritten, rewrittenTable, [noted]⟩ :=
    called nofun nofun (fun _ => .inl)
      ((newPage_moves 10 (truncatedTable_pages _ _) _).trans
        (newPage_moves 5 (firstTable_pages _ _) _)) rewritten_represents
  exact ((Relation.ReflTransGen.single ⟨_, meets _ _, write⟩).tail ⟨_, meets _ _, truncate⟩).tail
    ⟨_, meets _ _, rewrite⟩

/-- The failed eviction of the first page finds the second one at its address. -/
def misplaced : System :=
  ⟨some (kept.withQueues (rewrittenTable.evictFailed noted 5 true)),
    rewrittenTable.evictFailed noted 5 true, []⟩

/-- A failed eviction can leave an entry whose index belongs to another page. -/
theorem failed_eviction_misplaced : ¬ ∀ (config : Config) (start : World), Initial config start →
    ∀ final, SystemRun config (fun _ _ => True) (.start start) final → final.table.Live := by
  intro always
  have evict : SystemStep (config .random) ⟨some rewritten, rewrittenTable, [noted]⟩
      (.operation (.evictPage 0, refused)) ⟨some kept, rewrittenTable, [noted]⟩ :=
    called nofun nofun (fun _ => .inl) .refl kept_represents
  have fail : SystemStep (config .random) ⟨some kept, rewrittenTable, [noted]⟩
      (.evictFailed noted 5 true) misplaced := .evictFailed (List.mem_singleton_self _) 5 true
  have live := always (config .random) _ (.existing (cache_fresh 100)) misplaced
    (((rewritten_reached fun _ _ => trivial).tail ⟨_, trivial, evict⟩).tail ⟨_, trivial, fail⟩)
  have designated : rewrittenTable.pages 0 0 = some 100 :=
    live.pageQueue ⟨100, ⟨0, 0, 5⟩⟩ (by decide)
  rw [rewrittenTable_pages] at designated
  cases designated

/-- The first page as it is now. -/
def present : QueueEntry := ⟨200, ⟨ownManager, 0, 10⟩⟩

/-- The eviction of a page that is still in its place fails, and its entry goes to the front. -/
theorem requeued_entriesDesignate : EntriesDesignate (config .random)
    ⟨some (kept.withQueues (rewrittenTable.evictFailed present 10 true)),
      rewrittenTable.evictFailed present 10 true, []⟩ := by
  have evict : SystemStep (config .random) ⟨some rewritten, rewrittenTable, [noted]⟩
      (.operation (.evictPage 0, refused)) ⟨some kept, rewrittenTable, [present]⟩ := by
    refine called nofun nofun (fun entry member => .inr ?_) .refl kept_represents
    rw [List.mem_singleton.mp member]
    decide
  have fail : SystemStep (config .random) ⟨some kept, rewrittenTable, [present]⟩
      (.evictFailed present 10 true) _ := .evictFailed (List.mem_singleton_self _) 10 true
  have placed : StillPlaced ⟨some kept, rewrittenTable, [present]⟩ (.evictFailed present 10 true) :=
    fun _ => rewrittenTable_pages 0 0
  exact run_entriesDesignate (config .random) _ (.existing (cache_fresh 100))
    (((rewritten_reached fun _ _ => trivial).tail ⟨_, trivial, evict⟩).tail ⟨_, placed, fail⟩)

end Scenario

end Andromeda.FileData
