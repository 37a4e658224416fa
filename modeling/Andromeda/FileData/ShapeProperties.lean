import Andromeda.FileData.AlignmentProperties
import Andromeda.FileData.ReadProperties
import Andromeda.FileData.Scenario

/-! The pages of a file have their sizes in every state of a session, unless a report of
the backend's size leaves a dirty page short. -/

set_option autoImplicit false

namespace Andromeda.FileData

open Andromeda.Library

/-- The cached pages have the sizes their indices require, reads inside the file end inside
their pages, and a run of dirty pages is sent whole. -/
structure Represented (config : Config) (world : World) : Prop where
  inside {index page} : world.pageManager.pages.find? index = some page →
    index * config.pageSize < world.pageManager.fileSize
  filled {index page} : world.pageManager.pages.find? index = some page →
    min config.pageSize (world.pageManager.fileSize - index * config.pageSize) ≤ page.size
  dirtySize {index page} : world.pageManager.pages.find? index = some page →
    page.dirty = true →
      page.size = min config.pageSize (world.pageManager.fileSize - index * config.pageSize)
  readable {index offset length page} : world.pageManager.pages.find? index = some page →
    offset + length ≤ config.pageSize →
      index * config.pageSize + offset + length ≤ world.pageManager.fileSize →
        offset + length ≤ page.size
  whole {first run} : WriteRun first run →
    (∀ entry ∈ run, world.pageManager.pages.find? entry.1 = some entry.2) →
      PageBackend.pageListData config (run.map Prod.snd) =
        ((run.map Prod.snd).map Page.data).flatten

/-- A step that keeps the sizes: nothing throws where a write would be left half done, no
report leaves a dirty page short, and no fetch begins past the backend's end in a file that
is not stored as the client takes it to be. -/
def KeepsSizes (config : Config) (world : World) (action : Op × Env) : Prop :=
  match action.1 with
  | .writeBytes buffer offset =>
    Guarded config action.2 ∧ AlignmentCovers config world offset buffer.length
  | .truncate _ => Steady action.2 world
  | .remoteChanged backendSize =>
    world.pageBackend.backendExists = true → Covers config world backendSize
  | .readBytes _ _ | .fetchDone _ => FetchesInside config world ∨ Agrees config world
  | _ => True

/-- What a session keeps: an uncached file has neither pages nor fetches. -/
structure Shapely (config : Config) (world : World) : Prop where
  sound : Sound config world
  fetchSize : 0 < world.pageManager.fetchSize
  uncached : config.cacheType = .none → Uncached world ∧ world.fetchThreads = []

section

variable {config : Config} {env : Env} {world after : World} {exception : Exception}

theorem Sound.represented (sound : Sound config world) : Represented config world where
  inside found := sound.shaped.inside found
  filled found := by
    rw [Nat.min_comm]
    exact sound.shaped.filled found
  dirtySize found dirty := by
    rw [Nat.min_comm]
    exact sound.shaped.dirtySize found dirty
  readable found onPage inside := by
    have filled := sound.shaped.filled found
    unfold Config.lengthAt at filled
    omega
  whole writeRun cached := PageBackend.pageListData_eq (writeRun.sendable cached sound.shaped)

namespace Shapely

private theorem held (shapely : Shapely config world) (held : Held config world after)
    (uncached : config.cacheType = .none → Uncached after) : Shapely config after :=
  ⟨held.sound, held.threads.fetchSize ▸ shapely.fetchSize, fun none =>
    ⟨uncached none, held.threads.fetchThreads.trans (shapely.uncached none).2⟩⟩

private theorem of_normal (shapely : Shapely config world) (normal : config.cacheType = .normal)
    (held : Held config world after) : Shapely config after :=
  shapely.held held fun none => by
    rw [normal] at none
    cases none

private theorem steps {concerned : Option Nat} (shapely : Shapely config world)
    (steps : FileSteps config concerned world after) (live : Live config none after) :
    Shapely config after :=
  shapely.held ⟨steps.sound live shapely.sound, steps.sameFetches.threads⟩ fun none =>
    (shapely.uncached none).1.steps steps

private theorem flush (shapely : Shapely config world) {concerned : Option Nat} {writes : Bool}
    {computation : Exec Unit} (outcome : Outcome computation world
      (fun _ => Flushed config concerned writes world)
      (Stopped config env concerned writes world)) :
    Outcome computation world (fun _ => Shapely config) (fun _ => Shapely config) :=
  outcome.mono
    (fun _ _ flushed => shapely.steps flushed.steps.file (flushed.steps.live shapely.sound.live))
    fun _ _ stopped => shapely.steps stopped.steps.file (stopped.steps.live shapely.sound.live)

private theorem readBytes (shapely : Shapely config world) (offset length : Nat)
    (fetches : FetchesInside config world ∨ Agrees config world) :
    Outcome (File.readBytes config env offset length) world (fun _ => Shapely config)
      (fun _ => Shapely config) := by
  have ready : Ready config world := ⟨shapely.sound, shapely.fetchSize, fetches⟩
  cases cached : config.cacheType with
  | normal =>
      have normal (none : config.cacheType = .none) (final : World) :
          Uncached final ∧ final.fetchThreads = [] := by
        rw [cached] at none
        cases none
      exact (File.readBytes_kept ready offset length).mono
        (fun _ final kept => ⟨kept.ready.sound, kept.ready.fetchSize, (normal · final)⟩)
        fun _ final kept => ⟨kept.ready.sound, kept.ready.fetchSize, (normal · final)⟩
  | none =>
      have traced (trace : Trace) : Shapely config { world with trace } := by
        have same : SameView world { world with trace } := ⟨rfl, rfl, rfl, rfl, rfl⟩
        exact ⟨same.sound shapely.sound, shapely.fetchSize, fun none =>
          ⟨⟨(shapely.uncached none).1.existing, (shapely.uncached none).1.noPages⟩,
            (shapely.uncached none).2⟩⟩
      simp only [File.readBytes, cached, if_true, Outcome.bind_iff, Outcome.get_iff,
        Outcome.ite_iff, Outcome.throw_iff, Outcome.pure_iff, logError, Outcome.modify_iff]
      refine ⟨fun _ => shapely, fun _ => ⟨fun _ => traced _, fun _ => ?_⟩⟩
      refine (PageBackend.readFile_spec offset length).mono ?_ fun _ _ => False.elim
      rintro ⟨data, failed⟩ _ ⟨rfl, _⟩
      exact ⟨fun _ => traced _, fun _ => traced _⟩

private theorem writeBytes (shapely : Shapely config world) {buffer : Bytes} {offset : Nat}
    (guarded : Guarded config env)
    (covers : AlignmentCovers config world offset buffer.length) :
    Outcome (File.writeBytes config env buffer offset) world (fun _ => Shapely config)
      (fun _ => Shapely config) := by
  cases cached : config.cacheType with
  | normal =>
      exact (File.writeBytes_held cached shapely.sound guarded covers).mono
        (fun _ _ => shapely.of_normal cached) fun _ _ => shapely.of_normal cached
  | none =>
      refine (File.writeBytes_uncached cached shapely.sound (shapely.uncached cached).1).mono
        ?_ ?_
      · intro _ final wrote
        exact shapely.held ⟨wrote.sound, wrote.threads⟩ fun _ => wrote.uncached
      · rintro exception final ⟨failed, uncached⟩
        exact shapely.held ⟨failed.sound, failed.threads⟩ fun _ => uncached

private theorem truncate (shapely : Shapely config world) (newSize : Nat)
    (steady : Steady env world) :
    Outcome (File.truncate config env newSize) world (fun _ => Shapely config)
      (fun _ => Shapely config) := by
  have changes := @File.truncate_spec config env world shapely.sound newSize
  cases cached : config.cacheType with
  | normal =>
      exact changes.mono
        (fun _ _ changed => shapely.of_normal cached ⟨changed.sound, changed.threads⟩)
        fun _ _ failed => shapely.of_normal cached
          ⟨(failed steady).sound, (failed steady).threads⟩
  | none =>
      refine (changes.and (File.truncate_uncached newSize (shapely.uncached cached).1)).mono ?_ ?_
      · rintro _ final ⟨changed, uncached⟩
        exact shapely.held ⟨changed.sound, changed.threads⟩ fun _ => uncached
      · rintro exception final ⟨failed, uncached⟩
        exact shapely.held ⟨(failed steady).sound, (failed steady).threads⟩ fun _ => uncached

private theorem runFetch (shapely : Shapely config world) (thread : Nat)
    (fetches : FetchesInside config world ∨ Agrees config world) :
    Outcome (PageManager.runFetch config env thread) world (fun _ => Shapely config)
      (fun _ => Shapely config) := by
  have ready : Ready config world := ⟨shapely.sound, shapely.fetchSize, fetches⟩
  cases cached : config.cacheType with
  | normal =>
      have normal (none : config.cacheType = .none) (final : World) :
          Uncached final ∧ final.fetchThreads = [] := by
        rw [cached] at none
        cases none
      exact (PageManager.runFetch_kept ready thread).mono
        (fun _ final kept => ⟨kept.ready.sound, kept.ready.fetchSize, (normal · final)⟩)
        fun _ final kept => ⟨kept.ready.sound, kept.ready.fetchSize, (normal · final)⟩
  | none =>
      simp only [PageManager.runFetch, Outcome.bind_iff, Outcome.get_iff,
        (shapely.uncached cached).2, List.getElem?_nil, Outcome.pure_iff]
      exact shapely

private theorem remoteChanged (shapely : Shapely config world) {backendSize : Nat}
    (covers : world.pageBackend.backendExists = true → Covers config world backendSize) :
    Outcome (PageManager.remoteChanged config backendSize) world (fun _ => Shapely config)
      (fun _ => Shapely config) := by
  cases existing : world.pageBackend.backendExists with
  | false =>
      simp only [PageManager.remoteChanged, Outcome.bind_iff, Outcome.get_iff, existing,
        Bool.false_eq_true, if_false, Outcome.pure_iff]
      exact shapely
  | true =>
      refine (PageManager.remoteChanged_spec existing).mono ?_ fun _ _ => False.elim
      intro _ final reported
      refine shapely.held ⟨reported.sound shapely.sound existing (covers existing),
        reported.threads⟩ fun none => ⟨by rw [reported.pageBackend, existing], fun index => ?_⟩
      rw [reported.pages, KeyMap.find?_filter, (shapely.uncached none).1.noPages]
      rfl

end Shapely

/-- A step that keeps the sizes. -/
theorem shapely_step (action : Op × Env) (keeps : KeepsSizes config world action)
    (shapely : Shapely config world) : Shapely config (step config world action) := by
  obtain ⟨op, env⟩ := action
  apply exitState_of_outcome
  cases op with
  | readBytes offset length => exact shapely.readBytes offset length keeps
  | writeBytes buffer offset => exact outcome_then_pure (shapely.writeBytes keeps.1 keeps.2)
  | truncate newSize => exact outcome_then_pure (shapely.truncate newSize keeps)
  | flushCache =>
      refine outcome_then_pure (@Shapely.flush config env world shapely none true _ ?_)
      exact (PageManager.flushPages_spec config env world).mono (fun _ _ result => result.1)
        fun _ _ => id
  | evictPage index =>
      refine outcome_then_pure
        (@Shapely.flush config env world shapely none config.randWrite _ ?_)
      exact (@PageManager.evictPage_spec config env world none config.randWrite index id
        (by simp)).mono (fun _ _ result => result.1) fun _ _ => id
  | flushPage index =>
      refine outcome_then_pure
        (@Shapely.flush config env world shapely none config.randWrite _ ?_)
      exact (@CacheManager.flushPage_spec config env world index none).mono
        (fun _ _ result => result.1) fun _ _ => id
  | fetchDone thread => exact outcome_then_pure (shapely.runFetch thread keeps)
  | remoteChanged backendSize => exact outcome_then_pure (shapely.remoteChanged keeps)
  | remoteWrite data =>
      refine outcome_then_pure ?_
      rw [Outcome.modify_iff]
      have sound := shapely.sound
      exact ⟨⟨⟨sound.shaped.page, sound.shaped.backend, sound.shaped.pending⟩,
        ⟨sound.live.pageQueue, sound.live.dirtyQueue⟩, sound.queued⟩, shapely.fetchSize,
        fun none => ⟨⟨(shapely.uncached none).1.existing, (shapely.uncached none).1.noPages⟩,
          (shapely.uncached none).2⟩⟩
  | setUploadMaxBytes limit =>
      refine outcome_then_pure (@Shapely.flush config env world shapely none true _ ?_)
      exact .of_step (.environment limit world.cacheManager.dirtyLimit world.trace.calls) rfl
  | otherManagers pageQueue dirtyQueue =>
      refine outcome_then_pure (@Shapely.flush config env world shapely none true _ ?_)
      exact .of_step (.otherManagers pageQueue dirtyQueue) rfl

theorem Shapely.initial (initial : Initial config world) : Shapely config world := by
  obtain ⟨sound, _, _, uncached⟩ := initial.sound
  cases initial with
  | existing _ => exact ⟨sound, Nat.one_pos, fun none => ⟨uncached none, rfl⟩⟩
  | pending _ _ => exact ⟨sound, Nat.one_pos, fun none => ⟨uncached none, rfl⟩⟩

/-- In every state of a session whose steps keep the sizes, the pages have them. -/
theorem session_represented {actions : List (Op × Env)} (initial : Initial config world)
    (keeps : EachStep config (KeepsSizes config) world actions) :
    Represented config (session config world actions) :=
  (session_preserves (fun _ => shapely_step) (Shapely.initial initial) keeps).sound.represented

end

namespace Scenario

/-- A write at the end, a change by another client that ends inside the page written, and
a read. -/
def shortened : List (Op × Env) :=
  [(.writeBytes (bytes 3) 14, env), (.remoteWrite (bytes 12), env), (.remoteChanged 12, env),
    (.readBytes 5 10, env)]

private theorem shortened_covers :
    Covers (config .random) (session (config .random) (.existing (bytes 15) (cache 100) 0)
      (shortened.take 2)) 12 := by
  have entries : ∀ entry ∈ (session (config .random) (.existing (bytes 15) (cache 100) 0)
      (shortened.take 2)).pageManager.pages.entries, entry.2.dirty = true →
        entry.2.size = 10 ∨ 12 ≤ entry.1 * 10 + entry.2.size := by decide +kernel
  intro index page found dirty
  exact entries _ (KeyMap.find?_eq_some_iff.mp found) dirty

theorem shortened_represented :
    Represented (config .random) (session (config .random)
      (.existing (bytes 15) (cache 100) 0) shortened) := by
  refine session_represented (.existing (cache_fresh 100)) ⟨⟨fun _ _ fault => (by cases fault),
    fun mode => (by cases mode)⟩, trivial, fun _ => shortened_covers, .inl ?_, trivial⟩
  show ∀ range ∈ _, _
  decide +kernel

/-- A write into the last page, and a change by another client that extends the file. -/
def extended : List (Op × Env) :=
  [(.writeBytes (bytes 2) 12, env), (.remoteWrite (bytes 35), env), (.remoteChanged 35, env)]

theorem extended_not_represented :
    Initial (config .random) (.existing (bytes 15) (cache 100) 0) ∧
      ∃ page, (session (config .random) (.existing (bytes 15) (cache 100) 0)
          extended).pageManager.pages.find? 1 = some page ∧ page.dirty = true ∧ page.size = 5 ∧
        (session (config .random) (.existing (bytes 15) (cache 100) 0)
          extended).pageManager.fileSize = 35 ∧
        ¬ Represented (config .random) (session (config .random)
          (.existing (bytes 15) (cache 100) 0) extended) := by
  have found : (session (config .random) (.existing (bytes 15) (cache 100) 0)
      extended).pageManager.pages.find? 1 = some ⟨[11, 12, 1, 2, 15], true⟩ := by decide +kernel
  refine ⟨.existing (cache_fresh 100), _, found, rfl, rfl, by decide +kernel, fun represented => ?_⟩
  exact absurd (represented.filled found) (by decide +kernel)

end Scenario

end Andromeda.FileData
