import Andromeda.FileData.FlushStepProperties

/-! Flushes and evictions of the page manager are sequences of write-back steps,
also when a call makes them throw. -/

set_option autoImplicit false

namespace Andromeda.FileData

open Andromeda.Library
open Andromeda.Library.Bytes (byteAt resize overwrite slice)

/-- One more call has been made. -/
def World.called (world : World) : World :=
  { world with trace := { world.trace with calls := world.trace.calls + 1 } }

/-- A write-back that returned. -/
structure Flushed (config : Config) (concerned : Option Nat) (writes : Bool)
    (before after : World) : Prop where
  steps : FlushSteps config concerned writes before after
  settled {bound} : Shaped config bound before → before.pageManager.fileSize ≤ bound →
    Settled config before → Settled config after

/-- A write-back that threw: a call was made to throw, and nothing happened since. -/
structure Stopped (config : Config) (env : Env) (concerned : Option Nat) (writes : Bool)
    (before : World) (exception : Exception) (after : World) : Prop where
  thrown : exception.isThrown = true
  steps : FlushSteps config concerned writes before after
  fault : ∃ world call, env.fault world call = true ∧ after = world.called

namespace Flushed

variable {config : Config} {env : Env} {concerned : Option Nat} {writes : Bool}
  {before middle after : World}

theorem refl (world : World) : Flushed config concerned writes world world :=
  ⟨.refl, fun _ _ => id⟩

theorem trans (left : Flushed config concerned writes before middle)
    (right : Flushed config concerned writes middle after) :
    Flushed config concerned writes before after where
  steps := left.steps.trans right.steps
  settled shaped size settled :=
    right.settled (left.steps.file.shaped shaped size) (left.steps.file.fileSize ▸ size)
      (left.settled shaped size settled)

/-- A step that does not create the file. -/
theorem of_step (step : FlushStep config concerned writes before after)
    (existing : after.pageBackend.backendExists = before.pageBackend.backendExists) :
    Flushed config concerned writes before after :=
  ⟨.single step, fun shaped _ settled => step.move.settled shaped settled existing⟩

theorem then_stopped (left : Flushed config concerned writes before middle)
    {exception : Exception}
    (right : Stopped config env concerned writes middle exception after) :
    Stopped config env concerned writes before exception after :=
  ⟨right.thrown, left.steps.trans right.steps, right.fault⟩

end Flushed

theorem tryCall_spec (env : Env) (call : Call) (exception : Exception) (world : World) :
    Outcome (tryCall env call exception) world (fun _ final => final = world.called)
      (fun thrown final => thrown = exception ∧ env.fault world call = true ∧
        final = world.called) := by
  simp only [tryCall, Outcome.bind_iff, Outcome.get_iff, Outcome.set_iff]
  rw [Outcome.ite_iff]
  exact ⟨fun fault => ⟨rfl, fault, rfl⟩, fun _ => rfl⟩

/-- A data request has reached the backend, with a new upload limit in force. -/
def World.arrived (world : World) (uploadMaxBytes : Nat) : World :=
  { world with
    uploadMaxBytes
    trace := { world.trace with calls := world.trace.calls + 1 } }

theorem FlushStep.arrived {config : Config} {concerned : Option Nat} {writes : Bool}
    (world : World) (uploadMaxBytes : Nat) :
    FlushStep config concerned writes world (world.arrived uploadMaxBytes) :=
  .environment uploadMaxBytes world.cacheManager.dirtyLimit (world.trace.calls + 1)

namespace Backend

variable {env : Env} {world : World}

theorem writeFile_spec (offset : Nat) (data : Bytes) :
    Outcome (writeFile env offset data) world
      (fun _ final => final =
        { (world.arrived (env.uploadLimit world)).request
            (.writeFile offset data world.stored.length) with
          remote := some (overwrite world.stored offset data) })
      (fun exception final => exception = .backend ∧
        final = world.arrived (env.uploadLimit world) ∧
        ∃ arrived call, env.fault arrived call = true ∧ final = arrived.called) := by
  simp only [writeFile, Outcome.bind_iff, Outcome.modify_iff]
  refine (tryCall_spec env _ .backend _).mono ?_ ?_
  · rintro _ _ rfl
    rfl
  · rintro _ _ ⟨rfl, fault, rfl⟩
    exact ⟨rfl, rfl, _, _, fault, rfl⟩

private theorem uploadFile_spec (data : Bytes) :
    Outcome (uploadFile env data) world
      (fun _ final => final =
        { (world.arrived (env.uploadLimit world)).request (.uploadFile data) with
          remote := some data })
      (fun exception final => exception = .backend ∧
        final = world.arrived (env.uploadLimit world) ∧
        ∃ arrived call, env.fault arrived call = true ∧ final = arrived.called) := by
  simp only [uploadFile, Outcome.bind_iff, Outcome.modify_iff]
  refine (tryCall_spec env _ .backend _).mono ?_ ?_
  · rintro _ _ rfl
    rfl
  · rintro _ _ ⟨rfl, fault, rfl⟩
    exact ⟨rfl, rfl, _, _, fault, rfl⟩

theorem truncateFile_spec (size : Nat) :
    Outcome (truncateFile env size) world
      (fun _ final => final =
        { (world.arrived world.uploadMaxBytes).request (.truncateFile size) with
          remote := some (resize world.stored size) })
      (fun exception final => exception = .backend ∧
        final = world.arrived world.uploadMaxBytes ∧
        ∃ arrived call, env.fault arrived call = true ∧ final = arrived.called) := by
  simp only [truncateFile, Outcome.bind_iff, Outcome.modify_iff]
  refine (tryCall_spec env _ .backend _).mono ?_ ?_
  · rintro _ _ rfl
    rfl
  · rintro _ _ ⟨rfl, fault, rfl⟩
    exact ⟨rfl, rfl, _, _, fault, rfl⟩

end Backend

namespace RunAt

variable {config : Config} {world after : World} {first : Nat} {run : List (Nat × Page)}

private theorem congr (runAt : RunAt config world first run) (same : after.pageManager.pages =
    world.pageManager.pages) : RunAt config after first run where
  nonempty := runAt.nonempty
  writeRun := runAt.writeRun
  cached entry member := same ▸ runAt.cached entry member
  ordered noRandom found dirty := runAt.ordered noRandom (same ▸ found) dirty

private theorem pageRefs_eq (runAt : RunAt config world first run) :
    PageBackend.pageRefs world (run.map Prod.fst) = run.map Prod.snd := by
  have cached := runAt.cached
  clear runAt
  unfold PageBackend.pageRefs
  induction run with
  | nil => rfl
  | cons entry rest ih =>
      rw [List.map_cons, List.map_cons,
        List.filterMap_cons_some (cached entry List.mem_cons_self),
        ih fun other member => cached other (List.mem_cons_of_mem _ member)]

end RunAt

namespace PageBackend

variable {config : Config} {env : Env} {world : World} {first : Nat}
  {run : List (Nat × Page)}

private theorem checkWriteMode_spec (concerned : Option Nat)
    (runAt : RunAt config world first run) :
    Outcome (checkWriteMode config (first * config.pageSize)) world
      (fun _ final => FlushSteps config concerned true world final ∧ SameFile world final)
      (fun _ _ => False) := by
  simp only [checkWriteMode, Outcome.bind_iff, Outcome.get_iff, Outcome.ite_iff, logError,
    Outcome.modify_iff, Outcome.pure_iff]
  refine ⟨fun upload => ?_, fun _ => ⟨fun append => ?_, fun _ => ?_⟩⟩
  · have violated : Violated config world first .invalidWriteUpload := upload
    exact ⟨.single (.log rfl runAt violated), ⟨rfl, rfl, rfl, rfl⟩⟩
  · have violated : Violated config world first .invalidWriteAppend := append
    exact ⟨.single (.log rfl runAt violated), ⟨rfl, rfl, rfl, rfl⟩⟩
  · exact ⟨.refl, ⟨rfl, rfl, rfl, rfl⟩⟩

private theorem flushCreate_spec (config : Config) (concerned : Option Nat)
    (missing : world.pageBackend.backendExists = false) :
    Outcome (flushCreate env) world
      (fun _ final => FlushSteps config concerned true world final ∧
        final.pageBackend.backendExists = true ∧
        final.pageManager.pages = world.pageManager.pages)
      (Stopped config env concerned true world) := by
  simp only [flushCreate, Backend.createFile, Outcome.bind_iff, Outcome.get_iff, missing,
    Bool.false_eq_true, if_false, Outcome.modify_iff]
  refine (tryCall_spec env .createFile .backend world).mono ?_ ?_
  · rintro _ _ rfl
    refine ⟨?_, trivial, rfl⟩
    refine .tail (.single (.environment world.uploadMaxBytes world.cacheManager.dirtyLimit
      (world.trace.calls + 1))) ?_
    exact .create rfl missing
  · rintro _ _ ⟨rfl, fault, rfl⟩
    exact ⟨rfl, .single (.environment world.uploadMaxBytes world.cacheManager.dirtyLimit
      (world.trace.calls + 1)), world, _, fault, rfl⟩

private theorem createFirst_spec (concerned : Option Nat) (runAt : RunAt config world first run) :
    Outcome (createFirst config env first) world
      (fun _ final => FlushSteps config concerned true world final ∧
        final.pageManager.pages = world.pageManager.pages ∧
        (final.pageBackend.backendExists = false → first = 0))
      (Stopped config env concerned true world) := by
  simp only [createFirst, Outcome.bind_iff, Outcome.get_iff, Outcome.ite_iff, Outcome.pure_iff,
    logError, Outcome.modify_iff]
  refine ⟨?_, fun fits => ⟨.refl, trivial, fun missing => ?_⟩⟩
  · rintro ⟨missing, notFirst⟩
    refine ⟨fun noRandom => ?_, fun _ => ?_⟩
    · have logStep : FlushStep config concerned true world (world.logged .invalidWriteNoRandom) :=
        .log rfl runAt ⟨noRandom, missing, notFirst⟩
      have outcome : Outcome (flushCreate env) (world.logged .invalidWriteNoRandom) _ _ :=
        flushCreate_spec config concerned missing
      refine outcome.mono ?_ ?_
      · rintro _ final ⟨steps, existing, pages⟩
        exact ⟨.head logStep steps, pages, by simp [existing]⟩
      · intro _ _ stopped
        exact ⟨stopped.thrown, .head logStep stopped.steps, stopped.fault⟩
    · refine (flushCreate_spec config concerned missing).mono ?_ fun _ _ => id
      rintro _ final ⟨steps, existing, pages⟩
      exact ⟨steps, pages, by simp [existing]⟩
  · by_contra notFirst
    exact fits ⟨missing, notFirst⟩

/-- A page list that was sent: the run was written, or the file was created with
it. -/
def Sent (config : Config) (concerned : Option Nat) (first : Nat) (run : List (Nat × Page))
    (before after : World) : Prop :=
  ∃ middle, FlushSteps config concerned true before middle ∧
    middle.pageManager.pages = before.pageManager.pages ∧
    (middle.pageBackend.backendExists = true ∧ after = middle.written config first run ∨
      middle.pageBackend.backendExists = false ∧ first = 0 ∧ after = middle.uploaded config run)

private theorem flushPageList_spec (concerned : Option Nat) (runAt : RunAt config world first run) :
    Outcome (flushPageList config env first (run.map Prod.fst)) world
      (fun _ => Sent config concerned first run world)
      (Stopped config env concerned true world) := by
  have indices : (run.map Prod.fst).isEmpty = false := by simpa using runAt.nonempty
  simp only [flushPageList, indices, Bool.false_eq_true, if_false, Outcome.bind_iff,
    Outcome.get_iff, Outcome.pure_iff, Outcome.modify_iff, runAt.pageRefs_eq]
  refine (checkWriteMode_spec concerned runAt).mono ?_ (fun _ _ => False.elim)
  rintro _ checked ⟨checkSteps, same⟩
  refine (createFirst_spec concerned (runAt.congr same.pages)).mono ?_ ?_
  · rintro _ created ⟨createSteps, pages, pending⟩
    simp only [sendPages, Outcome.bind_iff, Outcome.get_iff, Outcome.modify_iff, Outcome.ite_iff]
    refine ⟨fun existing => ?_, fun missing => ?_⟩
    · refine (Backend.writeFile_spec _ _).mono ?_ ?_
      · rintro _ _ rfl
        refine ⟨created.arrived (env.uploadLimit created), ?_, pages.trans same.pages,
          .inl ⟨existing, rfl⟩⟩
        exact (checkSteps.trans createSteps).tail (.arrived _ _)
      · rintro _ _ ⟨rfl, rfl, fault⟩
        exact ⟨rfl, (checkSteps.trans createSteps).tail (.arrived _ _), fault⟩
    · rw [Bool.not_eq_true] at missing
      refine (Backend.uploadFile_spec _).mono ?_ ?_
      · rintro _ _ rfl
        refine ⟨created.arrived (env.uploadLimit created), ?_, pages.trans same.pages,
          .inr ⟨missing, pending missing, ?_⟩⟩
        · exact (checkSteps.trans createSteps).tail (.arrived _ _)
        · rw [pending missing]
          rfl
      · rintro _ _ ⟨rfl, rfl, fault⟩
        exact ⟨rfl, (checkSteps.trans createSteps).tail (.arrived _ _), fault⟩
  · intro _ _ stopped
    exact ⟨stopped.thrown, checkSteps.trans stopped.steps, stopped.fault⟩

end PageBackend

namespace PageManager

variable {config : Config} {env : Env} {world : World} {first : Nat} {run : List (Nat × Page)}

private theorem flushCreate_spec (config : Config) (concerned : Option Nat) (world : World) :
    Outcome (flushCreate config env) world
      (fun _ final => FlushSteps config concerned true world final ∧
        final.pageBackend.backendExists = true ∧
        final.pageManager.pages = world.pageManager.pages ∧ Settled config final)
      (Stopped config env concerned true world) := by
  have extend (middle : World) (steps : FlushSteps config concerned true world middle)
      (existing : middle.pageBackend.backendExists = true)
      (pages : middle.pageManager.pages = world.pageManager.pages) :
      Outcome (do
        let world ← get
        if max world.pageBackend.backendSize (maxDirty config world.pageManager.pages) <
            world.pageManager.fileSize then
          PageBackend.truncate env world.pageManager.fileSize) middle
        (fun _ final => FlushSteps config concerned true world final ∧
          final.pageBackend.backendExists = true ∧
          final.pageManager.pages = world.pageManager.pages ∧ Settled config final)
        (Stopped config env concerned true world) := by
    simp only [PageBackend.truncate, Outcome.bind_iff, Outcome.get_iff, Outcome.ite_iff,
      Outcome.modify_iff, Outcome.pure_iff]
    refine ⟨fun lagging => ⟨fun _ => ?_, fun same => ?_⟩,
      fun reached => ⟨steps, existing, pages, fun _ => Nat.le_of_not_lt reached⟩⟩
    · refine (Backend.truncateFile_spec _).mono ?_ ?_
      · rintro _ _ rfl
        refine ⟨?_, existing, pages, fun _ => Nat.le_max_left _ _⟩
        exact (steps.tail (.arrived middle middle.uploadMaxBytes)).tail
          (.extend rfl existing lagging)
      · rintro _ _ ⟨rfl, rfl, fault⟩
        exact ⟨rfl, steps.tail (.arrived _ _), fault⟩
    · exact absurd ⟨existing, Nat.ne_of_lt (Nat.lt_of_le_of_lt (Nat.le_max_left _ _) lagging)⟩ same
  rw [flushCreate, Outcome.bind_iff]
  cases existing : world.pageBackend.backendExists with
  | true =>
      simp only [PageBackend.flushCreate, Outcome.bind_iff, Outcome.get_iff, existing, if_true,
        Outcome.pure_iff]
      exact extend world .refl existing rfl
  | false =>
      refine (PageBackend.flushCreate_spec config concerned existing).mono ?_ fun _ _ => id
      rintro _ middle ⟨steps, existing, pages⟩
      exact extend middle steps existing pages

/-- The pages of a run have left the dirty queue. -/
def Undirtied (config : Config) (run : List (Nat × Page)) (world : World) : Prop :=
  config.cacheMgr = true → ∀ info ∈ world.cacheManager.dirtyQueue,
    info.manager = ownManager → info.index ∉ run.map Prod.fst

private theorem Undirtied.steps {concerned : Option Nat} {writes : Bool} {middle final : World}
    (undirtied : Undirtied config run middle)
    (steps : FlushSteps config concerned writes middle final) : Undirtied config run final := by
  intro cacheMgr info member isOwn
  have earlier := steps.own_sublist.2.subset (CacheManager.mem_own.mpr ⟨member, isOwn⟩)
  exact undirtied cacheMgr info (CacheManager.mem_own.mp earlier).1 isOwn

private theorem undirtied_cleaned (config : Config) (world : World) (run : List (Nat × Page)) :
    Undirtied config run (world.cleaned config run) := by
  intro cacheMgr info member isOwn inside
  rw [World.cleaned_eq] at member
  exact ((World.mem_cleanedCache_dirtyQueue cacheMgr).mp member).2 ⟨isOwn, inside⟩

/-- What the write-back of one page list leaves. -/
structure ListFlushed (config : Config) (concerned : Option Nat) (run : List (Nat × Page))
    (before after : World) : Prop where
  flushed : Flushed config concerned true before after
  created : before.pageBackend.backendExists = false → after.pageBackend.backendExists = true
  pages : after.pageManager.pages =
    World.cleanedPages before.pageManager.pages (run.map Prod.fst)
  undirtied : Undirtied config run after

private theorem flushPageList_finish {concerned : Option Nat} {middle : World} (totalSize : Nat)
    (steps : FlushSteps config concerned true world middle)
    (pages : middle.pageManager.pages =
      World.cleanedPages world.pageManager.pages (run.map Prod.fst))
    (undirtied : Undirtied config run middle) :
    Outcome (if (!world.pageBackend.backendExists) = true then do
          flushCreate config env
          pure totalSize
        else pure totalSize) middle
      (fun _ => ListFlushed config concerned run world)
      (Stopped config env concerned true world) := by
  rw [Outcome.ite_iff, Outcome.bind_iff, Outcome.pure_iff]
  refine ⟨fun _ => ?_, fun existing => ?_⟩
  · refine (flushCreate_spec config concerned middle).mono ?_ ?_
    · rintro _ final ⟨createSteps, existing, same, settled⟩
      exact ⟨⟨steps.trans createSteps, fun _ _ _ => settled⟩, fun _ => existing,
        same.trans pages, undirtied.steps createSteps⟩
    · intro _ _ stopped
      exact ⟨stopped.thrown, steps.trans stopped.steps, stopped.fault⟩
  · have existed : world.pageBackend.backendExists = true := by simpa using existing
    refine ⟨⟨steps, fun shaped size => steps.file.settled shaped size existed⟩, ?_, pages, undirtied⟩
    simp [existed]

/-- The write-back of one page list, empty or not. -/
theorem flushPageList_spec (concerned : Option Nat) (first : Nat) (run : List (Nat × Page))
    (world : World) (runAt : run ≠ [] → RunAt config world first run) :
    Outcome (flushPageList config env first (run.map Prod.fst)) world
      (fun _ => ListFlushed config concerned run world)
      (Stopped config env concerned true world) := by
  cases run with
  | nil =>
      simp only [flushPageList, List.map_nil, Outcome.bind_iff, Outcome.get_iff,
        List.isEmpty_nil, if_true, Outcome.pure_iff, Outcome.modify_iff, List.foldl_nil]
      exact flushPageList_finish 0 .refl rfl fun _ _ _ _ => by simp
  | cons entry rest =>
      have runAt := runAt (by simp)
      have indices : ((entry :: rest).map Prod.fst).isEmpty = false := rfl
      simp only [flushPageList, indices, Bool.false_eq_true, if_false, Outcome.bind_iff,
        Outcome.get_iff, Outcome.modify_iff]
      refine (PageBackend.flushPageList_spec concerned runAt).mono ?_ fun _ _ => id
      rintro _ sent ⟨middle, steps, pages, ⟨existing, rfl⟩ | ⟨missing, rfl, rfl⟩⟩
      · have step : FlushStep config concerned true middle
            ((middle.written config first (entry :: rest)).cleaned config (entry :: rest)) :=
          .write rfl (runAt.congr pages) existing
        refine flushPageList_finish _ (steps.tail step) ?_ (undirtied_cleaned _ _ _)
        rw [← pages]
        exact congrArg (fun world => world.pageManager.pages) (World.cleaned_eq config _ _)
      · have step : FlushStep config concerned true middle
            ((middle.uploaded config (entry :: rest)).cleaned config (entry :: rest)) :=
          .upload rfl (runAt.congr pages) missing
        refine flushPageList_finish _ (steps.tail step) ?_ (undirtied_cleaned _ _ _)
        rw [← pages]
        exact congrArg (fun world => world.pageManager.pages) (World.cleaned_eq config _ _)

/-- The run that begins with a cached dirty page. -/
theorem runAt_getWriteList {index : Nat} {page : Page} (uploadMax : Nat)
    (found : world.pageManager.pages.find? index = some page) (dirty : page.dirty = true)
    (random : config.randWrite = true) :
    (getWriteList uploadMax (world.pageManager.pages.entriesFrom index)).1 ≠ [] ∧
      RunAt config world index
        (getWriteList uploadMax (world.pageManager.pages.entriesFrom index)).1 := by
  obtain ⟨tail, entries⟩ := world.pageManager.pages.entriesFrom_cons found
  obtain ⟨run, rest, taken, split, writeRun⟩ :=
    @getWriteList_dirty uploadMax index page tail dirty
  rw [entries, taken]
  refine ⟨by simp, by simp, writeRun, ?_, by simp [random]⟩
  intro entry member
  have inTail : entry ∈ world.pageManager.pages.entriesFrom index := by
    rw [entries, split, ← List.cons_append]
    exact List.mem_append_left rest member
  exact (KeyMap.mem_entriesFrom.mp inTail).2

theorem evict_step {concerned : Option Nat} {writes : Bool} {index : Nat} {page : Page}
    (found : world.pageManager.pages.find? index = some page) (clean : page.dirty = false)
    (other : concerned ≠ some index) :
    Flushed config concerned writes world (erasePage (forgetPage config world index) index) :=
  .of_step (.evict found clean other) rfl

private theorem not_queued_forgetPage {stale : Option Nat} (live : Live config stale world)
    (index : Nat) :
    ∀ info ∈ (forgetPage config world index).cacheManager.pageQueue,
      ¬ (info.manager = ownManager ∧ info.index = index) := by
  intro info member
  unfold forgetPage at member
  split at member
  · rw [CacheManager.removePage_pageQueue, CacheManager.mem_erase] at member
    exact member.2
  · next none =>
    rintro ⟨isOwn, _⟩
    exact none (live.pageQueue.cacheMgr member isOwn)

theorem evictPage_spec {concerned : Option Nat} {writes : Bool} {index : Nat}
    (mayWrite : config.randWrite = true → writes = true) (other : concerned ≠ some index) :
    Outcome (evictPage config env index) world
      (fun _ final => Flushed config concerned writes world final ∧
        (∀ stale, Live config stale world → ∀ info ∈ final.cacheManager.pageQueue,
          ¬ (info.manager = ownManager ∧ info.index = index)))
      (Stopped config env concerned writes world) := by
  simp only [evictPage, Outcome.bind_iff, Outcome.get_iff]
  cases found : world.pageManager.pages.find? index with
  | none =>
      refine ⟨.refl world, fun stale live info member => ?_⟩
      rintro ⟨isOwn, rfl⟩
      obtain ⟨page, foundPage, _⟩ := live.pageQueue.cached member isOwn
      rw [found] at foundPage
      cases foundPage
  | some page =>
      by_cases writeBack : page.dirty = true ∧ config.randWrite = true
      · obtain ⟨dirty, random⟩ := writeBack
        obtain rfl := mayWrite random
        obtain ⟨nonempty, runAt⟩ :=
          runAt_getWriteList world.uploadMaxBytes found dirty random
        simp only [dirty, random, and_self, if_true, Outcome.bind_iff, Outcome.modify_iff,
          Bool.not_true, or_true]
        refine (flushPageList_spec concerned index _ world fun _ => runAt).mono ?_ fun _ _ => id
        rintro _ middle ⟨flushed, _, pages, _⟩
        have inRun : index ∈
            (getWriteList world.uploadMaxBytes
              (world.pageManager.pages.entriesFrom index)).1.map Prod.fst :=
          runAt.mem_indices.mpr ⟨Nat.le_refl _, by
            have := List.length_pos_iff.mpr nonempty
            omega⟩
        have cleaned : middle.pageManager.pages.find? index = some (page.setDirty false) := by
          rw [pages, World.find?_cleanedPages, if_pos inRun, found]
          rfl
        exact ⟨flushed.trans (evict_step cleaned rfl other), fun stale live =>
          not_queued_forgetPage (flushed.steps.live live) index⟩
      · simp only [writeBack, if_false, Outcome.bind_iff, Outcome.modify_iff, Outcome.ite_iff]
        refine ⟨fun evictable => ⟨?_, fun _ live => not_queued_forgetPage live index⟩,
          fun kept => ⟨?_, fun _ live => not_queued_forgetPage live index⟩⟩
        · have clean : page.dirty = false := by
            cases dirty : page.dirty with
            | false => rfl
            | true => simp [dirty] at writeBack evictable; simp [writeBack] at evictable
          exact evict_step found clean other
        · simp only [Bool.not_eq_true', not_or, Bool.not_eq_false, Bool.not_eq_true] at kept
          exact .of_step (.defer found kept.1 kept.2 other) rfl

private theorem evictPage_clean {index : Nat} (clean : ∀ index page,
      world.pageManager.pages.find? index = some page → page.dirty = false) :
    Outcome (evictPage config env index) world
      (fun _ final => final = world ∨
        (∃ page, world.pageManager.pages.find? index = some page) ∧
          final = erasePage (forgetPage config world index) index)
      (fun _ _ => False) := by
  simp only [evictPage, Outcome.bind_iff, Outcome.get_iff]
  cases found : world.pageManager.pages.find? index with
  | none => exact .inl rfl
  | some page =>
      simp only [clean index page found, Bool.false_eq_true, false_and, if_false,
        Outcome.bind_iff, Outcome.modify_iff, Bool.not_false, true_or, if_true]
      exact .inr ⟨⟨page, rfl⟩, trivial⟩

theorem flushPage_spec {concerned : Option Nat} {writes : Bool} {index : Nat}
    (mayWrite : config.randWrite = true → writes = true) :
    Outcome (flushPage config env index) world
      (fun _ final => Flushed config concerned writes world final ∧
        (∀ stale, Live config stale world → ∀ info ∈ final.cacheManager.dirtyQueue,
          ¬ (info.manager = ownManager ∧ info.index = index)))
      (Stopped config env concerned writes world) := by
  simp only [flushPage, Outcome.bind_iff, Outcome.get_iff]
  cases found : world.pageManager.pages.find? index with
  | none =>
      refine ⟨.refl world, fun stale live info member => ?_⟩
      rintro ⟨isOwn, rfl⟩
      obtain ⟨page, foundPage, _⟩ := live.dirtyQueue.cached member isOwn
      rw [found] at foundPage
      cases foundPage
  | some page =>
      by_cases writeBack : page.dirty = true ∧ config.randWrite = true
      · obtain ⟨dirty, random⟩ := writeBack
        obtain rfl := mayWrite random
        obtain ⟨nonempty, runAt⟩ :=
          runAt_getWriteList world.uploadMaxBytes found dirty random
        have notEmpty : (getWriteList world.uploadMaxBytes
            (world.pageManager.pages.entriesFrom index)).1.isEmpty = false := by
          simpa using nonempty
        simp only [dirty, random, and_self, if_true, notEmpty, Bool.false_eq_true, if_false]
        refine (flushPageList_spec concerned index _ world fun _ => runAt).mono ?_ fun _ _ => id
        rintro _ final ⟨flushed, _, _, undirtied⟩
        refine ⟨flushed, fun stale live info member => ?_⟩
        rintro ⟨isOwn, rfl⟩
        refine undirtied ((flushed.steps.live live).dirtyQueue.cacheMgr member isOwn) info member
          isOwn (runAt.mem_indices.mpr ⟨Nat.le_refl _, ?_⟩)
        have := List.length_pos_iff.mpr nonempty
        omega
      · simp only [writeBack, if_false, List.isEmpty_nil, if_true]
        have notDirty : config.randWrite = true → ∀ other,
            world.pageManager.pages.find? index = some other → other.dirty = false := by
          intro random other foundOther
          rw [found] at foundOther
          cases foundOther
          simpa [random] using writeBack
        by_cases cacheMgr : config.cacheMgr = true
        · simp only [cacheMgr, if_true, Outcome.bind_iff, Outcome.modify_iff, Outcome.pure_iff]
          refine ⟨.of_step (.undirty notDirty) rfl, fun _ _ info member => ?_⟩
          rw [CacheManager.removeDirty_dirtyQueue, CacheManager.mem_erase] at member
          exact member.2
        · simp only [cacheMgr, if_false, Bool.false_eq_true, Outcome.pure_iff]
          refine ⟨.refl world, fun stale live info member => ?_⟩
          rintro ⟨isOwn, _⟩
          exact cacheMgr (live.dirtyQueue.cacheMgr member isOwn)

/-- While the runs of `FlushPages` are written one after the other, the dirty pages
are those of the runs still to come. -/
structure RunsLeft (runs : List (List (Nat × Page))) (world : World) : Prop where
  writeRun : ∀ run ∈ runs, run ≠ [] ∧ ∃ first, WriteRun first run
  sorted : runs.flatten.Pairwise fun earlier later => earlier.1 < later.1
  cached : ∀ entry ∈ runs.flatten, world.pageManager.pages.find? entry.1 = some entry.2
  dirty {index page} : world.pageManager.pages.find? index = some page → page.dirty = true →
    (index, page) ∈ runs.flatten

private theorem RunsLeft.init (uploadMax : Nat) (world : World) :
    RunsLeft (writeLists uploadMax world.pageManager.pages.entries.length
      world.pageManager.pages.entries) world where
  writeRun _ member := writeLists_run uploadMax member
  sorted := by
    rw [writeLists_flatten uploadMax (Nat.le_refl _)]
    exact world.pageManager.pages.sorted.filter _
  cached entry member := by
    rw [writeLists_flatten uploadMax (Nat.le_refl _)] at member
    exact KeyMap.find?_eq_some_iff.mpr (List.mem_filter.mp member).1
  dirty found isDirty := by
    rw [writeLists_flatten uploadMax (Nat.le_refl _)]
    exact List.mem_filter.mpr ⟨KeyMap.find?_eq_some_iff.mp found, isDirty⟩

private theorem RunsLeft.runAt {runs : List (List (Nat × Page))}
    (left : RunsLeft (run :: runs) world) (writeRun : WriteRun first run) (nonempty : run ≠ []) :
    RunAt config world first run where
  nonempty := nonempty
  writeRun := writeRun
  cached entry member := left.cached entry (by simp [member])
  ordered {index page} _ found dirty := by
    have sorted := left.sorted
    have member := left.dirty found dirty
    obtain ⟨head, rest, rfl⟩ := List.exists_cons_of_ne_nil nonempty
    have headFst : head.1 = first := by simpa using writeRun.head_fst nonempty
    rw [List.flatten_cons, List.cons_append] at sorted member
    rcases List.mem_cons.mp member with rfl | later
    · exact Nat.le_of_eq headFst.symm
    · exact headFst ▸ Nat.le_of_lt ((List.pairwise_cons.mp sorted).1 _ later)

private theorem RunsLeft.next {runs : List (List (Nat × Page))} {final : World}
    (left : RunsLeft (run :: runs) world)
    (pages : final.pageManager.pages =
      World.cleanedPages world.pageManager.pages (run.map Prod.fst)) :
    RunsLeft runs final := by
  have sorted := left.sorted
  rw [List.flatten_cons, List.pairwise_append] at sorted
  have apart : ∀ entry ∈ runs.flatten, entry.1 ∉ run.map Prod.fst := by
    intro entry later inside
    obtain ⟨earlier, member, same⟩ := List.mem_map.mp inside
    exact absurd same (Nat.ne_of_lt (sorted.2.2 earlier member entry later))
  refine ⟨fun other member => left.writeRun other (List.mem_cons_of_mem _ member), sorted.2.1, ?_, ?_⟩
  · intro entry member
    rw [pages, World.find?_cleanedPages, if_neg (apart entry member)]
    exact left.cached entry (by simp only [List.flatten_cons, List.mem_append, member, or_true])
  · intro index page found dirty
    rw [pages, World.find?_cleanedPages] at found
    split at found
    · obtain ⟨old, _, rfl⟩ := Option.map_eq_some_iff.mp found
      cases dirty
    · next outside =>
      rcases List.mem_append.mp (left.dirty found dirty) with inside | later
      · exact absurd (List.mem_map_of_mem inside) outside
      · exact later

private theorem flushRuns_spec (runs : List (List (Nat × Page))) (left : RunsLeft runs world) :
    Outcome (forM runs fun run => do
        let _ ← flushPageList config env ((run.head?.map Prod.fst).getD 0) (run.map Prod.fst))
      world
      (fun _ final => Flushed config none true world final ∧ RunsLeft [] final ∧
        (runs ≠ [] → final.pageBackend.backendExists = true))
      (Stopped config env none true world) := by
  induction runs generalizing world with
  | nil => exact ⟨.refl world, left, by simp⟩
  | cons run runs ih =>
      obtain ⟨nonempty, first, writeRun⟩ := left.writeRun run List.mem_cons_self
      rw [List.forM_cons, Outcome.bind_iff, Outcome.bind_iff, writeRun.head_fst nonempty]
      refine (flushPageList_spec none first run world fun _ =>
        left.runAt writeRun nonempty).mono ?_ fun _ _ => id
      rintro _ middle ⟨flushed, created, pages, _⟩
      rw [Outcome.pure_iff]
      refine (ih (left.next pages)).mono ?_ fun _ _ => flushed.then_stopped
      rintro _ final ⟨rest, done, _⟩
      refine ⟨flushed.trans rest, done, fun _ => rest.steps.file.exists_mono ?_⟩
      cases existing : world.pageBackend.backendExists with
      | true => exact flushed.steps.file.exists_mono existing
      | false => exact created existing

/-- No page is dirty. -/
def Clean (world : World) : Prop :=
  ∀ index page, world.pageManager.pages.find? index = some page → page.dirty = false

private theorem RunsLeft.clean (done : RunsLeft [] world) : Clean world := by
  intro index page found
  cases dirty : page.dirty with
  | false => rfl
  | true => cases done.dirty found dirty

private theorem Clean.erase (clean : Clean world) (index : Nat) :
    Clean (erasePage (forgetPage config world index) index) := by
  intro other page found
  simp only [erasePage, forgetPage, KeyMap.find?_erase] at found
  split at found
  · cases found
  · exact clean other page found

private theorem evictDeferred_spec (config : Config) (env : Env) (clean : Clean world) :
    Outcome (evictDeferred config env) world
      (fun _ final => Flushed config none true world final ∧ Clean final ∧
        final.pageManager.deferredEvicts = [])
      (fun _ _ => False) := by
  simp only [evictDeferred, Outcome.bind_iff, Outcome.get_iff]
  have evicted : Outcome (forM world.pageManager.deferredEvicts fun index =>
        evictPage config env index) world
      (fun _ final => Flushed config none true world final ∧ Clean final ∧
        final.pageManager.deferredEvicts = world.pageManager.deferredEvicts)
      (fun _ _ => False) := by
    refine Outcome.forM_invariant ⟨.refl world, clean, rfl⟩ ?_
    rintro index _ middle ⟨flushed, clean, same⟩
    refine (evictPage_clean clean).mono ?_ fun _ _ => False.elim
    rintro _ final (rfl | ⟨⟨page, found⟩, rfl⟩)
    · exact ⟨flushed, clean, same⟩
    · exact ⟨flushed.trans (evict_step found (clean index page found) (by simp)),
        clean.erase index, same⟩
  refine evicted.mono ?_ fun _ _ => False.elim
  rintro _ middle ⟨flushed, clean, same⟩
  simp only [same, ne_eq, not_true_eq_false, if_false, Outcome.modify_iff]
  exact ⟨flushed.trans (.of_step .clearDeferred rfl), clean, trivial⟩

/-- After `FlushPages` the file exists and no page is dirty. -/
theorem flushPages_spec (config : Config) (env : Env) (world : World) :
    Outcome (flushPages config env) world
      (fun _ final => Flushed config none true world final ∧ Clean final ∧
        final.pageBackend.backendExists = true ∧ final.pageManager.deferredEvicts = [])
      (Stopped config env none true world) := by
  have evicting (middle : World) (flushed : Flushed config none true world middle)
      (clean : Clean middle) (existing : middle.pageBackend.backendExists = true) :
      Outcome (evictDeferred config env) middle
        (fun _ final => Flushed config none true world final ∧ Clean final ∧
          final.pageBackend.backendExists = true ∧ final.pageManager.deferredEvicts = [])
        (Stopped config env none true world) := by
    refine (evictDeferred_spec config env clean).mono ?_ fun _ _ => False.elim
    rintro _ final ⟨evicted, clean, deferred⟩
    exact ⟨flushed.trans evicted, clean, evicted.steps.file.exists_mono existing, deferred⟩
  have left := RunsLeft.init world.uploadMaxBytes world
  simp only [flushPages, flushRuns, Outcome.bind_iff, Outcome.get_iff]
  cases runs : writeLists world.uploadMaxBytes world.pageManager.pages.entries.length
      world.pageManager.pages.entries with
  | nil =>
      simp only [List.isEmpty_nil, if_true, Outcome.bind_iff, Outcome.pure_iff]
      refine (flushPageList_spec none 0 [] world (by simp)).mono ?_ fun _ _ => id
      rintro _ middle ⟨flushed, created, pages, _⟩
      have clean := (runs ▸ left).clean
      refine evicting middle flushed (fun index page found => clean index page ?_) ?_
      · rw [pages] at found
        exact found
      · cases existing : world.pageBackend.backendExists with
        | true => exact flushed.steps.file.exists_mono existing
        | false => exact created existing
  | cons run rest =>
      simp only [List.isEmpty_cons, Bool.false_eq_true, if_false]
      refine (flushRuns_spec (run :: rest) (runs ▸ left)).mono ?_ fun _ _ => id
      rintro _ middle ⟨flushed, done, existing⟩
      exact evicting middle flushed done.clean (existing (by simp))

end PageManager

end Andromeda.FileData
