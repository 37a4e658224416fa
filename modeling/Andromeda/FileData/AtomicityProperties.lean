import Andromeda.FileData.PageCalls
import Andromeda.FileData.ReadProperties
import Andromeda.FileData.ReportProperties
import Andromeda.FileData.Scenario
import Andromeda.Library.Run

/-! A write of a page or a `Truncate` that throws leaves the file as it was, if its throws
come before anything that is not undone. -/

set_option autoImplicit false

namespace Andromeda.FileData

open Andromeda.Library

/-- A call left the sizes and the readable bytes as they were, and every cached page with
the size its index requires. -/
structure Unchanged (config : Config) (before after : World) : Prop where
  fileSize : after.pageManager.fileSize = before.pageManager.fileSize
  backend : after.pageBackend.backendSize ≤ after.pageManager.fileSize
  content : after.content config = before.content config
  page {index page} : after.pageManager.pages.find? index = some page →
    PageShaped config after.pageManager.fileSize index page

section

variable {config : Config} {env : Env} {world before after : World} {exception : Exception}

private theorem Undone.unchanged (undone : Undone config env before after)
    (agrees : Agrees config before) :
    Unchanged config before after where
  fileSize := undone.fetches.fileSize
  backend := by
    rw [undone.fetches.fileSize]
    exact undone.shaped.backend
  content := by
    unfold World.content
    rw [undone.fetches.fileSize]
    refine List.map_congr_left fun position _ => ?_
    exact undone.cell agrees _ _ (Nat.mod_lt _ config.pageSize_pos)
  page found := by
    rw [undone.fetches.fileSize]
    exact undone.shaped.page found

private theorem SameView.unchanged (same : SameView before after) (sound : Sound config before) :
    Unchanged config before after where
  fileSize := same.fileSize
  backend := (same.sound sound).shaped.backend
  content := by
    unfold World.content
    rw [same.fileSize]
    exact List.map_congr_left fun _ _ => same.cell _ _
  page found := (same.sound sound).shaped.page found

namespace PageCall

/-- Nothing throws where a write would be left half done, and no report leaves a dirty page
short. -/
def Whole (config : Config) (world : World) (call : PageCall × Env) : Prop :=
  match call.1 with
  | .writePage _ _ _ => Guarded config call.2
  | .truncate _ => Steady call.2 world
  | .remoteChanged data =>
    world.pageBackend.backendExists = true → Covers config world data.length
  | _ => True

/-- What a run keeps. -/
structure Intact (config : Config) (world : World) : Prop where
  sound : Sound config world
  fetchSize : 0 < world.pageManager.fetchSize
  agrees : Agrees config world

private theorem Intact.ready (intact : Intact config before) : Ready config before :=
  ⟨intact.sound, intact.fetchSize, .inr intact.agrees⟩

private theorem Intact.kept (intact : Intact config before) (kept : Kept config env before after) :
    Intact config after :=
  ⟨kept.ready.sound, kept.ready.fetchSize, kept.agrees intact.agrees⟩

private theorem Intact.changed {content : Bytes} (intact : Intact config before)
    (changed : Changed config content before after) : Intact config after :=
  ⟨changed.sound, changed.threads.fetchSize ▸ intact.fetchSize, changed.agrees intact.agrees⟩

private theorem Intact.failed (intact : Intact config before)
    (failed : Failed config env before exception after) : Intact config after :=
  ⟨failed.sound, failed.threads.fetchSize ▸ intact.fetchSize, failed.agrees intact.agrees⟩

/-- A call keeps the state intact, and a write that throws leaves it unchanged. -/
def Spec (config : Config) (env : Env) (call : PageCall) (before : World) : Prop :=
  Outcome (call.run config env) before (fun _ => Intact config)
    (fun _ final => Intact config final ∧ (call.isWrite = true → Unchanged config before final))

theorem Spec.unchanged {call : PageCall} (spec : Spec config env call before)
    (writes : call.isWrite = true) (threw : call.run config env before = .error exception after) :
    Unchanged config before after :=
  (spec.of_error threw).2 writes

private theorem Spec.of_keeps {call : PageCall} (reads : call.isWrite = false)
    (kept : Outcome (call.run config env) before (fun _ => Intact config)
      (fun _ => Intact config)) : Spec config env call before :=
  kept.mono (fun _ _ => id) fun _ _ intact =>
    ⟨intact, fun writes => absurd (reads.symm.trans writes) Bool.false_ne_true⟩

private theorem writePage_call {buffer : Bytes} {index offset : Nat} (intact : Intact config world)
    (permitted : Permitted config world (.writePage buffer index offset))
    (guarded : Guarded config env) : Spec config env (.writePage buffer index offset) world := by
  refine outcome_then_pure ((PageManager.writePage_spec ⟨permitted.1, permitted.2⟩
    intact.sound).mono (fun _ _ => intact.changed) ?_)
  intro exception final threw
  have undone := threw.undone guarded intact.sound.queued
  exact ⟨intact.failed (undone.failed threw.thrown), fun _ => undone.unchanged intact.agrees⟩

private theorem truncate_call {newSize : Nat} (intact : Intact config world)
    (steady : Steady env world) :
    Spec config env (.truncate newSize) world := by
  refine outcome_then_pure ((PageManager.truncate_spec newSize intact.sound).mono
    (fun _ _ => intact.changed) ?_)
  intro exception final threw
  refine ⟨intact.failed (threw.failed steady), fun _ => ?_⟩
  rw [threw.arrived steady]
  exact SameView.unchanged ⟨rfl, rfl, rfl, rfl, rfl⟩ intact.sound

private theorem remoteChanged_call {data : Bytes} (intact : Intact config world)
    (covers : world.pageBackend.backendExists = true → Covers config world data.length) :
    Spec config env (.remoteChanged data) world := by
  refine .of_keeps rfl ?_
  simp only [run, Outcome.bind_iff, Outcome.modify_iff]
  have isSome := intact.agrees.exists_eq
  cases existing : world.pageBackend.backendExists with
  | true =>
      rw [existing] at isSome
      obtain ⟨old, remote⟩ := Option.isSome_iff_exists.mp isSome.symm
      refine (@PageManager.remoteChanged_spec config
        { world with remote := world.remote.map fun _ => data } data.length existing).mono ?_
          fun _ _ => False.elim
      intro _ final reported
      have sound := intact.sound
      have replaced : Sound config { world with remote := world.remote.map fun _ => data } :=
        ⟨⟨sound.shaped.page, sound.shaped.backend, sound.shaped.pending⟩,
          ⟨sound.live.pageQueue, sound.live.dirtyQueue⟩, sound.queued⟩
      refine ⟨reported.sound replaced existing (covers existing), ?_, reported.agrees existing ?_⟩
      · rw [reported.threads.fetchSize]
        exact intact.fetchSize
      · rw [remote]
        rfl
  | false =>
      rw [existing] at isSome
      have remote : world.remote = none := by simpa using isSome.symm
      have same : { world with remote := world.remote.map fun _ => data } = world := by
        rw [remote, Option.map_none, ← remote]
      simp only [same, PageManager.remoteChanged, Outcome.bind_iff, Outcome.get_iff, existing,
        Bool.false_eq_true, if_false, Outcome.pure_iff]
      exact intact

/-- Every call but a write or a report keeps what readers see. -/
theorem call_spec (call : PageCall) (intact : Intact config world)
    (permitted : Permitted config world call) (whole : Whole config world (call, env)) :
    Spec config env call world := by
  cases call with
  | readPage index offset length =>
      obtain ⟨some, onPage, inside⟩ := permitted
      exact .of_keeps rfl ((PageManager.readPage_spec intact.ready onPage some inside).mono
        (fun _ _ read => intact.kept read.kept) fun _ _ => intact.kept)
  | writePage buffer index offset => exact writePage_call intact permitted whole
  | truncate newSize => exact truncate_call intact whole
  | flushPages =>
      exact .of_keeps rfl (outcome_then_pure ((PageManager.flushPages_changed intact.sound).mono
        (fun _ _ flushed => intact.changed flushed.1) fun _ _ => intact.failed))
  | flushPage index =>
      exact .of_keeps rfl (outcome_then_pure ((CacheManager.flushPage_changed intact.sound
        index).mono (fun _ _ => intact.changed) fun _ _ => intact.failed))
  | evictPage index =>
      exact .of_keeps rfl (outcome_then_pure ((PageManager.evictPage_changed intact.sound
        index).mono (fun _ _ => intact.changed) fun _ _ => intact.failed))
  | fetchDone thread =>
      exact .of_keeps rfl (outcome_then_pure ((PageManager.runFetch_kept intact.ready
        thread).mono (fun _ _ => intact.kept) fun _ _ => intact.kept))
  | remoteChanged data => exact remoteChanged_call intact whole
  | setUploadMaxBytes limit =>
      refine .of_keeps rfl (outcome_then_pure ?_)
      rw [Outcome.modify_iff]
      have same : SameView world { world with uploadMaxBytes := limit } :=
        ⟨rfl, rfl, rfl, rfl, rfl⟩
      exact ⟨same.sound intact.sound, intact.fetchSize, same.agrees intact.agrees⟩
  | otherManagers pageQueue dirtyQueue =>
      refine .of_keeps rfl (outcome_then_pure ?_)
      rw [Outcome.modify_iff]
      have flushed : Flushed config none true world { world with
          cacheManager := world.cacheManager.otherManagers pageQueue dirtyQueue } :=
        .of_step (.otherManagers pageQueue dirtyQueue) rfl
      exact intact.changed (flushed.moved.changed
        (flushed.steps.live intact.sound.live) intact.sound)

/-- What each step of a run has to meet. -/
def Meets (config : Config) (world : World) (call : PageCall × Env) : Prop :=
  Permitted config world call.1 ∧ Whole config world call

theorem step_intact {call : PageCall × Env} (meets : Meets config world call)
    (intact : Intact config world) : Intact config (step config world call) :=
  exitState_of_outcome ((call_spec call.1 intact meets.1 meets.2).mono
    (fun _ _ => id) fun _ _ => And.left)

theorem Intact.initial (initial : Initial config world) : Intact config world := by
  obtain ⟨sound, agrees, _⟩ := initial.sound
  refine ⟨sound, ?_, agrees⟩
  cases initial with
  | existing _ => exact Nat.one_pos
  | pending _ _ => exact Nat.one_pos

/-- In a run that keeps the conditions, a `WritePage` or a `Truncate` that throws has
changed nothing. -/
theorem session_atomic {calls : List (PageCall × Env)} {call : PageCall}
    (initial : Initial config world)
    (each : Library.EachStep (step config) (Meets config) world (calls ++ [(call, env)]))
    (writes : call.isWrite = true)
    (threw : call.run config env (session config world calls) = .error exception after) :
    Unchanged config (session config world calls) after := by
  obtain ⟨before, ⟨permitted, whole⟩, _⟩ := Library.EachStep.append_iff.mp each
  have intact : Intact config (session config world calls) :=
    Library.run_preserves (fun _ _ => step_intact) (.initial initial) before
  exact (call_spec call intact permitted whole).unchanged writes threw

end PageCall

end

namespace Scenario

/-- The read of the first page fails, as long as none is cached. -/
def unread : Env := failing fun world call => decide (call = .readFile 0 10 ∧
  world.pageManager.pages.entries = [] ∧
  world.pageBackend.backendSize ≤ world.pageManager.fileSize)

private theorem unread_guarded : Guarded (config .random) unread := by
  intro world call fault
  obtain ⟨rfl, none, backend⟩ := of_decide_eq_true fault
  refine ⟨?_, fun short => absurd short.1 (Nat.not_succ_le_zero 9)⟩
  rintro (past | ⟨⟨index, page, found, _⟩, _⟩)
  · exact absurd backend (Nat.not_le.mpr past)
  · have member := KeyMap.find?_eq_some_iff.mp found
    rw [none] at member
    cases member

theorem unread_unchanged :
    let before := PageCall.session (config .random) (.existing (bytes 15) (cache 100) 0)
      [(.truncate 12, env)]
    Unchanged (config .random) before
      (exitState ((PageCall.writePage (bytes 3) 0 2).run (config .random) unread before)) :=
  @PageCall.session_atomic (config .random) unread _ _ _ [(.truncate 12, env)]
    (.writePage (bytes 3) 0 2) (.existing (cache_fresh 100))
    ⟨⟨trivial, fun _ _ fault => (by cases fault)⟩, ⟨⟨by decide, by decide⟩, unread_guarded⟩,
      trivial⟩ rfl
    (eq_error (show _ = some Exception.backend by decide +kernel))

/-- A cache that the two pages of a file fill. -/
def filled : Config := { config .random with memoryLimit := 15 }

/-- Both pages are written and stay dirty. -/
def twoPages : List (PageCall × Env) :=
  [(.writePage (bytes 10) 0 0, env), (.writePage (bytes 5) 1 0, env)]

/-- The first page cannot be written back. -/
def unwritten : Env := failing fun _ call => decide (call = .writeFile 0)

theorem truncate_changes :
    let start := World.existing (bytes 15) (cache 100) 0
    let before := PageCall.session filled start twoPages
    Initial filled start ∧
      Library.EachStep (PageCall.step filled)
        (fun world call => PageCall.Permitted filled world call.1) start
        (twoPages ++ [(.truncate 20, unwritten)]) ∧
      ∃ exception after,
        (PageCall.truncate 20).run filled unwritten before = .error exception after ∧
          before.pageManager.fileSize = 15 ∧ after.pageManager.fileSize = 20 ∧
          (∃ page, after.pageManager.pages.find? 1 = some page ∧ page.size = 5) ∧
          ¬ Unchanged filled before after := by
  intro start before
  refine ⟨.existing (cache_fresh 100), ⟨⟨by decide, by decide⟩, ⟨by decide, by decide⟩, trivial,
    trivial⟩, .backend, _, eq_error (by decide +kernel), by decide +kernel, by decide +kernel,
    ⟨⟨bytes 5, true⟩, by decide +kernel, by decide⟩, fun same => ?_⟩
  exact absurd same.fileSize (by decide +kernel)

end Scenario

end Andromeda.FileData
