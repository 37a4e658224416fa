import Andromeda.FileData.Session

/-! What the operations that only use the cache leave alone: the backend, what is
known of it, and the requests made. Unless pages are written at random, that is every
read and every write of pages. -/

set_option autoImplicit false

namespace Andromeda.FileData

open Andromeda.Library

/-- The checks a read can fail. -/
def ErrorCheck.isRead : ErrorCheck → Bool
  | .invalidRead | .invalidFetch | .emptyRead | .notPending => true
  | _ => false

/-- Nothing has reached the backend. -/
structure Untouched (before after : World) : Prop where
  remote : after.remote = before.remote
  pageBackend : after.pageBackend = before.pageBackend
  requests : after.trace.requests = before.trace.requests
  errors : after.trace.errors = before.trace.errors ∨
    ∃ check : ErrorCheck, check.isRead = true ∧
      after.trace.errors = before.trace.errors ++ [check]

/-- An invariant that does not depend on the cache. -/
def Framed (Invariant : World → Prop) : Prop :=
  ∀ before after, Untouched before after → Invariant before → Invariant after

private theorem Framed.same {Invariant : World → Prop} (framed : Framed Invariant)
    {before after : World}
    (kept : Invariant before) (remote : after.remote = before.remote)
    (pageBackend : after.pageBackend = before.pageBackend)
    (requests : after.trace.requests = before.trace.requests)
    (errors : after.trace.errors = before.trace.errors) : Invariant after :=
  framed before after ⟨remote, pageBackend, requests, .inl errors⟩ kept

/-- The same pages are cached, and the cache manager knows the same. -/
structure SameCache (before after : World) : Prop where
  cacheManager : after.cacheManager = before.cacheManager
  cached : ∀ index, (after.pageManager.pages.find? index).isSome =
    (before.pageManager.pages.find? index).isSome

/-- An invariant of the cache and the backend. -/
def Still (Invariant : World → Prop) : Prop :=
  ∀ before after, Untouched before after → SameCache before after → Invariant before →
    Invariant after

private theorem Framed.still {Invariant : World → Prop} (framed : Framed Invariant) :
    Still Invariant :=
  fun before after untouched _ => framed before after untouched

private theorem Still.same {Invariant : World → Prop} (still : Still Invariant)
    {before after : World} (kept : Invariant before) (remote : after.remote = before.remote)
    (pageBackend : after.pageBackend = before.pageBackend)
    (requests : after.trace.requests = before.trace.requests)
    (errors : after.trace.errors = before.trace.errors)
    (cacheManager : after.cacheManager = before.cacheManager)
    (pages : after.pageManager.pages = before.pageManager.pages) : Invariant after :=
  still before after ⟨remote, pageBackend, requests, .inl errors⟩
    ⟨cacheManager, fun _ => by rw [pages]⟩ kept

private theorem Still.changed {Invariant : World → Prop} (still : Still Invariant) {world : World}
    (index : Nat) (change : Page → Page) (kept : Invariant world) :
    Invariant (PageManager.changePage world index change) := by
  refine still world _ ⟨rfl, rfl, rfl, .inl rfl⟩ ⟨rfl, fun other => ?_⟩ kept
  simp only [PageManager.changePage, KeyMap.find?_update]
  split
  · next same => rw [Option.isSome_map, same]
  · rfl

/-- The moves of a file's pages and of their queue entries. An invariant closed under them
may depend on which pages are cached and queued. -/
structure Closed (config : Config) (Invariant : World → Prop) : Prop where
  still : Still Invariant
  enqueued {world index} (newSize : Nat) (dirty : Bool) : config.cacheMgr = true →
    (world.pageManager.pages.find? index).isSome = true → Invariant world →
      Invariant { world with
        cacheManager := world.cacheManager.enqueuePage ownManager index newSize dirty }
  resizeQueued {world} (index newSize : Nat) : Invariant world → Invariant { world with
    cacheManager := world.cacheManager.resizeQueued ownManager index newSize }
  resizeDirty {world} (index newSize : Nat) : Invariant world → Invariant { world with
    cacheManager := world.cacheManager.resizeDirty ownManager index newSize }
  removeDirty {world} (index : Nat) : Invariant world → Invariant { world with
    cacheManager := world.cacheManager.removeDirty ownManager index }
  dirtyLimit {world} (limit : Nat) : Invariant world → Invariant { world with
    cacheManager := { world.cacheManager with dirtyLimit := limit } }
  otherManagers {world} (pageQueue dirtyQueue : List PageInfo) : Invariant world →
    Invariant { world with
      cacheManager := world.cacheManager.otherManagers pageQueue dirtyQueue }
  forgotten {world} (index : Nat) : Invariant world →
    Invariant (PageManager.forgetPage config world index)
  gaveUp {world} (index : Nat) : Invariant world →
    Invariant (PageManager.erasePage (PageManager.forgetPage config world index) index)
  emplaced {world} (index : Nat) (page : Page) : Invariant world →
    Invariant (PageManager.emplacePage world index page)

theorem Framed.closed {Invariant : World → Prop} (framed : Framed Invariant) (config : Config) :
    Closed config Invariant where
  still := framed.still
  enqueued _ _ _ _ kept := framed.same kept rfl rfl rfl rfl
  resizeQueued _ _ kept := framed.same kept rfl rfl rfl rfl
  resizeDirty _ _ kept := framed.same kept rfl rfl rfl rfl
  removeDirty _ kept := framed.same kept rfl rfl rfl rfl
  dirtyLimit _ kept := framed.same kept rfl rfl rfl rfl
  otherManagers _ _ kept := framed.same kept rfl rfl rfl rfl
  forgotten _ kept := framed.same kept rfl rfl rfl rfl
  gaveUp _ kept := framed.same kept rfl rfl rfl rfl
  emplaced _ _ kept := framed.same kept rfl rfl rfl rfl

section

variable {Invariant : World → Prop} {config : Config} {env : Env}

private theorem keeps_logError (still : Still Invariant) {check : ErrorCheck}
    (isRead : check.isRead = true) : Keeps Invariant (logError check) :=
  keeps_modify fun world => still world _ ⟨rfl, rfl, rfl, .inr ⟨check, isRead, rfl⟩⟩
    ⟨rfl, fun _ => rfl⟩

private theorem keeps_tryCall (still : Still Invariant) (call : Call) (exception : Exception) :
    Keeps Invariant (tryCall env call exception) := by
  refine keeps_get_bind fun world kept => keeps_bind (keeps_set ?_) fun _ => ?_
  · exact still.same kept rfl rfl rfl rfl rfl rfl
  · exact keeps_ite (fun _ => keeps_throw _) fun _ => keeps_pure _

private theorem keeps_readFile (still : Still Invariant) (offset length : Nat) :
    Keeps Invariant (Backend.readFile env offset length) := by
  refine keeps_get_bind fun world kept => keeps_bind (keeps_set ?_) fun _ => ?_
  · exact still.same kept rfl rfl rfl rfl rfl rfl
  · exact keeps_ite (fun _ => keeps_pure _) fun _ => keeps_pure _

private theorem keeps_fetchPages (still : Still Invariant) (index count : Nat) :
    Keeps Invariant (PageBackend.fetchPages config env index count) := by
  refine keeps_get_bind fun world _ =>
    keeps_when (fun _ => keeps_logError still rfl) ?_
  refine keeps_ite (fun _ => ?_) fun _ => ?_
  · exact keeps_bind (keeps_logError still rfl) fun _ => keeps_pure _
  · exact keeps_bind (keeps_readFile still _ _) fun _ => keeps_pure _

/-- What a write-back has to keep where pages are written at random. -/
def FlushKeeps (config : Config) (env : Env) (Invariant : World → Prop) : Prop :=
  config.randWrite = true → ∀ index indices,
    Keeps Invariant (PageManager.flushPageList config env index indices)

namespace PageManager

theorem keeps_evictPage (closed : Closed config Invariant) (flush : FlushKeeps config env Invariant)
    (index : Nat) : Keeps Invariant (evictPage config env index) := by
  refine keeps_get_bind fun world _ => ?_
  cases world.pageManager.pages.find? index with
  | none => exact keeps_pure _
  | some page =>
      have leave : Keeps Invariant (do
          modify fun world => forgetPage config world index
          if !page.dirty ∨ config.randWrite then modify fun world => erasePage world index
          else modify fun world => { world with pageManager := { world.pageManager with
            deferredEvicts := world.pageManager.deferredEvicts ++ [index] } } : Exec Unit) := by
        intro world kept
        rw [Outcome.bind_iff, Outcome.modify_iff, Outcome.ite_iff]
        exact ⟨fun _ => closed.gaveUp index kept, fun _ =>
          closed.still.same (closed.forgotten index kept) rfl rfl rfl rfl rfl rfl⟩
      exact keeps_ite (fun random => keeps_bind (flush random.2 _ _) fun _ => leave) fun _ => leave

private theorem keeps_flushPage (closed : Closed config Invariant)
    (flush : FlushKeeps config env Invariant)
    (index : Nat) : Keeps Invariant (flushPage config env index) := by
  refine keeps_get_bind fun world _ => ?_
  cases world.pageManager.pages.find? index with
  | none => exact keeps_pure _
  | some page =>
      refine keeps_ite (fun _ => ?_) fun some => flush ?_ _ _
      · refine keeps_when (fun _ => ?_) (keeps_pure _)
        exact keeps_modify fun world kept => closed.removeDirty index kept
      · by_contra notRandom
        simp [notRandom] at some

end PageManager

namespace CacheManager

theorem keeps_flushPage (closed : Closed config Invariant) (flush : FlushKeeps config env Invariant)
    (index : Nat) : Keeps Invariant (flushPage config env index) :=
  keeps_bind (PageManager.keeps_flushPage closed flush index) fun _ =>
    keeps_modify fun _ kept => closed.dirtyLimit _ kept

private theorem keeps_evictLoop (closed : Closed config Invariant)
    (flush : FlushKeeps config env Invariant)
    (index fuel : Nat) : Keeps Invariant (evictLoop config env index fuel) := by
  induction fuel with
  | zero => exact keeps_throw _
  | succ fuel ih =>
      refine keeps_get_bind fun world _ => ?_
      cases evictPick config index world.cacheManager with
      | none => exact keeps_pure _
      | some picked =>
          exact keeps_bind (PageManager.keeps_evictPage closed flush picked) fun _ => ih

private theorem keeps_flushLoop (closed : Closed config Invariant)
    (flush : FlushKeeps config env Invariant)
    (index fuel : Nat) : Keeps Invariant (flushLoop config env index fuel) := by
  induction fuel with
  | zero => exact keeps_throw _
  | succ fuel ih =>
      refine keeps_get_bind fun world _ => ?_
      cases flushPick index world.cacheManager with
      | none => exact keeps_pure _
      | some picked => exact keeps_bind (keeps_flushPage closed flush picked) fun _ => ih

private theorem keeps_awaitWhile (closed : Closed config Invariant) (exceeded : CacheManager → Bool)
    (canWait : Bool) : Keeps Invariant (awaitWhile config env exceeded canWait) := by
  refine keeps_get_bind fun world _ => keeps_ite (fun _ => ?_) fun _ => keeps_pure _
  exact keeps_bind (keeps_modify fun _ kept => closed.otherManagers _ _ kept) fun _ =>
    keeps_tryCall closed.still _ _

private theorem keeps_handleMemory (closed : Closed config Invariant)
    (flush : FlushKeeps config env Invariant)
    (index : Nat) (canWait mgrLock : Bool) :
    Keeps Invariant (handleMemory config env index canWait mgrLock) := by
  refine keeps_ite (fun _ => keeps_get_bind fun world _ => ?_) fun _ =>
    keeps_awaitWhile closed _ _
  exact keeps_bind (keeps_evictLoop closed flush _ _) fun _ => keeps_awaitWhile closed _ _

private theorem keeps_handleDirtyMemory (closed : Closed config Invariant)
    (flush : FlushKeeps config env Invariant) (index : Nat) (canWait mgrLock : Bool) :
    Keeps Invariant (handleDirtyMemory config env index canWait mgrLock) := by
  refine keeps_ite (fun _ => keeps_get_bind fun world _ => ?_) fun _ =>
    keeps_awaitWhile closed _ _
  exact keeps_bind (keeps_flushLoop closed flush _ _) fun _ => keeps_awaitWhile closed _ _

private theorem keeps_informPage (closed : Closed config Invariant)
    (flush : FlushKeeps config env Invariant)
    (cacheMgr : config.cacheMgr = true) (index : Nat) (dirty canWait mgrLock : Bool) :
    Keeps Invariant (informPage config env index dirty canWait mgrLock) := by
  refine keeps_get_bind fun world kept => ?_
  cases found : world.pageManager.pages.find? index with
  | none => exact keeps_pure _
  | some page =>
      have cached : (world.pageManager.pages.find? index).isSome = true := by rw [found]; rfl
      refine keeps_bind (keeps_set (closed.enqueued _ dirty cacheMgr cached kept)) fun _ =>
        keeps_ite (fun _ => ?_) fun _ => keeps_pure _
      refine keeps_bind (keeps_handleMemory closed flush _ _ _) fun _ => keeps_ite (fun _ => ?_)
        fun _ => keeps_pure _
      exact keeps_handleDirtyMemory closed flush _ _ _

private theorem keeps_resizeIn {queue : CacheManager → List PageInfo}
    {resizeEntry : CacheManager → Nat → Nat → Nat → CacheManager}
    {enforce : Nat → Bool → Bool → Exec Unit}
    (resized : ∀ world index newSize, Invariant world → Invariant { world with
      cacheManager := resizeEntry world.cacheManager ownManager index newSize })
    (kept : ∀ index canWait mgrLock, Keeps Invariant (enforce index canWait mgrLock))
    (index newSize : Nat) : Keeps Invariant (resizeIn queue resizeEntry enforce index newSize) := by
  refine keeps_get_bind fun world _ => ?_
  cases lookup (queue world.cacheManager) ownManager index with
  | none => exact keeps_pure _
  | some info =>
      refine keeps_bind (keeps_modify fun world => resized world index newSize) fun _ => ?_
      exact keeps_ite (fun _ => kept _ _ _) fun _ => keeps_pure _

private theorem keeps_resizePage (closed : Closed config Invariant)
    (flush : FlushKeeps config env Invariant)
    (index : Nat) : Keeps Invariant (resizePage config env index) := by
  refine keeps_get_bind fun world _ => ?_
  cases world.pageManager.pages.find? index with
  | none => exact keeps_pure _
  | some page =>
      exact keeps_bind (keeps_resizeIn (fun _ => closed.resizeQueued)
        (keeps_handleMemory closed flush) _ _) fun _ =>
          keeps_resizeIn (fun _ => closed.resizeDirty) (keeps_handleDirtyMemory closed flush) _ _

end CacheManager

namespace PageManager

private theorem keeps_onThrow {computation undo : Exec Unit} (first : Keeps Invariant computation)
    (rest : Keeps Invariant undo) : Keeps Invariant (onThrow computation undo) :=
  keeps_tryCatch first fun _ =>
    keeps_when (fun _ => rest) (keeps_throw _)

private theorem keeps_resizePage (closed : Closed config Invariant)
    (flush : FlushKeeps config env Invariant)
    (index pageSize : Nat) (cacheMgr : Bool) :
    Keeps Invariant (resizePage config env index pageSize cacheMgr) := by
  refine keeps_get_bind fun world _ => ?_
  cases world.pageManager.pages.find? index with
  | none => exact keeps_pure _
  | some page =>
      have change (size : Nat) : Keeps Invariant (modify fun world =>
          changePage world index fun page => page.resizeTo size : Exec Unit) :=
        keeps_modify fun _ kept => closed.still.changed _ _ kept
      refine keeps_ite (fun _ => keeps_pure _) fun _ => keeps_bind (change _) fun _ =>
        keeps_ite (fun _ => ?_) fun _ => keeps_pure _
      exact keeps_onThrow (CacheManager.keeps_resizePage closed flush index)
        (keeps_bind (change _) fun _ => CacheManager.keeps_resizePage closed flush index)

private theorem keeps_giveUp (closed : Closed config Invariant) (index : Nat) :
    Keeps Invariant
      (modify fun world => erasePage (forgetPage config world index) index : Exec Unit) :=
  keeps_modify fun _ kept => closed.gaveUp index kept

private theorem keeps_informNewPageRead (closed : Closed config Invariant)
    (flush : FlushKeeps config env Invariant) (index : Nat) (dirty canWait : Bool) :
    Keeps Invariant (informNewPageRead config env index dirty canWait) :=
  keeps_ite (fun cacheMgr => keeps_onThrow
    (CacheManager.keeps_informPage closed flush cacheMgr _ _ _ _)
    (keeps_giveUp closed index)) fun _ => keeps_pure _

private theorem keeps_informNewPageWrite (closed : Closed config Invariant)
    (flush : FlushKeeps config env Invariant) (index : Nat) (dirty : Bool) :
    Keeps Invariant (informNewPageWrite config env index dirty) :=
  keeps_ite (fun cacheMgr => keeps_onThrow
    (CacheManager.keeps_informPage closed flush cacheMgr _ _ _ _)
    (keeps_giveUp closed index)) fun _ => keeps_pure _

private theorem keeps_informResizePage (closed : Closed config Invariant)
    (flush : FlushKeeps config env Invariant) (index : Nat) (dirty : Bool) (pageSize : Nat) :
    Keeps Invariant (informResizePage config env index dirty pageSize) := by
  refine keeps_get_bind fun world _ => ?_
  cases world.pageManager.pages.find? index with
  | none => exact keeps_pure _
  | some page =>
      refine keeps_bind (keeps_resizePage closed flush _ _ _) fun _ =>
        keeps_ite (fun cacheMgr => ?_) fun _ => keeps_pure _
      refine keeps_onThrow (CacheManager.keeps_informPage closed flush cacheMgr _ _ _ _) ?_
      exact keeps_bind (keeps_resizePage closed flush _ _ _) fun _ =>
        CacheManager.keeps_resizePage closed flush _

private theorem keeps_newPageWrite (closed : Closed config Invariant)
    (flush : FlushKeeps config env Invariant)
    (index pageSize : Nat) : Keeps Invariant (newPageWrite config env index pageSize) := by
  refine keeps_bind (keeps_get_bind fun world _ => keeps_ite
    (fun _ => keeps_resizePage closed flush _ _ _) fun _ => keeps_pure _) fun _ => ?_
  exact keeps_bind (keeps_modify fun _ kept => closed.emplaced _ _ kept) fun _ =>
    keeps_informNewPageWrite closed flush _ _

private theorem keeps_fetchPageWrite (closed : Closed config Invariant)
    (flush : FlushKeeps config env Invariant) (index pageSize : Nat) :
    Keeps Invariant (fetchPageWrite config env index pageSize) := by
  refine keeps_bind (FileData.keeps_fetchPages closed.still _ _) fun _ => keeps_bind (keeps_forM fun _ => ?_)
    fun _ => keeps_when (fun _ => keeps_throw _) ?_
  · exact keeps_modify fun _ kept => closed.emplaced _ _ kept
  · exact keeps_bind (keeps_resizePage closed flush _ _ _) fun _ =>
      keeps_informNewPageWrite closed flush _ _

private theorem keeps_getPageWrite (closed : Closed config Invariant)
    (flush : FlushKeeps config env Invariant)
    (index pageSize : Nat) (isPartial : Bool) :
    Keeps Invariant (getPageWrite config env index pageSize isPartial) := by
  refine keeps_get_bind fun world _ => ?_
  cases world.pageManager.pages.find? index with
  | some page => exact keeps_informResizePage closed flush _ _ _
  | none =>
      exact keeps_ite (fun _ => keeps_newPageWrite closed flush _ _)
        fun _ => keeps_fetchPageWrite closed flush _ _

private theorem keeps_writePage (closed : Closed config Invariant)
    (flush : FlushKeeps config env Invariant)
    (buffer : Bytes) (index offset : Nat) :
    Keeps Invariant (writePage config env buffer index offset) :=
  keeps_get_bind fun _ _ => keeps_bind (keeps_getPageWrite closed flush _ _ _) fun _ =>
    keeps_bind (keeps_modify fun _ kept => closed.still.same kept rfl rfl rfl rfl rfl rfl)
      fun _ => keeps_modify fun _ kept => closed.still.changed _ _ kept

private theorem keeps_truncateLoop (closed : Closed config Invariant)
    (flush : FlushKeeps config env Invariant)
    (newSize fuel next : Nat) : Keeps Invariant (truncateLoop config env newSize fuel next) := by
  induction fuel generalizing next with
  | zero => exact keeps_pure _
  | succ fuel ih =>
      refine keeps_get_bind fun world _ => ?_
      cases (world.pageManager.pages.entriesFrom next).head? with
      | none => exact keeps_pure _
      | some entry =>
          have resize (pageSize : Nat) : Keeps Invariant (do
              resizePage config env entry.1 pageSize true
              truncateLoop config env newSize fuel (entry.1 + 1)) :=
            keeps_bind (keeps_resizePage closed flush _ _ _) fun _ => ih _
          refine keeps_ite (fun _ => keeps_bind (keeps_giveUp closed _) fun _ => ih _) fun _ => ?_
          exact keeps_ite (fun _ => resize _) fun _ => keeps_ite (fun _ => resize _) fun _ => ih _

private theorem keeps_getFetchSize (closed : Closed config Invariant) (index : Nat) :
    Keeps Invariant (getFetchSize config index) :=
  keeps_get_bind fun _ _ => keeps_ite
    (fun _ => keeps_bind (keeps_logError closed.still rfl) fun _ => keeps_pure _) fun _ => keeps_pure _

private theorem keeps_startFetch (closed : Closed config Invariant) (index readCount : Nat) :
    Keeps Invariant (modify fun world => startFetch world index readCount : Exec Unit) :=
  keeps_modify fun _ kept => closed.still.same kept rfl rfl rfl rfl rfl rfl

private theorem keeps_advanceReadLoop (closed : Closed config Invariant) (remaining nextIdx : Nat) :
    Keeps Invariant (advanceReadLoop config remaining nextIdx) := by
  induction remaining generalizing nextIdx with
  | zero => exact keeps_pure _
  | succ remaining ih =>
      refine keeps_get_bind fun world _ => keeps_ite (fun _ => keeps_pure _) fun _ =>
        keeps_bind (keeps_getFetchSize closed _) fun _ => keeps_ite (fun _ => ?_) fun _ => ih _
      exact keeps_startFetch closed _ _

private theorem keeps_doAdvanceRead (closed : Closed config Invariant) (index : Nat) :
    Keeps Invariant (doAdvanceRead config index) :=
  keeps_ite (fun _ => keeps_pure _) fun _ => keeps_advanceReadLoop closed _ _

private theorem keeps_removePendingFetch (closed : Closed config Invariant) (index : Nat)
    (idxOnly : Bool) :
    Keeps Invariant (removePendingFetch index idxOnly) := by
  refine keeps_get_bind fun world kept => ?_
  cases removePending index idxOnly world.pageManager.pendingPages with
  | none => exact keeps_logError closed.still rfl
  | some pendingPages => exact keeps_set (closed.still.same kept rfl rfl rfl rfl rfl rfl)

private theorem keeps_handleFetched (closed : Closed config Invariant)
    (flush : FlushKeeps config env Invariant)
    (index : Nat) (read : Nat × Bytes) : Keeps Invariant (handleFetched config env index read) :=
  keeps_get_bind fun _ _ =>
    keeps_bind (keeps_modify fun _ kept => closed.emplaced _ _ kept) fun _ =>
      keeps_bind (keeps_informNewPageRead closed flush _ _ _) fun _ =>
        keeps_removePendingFetch closed _ _

private theorem keeps_fetched (closed : Closed config Invariant)
    (flush : FlushKeeps config env Invariant)
    (index count : Nat) (pages : List (Nat × Bytes)) (failed : Bool) :
    Keeps Invariant (do
      forM pages fun read => handleFetched config env index read
      if failed then fetchFailed (index + pages.length) (index + count)
      else modify fun world => { world with pageManager := { world.pageManager with
        fetchSize := max 1 (env.fetchTarget world) } } : Exec Unit) := by
  refine keeps_bind (keeps_forM fun _ => keeps_handleFetched closed flush _ _) fun _ =>
    keeps_ite (fun _ => ?_) fun _ => keeps_modify fun _ kept => closed.still.same kept rfl rfl rfl rfl rfl rfl
  refine keeps_bind (keeps_modify fun _ kept => closed.still.same kept rfl rfl rfl rfl rfl rfl) fun _ => ?_
  exact keeps_ite (fun _ => keeps_removePendingFetch closed _ _) fun _ => keeps_pure _

private theorem keeps_fetchPages (closed : Closed config Invariant)
    (flush : FlushKeeps config env Invariant)
    (index count : Nat) : Keeps Invariant (fetchPages config env index count) :=
  keeps_bind (FileData.keeps_fetchPages closed.still _ _) fun _ => keeps_fetched closed flush _ _ _ _

private theorem keeps_runFetch (closed : Closed config Invariant)
    (flush : FlushKeeps config env Invariant)
    (thread : Nat) : Keeps Invariant (runFetch config env thread) := by
  refine keeps_get_bind fun world kept => ?_
  cases world.fetchThreads[thread]? with
  | none => exact keeps_pure _
  | some range =>
      exact keeps_bind (keeps_set (closed.still.same kept rfl rfl rfl rfl rfl rfl)) fun _ =>
        keeps_fetchPages closed flush _ _

private theorem keeps_awaitPage (closed : Closed config Invariant)
    (flush : FlushKeeps config env Invariant)
    (index fuel : Nat) : Keeps Invariant (awaitPage config env index fuel) := by
  induction fuel with
  | zero => exact keeps_throw _
  | succ fuel ih =>
      refine keeps_get_bind fun world _ => keeps_ite (fun _ => keeps_pure _) fun _ =>
        keeps_ite (fun _ => keeps_throw _) fun _ => keeps_ite (fun _ => keeps_throw _) fun _ => ?_
      exact keeps_bind (keeps_runFetch closed flush _) fun _ => ih

private theorem keeps_informRead (closed : Closed config Invariant)
    (flush : FlushKeeps config env Invariant)
    (index : Nat) : Keeps Invariant (informRead config env index) := by
  refine keeps_get_bind fun world _ => ?_
  cases world.pageManager.pages.find? index with
  | none => exact keeps_pure _
  | some page =>
      exact keeps_ite (fun cacheMgr => CacheManager.keeps_informPage closed flush cacheMgr _ _ _ _)
        fun _ => keeps_pure _

private theorem keeps_getPageRead (closed : Closed config Invariant)
    (flush : FlushKeeps config env Invariant)
    (index : Nat) : Keeps Invariant (getPageRead config env index) := by
  refine keeps_get_bind fun world _ => keeps_when (fun _ => keeps_logError closed.still rfl)
    (keeps_ite (fun _ => ?_) fun _ => ?_)
  · exact keeps_bind (keeps_doAdvanceRead closed _) fun _ => keeps_informRead closed flush _
  · have emplace : Keeps Invariant (do
        modify fun world => emplacePage world index ⟨List.replicate config.pageSize 0, false⟩
        informNewPageRead config env index false true : Exec Unit) :=
      keeps_bind (keeps_modify fun _ kept => closed.emplaced _ _ kept) fun _ =>
        keeps_informNewPageRead closed flush _ _ _
    have wait : Keeps Invariant (do
        awaitPage config env index ((← get).fetchThreads.length + 1)
        informRead config env index) :=
      keeps_get_bind fun _ _ => keeps_bind (keeps_awaitPage closed flush _ _) fun _ =>
        keeps_informRead closed flush _
    refine keeps_ite (fun _ => wait) fun _ => ?_
    refine keeps_bind (keeps_map _ (keeps_getFetchSize closed _)) fun fetchSize =>
      keeps_ite (fun _ => emplace) fun _ => ?_
    cases fetchSize with
    | none => exact wait
    | some readCount => exact keeps_bind (keeps_startFetch closed _ _) fun _ => wait

private theorem keeps_readPage (closed : Closed config Invariant)
    (flush : FlushKeeps config env Invariant)
    (index offset length : Nat) : Keeps Invariant (readPage config env index offset length) := by
  refine keeps_get_bind fun world _ => keeps_when (fun _ => keeps_logError closed.still rfl)
    (keeps_bind (keeps_getPageRead closed flush _) fun _ => keeps_get_bind fun world _ => ?_)
  cases world.pageManager.pages.find? index with
  | none => exact keeps_pure _
  | some page => exact keeps_pure _

end PageManager

namespace File

private theorem keeps_readLoop (closed : Closed config Invariant)
    (flush : FlushKeeps config env Invariant)
    (fuel byte length : Nat) : Keeps Invariant (readLoop config env fuel byte length) := by
  induction fuel generalizing byte length with
  | zero => exact keeps_pure _
  | succ fuel ih =>
      cases length with
      | zero => exact keeps_pure _
      | succ length =>
          exact keeps_bind (PageManager.keeps_readPage closed flush _ _ _) fun _ =>
            keeps_bind (ih _ _) fun _ => keeps_pure _

private theorem keeps_readBytes (closed : Closed config Invariant)
    (flush : FlushKeeps config env Invariant)
    (offset length : Nat) : Keeps Invariant (readBytes config env offset length) := by
  refine keeps_get_bind fun world _ => keeps_ite (fun _ => keeps_throw _) fun _ =>
    keeps_ite (fun _ => keeps_ite (fun _ => ?_) fun _ => ?_) fun _ =>
      keeps_readLoop closed flush _ _ _
  · exact keeps_bind (keeps_logError closed.still rfl) fun _ => keeps_pure _
  · exact keeps_bind (keeps_readFile closed.still _ _) fun _ =>
      keeps_when (fun _ => keeps_throw _) (keeps_pure _)

theorem keeps_writeLoop (closed : Closed config Invariant) (flush : FlushKeeps config env Invariant)
    (fuel byte : Nat) (buffer : Bytes) :
    Keeps Invariant (writeLoop config env fuel byte buffer) := by
  induction fuel generalizing byte buffer with
  | zero => exact keeps_pure _
  | succ fuel ih =>
      cases buffer with
      | nil => exact keeps_pure _
      | cons head tail =>
          exact keeps_bind (PageManager.keeps_writePage closed flush _ _ _) fun _ => ih _ _

end File

/-- Changes beyond the cache: only the log may show in them. -/
structure Sent (before after : World) : Prop where
  sameCache : SameCache before after
  errors : ∃ more, after.trace.errors = before.trace.errors ++ more

/-- An invariant of the cache and of a growing log. -/
def Outward (Invariant : World → Prop) : Prop :=
  ∀ before after, Sent before after → Invariant before → Invariant after

theorem Outward.still (outward : Outward Invariant) : Still Invariant := by
  intro before after untouched same
  refine outward before after ⟨same, ?_⟩
  rcases untouched.errors with none | ⟨check, _, more⟩
  · exact ⟨[], by simp [none]⟩
  · exact ⟨[check], more⟩

private theorem Outward.same (outward : Outward Invariant) {before after : World}
    (kept : Invariant before) (cacheManager : after.cacheManager = before.cacheManager)
    (pages : after.pageManager.pages = before.pageManager.pages)
    (errors : after.trace.errors = before.trace.errors) : Invariant after :=
  outward before after ⟨⟨cacheManager, fun _ => by rw [pages]⟩, [], by simp [errors]⟩ kept

private theorem keeps_anyError (outward : Outward Invariant) (check : ErrorCheck) :
    Keeps Invariant (logError check) :=
  keeps_modify fun world => outward world _ ⟨⟨rfl, fun _ => rfl⟩, _, rfl⟩

private theorem keeps_writeFile (outward : Outward Invariant) (offset : Nat) (data : Bytes) :
    Keeps Invariant (Backend.writeFile env offset data) :=
  keeps_bind (keeps_modify fun _ kept => outward.same kept rfl rfl rfl) fun _ =>
    keeps_bind (keeps_tryCall outward.still _ _) fun _ =>
      keeps_modify fun _ kept => outward.same kept rfl rfl rfl

private theorem keeps_uploadFile (outward : Outward Invariant) (data : Bytes) :
    Keeps Invariant (Backend.uploadFile env data) :=
  keeps_bind (keeps_modify fun _ kept => outward.same kept rfl rfl rfl) fun _ =>
    keeps_bind (keeps_tryCall outward.still _ _) fun _ =>
      keeps_modify fun _ kept => outward.same kept rfl rfl rfl

namespace PageBackend

private theorem keeps_flushCreate (outward : Outward Invariant) :
    Keeps Invariant (flushCreate env) := by
  refine keeps_get_bind fun world _ => keeps_ite (fun _ => keeps_pure _) fun _ => ?_
  refine keeps_bind ?_ fun _ => keeps_modify fun _ kept => outward.same kept rfl rfl rfl
  exact keeps_bind (keeps_tryCall outward.still _ _) fun _ =>
    keeps_modify fun _ kept => outward.same kept rfl rfl rfl

private theorem keeps_truncate (outward : Outward Invariant) (newSize : Nat) :
    Keeps Invariant (truncate env newSize) := by
  refine keeps_get_bind fun world _ => keeps_ite (fun _ => ?_) fun _ => keeps_pure _
  refine keeps_bind ?_ fun _ => keeps_modify fun _ kept => outward.same kept rfl rfl rfl
  exact keeps_bind (keeps_tryCall outward.still _ _) fun _ =>
    keeps_modify fun _ kept => outward.same kept rfl rfl rfl

private theorem keeps_flushPageList (outward : Outward Invariant) (index : Nat)
    (indices : List Nat) :
    Keeps Invariant (flushPageList config env index indices) := by
  refine keeps_ite (fun _ => keeps_bind (keeps_anyError outward _) fun _ => keeps_pure _) fun _ =>
    keeps_get_bind fun world _ => keeps_bind ?_ fun _ => keeps_bind ?_ fun _ => keeps_bind ?_
      fun _ => keeps_bind (keeps_modify fun _ kept => outward.same kept rfl rfl rfl)
        fun _ => keeps_pure _
  · exact keeps_get_bind fun world _ => keeps_ite (fun _ => keeps_anyError outward _) fun _ =>
      keeps_ite (fun _ => keeps_anyError outward _) fun _ => keeps_pure _
  · refine keeps_get_bind fun world _ => keeps_ite (fun _ => ?_) fun _ => keeps_pure _
    exact keeps_when (fun _ => keeps_anyError outward _) (keeps_flushCreate outward)
  · refine keeps_get_bind fun world _ => keeps_ite (fun _ => keeps_writeFile outward _ _) fun _ => ?_
    exact keeps_bind (keeps_uploadFile outward _) fun _ =>
      keeps_modify fun _ kept => outward.same kept rfl rfl rfl

end PageBackend

namespace PageManager

private theorem keeps_flushCreate (outward : Outward Invariant) :
    Keeps Invariant (flushCreate config env) :=
  keeps_bind (PageBackend.keeps_flushCreate outward) fun _ => keeps_get_bind fun _ _ =>
    keeps_ite (fun _ => PageBackend.keeps_truncate outward _) fun _ => keeps_pure _

private theorem Closed.cleaned (closed : Closed config Invariant) (indices : List Nat)
    {world : World}
    (kept : Invariant world) : Invariant (indices.foldl (cleanPage config) world) := by
  induction indices generalizing world with
  | nil => exact kept
  | cons index rest ih =>
      refine ih ?_
      have removed : Invariant { world with cacheManager :=
          if config.cacheMgr then world.cacheManager.removeDirty ownManager index
          else world.cacheManager } := by
        split
        · exact closed.removeDirty index kept
        · exact kept
      exact closed.still.changed index (·.setDirty false) removed

private theorem keeps_flushPageList (closed : Closed config Invariant) (outward : Outward Invariant)
    (index : Nat) (indices : List Nat) :
    Keeps Invariant (flushPageList config env index indices) := by
  have finish (mustCreate : Bool) (totalSize : Nat) : Keeps Invariant (do
      modify fun world => indices.foldl (cleanPage config) world
      if mustCreate then flushCreate config env
      return totalSize : Exec Nat) :=
    keeps_bind (keeps_modify fun _ kept => Closed.cleaned closed indices kept) fun _ =>
      keeps_when (fun _ => keeps_flushCreate outward) (keeps_pure _)
  refine keeps_get_bind fun world _ => keeps_ite (fun _ => ?_) fun _ => ?_
  · exact keeps_bind (keeps_pure _) fun _ => finish _ _
  · exact keeps_bind (PageBackend.keeps_flushPageList outward _ _) fun _ => finish _ _

theorem flushKeeps_outward (closed : Closed config Invariant) (outward : Outward Invariant) :
    FlushKeeps config env Invariant := fun _ => keeps_flushPageList closed outward

private theorem keeps_flushPages (closed : Closed config Invariant) (outward : Outward Invariant) :
    Keeps Invariant (flushPages config env) := by
  refine keeps_get_bind fun world _ => keeps_bind ?_ fun _ => keeps_get_bind fun world _ =>
    keeps_bind ?_ fun _ => keeps_get_bind fun world _ => ?_
  · refine keeps_ite (fun _ => ?_) fun _ => keeps_forM fun run => ?_
    · exact keeps_bind (keeps_flushPageList closed outward _ _) fun _ => keeps_pure _
    · exact keeps_bind (keeps_flushPageList closed outward _ _) fun _ => keeps_pure _
  · exact keeps_forM fun _ => keeps_evictPage closed (flushKeeps_outward closed outward) _
  · exact keeps_when (fun _ => keeps_throw _)
      (keeps_modify fun _ kept => outward.same kept rfl rfl rfl)

private theorem keeps_truncate (closed : Closed config Invariant) (outward : Outward Invariant)
    (newSize : Nat) : Keeps Invariant (truncate config env newSize) :=
  keeps_bind (PageBackend.keeps_truncate outward _) fun _ =>
    keeps_bind (keeps_modify fun _ kept => outward.same kept rfl rfl rfl) fun _ =>
      keeps_get_bind fun _ _ =>
        keeps_truncateLoop closed (flushKeeps_outward closed outward) _ _ _

theorem forgetPages_cacheManager (config : Config) (indices : List Nat) {left right : World}
    (same : left.cacheManager = right.cacheManager) :
    (indices.foldl (forgetPage config) left).cacheManager =
      (indices.foldl (forgetPage config) right).cacheManager := by
  induction indices generalizing left right with
  | nil => exact same
  | cons index rest ih => exact ih (by simp only [forgetPage, same])

theorem trace_forgetPages (config : Config) (indices : List Nat) (world : World) :
    (indices.foldl (forgetPage config) world).trace = world.trace := by
  induction indices generalizing world with
  | nil => rfl
  | cons index rest ih => exact ih _

private theorem gaveUp_all (indices : List Nat) (world : World) :
    ∃ final : World, ((∀ (world : World) (index : Nat), Invariant world →
        Invariant (erasePage (forgetPage config world index) index)) →
          Invariant world → Invariant final) ∧
      final.cacheManager = (indices.foldl (forgetPage config) world).cacheManager ∧
      final.trace = world.trace ∧ ∀ index, final.pageManager.pages.find? index =
        if index ∈ indices then none else world.pageManager.pages.find? index := by
  induction indices generalizing world with
  | nil => exact ⟨world, fun _ => id, rfl, rfl, fun _ => rfl⟩
  | cons index rest ih =>
      obtain ⟨final, keeps, cacheManager, trace, pages⟩ :=
        ih (erasePage (forgetPage config world index) index)
      refine ⟨final, fun gaveUp kept => keeps gaveUp (gaveUp _ index kept),
        cacheManager.trans (forgetPages_cacheManager config rest rfl), trace, fun other => ?_⟩
      rw [pages, erasePage, forgetPage, KeyMap.find?_erase]
      by_cases same : other = index
      · simp [same]
      · simp [same]

/-- The clean pages of `RemoteChanged`. -/
def cleanPages (pages : PageMap) : List Nat :=
  (pages.entries.filter fun entry => !entry.2.dirty).map Prod.fst

/-- `RemoteChanged` gives up the clean pages one by one. -/
theorem gaveUp_clean (world : World) :
    ∃ dropped : World, ((∀ (world : World) (index : Nat), Invariant world →
        Invariant (erasePage (forgetPage config world index) index)) →
          Invariant world → Invariant dropped) ∧
      dropped.cacheManager =
        ((cleanPages world.pageManager.pages).foldl (forgetPage config) world).cacheManager ∧
      dropped.trace = world.trace ∧ ∀ index, dropped.pageManager.pages.find? index =
        (world.pageManager.pages.filter fun _ page => page.dirty).find? index := by
  obtain ⟨dropped, keeps, cacheManager, trace, pages⟩ :=
    @gaveUp_all Invariant config (cleanPages world.pageManager.pages) world
  refine ⟨dropped, keeps, cacheManager, trace, fun index => ?_⟩
  rw [pages, KeyMap.find?_filter]
  cases found : world.pageManager.pages.find? index with
  | none => simp
  | some page =>
      have member := KeyMap.find?_eq_some_iff.mp found
      cases dirty : page.dirty with
      | true =>
          have absent : index ∉ cleanPages world.pageManager.pages := by
            intro included
            obtain ⟨⟨other, clean⟩, isClean, rfl⟩ := List.mem_map.mp included
            obtain ⟨there, notDirty⟩ := List.mem_filter.mp isClean
            have same := found.symm.trans (KeyMap.find?_eq_some_iff.mpr there)
            cases same
            simp [dirty] at notDirty
          simp [absent, Option.filter_some, dirty]
      | false =>
          have included : index ∈ cleanPages world.pageManager.pages :=
            List.mem_map.mpr ⟨(index, page), List.mem_filter.mpr ⟨member, by simp [dirty]⟩, rfl⟩
          simp [included, Option.filter_some, dirty]

private theorem keeps_remoteChanged (closed : Closed config Invariant) (outward : Outward Invariant)
    (backendSize : Nat) : Keeps Invariant (remoteChanged config backendSize) := by
  refine keeps_get_bind fun world kept => keeps_ite (fun _ => keeps_set ?_) fun _ => keeps_pure _
  obtain ⟨dropped, keeps, cacheManager, trace, pages⟩ := @gaveUp_clean Invariant config world
  refine outward dropped _ ⟨⟨cacheManager.symm, fun index => ?_⟩, [], ?_⟩
    (keeps (fun _ => closed.gaveUp) kept)
  · rw [pages]
  · rw [List.append_nil, trace, trace_forgetPages]

end PageManager

namespace File

private theorem keeps_writeBytesAt (closed : Closed config Invariant) (outward : Outward Invariant)
    (depth : Nat) (buffer : Bytes) (offset : Nat) :
    Keeps Invariant (writeBytesAt config env depth buffer offset) := by
  induction depth generalizing buffer offset with
  | zero => exact keeps_throw _
  | succ depth ih =>
      have through : Keeps Invariant (writeThrough config env buffer offset) :=
        keeps_get_bind fun _ _ => keeps_ite (fun _ => keeps_throw _) fun _ =>
          keeps_bind (keeps_writeFile outward _ _) fun _ =>
            PageManager.keeps_remoteChanged closed outward _
      have align : Keeps Invariant (fixPageAlignment config env buffer offset) :=
        keeps_get_bind fun _ _ => keeps_ite (fun _ => keeps_pure _) fun _ =>
          keeps_bind (keeps_writeFile outward _ _) fun _ =>
            keeps_bind (PageManager.keeps_remoteChanged closed outward _) fun _ => keeps_pure _
      have prepare : Keeps Invariant (prepareWrite config env buffer offset) := by
        refine keeps_get_bind fun world _ => ?_
        cases config.getWriteMode with
        | upload =>
            exact keeps_ite (fun _ => keeps_throw _) fun _ => keeps_ite (fun _ => keeps_throw _)
              fun _ => keeps_pure _
        | append =>
            exact keeps_ite (fun _ => keeps_ite (fun _ => keeps_throw _) fun _ => align)
              fun _ => keeps_pure _
        | random => exact keeps_pure _
      have hole (fuel start target : Nat) :
          Keeps Invariant (holeLoop config (writeBytesAt config env depth) target fuel start) := by
        induction fuel generalizing start with
        | zero => exact keeps_pure _
        | succ fuel inner =>
            exact keeps_ite (fun _ => keeps_pure _) fun _ => keeps_bind (ih _ _) fun _ => inner _
      refine keeps_ite (fun _ => keeps_throw _) fun _ => keeps_ite (fun _ => through)
        fun _ => keeps_bind prepare fun fromBuffer => keeps_when (fun _ => ?_) ?_
      · exact keeps_get_bind fun _ _ => keeps_ite (fun _ => hole _ _ _) fun _ => keeps_pure _
      · exact keeps_writeLoop closed (PageManager.flushKeeps_outward closed outward) _ _ _

end File

/-- Every operation keeps an invariant of the cache and of a growing log. -/
theorem keeps_run (closed : Closed config Invariant) (outward : Outward Invariant) (action : Op) :
    Keeps Invariant (action.run config env) := by
  have flush : FlushKeeps config env Invariant := PageManager.flushKeeps_outward closed outward
  cases action with
  | readBytes offset length => exact File.keeps_readBytes closed flush _ _
  | writeBytes buffer offset =>
      exact keeps_bind (File.keeps_writeBytesAt closed outward 2 _ _) fun _ => keeps_pure _
  | truncate newSize =>
      refine keeps_bind ?_ fun _ => keeps_pure _
      exact keeps_ite (fun _ => keeps_throw _) fun _ => keeps_ite (fun _ => keeps_throw _)
        fun _ => PageManager.keeps_truncate closed outward _
  | flushCache =>
      exact keeps_bind (PageManager.keeps_flushPages closed outward) fun _ => keeps_pure _
  | evictPage index =>
      exact keeps_bind (PageManager.keeps_evictPage closed flush _) fun _ => keeps_pure _
  | flushPage index =>
      exact keeps_bind (CacheManager.keeps_flushPage closed flush _) fun _ => keeps_pure _
  | fetchDone thread =>
      exact keeps_bind (PageManager.keeps_runFetch closed flush _) fun _ => keeps_pure _
  | remoteChanged backendSize =>
      exact keeps_bind (PageManager.keeps_remoteChanged closed outward _) fun _ => keeps_pure _
  | remoteWrite data =>
      exact keeps_bind (keeps_modify fun _ kept => outward.same kept rfl rfl rfl)
        fun _ => keeps_pure _
  | setUploadMaxBytes limit =>
      exact keeps_bind (keeps_modify fun _ kept => outward.same kept rfl rfl rfl)
        fun _ => keeps_pure _
  | otherManagers pageQueue dirtyQueue =>
      exact keeps_bind (keeps_modify fun _ kept => closed.otherManagers _ _ kept)
        fun _ => keeps_pure _

end

end Andromeda.FileData
