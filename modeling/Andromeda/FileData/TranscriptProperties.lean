import Andromeda.FileData.AtomicityProperties
import Andromeda.FileData.FlushDurability
import Andromeda.FileData.ShapeProperties
import Andromeda.Library.Queries

/-! What a run asks of its environment: one question for each call counted. A run is the same
where only what it asked can throw, so the conditions on throws concern the throws it met. -/

set_option autoImplicit false

namespace Andromeda.FileData

open Andromeda.Library

/-- The same environment with other throws. -/
def Env.throwing (env : Env) (fault : World → Call → Bool) : Env := { env with fault }

/-- The calls counted so far. -/
def World.calls (world : World) : Nat := world.trace.calls

/-- A computation that asks the environment once for each call it counts. -/
abbrev AsksCalls {α : Type} (computation : (World → Call → Bool) → Exec α) : Prop :=
  Asks World.calls computation

section

variable {config : Config} {env : Env}

private theorem asks_logError (check : ErrorCheck) : AsksCalls fun _ => logError check :=
  asks_modify fun _ => rfl

private theorem transcript_call {α : Type} {computation : (World → Call → Bool) → Exec α}
    {world : World}
    {call : Call} {fault : World → Call → Bool}
    (ended : Outcome (computation fault) world (fun _ final => final.calls = world.calls + 1)
      (fun _ final => final.calls = world.calls + 1))
    (decides : ∀ other : World → Call → Bool, other world call = fault world call →
      computation other world = computation fault world) :
    Transcript World.calls computation fault world [(world, call)] where
  ticks := rfl
  ended := ended
  decides other agree := decides other (agree _ List.mem_cons_self)

private theorem asks_tryCall (call : Call) (exception : Exception) :
    AsksCalls fun fault => tryCall (env.throwing fault) call exception := by
  refine fun world fault => ⟨[(world, call)], transcript_call ?_ fun other same => ?_⟩
  · simp only [tryCall, Outcome.bind_iff, Outcome.get_iff, Outcome.set_iff, Outcome.ite_iff,
      Outcome.throw_iff, Outcome.pure_iff]
    exact ⟨fun _ => rfl, fun _ => rfl⟩
  · simp only [tryCall, bind, EStateM.bind, run_get, run_set, Env.throwing, same]
    rfl

namespace Backend

private theorem asks_readFile (offset length : Nat) :
    AsksCalls fun fault => readFile (env.throwing fault) offset length := by
  refine fun world fault => ⟨[(world, .readFile offset length)],
    transcript_call ?_ fun other same => ?_⟩
  · simp only [readFile, Outcome.bind_iff, Outcome.get_iff, Outcome.set_iff, Outcome.ite_iff,
      Outcome.pure_iff]
    exact ⟨fun _ => rfl, fun _ => rfl⟩
  · simp only [readFile, bind, EStateM.bind, run_get, run_set, Env.throwing, same]
    rfl

private theorem asks_createFile : AsksCalls fun fault => createFile (env.throwing fault) :=
  asks_bind (asks_tryCall _ _) fun _ => asks_modify fun _ => rfl

private theorem asks_uploadLimit : AsksCalls fun _ => (modify fun world => { world with
    uploadMaxBytes := env.uploadLimit world } : Exec Unit) :=
  asks_modify fun _ => rfl

private theorem asks_uploadFile (data : Bytes) :
    AsksCalls fun fault => uploadFile (env.throwing fault) data :=
  asks_bind asks_uploadLimit fun _ => asks_bind (asks_tryCall _ _) fun _ =>
    asks_modify fun _ => rfl

private theorem asks_writeFile (offset : Nat) (data : Bytes) :
    AsksCalls fun fault => writeFile (env.throwing fault) offset data :=
  asks_bind asks_uploadLimit fun _ => asks_bind (asks_tryCall _ _) fun _ =>
    asks_modify fun _ => rfl

private theorem asks_truncateFile (size : Nat) :
    AsksCalls fun fault => truncateFile (env.throwing fault) size :=
  asks_bind (asks_tryCall _ _) fun _ => asks_modify fun _ => rfl

end Backend

namespace PageBackend

private theorem asks_fetchPages (index count : Nat) :
    AsksCalls fun fault => fetchPages config (env.throwing fault) index count := by
  refine asks_get_bind fun world => asks_when (asks_logError _) (asks_ite ?_ ?_)
  · exact asks_bind (asks_logError _) fun _ => asks_pure _
  · exact asks_bind (Backend.asks_readFile _ _) fun _ => asks_pure _

private theorem asks_flushCreate : AsksCalls fun fault => flushCreate (env.throwing fault) := by
  refine asks_get_bind fun world => asks_ite (asks_pure _) ?_
  exact asks_bind Backend.asks_createFile fun _ => asks_modify fun _ => rfl

private theorem asks_truncate (newSize : Nat) :
    AsksCalls fun fault => truncate (env.throwing fault) newSize := by
  refine asks_get_bind fun world => asks_ite ?_ (asks_pure _)
  exact asks_bind (Backend.asks_truncateFile _) fun _ => asks_modify fun _ => rfl

private theorem asks_checkWriteMode (writeStart : Nat) :
    AsksCalls fun _ => checkWriteMode config writeStart :=
  asks_get_bind fun _ => asks_ite (asks_logError _) (asks_ite (asks_logError _) (asks_pure _))

private theorem asks_createFirst (index : Nat) :
    AsksCalls fun fault => createFirst config (env.throwing fault) index :=
  asks_get_bind fun _ => asks_ite (asks_when (asks_logError _) asks_flushCreate) (asks_pure _)

private theorem asks_sendPages (writeStart : Nat) (pages : List Page) :
    AsksCalls fun fault => sendPages config (env.throwing fault) writeStart pages := by
  refine asks_get_bind fun _ => asks_ite (Backend.asks_writeFile _ _) ?_
  exact asks_bind (Backend.asks_uploadFile _) fun _ => asks_modify fun _ => rfl

private theorem asks_flushPageList (index : Nat) (indices : List Nat) :
    AsksCalls fun fault => flushPageList config (env.throwing fault) index indices := by
  refine asks_ite (asks_bind (asks_logError _) fun _ => asks_pure _) (asks_get_bind fun world => ?_)
  refine asks_bind (asks_checkWriteMode _) fun _ => asks_bind (asks_createFirst _) fun _ =>
    asks_bind (asks_sendPages _ _) fun _ => asks_bind (asks_modify fun _ => rfl) fun _ =>
      asks_pure _

end PageBackend

namespace PageManager

private theorem asks_flushCreate : AsksCalls fun fault => flushCreate config (env.throwing fault) :=
  asks_bind PageBackend.asks_flushCreate fun _ => asks_get_bind fun _ =>
    asks_ite (PageBackend.asks_truncate _) (asks_pure _)

private theorem calls_cleanPages (indices : List Nat) (world : World) :
    (indices.foldl (cleanPage config) world).calls = world.calls := by
  induction indices generalizing world with
  | nil => rfl
  | cons index rest ih => exact ih _

private theorem asks_flushPageList (index : Nat) (indices : List Nat) :
    AsksCalls fun fault => flushPageList config (env.throwing fault) index indices := by
  have finish (mustCreate : Bool) (totalSize : Nat) : AsksCalls fun fault => (do
      modify fun world => indices.foldl (cleanPage config) world
      if mustCreate then flushCreate config (env.throwing fault)
      return totalSize : Exec Nat) :=
    asks_bind (asks_modify (calls_cleanPages indices)) fun _ =>
      asks_when asks_flushCreate (asks_pure _)
  refine asks_get_bind fun world => asks_ite ?_ ?_
  · exact asks_bind (asks_pure _) fun _ => finish _ _
  · exact asks_bind (PageBackend.asks_flushPageList _ _) fun _ => finish _ _

private theorem asks_evictPage (index : Nat) :
    AsksCalls fun fault => evictPage config (env.throwing fault) index := by
  refine asks_get_bind fun world => ?_
  cases world.pageManager.pages.find? index with
  | none => exact asks_pure _
  | some page =>
      have leave : AsksCalls fun _ => (do
          modify fun world => forgetPage config world index
          if !page.dirty ∨ config.randWrite then modify fun world => erasePage world index
          else modify fun world => { world with pageManager := { world.pageManager with
            deferredEvicts := world.pageManager.deferredEvicts ++ [index] } } : Exec Unit) :=
        asks_bind (asks_modify fun _ => rfl) fun _ =>
          asks_ite (asks_modify fun _ => rfl) (asks_modify fun _ => rfl)
      exact asks_ite (asks_bind (asks_flushPageList _ _) fun _ => leave) leave

private theorem asks_flushPage (index : Nat) :
    AsksCalls fun fault => flushPage config (env.throwing fault) index := by
  refine asks_get_bind fun world => ?_
  cases world.pageManager.pages.find? index with
  | none => exact asks_pure _
  | some page =>
      refine asks_ite ?_ (asks_flushPageList _ _)
      exact asks_when (asks_modify fun _ => rfl) (asks_pure _)

end PageManager

namespace CacheManager

private theorem asks_flushPage (index : Nat) :
    AsksCalls fun fault => flushPage config (env.throwing fault) index := by
  have limit : AsksCalls fun _ => (modify fun world => { world with
      cacheManager := { world.cacheManager with dirtyLimit := env.dirtyLimit world } } : Exec Unit) :=
    asks_modify fun _ => rfl
  exact asks_bind (PageManager.asks_flushPage _) fun _ => limit

private theorem asks_evictLoop (index fuel : Nat) :
    AsksCalls fun fault => evictLoop config (env.throwing fault) index fuel := by
  induction fuel with
  | zero => exact asks_throw _
  | succ fuel ih =>
      refine asks_get_bind fun world => ?_
      cases evictPick config index world.cacheManager with
      | none => exact asks_pure _
      | some picked => exact asks_bind (PageManager.asks_evictPage _) fun _ => ih

private theorem asks_flushLoop (index fuel : Nat) :
    AsksCalls fun fault => flushLoop config (env.throwing fault) index fuel := by
  induction fuel with
  | zero => exact asks_throw _
  | succ fuel ih =>
      refine asks_get_bind fun world => ?_
      cases flushPick index world.cacheManager with
      | none => exact asks_pure _
      | some picked => exact asks_bind (asks_flushPage _) fun _ => ih

private theorem asks_awaitWhile (exceeded : CacheManager → Bool) (canWait : Bool) :
    AsksCalls fun fault => awaitWhile config (env.throwing fault) exceeded canWait := by
  have others : AsksCalls fun _ => (modify fun world => { world with
      cacheManager := world.cacheManager.otherManagers (env.waited world).1 (env.waited world).2 } :
        Exec Unit) := asks_modify fun _ => rfl
  exact asks_get_bind fun _ => asks_ite (asks_bind others fun _ => asks_tryCall _ _) (asks_pure _)

private theorem asks_handleMemory (index : Nat) (canWait mgrLock : Bool) :
    AsksCalls fun fault => handleMemory config (env.throwing fault) index canWait mgrLock :=
  asks_ite (asks_get_bind fun _ => asks_bind (asks_evictLoop _ _) fun _ => asks_awaitWhile _ _)
    (asks_awaitWhile _ _)

private theorem asks_handleDirtyMemory (index : Nat) (canWait mgrLock : Bool) :
    AsksCalls fun fault => handleDirtyMemory config (env.throwing fault) index canWait mgrLock :=
  asks_ite (asks_get_bind fun _ => asks_bind (asks_flushLoop _ _) fun _ => asks_awaitWhile _ _)
    (asks_awaitWhile _ _)

private theorem asks_informPage (index : Nat) (dirty canWait mgrLock : Bool) :
    AsksCalls fun fault => informPage config (env.throwing fault) index dirty canWait mgrLock := by
  refine fun world => asksFrom_get_bind ?_
  cases world.pageManager.pages.find? index with
  | none => exact asks_pure _ world
  | some page =>
      refine asksFrom_bind (asksFrom_set rfl) fun _ => asks_ite ?_ (asks_pure _)
      exact asks_bind (asks_handleMemory _ _ _) fun _ =>
        asks_ite (asks_handleDirtyMemory _ _ _) (asks_pure _)

private theorem asks_resizeIn {queue : CacheManager → List PageInfo}
    {resizeEntry : CacheManager → Nat → Nat → Nat → CacheManager}
    {enforce : (World → Call → Bool) → Nat → Bool → Bool → Exec Unit}
    (asks : ∀ index canWait mgrLock, AsksCalls fun fault => enforce fault index canWait mgrLock)
    (index newSize : Nat) :
    AsksCalls fun fault => resizeIn queue resizeEntry (enforce fault) index newSize := by
  refine asks_get_bind fun world => ?_
  cases lookup (queue world.cacheManager) ownManager index with
  | none => exact asks_pure _
  | some info =>
      refine asks_bind (asks_modify fun _ => rfl) fun _ => ?_
      exact asks_ite (asks _ _ _) (asks_pure _)

private theorem asks_resizePage (index : Nat) :
    AsksCalls fun fault => resizePage config (env.throwing fault) index := by
  refine asks_get_bind fun world => ?_
  cases world.pageManager.pages.find? index with
  | none => exact asks_pure _
  | some page =>
      exact asks_bind (asks_resizeIn asks_handleMemory _ _) fun _ =>
        asks_resizeIn asks_handleDirtyMemory _ _

end CacheManager

namespace PageManager

private theorem asks_onThrow {computation undo : (World → Call → Bool) → Exec Unit}
    (first : AsksCalls computation) (rest : AsksCalls undo) :
    AsksCalls fun fault => onThrow (computation fault) (undo fault) :=
  asks_tryCatch first fun _ => asks_when rest (asks_throw _)

private theorem asks_resizePage (index pageSize : Nat) (cacheMgr : Bool) :
    AsksCalls fun fault => resizePage config (env.throwing fault) index pageSize cacheMgr := by
  refine asks_get_bind fun world => ?_
  cases world.pageManager.pages.find? index with
  | none => exact asks_pure _
  | some page =>
      refine asks_ite (asks_pure _) (asks_bind (asks_modify fun _ => rfl) fun _ =>
        asks_ite ?_ (asks_pure _))
      exact asks_onThrow (CacheManager.asks_resizePage index)
        (asks_bind (asks_modify fun _ => rfl) fun _ => CacheManager.asks_resizePage index)

private theorem asks_informNewPageRead (index : Nat) (dirty canWait : Bool) :
    AsksCalls fun fault => informNewPageRead config (env.throwing fault) index dirty canWait :=
  asks_ite (asks_onThrow (CacheManager.asks_informPage _ _ _ _) (asks_modify fun _ => rfl))
    (asks_pure _)

private theorem asks_informNewPageWrite (index : Nat) (dirty : Bool) :
    AsksCalls fun fault => informNewPageWrite config (env.throwing fault) index dirty :=
  asks_ite (asks_onThrow (CacheManager.asks_informPage _ _ _ _) (asks_modify fun _ => rfl))
    (asks_pure _)

private theorem asks_informResizePage (index : Nat) (dirty : Bool) (pageSize : Nat) :
    AsksCalls fun fault => informResizePage config (env.throwing fault) index dirty pageSize := by
  refine asks_get_bind fun world => ?_
  cases world.pageManager.pages.find? index with
  | none => exact asks_pure _
  | some page =>
      refine asks_bind (asks_resizePage _ _ _) fun _ => asks_ite ?_ (asks_pure _)
      exact asks_onThrow (CacheManager.asks_informPage _ _ _ _)
        (asks_bind (asks_resizePage _ _ _) fun _ => CacheManager.asks_resizePage _)

private theorem asks_newPageWrite (index pageSize : Nat) :
    AsksCalls fun fault => newPageWrite config (env.throwing fault) index pageSize := by
  refine asks_bind ?_ fun _ => asks_bind (asks_modify fun _ => rfl) fun _ =>
    asks_informNewPageWrite _ _
  exact asks_get_bind fun _ => asks_ite (asks_resizePage _ _ _) (asks_pure _)

private theorem asks_fetchPageWrite (index pageSize : Nat) :
    AsksCalls fun fault => fetchPageWrite config (env.throwing fault) index pageSize :=
  asks_bind (PageBackend.asks_fetchPages _ _) fun _ =>
    asks_bind (asks_forM fun _ => asks_modify fun _ => rfl) fun _ =>
      asks_when (asks_throw _) (asks_bind (asks_resizePage _ _ _) fun _ =>
        asks_informNewPageWrite _ _)

private theorem asks_getPageWrite (index pageSize : Nat) (isPartial : Bool) :
    AsksCalls fun fault => getPageWrite config (env.throwing fault) index pageSize isPartial := by
  refine asks_get_bind fun world => ?_
  cases world.pageManager.pages.find? index with
  | some page => exact asks_informResizePage _ _ _
  | none => exact asks_ite (asks_newPageWrite _ _) (asks_fetchPageWrite _ _)

private theorem asks_writePage (buffer : Bytes) (index offset : Nat) :
    AsksCalls fun fault => writePage config (env.throwing fault) buffer index offset :=
  asks_get_bind fun _ => asks_bind (asks_getPageWrite _ _ _) fun _ =>
    asks_bind (asks_modify fun _ => rfl) fun _ => asks_modify fun _ => rfl

private theorem asks_truncateLoop (newSize fuel next : Nat) :
    AsksCalls fun fault => truncateLoop config (env.throwing fault) newSize fuel next := by
  induction fuel generalizing next with
  | zero => exact asks_pure _
  | succ fuel ih =>
      refine asks_get_bind fun world => ?_
      cases (world.pageManager.pages.entriesFrom next).head? with
      | none => exact asks_pure _
      | some entry =>
          have resize (pageSize : Nat) : AsksCalls fun fault => (do
              resizePage config (env.throwing fault) entry.1 pageSize true
              truncateLoop config (env.throwing fault) newSize fuel (entry.1 + 1)) :=
            asks_bind (asks_resizePage _ _ _) fun _ => ih _
          refine asks_ite (asks_bind (asks_modify fun _ => rfl) fun _ => ih _) ?_
          exact asks_ite (resize _) (asks_ite (resize _) (ih _))

private theorem asks_truncate (newSize : Nat) :
    AsksCalls fun fault => truncate config (env.throwing fault) newSize :=
  asks_bind (PageBackend.asks_truncate _) fun _ => asks_bind (asks_modify fun _ => rfl) fun _ =>
    asks_get_bind fun _ => asks_truncateLoop _ _ _

private theorem asks_flushRuns (runs : List (List (Nat × Page))) :
    AsksCalls fun fault => flushRuns config (env.throwing fault) runs :=
  asks_ite (asks_bind (asks_flushPageList _ _) fun _ => asks_pure _)
    (asks_forM fun _ => asks_bind (asks_flushPageList _ _) fun _ => asks_pure _)

private theorem asks_evictDeferred :
    AsksCalls fun fault => evictDeferred config (env.throwing fault) :=
  asks_get_bind fun _ => asks_bind (asks_forM fun _ => asks_evictPage _) fun _ =>
    asks_get_bind fun _ => asks_when (asks_throw _) (asks_modify fun _ => rfl)

private theorem asks_flushPages : AsksCalls fun fault => flushPages config (env.throwing fault) :=
  asks_get_bind fun _ => asks_bind (asks_flushRuns _) fun _ => asks_evictDeferred

private theorem calls_forgetPages (indices : List Nat) (world : World) :
    (indices.foldl (forgetPage config) world).calls = world.calls := by
  unfold World.calls
  rw [trace_forgetPages]

private theorem asks_remoteChanged (backendSize : Nat) :
    AsksCalls fun _ => remoteChanged config backendSize := by
  refine fun world => asksFrom_get_bind ?_
  split
  · exact asksFrom_set (calls_forgetPages _ world)
  · exact asks_pure _ world

private theorem asks_getFetchSize (index : Nat) : AsksCalls fun _ => getFetchSize config index :=
  asks_get_bind fun _ => asks_ite (asks_bind (asks_logError _) fun _ => asks_pure _) (asks_pure _)

private theorem asks_startFetch (index readCount : Nat) :
    AsksCalls fun _ => (modify fun world => startFetch world index readCount : Exec Unit) :=
  asks_modify fun _ => rfl

private theorem asks_advanceReadLoop (remaining nextIdx : Nat) :
    AsksCalls fun _ => advanceReadLoop config remaining nextIdx := by
  induction remaining generalizing nextIdx with
  | zero => exact asks_pure _
  | succ remaining ih =>
      exact asks_get_bind fun _ => asks_ite (asks_pure _) (asks_bind (asks_getFetchSize _) fun _ =>
        asks_ite (asks_startFetch _ _) (ih _))

private theorem asks_doAdvanceRead (index : Nat) : AsksCalls fun _ => doAdvanceRead config index :=
  asks_ite (asks_pure _) (asks_advanceReadLoop _ _)

private theorem asks_removePendingFetch (index : Nat) (idxOnly : Bool) :
    AsksCalls fun _ => removePendingFetch index idxOnly := by
  refine fun world => asksFrom_get_bind ?_
  cases removePending index idxOnly world.pageManager.pendingPages with
  | none => exact asks_logError _ world
  | some pendingPages => exact asksFrom_set rfl

private theorem asks_handleFetched (index : Nat) (read : Nat × Bytes) :
    AsksCalls fun fault => handleFetched config (env.throwing fault) index read :=
  asks_get_bind fun _ => asks_bind (asks_modify fun _ => rfl) fun _ =>
    asks_bind (asks_informNewPageRead _ _ _) fun _ => asks_removePendingFetch _ _

private theorem asks_fetchFailed (curIndex last : Nat) :
    AsksCalls fun _ => fetchFailed curIndex last :=
  asks_bind (asks_modify fun _ => rfl) fun _ => asks_ite (asks_removePendingFetch _ _) (asks_pure _)

private theorem asks_fetchPages (index count : Nat) :
    AsksCalls fun fault => fetchPages config (env.throwing fault) index count := by
  have target : AsksCalls fun _ => (modify fun world => { world with
      pageManager := { world.pageManager with
        fetchSize := max 1 (env.fetchTarget world) } } : Exec Unit) := asks_modify fun _ => rfl
  exact asks_bind (PageBackend.asks_fetchPages _ _) fun _ =>
    asks_bind (asks_forM fun _ => asks_handleFetched _ _) fun _ =>
      asks_ite (asks_fetchFailed _ _) target

private theorem asks_runFetch (thread : Nat) :
    AsksCalls fun fault => runFetch config (env.throwing fault) thread := by
  refine fun world => asksFrom_get_bind ?_
  cases world.fetchThreads[thread]? with
  | none => exact asks_pure _ world
  | some range => exact asksFrom_bind (asksFrom_set rfl) fun _ => asks_fetchPages _ _

private theorem asks_awaitPage (index fuel : Nat) :
    AsksCalls fun fault => awaitPage config (env.throwing fault) index fuel := by
  induction fuel with
  | zero => exact asks_throw _
  | succ fuel ih =>
      refine asks_get_bind fun world => asks_ite (asks_pure _) (asks_ite (asks_throw _)
        (asks_ite (asks_throw _) ?_))
      exact asks_bind (asks_runFetch (env.nextFetch world % world.fetchThreads.length)) fun _ => ih

private theorem asks_informRead (index : Nat) :
    AsksCalls fun fault => informRead config (env.throwing fault) index := by
  refine asks_get_bind fun world => ?_
  cases world.pageManager.pages.find? index with
  | none => exact asks_pure _
  | some page => exact asks_ite (CacheManager.asks_informPage _ _ _ _) (asks_pure _)

private theorem asks_getPageRead (index : Nat) :
    AsksCalls fun fault => getPageRead config (env.throwing fault) index := by
  refine asks_get_bind fun world => asks_when (asks_logError _) (asks_ite ?_ ?_)
  · exact asks_bind (asks_doAdvanceRead _) fun _ => asks_informRead _
  · have wait : AsksCalls fun fault => (do
        awaitPage config (env.throwing fault) index ((← get).fetchThreads.length + 1)
        informRead config (env.throwing fault) index) :=
      asks_get_bind fun _ => asks_bind (asks_awaitPage _ _) fun _ => asks_informRead _
    refine asks_ite wait (asks_bind (asks_map _ (asks_getFetchSize _)) fun fetchSize =>
      asks_ite ?_ ?_)
    · exact asks_bind (asks_modify fun _ => rfl) fun _ => asks_informNewPageRead _ _ _
    · cases fetchSize with
      | none => exact wait
      | some readCount => exact asks_bind (asks_startFetch _ _) fun _ => wait

private theorem asks_readPage (index offset length : Nat) :
    AsksCalls fun fault => readPage config (env.throwing fault) index offset length := by
  refine asks_get_bind fun world => asks_when (asks_logError _)
    (asks_bind (asks_getPageRead _) fun _ => asks_get_bind fun world => ?_)
  cases world.pageManager.pages.find? index with
  | none => exact asks_pure _
  | some page => exact asks_pure _

end PageManager

namespace File

private theorem asks_readLoop (fuel byte length : Nat) :
    AsksCalls fun fault => readLoop config (env.throwing fault) fuel byte length := by
  induction fuel generalizing byte length with
  | zero => exact asks_pure _
  | succ fuel ih =>
      cases length with
      | zero => exact asks_pure _
      | succ length =>
          exact asks_bind (PageManager.asks_readPage _ _ _) fun _ =>
            asks_bind (ih _ _) fun _ => asks_pure _

private theorem asks_readBytes (offset length : Nat) :
    AsksCalls fun fault => readBytes config (env.throwing fault) offset length := by
  refine asks_get_bind fun world => asks_ite (asks_throw _)
    (asks_ite (asks_ite ?_ ?_) (asks_readLoop _ _ _))
  · exact asks_bind (asks_logError _) fun _ => asks_pure _
  · exact asks_bind (Backend.asks_readFile _ _) fun _ => asks_when (asks_throw _) (asks_pure _)

private theorem asks_writeLoop (fuel byte : Nat) (buffer : Bytes) :
    AsksCalls fun fault => writeLoop config (env.throwing fault) fuel byte buffer := by
  induction fuel generalizing byte buffer with
  | zero => exact asks_pure _
  | succ fuel ih =>
      cases buffer with
      | nil => exact asks_pure _
      | cons head tail => exact asks_bind (PageManager.asks_writePage _ _ _) fun _ => ih _ _

private theorem asks_writeThrough (buffer : Bytes) (offset : Nat) :
    AsksCalls fun fault => writeThrough config (env.throwing fault) buffer offset :=
  asks_get_bind fun _ => asks_ite (asks_throw _) (asks_bind (Backend.asks_writeFile _ _) fun _ =>
    PageManager.asks_remoteChanged _)

private theorem asks_prepareWrite (buffer : Bytes) (offset : Nat) :
    AsksCalls fun fault => prepareWrite config (env.throwing fault) buffer offset := by
  have align : AsksCalls fun fault => fixPageAlignment config (env.throwing fault) buffer offset :=
    asks_get_bind fun _ => asks_ite (asks_pure _) (asks_bind (Backend.asks_writeFile _ _) fun _ =>
      asks_bind (PageManager.asks_remoteChanged _) fun _ => asks_pure _)
  refine asks_get_bind fun world => ?_
  cases config.getWriteMode with
  | upload => exact asks_ite (asks_throw _) (asks_ite (asks_throw _) (asks_pure _))
  | append => exact asks_ite (asks_ite (asks_throw _) align) (asks_pure _)
  | random => exact asks_pure _

private theorem asks_fillWriteHole {write : (World → Call → Bool) → Bytes → Nat → Exec Unit}
    (asks : ∀ buffer offset, AsksCalls fun fault => write fault buffer offset) (offset : Nat) :
    AsksCalls fun fault => fillWriteHole config (write fault) offset := by
  have loop (fuel holeOffset : Nat) :
      AsksCalls fun fault => holeLoop config (write fault) offset fuel holeOffset := by
    induction fuel generalizing holeOffset with
    | zero => exact asks_pure _
    | succ fuel ih => exact asks_ite (asks_pure _) (asks_bind (asks _ _) fun _ => ih _)
  exact asks_get_bind fun _ => asks_ite (loop _ _) (asks_pure _)

private theorem asks_writeBytesAt (depth : Nat) (buffer : Bytes) (offset : Nat) :
    AsksCalls fun fault => writeBytesAt config (env.throwing fault) depth buffer offset := by
  induction depth generalizing buffer offset with
  | zero => exact asks_throw _
  | succ depth ih =>
      refine asks_ite (asks_throw _) (asks_ite (asks_writeThrough _ _) ?_)
      exact asks_bind (asks_prepareWrite _ _) fun _ =>
        asks_when (asks_fillWriteHole ih _) (asks_writeLoop _ _ _)

private theorem asks_truncate (newSize : Nat) :
    AsksCalls fun fault => truncate config (env.throwing fault) newSize :=
  asks_ite (asks_throw _) (asks_ite (asks_throw _) (PageManager.asks_truncate _))

end File

private theorem Op.asks_run (action : Op) :
    AsksCalls fun fault => action.run config (env.throwing fault) := by
  have done {computation : (World → Call → Bool) → Exec Unit} (asks : AsksCalls computation) :
      AsksCalls fun fault => (do computation fault; return [] : Exec Bytes) :=
    asks_bind asks fun _ => asks_pure _
  cases action with
  | readBytes offset length => exact File.asks_readBytes offset length
  | writeBytes buffer offset => exact done (File.asks_writeBytesAt 2 buffer offset)
  | truncate newSize => exact done (File.asks_truncate newSize)
  | flushCache => exact done PageManager.asks_flushPages
  | evictPage index => exact done (PageManager.asks_evictPage index)
  | flushPage index => exact done (CacheManager.asks_flushPage index)
  | fetchDone thread => exact done (PageManager.asks_runFetch thread)
  | remoteChanged backendSize => exact done (PageManager.asks_remoteChanged backendSize)
  | remoteWrite data => exact done (asks_modify fun _ => rfl)
  | setUploadMaxBytes limit => exact done (asks_modify fun _ => rfl)
  | otherManagers pageQueue dirtyQueue => exact done (asks_modify fun _ => rfl)

private theorem PageCall.asks_run (call : PageCall) :
    AsksCalls fun fault => call.run config (env.throwing fault) := by
  have done {computation : (World → Call → Bool) → Exec Unit} (asks : AsksCalls computation) :
      AsksCalls fun fault => (do computation fault; return [] : Exec Bytes) :=
    asks_bind asks fun _ => asks_pure _
  cases call with
  | readPage index offset length => exact PageManager.asks_readPage index offset length
  | writePage buffer index offset => exact done (PageManager.asks_writePage buffer index offset)
  | truncate newSize => exact done (PageManager.asks_truncate newSize)
  | flushPages => exact done PageManager.asks_flushPages
  | flushPage index => exact done (CacheManager.asks_flushPage index)
  | evictPage index => exact done (PageManager.asks_evictPage index)
  | fetchDone thread => exact done (PageManager.asks_runFetch thread)
  | remoteChanged data =>
      exact asks_bind (asks_modify fun _ => rfl) fun _ =>
        done (PageManager.asks_remoteChanged data.length)
  | setUploadMaxBytes limit => exact done (asks_modify fun _ => rfl)
  | otherManagers pageQueue dirtyQueue => exact done (asks_modify fun _ => rfl)

/-! The throws a run met are those among what it asked. -/

/-- The environment that throws only where it was asked. -/
def Env.met (env : Env) (asked : List (World × Call)) : Env :=
  env.throwing (onlyAsked env.fault asked)

private theorem Env.met_fault {asked : List (World × Call)} {world : World} {call : Call} :
    (env.met asked).fault world call = true ↔
      (world, call) ∈ asked ∧ env.fault world call = true :=
  onlyAsked_eq_true

theorem settledFaults_met {asked : List (World × Call)} :
    SettledFaults config (env.met asked) ↔ ∀ query ∈ asked,
      env.fault query.1 query.2 = true → Settled config query.1 := by
  simp only [SettledFaults, Env.met_fault, Prod.forall, and_imp]

private theorem readShort_met {asked : List (World × Call)} {world : World} {call : Call} :
    ReadShort config (env.met asked) world call ↔ ReadShort config env world call := by
  cases call <;> exact Iff.rfl

theorem guarded_met {asked : List (World × Call)} :
    Guarded config (env.met asked) ↔ ∀ query ∈ asked, env.fault query.1 query.2 = true →
      ¬ Stretched config query.1 ∧ ¬ ReadShort config env query.1 query.2 := by
  simp only [Guarded, Env.met_fault, readShort_met, Prod.forall, and_imp]

theorem steady_met {asked : List (World × Call)} {world : World} :
    Steady (env.met asked) world ↔ ∀ query ∈ asked, env.fault query.1 query.2 = true →
      query.1.pageManager.fileSize = world.pageManager.fileSize := by
  simp only [Steady, Env.met_fault, Prod.forall, and_imp]

/-- What the run of an operation asks. -/
def Op.Asked (config : Config) (world : World) (action : Op × Env) (asked : List (World × Call)) :
    Prop :=
  Transcript World.calls (fun fault => action.1.run config (action.2.throwing fault))
    action.2.fault world asked

private theorem Op.exists_asked (config : Config) (world : World) (action : Op × Env) :
    ∃ asked, Op.Asked config world action asked :=
  Op.asks_run action.1 world action.2.fault

private theorem Op.Asked.run_met {world : World} {action : Op × Env} {asked : List (World × Call)}
    (transcript : Op.Asked config world action asked) :
    action.1.run config (action.2.met asked) world = action.1.run config action.2 world :=
  Transcript.onlyAsked transcript

/-- A condition on a step that only looks at the throws that its run met. -/
def Op.Met (config : Config) (Condition : World → Op × Env → Prop) (world : World)
    (action : Op × Env) : Prop :=
  ∃ asked, Op.Asked config world action asked ∧ Condition world (action.1, action.2.met asked)

private theorem session_met_preserves {Condition : World → Op × Env → Prop}
    {Invariant : World → Prop}
    (keep : ∀ world action, Condition world action → Invariant world →
      Invariant (step config world action)) {world : World} {actions : List (Op × Env)}
    (start : Invariant world) (each : EachStep config (Op.Met config Condition) world actions) :
    Invariant (session config world actions) := by
  refine session_preserves (fun world action => ?_) start each
  rintro ⟨asked, transcript, condition⟩ kept
  have met := keep world _ condition kept
  rw [step, transcript.run_met] at met
  exact met

/-- A flush that returns has stored the file if every throw met before it was recoverable. -/
theorem storedWhole_of_met (notAppend : config.getWriteMode ≠ .append) {start flushed : World}
    (initial : Initial config start) {actions : List (Op × Env)}
    (recoverable : EachStep config (Op.Met config (RecoverableStep config)) start actions)
    (returned : PageManager.flushPages config env (session config start actions) =
      .ok () flushed) : StoredWhole config flushed := by
  have durable : Durable config (session config start actions) :=
    session_met_preserves (fun _ action => durable_step notAppend action) (.initial initial)
      recoverable
  exact durable.storedWhole returned

/-- The pages have their sizes in a session if no throw met in it left a write half done. -/
theorem represented_of_met {start : World} {actions : List (Op × Env)}
    (initial : Initial config start)
    (keeps : EachStep config (Op.Met config (KeepsSizes config)) start actions) :
    Represented config (session config start actions) :=
  (session_met_preserves (fun _ => shapely_step) (Shapely.initial initial) keeps).sound.represented

namespace PageCall

/-- What a call of the page manager asks. -/
def Asked (config : Config) (world : World) (call : PageCall × Env)
    (asked : List (World × Call)) : Prop :=
  Transcript World.calls (fun fault => call.1.run config (call.2.throwing fault)) call.2.fault
    world asked

private theorem exists_asked (config : Config) (world : World) (call : PageCall × Env) :
    ∃ asked, Asked config world call asked :=
  asks_run call.1 world call.2.fault

private theorem Asked.run_met {world : World} {call : PageCall × Env} {asked : List (World × Call)}
    (transcript : Asked config world call asked) :
    call.1.run config (call.2.met asked) world = call.1.run config call.2 world :=
  Transcript.onlyAsked transcript

/-- What each step of a run has to meet, of the throws that it met. -/
def MetMeets (config : Config) (world : World) (call : PageCall × Env) : Prop :=
  ∃ asked, Asked config world call asked ∧ Meets config world (call.1, call.2.met asked)

private theorem step_intact_of_met {world : World} {call : PageCall × Env}
    (meets : MetMeets config world call) (intact : Intact config world) :
    Intact config (step config world call) := by
  obtain ⟨asked, transcript, condition⟩ := meets
  have met := step_intact condition intact
  rw [step, transcript.run_met] at met
  exact met

/-- A `WritePage` or a `Truncate` that throws has changed nothing, if no throw met in the run
left a write half done. -/
theorem unchanged_of_met {start after : World} {exception : Exception}
    {calls : List (PageCall × Env)} {call : PageCall} (initial : Initial config start)
    (each : Library.EachStep (step config) (MetMeets config) start (calls ++ [(call, env)]))
    (writes : call.isWrite = true)
    (threw : call.run config env (session config start calls) = .error exception after) :
    Unchanged config (session config start calls) after := by
  obtain ⟨before, ⟨asked, transcript, permitted, whole⟩, _⟩ :=
    Library.EachStep.append_iff.mp each
  have intact : Intact config (session config start calls) :=
    Library.run_preserves (fun _ _ => step_intact_of_met) (.initial initial) before
  exact (call_spec call intact permitted whole).unchanged writes (transcript.run_met.trans threw)

end PageCall

end

end Andromeda.FileData
