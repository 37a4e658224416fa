import Andromeda.FileData.State

/-! The page backend: page reads, page list writes, creation and truncation, over
a backend that stores one byte array. -/

set_option autoImplicit false

namespace Andromeda.FileData

open Andromeda.Library
open Andromeda.Library.Bytes (byteAt resize overwrite slice)

/-- A stream function: at an offset, with a buffer length, the bytes it writes
and whether it has more. -/
abbrev WriteFunc := Nat → Nat → Bytes × Bool

/-- What a transport reads from a stream function, buffer by buffer. -/
def WriteFunc.drain (stream : WriteFunc) (bufferSize : Nat) : Nat → Nat → Bytes
  | 0, _ => []
  | fuel + 1, offset =>
    let (written, more) := stream offset bufferSize
    if more then written ++ stream.drain bufferSize fuel (offset + written.length) else written

/-- `BackendImpl::CreateFile`. -/
def Backend.createFile (env : Env) : Exec Unit := do
  tryCall env .createFile .backend
  modify fun world => { world.request .createFile with remote := some [] }

/-- `BackendImpl::UploadFile`, which may change the upload limit. -/
def Backend.uploadFile (env : Env) (data : Bytes) : Exec Unit := do
  modify fun world => { world with uploadMaxBytes := env.uploadLimit world }
  tryCall env .uploadFile .backend
  modify fun world => { world.request (.uploadFile data) with remote := some data }

/-- `BackendImpl::WriteFile`, which may change the upload limit. -/
def Backend.writeFile (env : Env) (offset : Nat) (data : Bytes) : Exec Unit := do
  modify fun world => { world with uploadMaxBytes := env.uploadLimit world }
  tryCall env (.writeFile offset) .backend
  modify fun world =>
    let stored := world.remote.getD []
    { world.request (.writeFile offset data stored.length) with
      remote := some (overwrite stored offset data) }

/-- `BackendImpl::TruncateFile`. -/
def Backend.truncateFile (env : Env) (size : Nat) : Exec Unit := do
  tryCall env (.truncateFile size) .backend
  modify fun world => { world.request (.truncateFile size) with
    remote := some (resize (world.remote.getD []) size) }

/-- `BackendImpl::ReadFile`: the bytes handed over, and whether it then throws. It
throws if the environment makes it or if fewer bytes than asked for are stored. -/
def Backend.readFile (env : Env) (offset length : Nat) : Exec (Bytes × Bool) := do
  let world ← get
  set { world with trace := { world.trace with calls := world.trace.calls + 1 } }
  let stored := slice (world.remote.getD []) offset length
  if env.fault world (.readFile offset length) then
    return (stored.take (env.delivered world), true)
  else return (stored, decide (stored.length < length))

namespace PageBackend

variable (config : Config) (env : Env)

/-- Cut the bytes read into pages. A page the data does not fill is not handed over. -/
def splitPages (backendSize : Nat) : Nat → Nat → Bytes → List (Nat × Bytes)
  | 0, _, _ => []
  | count + 1, index, data =>
    let pageSize := min (sub64 backendSize (index * config.pageSize)) config.pageSize
    if pageSize = 0 ∨ data.length < pageSize then []
    else (index, data.take pageSize) :: splitPages backendSize count (index + 1) (data.drop pageSize)

/-- `FetchPages`: the pages handed over, and whether it then throws. -/
def fetchPages (index count : Nat) : Exec (List (Nat × Bytes) × Bool) := do
  let backendSize := (← get).pageBackend.backendSize
  if count = 0 ∨ backendSize ≤ (index + count - 1) * config.pageSize then logError .invalidFetch
  let pageStart := index * config.pageSize
  let readSize := min (sub64 backendSize pageStart) (config.pageSize * count)
  if readSize = 0 then
    logError .emptyRead
    return ([], false)
  else
    let (data, failed) ← Backend.readFile env pageStart readSize
    return (splitPages config backendSize count index data, failed)

/-- `FlushCreate`. -/
def flushCreate : Exec Unit := do
  if (← get).pageBackend.backendExists then pure ()
  else
    Backend.createFile env
    modify fun world => { world with
      pageBackend := { world.pageBackend with backendExists := true } }

/-- The pages behind a page pointer list, given by their indices. -/
def pageRefs (world : World) (indices : List Nat) : List Page :=
  indices.filterMap world.pageManager.pages.find?

/-- The write function of `FlushPageList`. -/
def writeFunc (pages : List Page) : WriteFunc := fun offset buflen =>
  let pagesIdx := offset / config.pageSize
  match pages[pagesIdx]? with
  | none => ([], false)
  | some page =>
    let pageOffset := offset - pagesIdx * config.pageSize
    if page.size ≤ pageOffset then ([], false)
    else ((page.data.drop pageOffset).take buflen, true)

/-- Sum of the page sizes. -/
def totalSize (pages : List Page) : Nat := (pages.map Page.size).sum

/-- The data a page list sends. -/
def pageListData (pages : List Page) : Bytes :=
  WriteFunc.drain (writeFunc config pages) config.streamBufferSize (totalSize pages + 1) 0

/-- The checks at the top of `FlushPageList`. -/
def checkWriteMode (writeStart : Nat) : Exec Unit := do
  let backend := (← get).pageBackend
  if config.getWriteMode = .upload ∧ backend.backendExists then logError .invalidWriteUpload
  else if config.getWriteMode = .append ∧ backend.backendExists ∧
      writeStart ≠ backend.backendSize then
    logError .invalidWriteAppend

/-- The part of `FlushPageList` that creates the file if an upload cannot. -/
def createFirst (index : Nat) : Exec Unit := do
  if (← get).pageBackend.backendExists = false ∧ index ≠ 0 then
    if config.randWrite = false then logError .invalidWriteNoRandom
    flushCreate env -- an upload needs the first page

/-- The part of `FlushPageList` that writes or uploads the pages. -/
def sendPages (writeStart : Nat) (pages : List Page) : Exec Unit := do
  if (← get).pageBackend.backendExists then
    Backend.writeFile env writeStart (pageListData config pages)
  else
    Backend.uploadFile env (pageListData config pages)
    modify fun world => { world with
      pageBackend := { world.pageBackend with backendExists := true } }

/-- `FlushPageList`. -/
def flushPageList (index : Nat) (indices : List Nat) : Exec Nat := do
  if indices.isEmpty then
    logError .emptyPageList
    return 0
  else
    let pages := pageRefs (← get) indices
    let writeStart := index * config.pageSize
    checkWriteMode config writeStart
    createFirst config env index
    sendPages config env writeStart pages
    modify fun world => { world with
      pageBackend := { world.pageBackend with
        backendSize := max world.pageBackend.backendSize (writeStart + totalSize pages) } }
    return totalSize pages

/-- `Truncate`. -/
def truncate (newSize : Nat) : Exec Unit := do
  let backend := (← get).pageBackend
  if backend.backendExists ∧ backend.backendSize ≠ newSize then
    Backend.truncateFile env newSize
    modify fun world => { world with
      pageBackend := { world.pageBackend with backendSize := newSize } }

end PageBackend

end Andromeda.FileData
