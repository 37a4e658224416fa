import Andromeda.FileData.PageAccess

/-! The operations of an open file. -/

set_option autoImplicit false

namespace Andromeda.FileData

open Andromeda.Library

namespace File

variable (config : Config) (env : Env)

/-- The page loop of `ReadBytes`. -/
def readLoop : Nat → Nat → Nat → Exec Bytes
  | 0, _, _ => return []
  | _ + 1, _, 0 => return []
  | fuel + 1, byte, length => do
    let index := byte / config.pageSize
    let pOffset := byte - index * config.pageSize
    let pLength := min length (config.pageSize - pOffset)
    let data ← PageManager.readPage config env index pOffset pLength
    let rest ← readLoop fuel (byte + pLength) (length - pLength)
    return data ++ rest

/-- `ReadBytes`. -/
def readBytes (offset length : Nat) : Exec Bytes := do
  if (← get).pageManager.fileSize < offset + length then throw .readBounds
  else if config.cacheType = .none then
    if length = 0 then
      logError .emptyRead
      return []
    else
      let (data, failed) ← Backend.readFile env offset length
      if failed then throw .backend
      return data
  else readLoop config env length offset length

/-- The page loop of `WriteBytes`. -/
def writeLoop : Nat → Nat → Bytes → Exec Unit
  | 0, _, _ => pure ()
  | _ + 1, _, [] => pure ()
  | fuel + 1, byte, buffer => do
    let index := byte / config.pageSize
    let pOffset := byte - index * config.pageSize
    let pLength := min buffer.length (config.pageSize - pOffset)
    PageManager.writePage config env (buffer.take pLength) index pOffset
    writeLoop fuel (byte + pLength) (buffer.drop pLength)

/-- `FixPageAlignment`: writes through until the backend ends at a page boundary.
Returns the number of buffer bytes used. -/
def fixPageAlignment (buffer : Bytes) (offset : Nat) : Exec Nat := do
  let backendSize := (← get).pageBackend.backendSize
  let pageError := backendSize % config.pageSize
  if pageError = 0 then return 0
  else
    let writeSize := min (offset + buffer.length - backendSize) (config.pageSize - pageError)
    let fromZero := min (offset - backendSize) writeSize
    let fromBuffer := if fromZero < writeSize then writeSize - fromZero else 0
    Backend.writeFile env backendSize (List.replicate fromZero 0 ++ buffer.take fromBuffer)
    PageManager.remoteChanged config (backendSize + writeSize)
    return fromBuffer

/-- The chunk loop of `FillWriteHole`, given how a chunk is written. -/
def holeLoop (write : Bytes → Nat → Exec Unit) (offset : Nat) : Nat → Nat → Exec Unit
  | 0, _ => pure ()
  | fuel + 1, holeOffset => do
    if offset ≤ holeOffset then pure ()
    else
      write (List.replicate (min (offset - holeOffset) config.pageSize) 0) holeOffset
      holeLoop write offset fuel (holeOffset + config.pageSize)

/-- `FillWriteHole`. -/
def fillWriteHole (write : Bytes → Nat → Exec Unit) (offset : Nat) : Exec Unit := do
  let fileSize := (← get).pageManager.fileSize
  if fileSize < offset then
    holeLoop config write offset (offset - fileSize) fileSize

/-- The checks and the alignment of `WriteBytes` before any page is written: the
number of buffer bytes already used. -/
def prepareWrite (buffer : Bytes) (offset : Nat) : Exec Nat := do
  let world ← get
  match config.getWriteMode with
  | .upload =>
    if world.pageBackend.backendExists then throw .writeType
    else if world.uploadMaxBytes ≠ 0 ∧ world.uploadMaxBytes < offset + buffer.length then
      throw .writeSize
    else return 0
  | .append =>
    if world.pageBackend.backendExists then
      if offset < world.pageBackend.backendSize then throw .writeType
      else fixPageAlignment config env buffer offset
    else return 0
  | .random => return 0

/-- The uncached branch of `WriteBytes`. -/
def writeThrough (buffer : Bytes) (offset : Nat) : Exec Unit := do
  let fileSize := (← get).pageManager.fileSize
  if config.getWriteMode = .upload ∨ config.getWriteMode = .append ∧ offset ≠ fileSize then
    throw .writeType
  else
    Backend.writeFile env offset buffer
    PageManager.remoteChanged config (max fileSize (offset + buffer.length))

/-- `WriteBytes`. Filling a hole calls it again, for chunks that leave no hole. -/
def writeBytesAt : Nat → Bytes → Nat → Exec Unit
  | 0, _, _ => throw .hang
  | depth + 1, buffer, offset => do
    if config.readOnlyFS then throw .readOnlyFS
    else if config.cacheType = .none then writeThrough config env buffer offset
    else
      let fromBuffer ← prepareWrite config env buffer offset
      let buffer := buffer.drop fromBuffer
      let offset := offset + fromBuffer
      if !config.randWrite then fillWriteHole config (writeBytesAt depth) offset
      writeLoop config env buffer.length offset buffer

/-- `WriteBytes` with the nesting its hole filling needs. -/
def writeBytes (buffer : Bytes) (offset : Nat) : Exec Unit :=
  writeBytesAt config env 2 buffer offset

/-- `Truncate`. -/
def truncate (newSize : Nat) : Exec Unit := do
  if config.readOnlyFS then throw .readOnlyFS
  else if config.getWriteMode = .upload ∨ config.getWriteMode = .append ∧ newSize ≠ 0 then
    throw .writeType
  else PageManager.truncate config env newSize

/-- `FlushCache`. -/
def flushCache : Exec Unit := PageManager.flushPages config env

end File

end Andromeda.FileData
