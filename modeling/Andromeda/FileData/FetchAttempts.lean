import Andromeda.FileData.State

/-! `FetchPages` below a read that is attempted several times: each attempt delivers the range from
its start on in chunks, and a callback cuts what it is given into pages. -/

set_option autoImplicit false

namespace Andromeda.FileData

open Andromeda.Library
open Andromeda.Library.Bytes (byteAt resize overwrite slice)

/-- What `FetchPages` shares with its callback, and the pages it has handed over. -/
structure Reassembly where
  curIndex : Nat
  curPage : Option Bytes
  handled : List (Nat × Bytes)
  deriving DecidableEq

/-- `ReadSizeException`. -/
inductive ReadException where
  | readSize
  deriving DecidableEq

namespace Reassembly

variable (config : Config) (backendSize index : Nat) (memory : Nat → Nat → UInt8)

/-- The page that is being filled. A new one holds what its memory held before. -/
def page (state : Reassembly) : Bytes :=
  let pageSize := min (sub64 backendSize (state.curIndex * config.pageSize)) config.pageSize
  state.curPage.getD ((List.range pageSize).map (memory state.curIndex))

/-- One round of the callback, with the bytes that lie in one page. -/
def writePage (rbyte : Nat) (bytes : Bytes) (state : Reassembly) : Reassembly :=
  let curPage := state.page config backendSize memory
  let rindex := rbyte / config.pageSize
  let pwOffset := rbyte - rindex * config.pageSize
  if rindex = state.curIndex - index then
    let written := overwrite curPage pwOffset bytes
    if pwOffset + bytes.length = curPage.length then
      ⟨state.curIndex + 1, none, state.handled ++ [(state.curIndex, written)]⟩
    else { state with curPage := some written }
  else { state with curPage := some curPage } -- wrong page index, ignored

/-- The callback of `FetchPages`. Each round takes a byte or more. -/
def receive : Nat → Nat → Bytes → Reassembly → Reassembly
  | 0, _, _, state => state
  | rounds + 1, rbyte, rbuf, state =>
    if rbuf = [] then state
    else
      let pwOffset := rbyte - rbyte / config.pageSize * config.pageSize
      let pwLength := min rbuf.length (config.pageSize - pwOffset)
      receive rounds (rbyte + pwLength) (rbuf.drop pwLength)
        (state.writePage config backendSize index memory rbyte (rbuf.take pwLength))

/-- One attempt of `RunAction_StreamOut`, with the callback of `ReadFile` and the number of bytes
that it has read. -/
def attempt (length : Nat) : Nat → List Bytes → Nat × Reassembly →
    Except ReadException (Nat × Reassembly)
  | _, [], state => pure state
  | offset, chunk :: rest, (read, state) =>
    if length < offset + chunk.length then throw .readSize
    else
      attempt length (offset + chunk.length) rest
        (max read (offset + chunk.length),
          receive config backendSize index memory chunk.length offset chunk state)

/-- `ReadFile` under a runner that makes these attempts. -/
def readFile (length : Nat) (attempts : List (List Bytes)) (state : Reassembly) :
    Except ReadException Reassembly := do
  let (read, state) ← attempts.foldlM
    (fun state chunks => attempt config backendSize index memory length 0 chunks state) (0, state)
  if read < length then throw .readSize
  return state

/-- `FetchPages`: the pages handed over, and the page that is left unfinished. -/
def fetchPages (count : Nat) (attempts : List (List Bytes)) :
    Except ReadException (List (Nat × Bytes) × Option Bytes) := do
  let pageStart := index * config.pageSize
  let readSize := min (sub64 backendSize pageStart) (config.pageSize * count)
  let state ← readFile config backendSize index memory readSize attempts ⟨index, none, []⟩
  return (state.handled, state.curPage)

end Reassembly

end Andromeda.FileData
