import Mathlib.Data.List.Basic

/-! `SendFile`: a stream goes out in one request after another, each of which the HTTP runner may
send several times. A send calls the provider with the size of its buffer until the provider has
no more for it, or until the connection breaks. -/

set_option autoImplicit false

namespace Andromeda.Backend

/-- A `WriteFunc` over the bytes of a stream: it writes bytes from the offset on into the buffer,
and there are more unless it says so. -/
structure WriteFunc (data : List UInt8) where
  write : Nat → Nat → List UInt8 × Bool
  stored (offset buflen : Nat) : (write offset buflen).1 <+: data.drop offset
  bounded (offset buflen : Nat) : (write offset buflen).1.length ≤ buflen
  complete {offset buflen : Nat} : (write offset buflen).2 = false →
    (write offset buflen).1 = data.drop offset

/-- `RunnerInput_StreamIn::FromString`. -/
def WriteFunc.fromString (data : List UInt8) : WriteFunc data where
  write offset buflen := ((data.drop offset).take buflen, decide (offset < data.length))
  stored _ _ := List.take_prefix _ _
  bounded _ _ := List.length_take_le _ _
  complete {offset buflen} ended := by
    have past : data.length ≤ offset := Nat.not_lt.mp (of_decide_eq_false ended)
    simp [List.drop_of_length_le past]

/-- What leaves `SendFile` as an exception. -/
inductive SendException where
  | writeSize
  | inputSize
  | json
  /-- What the runner throws when it gives up. -/
  | runner
  deriving DecidableEq

/-- What the closure of `SendFile` shares with its loop. -/
structure StreamState where
  streamCont : Bool
  streamSize : Nat
  deriving DecidableEq

/-- `writeFunc` of `SendFile`. -/
def writeFunc {data : List UInt8} (userFunc : WriteFunc data) (maxSize byte : Nat)
    (oneshot : Bool) (soffset buflen : Nat) (stream : StreamState) :
    Except SendException (List UInt8 × Bool × StreamState) :=
  if maxSize ≠ 0 ∧ maxSize ≤ soffset then
    if oneshot then throw .writeSize else pure ([], false, stream)
  else
    let strSize := if maxSize ≠ 0 then min buflen maxSize else buflen
    let (bytes, more) := userFunc.write (soffset + byte) strSize
    pure (bytes, more, ⟨more, stream.streamSize + bytes.length⟩)

/-- The provider of a request's body. -/
abbrev Provider := Nat → Nat → StreamState → Except SendException (List UInt8 × Bool × StreamState)

/-- A send: its body as far as it went, and whether the provider ended it. -/
structure Sent where
  body : List UInt8
  finished : Bool
  stream : StreamState
  deriving DecidableEq

/-- One send of a request, with the buffer size of each call of the provider. -/
def send (provider : Provider) (body : List UInt8) (stream : StreamState) :
    List Nat → Except SendException Sent
  | [] => pure ⟨body, false, stream⟩
  | buflen :: rest => do
    let (bytes, more, stream) ← provider body.length buflen stream
    if more then send provider (body ++ bytes) stream rest
    else pure ⟨body ++ bytes, true, stream⟩

/-- The sends of a request that the runner repeats. -/
def sendRepeated (provider : Provider) (stream : StreamState) :
    List (List Nat) → Except SendException StreamState
  | [] => pure stream
  | buffers :: rest => do
    let sent ← send provider [] stream buffers
    sendRepeated provider sent.stream rest

/-- How a request ends: accepted, with the ID in the server's answer if there is one; rejected
with an input-size error; or given up by the runner. -/
inductive Reply where
  | accepted (id : Option String)
  | tooLarge
  | failed
  deriving DecidableEq

/-- What happens to a request: the sends that are repeated, the last send and its reply. -/
structure Exchange where
  repeated : List (List Nat)
  buffers : List Nat
  reply : Reply

/-- An accepted request: the file it writes to, if it does not upload one, the offset it was sent
with, its body, and how many bytes the sends before its last one had read. -/
structure AcceptedRequest where
  file : Option String
  offset : Nat
  body : List UInt8
  reread : Nat
  deriving DecidableEq

/-- `SendFile` between two requests, with the size limit of the configuration. -/
structure SendState where
  id : String
  byte : Nat
  streamCont : Bool
  uploadMaxBytes : Nat

/-- `UPLOAD_MINSIZE`. -/
def uploadMinSize : Nat := 4096

/-- `ADJUST_ATTEMPT`. -/
def adjustAttempt (maxSize : Nat) : Nat := maxSize / 2

variable {data : List UInt8} (userFunc : WriteFunc data) (offset : Nat) (upload oneshot : Bool)

/-- One round of the loop of `SendFile`. -/
def sendRequest (state : SendState) (exchange : Exchange) :
    Except SendException (Option AcceptedRequest × SendState) := do
  let maxSize := state.uploadMaxBytes
  let provider := writeFunc userFunc maxSize state.byte oneshot
  let file := if state.byte = 0 ∧ upload then none else some state.id
  let before ← sendRepeated provider ⟨state.streamCont, 0⟩ exchange.repeated
  let sent ← send provider [] before exchange.buffers
  match exchange.reply, sent.finished with
  | .accepted (some id), true =>
    pure (some ⟨file, offset + state.byte, sent.body, before.streamSize⟩,
      { state with
        id
        byte := state.byte + sent.stream.streamSize
        streamCont := sent.stream.streamCont })
  | .accepted none, true => throw .json
  | .tooLarge, _ =>
    if maxSize ≠ 0 ∧ maxSize < uploadMinSize then throw .inputSize
    else if oneshot then throw .writeSize
    else pure (none, { state with
      uploadMaxBytes := adjustAttempt sent.stream.streamSize
      streamCont := true })
  | _, _ => throw .runner

/-- The loop of `SendFile`, with the requests that are accepted if it returns. -/
def sendLoop : SendState → List Exchange → Except SendException (Option (List AcceptedRequest))
  | state, exchanges =>
    if state.streamCont then
      match exchanges with
      | [] => pure none
      | exchange :: rest => do
        let (accepted, state) ← sendRequest userFunc offset upload oneshot state exchange
        let later ← sendLoop state rest
        pure (later.map (accepted.toList ++ ·))
    else pure (some [])

/-- `SendFile`. The result is `none` while it has not returned. -/
def sendFile (id : String) (uploadMaxBytes : Nat) (exchanges : List Exchange) :
    Except SendException (Option (List AcceptedRequest)) :=
  sendLoop userFunc offset upload oneshot ⟨id, 0, true, uploadMaxBytes⟩ exchanges

end Andromeda.Backend
