import Andromeda.Library.Run

/-! A download over HTTP with its attempts. The HTTP library is given by what it reports for each
attempt: it calls the response handler once for a response, and if that returns true the receive
handler for each chunk of the body. -/

set_option autoImplicit false

namespace Andromeda.Backend

/-- The errors of the HTTP library. -/
inductive LibraryError where
  | success
  | connection
  | unknown
  | other (text : String)
  deriving DecidableEq

/-- The exceptions of a request. -/
inductive RunnerException where
  | connection
  | library (error : LibraryError)
  | endpoint (message : String)
  | endpointStatus (status : Nat)
  | inputSize
  | redirect (location : Option String)
  /-- Thrown by the caller's stream function. -/
  | streamer (message : String)
  deriving DecidableEq

structure Response where
  status : Nat
  /-- Where the library has been redirected to, if at all. -/
  location : String
  /-- The `Location` header. -/
  header : Option String
  contentType : Option String
  body : List UInt8

/-- Bytes of a body that arrive together. -/
structure Chunk where
  bytes : List UInt8
  nonempty : bytes ≠ []

/-- What the library reports: no response, or a response whose body arrives in chunks, until an
error cuts it off. -/
inductive Answer where
  | failed (error : LibraryError)
  | answered (response : Response) (chunks : List Chunk) (cutOff : Option LibraryError)

/-- An attempt, with whether retries are enabled at its time. -/
structure Attempt where
  enabled : Bool
  answer : Answer

/-- `httplib::Result`. -/
structure HttpResult where
  response : Option Response
  error : LibraryError

/-- A call of the stream function, with the attempt it is made in. -/
structure Piece where
  attempt : Nat
  offset : Nat
  chunk : Chunk

structure HTTPOptions where
  maxRetries : Nat
  followRedirects : Bool

/-- The runner, the data that the callbacks of a download share, and the calls of the stream
function so far. -/
structure HTTPRunner where
  failureState : Bool
  canRetry : Bool
  doRetry : Bool
  isJson : Bool
  offset : Nat
  /-- The locations remembered for the next request. -/
  redirects : List String
  streamed : List Piece

/-- What the stream function throws at a call, after the calls before. -/
abbrev Streamer := List Piece → Piece → Option String

namespace HTTPRunner

abbrev Exec := EStateM RunnerException HTTPRunner

variable (options : HTTPOptions) (streamer : Streamer)

/-- `wantRetry` of `HandleResponse`. -/
def wantRetry (response : Response) : Bool :=
  response.status == 500 || response.status == 503

/-- `GetRedirectException`: without the URL parameters. -/
def redirectException (response : Response) : RunnerException :=
  .redirect (response.header.map fun location =>
    String.ofList (location.toList.takeWhile (· ≠ '?')))

/-- The end of `HandleResponse`. -/
def checkStatus (response : Response) : Exec (List UInt8) :=
  match response.status with
  | 200 => do
    modify fun runner => { runner with
      isJson := response.contentType == some "application/json" }
    pure response.body
  | 301 => throw (redirectException response)
  | 302 => throw (redirectException response)
  | 400 => throw (.endpoint "400 Bad Request")
  | 403 => throw (.endpoint "403 Access Denied")
  | 404 => throw (.endpoint "404 Not Found")
  | 413 => throw .inputSize
  | 500 => throw (.endpoint "500 Server Error")
  | 503 => throw (.endpoint "503 Server Overloaded")
  | status => throw (.endpointStatus status)

/-- `HandleResponse` after its decision on a retry. -/
def acceptResponse (response : Response) : Exec (List UInt8) := do
  modify fun runner => { runner with
    failureState := runner.failureState && wantRetry response
    redirects := if options.followRedirects && response.location ≠ ""
      then runner.redirects ++ [response.location] else runner.redirects }
  checkStatus response

/-- `HandleResponse`. -/
def handleResponse (response : Response) : Exec (List UInt8) := do
  let runner ← get
  let doRetry := runner.canRetry && wantRetry response
  set { runner with doRetry }
  if doRetry then pure [] else acceptResponse options response

/-- The response handler. -/
def respFunc (response : Response) : Exec Bool := do
  let _ ← handleResponse options response
  modify fun runner => { runner with offset := 0 }
  pure true

/-- The receive handler. -/
def recvFunc (attempt : Nat) (chunk : Chunk) : Exec Bool := do
  let runner ← get
  let piece : Piece := ⟨attempt, runner.offset, chunk⟩
  set { runner with streamed := runner.streamed ++ [piece] }
  match streamer runner.streamed piece with
  | some message => throw (.streamer message)
  | none =>
    modify fun runner => { runner with offset := runner.offset + chunk.bytes.length }
    pure true

/-- The library passes on a body. -/
def receive (attempt : Nat) : List Chunk → Exec Unit
  | [] => pure ()
  | chunk :: rest => do
    let more ← recvFunc streamer attempt chunk
    if more then receive attempt rest else pure ()

/-- The library passes on the body, if the response handler has said so. -/
def receiveIf (attempt : Nat) (chunks : List Chunk) (more : Bool) : Exec Unit :=
  if more then receive streamer attempt chunks else pure ()

/-- `Get` of the library. -/
def getRequest (attempt : Nat) : Answer → Exec HttpResult
  | .failed error => pure ⟨none, error⟩
  | .answered response chunks cutOff => do
    let more ← respFunc options response
    receiveIf streamer attempt chunks more
    pure (match cutOff with
      | some error => ⟨none, error⟩
      | none => ⟨some response, .success⟩)

/-- `HandleNonResponse`. -/
def handleNonResponse (result : HttpResult) (retry : Bool) : Exec Unit :=
  if retry then pure ()
  else if result.error ≠ .success then
    if result.error = .connection then throw .connection else throw (.library result.error)
  else match result.response with
    | some response => throw (.endpointStatus response.status)
    | none => throw (.library .unknown)

/-- Whether an attempt may be retried. -/
def allowsRetry (runner : HTTPRunner) (number : Nat) (attempt : Attempt) : Bool :=
  attempt.enabled && !(runner.failureState || number == options.maxRetries)

/-- One round of `DoRequestsCustom`, with whether it returns. -/
def requestOnce (number : Nat) (attempt : Attempt) : Exec Bool := do
  modify fun runner =>
    let failureState := runner.failureState || number == options.maxRetries
    { runner with failureState, canRetry := attempt.enabled && !failureState }
  let result ← getRequest options streamer number attempt.answer
  let runner ← get
  if result.response.isSome && !runner.doRetry then pure true
  else do
    handleNonResponse result runner.canRetry
    pure false

end HTTPRunner

/-- How far a download is. -/
inductive Progress where
  | running
  | returned
  | threw (exception : RunnerException)
  deriving DecidableEq

/-- A download with its number of attempts so far. -/
structure Download where
  runner : HTTPRunner
  attempts : Nat
  progress : Progress

namespace Download

/-- `RunAction_StreamOut` before its first attempt, with the failure state that earlier requests
have left. -/
def start (failureState isJson : Bool) (redirects : List String) : Download where
  runner := ⟨failureState, true, false, isJson, 0, redirects, []⟩
  attempts := 0
  progress := .running

/-- An attempt of a download; one that has ended makes no more. -/
def step (options : HTTPOptions) (streamer : Streamer) (download : Download) (attempt : Attempt) :
    Download :=
  if download.progress = .running then
    match HTTPRunner.requestOnce options streamer download.attempts attempt download.runner with
    | .ok true runner => ⟨runner, download.attempts + 1, .returned⟩
    | .ok false runner => ⟨runner, download.attempts + 1, .running⟩
    | .error exception runner => ⟨runner, download.attempts + 1, .threw exception⟩
  else download

/-- `RunAction_StreamOut`. -/
def run (options : HTTPOptions) (streamer : Streamer) (download : Download)
    (attempts : List Attempt) : Download :=
  attempts.foldl (step options streamer) download

end Download

end Andromeda.Backend
