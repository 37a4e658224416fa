import Andromeda.Backend.SendFile
import Andromeda.Library.KeyMap

/-! The input of a request, and the stream functions of `RunnerInput_StreamIn`: over a string, and
over an input stream, of which the function keeps the offset and the stream its position and its
error flags. -/

set_option autoImplicit false

namespace Andromeda.Backend

/-- `RunnerInput`, over the strings of a caller. -/
structure RunnerInput (τ : Type) [LinearOrder τ] where
  app : τ
  action : τ
  plainParams : Library.KeyMap τ τ
  dataParams : Library.KeyMap τ τ
  deriving DecidableEq

/-- `RunnerInput::StreamFailException` and the exception derived from it. -/
inductive StreamException where
  | failed
  | seek
  deriving DecidableEq

/-- A `std::istream` over some bytes. -/
structure InputStream where
  position : Nat
  eof : Bool
  fail : Bool
  bad : Bool
  deriving DecidableEq

namespace InputStream

def good (stream : InputStream) : Bool := !stream.eof && !stream.fail && !stream.bad

/-- `std::istream::fail` also tells of a bad stream. -/
def failed (stream : InputStream) : Bool := stream.fail || stream.bad

/-- `std::istream::seekg`: it clears the end of the file, and then fails on a failed stream. -/
def seekg (data : List UInt8) (stream : InputStream) (offset : Nat) : InputStream :=
  if stream.failed then { stream with eof := false, fail := true }
  else if offset ≤ data.length then { stream with eof := false, position := offset }
  else { stream with eof := false, fail := true }

/-- `std::istream::read`, with the bytes that `gcount` counts. -/
def read (data : List UInt8) (stream : InputStream) (buflen : Nat) : List UInt8 × InputStream :=
  if stream.good then
    let bytes := (data.drop stream.position).take buflen
    let ended := decide (bytes.length < buflen)
    (bytes, { stream with
      position := stream.position + bytes.length
      eof := ended
      fail := ended })
  else ([], { stream with fail := true })

end InputStream

/-- What the function of `FromStream` keeps between its calls. -/
structure FromStream where
  stream : InputStream
  curoff : Nat
  deriving DecidableEq

namespace FromStream

/-- `RunnerInput_StreamIn::FromStream` of a stream that nobody has used. -/
def init : FromStream := ⟨⟨0, false, false, false⟩, 0⟩

variable (data : List UInt8)

/-- The seek of the function of `FromStream`. -/
def moveTo (offset : Nat) : EStateM StreamException FromStream Unit := do
  let state ← get
  if offset ≠ state.curoff then
    let stream := state.stream.seekg data offset
    set { state with stream }
    if !stream.good then throw .seek
    set (⟨stream, offset⟩ : FromStream)

/-- The function of `FromStream`. -/
def call (offset buflen : Nat) : EStateM StreamException FromStream (List UInt8 × Bool) := do
  moveTo data offset
  let state ← get
  let (bytes, stream) := state.stream.read data buflen
  set (⟨stream, state.curoff + bytes.length⟩ : FromStream)
  if stream.bad || (stream.failed && !stream.eof) then throw .failed
  pure (bytes, !stream.eof)

end FromStream

/-- A stream function of `RunnerInput_StreamIn`. -/
inductive StreamFunc where
  | fromString
  | fromStream (state : FromStream)
  deriving DecidableEq

namespace StreamFunc

variable (data : List UInt8)

/-- A call of the function, with what it writes and whether it has more. -/
def call (func : StreamFunc) (offset buflen : Nat) :
    Except StreamException (List UInt8 × Bool) × StreamFunc :=
  match func with
  | .fromString => (.ok ((WriteFunc.fromString data).write offset buflen), .fromString)
  | .fromStream state =>
    match FromStream.call data offset buflen state with
    | .ok result state => (.ok result, .fromStream state)
    | .error exception state => (.error exception, .fromStream state)

/-- The results of some calls, one after another. -/
def calls (func : StreamFunc) : List (Nat × Nat) → List (Except StreamException (List UInt8 × Bool))
  | [] => []
  | (offset, buflen) :: rest =>
    (func.call data offset buflen).1 :: (func.call data offset buflen).2.calls rest

/-- The loop of `StreamSize`, with the function after it. The result is `none` while it has not
returned. -/
def streamSizeLoop (bufsiz : Nat) :
    Nat → Nat → StreamFunc → Option (Except StreamException Nat × StreamFunc)
  | 0, _, _ => none
  | fuel + 1, retval, func =>
    match func.call data retval bufsiz with
    | (.error exception, func) => some (.error exception, func)
    | (.ok (bytes, more), func) =>
      if more then streamSizeLoop bufsiz fuel (retval + bytes.length) func
      else some (.ok (retval + bytes.length), func)

/-- `RunnerInput_StreamIn::StreamSize`. -/
def streamSize (bufsiz fuel : Nat) (func : StreamFunc) :
    Option (Except StreamException Nat × StreamFunc) :=
  streamSizeLoop data bufsiz fuel 0 func

end StreamFunc

end Andromeda.Backend
