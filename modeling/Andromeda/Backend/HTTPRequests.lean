import Andromeda.Backend.HTTPRunner

/-! The two loops of the HTTP runner over the attempts of a request: the one that leaves the
response to its caller, for downloads, and the one that handles it itself. -/

set_option autoImplicit false

namespace Andromeda.Backend

namespace HTTPRunner

variable (options : HTTPOptions)

/-- What a request without callbacks reports: a response whose body does not arrive is none. -/
def getResult : Answer → HttpResult
  | .failed error => ⟨none, error⟩
  | .answered _ _ (some error) => ⟨none, error⟩
  | .answered response _ none => ⟨some response, .success⟩

/-- The part of a round of `DoRequestsAuto` that handles a response. The data for
`HandleResponse` is new, and it allows a retry. -/
def handleResult (result : HttpResult) : Exec (Option (List UInt8)) :=
  match result.response with
  | none => pure none
  | some response => do
    modify fun runner => { runner with canRetry := true, doRetry := false }
    let body ← handleResponse options response
    let runner ← get
    pure (if runner.doRetry then none else some body)

/-- One round of `DoRequestsAuto`, with the body if it returns. -/
def requestAuto (number : Nat) (attempt : Attempt) : Exec (Option (List UInt8)) := do
  modify fun runner =>
    { runner with failureState := runner.failureState || number == options.maxRetries }
  let runner ← get
  let canRetry := attempt.enabled && !runner.failureState
  let result := getResult attempt.answer
  let body ← handleResult options result
  if body.isNone then handleNonResponse result canRetry
  pure body

end HTTPRunner

/-- The loops over attempts. -/
inductive RequestLoop where
  | custom (streamer : Streamer)
  | auto

namespace RequestLoop

variable (options : HTTPOptions)

/-- One round of a loop, with whether it returns. -/
def once (loop : RequestLoop) (number : Nat) (attempt : Attempt) : HTTPRunner.Exec Bool :=
  match loop with
  | .custom streamer => HTTPRunner.requestOnce options streamer number attempt
  | .auto => Option.isSome <$> HTTPRunner.requestAuto options number attempt

/-- An attempt of a request; one that has ended makes no more. -/
def step (loop : RequestLoop) (enabled : Bool) (request : Download) (answer : Answer) : Download :=
  if request.progress = .running then
    match loop.once options request.attempts ⟨enabled, answer⟩ request.runner with
    | .ok true runner => ⟨runner, request.attempts + 1, .returned⟩
    | .ok false runner => ⟨runner, request.attempts + 1, .running⟩
    | .error exception runner => ⟨runner, request.attempts + 1, .threw exception⟩
  else request

/-- A request of a runner, with retries enabled or not, that gets these answers in turn. -/
def run (loop : RequestLoop) (enabled : Bool) (request : Download) (answers : List Answer) :
    Download :=
  answers.foldl (loop.step options enabled) request

/-- A download is a request of the loop that leaves the response to its caller. -/
theorem run_custom (streamer : Streamer) (enabled : Bool) (request : Download)
    (answers : List Answer) :
    (custom streamer).run options enabled request answers =
      request.run options streamer (answers.map (⟨enabled, ·⟩)) := by
  induction answers generalizing request with
  | nil => rfl
  | cons answer rest ih => exact ih _

end RequestLoop

end Andromeda.Backend
