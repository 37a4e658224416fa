import Andromeda.Backend.HTTPRequests
import Andromeda.Backend.StreamOutProperties

/-! The attempts of a request and the runner's failure state. -/

set_option autoImplicit false

namespace Andromeda.Backend

open Andromeda.Library

/-- Whether the exception tells of used up attempts: no response, a broken transfer, or a status
that would have been retried. -/
def RunnerException.exhausted : RunnerException → Bool
  | .connection => true
  | .library _ => true
  | .endpoint message => message == "500 Server Error" || message == "503 Server Overloaded"
  | .endpointStatus status => status == 500 || status == 503
  | _ => false

/-- Whether the stream function throws at one of some calls, after the calls before. -/
def throwsAt (streamer : Streamer) (log : List Piece) : List Piece → Bool
  | [] => false
  | piece :: rest => (streamer log piece).isSome || throwsAt streamer (log ++ [piece]) rest

namespace HTTPRunner

variable {options : HTTPOptions} {streamer : Streamer} {runner : HTTPRunner}

private theorem receive_outcome (attempt : Nat) (chunks : List Chunk) (runner : HTTPRunner) :
    Outcome (receive streamer attempt chunks) runner
      (fun _ final => throwsAt streamer runner.streamed
          (piecesFrom attempt runner.offset chunks) = false ∧
        final.failureState = runner.failureState ∧ final.canRetry = runner.canRetry ∧
          final.doRetry = runner.doRetry)
      (fun exception final => throwsAt streamer runner.streamed
          (piecesFrom attempt runner.offset chunks) = true ∧
        final.failureState = runner.failureState ∧ exception.exhausted = false) := by
  induction chunks generalizing runner with
  | nil => exact ⟨rfl, rfl, rfl, rfl⟩
  | cons chunk rest ih =>
      unfold receive recvFunc
      simp only [Outcome.bind_iff, Outcome.get_iff, Outcome.set_iff]
      cases thrown : streamer runner.streamed ⟨attempt, runner.offset, chunk⟩ with
      | some message =>
          refine ⟨?_, rfl, rfl⟩
          simp only [piecesFrom, throwsAt, thrown, Option.isSome_some, Bool.true_or]
      | none =>
          simp only [Outcome.bind_iff, Outcome.modify_iff, Outcome.pure_iff, if_true]
          apply (ih _).mono
          · intro _ final reached
            simpa only [piecesFrom, throwsAt, thrown, Option.isSome_none, Bool.false_or] using reached
          · intro _ final reached
            simpa only [piecesFrom, throwsAt, thrown, Option.isSome_none, Bool.false_or] using reached

/-- A status is accepted or thrown; what is thrown for one that is worth a retry tells that the
retries are used up. -/
private theorem checkStatus_outcome (response : Response) (runner : HTTPRunner) :
    Outcome (checkStatus response) runner
      (fun _ final => response.status = 200 ∧ final.canRetry = runner.canRetry ∧
        final.streamed = runner.streamed ∧ final.doRetry = runner.doRetry ∧
          final.failureState = runner.failureState)
      (fun exception final => response.status ≠ 200 ∧ final = runner ∧
        exception.exhausted = wantRetry response) := by
  unfold checkStatus
  split
  · next ok => exact ⟨ok, rfl, rfl, rfl, rfl⟩
  · next status => exact ⟨by simp [status], rfl, by simp only [wantRetry, status]; rfl⟩
  · next status => exact ⟨by simp [status], rfl, by simp only [wantRetry, status]; rfl⟩
  · next status => exact ⟨by simp [status], rfl, by simp only [wantRetry, status]; decide⟩
  · next status => exact ⟨by simp [status], rfl, by simp only [wantRetry, status]; decide⟩
  · next status => exact ⟨by simp [status], rfl, by simp only [wantRetry, status]; decide⟩
  · next status => exact ⟨by simp [status], rfl, by simp only [wantRetry, status]; rfl⟩
  · next status => exact ⟨by simp [status], rfl, by simp only [wantRetry, status]; decide⟩
  · next status => exact ⟨by simp [status], rfl, by simp only [wantRetry, status]; decide⟩
  · next ok _ _ _ _ _ _ _ _ => exact ⟨ok, rfl, rfl⟩

private theorem handleResponse_outcome (response : Response) (runner : HTTPRunner) :
    Outcome (handleResponse options response) runner
      (fun _ final => final.canRetry = runner.canRetry ∧ final.streamed = runner.streamed ∧
        (runner.canRetry = true ∧ wantRetry response = true ∧ final.doRetry = true ∧
            final.failureState = runner.failureState ∨
          response.status = 200 ∧ final.doRetry = false ∧ final.failureState = false))
      (fun exception final => response.status ≠ 200 ∧
        (runner.canRetry = false ∧ wantRetry response = true ∧ exception.exhausted = true ∧
            final.failureState = runner.failureState ∨
          wantRetry response = false ∧ exception.exhausted = false ∧
            final.failureState = false)) := by
  unfold handleResponse
  simp only [Outcome.bind_iff, Outcome.get_iff, Outcome.set_iff]
  cases retry : runner.canRetry && wantRetry response with
  | true =>
      rw [if_pos rfl]
      obtain ⟨allowed, want⟩ := Bool.and_eq_true_iff.mp retry
      exact ⟨rfl, rfl, .inl ⟨allowed, want, rfl, rfl⟩⟩
  | false =>
      rw [if_neg Bool.false_ne_true]
      simp only [acceptResponse, Outcome.bind_iff, Outcome.modify_iff]
      apply (checkStatus_outcome response _).mono
      · rintro _ final ⟨ok, canRetry, streamed, doRetry, failureState⟩
        have accepted : wantRetry response = false := by simp [wantRetry, ok]
        rw [accepted, Bool.and_false] at failureState
        exact ⟨canRetry, streamed, .inr ⟨ok, doRetry, failureState⟩⟩
      · rintro exception final ⟨notOk, rfl, exhausted⟩
        refine ⟨notOk, ?_⟩
        cases want : wantRetry response with
        | true =>
            rw [want, Bool.and_true] at retry
            exact .inl ⟨retry, rfl, exhausted.trans want, Bool.and_true _⟩
        | false => exact .inr ⟨rfl, exhausted.trans want, Bool.and_false _⟩

private theorem handleNonResponse_outcome (result : HttpResult) (retry : Bool) (runner : HTTPRunner)
    (failed : ∀ response, result.response = some response → wantRetry response = true) :
    Outcome (handleNonResponse result retry) runner
      (fun _ final => final = runner ∧ retry = true)
      (fun exception final => final = runner ∧ retry = false ∧ exception.exhausted = true) := by
  unfold handleNonResponse
  cases retry with
  | true => exact ⟨rfl, rfl⟩
  | false =>
      simp only [Bool.false_eq_true, if_false]
      split
      · split
        · exact ⟨rfl, trivial, rfl⟩
        · exact ⟨rfl, trivial, rfl⟩
      · split
        · next response found => exact ⟨rfl, trivial, failed response found⟩
        · exact ⟨rfl, trivial, rfl⟩

end HTTPRunner

namespace RequestLoop

open HTTPRunner

variable {options : HTTPOptions}

/-- Whether a download's transfer breaks off after its response has been accepted. -/
def cutOff (loop : RequestLoop) (log : List Piece) (number : Nat) : Answer → Bool
  | .answered response chunks (some _) =>
    match loop with
    | .custom streamer =>
      response.status == 200 && !throwsAt streamer log (piecesFrom number 0 chunks)
    | .auto => false
  | _ => false

/-- Whether the stream function stops a download after its response has been accepted. -/
def interrupted (loop : RequestLoop) (log : List Piece) (number : Nat) : Answer → Bool
  | .answered response chunks _ =>
    match loop with
    | .custom streamer =>
      response.status == 200 && throwsAt streamer log (piecesFrom number 0 chunks)
    | .auto => false
  | _ => false

/-- Whether the transfer of a response that clears the failure state does not come to its end. -/
def brokenOff (loop : RequestLoop) (log : List Piece) (number : Nat) : Answer → Bool
  | .answered response chunks cutOff =>
    match loop with
    | .custom streamer =>
      !wantRetry response &&
        (cutOff.isSome ||
          response.status == 200 && throwsAt streamer log (piecesFrom number 0 chunks))
    | .auto => false
  | _ => false

/-- A response that is not retried is one without a server error. -/
private theorem wantRetry_ok {response : Response} (ok : response.status = 200) :
    wantRetry response = false := by
  simp [wantRetry, ok]

private theorem brokenOff_of_cutOff {loop : RequestLoop} {log : List Piece} {number : Nat}
    {answer : Answer} (broken : loop.cutOff log number answer = true) :
    loop.brokenOff log number answer = true := by
  unfold cutOff at broken
  split at broken
  · split at broken
    · simp only [Bool.and_eq_true, beq_iff_eq, Bool.not_eq_true'] at broken
      simp [brokenOff, wantRetry_ok broken.1]
    · cases broken
  · cases broken

private theorem brokenOff_of_interrupted {loop : RequestLoop} {log : List Piece} {number : Nat}
    {answer : Answer} (broken : loop.interrupted log number answer = true) :
    loop.brokenOff log number answer = true := by
  unfold interrupted at broken
  split at broken
  · split at broken
    · simp only [Bool.and_eq_true, beq_iff_eq] at broken
      simp [brokenOff, wantRetry_ok broken.1, broken]
    · cases broken
  · cases broken

/-- How an attempt ends that throws, with the failure state it is made in and the one it leaves. -/
inductive Thrown (loop : RequestLoop) (log : List Piece) (number : Nat) (answer : Answer)
    (allowed failing : Bool) (exception : RunnerException) (left : Bool) : Prop where
  | usedUp (exhausted : exception.exhausted = true) (last : allowed = false) (kept : left = failing)
      (whole : loop.brokenOff log number answer = false)
  | cutOff (exhausted : exception.exhausted = true) (last : allowed = false) (cleared : left = false)
      (broken : loop.cutOff log number answer = true)
  | interrupted (other : exception.exhausted = false) (cleared : left = false)
      (broken : loop.interrupted log number answer = true)
  | retried (other : exception.exhausted = false) (more : allowed = true)
  | refused (other : exception.exhausted = false) (cleared : left = false)
      (whole : loop.cutOff log number answer = false)
      (answered : ∃ response chunks cutOff, answer = .answered response chunks cutOff ∧
        wantRetry response = false ∧ response.status ≠ 200 ∧
          loop.brokenOff log number answer = cutOff.isSome)

/-- How an attempt ends that does not throw. -/
inductive Returned (loop : RequestLoop) (log : List Piece) (number : Nat) (answer : Answer)
    (allowed : Bool) (left : Bool) : Bool → Prop where
  | returned (cleared : left = false) (whole : loop.brokenOff log number answer = false)
      (answered : ∃ response chunks, answer = .answered response chunks none ∧
        wantRetry response = false) :
      Returned loop log number answer allowed left true
  | goesOn (more : allowed = true) (kept : left = false) :
      Returned loop log number answer allowed left false

private theorem allowed_fails {failing enabled : Bool} (allowed : (enabled && !failing) = true) :
    failing = false := by
  rw [Bool.and_eq_true, Bool.not_eq_true'] at allowed
  exact allowed.2

private theorem once_custom (streamer : Streamer) (number : Nat) (enabled : Bool) (answer : Answer)
    (runner : HTTPRunner) :
    let failing := runner.failureState || number == options.maxRetries
    Outcome ((custom streamer).once options number ⟨enabled, answer⟩) runner
      (fun returned final => Returned (custom streamer) runner.streamed number answer
        (enabled && !failing) final.failureState returned)
      (fun exception final => Thrown (custom streamer) runner.streamed number answer
        (enabled && !failing) failing exception final.failureState) := by
  intro failing
  simp only [once, requestOnce, Outcome.bind_iff, Outcome.modify_iff]
  change Outcome _ { runner with failureState := failing, canRetry := enabled && !failing } _ _
  generalize allowedIs : (enabled && !failing) = allowed
  cases answer with
  | failed error =>
      simp only [getRequest, Outcome.pure_iff, Outcome.get_iff, Option.isSome_none, Bool.false_and,
        Bool.false_eq_true, if_false, Outcome.bind_iff]
      apply (handleNonResponse_outcome ⟨none, error⟩ allowed _ (by rintro _ ⟨⟩)).mono
      · rintro _ final ⟨rfl, more⟩
        rw [more] at allowedIs
        exact .goesOn more (allowed_fails allowedIs)
      · rintro exception final ⟨rfl, last, exhausted⟩
        exact .usedUp exhausted last rfl rfl
  | answered response chunks cutOff =>
      simp only [getRequest, respFunc, Outcome.bind_iff, Outcome.modify_iff, Outcome.pure_iff]
      apply (handleResponse_outcome response _).mono
      · rintro _ handled ⟨canRetry, streamed, verdict⟩
        simp only [receiveIf, if_true]
        apply (receive_outcome number chunks _).mono
        · rintro _ received ⟨passed, failureState, receivedRetry, doRetry⟩
          dsimp only at passed failureState receivedRetry doRetry canRetry streamed
          rw [streamed] at passed
          simp only [Outcome.get_iff]
          rcases verdict with ⟨more, want, again, kept⟩ | ⟨ok, done, cleared⟩
          · -- a retry, whatever became of the body
            dsimp only at more
            rw [doRetry, again, Bool.not_true, Bool.and_false, if_neg Bool.false_ne_true]
            simp only [Outcome.bind_iff]
            rw [more] at allowedIs
            have stays : received.failureState = false := by
              rw [failureState, kept]
              exact allowed_fails allowedIs
            refine (handleNonResponse_outcome _ received.canRetry received ?_).mono ?_ ?_
            · intro other found
              cases cutOff with
              | none =>
                  cases found
                  exact want
              | some error => cases found
            · rintro _ final ⟨rfl, _⟩
              exact .goesOn more stays
            · rintro _ final ⟨_, last, _⟩
              rw [receivedRetry, canRetry, more] at last
              cases last
          · have reset : received.failureState = false := failureState.trans cleared
            cases cutOff with
            | none =>
                simp only [doRetry, done, Option.isSome_some, Bool.not_false, Bool.and_self, if_true]
                exact .returned reset (by simp [brokenOff, passed])
                  ⟨response, chunks, rfl, wantRetry_ok ok⟩
            | some error =>
                simp only [Option.isSome_none, Bool.false_and, Bool.false_eq_true, if_false,
                  Outcome.bind_iff]
                refine (handleNonResponse_outcome ⟨none, error⟩ received.canRetry received
                  (by rintro _ ⟨⟩)).mono ?_ ?_
                · rintro _ final ⟨rfl, more⟩
                  rw [receivedRetry, canRetry] at more
                  exact .goesOn more reset
                · rintro exception final ⟨rfl, last, exhausted⟩
                  rw [receivedRetry, canRetry] at last
                  exact .cutOff exhausted last reset (by simp [RequestLoop.cutOff, ok, passed])
        · rintro exception final ⟨thrown, failureState, other⟩
          dsimp only at thrown failureState
          rw [streamed] at thrown
          rcases verdict with ⟨more, want, _, _⟩ | ⟨ok, _, cleared⟩
          · exact .retried other more
          · exact .interrupted other (failureState.trans cleared) (by simp [interrupted, ok, thrown])
      · rintro exception final ⟨notOk, verdict⟩
        have whole : (custom streamer).cutOff runner.streamed number
            (.answered response chunks cutOff) = false := by
          cases cutOff with
          | none => rfl
          | some error => simp [RequestLoop.cutOff, notOk]
        rcases verdict with ⟨last, want, exhausted, kept⟩ | ⟨accepted, other, cleared⟩
        · exact .usedUp exhausted last kept (by simp [brokenOff, want])
        · exact .refused other cleared whole
            ⟨response, chunks, cutOff, rfl, accepted, notOk, by simp [brokenOff, accepted, notOk]⟩

private theorem once_auto (number : Nat) (enabled : Bool) (answer : Answer) (runner : HTTPRunner) :
    let failing := runner.failureState || number == options.maxRetries
    Outcome (auto.once options number ⟨enabled, answer⟩) runner
      (fun returned final => Returned auto runner.streamed number answer (enabled && !failing)
        final.failureState returned)
      (fun exception final => Thrown auto runner.streamed number answer (enabled && !failing)
        failing exception final.failureState) := by
  intro failing
  have whole : auto.cutOff runner.streamed number answer = false := by
    unfold cutOff
    split
    · rfl
    · rfl
  have unbroken : auto.brokenOff runner.streamed number answer = false := by
    unfold brokenOff
    split
    · rfl
    · rfl
  simp only [once, Outcome.map_iff, requestAuto, Outcome.bind_iff, Outcome.modify_iff,
    Outcome.get_iff]
  change Outcome (handleResult options (getResult answer)) { runner with failureState := failing }
    (fun body middle => Outcome (if body.isNone = true then do
      handleNonResponse (getResult answer) (enabled && !failing)
      pure body else pure body) middle _ _) _
  have failed (error : LibraryError) (nothing : getResult answer = ⟨none, error⟩) :
      Outcome (handleResult options (getResult answer)) { runner with failureState := failing }
        (fun body middle => Outcome (if body.isNone = true then do
          handleNonResponse (getResult answer) (enabled && !failing)
          pure body else pure body) middle
            (fun body final => Returned auto runner.streamed number answer (enabled && !failing)
              final.failureState body.isSome)
            (fun exception final => Thrown auto runner.streamed number answer
              (enabled && !failing) failing exception final.failureState))
        (fun exception final => Thrown auto runner.streamed number answer (enabled && !failing)
          failing exception final.failureState) := by
    rw [nothing]
    simp only [handleResult, Outcome.pure_iff, Option.isNone_none, if_true, Outcome.bind_iff]
    refine (handleNonResponse_outcome ⟨none, error⟩ _ _ (by rintro _ ⟨⟩)).mono ?_ ?_
    · rintro _ final ⟨rfl, more⟩
      exact .goesOn more (allowed_fails more)
    · rintro exception final ⟨rfl, last, exhausted⟩
      exact .usedUp exhausted last rfl unbroken
  cases answer with
  | failed error => exact failed error rfl
  | answered response chunks broken =>
      cases broken with
      | some error => exact failed error rfl
      | none =>
          simp only [handleResult, getResult, Outcome.bind_iff, Outcome.modify_iff, Outcome.get_iff,
            Outcome.pure_iff]
          apply (handleResponse_outcome response _).mono
          · rintro body handled ⟨_, _, ⟨_, want, again, kept⟩ | ⟨ok, done, cleared⟩⟩
            · simp only [again, if_true, Option.isNone_none, Outcome.bind_iff, Outcome.pure_iff]
              refine (handleNonResponse_outcome ⟨some response, .success⟩ _ handled ?_).mono ?_ ?_
              · rintro other found
                cases found
                exact want
              · rintro _ final ⟨rfl, more⟩
                exact .goesOn more (kept.trans (allowed_fails more))
              · rintro exception final ⟨rfl, last, exhausted⟩
                exact .usedUp exhausted last kept unbroken
            · simp only [done, Bool.false_eq_true, if_false, Option.isNone_some, Outcome.pure_iff]
              exact .returned cleared unbroken ⟨response, chunks, rfl, wantRetry_ok ok⟩
          · rintro exception final ⟨notOk, ⟨refused, _⟩ | ⟨accepted, other, cleared⟩⟩
            · cases refused
            · exact .refused other cleared whole
                ⟨response, chunks, none, rfl, accepted, notOk, unbroken⟩

private theorem once_spec (options : HTTPOptions) (loop : RequestLoop) (number : Nat)
    (enabled : Bool)
    (answer : Answer) (runner : HTTPRunner) :
    let failing := runner.failureState || number == options.maxRetries
    Outcome (loop.once options number ⟨enabled, answer⟩) runner
      (fun returned final => Returned loop runner.streamed number answer (enabled && !failing)
        final.failureState returned)
      (fun exception final => Thrown loop runner.streamed number answer (enabled && !failing)
        failing exception final.failureState) := by
  cases loop with
  | custom streamer => exact once_custom streamer number enabled answer runner
  | auto => exact once_auto number enabled answer runner

/-- What an attempt must leave: the failure state if it throws because the attempts are used up
while retries are enabled, and no failure state is cleared but by a response without a server
error whose transfer is complete: it is not cut off, and the stream function takes a body that is
passed on. -/
structure Keeps (enabled : Bool) (answer : Answer) (before after : Download) : Prop where
  failing : enabled = true → ∀ exception, after.progress = .threw exception →
    exception.exhausted = true → after.runner.failureState = true
  cleared : before.runner.failureState = true → after.runner.failureState = false →
    ∃ response chunks, answer = .answered response chunks none ∧
      wantRetry response = false ∧ (response.status = 200 → after.progress = .returned)

/-- In the failure state no transfer of a response without a server error is broken off, and in the
last attempt no download is cut off. -/
def Whole (options : HTTPOptions) (loop : RequestLoop) (enabled : Bool) (request : Download)
    (answer : Answer) : Prop :=
  (request.runner.failureState = true →
      loop.brokenOff request.log request.attempts answer = false) ∧
    (enabled = true → request.attempts = options.maxRetries →
      loop.cutOff request.log request.attempts answer = false)

instance (options : HTTPOptions) (loop : RequestLoop) (enabled : Bool) (request : Download)
    (answer : Answer) : Decidable (Whole options loop enabled request answer) :=
  inferInstanceAs (Decidable (_ ∧ _))

private theorem cutOff_of_unbroken {loop : RequestLoop} {log : List Piece} {number : Nat}
    {answer : Answer} (whole : loop.brokenOff log number answer = false) :
    loop.cutOff log number answer = false := by
  cases cut : loop.cutOff log number answer with
  | false => rfl
  | true =>
      rw [brokenOff_of_cutOff cut] at whole
      cases whole

/-- Only one of the two happens to a transfer. -/
private theorem cutOff_of_interrupted {loop : RequestLoop} {log : List Piece} {number : Nat}
    {answer : Answer} (broken : loop.interrupted log number answer = true) :
    loop.cutOff log number answer = false := by
  cases answer with
  | failed error => rfl
  | answered response chunks cut =>
      cases cut with
      | none => rfl
      | some error =>
          cases loop with
          | auto => rfl
          | custom streamer =>
              have thrown := (Bool.and_eq_true_iff.mp broken).2
              simp [cutOff, thrown]

private theorem status_of_interrupted {loop : RequestLoop} {log : List Piece} {number : Nat}
    {response : Response} {chunks : List Chunk} {cut : Option LibraryError}
    (broken : loop.interrupted log number (.answered response chunks cut) = true) :
    response.status = 200 := by
  cases loop with
  | custom streamer => exact beq_iff_eq.mp (Bool.and_eq_true_iff.mp broken).1
  | auto => cases broken

/-- A download that is cut off loses the failure state. -/
private theorem keeps_cutOff_iff {loop : RequestLoop} {enabled : Bool} {request after : Download}
    {answer : Answer} {exception : RunnerException} (exhausted : exception.exhausted = true)
    (last : (enabled && !(request.runner.failureState || request.attempts == options.maxRetries)) =
      false)
    (threw : after.progress = .threw exception) (cleared : after.runner.failureState = false)
    (broken : loop.cutOff request.log request.attempts answer = true) :
    Keeps enabled answer request after ↔ Whole options loop enabled request answer := by
  constructor
  · intro keeps
    refine ⟨fun failing => ?_, fun isEnabled _ => ?_⟩
    · obtain ⟨response, chunks, rfl, _⟩ := keeps.cleared failing cleared
      cases broken
    · have kept := keeps.failing isEnabled exception threw exhausted
      rw [cleared] at kept
      cases kept
  · intro whole
    have notFailing : request.runner.failureState = false := by
      cases failing : request.runner.failureState with
      | false => rfl
      | true =>
          rw [cutOff_of_unbroken (whole.1 failing)] at broken
          cases broken
    refine ⟨fun isEnabled _ _ _ => ?_, fun failing => ?_⟩
    · rw [isEnabled, Bool.true_and, Bool.not_eq_false', notFailing, Bool.false_or,
        beq_iff_eq] at last
      rw [whole.2 isEnabled last] at broken
      cases broken
    · rw [notFailing] at failing
      cases failing

/-- So does one whose stream function throws, with an exception that does not tell that the retries
are used up. -/
private theorem keeps_interrupted_iff {loop : RequestLoop} {enabled : Bool}
    {request after : Download} {answer : Answer} {exception : RunnerException}
    (other : exception.exhausted = false) (threw : after.progress = .threw exception)
    (cleared : after.runner.failureState = false)
    (broken : loop.interrupted request.log request.attempts answer = true) :
    Keeps enabled answer request after ↔ Whole options loop enabled request answer := by
  constructor
  · intro keeps
    refine ⟨fun failing => ?_, fun _ _ => cutOff_of_interrupted broken⟩
    obtain ⟨response, chunks, rfl, _, returned⟩ := keeps.cleared failing cleared
    have ended := returned (status_of_interrupted broken)
    rw [threw] at ended
    cases ended
  · intro condition
    refine ⟨fun _ thrown same exhausted => ?_, fun failing => ?_⟩
    · rw [threw] at same
      cases same
      rw [other] at exhausted
      cases exhausted
    · have whole := condition.1 failing
      rw [brokenOff_of_interrupted broken] at whole
      cases whole

/-- So does one that gets another status, if its transfer is cut off. -/
private theorem keeps_refused_iff {loop : RequestLoop} {enabled : Bool} {request after : Download}
    {response : Response} {chunks : List Chunk} {cut : Option LibraryError}
    {exception : RunnerException} (other : exception.exhausted = false)
    (threw : after.progress = .threw exception) (cleared : after.runner.failureState = false)
    (accepted : wantRetry response = false) (notOk : response.status ≠ 200)
    (whole : loop.cutOff request.log request.attempts (.answered response chunks cut) = false)
    (broken : loop.brokenOff request.log request.attempts (.answered response chunks cut) =
      cut.isSome) :
    Keeps enabled (.answered response chunks cut) request after ↔
      Whole options loop enabled request (.answered response chunks cut) := by
  have failing : enabled = true → ∀ thrown, after.progress = .threw thrown →
      thrown.exhausted = true → after.runner.failureState = true := by
    intro _ thrown same exhausted
    rw [threw] at same
    cases same
    rw [other] at exhausted
    cases exhausted
  constructor
  · intro keeps
    refine ⟨fun isFailing => ?_, fun _ _ => whole⟩
    obtain ⟨_, _, same, _⟩ := keeps.cleared isFailing cleared
    cases same
    exact broken
  · intro condition
    refine ⟨failing, fun isFailing _ => ?_⟩
    have uncut := broken.symm.trans (condition.1 isFailing)
    cases cut with
    | none => exact ⟨response, chunks, rfl, accepted, fun ok => absurd ok notOk⟩
    | some error => cases uncut

private theorem keeps_iff_whole {loop : RequestLoop} {enabled : Bool} {request : Download}
    {answer : Answer} (running : request.progress = .running) :
    Keeps enabled answer request (loop.step options enabled request answer) ↔
      Whole options loop enabled request answer := by
  have spec := once_spec options loop request.attempts enabled answer request.runner
  unfold Outcome at spec
  unfold step
  rw [if_pos running]
  split at spec
  · next returned final result =>
    rw [result]
    cases spec with
    | returned cleared whole answered =>
        obtain ⟨response, chunks, same, accepted⟩ := answered
        exact ⟨fun _ => ⟨fun _ => whole, fun _ _ => cutOff_of_unbroken whole⟩,
          fun _ => ⟨fun _ _ threw => (by cases threw), fun _ _ =>
            ⟨response, chunks, same, accepted, fun _ => rfl⟩⟩⟩
    | goesOn more kept =>
        have notFailing := allowed_fails more
        rw [Bool.or_eq_false_iff, beq_eq_false_iff_ne] at notFailing
        constructor
        · intro _
          refine ⟨fun failing => ?_, fun _ last => absurd last notFailing.2⟩
          rw [notFailing.1] at failing
          cases failing
        · intro _
          refine ⟨fun _ _ threw => (by cases threw), fun failing => ?_⟩
          rw [notFailing.1] at failing
          cases failing
  · next exception final result =>
    rw [result]
    cases spec with
    | usedUp exhausted last kept whole =>
        refine ⟨fun _ => ⟨fun _ => whole, fun _ _ => cutOff_of_unbroken whole⟩,
          fun _ => ⟨?_, ?_⟩⟩
        · intro isEnabled _ _ _
          rw [isEnabled, Bool.true_and, Bool.not_eq_false'] at last
          exact kept.trans last
        · intro failing cleared
          rw [kept, failing, Bool.true_or] at cleared
          cases cleared
    | cutOff exhausted last cleared broken =>
        exact keeps_cutOff_iff exhausted last rfl cleared broken
    | interrupted other cleared broken =>
        exact keeps_interrupted_iff other rfl cleared broken
    | retried other more =>
        have notFailing := allowed_fails more
        rw [Bool.or_eq_false_iff, beq_eq_false_iff_ne] at notFailing
        constructor
        · intro _
          refine ⟨fun failing => ?_, fun _ last => absurd last notFailing.2⟩
          rw [notFailing.1] at failing
          cases failing
        · intro _
          refine ⟨fun _ thrown threw exhausted => ?_, fun failing => ?_⟩
          · cases threw
            rw [other] at exhausted
            cases exhausted
          · rw [notFailing.1] at failing
            cases failing
    | refused other cleared whole answered =>
        obtain ⟨response, chunks, cut, rfl, accepted, notOk, broken⟩ := answered
        exact keeps_refused_iff other rfl cleared accepted notOk whole broken

/-- A request goes on only after an attempt that is neither the last one nor made in the failure
state. -/
private theorem step_running {loop : RequestLoop} {enabled : Bool} {request : Download}
    {answer : Answer}
    (running : request.progress = .running) :
    (loop.step options enabled request answer).attempts = request.attempts + 1 ∧
      ((loop.step options enabled request answer).progress = .running →
        enabled = true ∧ request.runner.failureState = false ∧
          request.attempts ≠ options.maxRetries ∧
            (loop.step options enabled request answer).runner.failureState = false) := by
  have spec := once_spec options loop request.attempts enabled answer request.runner
  unfold Outcome at spec
  unfold step
  rw [if_pos running]
  split at spec
  · next returned final result =>
    rw [result]
    cases spec with
    | returned => exact ⟨rfl, nofun⟩
    | goesOn more kept =>
        have notFailing := allowed_fails more
        rw [Bool.or_eq_false_iff, beq_eq_false_iff_ne] at notFailing
        exact ⟨rfl, fun _ => ⟨(Bool.and_eq_true_iff.mp more).1, notFailing.1, notFailing.2, kept⟩⟩
  · next exception final result =>
    rw [result]
    exact ⟨rfl, nofun⟩

private theorem run_ended {loop : RequestLoop} {enabled : Bool} {request : Download}
    (answers : List Answer) (ended : request.progress ≠ .running) :
    loop.run options enabled request answers = request := by
  induction answers with
  | nil => rfl
  | cons answer rest ih =>
      have same : loop.step options enabled request answer = request := if_neg ended
      unfold run at ih ⊢
      rw [List.foldl_cons, same, ih]

private theorem run_bounded {loop : RequestLoop} {enabled : Bool} {request : Download}
    (answers : List Answer) (bound : request.attempts ≤ options.maxRetries + 1)
    (left : request.progress = .running → request.attempts ≤ options.maxRetries) :
    (loop.run options enabled request answers).attempts ≤ options.maxRetries + 1 := by
  induction answers generalizing request with
  | nil => exact bound
  | cons answer rest ih =>
      cases running : decide (request.progress = .running) with
      | false =>
          rw [run_ended _ (of_decide_eq_false running)]
          exact bound
      | true =>
          have running := of_decide_eq_true running
          obtain ⟨count, goesOn⟩ := @step_running options loop enabled _ answer running
          have before := left running
          refine ih ?_ fun still => ?_
          · rw [count]
            exact Nat.succ_le_succ before
          · have notLast := (goesOn still).2.2.1
            rw [count]
            omega

/-- A request makes at most one attempt more than there are retries, and exactly one if retries
are disabled or the runner is in the failure state. It leaves and clears the failure state as it
must exactly if no download is cut off in the last attempt, and no transfer of a response without a
server error is broken off in the failure state. -/
theorem run_attempts_iff (options : HTTPOptions) (loop : RequestLoop)
    (enabled failing isJson : Bool) (redirects : List String) (answers : List Answer) :
    let request := Download.start failing isJson redirects
    let final := loop.run options enabled request answers
    (final.attempts ≤ options.maxRetries + 1 ∧
      (failing = true ∨ enabled = false → answers ≠ [] →
        final.attempts = 1 ∧ final.progress ≠ .running)) ∧
    (EachStep (loop.step options enabled)
        (fun before answer => before.progress = .running →
          Keeps enabled answer before (loop.step options enabled before answer)) request answers ↔
      EachStep (loop.step options enabled)
        (fun before answer => before.progress = .running → Whole options loop enabled before answer)
        request answers) := by
  intro request final
  refine ⟨⟨run_bounded answers (Nat.zero_le _) fun _ => Nat.zero_le _, fun single some => ?_⟩,
    EachStep.congr fun before answer => imp_congr_right keeps_iff_whole⟩
  cases answers with
  | nil => exact absurd rfl some
  | cons answer rest =>
      have running : request.progress = .running := rfl
      obtain ⟨count, goesOn⟩ := @step_running options loop enabled _ answer running
      have ended : (loop.step options enabled request answer).progress ≠ .running := by
        intro still
        obtain ⟨isEnabled, notFailing, _⟩ := goesOn still
        rcases single with fails | disabled
        · rw [show request.runner.failureState = failing from rfl, fails] at notFailing
          cases notFailing
        · rw [disabled] at isEnabled
          cases isEnabled
      have whole : final = loop.step options enabled request answer := run_ended rest ended
      rw [whole]
      exact ⟨count, ended⟩

/-- The last attempt of a download gets a response, and its body is cut off: the request throws,
and the next one makes all its attempts again. -/
theorem cut_off_clears_failure :
    let ok : Response := ⟨200, "", none, none, []⟩
    let final := (custom fun _ _ => none).run ⟨1, true⟩ true (.start false false [])
      [.failed .connection, .answered ok [] (some (.other "Read"))]
    final.attempts = 2 ∧ final.progress = .threw (.library (.other "Read")) ∧
      RunnerException.exhausted (.library (.other "Read")) = true ∧
        final.runner.failureState = false := by
  decide

end RequestLoop

end Andromeda.Backend
