import Andromeda.Backend.HTTPRunner
import Andromeda.Library.Outcome
import Mathlib.Algebra.Ring.Nat
import Mathlib.Data.List.Induction
import Mathlib.Tactic.ByContra

/-! What a download passes to the stream function: the bodies of accepted responses, each from its
start, and the bodies of error responses that are retried. -/

set_option autoImplicit false

namespace Andromeda.Backend

open Andromeda.Library

variable {options : HTTPOptions} {streamer : Streamer}

/-- The chunks of an answer. -/
def Answer.chunks : Answer → List Chunk
  | .failed _ => []
  | .answered _ chunks _ => chunks

/-- The number of bytes in some calls of the stream function. -/
def bytesOf (pieces : List Piece) : Nat :=
  (pieces.map fun piece => piece.chunk.bytes.length).sum

/-- The calls for some chunks of one attempt. -/
def piecesFrom (attempt offset : Nat) : List Chunk → List Piece
  | [] => []
  | chunk :: rest =>
    ⟨attempt, offset, chunk⟩ :: piecesFrom attempt (offset + chunk.bytes.length) rest

private theorem attempt_of_mem_piecesFrom {attempt offset : Nat} {chunks : List Chunk}
    {piece : Piece}
    (member : piece ∈ piecesFrom attempt offset chunks) : piece.attempt = attempt := by
  induction chunks generalizing offset with
  | nil => cases member
  | cons chunk rest ih =>
      rcases List.mem_cons.mp member with rfl | later
      · rfl
      · exact ih later

private theorem map_chunk_piecesFrom (attempt offset : Nat) (chunks : List Chunk) :
    (piecesFrom attempt offset chunks).map Piece.chunk = chunks := by
  induction chunks generalizing offset with
  | nil => rfl
  | cons chunk rest ih => simp [piecesFrom, ih]

private theorem offset_piecesFrom {attempt offset : Nat} {chunks : List Chunk}
    {before after : List Piece}
    {piece : Piece} (split : piecesFrom attempt offset chunks = before ++ piece :: after) :
    piece.offset = offset + bytesOf before := by
  induction chunks generalizing offset before with
  | nil => simp [piecesFrom] at split
  | cons chunk rest ih =>
      cases before with
      | nil =>
          rw [piecesFrom, List.nil_append, List.cons.injEq] at split
          rw [← split.1]
          rfl
      | cons first others =>
          rw [piecesFrom, List.cons_append, List.cons.injEq] at split
          rw [ih split.2, ← split.1]
          simp [bytesOf, Nat.add_assoc]

namespace HTTPRunner

/-- What an attempt passes on, with retries allowed or not. -/
structure Passes (answer : Answer) (retry : Bool) (passed : List Chunk) : Prop where
  first : passed <+: answer.chunks
  accepted : passed ≠ [] → ∃ response chunks cutOff,
    answer = .answered response chunks cutOff ∧
      (response.status = 200 ∨ retry = true ∧ wantRetry response = true)
  retried {response : Response} {chunks : List Chunk} {cutOff : Option LibraryError} :
    answer = .answered response chunks cutOff → retry = true → wantRetry response = true →
      chunks ≠ [] → passed ≠ []

private theorem respFunc_spec (response : Response) (runner : HTTPRunner) :
    Outcome (respFunc options response) runner
      (fun more final => more = true ∧ final.offset = 0 ∧ final.streamed = runner.streamed ∧
        (response.status = 200 ∨ runner.canRetry = true ∧ wantRetry response = true))
      (fun _ final => final.streamed = runner.streamed ∧
        (runner.canRetry && wantRetry response) = false) := by
  unfold respFunc handleResponse
  simp only [Outcome.bind_iff, Outcome.get_iff, Outcome.set_iff]
  cases retry : runner.canRetry && wantRetry response with
  | true =>
      rw [if_pos rfl]
      rw [Bool.and_eq_true] at retry
      exact ⟨rfl, rfl, rfl, .inr retry⟩
  | false =>
      rw [if_neg Bool.false_ne_true]
      simp only [acceptResponse, Outcome.bind_iff, Outcome.modify_iff, Outcome.pure_iff]
      unfold checkStatus
      split
      · next ok => exact ⟨trivial, trivial, rfl, .inl ok⟩
      all_goals exact ⟨rfl, trivial⟩

private theorem receive_spec (attempt : Nat) (chunks : List Chunk) (runner : HTTPRunner) :
    Outcome (receive streamer attempt chunks) runner
      (fun _ final =>
        final.streamed = runner.streamed ++ piecesFrom attempt runner.offset chunks)
      (fun _ final => ∃ passed, passed <+: chunks ∧ passed ≠ [] ∧
        final.streamed = runner.streamed ++ piecesFrom attempt runner.offset passed) := by
  induction chunks generalizing runner with
  | nil => exact (List.append_nil _).symm
  | cons chunk rest ih =>
      unfold receive recvFunc
      simp only [Outcome.bind_iff, Outcome.get_iff, Outcome.set_iff]
      cases thrown : streamer runner.streamed ⟨attempt, runner.offset, chunk⟩ with
      | some message => exact ⟨[chunk], by simp, by simp, rfl⟩
      | none =>
          simp only [Outcome.bind_iff, Outcome.modify_iff, Outcome.pure_iff, if_true]
          apply (ih _).mono
          · intro _ final streamed
            rw [streamed]
            simp [piecesFrom]
          · rintro _ final ⟨passed, first, _, streamed⟩
            refine ⟨chunk :: passed, List.cons_prefix_cons.mpr ⟨rfl, first⟩, by simp, ?_⟩
            rw [streamed]
            simp [piecesFrom]

private theorem getRequest_spec (attempt : Nat) (answer : Answer) (runner : HTTPRunner) :
    Outcome (getRequest options streamer attempt answer) runner
      (fun _ final => ∃ passed, Passes answer runner.canRetry passed ∧
        final.streamed = runner.streamed ++ piecesFrom attempt 0 passed)
      (fun _ final => ∃ passed, Passes answer runner.canRetry passed ∧
        final.streamed = runner.streamed ++ piecesFrom attempt 0 passed) := by
  cases answer with
  | failed error =>
      exact ⟨[], ⟨List.nil_prefix, by simp, by simp⟩, (List.append_nil _).symm⟩
  | answered response chunks cutOff =>
      unfold getRequest
      simp only [Outcome.bind_iff]
      apply (respFunc_spec response runner).mono
      · rintro more reached ⟨rfl, offset, streamed, accepted⟩
        unfold receiveIf
        rw [if_pos rfl]
        apply (receive_spec attempt chunks reached).mono
        · intro _ final passed
          refine ⟨chunks, ⟨List.prefix_rfl, fun _ => ⟨response, chunks, cutOff, rfl, accepted⟩,
            fun same _ _ some => ?_⟩, ?_⟩
          · cases same
            exact some
          · rw [← streamed, ← offset]
            exact passed
        · rintro _ final ⟨passed, first, some, received⟩
          refine ⟨passed, ⟨first, fun _ => ⟨response, chunks, cutOff, rfl, accepted⟩,
            fun _ _ _ _ => some⟩, ?_⟩
          rw [← streamed, ← offset]
          exact received
      · rintro _ final ⟨streamed, refused⟩
        refine ⟨[], ⟨List.nil_prefix, fun some => absurd rfl some, fun same retry want => ?_⟩, ?_⟩
        · cases same
          rw [retry, want] at refused
          cases refused
        · rw [streamed]
          exact (List.append_nil _).symm

private theorem handleNonResponse_spec (result : HttpResult) (retry : Bool) (runner : HTTPRunner) :
    Outcome (handleNonResponse result retry) runner
      (fun _ final => final = runner ∧ retry = true) (fun _ final => final = runner) := by
  unfold handleNonResponse
  split
  · next allowed => exact ⟨rfl, allowed⟩
  · split
    · split
      · rfl
      · rfl
    · split
      · rfl
      · rfl

private theorem requestOnce_spec (options : HTTPOptions) (streamer : Streamer) (number : Nat)
    (attempt : Attempt) (runner : HTTPRunner) :
    Outcome (requestOnce options streamer number attempt) runner
      (fun _ final => ∃ passed,
        Passes attempt.answer (allowsRetry options runner number attempt) passed ∧
          final.streamed = runner.streamed ++ piecesFrom number 0 passed)
      (fun _ final => ∃ passed,
        Passes attempt.answer (allowsRetry options runner number attempt) passed ∧
          final.streamed = runner.streamed ++ piecesFrom number 0 passed) := by
  unfold requestOnce
  simp only [Outcome.bind_iff, Outcome.modify_iff]
  apply (getRequest_spec number attempt.answer _).mono
  · rintro result reached passes
    simp only [Outcome.get_iff]
    split
    · exact passes
    · simp only [Outcome.bind_iff]
      apply (handleNonResponse_spec result reached.canRetry reached).mono
      · rintro _ final ⟨rfl, _⟩
        exact passes
      · rintro _ final rfl
        exact passes
  · intro _ _ passes
    exact passes

end HTTPRunner

namespace Download

open HTTPRunner

variable {download : Download} {attempts : List Attempt}

/-- The calls of the stream function that a download has made. -/
abbrev log (download : Download) : List Piece := download.runner.streamed

/-- The calls are for bodies of responses with status 200. -/
def Successful (attempts : List Attempt) (log : List Piece) : Prop :=
  ∀ piece ∈ log, ∃ attempt response chunks cutOff, attempts[piece.attempt]? = some attempt ∧
    attempt.answer = .answered response chunks cutOff ∧ response.status = 200

/-- The calls are for bodies of responses with status 200, chunk by chunk, and each is made with
the number of bytes of the same response before it as its offset. -/
structure Pure (attempts : List Attempt) (log : List Piece) : Prop where
  successful : Successful attempts log
  bodies : ∀ number attempt, attempts[number]? = some attempt →
    ((log.filter fun piece => piece.attempt = number).map Piece.chunk) <+: attempt.answer.chunks
  offsets : ∀ before piece after, log = before ++ piece :: after →
    piece.offset = bytesOf (before.filter fun other => other.attempt = piece.attempt)

/-- No body comes with a response of status 500 or 503 whose retry is allowed. -/
def NoRetriedBody (options : HTTPOptions) (download : Download) (attempt : Attempt) : Prop :=
  download.progress = .running → ∀ response chunks cutOff,
    attempt.answer = .answered response chunks cutOff → wantRetry response = true →
      allowsRetry options download.runner download.attempts attempt = true → chunks = []

/-- What every download keeps: the chunks passed on and their offsets. -/
structure Ordered (attempts : List Attempt) (download : Download) : Prop where
  number : download.progress = .running → download.attempts = attempts.length
  past : ∀ piece ∈ download.log, piece.attempt < attempts.length
  bodies : ∀ number attempt, attempts[number]? = some attempt →
    ((download.log.filter fun piece => piece.attempt = number).map Piece.chunk) <+:
      attempt.answer.chunks
  offsets : ∀ before piece after, download.log = before ++ piece :: after →
    piece.offset = bytesOf (before.filter fun other => other.attempt = piece.attempt)

private theorem ordered_start (failureState isJson : Bool) (redirects : List String) :
    Ordered [] (start failureState isJson redirects) := by
  refine ⟨fun _ => rfl, fun piece member => ?_, by simp, fun before piece after split => ?_⟩
  · cases member
  · exact absurd split.symm (List.append_ne_nil_of_right_ne_nil _ (List.cons_ne_nil _ _))

private theorem step_spec (options : HTTPOptions) (streamer : Streamer) (attempt : Attempt)
    (running : download.progress = .running) :
    ∃ passed, Passes attempt.answer
        (allowsRetry options download.runner download.attempts attempt) passed ∧
      (download.step options streamer attempt).log =
        download.log ++ piecesFrom download.attempts 0 passed ∧
      (download.step options streamer attempt).attempts = download.attempts + 1 := by
  have outcome := requestOnce_spec options streamer download.attempts attempt download.runner
  unfold step
  rw [if_pos running]
  unfold Outcome at outcome
  split at outcome
  · next more final result =>
    rw [result]
    cases more with
    | true =>
        obtain ⟨passed, passes, streamed⟩ := outcome
        exact ⟨passed, passes, streamed, rfl⟩
    | false =>
        obtain ⟨passed, passes, streamed⟩ := outcome
        exact ⟨passed, passes, streamed, rfl⟩
  · next exception final result =>
    rw [result]
    obtain ⟨passed, passes, streamed⟩ := outcome
    exact ⟨passed, passes, streamed, rfl⟩

private theorem filter_piecesFrom {number : Nat} {chunks : List Chunk} {pieces : List Piece}
    (past : ∀ piece ∈ pieces, piece.attempt < number) :
    ((pieces ++ piecesFrom number 0 chunks).filter fun piece => piece.attempt = number) =
      piecesFrom number 0 chunks := by
  rw [List.filter_append]
  have none : (pieces.filter fun piece => piece.attempt = number) = [] := by
    rw [List.filter_eq_nil_iff]
    intro piece member
    have before := past piece member
    simp only [decide_eq_true_eq]
    omega
  rw [none, List.nil_append, List.filter_eq_self]
  intro piece member
  exact decide_eq_true (attempt_of_mem_piecesFrom member)

private theorem bytesOf_last {number : Nat} {pieces middle : List Piece}
    (past : ∀ piece ∈ pieces, piece.attempt < number)
    (last : ∀ piece ∈ middle, piece.attempt = number) :
    bytesOf ((pieces ++ middle).filter fun other => other.attempt = number) = bytesOf middle := by
  have none : (pieces.filter fun piece => piece.attempt = number) = [] := by
    rw [List.filter_eq_nil_iff]
    intro other member
    have before := past other member
    simp only [decide_eq_true_eq]
    omega
  have all : (middle.filter fun piece => piece.attempt = number) = middle := by
    rw [List.filter_eq_self]
    exact fun other member => decide_eq_true (last other member)
  rw [List.filter_append, none, all, List.nil_append]

private theorem offset_append {number : Nat} {chunks : List Chunk}
    {pieces before after : List Piece}
    {piece : Piece} (past : ∀ piece ∈ pieces, piece.attempt < number)
    (offsets : ∀ before piece after, pieces = before ++ piece :: after →
      piece.offset = bytesOf (before.filter fun other => other.attempt = piece.attempt))
    (split : pieces ++ piecesFrom number 0 chunks = before ++ piece :: after) :
    piece.offset = bytesOf (before.filter fun other => other.attempt = piece.attempt) := by
  have fresh (middle : List Piece)
      (rest : piecesFrom number 0 chunks = middle ++ piece :: after) :
      piece.offset = bytesOf ((pieces ++ middle).filter fun other =>
        other.attempt = piece.attempt) := by
    have own : piece.attempt = number := by
      apply attempt_of_mem_piecesFrom
      rw [rest]
      simp
    have last : ∀ other ∈ middle, other.attempt = number := by
      intro other member
      apply attempt_of_mem_piecesFrom
      rw [rest]
      exact List.mem_append_left _ member
    rw [own, bytesOf_last past last, offset_piecesFrom rest, Nat.zero_add]
  rcases List.append_eq_append_iff.mp split with ⟨middle, rfl, rest⟩ | ⟨middle, same, rest⟩
  · exact fresh middle rest
  · cases middle with
    | nil =>
        rw [List.append_nil] at same
        subst same
        simpa using fresh [] rest.symm
    | cons first others =>
        rw [List.cons_append, List.cons.injEq] at rest
        rw [← rest.1] at same
        exact offsets before piece others same

private theorem Ordered.ended (ordered : Ordered attempts download) (attempt : Attempt)
    (ended : download.progress ≠ .running) : Ordered (attempts ++ [attempt]) download where
  number running := absurd running ended
  past piece member := by
    have before := ordered.past piece member
    simp only [List.length_append, List.length_singleton]
    omega
  bodies number other found := by
    rcases Nat.lt_or_ge number attempts.length with below | beyond
    · rw [List.getElem?_append_left below] at found
      exact ordered.bodies number other found
    · have none : (download.log.filter fun piece => piece.attempt = number) = [] := by
        rw [List.filter_eq_nil_iff]
        intro piece member
        have before := ordered.past piece member
        simp only [decide_eq_true_eq]
        omega
      rw [none]
      exact List.nil_prefix
  offsets := ordered.offsets

private theorem Ordered.step (ordered : Ordered attempts download) (attempt : Attempt) :
    Ordered (attempts ++ [attempt]) (download.step options streamer attempt) := by
  by_cases running : download.progress = .running
  · obtain ⟨passed, passes, log, count⟩ := step_spec options streamer attempt running
    have length := ordered.number running
    rw [length] at log count
    constructor
    · intro _
      rw [count]
      simp
    · intro piece member
      rw [log] at member
      simp only [List.length_append, List.length_singleton]
      rcases List.mem_append.mp member with old | new
      · have before := ordered.past piece old
        omega
      · have own := attempt_of_mem_piecesFrom new
        omega
    · intro number other found
      rw [log]
      rcases Nat.lt_trichotomy number attempts.length with below | rfl | beyond
      · rw [List.getElem?_append_left below] at found
        have none : ((piecesFrom attempts.length 0 passed).filter fun piece =>
            piece.attempt = number) = [] := by
          rw [List.filter_eq_nil_iff]
          intro piece member
          have own := attempt_of_mem_piecesFrom member
          simp only [decide_eq_true_eq]
          omega
        rw [List.filter_append, none, List.append_nil]
        exact ordered.bodies number other found
      · rw [List.getElem?_concat_length, Option.some.injEq] at found
        subst found
        rw [filter_piecesFrom ordered.past, map_chunk_piecesFrom]
        exact passes.first
      · rw [List.getElem?_eq_none (by rw [List.length_append, List.length_singleton]; omega)]
          at found
        cases found
    · intro before piece after split
      rw [log] at split
      exact offset_append ordered.past ordered.offsets split
  · unfold Download.step
    rw [if_neg running]
    exact ordered.ended attempt running

private theorem not_successful_of_wantRetry {response : Response}
    (want : wantRetry response = true) :
    response.status ≠ 200 := by
  intro ok
  unfold wantRetry at want
  rw [ok] at want
  cases want

private theorem Ordered.successful_append (ordered : Ordered attempts download)
    (attempt : Attempt) :
    Successful (attempts ++ [attempt]) download.log ↔ Successful attempts download.log := by
  apply forall₂_congr
  intro piece member
  rw [List.getElem?_append_left (ordered.past piece member)]

/-- The calls are all for successful responses after an attempt exactly if they were before it
and the attempt has no body whose response is retried. -/
private theorem Ordered.successful_step (ordered : Ordered attempts download) (attempt : Attempt) :
    Successful (attempts ++ [attempt]) (download.step options streamer attempt).log ↔
      Successful attempts download.log ∧ NoRetriedBody options download attempt := by
  by_cases running : download.progress = .running
  · obtain ⟨passed, passes, log, _⟩ := step_spec options streamer attempt running
    rw [ordered.number running] at log
    rw [log, ← ordered.successful_append attempt]
    have found : (attempts ++ [attempt])[attempts.length]? = some attempt :=
      List.getElem?_concat_length
    constructor
    · intro successful
      refine ⟨fun piece member => successful piece (List.mem_append_left _ member),
        fun _ response chunks cutOff same want allowed => ?_⟩
      by_contra nonempty
      obtain ⟨chunk, rest, first⟩ :=
        List.exists_cons_of_ne_nil (passes.retried same allowed want nonempty)
      obtain ⟨other, otherResponse, _, _, lookup, answered, ok⟩ :=
        successful ⟨attempts.length, 0, chunk⟩ (List.mem_append_right _ (by
          rw [first]
          exact List.mem_cons_self))
      rw [found, Option.some.injEq] at lookup
      rw [← lookup, same, Answer.answered.injEq] at answered
      rw [← answered.1] at ok
      exact not_successful_of_wantRetry want ok
    · rintro ⟨before, clean⟩ piece member
      rcases List.mem_append.mp member with old | new
      · exact before piece old
      · have some : passed ≠ [] := by
          rintro rfl
          cases new
        obtain ⟨response, chunks, cutOff, same, ok | ⟨allowed, want⟩⟩ := passes.accepted some
        · refine ⟨attempt, response, chunks, cutOff, ?_, same, ok⟩
          rw [attempt_of_mem_piecesFrom new]
          exact found
        · have none := clean running response chunks cutOff same want allowed
          have first := passes.first
          rw [same] at first
          change passed <+: chunks at first
          rw [none, List.prefix_nil] at first
          exact absurd first some
  · unfold Download.step
    rw [if_neg running, ordered.successful_append]
    exact ⟨fun successful => ⟨successful, fun now => absurd now running⟩, And.left⟩

/-- What a run of attempts passes on is that of successful responses only, exactly if no attempt
has a body whose response is retried. -/
private theorem run_successful (options : HTTPOptions) (streamer : Streamer)
    (failureState isJson : Bool) (redirects : List String) (attempts : List Attempt) :
    let begin_ := start failureState isJson redirects
    Ordered attempts (begin_.run options streamer attempts) ∧
      (Successful attempts (begin_.run options streamer attempts).log ↔
        EachStep (Download.step options streamer) (NoRetriedBody options) begin_ attempts) := by
  intro begin_
  induction attempts using List.reverseRecOn with
  | nil =>
      refine ⟨ordered_start failureState isJson redirects, fun _ => trivial, fun _ piece member => ?_⟩
      cases member
  | append_singleton attempts attempt ih =>
      obtain ⟨ordered, successful⟩ := ih
      have last : begin_.run options streamer (attempts ++ [attempt]) =
          (begin_.run options streamer attempts).step options streamer attempt := by
        simp [run]
      rw [last, ordered.successful_step, successful, EachStep.append_iff]
      exact ⟨ordered.step attempt, and_congr_right fun _ => (and_iff_left trivial).symm⟩

/-- The stream function gets only bodies of successful responses, in order and with the right
offsets, exactly if no attempt has a body whose response of status 500 or 503 is retried. -/
theorem run_pure_iff (options : HTTPOptions) (streamer : Streamer) (failureState isJson : Bool)
    (redirects : List String) (attempts : List Attempt) :
    Pure attempts
        ((start failureState isJson redirects).run options streamer attempts).log ↔
      EachStep (Download.step options streamer) (NoRetriedBody options)
        (start failureState isJson redirects) attempts := by
  obtain ⟨ordered, successful⟩ := run_successful options streamer failureState isJson redirects
    attempts
  rw [← successful]
  exact ⟨fun clean => clean.successful, fun good => ⟨good, ordered.bodies, ordered.offsets⟩⟩

/-- The server is overloaded at the first attempt and says so in a body; the second succeeds. -/
def overloadedOnce : List Attempt :=
  [⟨true, .answered ⟨503, "", none, some "text/html", []⟩ [⟨[60, 104], by decide⟩] none⟩,
    ⟨true, .answered ⟨200, "", none, none, []⟩ [⟨[1, 2, 3], by decide⟩] none⟩]

/-- The body of the error goes to the stream function before the file does. -/
theorem error_body_streamed : ¬ Pure overloadedOnce
    ((start false false []).run ⟨4, false⟩ (fun _ _ => none) overloadedOnce).log := by
  intro clean
  obtain ⟨attempt, response, chunks, cutOff, found, answered, ok⟩ :=
    clean.successful ⟨0, 0, ⟨[60, 104], by decide⟩⟩ List.mem_cons_self
  cases found
  cases answered
  cases ok

end Download

end Andromeda.Backend
