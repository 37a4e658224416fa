import Andromeda.Backend.SendFile

/-! The requests that `SendFile` has accepted cover its stream, unless a request before the last
one was sent again after bytes of it had been read. -/

set_option autoImplicit false

namespace Andromeda.Backend

variable {data : List UInt8} {userFunc : WriteFunc data} {offset : Nat} {upload oneshot : Bool}

/-- Each request is sent with the offset at which the one before it ended. -/
def Contiguous : Nat → List AcceptedRequest → Prop
  | _, [] => True
  | start, request :: rest =>
    request.offset = start ∧ Contiguous (start + request.body.length) rest

/-- The requests cover a stream exactly. -/
def Covers (data : List UInt8) (offset : Nat) (requests : List AcceptedRequest) : Prop :=
  Contiguous offset requests ∧ (requests.map AcceptedRequest.body).flatten = data

private theorem covers_cons_iff {request : AcceptedRequest} {rest : List AcceptedRequest}
    (stored : request.body <+: data) :
    Covers data offset (request :: rest) ↔ request.offset = offset ∧
      Covers (data.drop request.body.length) (offset + request.body.length) rest := by
  obtain ⟨left, rfl⟩ := stored
  simp only [Covers, Contiguous, List.map_cons, List.flatten_cons, List.append_cancel_left_eq,
    List.drop_left, and_assoc]

private theorem writeFunc_spec {maxSize byte soffset buflen : Nat} {stream after : StreamState}
    {bytes : List UInt8} {more : Bool}
    (wrote : writeFunc userFunc maxSize byte oneshot soffset buflen stream =
      .ok (bytes, more, after)) :
    bytes <+: data.drop (soffset + byte) ∧
      after.streamSize = stream.streamSize + bytes.length ∧
        (more = false → soffset ≠ 0 ∧ after = stream ∧ bytes = [] ∨
          after.streamCont = false ∧ bytes = data.drop (soffset + byte)) ∧
          (more = true → after.streamCont = true) := by
  unfold writeFunc at wrote
  split at wrote
  · next limited =>
    split at wrote
    · cases wrote
    · cases wrote
      refine ⟨List.nil_prefix, rfl, fun _ => .inl ⟨by omega, rfl, rfl⟩, nofun⟩
  · cases wrote
    refine ⟨userFunc.stored _ _, rfl, fun ended => ?_, id⟩
    exact .inr ⟨ended, userFunc.complete ended⟩

private theorem append_prefix_drop {body bytes : List UInt8} {byte : Nat}
    (stored : body <+: data.drop byte) (next : bytes <+: data.drop (body.length + byte)) :
    body ++ bytes <+: data.drop byte := by
  obtain ⟨left, same⟩ := stored
  have following : data.drop (body.length + byte) = left := by
    rw [Nat.add_comm, ← List.drop_drop, ← same, List.drop_left]
  rw [following] at next
  obtain ⟨last, rfl⟩ := next
  exact ⟨last, by rw [← same, List.append_assoc]⟩

/-- A send reads the bytes of its body in order; once finished, it has read all there are or the
stream goes on. -/
theorem send_spec {maxSize byte : Nat} {body : List UInt8} {stream : StreamState}
    {buffers : List Nat} {sent : Sent}
    (ran : send (writeFunc userFunc maxSize byte oneshot) body stream buffers = .ok sent)
    (stored : body <+: data.drop byte) (continues : body ≠ [] → stream.streamCont = true) :
    sent.body <+: data.drop byte ∧
      sent.stream.streamSize + body.length = stream.streamSize + sent.body.length ∧
        (sent.finished = true → sent.stream.streamCont = false → sent.body = data.drop byte) := by
  induction buffers generalizing body stream with
  | nil =>
      cases ran
      exact ⟨stored, rfl, nofun⟩
  | cons buflen rest ih =>
      unfold send at ran
      cases wrote : writeFunc userFunc maxSize byte oneshot body.length buflen stream with
      | error thrown =>
          rw [wrote] at ran
          cases ran
      | ok result =>
          obtain ⟨bytes, more, after⟩ := result
          rw [wrote] at ran
          obtain ⟨next, size, ends, goesOn⟩ := writeFunc_spec wrote
          have longer := append_prefix_drop stored next
          cases more with
          | true =>
              obtain ⟨inOrder, total, all⟩ := ih ran longer fun _ => goesOn rfl
              refine ⟨inOrder, ?_, all⟩
              rw [size, List.length_append] at total
              omega
          | false =>
              cases ran
              refine ⟨longer, ?_, fun _ stops => ?_⟩
              · simp only [size, List.length_append]
                omega
              · rcases ends rfl with ⟨started, rfl, _⟩ | ⟨_, rfl⟩
                · have nonempty : body ≠ [] := fun empty => started (by rw [empty]; rfl)
                  rw [continues nonempty] at stops
                  cases stops
                · obtain ⟨left, same⟩ := stored
                  rw [Nat.add_comm, ← List.drop_drop, ← same, List.drop_left]

private theorem sendRequest_spec {state after : SendState} {exchange : Exchange}
    {accepted : Option AcceptedRequest}
    (ran : sendRequest userFunc offset upload oneshot state exchange = .ok (accepted, after)) :
    (accepted = none ∧ after.streamCont = true ∧ after.byte = state.byte) ∨
      ∃ request, accepted = some request ∧ request.offset = offset + state.byte ∧
        request.body <+: data.drop state.byte ∧
          after.byte = state.byte + (request.reread + request.body.length) ∧
            (after.streamCont = false → request.body = data.drop state.byte) := by
  unfold sendRequest at ran
  dsimp only at ran
  cases again : sendRepeated (writeFunc userFunc state.uploadMaxBytes state.byte oneshot)
      ⟨state.streamCont, 0⟩ exchange.repeated with
  | error thrown =>
      rw [again] at ran
      cases ran
  | ok before =>
      rw [again] at ran
      cases last : send (writeFunc userFunc state.uploadMaxBytes state.byte oneshot) [] before
          exchange.buffers with
      | error thrown =>
          simp only [bind, Except.bind, last] at ran
          cases ran
      | ok sent =>
          obtain ⟨stored, size, all⟩ := send_spec last List.nil_prefix (absurd rfl)
          simp only [bind, Except.bind, last] at ran
          split at ran
          · next id reply finished =>
            cases ran
            refine .inr ⟨_, rfl, rfl, stored, ?_, all finished⟩
            simpa using size
          · cases ran
          · split at ran
            · cases ran
            · split at ran
              · cases ran
              · cases ran
                exact .inl ⟨rfl, rfl, rfl⟩
          · cases ran

private theorem sendLoop_returned {state : SendState} {exchanges : List Exchange}
    {requests : List AcceptedRequest}
    (ran : sendLoop userFunc offset upload oneshot state exchanges = .ok (some requests)) :
    (state.streamCont = false ∧ requests = []) ∨
      (state.streamCont = true ∧ ∃ exchange rest accepted after later,
        exchanges = exchange :: rest ∧
          sendRequest userFunc offset upload oneshot state exchange = .ok (accepted, after) ∧
            sendLoop userFunc offset upload oneshot after rest = .ok (some later) ∧
              requests = accepted.toList ++ later) := by
  unfold sendLoop at ran
  cases continues : state.streamCont with
  | false =>
      simp only [continues, Bool.false_eq_true, if_false] at ran
      cases ran
      exact .inl ⟨rfl, rfl⟩
  | true =>
      simp only [continues, if_true] at ran
      refine .inr ⟨rfl, ?_⟩
      cases exchanges with
      | nil => cases ran
      | cons exchange rest =>
          cases sent : sendRequest userFunc offset upload oneshot state exchange with
          | error thrown =>
              simp only [bind, Except.bind, sent] at ran
              cases ran
          | ok result =>
              obtain ⟨accepted, after⟩ := result
              simp only [bind, Except.bind, sent] at ran
              cases looped : sendLoop userFunc offset upload oneshot after rest with
              | error thrown =>
                  rw [looped] at ran
                  cases ran
              | ok later =>
                  rw [looped] at ran
                  cases later with
                  | none => cases ran
                  | some later =>
                      cases ran
                      exact ⟨exchange, rest, accepted, after, later, rfl, sent, looped, rfl⟩

/-- While the stream goes on, the first request accepted is sent with the current offset, and
there is one. -/
private theorem sendLoop_first {state : SendState} {exchanges : List Exchange}
    {requests : List AcceptedRequest} (continues : state.streamCont = true)
    (ran : sendLoop userFunc offset upload oneshot state exchanges = .ok (some requests)) :
    ∃ request rest, requests = request :: rest ∧ request.offset = offset + state.byte := by
  induction exchanges generalizing state with
  | nil =>
      rcases sendLoop_returned ran with ⟨stopped, _⟩ | ⟨_, _, _, _, _, _, split, _⟩
      · rw [continues] at stopped
        cases stopped
      · cases split
  | cons exchange rest ih =>
      rcases sendLoop_returned ran with ⟨stopped, _⟩ | ⟨_, _, _, _, after, later, split, sent,
        looped, rfl⟩
      · rw [continues] at stopped
        cases stopped
      · cases split
        rcases sendRequest_spec sent with ⟨rfl, goesOn, same⟩ | ⟨request, rfl, started, _⟩
        · obtain ⟨request, others, found, started⟩ := ih goesOn looped
          rw [same] at started
          exact ⟨request, others, found, started⟩
        · exact ⟨request, later, rfl, started⟩

private theorem sendLoop_covers_iff {state : SendState} {exchanges : List Exchange}
    {requests : List AcceptedRequest} (continues : state.streamCont = true)
    (ran : sendLoop userFunc offset upload oneshot state exchanges = .ok (some requests)) :
    Covers (data.drop state.byte) (offset + state.byte) requests ↔
      ∀ request ∈ requests.dropLast, request.reread = 0 := by
  induction exchanges generalizing state requests with
  | nil =>
      rcases sendLoop_returned ran with ⟨stopped, _⟩ | ⟨_, _, _, _, _, _, split, _⟩
      · rw [continues] at stopped
        cases stopped
      · cases split
  | cons exchange rest ih =>
      rcases sendLoop_returned ran with ⟨stopped, _⟩ | ⟨_, _, _, _, after, later, split, sent,
        looped, rfl⟩
      · rw [continues] at stopped
        cases stopped
      · cases split
        rcases sendRequest_spec sent with ⟨rfl, goesOn, same⟩ |
          ⟨request, rfl, started, stored, moved, all⟩
        · -- a rejected request: the same chunk is tried again
          have again := ih goesOn looped
          rw [same] at again
          exact again
        · cases goesOn : after.streamCont with
          | false =>
              -- the last request
              have none : later = [] := by
                rcases sendLoop_returned looped with ⟨_, none⟩ | ⟨running, _⟩
                · exact none
                · rw [goesOn] at running
                  cases running
              subst none
              have whole : Covers (data.drop state.byte) (offset + state.byte) [request] := by
                refine ⟨⟨started, trivial⟩, ?_⟩
                simp [all goesOn]
              exact ⟨fun _ _ => nofun, fun _ => whole⟩
          | true =>
              obtain ⟨next, others, rfl, nextStarted⟩ := sendLoop_first goesOn looped
              have later := ih goesOn looped
              rw [Option.toList_some, List.singleton_append, covers_cons_iff stored,
                List.dropLast_cons_cons, List.forall_mem_cons, List.drop_drop]
              constructor
              · intro covered
                obtain ⟨_, contiguous, flat⟩ := covered
                have same : offset + state.byte + request.body.length = offset + after.byte :=
                  contiguous.1.symm.trans nextStarted
                have fresh : request.reread = 0 := by
                  rw [moved] at same
                  omega
                have place : state.byte + request.body.length = after.byte := by omega
                refine ⟨fresh, later.mp ⟨?_, ?_⟩⟩
                · rw [← same]
                  exact contiguous
                · rw [← place]
                  exact flat
              · intro fresh
                have place : state.byte + request.body.length = after.byte := by
                  rw [moved, fresh.1, Nat.zero_add]
                have covered := later.mpr fresh.2
                rw [place, Nat.add_assoc, place]
                exact ⟨started, covered⟩

/-- If `SendFile` returns, then its accepted requests cover the stream exactly if no request but
the last one was sent again after bytes of it had been read. -/
theorem sendFile_covers_iff (data : List UInt8) (userFunc : WriteFunc data) (offset : Nat)
    (upload oneshot : Bool) (id : String) (uploadMaxBytes : Nat) (exchanges : List Exchange)
    {requests : List AcceptedRequest}
    (returned : sendFile userFunc offset upload oneshot id uploadMaxBytes exchanges =
      .ok (some requests)) :
    Covers data offset requests ↔ ∀ request ∈ requests.dropLast, request.reread = 0 :=
  sendLoop_covers_iff rfl returned

/-- Two chunks that go out at the first attempt. -/
theorem sendFile_covers_chunks :
    Covers [1, 2, 3] 7 [⟨some "f", 7, [1, 2], 0⟩, ⟨some "f", 9, [3], 0⟩] :=
  (sendFile_covers_iff [1, 2, 3] (.fromString _) 7 false false "f" 2
    [⟨[], [2, 2], .accepted (some "f")⟩, ⟨[], [2, 2, 2], .accepted (some "f")⟩] (by decide)).mpr
      (by decide)

/-- The connection breaks in the first chunk, which is sent again: the second chunk skips bytes. -/
theorem resent_chunk_skips :
    sendFile (.fromString [1, 2, 3, 4, 5]) 0 false false "f" 2
      [⟨[[2]], [2, 2], .accepted (some "f")⟩, ⟨[], [2, 2, 2], .accepted (some "f")⟩] =
        .ok (some [⟨some "f", 0, [1, 2], 2⟩, ⟨some "f", 4, [5], 0⟩]) ∧
      ¬ Covers [1, 2, 3, 4, 5] 0 [⟨some "f", 0, [1, 2], 2⟩, ⟨some "f", 4, [5], 0⟩] := by
  refine ⟨by decide, fun covered => ?_⟩
  have flat := covered.2
  simp at flat

end Andromeda.Backend
