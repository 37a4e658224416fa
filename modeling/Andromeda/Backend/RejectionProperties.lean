import Andromeda.Backend.SendFileProperties

/-! `SendFile` against a server that answers every request with an input-size error: the limit
falls until the error is thrown on, unless too little of a request was read for a next limit or,
where the runner sends it again, too much. -/

set_option autoImplicit false

namespace Andromeda.Backend

section Run

variable {data : List UInt8} (userFunc : WriteFunc data) (offset : Nat) (upload oneshot : Bool)

/-- The buffer sizes with which the transport reads a request: in the sends that the runner repeats,
and in the last one. -/
structure Sends where
  repeated : List (List Nat)
  last : List Nat

/-- A request that is rejected at its last send. -/
def rejected (sends : Sends) : Exchange := ⟨sends.repeated, sends.last, .tooLarge⟩

/-- The first requests of a server that rejects all. -/
def rejections (sends : Nat → Sends) (requests : Nat) : List Exchange :=
  (List.range requests).map fun request => rejected (sends request)

/-- `SendFile` after that many rejections, unless it has thrown. -/
def afterRejections (sends : Nat → Sends) (state : SendState) :
    Nat → Except SendException SendState
  | 0 => pure state
  | requests + 1 => do
    let state ← afterRejections sends state requests
    let (_, state) ← sendRequest userFunc offset upload oneshot state (rejected (sends requests))
    pure state

/-- The bodies of some sends, each as far as it went. -/
def sendBodies (provider : Provider) (stream : StreamState) :
    List (List Nat) → Except SendException (List (List UInt8))
  | [] => pure []
  | buffers :: rest => do
    let sent ← send provider [] stream buffers
    let later ← sendBodies provider sent.stream rest
    pure (sent.body :: later)

/-- The bodies of all the sends of a request. -/
def requestBodies (state : SendState) (sends : Sends) : Except SendException (List (List UInt8)) :=
  sendBodies (writeFunc userFunc state.uploadMaxBytes state.byte oneshot) ⟨state.streamCont, 0⟩
    (sends.repeated ++ [sends.last])

/-- The last send of a request. -/
def lastSend (state : SendState) (sends : Sends) : Except SendException Sent := do
  let provider := writeFunc userFunc state.uploadMaxBytes state.byte oneshot
  let before ← sendRepeated provider ⟨state.streamCont, 0⟩ sends.repeated
  send provider [] before sends.last

/-- The limit that the handler of the input-size error stores. A one-shot upload ends with it, any
other tries again. -/
def adjustedLimit (state : SendState) (sends : Sends) : Option Nat :=
  match lastSend userFunc oneshot state sends with
  | .error _ => none
  | .ok sent =>
    if state.uploadMaxBytes ≠ 0 ∧ state.uploadMaxBytes < uploadMinSize then none
    else some (adjustAttempt sent.stream.streamSize)

end Run

variable {data : List UInt8} {userFunc : WriteFunc data} {offset : Nat} {upload oneshot : Bool}

/-- A rejection throws, or stores the next limit and goes on. -/
private theorem sendRequest_rejected (userFunc : WriteFunc data) (offset : Nat)
    (upload oneshot : Bool) (state : SendState) (sends : Sends) :
    (∃ thrown, sendRequest userFunc offset upload oneshot state (rejected sends) =
      .error thrown) ∨
    ∃ limit, adjustedLimit userFunc oneshot state sends = some limit ∧
      sendRequest userFunc offset upload oneshot state (rejected sends) =
        .ok (none, { state with uploadMaxBytes := limit, streamCont := true }) := by
  unfold sendRequest adjustedLimit lastSend
  cases again : sendRepeated (writeFunc userFunc state.uploadMaxBytes state.byte oneshot)
      ⟨state.streamCont, 0⟩ sends.repeated with
  | error thrown => exact .inl ⟨thrown, by simp [rejected, again, bind, Except.bind]⟩
  | ok before =>
      cases ran : send (writeFunc userFunc state.uploadMaxBytes state.byte oneshot) [] before
          sends.last with
      | error thrown =>
          exact .inl ⟨thrown, by simp [rejected, again, ran, bind, Except.bind]⟩
      | ok sent =>
          simp only [rejected, again, ran, bind, Except.bind, pure, Except.pure]
          split
          · exact .inl ⟨_, rfl⟩
          · cases oneshot with
            | true => exact .inl ⟨_, rfl⟩
            | false => exact .inr ⟨_, rfl, rfl⟩

private theorem writeFunc_length {maxSize byte soffset buflen : Nat} {stream after : StreamState}
    {bytes : List UInt8} {more : Bool} (limited : maxSize ≠ 0)
    (wrote : writeFunc userFunc maxSize byte oneshot soffset buflen stream =
      .ok (bytes, more, after)) :
    bytes = [] ∨ soffset < maxSize ∧ bytes.length ≤ maxSize := by
  unfold writeFunc at wrote
  split at wrote
  · split at wrote
    · cases wrote
    · cases wrote
      exact .inl rfl
  · next inside =>
    cases wrote
    refine .inr ⟨by omega, ?_⟩
    exact Nat.le_trans (userFunc.bounded _ _) (Nat.min_le_right _ _)

private theorem send_length {maxSize byte : Nat} {body : List UInt8} {stream : StreamState}
    {buffers : List Nat} {sent : Sent} (limited : maxSize ≠ 0)
    (ran : send (writeFunc userFunc maxSize byte oneshot) body stream buffers = .ok sent)
    (short : body.length < 2 * maxSize) : sent.body.length < 2 * maxSize := by
  induction buffers generalizing body stream with
  | nil =>
      cases ran
      exact short
  | cons buflen rest ih =>
      unfold send at ran
      cases wrote : writeFunc userFunc maxSize byte oneshot body.length buflen stream with
      | error thrown =>
          rw [wrote] at ran
          cases ran
      | ok result =>
          obtain ⟨bytes, more, after⟩ := result
          rw [wrote] at ran
          have longer : (body ++ bytes).length < 2 * maxSize := by
            rw [List.length_append]
            rcases writeFunc_length limited wrote with rfl | ⟨before, few⟩
            · exact short
            · omega
          cases more with
          | true => exact ih ran longer
          | false =>
              cases ran
              exact longer

/-- The size that a rejection goes by counts what every send has read. -/
private theorem sendBodies_size {maxSize byte : Nat} (stream : StreamState)
    (repeated : List (List Nat)) (last : List Nat) :
    (sendBodies (writeFunc userFunc maxSize byte oneshot) stream (repeated ++ [last])).map
        (fun bodies => stream.streamSize + bodies.flatten.length) =
      (do
        let before ← sendRepeated (writeFunc userFunc maxSize byte oneshot) stream repeated
        send (writeFunc userFunc maxSize byte oneshot) [] before last).map
          fun sent : Sent => sent.stream.streamSize := by
  have counted {buffers : List Nat} {before : StreamState} {sent : Sent}
      (ran : send (writeFunc userFunc maxSize byte oneshot) [] before buffers = .ok sent) :
      sent.stream.streamSize = before.streamSize + sent.body.length :=
    (send_spec ran List.nil_prefix (absurd rfl)).2.1
  induction repeated generalizing stream with
  | nil =>
      cases ran : send (writeFunc userFunc maxSize byte oneshot) [] stream last with
      | error thrown =>
          simp [sendBodies, sendRepeated, ran, bind, Except.bind, pure, Except.pure, Except.map]
      | ok sent =>
          simp [sendBodies, sendRepeated, ran, bind, Except.bind, pure, Except.pure, Except.map,
            counted ran]
  | cons buffers rest ih =>
      cases ran : send (writeFunc userFunc maxSize byte oneshot) [] stream buffers with
      | error thrown => simp [sendBodies, sendRepeated, ran, bind, Except.bind, Except.map]
      | ok sent =>
          have later := ih sent.stream
          simp only [sendRepeated, ran, bind, Except.bind] at later ⊢
          rw [← later]
          simp only [List.cons_append, sendBodies, ran, bind, Except.bind, pure, Except.pure]
          cases sendBodies (writeFunc userFunc maxSize byte oneshot) sent.stream
              (rest ++ [last]) with
          | error thrown => rfl
          | ok bodies => simp [Except.map, counted ran, Nat.add_assoc]

private theorem requestBodies_size (userFunc : WriteFunc data) (oneshot : Bool)
    (state : SendState) (sends : Sends) :
    (requestBodies userFunc oneshot state sends).map (fun bodies => bodies.flatten.length) =
      (lastSend userFunc oneshot state sends).map fun sent => sent.stream.streamSize := by
  have size : (sendBodies (writeFunc userFunc state.uploadMaxBytes state.byte oneshot)
      ⟨state.streamCont, 0⟩ (sends.repeated ++ [sends.last])).map
        (fun bodies => 0 + bodies.flatten.length) = _ :=
    sendBodies_size ⟨state.streamCont, 0⟩ sends.repeated sends.last
  simp only [Nat.zero_add] at size
  exact size

/-- A request that is not sent again reads less than twice the limit. -/
theorem unrepeated_length {state : SendState} {buffers : List Nat} {bodies : List (List UInt8)}
    (limited : state.uploadMaxBytes ≠ 0)
    (ran : requestBodies userFunc oneshot state ⟨[], buffers⟩ = .ok bodies) :
    bodies.flatten.length < 2 * state.uploadMaxBytes := by
  simp only [requestBodies, List.nil_append, sendBodies, bind, Except.bind, pure,
    Except.pure] at ran
  split at ran
  · cases ran
  · next sent went =>
    cases ran
    rw [List.flatten_singleton]
    exact send_length limited went (by simp only [List.length_nil]; omega)

/-- A next limit is one, and less than the one before it. -/
def Lowers (state : SendState) (limit : Nat) : Prop :=
  limit ≠ 0 ∧ (state.uploadMaxBytes ≠ 0 → limit < state.uploadMaxBytes)

/-- What the transport reads of a request leads to a lower limit: at least two bytes, and less than
twice the limit. -/
def Halves (state : SendState) (size : Nat) : Prop :=
  2 ≤ size ∧ (state.uploadMaxBytes ≠ 0 → size < 2 * state.uploadMaxBytes)

private theorem adjustedLimit_lowers_iff (userFunc : WriteFunc data) (oneshot : Bool)
    (state : SendState) (sends : Sends) :
    (∀ limit, adjustedLimit userFunc oneshot state sends = some limit → Lowers state limit) ↔
      ∀ bodies, requestBodies userFunc oneshot state sends = .ok bodies →
        (state.uploadMaxBytes = 0 ∨ uploadMinSize ≤ state.uploadMaxBytes) →
          Halves state bodies.flatten.length := by
  have size := requestBodies_size userFunc oneshot state sends
  unfold adjustedLimit
  cases ran : lastSend userFunc oneshot state sends with
  | error thrown =>
      rw [ran] at size
      cases read : requestBodies userFunc oneshot state sends with
      | error thrown => exact ⟨fun _ _ => nofun, fun _ _ => nofun⟩
      | ok bodies =>
          rw [read] at size
          cases size
  | ok sent =>
      rw [ran] at size
      cases read : requestBodies userFunc oneshot state sends with
      | error thrown =>
          rw [read] at size
          cases size
      | ok bodies =>
          rw [read] at size
          have same : bodies.flatten.length = sent.stream.streamSize := Except.ok.inj size
          simp only [Except.ok.injEq, forall_eq', same, adjustAttempt, Lowers, Halves]
          split
          · next small => exact ⟨fun _ usual => by omega, fun _ _ => nofun⟩
          · simp only [Option.some.injEq, forall_eq']
            constructor
            · intro lowers _
              omega
            · intro enough
              have halves := enough (by omega)
              omega

section Loop

variable {sends : Nat → Sends} {start state : SendState}

private theorem rejections_succ (sends : Nat → Sends) (requests : Nat) (rest : List Exchange) :
    rejections sends (requests + 1) ++ rest =
      rejections sends requests ++ rejected (sends requests) :: rest := by
  simp only [rejections, List.range_succ, List.map_append, List.map_cons, List.map_nil,
    List.append_assoc, List.singleton_append]

private theorem afterRejections_succ {requests limit : Nat}
    (reached : afterRejections userFunc offset upload oneshot sends start requests = .ok state)
    (ran : sendRequest userFunc offset upload oneshot state (rejected (sends requests)) =
      .ok (none, { state with uploadMaxBytes := limit, streamCont := true })) :
    afterRejections userFunc offset upload oneshot sends start (requests + 1) =
      .ok { state with uploadMaxBytes := limit, streamCont := true } := by
  simp only [afterRejections, reached, bind, Except.bind, ran]
  rfl

private theorem afterRejections_spec (continues : start.streamCont = true) {requests : Nat}
    (reached : afterRejections userFunc offset upload oneshot sends start requests = .ok state)
    (rest : List Exchange) :
    state.streamCont = true ∧
      sendLoop userFunc offset upload oneshot start (rejections sends requests ++ rest) =
        sendLoop userFunc offset upload oneshot state rest := by
  induction requests generalizing state rest with
  | zero =>
      cases reached
      exact ⟨continues, rfl⟩
  | succ requests ih =>
      unfold afterRejections at reached
      cases before : afterRejections userFunc offset upload oneshot sends start requests with
      | error thrown =>
          rw [before] at reached
          cases reached
      | ok middle =>
          obtain ⟨goesOn, same⟩ := ih before (rejected (sends requests) :: rest)
          rcases sendRequest_rejected userFunc offset upload oneshot middle (sends requests) with
            ⟨thrown, ran⟩ | ⟨limit, _, ran⟩
          · simp only [before, bind, Except.bind, ran] at reached
            cases reached
          · simp only [before, bind, Except.bind, ran] at reached
            cases reached
            refine ⟨rfl, ?_⟩
            rw [rejections_succ, same, sendLoop, if_pos goesOn]
            simp only [ran, bind, Except.bind]
            cases sendLoop userFunc offset upload oneshot
              { middle with uploadMaxBytes := limit, streamCont := true } rest with
            | error thrown => rfl
            | ok later => cases later <;> rfl

private theorem sendLoop_thrown (continues : start.streamCont = true) {requests : Nat}
    {thrown : SendException}
    (reached : afterRejections userFunc offset upload oneshot sends start requests = .ok state)
    (ran : sendRequest userFunc offset upload oneshot state (rejected (sends requests)) =
      .error thrown) :
    sendLoop userFunc offset upload oneshot start (rejections sends (requests + 1)) =
      .error thrown := by
  obtain ⟨goesOn, same⟩ := afterRejections_spec continues reached [rejected (sends requests)]
  rw [← List.append_nil (rejections sends (requests + 1)), rejections_succ, same, sendLoop,
    if_pos goesOn]
  simp only [ran, bind, Except.bind]

/-- Each rejection stores a limit that is one and below the one before it. -/
def AllLower (userFunc : WriteFunc data) (offset : Nat) (upload oneshot : Bool)
    (sends : Nat → Sends) (start : SendState) : Prop :=
  ∀ request state limit,
    afterRejections userFunc offset upload oneshot sends start request = .ok state →
      adjustedLimit userFunc oneshot state (sends request) = some limit → Lowers state limit

private theorem sendLoop_limited (continues : start.streamCont = true)
    (lower : AllLower userFunc offset upload oneshot sends start) (bound : Nat) {requests : Nat}
    (reached : afterRejections userFunc offset upload oneshot sends start requests = .ok state)
    (limited : state.uploadMaxBytes ≠ 0) (below : state.uploadMaxBytes ≤ bound) :
    ∃ requests thrown,
      sendLoop userFunc offset upload oneshot start (rejections sends requests) =
        .error thrown := by
  induction bound generalizing requests state with
  | zero => exact absurd (Nat.le_zero.mp below) limited
  | succ bound ih =>
      rcases sendRequest_rejected userFunc offset upload oneshot state (sends requests) with
        ⟨thrown, ran⟩ | ⟨limit, next, ran⟩
      · exact ⟨requests + 1, thrown, sendLoop_thrown continues reached ran⟩
      · obtain ⟨positive, less⟩ := lower requests state limit reached next
        have fewer := less limited
        exact ih (afterRejections_succ reached ran) positive (by dsimp only; omega)

private theorem sendLoop_terminates (continues : start.streamCont = true)
    (lower : AllLower userFunc offset upload oneshot sends start) :
    ∃ requests thrown,
      sendLoop userFunc offset upload oneshot start (rejections sends requests) =
        .error thrown := by
  have reached : afterRejections userFunc offset upload oneshot sends start 0 = .ok start := rfl
  rcases sendRequest_rejected userFunc offset upload oneshot start (sends 0) with
    ⟨thrown, ran⟩ | ⟨limit, next, ran⟩
  · exact ⟨1, thrown, sendLoop_thrown continues reached ran⟩
  · obtain ⟨positive, _⟩ := lower 0 start limit reached next
    exact sendLoop_limited continues lower limit (afterRejections_succ reached ran) positive
      (Nat.le_refl _)

end Loop

/-- Against a server that rejects every request `SendFile` throws after finitely many of them, and
each lowers the limit to one that is not zero, exactly if the transport reads, in all the sends of
each request that has no limit or one that is not too small, at least two bytes and less than twice
the limit. -/
theorem sendFile_rejected_iff (data : List UInt8) (userFunc : WriteFunc data) (offset : Nat)
    (upload oneshot : Bool) (id : String) (uploadMaxBytes : Nat) (sends : Nat → Sends) :
    ((∃ requests thrown, sendFile userFunc offset upload oneshot id uploadMaxBytes
        (rejections sends requests) = .error thrown) ∧
      ∀ request state limit,
        afterRejections userFunc offset upload oneshot sends ⟨id, 0, true, uploadMaxBytes⟩
          request = .ok state →
        adjustedLimit userFunc oneshot state (sends request) = some limit →
          limit ≠ 0 ∧ (state.uploadMaxBytes ≠ 0 → limit < state.uploadMaxBytes)) ↔
      ∀ request state bodies,
        afterRejections userFunc offset upload oneshot sends ⟨id, 0, true, uploadMaxBytes⟩
          request = .ok state →
        requestBodies userFunc oneshot state (sends request) = .ok bodies →
        (state.uploadMaxBytes = 0 ∨ uploadMinSize ≤ state.uploadMaxBytes) →
          2 ≤ bodies.flatten.length ∧
            (state.uploadMaxBytes ≠ 0 → bodies.flatten.length < 2 * state.uploadMaxBytes) := by
  constructor
  · intro ⟨_, lower⟩ request state bodies reached
    exact (adjustedLimit_lowers_iff userFunc oneshot state (sends request)).mp
      (fun limit => lower request state limit reached) bodies
  · intro enough
    have lower : AllLower userFunc offset upload oneshot sends ⟨id, 0, true, uploadMaxBytes⟩ := by
      intro request state limit reached
      exact (adjustedLimit_lowers_iff userFunc oneshot state (sends request)).mpr
        (fun bodies => enough request state bodies reached) limit
    exact ⟨sendLoop_terminates rfl lower, lower⟩

/-- A rejection that the server sends before it has read any of the body leaves no limit, and
`SendFile` sends the request again without end. -/
theorem unread_rejection_repeats :
    adjustedLimit (.fromString [1, 2, 3]) false ⟨"f", 0, true, 5000⟩ ⟨[], []⟩ = some 0 ∧
      ∀ requests, sendFile (.fromString [1, 2, 3]) 0 false false "f" 5000
        (rejections (fun _ => ⟨[], []⟩) requests) = .ok none := by
  refine ⟨by decide, fun requests => ?_⟩
  have same (requests : Nat) : ∃ limit, (limit = 5000 ∨ limit = 0) ∧
      afterRejections (.fromString [1, 2, 3]) 0 false false (fun _ => ⟨[], []⟩) ⟨"f", 0, true, 5000⟩
        requests = .ok ⟨"f", 0, true, limit⟩ := by
    induction requests with
    | zero => exact ⟨5000, .inl rfl, rfl⟩
    | succ requests ih =>
        obtain ⟨limit, usual, reached⟩ := ih
        refine ⟨0, .inr rfl, ?_⟩
        rcases usual with rfl | rfl
        · exact afterRejections_succ reached rfl
        · exact afterRejections_succ reached rfl
  obtain ⟨limit, _, reached⟩ := same requests
  have looped := (afterRejections_spec rfl reached []).2
  rw [List.append_nil] at looped
  exact looped

/-- Neither does the limit fall if each request is sent twice, up to the limit. -/
theorem resent_rejection_keeps (data : List UInt8) (usual : uploadMinSize ≤ data.length) :
    adjustedLimit (.fromString data) false ⟨"f", 0, true, data.length⟩
      ⟨[[data.length]], [data.length]⟩ = some data.length := by
  have positive : 0 < data.length := Nat.lt_of_lt_of_le (by decide) usual
  have large : ¬ data.length < uploadMinSize := Nat.not_lt.mpr usual
  have some_ : data.length ≠ 0 := Nat.ne_of_gt positive
  simp only [adjustedLimit, lastSend, sendRepeated, send, writeFunc, WriteFunc.fromString,
    List.length_nil, Nat.not_le.mpr positive, and_false, if_false, bind, Except.bind, pure,
    Except.pure, some_, ne_eq, not_false_eq_true, if_true, Nat.min_self, Nat.zero_add,
    List.drop_zero, List.take_length, positive, decide_true, large, List.nil_append, adjustAttempt]
  rw [← Nat.two_mul, Nat.mul_div_cancel_left _ (by decide)]

end Andromeda.Backend
