import Andromeda.Backend.SendFileProperties

/-! The size of the requests that `SendFile` sends to a server that accepts them. The limit holds
for the place of a call, not for what the call reads, and the end of the data may be told late. -/

set_option autoImplicit false

namespace Andromeda.Backend

namespace WriteFunc

variable {data : List UInt8}

/-- While there are more bytes, a call writes some. -/
def Progressing (userFunc : WriteFunc data) : Prop :=
  ∀ offset buflen, 0 < buflen → (userFunc.write offset buflen).2 = true →
    (userFunc.write offset buflen).1 ≠ []

/-- The place after a call. -/
def after (userFunc : WriteFunc data) (size place : Nat) : Nat :=
  place + (userFunc.write place size).1.length

/-- The places of the calls, if a stream is read from a place on with buffers of one size. -/
inductive Reads (userFunc : WriteFunc data) (size : Nat) : Nat → Nat → Prop where
  | here (place : Nat) : Reads userFunc size place place
  | next {start place : Nat} : (userFunc.write start size).2 = true →
      Reads userFunc size (userFunc.after size start) place → Reads userFunc size start place

/-- What holds of every call before a limit. -/
def Along (userFunc : WriteFunc data) (size limit : Nat) (Good : Nat → Prop) (start : Nat) : Prop :=
  ∀ place, userFunc.Reads size start place → place < limit → Good place

variable {userFunc : WriteFunc data} {size limit start place : Nat} {Good : Nat → Prop}

private theorem Reads.le (reads : userFunc.Reads size start place) : start ≤ place := by
  induction reads with
  | here place => exact Nat.le_refl place
  | next more reads ih => exact Nat.le_trans (Nat.le_add_right _ _) ih

private theorem along_past (past : limit ≤ start) : userFunc.Along size limit Good start := by
  intro place reads inside
  have after := reads.le
  omega

private theorem along_step (inside : start < limit) :
    userFunc.Along size limit Good start ↔ Good start ∧
      ((userFunc.write start size).2 = true →
        userFunc.Along size limit Good (userFunc.after size start)) := by
  constructor
  · intro along
    exact ⟨along start (.here start) inside,
      fun more place reads before => along place (.next more reads) before⟩
  · rintro ⟨here, later⟩ place reads before
    cases reads with
    | here => exact here
    | next more reads => exact later more place reads before

private theorem after_le (inside : place ≤ data.length) :
    userFunc.after size place ≤ data.length := by
  have stored := (userFunc.stored place size).length_le
  rw [List.length_drop] at stored
  unfold after
  omega

private theorem after_ended (inside : place ≤ data.length)
    (ended : (userFunc.write place size).2 = false) :
    userFunc.after size place = data.length := by
  unfold after
  rw [userFunc.complete ended, List.length_drop]
  omega

private theorem lt_after (progressing : userFunc.Progressing) (positive : 0 < size)
    (inside : place < data.length) : place < userFunc.after size place := by
  cases more : (userFunc.write place size).2 with
  | true =>
      have some := List.length_pos_of_ne_nil (progressing place size positive more)
      unfold after
      omega
  | false =>
      rw [after_ended (Nat.le_of_lt inside) more]
      exact inside

private theorem ended_of_le (progressing : userFunc.Progressing) (positive : 0 < size)
    (past : data.length ≤ place) : (userFunc.write place size).2 = false := by
  cases more : (userFunc.write place size).2 with
  | false => rfl
  | true =>
      have stored := userFunc.stored place size
      rw [List.drop_of_length_le past, List.prefix_nil] at stored
      exact absurd stored (progressing place size positive more)

/-- A call does not read over the end of its chunk, and if the data ends there, says so. -/
def Fits (userFunc : WriteFunc data) (size limit place : Nat) : Prop :=
  userFunc.after size place ≤ limit ∧
    (userFunc.after size place = limit → limit = data.length →
      (userFunc.write place size).2 = false)

/-- A call does not read all of data that is over the limit, and says that it has read all of data
that is as long as the limit. -/
def Tells (userFunc : WriteFunc data) (size limit place : Nat) : Prop :=
  (limit < data.length → (userFunc.write place size).2 = true) ∧
    (userFunc.after size place = limit → limit = data.length →
      (userFunc.write place size).2 = false)

end WriteFunc

variable {data : List UInt8} {userFunc : WriteFunc data} {offset : Nat} {upload oneshot : Bool}
  {maxSize byte buflen calls : Nat}

private theorem writeFunc_past {soffset : Nat} (past : maxSize ≤ soffset) (limited : 0 < maxSize)
    (stream : StreamState) :
    writeFunc userFunc maxSize byte oneshot soffset buflen stream =
      if oneshot then .error .writeSize else .ok ([], false, stream) := by
  unfold writeFunc
  rw [if_pos ⟨Nat.pos_iff_ne_zero.mp limited, past⟩]
  rfl

private theorem writeFunc_inside {soffset : Nat} (inside : soffset < maxSize)
    (stream : StreamState) :
    writeFunc userFunc maxSize byte oneshot soffset buflen stream =
      .ok ((userFunc.write (soffset + byte) (min buflen maxSize)).1,
        (userFunc.write (soffset + byte) (min buflen maxSize)).2,
        ⟨(userFunc.write (soffset + byte) (min buflen maxSize)).2,
          stream.streamSize + (userFunc.write (soffset + byte) (min buflen maxSize)).1.length⟩) := by
  unfold writeFunc
  rw [if_neg (by omega), if_pos (by omega)]
  rfl

/-- A send reads on from a place, and stops with the data or at the limit. -/
structure SentFrom (userFunc : WriteFunc data) (size limit place stop : Nat) (streamCont : Bool) :
    Prop where
  inside : stop ≤ data.length
  ended : streamCont = false → stop = data.length
  full : streamCont = true → limit ≤ stop
  onward : place ≤ stop
  further : place < limit → place < data.length → place < stop
  fits_iff : (userFunc.Along size limit (userFunc.Fits size limit) place ∧ place ≤ limit ∧
      (place = limit → limit ≠ data.length)) ↔
    stop ≤ limit ∧ (streamCont = true → stop = limit → limit ≠ data.length)

namespace SentFrom

variable {size limit place stop : Nat} {streamCont : Bool}

private theorem past (inside : place ≤ data.length) (past : limit ≤ place) :
    SentFrom userFunc size limit place place true where
  inside := inside
  ended := nofun
  full _ := past
  onward := Nat.le_refl place
  further before := by omega
  fits_iff := by
    constructor
    · intro ⟨_, short, unfinished⟩
      exact ⟨short, fun _ => unfinished⟩
    · intro ⟨short, unfinished⟩
      exact ⟨WriteFunc.along_past past, short, unfinished rfl⟩

private theorem last (inside : place ≤ data.length) (before : place < limit)
    (ended : (userFunc.write place size).2 = false) :
    SentFrom userFunc size limit place (userFunc.after size place) false where
  inside := WriteFunc.after_le inside
  ended _ := WriteFunc.after_ended inside ended
  full := nofun
  onward := Nat.le_add_right _ _
  further _ inner := by
    rw [WriteFunc.after_ended inside ended]
    exact inner
  fits_iff := by
    rw [WriteFunc.along_step before, ended]
    constructor
    · intro ⟨⟨fits, _⟩, _⟩
      exact ⟨fits.1, nofun⟩
    · intro ⟨fits, _⟩
      exact ⟨⟨⟨fits, fun _ _ => ended⟩, nofun⟩, by omega, by omega⟩

private theorem step (progressing : userFunc.Progressing) (positive : 0 < size)
    (before : place < limit)
    (more : (userFunc.write place size).2 = true)
    (rest : SentFrom userFunc size limit (userFunc.after size place) stop streamCont) :
    SentFrom userFunc size limit place stop streamCont where
  inside := rest.inside
  ended := rest.ended
  full := rest.full
  onward := Nat.le_trans (Nat.le_add_right _ _) rest.onward
  further _ inner :=
    Nat.lt_of_lt_of_le (WriteFunc.lt_after progressing positive inner) rest.onward
  fits_iff := by
    rw [← rest.fits_iff, WriteFunc.along_step before, WriteFunc.Fits, more]
    constructor
    · intro ⟨⟨⟨fits, tells⟩, later⟩, _, _⟩
      exact ⟨later rfl, fits, fun full ended => Bool.noConfusion (tells full ended)⟩
    · intro ⟨later, fits, unfinished⟩
      refine ⟨⟨⟨fits, fun full ended => ?_⟩, fun _ => later⟩, by omega, by omega⟩
      exact absurd ended (unfinished full)

end SentFrom

private theorem send_sentFrom (progressing : userFunc.Progressing) (limited : 0 < maxSize)
    (buffered : 0 < buflen) {body : List UInt8} {stream : StreamState}
    (continues : stream.streamCont = true) (inside : byte + body.length ≤ data.length)
    (enough : data.length < byte + body.length + calls) :
    ∃ sent, send (writeFunc userFunc maxSize byte false) body stream (List.replicate calls buflen) =
        .ok sent ∧ sent.finished = true ∧
      SentFrom userFunc (min buflen maxSize) (byte + maxSize) (byte + body.length)
        (byte + sent.body.length) sent.stream.streamCont := by
  have positive : 0 < min buflen maxSize := Nat.lt_min.mpr ⟨buffered, limited⟩
  induction calls generalizing body stream with
  | zero => omega
  | succ calls ih =>
      rw [List.replicate_succ]
      unfold send
      rcases Nat.lt_or_ge body.length maxSize with before | past
      · rw [writeFunc_inside before, Nat.add_comm body.length byte]
        simp only [bind, Except.bind]
        have reaches : byte + (body ++ (userFunc.write (byte + body.length)
            (min buflen maxSize)).1).length =
              userFunc.after (min buflen maxSize) (byte + body.length) := by
          rw [List.length_append]
          exact (Nat.add_assoc _ _ _).symm
        cases more : (userFunc.write (byte + body.length) (min buflen maxSize)).2 with
        | true =>
            have inner : byte + body.length < data.length := by
              rcases Nat.lt_or_ge (byte + body.length) data.length with inner | outer
              · exact inner
              · rw [WriteFunc.ended_of_le progressing positive outer] at more
                cases more
            have grown := WriteFunc.lt_after progressing positive inner
            obtain ⟨sent, ran, finished, rest⟩ := @ih
              (body ++ (userFunc.write (byte + body.length) (min buflen maxSize)).1)
              ⟨true, stream.streamSize +
                (userFunc.write (byte + body.length) (min buflen maxSize)).1.length⟩ rfl
              (by rw [reaches]; exact WriteFunc.after_le inside) (by omega)
            rw [reaches] at rest
            exact ⟨sent, ran, finished, rest.step progressing positive (by omega) more⟩
        | false =>
            refine ⟨_, rfl, rfl, ?_⟩
            rw [reaches]
            exact .last inside (by omega) more
      · rw [writeFunc_past past limited]
        simp only [Bool.false_eq_true, if_false, bind, Except.bind, List.append_nil]
        refine ⟨_, rfl, rfl, ?_⟩
        rw [continues]
        exact .past inside (by omega)

/-- The requests of a server that accepts all of them, each read to its end. -/
def accepting (buflen calls : Nat) (ids : List String) : List Exchange :=
  ids.map fun id => ⟨[], List.replicate calls buflen, .accepted (some id)⟩

/-- A result whose requests are not empty and not over the limit. Only a one-shot upload may say
that there is too much data. -/
def WithinLimit (maxSize : Nat) (oneshot : Bool) :
    Except SendException (Option (List AcceptedRequest)) → Prop
  | .ok none => False
  | .ok (some requests) =>
    ∀ request ∈ requests, 1 ≤ request.body.length ∧ request.body.length ≤ maxSize
  | .error thrown => oneshot = true ∧ thrown = .writeSize

private theorem sendLoop_stopped {state : SendState} (stopped : state.streamCont = false)
    (exchanges : List Exchange) :
    sendLoop userFunc offset upload oneshot state exchanges = .ok (some []) := by
  unfold sendLoop
  rw [stopped]
  rfl

private theorem withinLimit_cons_iff (request : AcceptedRequest)
    (result : Except SendException (Option (List AcceptedRequest))) :
    WithinLimit maxSize false (do
        let later ← result
        pure (later.map ((some request).toList ++ ·))) ↔
      (1 ≤ request.body.length ∧ request.body.length ≤ maxSize) ∧
        WithinLimit maxSize false result := by
  cases result with
  | error thrown => simp [bind, Except.bind, WithinLimit]
  | ok later =>
      cases later with
      | none => simp [bind, Except.bind, WithinLimit, pure, Except.pure]
      | some later => simp [bind, Except.bind, WithinLimit, pure, Except.pure]

private theorem chunks_iff (Good : Nat → Prop) (place maxSize length : Nat) :
    (∀ chunk, place + chunk * maxSize < length → Good (place + chunk * maxSize)) ↔
      (place < length → Good place) ∧
        ∀ chunk, place + maxSize + chunk * maxSize < length →
          Good (place + maxSize + chunk * maxSize) := by
  have next (chunk : Nat) : place + (chunk + 1) * maxSize = place + maxSize + chunk * maxSize := by
    rw [Nat.succ_mul]
    omega
  constructor
  · intro all
    refine ⟨fun before => ?_, fun chunk before => ?_⟩
    · simpa using all 0 (by omega)
    · rw [← next] at before ⊢
      exact all (chunk + 1) before
  · intro ⟨first, rest⟩ chunk before
    cases chunk with
    | zero =>
        rw [Nat.zero_mul, Nat.add_zero] at before ⊢
        exact first before
    | succ chunk =>
        rw [next] at before ⊢
        exact rest chunk before

/-- From a place on, the requests are within the limit exactly if the place is not the end and the
calls of each chunk fit. -/
private theorem sendLoop_within_iff (progressing : userFunc.Progressing) (limited : 0 < maxSize)
    (buffered : 0 < buflen) (enough : data.length < calls) {id : String} {ids : List String}
    (inside : byte ≤ data.length) (answers : data.length < byte + ids.length) :
    WithinLimit maxSize false (sendLoop userFunc offset upload false ⟨id, byte, true, maxSize⟩
        (accepting buflen calls ids)) ↔
      byte < data.length ∧ ∀ chunk, byte + chunk * maxSize < data.length →
        userFunc.Along (min buflen maxSize) (byte + chunk * maxSize + maxSize)
          (userFunc.Fits (min buflen maxSize) (byte + chunk * maxSize + maxSize))
          (byte + chunk * maxSize) := by
  induction ids generalizing id byte with
  | nil =>
      simp only [List.length_nil] at answers
      omega
  | cons answer ids ih =>
      rw [List.length_cons] at answers
      obtain ⟨sent, ran, finished, sentFrom⟩ := @send_sentFrom _ userFunc maxSize byte buflen calls
        progressing limited buffered [] ⟨true, 0⟩ rfl inside (by omega)
      have size : sent.stream.streamSize = sent.body.length := by
        have size := (send_spec ran List.nil_prefix (absurd rfl)).2.1
        simpa using size
      have round : sendRequest userFunc offset upload false ⟨id, byte, true, maxSize⟩
          ⟨[], List.replicate calls buflen, .accepted (some answer)⟩ =
            .ok (some ⟨if byte = 0 ∧ upload then none else some id, offset + byte, sent.body, 0⟩,
              ⟨answer, byte + sent.body.length, sent.stream.streamCont, maxSize⟩) := by
        simp only [sendRequest, sendRepeated, bind, Except.bind, pure, Except.pure, ran, finished,
          size]
      rw [List.length_nil, Nat.add_zero] at sentFrom
      have fits := sentFrom.fits_iff
      have stops := sentFrom.inside
      unfold sendLoop accepting
      rw [List.map_cons, if_pos rfl]
      simp only [round, bind, Except.bind]
      refine (withinLimit_cons_iff _ _).trans ?_
      have cut := chunks_iff (fun place => userFunc.Along (min buflen maxSize) (place + maxSize)
        (userFunc.Fits (min buflen maxSize) (place + maxSize)) place) byte maxSize data.length
      dsimp only at cut ⊢
      rw [cut]
      rcases Nat.lt_or_ge byte data.length with inner | outer
      · have grown := sentFrom.further (by omega) inner
        cases continues : sent.stream.streamCont with
        | false =>
            have all := sentFrom.ended continues
            rw [continues] at fits
            constructor
            · rintro ⟨⟨_, short⟩, _⟩
              refine ⟨inner, fun _ => (fits.mpr ⟨by omega, by rintro ⟨⟩⟩).1, fun chunk before => ?_⟩
              omega
            · rintro ⟨_, first, _⟩
              have short := (fits.mp ⟨first inner, by omega, by omega⟩).1
              refine ⟨⟨by omega, by omega⟩, ?_⟩
              rw [sendLoop_stopped rfl]
              rintro _ ⟨⟩
        | true =>
            have full := sentFrom.full continues
            rw [continues] at fits
            rw [← accepting, ih stops (by omega)]
            constructor
            · rintro ⟨⟨_, short⟩, before, later⟩
              have place : sent.body.length = maxSize := by omega
              rw [place] at later
              exact ⟨inner, fun _ => (fits.mpr ⟨by omega, fun _ _ => by omega⟩).1, later⟩
            · rintro ⟨_, first, later⟩
              obtain ⟨short, unfinished⟩ := fits.mp ⟨first inner, by omega, by omega⟩
              have place : sent.body.length = maxSize := by omega
              have before := unfinished rfl (by omega)
              rw [place]
              exact ⟨⟨by omega, by omega⟩, by omega, later⟩
      · constructor
        · rintro ⟨⟨filled, _⟩, _⟩
          omega
        · rintro ⟨before, _⟩
          omega

/-- A one-shot upload says that there is too much data exactly if there is, if its calls tell the
end in time. -/
private theorem send_oneshot (progressing : userFunc.Progressing) (limited : 0 < maxSize)
    (buffered : 0 < buflen) {body : List UInt8} {stream : StreamState}
    (inside : body.length ≤ data.length) (enough : data.length < body.length + calls) :
    (send (writeFunc userFunc maxSize 0 true) body stream (List.replicate calls buflen) =
        .error .writeSize ∧
      ((userFunc.Along (min buflen maxSize) maxSize
          (userFunc.Tells (min buflen maxSize) maxSize) body.length ∧
            (body.length = maxSize → maxSize ≠ data.length)) ↔ maxSize < data.length)) ∨
    ∃ sent, send (writeFunc userFunc maxSize 0 true) body stream (List.replicate calls buflen) =
        .ok sent ∧ sent.finished = true ∧ sent.stream.streamCont = false ∧
          sent.body.length = data.length ∧
      ((userFunc.Along (min buflen maxSize) maxSize
          (userFunc.Tells (min buflen maxSize) maxSize) body.length ∧
            (body.length = maxSize → maxSize ≠ data.length)) ↔ data.length ≤ maxSize) := by
  have positive : 0 < min buflen maxSize := Nat.lt_min.mpr ⟨buffered, limited⟩
  induction calls generalizing body stream with
  | zero => omega
  | succ calls ih =>
      rw [List.replicate_succ]
      unfold send
      rcases Nat.lt_or_ge body.length maxSize with before | past
      · rw [writeFunc_inside before, Nat.add_zero]
        simp only [bind, Except.bind]
        have reaches : (body ++ (userFunc.write body.length (min buflen maxSize)).1).length =
            userFunc.after (min buflen maxSize) body.length := List.length_append
        have step := @WriteFunc.along_step _ userFunc (min buflen maxSize) maxSize body.length
          (userFunc.Tells (min buflen maxSize) maxSize) before
        cases more : (userFunc.write body.length (min buflen maxSize)).2 with
        | true =>
            have inner : body.length < data.length := by
              rcases Nat.lt_or_ge body.length data.length with inner | outer
              · exact inner
              · rw [WriteFunc.ended_of_le progressing positive outer] at more
                cases more
            have grown := WriteFunc.lt_after progressing positive inner
            have same : (userFunc.Along (min buflen maxSize) maxSize
                (userFunc.Tells (min buflen maxSize) maxSize) body.length ∧
                  (body.length = maxSize → maxSize ≠ data.length)) ↔
                (userFunc.Along (min buflen maxSize) maxSize
                  (userFunc.Tells (min buflen maxSize) maxSize)
                    (userFunc.after (min buflen maxSize) body.length) ∧
                  (userFunc.after (min buflen maxSize) body.length = maxSize →
                    maxSize ≠ data.length)) := by
              rw [step, WriteFunc.Tells, more]
              constructor
              · rintro ⟨⟨⟨_, tells⟩, later⟩, _⟩
                exact ⟨later rfl, fun full ended => Bool.noConfusion (tells full ended)⟩
              · rintro ⟨later, unfinished⟩
                refine ⟨⟨⟨fun _ => rfl, fun full ended => ?_⟩, fun _ => later⟩, by omega⟩
                exact absurd ended (unfinished full)
            have next := @ih (body ++ (userFunc.write body.length (min buflen maxSize)).1)
              ⟨true, stream.streamSize + (userFunc.write body.length (min buflen maxSize)).1.length⟩
              (by rw [reaches]; exact WriteFunc.after_le inside) (by omega)
            rw [reaches, ← same] at next
            exact next
        | false =>
            have all := WriteFunc.after_ended inside more
            refine .inr ⟨_, rfl, rfl, rfl, reaches.trans all, ?_⟩
            rw [step, WriteFunc.Tells, more]
            constructor
            · rintro ⟨⟨⟨tells, _⟩, _⟩, _⟩
              exact Nat.not_lt.mp fun tooMuch => Bool.noConfusion (tells tooMuch)
            · intro short
              exact ⟨⟨⟨by omega, fun _ _ => rfl⟩, by rintro ⟨⟩⟩, by omega⟩
      · rw [writeFunc_past past limited]
        refine .inl ⟨rfl, ?_⟩
        constructor
        · rintro ⟨_, unfinished⟩
          omega
        · intro tooMuch
          exact ⟨WriteFunc.along_past past, by omega⟩

/-- Sent to a server that accepts every request, data that is not empty goes out in requests that
are not empty and not over the limit, and a one-shot upload says that there is too much data
exactly if there is, exactly if each call of a chunk ends within it and the end of data that ends
with a chunk is told at once. -/
theorem sendFile_limit_iff (data : List UInt8) (userFunc : WriteFunc data) (offset : Nat)
    (upload oneshot : Bool) (id : String) {maxSize buflen calls : Nat} {ids : List String}
    (nonempty : data ≠ []) (limited : 0 < maxSize) (buffered : 0 < buflen)
    (progressing : userFunc.Progressing) (enough : data.length < calls)
    (answers : data.length < ids.length) :
    (WithinLimit maxSize oneshot (sendFile userFunc offset upload oneshot id maxSize
        (accepting buflen calls ids)) ∧
      (oneshot = true → (sendFile userFunc offset upload oneshot id maxSize
        (accepting buflen calls ids) = .error .writeSize ↔ maxSize < data.length))) ↔
    if oneshot then
      userFunc.Along (min buflen maxSize) maxSize (userFunc.Tells (min buflen maxSize) maxSize) 0
    else ∀ chunk, chunk * maxSize < data.length →
      userFunc.Along (min buflen maxSize) (chunk * maxSize + maxSize)
        (userFunc.Fits (min buflen maxSize) (chunk * maxSize + maxSize)) (chunk * maxSize) := by
  have positive := List.length_pos_of_ne_nil nonempty
  cases oneshot with
  | false =>
      have within := @sendLoop_within_iff _ userFunc offset upload maxSize 0 buflen calls
        progressing limited buffered enough id ids (by omega) (by omega)
      simp only [Nat.zero_add, positive, true_and] at within
      simp only [Bool.false_eq_true, if_false, false_implies, and_true]
      exact within
  | true =>
      simp only [if_true, forall_const]
      cases ids with
      | nil => simp at answers
      | cons answer ids =>
          have sends := @send_oneshot _ userFunc maxSize buflen calls progressing limited buffered
            [] ⟨true, 0⟩ (Nat.zero_le _) (by simpa using enough)
          have started : 0 = maxSize → maxSize ≠ data.length := by omega
          rw [List.length_nil, and_iff_left started] at sends
          rcases sends with ⟨ran, tells⟩ | ⟨sent, ran, finished, ended, all, tells⟩
          · have result : sendFile userFunc offset upload true id maxSize
                (accepting buflen calls (answer :: ids)) = .error .writeSize := by
              simp [sendFile, sendLoop, accepting, sendRequest, sendRepeated, bind, Except.bind,
                pure, Except.pure, ran]
            rw [result, tells]
            exact ⟨fun holds => holds.2.mp rfl,
              fun tooMuch => ⟨⟨rfl, rfl⟩, fun _ => tooMuch, fun _ => rfl⟩⟩
          · have result : sendFile userFunc offset upload true id maxSize
                (accepting buflen calls (answer :: ids)) =
                  .ok (some [⟨if upload then none else some id, offset, sent.body, 0⟩]) := by
              simp [sendFile, sendLoop, accepting, sendRequest, sendRepeated, bind, Except.bind,
                pure, Except.pure, ran, finished, ended, sendLoop_stopped]
            rw [result, tells]
            simp only [WithinLimit, List.mem_singleton, forall_eq, all, reduceCtorEq, false_iff,
              Nat.not_lt]
            exact ⟨fun holds => holds.2, fun short => ⟨⟨positive, short⟩, short⟩⟩

private theorem fromString_progressing (data : List UInt8) :
    (WriteFunc.fromString data).Progressing := by
  intro offset buflen positive more
  have inside : offset < data.length := of_decide_eq_true more
  refine List.ne_nil_of_length_pos ?_
  simp only [WriteFunc.fromString, List.length_take, List.length_drop]
  omega

/-- Three bytes that go out in chunks of two: the calls of the second chunk fit. -/
theorem sendFile_limit_chunks :
    (WriteFunc.fromString [1, 2, 3]).Along 2 (1 * 2 + 2)
      ((WriteFunc.fromString [1, 2, 3]).Fits 2 (1 * 2 + 2)) (1 * 2) :=
  (@sendFile_limit_iff [1, 2, 3] (.fromString _) 0 false false "f" 2 2 4 ["f", "f", "f", "f"]
    (by decide) (by decide) (by decide) (fromString_progressing _) (by decide) (by decide)).mp
      ⟨by
        have sent : sendFile (.fromString [1, 2, 3]) 0 false false "f" 2
            (accepting 2 4 ["f", "f", "f", "f"]) =
              .ok (some [⟨some "f", 0, [1, 2], 0⟩, ⟨some "f", 2, [3], 0⟩]) := by decide
        rw [sent]
        simp [WithinLimit], nofun⟩ 1 (by decide)

/-- A string of two chunks is followed by a request with no bytes, a call that begins before the
limit goes over it, and one that fills a one-shot upload is taken for too much data. -/
theorem string_over_limit :
    sendFile (.fromString [1, 2, 3, 4]) 0 false false "f" 2
        (accepting 2 5 ["f", "f", "f", "f", "f"]) =
      .ok (some [⟨some "f", 0, [1, 2], 0⟩, ⟨some "f", 2, [3, 4], 0⟩, ⟨some "f", 4, [], 0⟩]) ∧
    sendFile (.fromString [1, 2, 3, 4, 5]) 0 false false "f" 3
        (accepting 2 6 ["f", "f", "f", "f", "f", "f"]) =
      .ok (some [⟨some "f", 0, [1, 2, 3, 4], 0⟩, ⟨some "f", 4, [5], 0⟩]) ∧
    sendFile (.fromString [1, 2]) 0 true true "" 2 (accepting 2 3 ["f", "f", "f"]) =
      .error .writeSize := by
  decide

end Andromeda.Backend
