import Andromeda.Backend.BackendSession
import Andromeda.Library.Run

/-! What becomes of sessions on the server: every call deletes at most the session that the backend
has made itself, and leaves none behind that it has neither kept nor stored. -/

set_option autoImplicit false

namespace Andromeda.Backend

open Andromeda.Library

/-- Where a response has the ID and the key of a new session. -/
def sessionPath : List String := ["client", "session", "id"]

def keyPath : List String := ["client", "session", "authkey"]

variable {σ : Type}

/-- A server has sessions, by ID and key. It deletes one only at a request that comes with it, and
gives a new one an ID that no other has. -/
structure Sessions (runners : Runners σ) (live : σ → String → String → Prop) : Prop where
  named : ∀ server session key, live server session key → session ≠ ""
  read : ∀ input server session key, live server session key → Outcome (runners.read input) server
    (fun _ final => live final session key) (fun _ final => live final session key)
  write : ∀ input server session key, live server session key →
    (input.action = "deleteclient" → input.dataParams.find? "auth_sessionid" ≠ some session) →
      Outcome (runners.write input) server (fun _ final => live final session key)
        (fun _ final => live final session key)
  fresh : ∀ input server, input.action = "createsession" → Outcome (runners.write input) server
    (fun response _ => ∀ appdata session, getJSON response = .ok appdata →
      appdata sessionPath = some session → ∀ key, ¬ live server session key) (fun _ _ => True)

namespace BackendImpl

variable {backend : BackendImpl σ} {runners : Runners σ} {live : σ → String → String → Prop}
  {session key : String}

@[simp] theorem finalizeInput_action (input : RunnerInput String) :
    (finalizeInput backend input).action = input.action := by
  unfold finalizeInput
  split
  · rfl
  · split <;> rfl

private theorem find?_finalizeInput (input : RunnerInput String)
    (none_ : input.dataParams.find? "auth_sessionid" = none) :
    (finalizeInput backend input).dataParams.find? "auth_sessionid" =
      if backend.sessionID = "" then none else some backend.sessionID := by
  unfold finalizeInput
  by_cases empty : backend.sessionID = ""
  · rw [if_neg (not_not.mpr empty), if_pos empty]
    split
    · exact none_
    · exact none_
  · rw [if_pos empty, if_neg empty, KeyMap.find?_insert, if_neg (by decide), KeyMap.find?_insert,
      if_pos rfl]

@[simp] theorem runAction_iff {action : RunnerInput String → EStateM String σ (Option JSONResponse)}
    {input : RunnerInput String} {Returned : AppData → BackendImpl σ → Prop}
    {Thrown : BackendException → BackendImpl σ → Prop} :
    Outcome (runAction action input) backend Returned Thrown ↔
      Outcome (action (finalizeInput backend input)) backend.server
        (fun response server =>
          (∀ appdata, getJSON response = .ok appdata → Returned appdata { backend with server }) ∧
          ∀ exception, getJSON response = .error exception →
            Thrown exception { backend with server })
        (fun what server => Thrown (.runner what) { backend with server }) := by
  unfold Outcome runAction
  cases action (finalizeInput backend input) backend.server with
  | error what server => rfl
  | ok response server =>
      simp only
      cases getJSON response with
      | ok appdata => simp
      | error exception => simp

@[simp] theorem getTo_iff {appdata : AppData} {keys : List String}
    {assign : String → BackendImpl σ → BackendImpl σ} {Returned : Unit → BackendImpl σ → Prop}
    {Thrown : BackendException → BackendImpl σ → Prop} :
    Outcome (getTo appdata keys assign) backend Returned Thrown ↔
      (∀ value, appdata keys = some value → Returned () (assign value backend)) ∧
        (appdata keys = none → Thrown .jsonError backend) := by
  unfold getTo
  cases appdata keys with
  | none => simp
  | some value => simp

/-- The session is deleted when it is closed. -/
def Owns (backend : BackendImpl σ) (session : String) : Prop :=
  backend.deleteSession = true ∧ backend.sessionID = session

/-- A session of the server that the backend would not delete. -/
def Foreign (live : σ → String → String → Prop) (session key : String) (backend : BackendImpl σ) : Prop :=
  live backend.server session key ∧ ¬ backend.Owns session

/-- The request of `CloseSession`. -/
theorem find?_deleteInput (backend : BackendImpl σ) :
    (finalizeInput backend ⟨"accounts", "deleteclient", .empty, .empty⟩).dataParams.find?
      "auth_sessionid" = if backend.sessionID = "" then none else some backend.sessionID :=
  find?_finalizeInput _ rfl

section

variable (sessions : Sessions runners live)

include sessions

theorem runActionRead_foreign (input : RunnerInput String) :
    Keeps (Foreign live session key) (runActionRead runners input) := by
  rintro backend ⟨alive, foreign⟩
  unfold runActionRead
  rw [runAction_iff]
  refine (sessions.read _ _ _ _ alive).mono ?_ fun _ _ still => ⟨still, foreign⟩
  exact fun _ _ still => ⟨fun _ _ => ⟨still, foreign⟩, fun _ _ => ⟨still, foreign⟩⟩

theorem runActionWrite_foreign (input : RunnerInput String) (other : input.action ≠ "deleteclient") :
    Keeps (Foreign live session key) (runActionWrite runners input) := by
  rintro backend ⟨alive, foreign⟩
  unfold runActionWrite
  rw [runAction_iff]
  refine (sessions.write _ _ _ _ alive fun deletes => ?_).mono ?_ fun _ _ still => ⟨still, foreign⟩
  · rw [finalizeInput_action] at deletes
    exact absurd deletes other
  · exact fun _ _ still => ⟨fun _ _ => ⟨still, foreign⟩, fun _ _ => ⟨still, foreign⟩⟩

/-- No session is left when one was closed. -/
theorem closeSession_foreign (kept : Foreign live session key backend) :
    Outcome (closeSession runners) backend
      (fun _ final => Foreign live session key final ∧ final.deleteSession = false ∧ final.sessionID = "")
      (fun _ => Foreign live session key) := by
  obtain ⟨alive, foreign⟩ := kept
  unfold closeSession
  rw [Outcome.bind_iff, Outcome.get_iff]
  have cleared : ∀ server, live server session key → Outcome (modify fun backend => { backend with
      deleteSession := false, username := "", sessionID := "", sessionKey := "" } : Exec σ Unit)
      { backend with server }
      (fun _ final => Foreign live session key final ∧ final.deleteSession = false ∧
        final.sessionID = "") (fun _ => Foreign live session key) := by
    intro server still
    rw [Outcome.modify_iff]
    exact ⟨⟨still, fun owned => by cases owned.1⟩, rfl, rfl⟩
  by_cases deletes : backend.deleteSession = true
  · rw [if_pos deletes, Outcome.bind_iff]
    unfold runActionWrite
    rw [runAction_iff]
    refine (sessions.write _ _ _ _ alive fun _ same => ?_).mono ?_ fun _ _ still => ⟨still, foreign⟩
    · rw [find?_deleteInput] at same
      split at same
      · cases same
      · exact foreign ⟨deletes, Option.some.inj same⟩
    · intro _ server still
      exact ⟨fun _ _ => cleared server still, fun _ _ => ⟨still, foreign⟩⟩
  · rw [if_neg deletes]
    exact cleared backend.server alive

theorem authenticate_foreign (username password twofactor : String) :
    Keeps (Foreign live session key) (authenticate runners username password twofactor) := by
  intro backend kept
  unfold authenticate
  rw [Outcome.bind_iff]
  refine (closeSession_foreign sessions kept).mono ?_ fun _ _ => id
  rintro _ closed ⟨⟨alive, -⟩, off, unnamed⟩
  have named := sessions.named _ _ _ alive
  rw [Outcome.bind_iff]
  unfold runActionWrite
  rw [runAction_iff]
  have isCreate : (finalizeInput closed (createInput username password twofactor)).action =
      "createsession" := finalizeInput_action _
  have unowned : ∀ server : σ, ¬ Owns { closed with server } session := by
    rintro server ⟨owned, -⟩
    rw [off] at owned
    cases owned
  refine ((sessions.fresh _ _ isCreate).and (sessions.write _ _ _ _ alive fun deletes => ?_)).mono
    ?_ fun _ server still => ⟨still.2, unowned server⟩
  · rw [isCreate] at deletes
    exact absurd deletes (by decide)
  · rintro response server ⟨fresh, still⟩
    refine ⟨fun appdata answered => ?_, fun _ _ => ⟨still, unowned server⟩⟩
    have apart : closed.sessionID ≠ session := by
      rw [unnamed]
      exact named.symm
    have different : ∀ newID, appdata sessionPath = some newID → newID ≠ session := by
      rintro newID told rfl
      exact fresh appdata newID answered told key alive
    unfold enterSession
    simp only [Outcome.bind_iff, Outcome.modify_iff, getTo_iff]
    refine ⟨fun _ _ => ⟨fun newID told => ⟨fun _ _ => ?_, fun _ => ?_⟩, fun _ => ?_⟩, fun _ => ?_⟩
    · exact ⟨still, fun owned => different newID told owned.2⟩
    · exact ⟨still, fun owned => different newID told owned.2⟩
    · exact ⟨still, fun owned => apart owned.2⟩
    · exact ⟨still, fun owned => apart owned.2⟩

theorem authInteractive_foreign (quiet : Bool) (console : Console) (username password : String)
    (forceSession : Bool) :
    Keeps (Foreign live session key)
      (authInteractive runners quiet console username password forceSession) := by
  unfold authInteractive
  refine keeps_bind (fun backend kept => (closeSession_foreign sessions kept).mono
    (fun _ _ => And.left) fun _ _ => id) fun _ => ?_
  refine keeps_ite (fun _ => ?_) fun _ => keeps_modify fun _ => id
  refine keeps_ite (fun _ => keeps_bind (keeps_throw _) fun _ => ?_) fun _ => ?_
  all_goals
    refine keeps_tryCatch (authenticate_foreign sessions _ _ _) fun _ => ?_
    exact keeps_ite (fun _ => authenticate_foreign sessions _ _ _) fun _ => keeps_throw _

theorem preAuthenticate_foreign (sessionID sessionKey : String) :
    Keeps (Foreign live session key) (preAuthenticate runners sessionID sessionKey) := by
  intro backend kept
  unfold preAuthenticate
  rw [Outcome.bind_iff]
  refine (closeSession_foreign sessions kept).mono ?_ fun _ _ => id
  rintro _ closed ⟨⟨alive, -⟩, off, -⟩
  rw [Outcome.bind_iff, Outcome.modify_iff, Outcome.bind_iff]
  have kept : Foreign live session key { closed with sessionID, sessionKey } := by
    refine ⟨alive, ?_⟩
    rintro ⟨owned, -⟩
    exact absurd (off.symm.trans owned) (by decide)
  refine (runActionRead_foreign sessions _ _ kept).mono ?_ fun _ _ => id
  intro resp answered kept'
  simp only [Outcome.bind_iff, getTo_iff]
  exact ⟨fun _ _ => ⟨fun _ _ => kept', fun _ => kept'⟩, fun _ => kept'⟩

end

end BackendImpl

/-- What a server answers that has refused a request. -/
def BackendException.Refusal : BackendException → Prop
  | .jsonError => False
  | .runner _ => False
  | _ => True

instance : DecidablePred BackendException.Refusal
  | .jsonError => inferInstanceAs (Decidable False)
  | .runner _ => inferInstanceAs (Decidable False)
  | .unsupported | .denied _ | .inputSize | .authenticationFailed | .twoFactorRequired
  | .readOnlyFS _ | .notFound _ | .api _ _ => inferInstanceAs (Decidable True)

/-- A server also makes a session only when it is asked for one, and if it has not refused; what it
tells of a new session is right. A session that was to be deleted is, unless that is refused. -/
structure Exact (runners : Runners σ) (live : σ → String → String → Prop) : Prop
    extends Sessions runners live where
  made_read : ∀ input server, Outcome (runners.read input) server
    (fun _ final => ∀ session key, live final session key → live server session key)
    (fun _ final => ∀ session key, live final session key → live server session key)
  made : ∀ input server, Outcome (runners.write input) server
    (fun response final => ∀ session key, live final session key → live server session key ∨
      input.action = "createsession" ∧
      (∀ exception, getJSON response = .error exception → ¬ exception.Refusal) ∧
      ∀ appdata, getJSON response = .ok appdata →
        (∀ told, appdata sessionPath = some told → told = session) ∧
        ∀ told, appdata keyPath = some told → told = key)
    (fun _ final => input.action ≠ "createsession" →
      ∀ session key, live final session key → live server session key)
  ended : ∀ input server session, input.action = "deleteclient" →
    input.dataParams.find? "auth_sessionid" = some session → Outcome (runners.write input) server
      (fun response final => ∀ appdata, getJSON response = .ok appdata →
        ∀ key, ¬ live final session key) (fun _ _ => True)

namespace BackendImpl

variable {backend : BackendImpl σ} {runners : Runners σ} {live : σ → String → String → Prop}
  {Known : String → String → Prop}

/-- Every session is known, or the backend has it and will delete it. -/
def Accounted (live : σ → String → String → Prop) (Known : String → String → Prop)
    (backend : BackendImpl σ) : Prop :=
  ∀ session key, live backend.server session key →
    Known session key ∨ backend.Owns session ∧ backend.sessionKey = key

/-- A server without sessions but the known ones. -/
def AllKnown (live : σ → String → String → Prop) (Known : String → String → Prop)
    (server : σ) : Prop :=
  ∀ session key, live server session key → Known session key

theorem AllKnown.accounted (known : AllKnown live Known backend.server) :
    Accounted live Known backend := fun session key alive => Or.inl (known session key alive)

section

variable (exact : Exact runners live)

include exact

private theorem plainWrite_made (input : RunnerInput String)
    (other : input.action ≠ "createsession")
    (server : σ) : Outcome (runners.write input) server
      (fun _ final => ∀ session key, live final session key → live server session key)
      (fun _ final => ∀ session key, live final session key → live server session key) := by
  refine (exact.made input server).mono ?_ fun _ _ made => made other
  intro _ _ made session key alive
  rcases made session key alive with before | ⟨new, -⟩
  · exact before
  · exact absurd new other

theorem closeSession_accounted (accounted : Accounted live Known backend) :
    Outcome (closeSession runners) backend
      (fun _ final => AllKnown live Known final.server ∧ final.deleteSession = false ∧
        final.sessionID = "" ∧ final.username = "")
      (fun _ => Accounted live Known) := by
  unfold closeSession
  rw [Outcome.bind_iff, Outcome.get_iff]
  by_cases deletes : backend.deleteSession = true
  · rw [if_pos deletes, Outcome.bind_iff]
    unfold runActionWrite
    rw [runAction_iff]
    have outcome := plainWrite_made exact
      (finalizeInput backend ⟨"accounts", "deleteclient", .empty, .empty⟩)
      (by rw [finalizeInput_action]; decide) backend.server
    by_cases unnamed : backend.sessionID = ""
    · -- nothing that has an ID is owned
      refine outcome.mono ?_ fun _ server before session key alive => accounted _ _ (before _ _ alive)
      intro response server before
      refine ⟨fun _ _ => ?_, fun _ _ session key alive => accounted _ _ (before _ _ alive)⟩
      rw [Outcome.modify_iff]
      refine ⟨fun session key alive => ?_, rfl, rfl, rfl⟩
      rcases accounted _ _ (before _ _ alive) with known | ⟨⟨-, same⟩, -⟩
      · exact known
      · exact absurd (same.symm.trans unnamed) (exact.named _ _ _ alive)
    · have named := find?_deleteInput backend
      rw [if_neg unnamed] at named
      refine (outcome.and (exact.ended _ backend.server _ (finalizeInput_action _) named)).mono ?_
        fun _ server before session key alive => accounted _ _ (before.1 _ _ alive)
      rintro response server ⟨before, ended⟩
      refine ⟨fun appdata answered => ?_,
        fun _ _ session key alive => accounted _ _ (before _ _ alive)⟩
      rw [Outcome.modify_iff]
      refine ⟨fun session key alive => ?_, rfl, rfl, rfl⟩
      rcases accounted _ _ (before _ _ alive) with known | ⟨⟨-, rfl⟩, -⟩
      · exact known
      · exact absurd alive (ended appdata answered key)
  · rw [if_neg deletes, Outcome.modify_iff]
    refine ⟨fun session key alive => ?_, rfl, rfl, rfl⟩
    rcases accounted _ _ alive with known | ⟨owned, -⟩
    · exact known
    · exact absurd owned.1 deletes

theorem authenticate_accounted (username password twofactor : String)
    (accounted : Accounted live Known backend) :
    Outcome (authenticate runners username password twofactor) backend
      (fun _ => Accounted live Known)
      (fun exception final => exception.Refusal → Accounted live Known final) := by
  unfold authenticate
  rw [Outcome.bind_iff]
  refine (closeSession_accounted exact accounted).mono ?_ fun _ _ kept _ => kept
  rintro _ closed ⟨known, -, -, -⟩
  rw [Outcome.bind_iff]
  unfold runActionWrite
  rw [runAction_iff]
  refine (exact.made _ closed.server).mono ?_ fun _ _ _ => False.elim
  intro response server made
  refine ⟨fun appdata answered => ?_, fun exception thrown refusal => ?_⟩
  · unfold enterSession
    simp only [Outcome.bind_iff, Outcome.modify_iff, getTo_iff]
    refine ⟨fun _ _ => ⟨fun session told => ⟨fun key told' => ?_, fun _ => ?_⟩, fun _ => ?_⟩,
      fun _ => ?_⟩
    · intro other otherKey alive
      rcases made other otherKey alive with before | ⟨-, -, right⟩
      · exact Or.inl (known _ _ before)
      · obtain ⟨same, same'⟩ := right appdata answered
        exact Or.inr ⟨⟨rfl, same session told⟩, same' key told'⟩
    all_goals exact False.elim
  · refine AllKnown.accounted fun session key alive => ?_
    rcases made session key alive with before | ⟨-, unrefused, -⟩
    · exact known _ _ before
    · exact absurd refusal (unrefused exception thrown)

theorem authInteractive_accounted (quiet : Bool) (console : Console) (username password : String)
    (forceSession : Bool) (accounted : Accounted live Known backend) :
    Outcome (authInteractive runners quiet console username password forceSession) backend
      (fun _ => Accounted live Known)
      (fun exception final => exception.Refusal → Accounted live Known final) := by
  unfold authInteractive
  rw [Outcome.bind_iff]
  refine (closeSession_accounted exact accounted).mono ?_ fun _ _ kept _ => kept
  rintro _ closed ⟨known, -, -, -⟩
  have tries : ∀ password, Outcome (tryCatch (authenticate runners username password "")
      fun exception => if exception = .twoFactorRequired ∧ quiet = false then
        authenticate runners username password console.twofactor else throw exception) closed
      (fun _ => Accounted live Known)
      (fun exception final => exception.Refusal → Accounted live Known final) := by
    intro password
    rw [Outcome.tryCatch_iff]
    refine (authenticate_accounted exact username password "" known.accounted).mono (fun _ _ => id) ?_
    intro exception middle kept
    rw [Outcome.ite_iff]
    refine ⟨fun asks => ?_, fun _ => kept⟩
    rw [asks.1] at kept
    exact authenticate_accounted exact username password console.twofactor (kept trivial)
  rw [Outcome.ite_iff]
  refine ⟨fun _ => ?_, fun _ => known.accounted⟩
  rw [Outcome.ite_iff]
  refine ⟨fun _ => ?_, fun _ => ?_⟩
  · exact fun _ => known.accounted
  · exact tries _

theorem preAuthenticate_accounted (sessionID sessionKey : String)
    (accounted : Accounted live Known backend) :
    Outcome (preAuthenticate runners sessionID sessionKey) backend
      (fun _ => Accounted live Known) (fun _ => Accounted live Known) := by
  unfold preAuthenticate
  rw [Outcome.bind_iff]
  refine (closeSession_accounted exact accounted).mono ?_ fun _ _ => id
  rintro _ closed ⟨known, -, -, -⟩
  rw [Outcome.bind_iff, Outcome.modify_iff, Outcome.bind_iff]
  unfold runActionRead
  rw [runAction_iff]
  have still : ∀ server, (∀ session key, live server session key → live closed.server session key) →
      AllKnown live Known server := fun server before session key alive =>
    known _ _ (before _ _ alive)
  refine (exact.made_read _ closed.server).mono ?_ fun _ server before =>
    (still server before).accounted
  intro response server before
  refine ⟨fun resp answered => ?_, fun _ _ => (still server before).accounted⟩
  simp only [Outcome.bind_iff, getTo_iff]
  have kept := still server before
  exact ⟨fun _ _ => ⟨fun _ _ => kept.accounted, fun _ => kept.accounted⟩,
    fun _ => kept.accounted⟩

theorem plainRead_accounted (input : RunnerInput String) (accounted : Accounted live Known backend) :
    Outcome (runActionRead runners input) backend
      (fun _ => Accounted live Known) (fun _ => Accounted live Known) := by
  unfold runActionRead
  rw [runAction_iff]
  refine (exact.made_read _ backend.server).mono ?_ fun _ server before session key alive =>
    accounted _ _ (before _ _ alive)
  exact fun _ server before => ⟨fun _ _ session key alive => accounted _ _ (before _ _ alive),
    fun _ _ session key alive => accounted _ _ (before _ _ alive)⟩

theorem plainWrite_accounted (input : RunnerInput String) (other : input.action ≠ "createsession")
    (accounted : Accounted live Known backend) :
    Outcome (runActionWrite runners input) backend
      (fun _ => Accounted live Known) (fun _ => Accounted live Known) := by
  unfold runActionWrite
  rw [runAction_iff]
  refine (plainWrite_made exact _ (by rwa [finalizeInput_action]) backend.server).mono ?_
    fun _ server before session key alive => accounted _ _ (before _ _ alive)
  exact fun _ server before => ⟨fun _ _ session key alive => accounted _ _ (before _ _ alive),
    fun _ _ session key alive => accounted _ _ (before _ _ alive)⟩

omit exact in
/-- A session that was stored is known from its store, if it has an ID. -/
theorem storeSession_accounted (named : ∀ server session key, live server session key → session ≠ "")
    (accounted : Accounted live Known backend) :
    Outcome storeSession backend
      (fun store final => AllKnown live (fun session key => Known session key ∨
        store.sessionID = some session ∧ store.sessionKey = some key) final.server)
      (fun _ _ => False) := by
  unfold storeSession
  rw [Outcome.bind_iff, Outcome.get_iff, Outcome.bind_iff, Outcome.set_iff, Outcome.pure_iff]
  intro session key alive
  rcases accounted session key alive with known | ⟨⟨-, rfl⟩, rfl⟩
  · exact Or.inl known
  · rw [if_neg (named _ _ _ alive)]
    exact Or.inr ⟨rfl, rfl⟩

end

end BackendImpl

end Andromeda.Backend
