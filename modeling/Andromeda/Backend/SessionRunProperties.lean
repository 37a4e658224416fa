import Andromeda.Backend.BackendSessionProperties

/-! Runs of calls of a backend, up to its destructor: the sessions of others are still there, and all
others that are have been stored. -/

set_option autoImplicit false

namespace Andromeda.Backend

open Andromeda.Library

namespace BackendContext

open BackendImpl

variable {σ : Type} {runners : Runners σ} {live : σ → String → String → Prop}
  {session key : String} {context : BackendContext σ} {call : SessionCall}

private theorem step_iff (Holds : BackendContext σ → Prop) :
    Outcome (body runners call) context.backend
        (fun stores backend => Holds ⟨backend, context.saved ++ stores⟩)
        (fun _ backend => Holds { context with backend }) ↔
      Holds (step runners context call) := by
  unfold Outcome step
  cases body runners call context.backend <;> rfl

private theorem close_iff (Holds : BackendContext σ → Prop) :
    Outcome (closeSession runners) context.backend (fun _ backend => Holds { context with backend })
        (fun _ backend => Holds { context with backend }) ↔
      Holds (close runners context) := by
  unfold close destroy Outcome
  rw [run_tryCatch]
  cases closeSession runners context.backend <;> rfl

private theorem body_foreign (sessions : Sessions runners live) (call : SessionCall) :
    Keeps (Foreign live session key) (body runners call) := by
  cases call with
  | authenticate username password twofactor =>
      exact keeps_bind (authenticate_foreign sessions _ _ _) fun _ => keeps_pure _
  | authInteractive quiet console username password forceSession =>
      exact keeps_bind (authInteractive_foreign sessions _ _ _ _ _) fun _ => keeps_pure _
  | preAuthenticate sessionID sessionKey =>
      exact keeps_bind (preAuthenticate_foreign sessions _ _) fun _ => keeps_pure _
  | closeSession =>
      refine keeps_bind (fun backend kept => ?_) fun _ => keeps_pure _
      exact (closeSession_foreign sessions kept).mono (fun _ _ => And.left) fun _ _ => id
  | storeSession saves =>
      refine keeps_bind (fun backend kept => ?_) fun _ => keeps_pure _
      unfold storeSession
      rw [Outcome.bind_iff, Outcome.get_iff, Outcome.bind_iff, Outcome.set_iff, Outcome.pure_iff]
      exact ⟨kept.1, fun owned => by cases owned.1⟩
  | read input =>
      exact keeps_bind (runActionRead_foreign sessions _) fun _ => keeps_pure _
  | write input =>
      exact keeps_bind (runActionWrite_foreign sessions _ input.plain.2) fun _ => keeps_pure _

private theorem run_foreign (sessions : Sessions runners live) (calls : List SessionCall)
    (kept : Foreign live session key context.backend) :
    Foreign live session key (calls.foldl (step runners) context).backend := by
  induction calls generalizing context with
  | nil => exact kept
  | cons call rest ih =>
      refine ih ((step_iff fun context => Foreign live session key context.backend).mp ?_)
      exact body_foreign sessions call _ kept

/-- Whatever calls are made, and however they fail: a session of the server that the backend would
not delete is still there after its destructor. -/
theorem sessions_survive (sessions : Sessions runners live) (calls : List SessionCall)
    (alive : live context.backend.server session key) (foreign : ¬ context.backend.Owns session) :
    live (close runners (calls.foldl (step runners) context)).backend.server session key := by
  have kept := run_foreign sessions calls ⟨alive, foreign⟩
  refine (close_iff fun context => live context.backend.server session key).mp
    ((closeSession_foreign sessions kept).mono ?_ ?_)
  · exact fun _ _ closed => closed.1.1
  · exact fun _ _ still => still.1

/-- Whether a call saves what it stores. -/
def saves : SessionCall → Bool
  | .storeSession saves => saves
  | _ => true

/-- A result that is no exception, or a refusal of the server. -/
def Concluded {α : Type} : EStateM.Result BackendException (BackendImpl σ) α → Prop
  | .ok _ _ => True
  | .error exception _ => exception.Refusal

instance {α : Type} :
    ∀ result : EStateM.Result BackendException (BackendImpl σ) α, Decidable (Concluded result)
  | .ok _ _ => inferInstanceAs (Decidable True)
  | .error exception _ => inferInstanceAs (Decidable exception.Refusal)

/-- A call saves what it stores, and is answered: it returns, or the server refuses it. -/
def Settled (runners : Runners σ) (context : BackendContext σ) (call : SessionCall) : Prop :=
  saves call = true ∧ Concluded (body runners call context.backend)

instance (runners : Runners σ) (context : BackendContext σ) (call : SessionCall) :
    Decidable (Settled runners context call) := inferInstanceAs (Decidable (_ ∧ _))

/-- A session that is in a store. -/
def Stored (context : BackendContext σ) (session key : String) : Prop :=
  ∃ store ∈ context.saved, store.sessionID = some session ∧ store.sessionKey = some key

private theorem Stored.append (stored : Stored context session key) (stores : List SessionStore)
    (backend : BackendImpl σ) : Stored ⟨backend, context.saved ++ stores⟩ session key := by
  obtain ⟨store, member, told⟩ := stored
  exact ⟨store, List.mem_append_left _ member, told⟩

/-- Every session of the server was there before, is in a store, or will be deleted. -/
def AllAccounted (live : σ → String → String → Prop) (Initial : String → String → Prop)
    (context : BackendContext σ) : Prop :=
  Accounted live (fun session key => Initial session key ∨ context.Stored session key)
    context.backend

private theorem AllAccounted.append {Initial : String → String → Prop} {backend : BackendImpl σ}
    (accounted : Accounted live (fun session key => Initial session key ∨ context.Stored session key)
      backend) (stores : List SessionStore) :
    AllAccounted live Initial ⟨backend, context.saved ++ stores⟩ := by
  intro session key alive
  rcases accounted session key alive with (initial | stored) | owned
  · exact Or.inl (Or.inl initial)
  · exact Or.inl (Or.inr (stored.append stores backend))
  · exact Or.inr owned

private theorem step_accounted {Initial : String → String → Prop} (exact : Exact runners live)
    (settled : Settled runners context call) (accounted : AllAccounted live Initial context) :
    AllAccounted live Initial (step runners context call) := by
  rw [← step_iff (AllAccounted live Initial)]
  have finishes : Outcome (body runners call) context.backend
      (fun stores backend => AllAccounted live Initial ⟨backend, context.saved ++ stores⟩)
      (fun exception backend => exception.Refusal →
        AllAccounted live Initial { context with backend }) := by
    cases call with
    | authenticate username password twofactor =>
        unfold body
        rw [Outcome.bind_iff]
        exact (authenticate_accounted exact _ _ _ accounted).mono
          (fun _ _ kept => AllAccounted.append kept []) fun _ _ => id
    | authInteractive quiet console username password forceSession =>
        unfold body
        rw [Outcome.bind_iff]
        exact (authInteractive_accounted exact _ _ _ _ _ accounted).mono
          (fun _ _ kept => AllAccounted.append kept []) fun _ _ => id
    | preAuthenticate sessionID sessionKey =>
        unfold body
        rw [Outcome.bind_iff]
        exact (preAuthenticate_accounted exact _ _ accounted).mono
          (fun _ _ kept => AllAccounted.append kept []) fun _ _ kept _ => kept
    | closeSession =>
        unfold body
        rw [Outcome.bind_iff]
        exact (closeSession_accounted exact accounted).mono
          (fun _ _ closed => AllAccounted.append closed.1.accounted []) fun _ _ kept _ => kept
    | storeSession stays =>
        have told : stays = true := settled.1
        unfold body
        rw [Outcome.bind_iff]
        refine (storeSession_accounted exact.named accounted).mono ?_ fun _ _ => False.elim
        intro store final known
        rw [told, Outcome.pure_iff]
        intro session key alive
        rcases known session key alive with (initial | stored) | here
        · exact Or.inl (Or.inl initial)
        · exact Or.inl (Or.inr (stored.append _ final))
        · exact Or.inl (Or.inr ⟨store, by simp, here⟩)
    | read input =>
        unfold body
        rw [Outcome.bind_iff]
        exact (plainRead_accounted exact _ accounted).mono
          (fun _ _ kept => AllAccounted.append kept []) fun _ _ kept _ => kept
    | write input =>
        unfold body
        rw [Outcome.bind_iff]
        exact (plainWrite_accounted exact _ input.plain.1 accounted).mono
          (fun _ _ kept => AllAccounted.append kept []) fun _ _ kept _ => kept
  have refused := settled.2
  unfold Outcome at finishes ⊢
  cases result : body runners call context.backend with
  | ok stores backend =>
      rw [result] at finishes
      exact finishes
  | error exception backend =>
      rw [result] at finishes refused
      exact finishes refused

/-- As long as no answer is lost and no store fails to be saved, and when the last session can be
closed: after the destructor the server has no sessions but those that were there before and those
that are in the stores. -/
theorem sessions_accounted (exact : Exact runners live) (calls : List SessionCall)
    (each : EachStep (step runners) (Settled runners) context calls)
    {last : BackendImpl σ}
    (closes : closeSession runners (calls.foldl (step runners) context).backend = .ok () last)
    (alive : live (close runners (calls.foldl (step runners) context)).backend.server session key) :
    live context.backend.server session key ∨
      (close runners (calls.foldl (step runners) context)).Stored session key := by
  have first : AllAccounted live (live context.backend.server) context :=
    fun _ _ alive => Or.inl (Or.inl alive)
  have kept := run_preserves (fun _ _ settled kept => step_accounted exact settled kept) first each
  have known := ((closeSession_accounted exact kept).of_ok closes).1
  unfold close destroy at alive ⊢
  rw [run_tryCatch, closes] at alive
  rw [run_tryCatch, closes]
  exact known session key alive

/-! An answer to `createsession` that lacks an ID leaves a session to delete that has no ID. -/

/-- There is a session to delete, but its ID is missing. -/
def Stuck (backend : BackendImpl σ) : Prop := backend.deleteSession = true ∧ backend.sessionID = ""

/-- The server refuses to delete a session when the request comes with none. -/
def RefusesNone (runners : Runners σ) : Prop :=
  ∀ input server, input.action = "deleteclient" → input.dataParams.find? "auth_sessionid" = none →
    Outcome (runners.write input) server
      (fun response _ => ∃ exception, getJSON response = .error exception) (fun _ _ => True)

/-- A call that closes the session first. -/
def Closing : SessionCall → Prop
  | .authenticate _ _ _ => True
  | .authInteractive _ _ _ _ _ => True
  | .preAuthenticate _ _ => True
  | .closeSession => True
  | _ => False

private theorem closeSession_stuck {backend : BackendImpl σ} (refuses : RefusesNone runners)
    (stuck : Stuck backend) :
    Outcome (closeSession runners) backend (fun _ _ => False) (fun _ => Stuck) := by
  obtain ⟨deletes, unnamed⟩ := stuck
  unfold closeSession
  rw [Outcome.bind_iff, Outcome.get_iff, if_pos deletes, Outcome.bind_iff]
  unfold runActionWrite
  rw [runAction_iff]
  have without := find?_deleteInput backend
  rw [if_pos unnamed] at without
  refine (refuses _ backend.server (finalizeInput_action _) without).mono ?_
    fun _ _ _ => ⟨deletes, unnamed⟩
  rintro response server ⟨exception, refused⟩
  refine ⟨fun appdata answered => ?_, fun _ _ => ⟨deletes, unnamed⟩⟩
  rw [refused] at answered
  cases answered

private theorem runAction_stuck
    (action : RunnerInput String → EStateM String σ (Option JSONResponse))
    (input : RunnerInput String) : Keeps Stuck (runAction action input) := by
  intro backend stuck
  rw [runAction_iff]
  exact (Outcome.ran _ _).mono (fun _ _ _ => ⟨fun _ _ => stuck, fun _ _ => stuck⟩)
    fun _ _ _ => stuck

private theorem body_stuck {backend : BackendImpl σ} (refuses : RefusesNone runners)
    (unstored : ∀ saves, call ≠ .storeSession saves) (stuck : Stuck backend) :
    Outcome (body runners call) backend (fun _ final => ¬ Closing call ∧ Stuck final)
      (fun _ => Stuck) := by
  have refused := closeSession_stuck refuses stuck
  cases call with
  | authenticate username password twofactor =>
      unfold body authenticate
      rw [Outcome.bind_iff, Outcome.bind_iff]
      exact refused.mono (fun _ _ => False.elim) fun _ _ => id
  | authInteractive quiet console username password forceSession =>
      unfold body authInteractive
      rw [Outcome.bind_iff, Outcome.bind_iff]
      exact refused.mono (fun _ _ => False.elim) fun _ _ => id
  | preAuthenticate sessionID sessionKey =>
      unfold body preAuthenticate
      rw [Outcome.bind_iff, Outcome.bind_iff]
      exact refused.mono (fun _ _ => False.elim) fun _ _ => id
  | closeSession =>
      unfold body
      rw [Outcome.bind_iff]
      exact refused.mono (fun _ _ => False.elim) fun _ _ => id
  | storeSession saves => exact absurd rfl (unstored saves)
  | read input =>
      unfold body
      rw [Outcome.bind_iff]
      exact (runAction_stuck _ _ backend stuck).mono (fun _ _ kept => ⟨id, kept⟩) fun _ _ => id
  | write input =>
      unfold body
      rw [Outcome.bind_iff]
      exact (runAction_stuck _ _ backend stuck).mono (fun _ _ kept => ⟨id, kept⟩) fun _ _ => id

private theorem run_stuck (refuses : RefusesNone runners) (calls : List SessionCall)
    (unstored : ∀ call ∈ calls, ∀ saves, call ≠ .storeSession saves)
    (stuck : Stuck context.backend) : Stuck (calls.foldl (step runners) context).backend := by
  induction calls generalizing context with
  | nil => exact stuck
  | cons call rest ih =>
      refine ih (fun later member => unstored later (List.mem_cons_of_mem _ member)) ?_
      refine (step_iff fun context => Stuck context.backend).mp ?_
      exact (body_stuck refuses (unstored call List.mem_cons_self) stuck).mono
        (fun _ _ => And.right) fun _ _ => id

private theorem enterSession_stuck {backend : BackendImpl σ} {username : String} {appdata : AppData}
    (unnamed : backend.sessionID = "")
    (incomplete : appdata ["account", "id"] = none ∨ appdata sessionPath = none) :
    Outcome (enterSession username appdata) backend (fun _ _ => False) (fun _ => Stuck) := by
  unfold enterSession
  simp only [Outcome.bind_iff, Outcome.modify_iff, getTo_iff]
  refine ⟨fun _ account => ⟨fun _ named => ?_, fun _ => ⟨rfl, unnamed⟩⟩, fun _ => ⟨rfl, unnamed⟩⟩
  rcases incomplete with missing | missing
  · rw [missing] at account
    cases account
  · rw [sessionPath, named] at missing
    cases missing

/-- When the answer to `Authenticate` lacks the ID of the account or of the session, and the server
refuses to delete a session without its ID: then no session can be opened or closed any more, until
one is stored. -/
theorem stuck_after_incomplete (refuses : RefusesNone runners) {username password twofactor : String}
    {response : Option JSONResponse} {server : σ} {appdata : AppData}
    (off : context.backend.deleteSession = false)
    (answered : runners.write (createInput username password twofactor) context.backend.server =
      .ok response server)
    (told : getJSON response = .ok appdata)
    (incomplete : appdata ["account", "id"] = none ∨ appdata sessionPath = none)
    (calls : List SessionCall) (unstored : ∀ call ∈ calls, ∀ saves, call ≠ .storeSession saves)
    (closing : Closing call) : ∃ exception final, body runners call ((calls.foldl (step runners)
      (step runners context (.authenticate username password twofactor))).backend) =
        .error exception final := by
  have stuck : Stuck (step runners context (.authenticate username password twofactor)).backend := by
    refine (step_iff fun context => Stuck context.backend).mp ?_
    unfold body authenticate closeSession
    simp only [Outcome.bind_iff, Outcome.get_iff, off, Bool.false_eq_true, if_false,
      Outcome.modify_iff]
    unfold runActionWrite
    rw [runAction_iff]
    have plain : ∀ backend : BackendImpl σ, backend.sessionID = "" → backend.username = "" →
        ∀ input, finalizeInput backend input = input := by
      intro backend unnamed anonymous input
      unfold finalizeInput
      rw [if_neg (not_not.mpr unnamed), if_neg (not_not.mpr anonymous)]
    rw [plain _ rfl rfl]
    unfold Outcome
    rw [answered]
    refine ⟨fun appdata' same => ?_, fun exception same => ?_⟩
    · rw [told] at same
      cases same
      exact (enterSession_stuck rfl incomplete).mono (fun _ _ => False.elim) fun _ _ => id
    · rw [told] at same
      cases same
  have last := run_stuck refuses calls unstored stuck
  have unstored' : ∀ saves, call ≠ .storeSession saves := by
    rintro saves rfl
    exact closing
  have outcome := body_stuck refuses unstored' last
  cases result : body runners call ((calls.foldl (step runners)
      (step runners context (.authenticate username password twofactor))).backend) with
  | ok stores final => exact absurd closing (outcome.of_ok result).1
  | error exception final => exact ⟨exception, final, rfl⟩

end BackendContext

namespace Scenario

open BackendImpl BackendContext

/-- A server that numbers its sessions. -/
structure Server where
  next : Nat
  alive : List Nat

/-- The ID of the session with a number. -/
def idOf (number : Nat) : String := String.ofList (List.replicate (number + 1) 's')

def Server.live (server : Server) (session key : String) : Prop :=
  ∃ number ∈ server.alive, number < server.next ∧ session = idOf number ∧ key = "key"

/-- What is told of a session. For one user the account is missing. -/
def sessionData (username : Option String) (number : Nat) : AppData := fun keys =>
  if keys = sessionPath then some (idOf number)
  else if keys = keyPath then some "key"
  else if keys = ["account", "id"] ∧ username ≠ some "nobody" then some "account"
  else none

def accepted (appdata : AppData) : Option JSONResponse := some ⟨some true, none, none, some appdata⟩

def denied : Option JSONResponse := some ⟨some false, some 403, some "AUTHENTICATION_FAILED", none⟩

/-- Any password will do, and everything else is accepted. -/
def runners : Runners Server where
  requiresSession := true
  read _ := pure (accepted fun keys => if keys = ["username"] then some "user" else some "account")
  write input := do
    let server ← get
    if input.action = "createsession" then
      set { server with next := server.next + 1, alive := server.alive ++ [server.next] }
      return accepted (sessionData (input.plainParams.find? "username") server.next)
    else if input.action = "deleteclient" then
      match input.dataParams.find? "auth_sessionid" with
      | some session =>
        set { server with alive := server.alive.filter fun number => idOf number ≠ session }
        return accepted fun _ => none
      | none => return denied
    else return accepted fun _ => none

private theorem idOf_injective : Function.Injective idOf := by
  intro first second same
  have lists := String.ofList_injective same
  have lengths := congrArg List.length lists
  simpa using lengths

private theorem idOf_ne (number : Nat) : idOf number ≠ "" := by
  intro empty
  have lists : List.replicate (number + 1) 's' = [] := by
    rw [← String.toList_ofList (l := List.replicate (number + 1) 's')]
    exact congrArg String.toList empty
  cases lists

private theorem write_iff {input : RunnerInput String} {server : Server}
    {Returned : Option JSONResponse → Server → Prop} {Thrown : String → Server → Prop} :
    Outcome (runners.write input) server Returned Thrown ↔
      if input.action = "createsession" then
        Returned (accepted (sessionData (input.plainParams.find? "username") server.next))
          { server with next := server.next + 1, alive := server.alive ++ [server.next] }
      else if input.action = "deleteclient" then
        match input.dataParams.find? "auth_sessionid" with
        | some session => Returned (accepted fun _ => none)
          { server with alive := server.alive.filter fun number => idOf number ≠ session }
        | none => Returned denied server
      else Returned (accepted fun _ => none) server := by
  unfold runners
  simp only [Outcome.bind_iff, Outcome.get_iff]
  split
  · rfl
  · split
    · cases input.dataParams.find? "auth_sessionid" <;> rfl
    · rfl

private theorem server_exact : Exact runners Server.live where
  named := by
    rintro server session key ⟨number, -, -, rfl, -⟩
    exact idOf_ne number
  read := fun _ _ _ _ alive => alive
  write := by
    rintro input server session key ⟨number, member, made, rfl, rfl⟩ apart
    rw [write_iff]
    split
    · exact ⟨number, List.mem_append_left _ member, Nat.lt_succ_of_lt made, rfl, rfl⟩
    · split
      · next deletes =>
          cases named : input.dataParams.find? "auth_sessionid" with
          | none => exact ⟨number, member, made, rfl, rfl⟩
          | some other =>
              have different : idOf number ≠ other := fun same =>
                apart deletes (by rw [named, same])
              exact ⟨number, List.mem_filter.mpr ⟨member, by simpa using different⟩, made, rfl, rfl⟩
      · exact ⟨number, member, made, rfl, rfl⟩
  fresh := by
    intro input server creates
    rw [write_iff, if_pos creates]
    rintro appdata session answered told key ⟨number, -, made, rfl, -⟩
    cases answered
    rw [← idOf_injective (Option.some.inj told)] at made
    exact absurd made (lt_irrefl _)
  made_read := fun _ _ _ _ => id
  made := by
    intro input server
    rw [write_iff]
    split
    · next creates =>
        rintro session key ⟨number, member, made, rfl, rfl⟩
        rcases List.mem_append.mp member with before | new
        · by_cases old : number < server.next
          · exact Or.inl ⟨number, before, old, rfl, rfl⟩
          · refine Or.inr ⟨creates, by simp [accepted, getJSON], ?_⟩
            have same := Nat.le_antisymm (Nat.le_of_not_lt old) (Nat.le_of_lt_succ made)
            intro appdata answered
            cases answered
            rw [same]
            exact ⟨fun _ told => (Option.some.inj told).symm, fun _ told => (Option.some.inj told).symm⟩
        · have same := List.mem_singleton.mp new
          refine Or.inr ⟨creates, by simp [accepted, getJSON], ?_⟩
          intro appdata answered
          cases answered
          rw [same]
          exact ⟨fun _ told => (Option.some.inj told).symm, fun _ told => (Option.some.inj told).symm⟩
    · split
      · cases input.dataParams.find? "auth_sessionid" with
        | none => exact fun _ _ => Or.inl
        | some other =>
            rintro session key ⟨number, member, made, rfl, rfl⟩
            exact Or.inl ⟨number, (List.mem_filter.mp member).1, made, rfl, rfl⟩
      · exact fun _ _ => Or.inl
  ended := by
    intro input server session deletes named
    rw [write_iff, if_neg (by rw [deletes]; decide), if_pos deletes, named]
    rintro appdata - key ⟨number, member, -, same, -⟩
    have different := (List.mem_filter.mp member).2
    simp [same] at different

private theorem server_refuses : RefusesNone runners := by
  intro input server deletes unnamed
  rw [write_iff, if_neg (by rw [deletes]; decide), if_pos deletes, unnamed]
  exact ⟨_, rfl⟩

/-- A backend of a server with one session, which is not its own. -/
def context : BackendContext Server := ⟨.init ⟨1, [0]⟩, []⟩

/-- A session that is stored, another one that is closed, and one that the destructor deletes. -/
def calls : List SessionCall :=
  [.authenticate "user" "secret" "", .storeSession true, .closeSession,
    .authInteractive false ⟨"secret", ""⟩ "user" "" true, .closeSession,
    .preAuthenticate "s" "key", .authenticate "user" "secret" "123456"]

private theorem calls_settled : EachStep (step runners) (Settled runners) context calls := by
  decide +kernel

theorem sessions_survive_calls :
    (close runners (calls.foldl (step runners) context)).backend.server.live "s" "key" :=
  sessions_survive server_exact.toSessions calls ⟨0, by decide, by decide, by decide, rfl⟩
    fun owned => by cases owned.1

theorem sessions_accounted_calls : context.backend.server.live "ss" "key" ∨
    (close runners (calls.foldl (step runners) context)).Stored "ss" "key" :=
  sessions_accounted server_exact calls calls_settled rfl
    ⟨1, by decide +kernel, by decide +kernel, by decide +kernel, rfl⟩

theorem stuck_after_nobody : ∃ exception final, body runners (.authenticate "user" "secret" "")
    (([.preAuthenticate "s" "key"].foldl (step runners)
      (step runners context (.authenticate "nobody" "secret" ""))).backend) =
        .error exception final :=
  stuck_after_incomplete server_refuses rfl rfl rfl (Or.inl (by decide +kernel))
    [.preAuthenticate "s" "key"] (by simp) trivial

end Scenario

end Andromeda.Backend
