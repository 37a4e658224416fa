import Andromeda.Backend.RunnerInput
import Andromeda.Library.Outcome
import Andromeda.Text.StringUtil
import Mathlib.Data.String.Basic

/-! The session of a backend: what its requests authenticate with, and how it comes and goes. The
runners are given by what they answer, and the server by its state behind them. -/

set_option autoImplicit false

namespace Andromeda.Backend

open Andromeda.Library

/-- The JSON under `appdata`, by the string at the end of some keys. -/
abbrev AppData := List String → Option String

/-- The JSON of a response. A field that is missing or of another type is `none`. -/
structure JSONResponse where
  ok : Option Bool
  code : Option Int
  message : Option String
  appdata : Option AppData

inductive BackendException where
  | jsonError
  | unsupported
  | denied (message : String)
  | inputSize
  | authenticationFailed
  | twoFactorRequired
  | readOnlyFS (what : String)
  | notFound (message : String)
  | api (code : Int) (message : String)
  /-- Any exception of a runner. -/
  | runner (what : String)
  deriving DecidableEq

/-- The exception that an error response is turned into. -/
def responseException (code : Int) (message : String) : BackendException :=
  if code = 400 ∧ message = "FILESYSTEM_MISMATCH" then .unsupported
  else if code = 400 ∧ message = "STORAGE_FOLDERS_UNSUPPORTED" then .unsupported
  else if code = 400 ∧ message = "ACCOUNT_CRYPTO_NOT_UNLOCKED" then .denied message
  else if code = 400 ∧ message = "INPUT_FILE_MISSING" then .inputSize
  else if code = 403 ∧ message = "AUTHENTICATION_FAILED" then .authenticationFailed
  else if code = 403 ∧ message = "TWOFACTOR_REQUIRED" then .twoFactorRequired
  else if code = 403 ∧ message = "READ_ONLY_DATABASE" then .readOnlyFS "Database"
  else if code = 403 ∧ message = "READ_ONLY_STORAGE" then .readOnlyFS "Storage"
  else if code = 403 then .denied message
  else if code = 404 then .notFound message
  else .api code message

/-- `GetJSON`. A body that is not JSON is `none`. -/
def getJSON : Option JSONResponse → Except BackendException AppData
  | some ⟨some true, _, _, some appdata⟩ => .ok appdata
  | some ⟨some false, some code, some message, _⟩ =>
    .error (responseException code
      (String.ofList (Text.split message.toList [':'] 0 false).1))
  | _ => .error .jsonError

/-- What the runners do with a request, and the server behind them: an exception by its text. -/
structure Runners (σ : Type) where
  /-- `RequiresSession` of the first one. -/
  requiresSession : Bool
  read : RunnerInput String → EStateM String σ (Option JSONResponse)
  write : RunnerInput String → EStateM String σ (Option JSONResponse)

/-- The fields of `BackendImpl` that belong to its session, and the server. -/
structure BackendImpl (σ : Type) where
  username : String
  accountID : String
  sessionID : String
  sessionKey : String
  deleteSession : Bool
  server : σ

/-- The fields of `SessionStore` that come from a backend. -/
structure SessionStore where
  accountID : String
  sessionID : Option String
  sessionKey : Option String
  deriving DecidableEq

namespace BackendImpl

variable {σ : Type}

/-- A backend that was just constructed. -/
def init (server : σ) : BackendImpl σ where
  username := ""
  accountID := ""
  sessionID := ""
  sessionKey := ""
  deleteSession := false
  server

abbrev Exec (σ : Type) := EStateM BackendException (BackendImpl σ)

/-- `FinalizeInput`. -/
def finalizeInput (backend : BackendImpl σ) (input : RunnerInput String) : RunnerInput String :=
  if backend.sessionID ≠ "" then
    let params := input.dataParams.insert "auth_sessionid" backend.sessionID
    { input with dataParams := params.insert "auth_sessionkey" backend.sessionKey }
  else if backend.username ≠ "" then
    { input with plainParams := input.plainParams.insert "auth_sudouser" backend.username }
  else input

/-- A request through one of the functions of the runners. -/
def runAction (action : RunnerInput String → EStateM String σ (Option JSONResponse))
    (input : RunnerInput String) : Exec σ AppData := fun backend =>
  match action (finalizeInput backend input) backend.server with
  | .error what server => .error (.runner what) { backend with server }
  | .ok response server =>
    match getJSON response with
    | .ok appdata => .ok appdata { backend with server }
    | .error exception => .error exception { backend with server }

variable (runners : Runners σ)

/-- `RunAction_Read`. -/
def runActionRead : RunnerInput String → Exec σ AppData := runAction runners.read

/-- `RunAction_Write`. -/
def runActionWrite : RunnerInput String → Exec σ AppData := runAction runners.write

/-- `get_to`: of a string under some keys. -/
def getTo (appdata : AppData) (keys : List String) (assign : String → BackendImpl σ → BackendImpl σ) :
    Exec σ Unit :=
  match appdata keys with
  | some value => modify (assign value)
  | none => throw .jsonError

/-- `CloseSession`. -/
def closeSession : Exec σ Unit := do
  if (← get).deleteSession then
    let _ ← runActionWrite runners ⟨"accounts", "deleteclient", .empty, .empty⟩
  modify fun backend =>
    { backend with deleteSession := false, username := "", sessionID := "", sessionKey := "" }

/-- The request for a new session. -/
def createInput (username password twofactor : String) : RunnerInput String where
  app := "accounts"
  action := "createsession"
  plainParams := KeyMap.empty.insert "username" username
  dataParams :=
    let params := KeyMap.empty.insert "auth_password" password
    if twofactor ≠ "" then params.insert "auth_twofactor" twofactor else params

/-- What `Authenticate` takes from the response. -/
def enterSession (username : String) (resp : AppData) : Exec σ Unit := do
  modify fun backend => { backend with deleteSession := true }
  getTo resp ["account", "id"] fun accountID backend => { backend with accountID }
  getTo resp ["client", "session", "id"] fun sessionID backend => { backend with sessionID }
  getTo resp ["client", "session", "authkey"] fun sessionKey backend => { backend with sessionKey }
  modify fun backend => { backend with username }

/-- `Authenticate`. -/
def authenticate (username password twofactor : String) : Exec σ Unit := do
  closeSession runners
  let resp ← runActionWrite runners (createInput username password twofactor)
  enterSession username resp

/-- What is typed on the console, when it is asked for. -/
structure Console where
  password : String
  twofactor : String

/-- `AuthInteractive`. -/
def authInteractive (quiet : Bool) (console : Console) (username password : String)
    (forceSession : Bool) : Exec σ Unit := do
  closeSession runners
  if runners.requiresSession ∨ forceSession = true ∨ password ≠ "" then
    if password = "" ∧ quiet = true then throw .authenticationFailed
    let password := if password = "" then console.password else password
    tryCatch (authenticate runners username password "") fun exception =>
      if exception = .twoFactorRequired ∧ quiet = false then
        authenticate runners username password console.twofactor
      else throw exception
  else
    modify fun backend => { backend with username }

/-- `PreAuthenticate`. -/
def preAuthenticate (sessionID sessionKey : String) : Exec σ Unit := do
  closeSession runners
  modify fun backend => { backend with sessionID, sessionKey }
  let resp ← runActionRead runners ⟨"accounts", "getaccount", .empty, .empty⟩
  getTo resp ["id"] fun accountID backend => { backend with accountID }
  getTo resp ["username"] fun username backend => { backend with username }

/-- `StoreSession`, into a store with the account's ID. -/
def storeSession : Exec σ SessionStore := do
  let backend ← get
  set { backend with deleteSession := false }
  return if backend.sessionID = "" then ⟨backend.accountID, none, none⟩
    else ⟨backend.accountID, some backend.sessionID, some backend.sessionKey⟩

/-- `~BackendImpl`. -/
def destroy : Exec σ Unit :=
  tryCatch (closeSession runners) fun _ => pure ()

end BackendImpl

/-- A backend, and the stores that were saved to the database. -/
structure BackendContext (σ : Type) where
  backend : BackendImpl σ
  saved : List SessionStore

/-- A request that neither makes nor deletes a session. -/
structure PlainInput extends RunnerInput String where
  plain : action ≠ "createsession" ∧ action ≠ "deleteclient"

/-- A call of a backend. -/
inductive SessionCall where
  | authenticate (username password twofactor : String)
  | authInteractive (quiet : Bool) (console : BackendImpl.Console) (username password : String)
    (forceSession : Bool)
  | preAuthenticate (sessionID sessionKey : String)
  | closeSession
  /-- `BackendContext::StoreSession`, with whether `Save` returns. -/
  | storeSession (saves : Bool)
  /-- The other functions send one request each. -/
  | read (input : PlainInput)
  | write (input : PlainInput)

namespace BackendContext

variable {σ : Type} (runners : Runners σ)

/-- What a call does, with the stores that it saves. -/
def body : SessionCall → BackendImpl.Exec σ (List SessionStore)
  | .authenticate username password twofactor => do
    BackendImpl.authenticate runners username password twofactor
    return []
  | .authInteractive quiet console username password forceSession => do
    BackendImpl.authInteractive runners quiet console username password forceSession
    return []
  | .preAuthenticate sessionID sessionKey => do
    BackendImpl.preAuthenticate runners sessionID sessionKey
    return []
  | .closeSession => do
    BackendImpl.closeSession runners
    return []
  | .storeSession saves => do
    let store ← BackendImpl.storeSession
    return if saves then [store] else []
  | .read input => do
    let _ ← BackendImpl.runActionRead runners input.toRunnerInput
    return []
  | .write input => do
    let _ ← BackendImpl.runActionWrite runners input.toRunnerInput
    return []

def step (context : BackendContext σ) (call : SessionCall) : BackendContext σ :=
  match body runners call context.backend with
  | .ok stores backend => ⟨backend, context.saved ++ stores⟩
  | .error _ backend => { context with backend }

/-- The context after the destructor of the backend. -/
def close (context : BackendContext σ) : BackendContext σ :=
  match BackendImpl.destroy runners context.backend with
  | .ok _ backend => { context with backend }
  | .error _ backend => { context with backend }

end BackendContext

end Andromeda.Backend
