import Andromeda.Backend.RunnerInput
import Andromeda.Library.Multimap
import Andromeda.Text.Base64
import Mathlib.Data.List.Lex

/-! The ways of a request to a server: over HTTP, in a URL with headers or with a body, and as a
command. Strings are their bytes. -/

set_option autoImplicit false

namespace Andromeda.Backend.Transport

open Library Text.Base64

abbrev Bytes := List UInt8

/-- Strings are ordered by their bytes. -/
instance byteOrder : LinearOrder UInt8 where
  le_refl := UInt8.le_refl
  le_trans := fun _ _ _ => UInt8.le_trans
  lt_iff_le_not_ge := fun _ _ => by
    rw [UInt8.not_le]
    exact ⟨fun less => ⟨UInt8.le_of_lt less, less⟩, And.right⟩
  le_antisymm := fun _ _ => UInt8.le_antisymm
  le_total := UInt8.le_total
  toDecidableLE := inferInstance

/-- `RunnerInput::Params`. -/
abbrev Params := KeyMap Bytes Bytes

/-- `RunnerInput_FilesIn::FileData`. -/
structure FileData where
  name : Bytes
  data : Bytes
  deriving DecidableEq

/-- `RunnerInput_FilesIn`. -/
structure RunnerInputFilesIn extends RunnerInput Bytes where
  files : KeyMap Bytes FileData

/-! Over HTTP. -/

/-- `httplib::UploadFormData`; its content type is never set. -/
structure UploadFormData where
  name : Bytes
  content : Bytes
  filename : Bytes

/-- What the HTTP library is called with: `Get` without a body, `Post` with one. -/
structure HTTPRequest where
  url : Bytes
  headers : List (Bytes × Bytes)
  body : Option (List UploadFormData)

/-- The fields of `HTTPRunner` that a request is made from. -/
structure HTTPRunner where
  userAgent : Bytes
  baseURL : Bytes

/-- The parameters of a URL. -/
def urlParams (input : RunnerInput Bytes) : List (Bytes × Bytes) :=
  let urlParams := [(ascii "api", []), (ascii "_app", input.app), (ascii "_act", input.action)]
  (urlParams ++ input.plainParams.entries).foldl
    (fun params param => Multimap.emplace params param.1 param.2) []

/-- A key in a header: `'-'` for `'_'`. -/
def headerKey (key : Bytes) : Bytes :=
  ascii "X-Andromeda-" ++ key.map fun symbol => if symbol = 95 then 45 else symbol

section HTTP

variable (paramsToQueryStr : List (Bytes × Bytes) → Bytes) (runner : HTTPRunner)

/-- `SetupRequest`: the URL and the headers. -/
def setupRequest (input : RunnerInput Bytes) (dataParams : Bool) : Bytes × List (Bytes × Bytes) :=
  let headers := if dataParams then
      input.dataParams.entries.map fun param => (headerKey param.1, encode param.2)
    else []
  (runner.baseURL ++ (if 63 ∈ runner.baseURL then ascii "&" else ascii "?") ++
    paramsToQueryStr (urlParams input), (ascii "User-Agent", runner.userAgent) :: headers)

/-- `AddDataParams`. -/
def addDataParams (input : RunnerInput Bytes) (postParams : List UploadFormData) : List UploadFormData :=
  postParams ++ input.dataParams.entries.map fun param => ⟨param.1, param.2, []⟩

/-- `AddFileParams`. -/
def addFileParams (input : RunnerInputFilesIn) (postParams : List UploadFormData) :
    List UploadFormData :=
  postParams ++ input.files.entries.map fun file => ⟨file.1, file.2.data, file.2.name⟩

/-- The request of `RunAction_Read`. -/
def HTTPRunner.runActionRead (input : RunnerInput Bytes) : HTTPRequest :=
  let (url, headers) := setupRequest paramsToQueryStr runner input true
  ⟨url, headers, none⟩

/-- The request of `RunAction_Write`. -/
def HTTPRunner.runActionWrite (input : RunnerInput Bytes) : HTTPRequest :=
  let (url, headers) := setupRequest paramsToQueryStr runner input false
  ⟨url, headers, some (addDataParams input [])⟩

/-- The request of `RunAction_FilesIn`. -/
def HTTPRunner.runActionFilesIn (input : RunnerInputFilesIn) : HTTPRequest :=
  let (url, headers) := setupRequest paramsToQueryStr runner input.toRunnerInput false
  ⟨url, headers, some (addFileParams input (addDataParams input.toRunnerInput []))⟩

end HTTP

/-! As a command. -/

/-- A process to start: its arguments, its environment, and what is written to its input. -/
structure Command where
  arguments : List Bytes
  environment : Params
  input : Option Bytes

/-- What a started process has of a string: the bytes before the first zero. -/
def cString (text : Bytes) : Bytes := text.takeWhile (· ≠ 0)

/-- A started process: its arguments, the variables it is given as `name=value`, and its input. -/
structure Process where
  arguments : List Bytes
  environment : List Bytes
  input : Option Bytes
  deriving DecidableEq

/-- `process::start`. -/
def Command.start (command : Command) : Process where
  arguments := command.arguments.map cString
  environment := command.environment.entries.map fun entry =>
    cString (entry.1 ++ ascii "=" ++ entry.2)
  input := command.input

/-- `CLIRunner`. -/
structure CLIRunner where
  apiPath : Bytes

/-- `endsWith`. -/
def endsWith (str ending : Bytes) : Bool := decide (ending <:+ str)

/-- `GetArguments`. -/
def CLIRunner.getArguments (runner : CLIRunner) (input : RunnerInput Bytes) : List Bytes :=
  let arguments := [runner.apiPath, ascii "--json", input.app, input.action]
  let arguments :=
    if endsWith runner.apiPath (ascii ".php") then ascii "php" :: arguments else arguments
  arguments ++ input.plainParams.entries.flatMap fun param => [ascii "--" ++ param.1, param.2]

/-- `GetEnvironment`. -/
def getEnvironment (input : RunnerInput Bytes) : Params :=
  input.dataParams.entries.foldl
    (fun environment param => environment.emplace (ascii "andromeda_" ++ param.1) param.2) .empty

/-- The process of `RunAction_Read` and `RunAction_Write`. -/
def CLIRunner.runActionWrite (runner : CLIRunner) (input : RunnerInput Bytes) : Command where
  arguments := runner.getArguments input
  environment := getEnvironment input
  input := none

/-- The process of `RunAction_FilesIn`; `none` is the exception for several files. -/
def CLIRunner.runActionFilesIn (runner : CLIRunner) (input : RunnerInputFilesIn) : Option Command :=
  let arguments := runner.getArguments input.toRunnerInput
  let environment := getEnvironment input.toRunnerInput
  match input.files.entries with
  | [] => some ⟨arguments, environment, none⟩
  | [infile] =>
    some ⟨arguments ++ [ascii "--" ++ infile.1 ++ ascii "-", infile.2.name], environment,
      some infile.2.data⟩
  | _ => none

end Andromeda.Backend.Transport
