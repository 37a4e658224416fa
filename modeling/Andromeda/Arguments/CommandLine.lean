import Andromeda.Arguments.BaseOptions
import Andromeda.Backend.RunnerInput
import Andromeda.Library.KeyMap

/-! The constructor of `CommandLine`: the options, and then the parameters of an action, those of
the environment first. Both lists of parameters go through the same loop. -/

set_option autoImplicit false

namespace Andromeda.Arguments

open Library Text

/-- The exceptions of the constructor; `undefined` stands where the code has none to throw. -/
inductive CommandException where
  | options (exception : OptionsException)
  | base (details : List Char)
  | privateData (key : List Char)
  | incompatible
  | filesystem
  | undefined
  deriving DecidableEq

/-- A string map. -/
abbrev Params := KeyMap (List Char) (List Char)

/-- What a path leads to; `failed` where even this cannot be told. -/
inductive Entry where
  | absent
  | directory
  | file (data : List Char)
  | failed

/-- Where a stream reads from. -/
inductive StreamSource where
  | file (path : List Char)
  | standardInput
  deriving DecidableEq

/-- `FileStream`. -/
structure FileStream where
  name : List Char
  source : StreamSource
  deriving DecidableEq

/-- What the parameters fill, with what is left to read from the standard input and what was written
to the standard output. -/
structure Parsed where
  plainParams : Params
  dataParams : Params
  inStreams : KeyMap (List Char) FileStream
  input : List Char
  output : List Char

/-- The virtual functions and the getters of `Options`. -/
structure CliOptions (σ : Type) extends Receiver σ where
  isStreamOut : σ → Bool
  allowUnsafeUrl : σ → Bool

/-- `BadUsageException`, for a parameter. -/
def badParam (text : String) (i : Nat) : CommandException := .options (badArgument text i)

/-- `getNextValue`: a value, and the index after it. -/
def getNextValue (argv : List (List Char)) (i : Nat) : List Char × Nat :=
  if startsWith (argv.getD i []) "--".toList ∧ '=' ∈ argv.getD i [] then
    ((split (argv.getD i []) ['='] 0 false).2, i)
  else if i + 1 < argv.length ∧ ¬ startsWith (argv.getD (i + 1) []) "--".toList then
    (argv.getD (i + 1) [], i + 1)
  else ([], i)

/-- A key without the special character that it ends in. -/
def specialKey (text : String) (param : List Char) (i : Nat) : Except CommandException (List Char) :=
  if param.dropLast = [] then .error (badParam text i) else .ok param.dropLast

/-- `getNextValue` where there has to be one. -/
def requiredValue (text : String) (args : List (List Char)) (i : Nat) :
    Except CommandException (List Char × Nat) :=
  let (val, j) := getNextValue args i
  if val = [] then .error (badParam text j) else .ok (val, j)

/-- The content of a file that is checked to exist. -/
def readFile (entries : List Char → Entry) (path : List Char) : Except CommandException (List Char) :=
  match entries path with
  | .absent | .directory => .error (.base ("Inaccessible file: ".toList ++ path))
  | .failed => .error .filesystem
  | .file data => .ok data

section Params

variable (entries : List Char → Entry) (allowUnsafeUrl isPriv : Bool) (args : List (List Char))

/-- `param@`: the content of a file. -/
def contentParam (param : List Char) (i : Nat) (parsed : Parsed) :
    Except CommandException (Nat × Parsed) := do
  let param ← specialKey "empty @ key at action arg " param i
  let (val, j) ← requiredValue "expected @ value at action arg " args i
  let data ← readFile entries val
  pure (j, { parsed with dataParams := parsed.dataParams.insert param data })

/-- `param!`: a line of the standard input. -/
def promptParam (param : List Char) (i : Nat) (parsed : Parsed) :
    Except CommandException (Nat × Parsed) := do
  let param ← specialKey "empty ! key at action arg " param i
  let (val, left) := getline parsed.input
  pure (i, { parsed with
    dataParams := parsed.dataParams.insert param (trim val)
    input := left.getD []
    output := parsed.output ++ "enter ".toList ++ param ++ "...\n".toList })

/-- `param%`: a file to be read from. -/
def fileParam (param : List Char) (i : Nat) (parsed : Parsed) :
    Except CommandException (Nat × Parsed) := do
  let param ← specialKey "empty % key at action arg " param i
  let (path, j) ← requiredValue "expected % value at action arg " args i
  let _ ← readFile entries path
  let (next, k) := getNextValue args j
  let filename := if next = [] then (splitPath path).2 else next
  pure (k, { parsed with inStreams := parsed.inStreams.emplace param ⟨filename, .file path⟩ })

/-- `param-`: the standard input to be read from. -/
def streamParam (param : List Char) (i : Nat) (parsed : Parsed) :
    Except CommandException (Nat × Parsed) := do
  let param ← specialKey "empty - key at action arg " param i
  let (next, j) := getNextValue args i
  let filename := if next = [] then "data".toList else next
  pure (j, { parsed with inStreams := parsed.inStreams.emplace param ⟨filename, .standardInput⟩ })

/-- A parameter with its value. -/
def plainParam (param : List Char) (i : Nat) (parsed : Parsed) :
    Except CommandException (Nat × Parsed) :=
  if ¬ isPriv ∧ ¬ allowUnsafeUrl ∧
      ((find "password".toList param).isSome ∨ (find "auth_".toList param).isSome) then
    .error (.privateData param)
  else
    let (next, j) := getNextValue args i
    .ok (j, if isPriv then { parsed with dataParams := parsed.dataParams.insert param next }
      else { parsed with plainParams := parsed.plainParams.insert param next })

/-- A round of the loop of `ProcessArgList`, with the index that it leaves. -/
def processArg (i : Nat) (parsed : Parsed) : Except CommandException (Nat × Parsed) :=
  let arg := args.getD i []
  if arg.length < 2 ∨ ¬ startsWith arg "--".toList then
    .error (badParam "expected key at action arg " i)
  else if arg.length < 3 ∨ (arg.drop 2).head?.any isSpace then
    .error (badParam "empty key at action arg " i)
  else
    let param := (split (arg.drop 2) ['='] 0 false).1
    match param.getLast? with
    | none => .error .undefined
    | some special =>
      if special = '@' then contentParam entries args param i parsed
      else if special = '!' then promptParam param i parsed
      else if special = '%' then fileParam entries args param i parsed
      else if special = '-' then streamParam args param i parsed
      else plainParam allowUnsafeUrl isPriv args param i parsed

/-- A computation that went on after a first one. -/
theorem bind_eq_ok {α β : Type} {first : Except CommandException α}
    {next : α → Except CommandException β} {result : β} (ended : first >>= next = .ok result) :
    ∃ value, first = .ok value ∧ next value = .ok result := by
  cases first with
  | error exception => cases ended
  | ok value => exact ⟨value, rfl, ended⟩

private theorem getNextValue_forward (argv : List (List Char)) (i : Nat) :
    i ≤ (getNextValue argv i).2 := by
  unfold getNextValue
  split_ifs
  · exact Nat.le_refl i
  · exact Nat.le_succ i
  · exact Nat.le_refl i

private theorem requiredValue_forward {text : String} {args : List (List Char)} {i j : Nat}
    {val : List Char} (found : requiredValue text args i = .ok (val, j)) : i ≤ j := by
  have forward := getNextValue_forward args i
  simp only [requiredValue] at found
  split_ifs at found
  cases found
  exact forward

variable {entries allowUnsafeUrl isPriv args}

private theorem processArg_forward {i j : Nat} {parsed parsed' : Parsed}
    (round : processArg entries allowUnsafeUrl isPriv args i parsed = .ok (j, parsed')) : i ≤ j := by
  simp only [processArg] at round
  split_ifs at round
  split at round
  · cases round
  · split_ifs at round
    · obtain ⟨_, _, round⟩ := bind_eq_ok round
      obtain ⟨⟨_, _⟩, found, round⟩ := bind_eq_ok round
      obtain ⟨_, _, round⟩ := bind_eq_ok round
      cases round
      exact requiredValue_forward found
    · obtain ⟨_, _, round⟩ := bind_eq_ok round
      cases round
      exact Nat.le_refl i
    · obtain ⟨_, _, round⟩ := bind_eq_ok round
      obtain ⟨⟨_, _⟩, found, round⟩ := bind_eq_ok round
      obtain ⟨_, _, round⟩ := bind_eq_ok round
      cases round
      exact (requiredValue_forward found).trans (getNextValue_forward args _)
    · obtain ⟨_, _, round⟩ := bind_eq_ok round
      cases round
      exact getNextValue_forward args i
    · simp only [plainParam] at round
      split_ifs at round
      all_goals
        cases round
        exact getNextValue_forward args i

variable (entries allowUnsafeUrl isPriv args)

/-- The loop of `ProcessArgList`. -/
def processLoop (i : Nat) (parsed : Parsed) : Except CommandException Parsed :=
  if i < args.length then
    match round : processArg entries allowUnsafeUrl isPriv args i parsed with
    | .error exception => .error exception
    | .ok (j, parsed) => processLoop (j + 1) parsed
  else .ok parsed
termination_by args.length - i
decreasing_by
  have := processArg_forward round
  omega

/-- `ProcessArgList`. -/
def processArgList (parsed : Parsed) : Except CommandException Parsed :=
  processLoop entries allowUnsafeUrl isPriv args 0 parsed

end Params

/-- `GetEnvironment`. -/
def getEnvironment (environ : List (List Char)) (start : List Char) : Params :=
  environ.foldl (fun retval var =>
    let pair := split var ['='] 0 false
    if start = [] ∨ startsWith pair.1 start then retval.emplace pair.1 pair.2 else retval) .empty

/-- The arguments that the variables of the environment are turned into. -/
def environmentArgs (environment : Params) : List (List Char) :=
  environment.entries.flatMap fun pair =>
    let key := (split pair.1 ['_'] 0 false).2
    if key = [] then [] else ["--".toList ++ key, pair.2]

/-- The input of a command: one of `mInput`, `mInput_StreamIn` and `mInput_StreamOut`. -/
inductive Input where
  | plain (input : Backend.RunnerInput (List Char))
  | streamIn (input : Backend.RunnerInput (List Char)) (fstreams : KeyMap (List Char) FileStream)
  | streamOut (input : Backend.RunnerInput (List Char))

def Input.base : Input → Backend.RunnerInput (List Char)
  | plain input | streamIn input _ | streamOut input => input

namespace CliOptions

variable {σ : Type} (options : CliOptions σ)

/-- The constructor of `CommandLine` from the action on. -/
def actionInput (entries : List Char → Entry) (environ : List (List Char)) (input : List Char)
    (app action : List Char) (params : List (List Char)) (state : σ) :
    Except CommandException Input := do
  let allow := options.allowUnsafeUrl state
  let environment := getEnvironment environ "andromeda_".toList
  let parsed ← processArgList entries allow true (environmentArgs environment)
    ⟨.empty, .empty, .empty, input, []⟩
  let parsed ← processArgList entries allow false params parsed
  let runnerInput : Backend.RunnerInput (List Char) := ⟨app, action, parsed.plainParams, parsed.dataParams⟩
  if options.isStreamOut state then
    if parsed.inStreams.entries ≠ [] then .error .incompatible else .ok (.streamOut runnerInput)
  else if parsed.inStreams.entries ≠ [] then .ok (.streamIn runnerInput parsed.inStreams)
  else .ok (.plain runnerInput)

/-- The constructor of `CommandLine`. It is undefined where `argc` is below the index that
`ParseArgs` returns: the difference is unsigned. -/
def construct (entries : List Char → Entry) (environ : List (List Char)) (input : List Char)
    (argv : List (List Char)) : EStateM CommandException σ Input := fun state =>
  match options.parseArgs argv true state with
  | .error exception state => .error (.options exception) state
  | .ok shift state =>
    match options.validate state with
    | .error exception state => .error (.options exception) state
    | .ok _ state =>
      if argv.length < shift then .error .undefined state
      else
        match argv.drop shift with
        | app :: action :: params =>
          match options.actionInput entries environ input app action params state with
          | .error exception => .error exception state
          | .ok result => .ok result state
        | _ => .error (.options (.badUsage "missing app/action".toList)) state

end CliOptions

end Andromeda.Arguments
