import Andromeda.Text.StringUtil
import Mathlib.Data.Char
import Mathlib.Data.List.Lex
import Mathlib.Data.List.Sort

/-! The parsers of `BaseOptions`, for the arguments of a command and for a configuration file. Both
collect the flags and options that they read, and hand them over at the end: first the flags, then
the options by their keys. -/

set_option autoImplicit false

namespace Andromeda.Arguments

open Text

/-- The exceptions of `BaseOptions`. -/
inductive OptionsException where
  | showHelp
  | showVersion
  | badUsage (details : List Char)
  | badFlag (flag : List Char)
  | badOption (option : List Char)
  | badValue (option : List Char)
  | missingOption (option : List Char)
  deriving DecidableEq

/-- `Flags`. -/
abbrev Flags := List (List Char)

/-- `Options`, a `std::multimap`: the entries by their keys, those of one key in the order in which
they came. -/
abbrev Options := List (List Char × List Char)

/-- `emplace` of a `std::multimap`. -/
def emplace (options : Options) (option : List Char × List Char) : Options :=
  options.orderedInsert (fun left right => left.1 < right.1) option

/-- The virtual functions of `BaseOptions` that the parsers call, over the state of an object. -/
structure Receiver (σ : Type) where
  addFlag : List Char → EStateM OptionsException σ Bool
  addOption : List Char → List Char → EStateM OptionsException σ Bool
  validate : EStateM OptionsException σ Unit

/-- The exception for an argument. -/
def badArgument (text : String) (argIdx : Nat) : OptionsException :=
  .badUsage (text.toList ++ Nat.toDigits 10 argIdx)

/-- The loop of `ParseArgs`, over the arguments from an index on. -/
def parseLoop (stopmm : Bool) : (argIdx : Nat) → (args : List (List Char)) → Flags → Options →
    Except OptionsException (Nat × Flags × Options)
  | argIdx, [], flags, options => .ok (argIdx, flags, options)
  | argIdx, [] :: _, _, _ => .error (badArgument "empty key at arg " argIdx)
  | argIdx, (first :: key) :: rest, flags, options =>
    if first ≠ '-' then .error (badArgument "expected key at arg " argIdx)
    else
      let ext := key.head? = some '-'
      let key := if ext then key.tail else key
      if key = [] ∨ key.head?.any isSpace then
        if stopmm then .ok (argIdx + 1, flags, options)
        else .error (badArgument "empty key at arg " argIdx)
      else if '=' ∈ key then
        parseLoop stopmm (argIdx + 1) rest flags (emplace options (split key ['='] 0 false))
      else if ¬ ext ∧ 1 < key.length then
        parseLoop stopmm (argIdx + 1) rest flags (emplace options (key.take 1, key.drop 1))
      else
        match rest with
        | [] => parseLoop stopmm (argIdx + 1) [] (flags ++ [key]) options
        | value :: others =>
          if value.head? ≠ some '-' then
            parseLoop stopmm (argIdx + 2) others flags (emplace options (key, value))
          else parseLoop stopmm (argIdx + 1) (value :: others) (flags ++ [key]) options

namespace Receiver

variable {σ : Type} (receiver : Receiver σ)

/-- A round of the loop over the flags. -/
def deliverFlag (flag : List Char) : EStateM OptionsException σ Unit := do
  if !(← receiver.addFlag flag) then throw (.badFlag flag)

/-- A round of the loop over the options. -/
def deliverOption (option : List Char × List Char) : EStateM OptionsException σ Unit := do
  if !(← receiver.addOption option.1 option.2) then throw (.badOption option.1)

/-- What both parsers end with. -/
def deliver (flags : Flags) (options : Options) : EStateM OptionsException σ Unit := do
  flags.forM receiver.deliverFlag
  options.forM receiver.deliverOption

/-- `ParseArgs`. -/
def parseArgs (argv : List (List Char)) (stopmm : Bool) : EStateM OptionsException σ Nat := do
  match parseLoop stopmm 1 (argv.drop 1) [] [] with
  | .error exception => throw exception
  | .ok (argIdx, flags, options) =>
    receiver.deliver flags options
    pure argIdx

end Receiver

/-- `std::getline`: a line, and what is left of the file unless its end was reached. -/
def getline (file : List Char) : List Char × Option (List Char) :=
  (file.takeWhile (· != '\n'), (file.dropWhile (· != '\n')).tail?)

private theorem getline_shorter {file rest : List Char} (left : (getline file).2 = some rest) :
    rest.length < file.length := by
  have shorter := (file.dropWhile_suffix (· != '\n')).length_le
  cases after : file.dropWhile (· != '\n') with
  | nil =>
      rw [getline, after] at left
      cases left
  | cons symbol others =>
      rw [getline, after] at left
      cases left
      rw [after] at shorter
      exact shorter

/-- A line without the `\r` at its end. -/
def popReturn (line : List Char) : List Char :=
  if line.getLast? = some '\r' then line.dropLast else line

/-- What `ParseFile` does with a line. -/
def readLine (line : List Char) (flags : Flags) (options : Options) : Flags × Options :=
  let line := popReturn line
  if line = [] ∨ line.head? = some '#' ∨ line.head? = some ' ' then (flags, options)
  else if '=' ∉ line then (flags ++ [line], options)
  else (flags, emplace options (split line ['='] 0 false))

/-- The loop of `ParseFile`. -/
def fileLoop (file : List Char) (flags : Flags) (options : Options) : Flags × Options :=
  let read := readLine (getline file).1 flags options
  match left : (getline file).2 with
  | none => read
  | some rest => fileLoop rest read.1 read.2
termination_by file.length
decreasing_by exact getline_shorter left

/-- `ParseFile`, with what the file holds if it can be opened. -/
def Receiver.parseFile {σ : Type} (receiver : Receiver σ) (file : Option (List Char)) :
    EStateM OptionsException σ Unit :=
  match file with
  | none => receiver.deliver [] []
  | some text =>
    let (flags, options) := fileLoop text [] []
    receiver.deliver flags options

end Andromeda.Arguments
