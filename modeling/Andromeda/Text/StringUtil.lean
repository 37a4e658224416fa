import Andromeda.Library.Occurrences
import Mathlib.Algebra.Ring.Nat

/-! The string utilities: splitting at a delimiter, replacing and escaping, trimming, and numbers
of bytes. A string is the list of its characters, one for each byte. -/

set_option autoImplicit false

namespace Andromeda.Text

open Library

section Characters

variable {α : Type} [DecidableEq α]

/-- `implode`. -/
def implode (glue : List α) : List (List α) → List α
  | [] => []
  | first :: rest => first ++ rest.flatMap (glue ++ ·)

/-- The loop of `explode`. -/
def explodeLoop (delim : List α) (nonempty : delim ≠ []) (skip max : Nat) (str el : List α)
    (skipped : Nat) (retval : List (List α)) : List (List α) :=
  if retval.length + 1 < max then
    match found : find delim str with
    | none => retval ++ [el ++ str]
    | some segEnd =>
      if skipped ≥ skip then
        explodeLoop delim nonempty skip max (str.drop (segEnd + delim.length)) [] skipped
          (retval ++ [el ++ str.take segEnd])
      else
        explodeLoop delim nonempty skip max (str.drop (segEnd + delim.length))
          (el ++ str.take segEnd ++ delim) (skipped + 1) retval
  else retval ++ [el ++ str]
termination_by str.length
decreasing_by
  all_goals
    have := find_length found
    have := List.length_pos_iff.mpr nonempty
    simp only [List.length_drop]
    omega

/-- `explode`. -/
def explode (str delim : List α) (skip : Nat) (reverse : Bool) (max : Nat) : List (List α) :=
  if str = [] then []
  else if nonempty : delim = [] then [str]
  else
    let str := if reverse then str.reverse else str
    let retval := explodeLoop delim nonempty skip max str [] 0 []
    if reverse then (retval.map List.reverse).reverse else retval

/-- `split`. -/
def split (str delim : List α) (skip : Nat) (reverse : Bool) : List α × List α :=
  match explode str delim skip reverse 2 with
  | [] => ([], [])
  | [piece] => if reverse then ([], piece) else (piece, [])
  | first :: second :: _ => (first, second)

/-- The loop of `replaceAll_void`, from the position it has come to: what stands before it is
kept. -/
def replaceLoop (source repl : List α) (nonempty : source ≠ []) (str : List α) : List α :=
  match found : find source str with
  | none => str
  | some pos =>
    str.take pos ++ repl ++ replaceLoop source repl nonempty (str.drop (pos + source.length))
termination_by str.length
decreasing_by
  have := find_length found
  have := List.length_pos_iff.mpr nonempty
  simp only [List.length_drop]
  omega

/-- `replaceAll`. -/
def replaceAll (str source repl : List α) : List α :=
  if nonempty : source = [] then str else replaceLoop source repl nonempty str

/-- `escapeAll`. -/
def escapeAll (str delims : List α) (escape : α) : List α :=
  delims.foldl (fun retval delim => replaceAll retval [delim] [escape, delim])
    (replaceAll str [escape] [escape, escape])

end Characters

/-- `splitPath`. -/
def splitPath (stri : List Char) : List Char × List Char :=
  split (stri.reverse.dropWhile (· == '/')).reverse ['/'] 0 true

/-- `startsWith`. -/
def startsWith (str start : List Char) : Bool :=
  decide (start.length ≤ str.length) && str.take start.length == start

theorem startsWith_iff {str start : List Char} : startsWith str start = true ↔ start <+: str := by
  rw [startsWith, Bool.and_eq_true, decide_eq_true_eq, beq_iff_eq, List.prefix_iff_eq_take, eq_comm]
  constructor
  · exact And.right
  · intro same
    refine ⟨?_, same⟩
    rw [same, List.length_take]
    exact Nat.min_le_right _ _

/-- `isspace`. -/
def isSpace (symbol : Char) : Bool := symbol == ' ' || (9 ≤ symbol.toNat && symbol.toNat ≤ 13)

/-- `trim`. -/
def trim (str : List Char) : List Char :=
  ((str.reverse.dropWhile isSpace).reverse).dropWhile isSpace

/-- The exceptions of `stoul`. -/
inductive NumberError where
  | invalidArgument
  | outOfRange
  deriving DecidableEq

/-- A string without the sign that it begins with, and whether that is a minus. -/
def unsigned : List Char → Bool × List Char
  | '-' :: rest => (true, rest)
  | '+' :: rest => (false, rest)
  | str => (false, str)

/-- The decimal digits that a string begins with, after blanks and a sign. -/
def leadingDigits (str : List Char) : List Char :=
  (unsigned (str.dropWhile isSpace)).2.takeWhile Char.isDigit

/-- `stoul`: blanks, a sign and a decimal number, and whatever follows. -/
def stoul (str : List Char) : Except NumberError Nat :=
  let value := Nat.ofDigitChars 10 (leadingDigits str) 0
  if leadingDigits str = [] then .error .invalidArgument
  else if 2 ^ 64 ≤ value then .error .outOfRange
  else .ok (if (unsigned (str.dropWhile isSpace)).1 then (2 ^ 64 - value) % 2 ^ 64 else value)

/-- `bytesMul`. -/
def bytesMul : Nat := 1024

/-- `num *= bytesMul`. -/
def mulBytes (num : Nat) : Nat := num * bytesMul % 2 ^ 64

/-- The cases of a unit, each falling through to the next. -/
def unitCases (unit : Char) (num : Nat) : Nat :=
  match unit with
  | 'P' => mulBytes (mulBytes (mulBytes (mulBytes (mulBytes num))))
  | 'T' => mulBytes (mulBytes (mulBytes (mulBytes num)))
  | 'G' => mulBytes (mulBytes (mulBytes num))
  | 'M' => mulBytes (mulBytes num)
  | 'K' => mulBytes num
  | _ => num

/-- `stringToBytes`. -/
def stringToBytes (stri : List Char) : Except NumberError Nat :=
  let str := trim stri
  match str.getLast? with
  | none => .ok 0
  | some unit =>
    let body := if unit.isDigit then str else trim str.dropLast
    if body = [] then .ok 0
    else (stoul body).map (unitCases unit)

/-- The loop of `bytesToString`, with the units that are left. -/
def bytesLoop (bytes : Nat) : (unit : List Char) → (units : List (List Char)) → List Char
  | unit, [] => (Nat.toDigits 10 bytes) ++ unit
  | unit, next :: units =>
    if bytesMul ≤ bytes ∧ bytes % bytesMul = 0 then bytesLoop (bytes / bytesMul) next units
    else (Nat.toDigits 10 bytes) ++ unit

/-- `bytesToString`. -/
def bytesToString (bytes : Nat) : List Char := bytesLoop bytes [] [['K'], ['M'], ['G'], ['T'], ['P']]

end Andromeda.Text
