import Mathlib.Data.List.TakeWhile
import Andromeda.Text.StringUtil

/-! Numbers of bytes: what a string of a number and a unit stands for, when it is read so, and when
any other string is refused. -/

set_option autoImplicit false

namespace Andromeda.Text

/-- Characters that are all blank. -/
def Blank (str : List Char) : Prop := ∀ symbol ∈ str, isSpace symbol = true

/-- The power of 1024 that a unit stands for. -/
def unitExponent : Char → Option Nat
  | 'K' => some 1
  | 'M' => some 2
  | 'G' => some 3
  | 'T' => some 4
  | 'P' => some 5
  | _ => none

/-- A unit, or none, and the power of 1024 that it stands for. -/
def IsUnit (unit : List Char) (exponent : Nat) : Prop :=
  unit = [] ∧ exponent = 0 ∨ ∃ symbol, unit = [symbol] ∧ unitExponent symbol = some exponent

/-- A string of a decimal number and an optional unit, up to blanks around and between them. -/
def IsQuantity (str : List Char) (number exponent : Nat) : Prop :=
  ∃ before digits between unit after,
    str = before ++ digits ++ between ++ unit ++ after ∧
      Blank before ∧ Blank between ∧ Blank after ∧
      digits ≠ [] ∧ (∀ symbol ∈ digits, symbol.isDigit = true) ∧
      Nat.ofDigitChars 10 digits 0 = number ∧ IsUnit unit exponent

/-- A string without a number and without anything else but a unit. -/
def NoNumber (str : List Char) : Prop :=
  trim str = [] ∨ ∃ symbol exponent, trim str = [symbol] ∧ unitExponent symbol = some exponent

/-- What is meant to be read: the bytes that a number and a unit stand for if they fit in 64 bits,
and an exception otherwise and for any other string. -/
structure Lawful (str : List Char) : Prop where
  quantity : ∀ number exponent, IsQuantity str number exponent →
    if number * 1024 ^ exponent < 2 ^ 64 then
      stringToBytes str = .ok (number * 1024 ^ exponent)
    else ∃ error, stringToBytes str = .error error
  other : (¬ ∃ number exponent, IsQuantity str number exponent) → ¬ NoNumber str →
    ∃ error, stringToBytes str = .error error

/-- A string that begins with a number of 64 bits, after blanks and a sign. -/
def BeginsWithNumber (str : List Char) : Prop :=
  leadingDigits str ≠ [] ∧ Nat.ofDigitChars 10 (leadingDigits str) 0 < 2 ^ 64

/-- A number that does not leave 64 bits because of its unit, or some other string that has several
characters and does not begin with a number of 64 bits. -/
structure Sound (str : List Char) : Prop where
  quantity : ∀ number exponent, IsQuantity str number exponent →
    number * 1024 ^ exponent < 2 ^ 64 ∨ 2 ^ 64 ≤ number
  other : (¬ ∃ number exponent, IsQuantity str number exponent) → ¬ NoNumber str →
    (trim str).length ≠ 1 ∧ ¬ BeginsWithNumber str

section Trim

variable {before middle after str rest : List Char} {symbol : Char}

private theorem isDigit_of_isSpace (blank : isSpace symbol = true) : symbol.isDigit = false := by
  cases digit : symbol.isDigit with
  | false => rfl
  | true =>
    simp only [isSpace, Bool.or_eq_true, beq_iff_eq, Bool.and_eq_true, decide_eq_true_eq] at blank
    simp only [Char.isDigit, Bool.and_eq_true, decide_eq_true_eq, UInt32.le_iff_toNat_le] at digit
    rcases blank with rfl | ⟨_, small⟩
    · revert digit
      decide
    · have same : symbol.val.toNat = symbol.toNat := rfl
      have low : '0'.val.toNat = 48 := rfl
      omega

private theorem isSpace_of_isDigit (digit : symbol.isDigit = true) : isSpace symbol = false := by
  cases blank : isSpace symbol with
  | false => rfl
  | true => simp [isDigit_of_isSpace blank] at digit

/-- A string that neither begins nor ends with a blank. -/
structure Trimmed (str : List Char) : Prop where
  head : ∀ symbol, str.head? = some symbol → isSpace symbol = false
  last : ∀ symbol, str.getLast? = some symbol → isSpace symbol = false

private theorem dropWhile_of_head
    (head : ∀ symbol, str.head? = some symbol → isSpace symbol = false) :
    str.dropWhile isSpace = str := by
  cases str with
  | nil => rfl
  | cons symbol rest => simp [head symbol rfl]

private theorem dropWhile_head : ∀ symbol, (str.dropWhile isSpace).head? = some symbol →
    isSpace symbol = false := by
  intro symbol first
  have plain := List.head?_dropWhile_not isSpace str
  rw [first] at plain
  exact plain

/-- Blanks before and after a string are trimmed away. -/
theorem trim_eq (first : Blank before) (last : Blank after) (filled : middle ≠ [])
    (trimmed : Trimmed middle) : trim (before ++ middle ++ after) = middle := by
  have back : Blank after.reverse := fun symbol member => last symbol (List.mem_reverse.mp member)
  have ends : ∀ symbol, (middle.reverse ++ before.reverse).head? = some symbol →
      isSpace symbol = false := by
    intro symbol held
    rw [List.head?_append_of_ne_nil _ (by simpa using filled), List.head?_reverse] at held
    exact trimmed.last symbol held
  rw [trim, List.reverse_append, List.reverse_append, List.dropWhile_append_of_pos back,
    dropWhile_of_head ends, List.reverse_append, List.reverse_reverse, List.reverse_reverse,
    List.dropWhile_append_of_pos first, dropWhile_of_head trimmed.head]

private theorem trim_split (str : List Char) :
    ∃ before after, str = before ++ trim str ++ after ∧ Blank before ∧ Blank after ∧
      Trimmed (trim str) := by
  have whole := List.takeWhile_append_dropWhile (p := isSpace) (l := str.reverse)
  have kept := List.takeWhile_append_dropWhile (p := isSpace)
    (l := (str.reverse.dropWhile isSpace).reverse)
  refine ⟨((str.reverse.dropWhile isSpace).reverse).takeWhile isSpace,
    (str.reverse.takeWhile isSpace).reverse, ?_, ?_, ?_, ?_⟩
  · rw [trim, kept, ← List.reverse_append, whole, List.reverse_reverse]
  · exact fun symbol member => List.mem_takeWhile_imp member
  · exact fun symbol member => List.mem_takeWhile_imp (List.mem_reverse.mp member)
  · constructor
    · exact dropWhile_head
    · intro symbol held
      have filled : trim str ≠ [] := by
        intro empty
        simp [empty] at held
      have same : (trim str).getLast? = (str.reverse.dropWhile isSpace).reverse.getLast? := by
        rw [← kept]
        exact (List.getLast?_append_of_ne_nil _ filled).symm
      rw [same, List.getLast?_reverse] at held
      exact dropWhile_head symbol held

end Trim

section Digits

variable {digits body rest str : List Char} {symbol : Char}

private theorem unsigned_append (filled : body ≠ []) :
    (unsigned (body ++ rest)).2 = (unsigned body).2 ++ rest := by
  obtain ⟨head, tail, rfl⟩ := List.exists_cons_of_ne_nil filled
  rw [List.cons_append]
  unfold unsigned
  split <;> simp_all

private theorem leadingDigits_append (filled : body ≠ [])
    (head : ∀ symbol, body.head? = some symbol → isSpace symbol = false)
    (plain : ∀ symbol ∈ rest, symbol.isDigit = false) :
    leadingDigits (body ++ rest) = leadingDigits body := by
  have starts : ∀ symbol, (body ++ rest).head? = some symbol → isSpace symbol = false := by
    intro symbol held
    rw [List.head?_append_of_ne_nil _ filled] at held
    exact head symbol held
  have none_ : rest.takeWhile Char.isDigit = [] := by
    cases rest with
    | nil => rfl
    | cons symbol rest => simp [plain symbol]
  rw [leadingDigits, leadingDigits, dropWhile_of_head starts, dropWhile_of_head head,
    unsigned_append filled, List.takeWhile_append, none_]
  split
  · rename_i all
    rw [List.append_nil]
    exact ((List.takeWhile_prefix _).eq_of_length all).symm
  · rfl

private theorem leadingDigits_trim (filled : trim str ≠ []) :
    leadingDigits str = leadingDigits (trim str) := by
  obtain ⟨before, after, equal, first, last, trimmed⟩ := trim_split str
  have plain : ∀ symbol ∈ after, symbol.isDigit = false :=
    fun symbol member => isDigit_of_isSpace (last symbol member)
  rw [← leadingDigits_append filled trimmed.head plain]
  rw [leadingDigits, leadingDigits]
  nth_rewrite 1 [equal]
  rw [List.append_assoc, List.dropWhile_append_of_pos first]

private theorem stoul_digits (filled : digits ≠ [])
    (all : ∀ symbol ∈ digits, symbol.isDigit = true) :
    stoul digits =
      if 2 ^ 64 ≤ Nat.ofDigitChars 10 digits 0 then .error .outOfRange
      else .ok (Nat.ofDigitChars 10 digits 0) := by
  obtain ⟨head, tail, rfl⟩ := List.exists_cons_of_ne_nil filled
  have digit := all head List.mem_cons_self
  have same : (head :: tail).dropWhile isSpace = head :: tail := by
    simp [isSpace_of_isDigit digit]
  have bare : unsigned (head :: tail) = (false, head :: tail) := by
    unfold unsigned
    split
    · rename_i equal
      cases equal
      simp at digit
    · rename_i equal
      cases equal
      simp at digit
    · rfl
  have leading : leadingDigits (head :: tail) = head :: tail := by
    rw [leadingDigits, same, bare]
    exact List.takeWhile_eq_self_iff.mpr all
  simp [stoul, leading, same, bare]

private theorem stoul_error_iff : (∃ error, stoul str = .error error) ↔ ¬ BeginsWithNumber str := by
  unfold stoul BeginsWithNumber
  by_cases none_ : leadingDigits str = []
  · simp [none_]
  · dsimp only
    rw [if_neg none_]
    split
    · next large => exact ⟨fun _ fits => absurd large (Nat.not_le.mpr fits.2), fun _ => ⟨_, rfl⟩⟩
    · next fits =>
      constructor
      · rintro ⟨error, thrown⟩
        cases thrown
      · exact fun without => absurd ⟨none_, Nat.not_le.mp fits⟩ without

end Digits

section Units

variable {unit : Char} {number exponent : Nat}

private theorem mulBytes_mod (exponent : Nat) :
    mulBytes (number * 1024 ^ exponent % 2 ^ 64) = number * 1024 ^ (exponent + 1) % 2 ^ 64 := by
  rw [mulBytes, bytesMul, Nat.mod_mul_mod, Nat.mul_assoc, ← Nat.pow_succ]

private theorem unitCases_eq (held : unitExponent unit = some exponent) :
    unitCases unit number = number * 1024 ^ exponent % 2 ^ 64 := by
  have one : mulBytes number = number * 1024 ^ 1 % 2 ^ 64 := rfl
  unfold unitExponent at held
  split at held <;> cases held <;> simp only [unitCases, one, mulBytes_mod]

private theorem unitExponent_not_digit (held : unitExponent unit = some exponent) :
    unit.isDigit = false ∧ isSpace unit = false := by
  unfold unitExponent at held
  split at held <;> cases held <;> decide

end Units

section Bytes

variable {str body : List Char} {unit : Char} {number exponent : Nat}

private theorem stringToBytes_digit (last : (trim str).getLast? = some unit)
    (digit : unit.isDigit = true) :
    stringToBytes str = (stoul (trim str)).map (unitCases unit) := by
  have filled : trim str ≠ [] := by
    intro empty
    simp [empty] at last
  simp [stringToBytes, last, digit, filled]

private theorem stringToBytes_unit (last : (trim str).getLast? = some unit)
    (plain : unit.isDigit = false) :
    stringToBytes str =
      if trim (trim str).dropLast = [] then .ok 0
      else (stoul (trim (trim str).dropLast)).map (unitCases unit) := by
  simp [stringToBytes, last, plain]

private theorem unitCases_digit (digit : unit.isDigit = true) : unitCases unit number = number := by
  unfold unitCases
  split <;> first | rfl | simp at digit

private theorem stringToBytes_quantity (quantity : IsQuantity str number exponent) :
    stringToBytes str =
      if 2 ^ 64 ≤ number then .error .outOfRange
      else .ok (number * 1024 ^ exponent % 2 ^ 64) := by
  obtain ⟨before, digits, between, unit, after, equal, first, middle, last, filled, all, value,
    isUnit⟩ := quantity
  obtain ⟨final, held⟩ : ∃ final, digits.getLast? = some final :=
    ⟨digits.getLast filled, List.getLast?_eq_some_getLast filled⟩
  have head : ∀ symbol, digits.head? = some symbol → isSpace symbol = false :=
    fun symbol found => isSpace_of_isDigit (all symbol (List.mem_of_head? found))
  have trimmed : Trimmed digits :=
    ⟨head, fun symbol found => isSpace_of_isDigit (all symbol (List.mem_of_getLast? found))⟩
  rcases isUnit with ⟨rfl, rfl⟩ | ⟨symbol, rfl, power⟩
  · have blank : Blank (between ++ after) := by
      intro symbol member
      rcases List.mem_append.mp member with inside | outside
      · exact middle symbol inside
      · exact last symbol outside
    have kept : trim str = digits := by
      rw [equal, List.append_nil, List.append_assoc]
      exact trim_eq first blank filled trimmed
    have digit := all final (List.mem_of_getLast? held)
    rw [stringToBytes_digit (by rw [kept, held]) digit, kept, stoul_digits filled all, value]
    split
    · rfl
    · simp only [Except.map, unitCases_digit digit]
      congr 1
      omega
  · obtain ⟨plain, dark⟩ := unitExponent_not_digit power
    have kept : trim str = digits ++ between ++ [symbol] := by
      have shape : str = before ++ (digits ++ between ++ [symbol]) ++ after := by
        simp only [equal, List.append_assoc]
      rw [shape]
      apply trim_eq first last (by simp)
      constructor
      · intro symbol found
        rw [List.append_assoc, List.head?_append_of_ne_nil _ filled] at found
        exact head symbol found
      · intro symbol found
        rw [List.getLast?_concat] at found
        cases found
        exact dark
    have cut : trim (trim str).dropLast = digits := by
      rw [kept, List.dropLast_concat]
      have none_ : Blank [] := fun symbol member => by cases member
      exact trim_eq none_ middle filled trimmed
    rw [stringToBytes_unit (by rw [kept, List.getLast?_concat]) plain, cut, if_neg filled,
      stoul_digits filled all, value]
    split
    · rfl
    · simp only [Except.map, unitCases_eq power]

private theorem trim_cut (last : (trim str).getLast? = some unit) (plain : unit.isDigit = false) :
    ∃ rest, trim str = trim (trim str).dropLast ++ rest ∧
      (∀ symbol ∈ rest, symbol.isDigit = false) := by
  obtain ⟨_, _, _, _, _, trimmed⟩ := trim_split str
  obtain ⟨before, after, equal, first, blank, _⟩ := trim_split (trim str).dropLast
  have whole : (trim str).dropLast ++ [unit] = trim str :=
    List.dropLast_append_getLast? unit last
  have none_ : before = [] := by
    cases before with
    | nil => rfl
    | cons head before =>
      have starts : (trim str).head? = some head := by rw [← whole, equal]; rfl
      have dark := trimmed.head head starts
      rw [first head List.mem_cons_self] at dark
      cases dark
  refine ⟨after ++ [unit], ?_, ?_⟩
  · rw [none_, List.nil_append] at equal
    nth_rewrite 1 [← whole]
    nth_rewrite 1 [equal]
    rw [List.append_assoc]
  · intro symbol member
    rcases List.mem_append.mp member with inside | final
    · exact isDigit_of_isSpace (blank symbol inside)
    · rw [List.mem_singleton.mp final]
      exact plain

private theorem map_error_iff {result : Except NumberError Nat} {cases_ : Nat → Nat} :
    (∃ error, result.map cases_ = .error error) ↔ ∃ error, result = .error error := by
  cases result <;> simp [Except.map]

private theorem trim_single (last : (trim str).getLast? = some unit)
    (nothing : trim (trim str).dropLast = []) : trim str = [unit] := by
  obtain ⟨_, _, _, _, _, trimmed⟩ := trim_split str
  obtain ⟨before, after, equal, first, blank, _⟩ := trim_split (trim str).dropLast
  have whole : (trim str).dropLast ++ [unit] = trim str :=
    List.dropLast_append_getLast? unit last
  have none_ : (trim str).dropLast = [] := by
    cases cut : (trim str).dropLast with
    | nil => rfl
    | cons head rest =>
      have starts : (trim str).head? = some head := by rw [← whole, cut]; rfl
      have dark := trimmed.head head starts
      have member : head ∈ before ++ after := by
        rw [nothing, List.append_nil, cut] at equal
        rw [← equal]
        exact List.mem_cons_self
      rcases List.mem_append.mp member with left | right
      · rw [first head left] at dark
        cases dark
      · rw [blank head right] at dark
        cases dark
  rw [← whole, none_]
  rfl

private theorem isQuantity_digit (single : trim str = [unit]) (digit : unit.isDigit = true) :
    IsQuantity str (Nat.ofDigitChars 10 [unit] 0) 0 := by
  obtain ⟨before, after, equal, first, last, _⟩ := trim_split str
  have none_ : Blank [] := fun symbol member => by cases member
  refine ⟨before, [unit], [], [], after, ?_, first, none_, last, List.cons_ne_nil _ _, ?_, rfl,
    Or.inl ⟨rfl, rfl⟩⟩
  · rw [single] at equal
    simpa using equal
  · intro symbol member
    rw [List.mem_singleton.mp member]
    exact digit

/-- A string that is not a number with a unit is refused exactly if it has several characters and
does not begin with a number of 64 bits. -/
private theorem stringToBytes_error_iff
    (other : ¬ ∃ number exponent, IsQuantity str number exponent)
    (filled : trim str ≠ []) :
    (∃ error, stringToBytes str = .error error) ↔
      (trim str).length ≠ 1 ∧ ¬ BeginsWithNumber str := by
  obtain ⟨unit, last⟩ : ∃ unit, (trim str).getLast? = some unit :=
    ⟨(trim str).getLast filled, List.getLast?_eq_some_getLast filled⟩
  have begins : BeginsWithNumber str ↔ BeginsWithNumber (trim str) := by
    rw [BeginsWithNumber, BeginsWithNumber, leadingDigits_trim filled]
  rw [begins]
  cases digit : unit.isDigit with
  | true =>
    rw [stringToBytes_digit last digit, map_error_iff, stoul_error_iff]
    have several : (trim str).length ≠ 1 := by
      intro one
      obtain ⟨symbol, single⟩ := List.length_eq_one_iff.mp one
      rw [single] at last
      cases last
      exact other ⟨_, _, isQuantity_digit single digit⟩
    exact ⟨fun refused => ⟨several, refused⟩, And.right⟩
  | false =>
    rw [stringToBytes_unit last digit]
    split
    · rename_i nothing
      rw [trim_single last nothing]
      simp
    · rename_i more
      rw [map_error_iff, stoul_error_iff]
      obtain ⟨rest, cut, plain⟩ := trim_cut last digit
      obtain ⟨_, _, _, _, _, trimmed⟩ := trim_split (trim str).dropLast
      have same : BeginsWithNumber (trim str) ↔ BeginsWithNumber (trim (trim str).dropLast) := by
        rw [BeginsWithNumber, BeginsWithNumber]
        nth_rewrite 1 2 [cut]
        rw [leadingDigits_append more trimmed.head plain]
      have several : (trim str).length ≠ 1 := by
        intro one
        obtain ⟨symbol, single⟩ := List.length_eq_one_iff.mp one
        exact more (by rw [single]; rfl)
      rw [same]
      exact ⟨fun refused => ⟨several, refused⟩, And.right⟩

private theorem lawful_iff : Lawful str ↔ Sound str := by
  constructor
  · intro lawful
    constructor
    · intro number exponent quantity
      rcases Nat.lt_or_ge number (2 ^ 64) with small | large
      · left
        by_contra overflow
        have meant := lawful.quantity number exponent quantity
        rw [if_neg overflow, stringToBytes_quantity quantity, if_neg (Nat.not_le.mpr small)] at meant
        obtain ⟨error, equal⟩ := meant
        cases equal
      · exact Or.inr large
    · intro other numbered
      exact (stringToBytes_error_iff other fun empty => numbered (Or.inl empty)).mp
        (lawful.other other numbered)
  · intro sound
    constructor
    · intro number exponent quantity
      rw [stringToBytes_quantity quantity]
      rcases sound.quantity number exponent quantity with fits | large
      · have power : 1 ≤ 1024 ^ exponent := Nat.one_le_pow _ _ (by decide)
        have small : number < 2 ^ 64 := Nat.lt_of_le_of_lt (Nat.le_mul_of_pos_right _ power) fits
        rw [if_pos fits, if_neg (Nat.not_le.mpr small), Nat.mod_eq_of_lt fits]
      · have power : 1 ≤ 1024 ^ exponent := Nat.one_le_pow _ _ (by decide)
        have overflow : ¬ number * 1024 ^ exponent < 2 ^ 64 :=
          Nat.not_lt.mpr (Nat.le_trans large (Nat.le_mul_of_pos_right _ power))
        rw [if_neg overflow, if_pos large]
        exact ⟨_, rfl⟩
    · intro other numbered
      exact (stringToBytes_error_iff other fun empty => numbered (Or.inl empty)).mpr
        (sound.other other numbered)

end Bytes

section RoundTrip

variable {bytes number exponent : Nat} {unit : List Char} {units : List (List Char)}

private theorem isQuantity_toDigits (held : IsUnit unit exponent) :
    IsQuantity (Nat.toDigits 10 number ++ unit) number exponent := by
  have none_ : Blank [] := fun symbol member => by cases member
  refine ⟨[], Nat.toDigits 10 number, [], unit, [], by simp, none_, none_, none_,
    Nat.toDigits_ne_nil, ?_, Nat.ofDigitChars_ten_toDigits, held⟩
  exact fun symbol member => Nat.isDigit_of_mem_toDigits (by decide) (by decide) member

private theorem bytesLoop_quantity (bytes : Nat)
    (held : ∀ index unit', (unit :: units)[index]? = some unit' → IsUnit unit' (exponent + index)) :
    ∃ number unit' exponent', bytesLoop bytes unit units = Nat.toDigits 10 number ++ unit' ∧
      IsUnit unit' exponent' ∧ number * 1024 ^ exponent' = bytes * 1024 ^ exponent := by
  induction units generalizing bytes unit exponent with
  | nil => exact ⟨bytes, unit, exponent, rfl, held 0 unit rfl, rfl⟩
  | cons next units ih =>
      unfold bytesLoop
      split
      · rename_i divides
        have later : ∀ index unit', (next :: units)[index]? = some unit' →
            IsUnit unit' (exponent + 1 + index) := by
          intro index unit' found
          have shifted := held (index + 1) unit' (by simpa using found)
          rwa [Nat.add_assoc, Nat.add_comm 1 index]
        obtain ⟨number, unit', exponent', equal, isUnit, same⟩ := ih (bytes / bytesMul) later
        refine ⟨number, unit', exponent', equal, isUnit, ?_⟩
        have whole : bytes / bytesMul * bytesMul = bytes :=
          Nat.div_mul_cancel (Nat.dvd_of_mod_eq_zero divides.2)
        calc number * 1024 ^ exponent' = bytes / bytesMul * 1024 ^ (exponent + 1) := same
          _ = bytes / bytesMul * bytesMul * 1024 ^ exponent := by
            rw [Nat.pow_succ, Nat.mul_comm (1024 ^ exponent), ← Nat.mul_assoc]
            rfl
          _ = bytes * 1024 ^ exponent := by rw [whole]
      · exact ⟨bytes, unit, exponent, rfl, held 0 unit rfl, rfl⟩

private theorem bytesToString_quantity (bytes : Nat) :
    ∃ number exponent, IsQuantity (bytesToString bytes) number exponent ∧
      number * 1024 ^ exponent = bytes := by
  have held : ∀ index unit',
      ([] :: [['K'], ['M'], ['G'], ['T'], ['P']])[index]? = some unit' →
        IsUnit unit' (0 + index) := by
    intro index unit' found
    rw [Nat.zero_add]
    match index with
    | 0 => exact Or.inl ⟨by simpa using found.symm, rfl⟩
    | 1 => exact Or.inr ⟨'K', by simpa using found.symm, rfl⟩
    | 2 => exact Or.inr ⟨'M', by simpa using found.symm, rfl⟩
    | 3 => exact Or.inr ⟨'G', by simpa using found.symm, rfl⟩
    | 4 => exact Or.inr ⟨'T', by simpa using found.symm, rfl⟩
    | 5 => exact Or.inr ⟨'P', by simpa using found.symm, rfl⟩
    | index + 6 => simp at found
  obtain ⟨number, unit', exponent, equal, isUnit, same⟩ := bytesLoop_quantity bytes held
  refine ⟨number, exponent, ?_, by simpa using same⟩
  rw [bytesToString, equal]
  exact isQuantity_toDigits isUnit

private theorem stringToBytes_bytesToString (small : bytes < 2 ^ 64) :
    stringToBytes (bytesToString bytes) = .ok bytes := by
  obtain ⟨number, exponent, quantity, same⟩ := bytesToString_quantity bytes
  have power : 1 ≤ 1024 ^ exponent := Nat.one_le_pow _ _ (by decide)
  have fits : number < 2 ^ 64 := by
    apply Nat.lt_of_le_of_lt _ small
    rw [← same]
    exact Nat.le_mul_of_pos_right _ power
  rw [stringToBytes_quantity quantity, if_neg (Nat.not_le.mpr fits), same, Nat.mod_eq_of_lt small]

end RoundTrip

/-- What was written of 64 bits is read back, and any string is read as it is meant to be exactly if
it is sound. -/
theorem stringToBytes_correct (str : List Char) (bytes : Nat) :
    (bytes < 2 ^ 64 → stringToBytes (bytesToString bytes) = .ok bytes) ∧
      (Lawful str ↔ Sound str) :=
  ⟨stringToBytes_bytesToString, lawful_iff⟩

theorem stringToBytes_correct_page :
    stringToBytes (bytesToString 4096) = .ok 4096 ∧ (Lawful ['4', 'K'] ↔ Sound ['4', 'K']) :=
  ⟨(stringToBytes_correct ['4', 'K'] 4096).1 (by decide), (stringToBytes_correct ['4', 'K'] 4096).2⟩

/-- A number that leaves 64 bits because of its unit is read as zero, and a negative one as a large
one. -/
theorem overflow_not_lawful :
    stringToBytes "17179869184G".toList = .ok 0 ∧ ¬ Lawful "17179869184G".toList ∧
      stringToBytes "-1".toList = .ok (2 ^ 64 - 1) := by
  have read : stringToBytes "17179869184G".toList = .ok 0 := by decide
  refine ⟨read, fun lawful => ?_, by decide⟩
  have none_ : Blank [] := fun symbol member => by cases member
  have meant := lawful.quantity 17179869184 3
    ⟨[], "17179869184".toList, [], ['G'], [], by decide, none_, none_, none_, by decide,
      List.all_eq_true.mp (by decide), by decide, Or.inr ⟨'G', rfl, rfl⟩⟩
  rw [if_neg (by decide), read] at meant
  obtain ⟨error, equal⟩ := meant
  cases equal

end Andromeda.Text
