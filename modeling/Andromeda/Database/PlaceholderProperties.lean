import Andromeda.Library.Sql.Token

/-! The numbered placeholders of queries, as they are written and read. -/

set_option autoImplicit false

namespace Andromeda.Database

open Andromeda.Library

/-- The name of a numbered placeholder, without its colon. -/
def placeholderName (index : Nat) : List Char := 'd' :: Nat.toDigits 10 index

theorem placeholder_toList (index : Nat) :
    (":d" ++ toString index).toList = ':' :: placeholderName index := by
  rw [String.toList_append, Nat.toString_eq_repr, Nat.toList_repr]
  rfl

theorem placeholder_ofList (index : Nat) :
    String.ofList (':' :: placeholderName index) = ":d" ++ toString index := by
  rw [← placeholder_toList, String.ofList_toList]

private theorem placeholderName_inj {index other : Nat}
    (same : placeholderName index = placeholderName other) : index = other := by
  have digits : Nat.toDigits 10 index = Nat.toDigits 10 other := (List.cons.inj same).2
  have read (number : Nat) : Nat.ofDigitChars 10 (Nat.toDigits 10 number) 0 = number :=
    Nat.ofDigitChars_toDigits (by decide) (by decide)
  rw [← read index, digits, read other]

theorem placeholder_inj {index other : Nat}
    (same : ":d" ++ toString index = ":d" ++ toString other) : index = other := by
  have lists := congrArg String.toList same
  rw [placeholder_toList, placeholder_toList] at lists
  exact placeholderName_inj (List.cons.inj lists).2

private theorem isWordChar_of_isDigit {symbol : Char} (digit : symbol.isDigit = true) :
    Sql.isWordChar symbol = true := by
  simp [Sql.isWordChar, Char.isAlphanum, digit]

theorem placeholderName_word (index : Nat) :
    ∀ symbol ∈ placeholderName index, Sql.isWordChar symbol = true := by
  intro symbol member
  rcases List.mem_cons.mp member with rfl | digit
  · decide
  · exact isWordChar_of_isDigit (Nat.isDigit_of_mem_toDigits (by decide) (by decide) digit)

/-- A placeholder is one token. -/
theorem lexes_placeholder (index : Nat) :
    Sql.Lexes (":d" ++ toString index).toList [.param (placeholderName index)] := by
  rw [placeholder_toList]
  exact Sql.lexes_param (List.cons_ne_nil _ _) (placeholderName_word index)

end Andromeda.Database
