import Andromeda.Database.QueryText
import Andromeda.Library.Like
import Andromeda.Text.EscapeProperties

/-! The pattern of `Like` finds the value it was made of, whatever wildcards that has in it. -/

set_option autoImplicit false

namespace Andromeda.Database

open Library Text

/-- The bytes of a text. -/
def utf8 (text : List Char) : StdString := text.flatMap String.utf8EncodeChar

/-- The wildcards of SQL, with the escape that queries name. -/
def wildcards : Like.Wildcards Char where
  many := '%'
  one := '_'
  escape := '\\'
  many_ne_escape := by decide
  one_ne_escape := by decide

/-- The pattern that is bound for a value. -/
def likePattern (value : List Char) : List Char :=
  '%' :: (Like.escaped wildcards value ++ ['%'])

private theorem utf8EncodeChar_small {symbol : Char} (small : symbol.toNat ≤ 127) :
    String.utf8EncodeChar symbol = [UInt8.ofNat symbol.toNat] := by
  have same : symbol.val.toNat = symbol.toNat := rfl
  simp [String.utf8EncodeChar, same, small]

private theorem utf8EncodeChar_large {symbol : Char} (large : 127 < symbol.toNat) {byte : UInt8}
    (member : byte ∈ String.utf8EncodeChar symbol) : 128 ≤ byte.toNat := by
  have same : symbol.val.toNat = symbol.toNat := rfl
  have more : ¬ symbol.toNat ≤ 127 := by omega
  simp only [String.utf8EncodeChar, same, if_neg more] at member
  split at member
  · simp only [List.mem_cons, List.not_mem_nil, or_false] at member
    rcases member with rfl | rfl <;> simp only [UInt8.toNat_ofNat'] <;> omega
  · split at member
    · simp only [List.mem_cons, List.not_mem_nil, or_false] at member
      rcases member with rfl | rfl | rfl <;> simp only [UInt8.toNat_ofNat'] <;> omega
    · simp only [List.mem_cons, List.not_mem_nil, or_false] at member
      rcases member with rfl | rfl | rfl | rfl <;> simp only [UInt8.toNat_ofNat'] <;> omega

private theorem byte_eq_iff {symbol : Char} (wanted : Char) (small : symbol.toNat ≤ 127)
    (ascii : wanted.toNat ≤ 127) :
    UInt8.ofNat symbol.toNat = UInt8.ofNat wanted.toNat ↔ symbol = wanted := by
  rw [← UInt8.toNat_inj, UInt8.toNat_ofNat', UInt8.toNat_ofNat', ← Char.toNat_inj]
  omega

private theorem utf8EncodeChar_escape (symbol : Char) :
    (String.utf8EncodeChar symbol).flatMap (escapeOne [95, 37] 92) =
      utf8 (if symbol = '\\' ∨ symbol = '_' ∨ symbol = '%' then ['\\', symbol] else [symbol]) := by
  rcases Nat.lt_or_ge 127 symbol.toNat with large | small
  · have ordinary : ¬ (symbol = '\\' ∨ symbol = '_' ∨ symbol = '%') := by
      rintro (rfl | rfl | rfl) <;> revert large <;> decide
    have kept : ∀ byte ∈ String.utf8EncodeChar symbol, escapeOne [95, 37] 92 byte = [byte] := by
      intro byte member
      have high := utf8EncodeChar_large large member
      have plain : ¬ (byte = 92 ∨ byte ∈ [95, 37]) := by
        intro special
        simp only [List.mem_cons, List.not_mem_nil, or_false] at special
        rcases special with rfl | rfl | rfl <;> revert high <;> decide
      rw [escapeOne, if_neg plain]
    rw [if_neg ordinary, List.flatMap_congr kept]
    simp [utf8]
  · have backslash := byte_eq_iff '\\' small (by decide)
    have underscore := byte_eq_iff '_' small (by decide)
    have percent := byte_eq_iff '%' small (by decide)
    have special : (UInt8.ofNat symbol.toNat = 92 ∨ UInt8.ofNat symbol.toNat ∈ [95, 37]) ↔
        (symbol = '\\' ∨ symbol = '_' ∨ symbol = '%') := by
      rw [← backslash, ← underscore, ← percent, List.mem_cons, List.mem_singleton]
      rfl
    rw [utf8EncodeChar_small small, List.flatMap_singleton, escapeOne]
    simp only [special]
    split
    · have escape : String.utf8EncodeChar '\\' = [92] := by decide
      simp [utf8, escape, utf8EncodeChar_small small]
    · simp [utf8, utf8EncodeChar_small small]

private theorem utf8_append (first second : List Char) :
    utf8 (first ++ second) = utf8 first ++ utf8 second :=
  List.flatMap_append

private theorem escapeWildcards_utf8 (value : List Char) :
    escapeWildcards (utf8 value) = utf8 (Like.escaped wildcards value) := by
  rw [escapeWildcards, escapeAll_eq_flatMap (by decide) (by decide), utf8, utf8, Like.escaped,
    List.flatMap_assoc, List.flatMap_assoc]
  congr 1
  funext symbol
  exact utf8EncodeChar_escape symbol

/-- The value bound for a text is a pattern that matches another one exactly if the text occurs in
it, up to the folding of cases. -/
theorem like_escaped_iff (fold : Char → Char) (value text : List Char) :
    likeValue (utf8 value) false = utf8 (likePattern value) ∧
      (Like.like wildcards fold (likePattern value) text = true ↔
        value.map fold <:+: text.map fold) := by
  constructor
  · have percent : utf8 ['%'] = [37] := by decide
    have shape : likePattern value = ['%'] ++ Like.escaped wildcards value ++ ['%'] := by
      simp [likePattern]
    rw [likeValue, if_neg Bool.false_ne_true, escapeWildcards_utf8, shape, utf8_append,
      utf8_append, percent]
  · exact Like.like_anywhere_iff

end Andromeda.Database
