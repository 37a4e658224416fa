import Mathlib.Data.List.TakeWhile
import Mathlib.Tactic.ByContra
import Andromeda.Database.MixedEquality
import Andromeda.Database.RoundTripProperties

/-! The laws of `operator==` of mixed values hold exactly where no two values meet that it takes for
equal without being so. -/

set_option autoImplicit false

namespace Andromeda.Database.MixedValue

variable {δ : Type} {sqlite : Sqlite δ} {double : ValueType δ} {left right : MixedValue δ}

namespace Content.Alike

variable {first second third : Content δ}

private theorem symm (alike : Content.Alike double first second) :
    Content.Alike double second first := by
  rcases alike with same | ⟨before, after, rfl, rfl, same⟩
  · exact Or.inl same.symm
  · exact Or.inr ⟨after, before, rfl, rfl, double.symm _ _ same⟩

private theorem trans (alike : Content.Alike double first second)
    (next : Content.Alike double second third) : Content.Alike double first third := by
  rcases alike with rfl | ⟨before, after, rfl, rfl, same⟩
  · exact next
  · rcases next with rfl | ⟨middle, last, held, rfl, equal⟩
    · exact Or.inr ⟨before, after, rfl, rfl, same⟩
    · cases held
      exact Or.inr ⟨before, last, rfl, rfl, double.trans _ _ _ same equal⟩

end Content.Alike

private theorem Content.alike_text {first second : StdString} :
    Content.Alike double (.text first) (.text second) ↔ first = second := by
  simp [Content.Alike]

private theorem cStr_of_noNul {bytes : StdString} (noNul : 0 ∉ bytes) : cStr bytes = bytes := by
  unfold cStr
  rw [List.takeWhile_eq_self_iff]
  intro byte member
  simp only [bne_iff_ne, ne_eq]
  rintro rfl
  exact noNul member

/-- Two values whose variants are compared are equal if they have the same content, but for the
confused ones. -/
private theorem equals_iff_alike
    (noNaN : ∀ value, left = .double value → double.equals value value = true)
    (distinct : ¬ Confused left right) :
    equals sqlite double left right = true ↔
      Content.Alike double (left.content sqlite) (right.content sqlite) := by
  cases left with
  | sqlite stored =>
    cases right with
    | sqlite other =>
      have length : stored.blobOf sqlite = other.blobOf sqlite →
          stored.bytes sqlite = other.bytes sqlite := congrArg List.length
      simp only [equals, Bool.and_eq_true, decide_eq_true_eq, content, Content.Alike,
        Content.stored.injEq, reduceCtorEq, false_and, exists_false, or_false]
      exact ⟨fun ⟨⟨storage, _⟩, blob⟩ => ⟨storage, blob⟩,
        fun ⟨storage, blob⟩ => ⟨⟨storage, length blob⟩, blob⟩⟩
    | null => exact absurd trivial distinct
    | _ => exact iff_of_false Bool.false_ne_true (by simp [content, Content.Alike])
  | string bytes =>
    cases right with
    | string other => exact decide_eq_true_iff.trans Content.alike_text.symm
    | chars text => exact decide_eq_true_iff.trans Content.alike_text.symm
    | _ => exact iff_of_false Bool.false_ne_true (by simp [content, Content.Alike])
  | chars text =>
    cases right with
    | string bytes =>
      have cut : text.bytes = cStr bytes ↔ text.bytes = bytes := by
        constructor
        · intro same
          by_contra differ
          exact distinct ⟨same.symm, fun equal => differ equal.symm⟩
        · intro same
          rw [← same, cStr_of_noNul text.noNul]
      exact (decide_eq_true_iff.trans cut).trans Content.alike_text.symm
    | chars other => exact decide_eq_true_iff.trans Content.alike_text.symm
    | _ => exact iff_of_false Bool.false_ne_true (by simp [content, Content.Alike])
  | null =>
    cases right with
    | sqlite stored => exact absurd trivial distinct
    | null => exact iff_of_true rfl (Or.inl rfl)
    | _ => exact iff_of_false Bool.false_ne_true (by simp [content, Content.Alike])
  | int value =>
    cases right with
    | int other => exact decide_eq_true_iff.trans (by simp [content, Content.Alike])
    | _ => exact iff_of_false Bool.false_ne_true (by simp [content, Content.Alike])
  | int64 value =>
    cases right with
    | int64 other => exact decide_eq_true_iff.trans (by simp [content, Content.Alike])
    | _ => exact iff_of_false Bool.false_ne_true (by simp [content, Content.Alike])
  | double value =>
    have reflexive := noNaN value rfl
    cases right with
    | double other =>
      simp only [equals, variant, variantEquals, content, Content.Alike]
      constructor
      · exact fun same => Or.inr ⟨value, other, rfl, rfl, same⟩
      · rintro (same | ⟨first, second, same, equal, alike⟩)
        · cases same
          exact reflexive
        · cases same
          cases equal
          exact alike
    | _ => exact iff_of_false Bool.false_ne_true (by simp [content, Content.Alike])

/-- Whether a content was read from SQLite. -/
def Content.isStored : Content δ → Bool
  | .stored _ _ => true
  | _ => false

private theorem isStored_content (sqlite : Sqlite δ) (value : MixedValue δ) :
    (value.content sqlite).isStored = value.isSqlite := by
  cases value <;> rfl

private theorem isSqlite_of_alike
    (alike : Content.Alike double (left.content sqlite) (right.content sqlite)) :
    left.isSqlite = right.isSqlite := by
  rw [← isStored_content sqlite, ← isStored_content sqlite]
  rcases alike with same | ⟨first, second, same, equal, _⟩
  · rw [same]
  · rw [same, equal]
    rfl

section Memory

variable {ι : Type} [DecidableEq ι] {memory : ι → MixedValue δ}

private theorem operatorEquals_iff_alike {left right : ι}
    (noNaN : ∀ address value, memory address = .double value → double.equals value value = true)
    (distinct : ∀ left right, ¬ Confused (memory left) (memory right)) :
    operatorEquals sqlite double memory left right = true ↔
      Content.Alike double ((memory left).content sqlite) ((memory right).content sqlite) := by
  unfold operatorEquals
  split
  · rename_i same
    subst same
    exact ⟨fun _ => Or.inl rfl, fun _ => rfl⟩
  · exact equals_iff_alike (noNaN left) (distinct left right)

private theorem Laws.distinct (laws : Laws sqlite double memory) (left right : ι) :
    ¬ Confused (memory left) (memory right) := by
  intro confused
  have differ : left ≠ right := by
    rintro rfl
    cases held : memory left <;> simp [Confused, held] at confused
  cases first : memory left <;> cases second : memory right <;>
    simp only [Confused, first, second] at confused
  case sqlite.null stored =>
    have apart := (laws.apart left right (by rw [first]; rfl) (by rw [second]; rfl)).1
    simp [operatorEquals, differ, first, second, equals, variant, variantEquals] at apart
  case null.sqlite stored =>
    have apart := (laws.apart right left (by rw [second]; rfl) (by rw [first]; rfl)).2
    simp [operatorEquals, differ, first, second, equals, variant, variantEquals] at apart
  case chars.string text bytes =>
    obtain ⟨cut, longer⟩ := confused
    apply longer
    apply (laws.text right left bytes text second first).2.mp
    simp [operatorEquals, differ, first, second, equals, variant, variantEquals, cut]

/-- `operator==` keeps its laws over any objects in memory, none of them a NaN, exactly if no value
from SQLite meets a null one, and no C string a string that goes on after its end. -/
theorem operatorEquals_laws_iff (sqlite : Sqlite δ) (double : ValueType δ)
    (memory : ι → MixedValue δ)
    (noNaN : ∀ address value, memory address = .double value → double.equals value value = true) :
    Laws sqlite double memory ↔ ∀ left right, ¬ Confused (memory left) (memory right) := by
  constructor
  · exact fun laws => laws.distinct
  · intro distinct
    have alike (left right : ι) :
        operatorEquals sqlite double memory left right = true ↔
          Content.Alike double ((memory left).content sqlite) ((memory right).content sqlite) :=
      operatorEquals_iff_alike noNaN distinct
    constructor
    · intro left right same
      exact (alike left right).mpr (Or.inl (by rw [same]))
    · intro left right equal
      exact (alike right left).mpr ((alike left right).mp equal).symm
    · intro first second third equal next
      exact (alike first third).mpr
        (((alike first second).mp equal).trans ((alike second third).mp next))
    · intro left right bytes text string chars
      rw [alike, alike, string, chars]
      exact ⟨Content.alike_text, Content.alike_text.trans eq_comm⟩
    · intro left right stored other
      have apart : ∀ {before after : ι}, (memory before).isSqlite ≠ (memory after).isSqlite →
          operatorEquals sqlite double memory before after = false := by
        intro before after differ
        rw [Bool.eq_false_iff, Ne, alike]
        exact fun same => differ (isSqlite_of_alike same)
      exact ⟨apart (by simp [stored, other]), apart (by simp [stored, other])⟩

end Memory

/-- An integer and the string of its digit. -/
theorem operatorEquals_laws_digit :
    Laws Scenario.sqlite (ValueType.ofDecidable 0)
        (fun address : Bool => if address then .int 5 else .string [53]) ↔
      ∀ left right : Bool, ¬ Confused (δ := Int) (if left then .int 5 else .string [53])
        (if right then .int 5 else .string [53]) := by
  apply operatorEquals_laws_iff
  intro address value
  cases address <;> simp

/-- A C string equals a string that goes on after a NUL, which does not equal the C string. -/
theorem chars_equal_cut :
    let memory : Bool → MixedValue Int :=
      fun address => if address then .chars ⟨[97], by decide⟩ else .string [97, 0, 98]
    operatorEquals Scenario.sqlite (ValueType.ofDecidable 0) memory true false = true ∧
      operatorEquals Scenario.sqlite (ValueType.ofDecidable 0) memory false true = false ∧
      ¬ Laws Scenario.sqlite (ValueType.ofDecidable 0) memory := by
  constructor
  · decide
  · constructor
    · decide
    · intro laws
      have swapped := laws.symm true false (by decide)
      revert swapped
      decide

end Andromeda.Database.MixedValue
